import Lunette.Text
import Mathlib.Data.List.Basic

/-!
# Lines

A text has lines where it is cut at every character that ends one, of which the line feed is
only the first.  A carriage return with a line feed behind it ends one line, and no line starts
behind the last end.  Lines that are joined by line feeds are found again, unless one is empty
or has such a character in it.
-/

namespace Lunette.Text

/-- The characters that end a line. -/
def lineBreaks : Text :=
  ['\n', '\r', '\x0b', '\x0c', '\x1c', '\x1d', '\x1e', '\u0085', '\u2028', '\u2029']

/-- The lines of a text, the first of which has begun with the given characters. -/
def linesFrom (begun : Text) : Text → List Text
  | [] => if begun = [] then [] else [begun]
  | '\r' :: '\n' :: rest => begun :: linesFrom [] rest
  | c :: rest =>
      if c ∈ lineBreaks then begun :: linesFrom [] rest else linesFrom (begun ++ [c]) rest

/-- The lines of a text. -/
def lines (s : Text) : List Text :=
  linesFrom [] s

variable {begun front : Text}

theorem linesFrom_of_notMem {c : Char} (notBreak : c ∉ lineBreaks) (s : Text) :
    linesFrom begun (c :: s) = linesFrom (begun ++ [c]) s := by
  rw [linesFrom, if_neg notBreak]
  rintro rest rfl
  exact absurd (by decide) notBreak

theorem linesFrom_newline (s : Text) : linesFrom begun ('\n' :: s) = begun :: linesFrom [] s := by
  rw [linesFrom, if_pos (by decide)]
  nofun

/-- What has no end of a line in it goes on with the line. -/
theorem linesFrom_append (whole : ∀ c ∈ lineBreaks, c ∉ front) (s : Text) :
    linesFrom begun (front ++ s) = linesFrom (begun ++ front) s := by
  induction front generalizing begun with
  | nil => rw [List.nil_append, List.append_nil]
  | cons c front inductionHypothesis =>
      have notBreak : c ∉ lineBreaks := fun isBreak => whole c isBreak List.mem_cons_self
      have restWhole : ∀ c ∈ lineBreaks, c ∉ front := fun c isBreak inFront =>
        whole c isBreak (List.mem_cons_of_mem _ inFront)
      rw [List.cons_append, linesFrom_of_notMem notBreak, inductionHypothesis restWhole,
        List.append_assoc, List.singleton_append]

/-- Lines are found again in the text that joins them. -/
theorem lines_joinLines {parts : List Text} (filled : [] ∉ parts)
    (whole : ∀ part ∈ parts, ∀ c ∈ lineBreaks, c ∉ part) : lines (joinLines parts) = parts := by
  induction parts with
  | nil => rfl
  | cons part parts inductionHypothesis =>
      rw [List.mem_cons, not_or] at filled
      rw [List.forall_mem_cons] at whole
      cases parts with
      | nil =>
          have goesOn := @linesFrom_append [] part whole.1 []
          rw [List.append_nil, List.nil_append, linesFrom, if_neg (Ne.symm filled.1)] at goesOn
          rwa [joinLines, List.intercalate_singleton]
      | cons next parts =>
          have restEq := inductionHypothesis filled.2 whole.2
          rw [joinLines, List.intercalate_cons_cons, List.append_assoc, lines,
            linesFrom_append whole.1, List.nil_append, List.singleton_append, linesFrom_newline]
          exact congrArg (part :: ·) restEq

example : lines "a\r\n\u2028b\n\rc\n".toList = [['a'], [], ['b'], [], ['c']] := by decide

end Lunette.Text
