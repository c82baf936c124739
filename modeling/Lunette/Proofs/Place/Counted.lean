import Lunette.Place
import Mathlib.Data.List.DropRight

/-!
# Places are counted in the text

The place of an index says how many characters stand in front of the index, how many line
feeds, and how many characters behind the last line feed.  Places that move forward one
character at a time are the counted ones.

A text that stands behind another one has its places moved: offsets and lines go on from the
end of the other text, and columns do so on the first line only.
-/

namespace Lunette

namespace Text

/-- The part of a text behind its last line feed, which is all of it if it has none. -/
def lastLine (s : Text) : Text :=
  s.rtakeWhile (· != '\n')

/-- A line feed leaves nothing behind itself, and any other character goes on a line. -/
theorem lastLine_concat (s : Text) (c : Char) :
    lastLine (s ++ [c]) = if c = '\n' then [] else s.lastLine ++ [c] := by
  by_cases isFeed : c = '\n'
  · simp [lastLine, isFeed]
  · simp [lastLine, isFeed]

theorem lastLine_of_notMem {s : Text} (oneLine : '\n' ∉ s) : s.lastLine = s := by
  apply List.rtakeWhile_eq_self_iff.mpr
  intro c member
  exact bne_iff_ne.mpr fun isFeed => oneLine (isFeed ▸ member)

end Text

namespace Place

/-- The place of an index of the text, by counting. -/
def ofIndex (s : Text) (i : Nat) : Place where
  offset := i
  line := 1 + (s.take i).count '\n'
  column := 1 + (Text.lastLine (s.take i)).length

/-- The place in a text that stands behind another one. -/
def behind (s : Text) (place : Place) : Place where
  offset := place.offset + s.length
  line := place.line + s.count '\n'
  column := if place.line = 1 then place.column + s.lastLine.length else place.column

/-! ## Moving forward is counting -/

theorem past_append (place : Place) (s t : Text) :
    place.past (s ++ t) = (place.past s).past t :=
  List.foldl_append

theorem past_concat (place : Place) (s : Text) (c : Char) :
    place.past (s ++ [c]) = (place.past s).after c :=
  past_append place s [c]

/-- Moving forward past a text is counting in it, wherever it begins. -/
theorem past_eq (place : Place) (s : Text) :
    place.past s =
      ⟨place.offset + s.length, place.line + s.count '\n',
        if '\n' ∈ s then 1 + s.lastLine.length else place.column + s.length⟩ := by
  induction s using List.reverseRecOn with
  | nil => simp [past]
  | append_singleton s c inductionHypothesis =>
      rw [past_concat, inductionHypothesis, after]
      by_cases isFeed : c = '\n'
      · simp [isFeed, Text.lastLine_concat]
        omega
      · by_cases hasFeed : '\n' ∈ s
        · simp [isFeed, hasFeed, Ne.symm isFeed, Text.lastLine_concat]
          omega
        · simp [isFeed, hasFeed, Ne.symm isFeed]
          omega

/-- Moving forward past a text leads to the place of its end. -/
theorem start_past (s : Text) : start.past s = ofIndex s s.length := by
  by_cases hasFeed : '\n' ∈ s
  · simp [past_eq, ofIndex, start, hasFeed]
  · simp [past_eq, ofIndex, start, hasFeed, Text.lastLine_of_notMem hasFeed]

/-- The place of an index is reached by moving past what stands in front of it. -/
theorem ofIndex_length_append (front back : Text) :
    ofIndex (front ++ back) front.length = start.past front := by
  rw [start_past, ofIndex, ofIndex, List.take_left, List.take_length]

/-- Moving past the next part of a text leads from one index to another. -/
theorem past_ofIndex (front part back : Text) :
    (ofIndex (front ++ (part ++ back)) front.length).past part =
      ofIndex (front ++ (part ++ back)) (front ++ part).length := by
  rw [ofIndex_length_append, ← past_append, ← List.append_assoc, ofIndex_length_append]

/-! ## Behind another text -/

theorem one_le_line_after {place : Place} (c : Char) (inText : 1 ≤ place.line) :
    1 ≤ (place.after c).line := by
  unfold after
  split
  · exact Int.le_add_one inText
  · exact inText

theorem one_le_line_past {place : Place} (t : Text) (inText : 1 ≤ place.line) :
    1 ≤ (place.past t).line := by
  induction t generalizing place with
  | nil => exact inText
  | cons c t inductionHypothesis => exact inductionHypothesis (one_le_line_after c inText)

/-- Only the first line goes on from another text, so moving forward leaves it behind. -/
theorem behind_after {place : Place} (s : Text) (c : Char) (inText : 1 ≤ place.line) :
    (place.after c).behind s = (place.behind s).after c := by
  by_cases isFeed : c = '\n'
  · have notFirst : place.line + 1 ≠ 1 := by omega
    simp only [after, behind, isFeed, if_true, notFirst, if_false, mk.injEq, and_true]
    omega
  · simp only [after, behind, isFeed, if_false, mk.injEq, true_and]
    split <;> omega

theorem behind_past {place : Place} (s t : Text) (inText : 1 ≤ place.line) :
    (place.past t).behind s = (place.behind s).past t := by
  induction t generalizing place with
  | nil => rfl
  | cons c t inductionHypothesis =>
      change ((place.after c).past t).behind s = ((place.behind s).after c).past t
      rw [inductionHypothesis (one_le_line_after c inText), behind_after s c inText]

/-- What stands behind a text begins at the end of it. -/
theorem start_behind (s : Text) : start.behind s = start.past s := by
  rw [start_past]
  simp [ofIndex, behind, start]

end Place

end Lunette
