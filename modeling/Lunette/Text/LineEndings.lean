import Lunette.Text

/-!
# Line endings

Text that comes from a file or from standard input has one kind of line ending: a carriage
return with a line feed, and a carriage return alone, both become a line feed.
-/

namespace Lunette.Text

/-- The text with every line ended by a line feed. -/
def unifyLineEndings : Text → Text
  | '\r' :: '\n' :: rest => '\n' :: unifyLineEndings rest
  | c :: rest => (if c = '\r' then '\n' else c) :: unifyLineEndings rest
  | [] => []

/-- A text without a carriage return stays as it is. -/
theorem unifyLineEndings_of_notMem {s : Text} (noReturn : '\r' ∉ s) : unifyLineEndings s = s := by
  induction s using unifyLineEndings.induct with
  | case1 rest inductionHypothesis => exact absurd (List.mem_cons_self ..) noReturn
  | case2 c rest notBoth inductionHypothesis =>
      rw [List.mem_cons, not_or] at noReturn
      rw [unifyLineEndings, if_neg (Ne.symm noReturn.1), inductionHypothesis noReturn.2]
      exact notBoth
  | case3 => rfl

end Lunette.Text
