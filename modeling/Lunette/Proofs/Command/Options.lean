import Lunette.Command.Options

/-!
# The form that options choose

Every option that is obeyed leaves a form of the tree that there is, or, where two dashes stand
for the form, the empty list of forms, which is none.
-/

namespace Lunette.Command

/-- The form of the tree is one that there is, or the empty list of forms. -/
def Options.Formed (options : Options) : Prop :=
  options.format ∈ formats ∨ options.format = "[]".toList

variable {options after : Options}

theorem formed_of_chooseFormat {value format : Text} (chooseEq : chooseFormat value = .ok format) :
    format ∈ formats ∨ format = "[]".toList := by
  unfold chooseFormat at chooseEq
  split at chooseEq
  · cases chooseEq
    exact .inr rfl
  · split at chooseEq
    · rename_i isListed
      cases chooseEq
      exact .inl (List.contains_iff_mem.mp isListed)
    · cases chooseEq

namespace Options.Formed

theorem obey (formed : options.Formed) {order : Flag × Option Text}
    (obeyEq : options.obey order = .ok after) : after.Formed := by
  obtain ⟨flag, value⟩ := order
  cases flag with
  | help | version => cases obeyEq
  | string | tokens | verbose =>
      cases obeyEq
      exact formed
  | format =>
      simp only [Options.obey] at obeyEq
      split at obeyEq
      · rename_i chooseEq
        cases obeyEq
        exact formed_of_chooseFormat chooseEq
      · cases obeyEq

theorem foldlM (formed : options.Formed) {orders : List (Flag × Option Text)}
    (foldEq : orders.foldlM Options.obey options = .ok after) : after.Formed := by
  induction orders generalizing options with
  | nil =>
      cases foldEq
      exact formed
  | cons order orders inductionHypothesis =>
      rw [List.foldlM_cons] at foldEq
      cases obeyEq : options.obey order with
      | error stop =>
          rw [obeyEq] at foldEq
          cases foldEq
      | ok between =>
          rw [obeyEq] at foldEq
          exact inductionHypothesis (formed.obey obeyEq) foldEq

theorem readItems {items : List Item} {reading result : Reading}
    (formed : reading.options.Formed) (readEq : reading.readItems items = .ok result) :
    result.options.Formed := by
  revert readEq
  fun_induction Reading.readItems reading items with
  | case1 reading =>
      intro readEq
      cases readEq
      exact formed
  | case2 | case3 | case4 | case5 | case6 | case7 | case8 | case9 | case10 =>
      rename_i inductionHypothesis
      exact inductionHypothesis formed
  | case11 => exact nofun
  | case12 reading flag spelling value rest flags others gatherEq inductionHypothesis =>
      intro readEq
      cases foldEq : flags.foldlM Options.obey reading.options with
      | error stop =>
          rw [foldEq] at readEq
          cases readEq
      | ok options =>
          rw [foldEq] at readEq
          exact inductionHypothesis options (formed.foldlM foldEq) readEq

end Options.Formed

/-- Arguments that are accepted choose a form that there is, or the empty list of forms. -/
theorem Options.formed_of_ofArguments {arguments : List Text}
    (accepted : Options.ofArguments arguments = .ok options) : options.Formed := by
  unfold Options.ofArguments at accepted
  cases itemsEq : Item.ofArguments arguments with
  | error error =>
      rw [itemsEq] at accepted
      cases accepted
  | ok items =>
      rw [itemsEq] at accepted
      change ({} : Reading).readItems items >>= _ = _ at accepted
      cases readEq : ({} : Reading).readItems items with
      | error stop =>
          rw [readEq] at accepted
          cases accepted
      | ok reading =>
          rw [readEq] at accepted
          change ite _ _ _ = _ at accepted
          split at accepted
          · cases accepted
            exact Options.Formed.readItems (.inl (by decide)) readEq
          · cases accepted

end Lunette.Command
