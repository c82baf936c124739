import Lunette.Proofs.Json.Unambiguity

/-!
# What is written as JSON is read as the same value

The written form of a value is one of its texts, in ASCII and without controls other than line
feeds, at whatever level it begins and whatever follows it.
-/

namespace Lunette.Json

/-- The characters of written text: line feeds, and ASCII that is no control. -/
def isWritten (c : Char) : Bool :=
  c = '\n' || 0x20 ≤ c.toNat && c.toNat < 0x80

/-- A text of the language that is made of characters of written text. -/
def Plain (L : Language Char) (s : Text) : Prop :=
  s ∈ L ∧ ∀ c ∈ s, isWritten c

theorem Plain.append {L M : Language Char} {s t : Text} (first : Plain L s) (second : Plain M t) :
    Plain (L * M) (s ++ t) :=
  ⟨Language.append_mem_mul first.1 second.1, List.forall_mem_append.mpr ⟨first.2, second.2⟩⟩

theorem plain_mark {c : Char} (written : isWritten c) : Plain (mark c) [c] :=
  ⟨rfl, List.forall_mem_singleton.mpr written⟩

theorem plain_newline (level : Nat) : Plain blanks (newline level) := by
  have member : ∀ c ∈ newline level, c = '\n' ∨ c = ' ' := by
    intro c inLine
    rcases List.mem_cons.mp inLine with isNewline | isSpace
    · exact Or.inl isNewline
    · exact Or.inr (List.eq_of_mem_replicate isSpace)
  constructor
  · intro c inLine
    rcases member c inLine with rfl | rfl <;> rfl
  · intro c inLine
    rcases member c inLine with rfl | rfl <;> rfl

theorem plain_nil : Plain blanks [] :=
  ⟨nofun, nofun⟩

theorem plain_space : Plain blanks [' '] := by
  constructor <;> exact List.forall_mem_singleton.mpr rfl

/-! ## Integers -/

theorem eq_zero_of_toDigits {n : Nat} (same : Nat.toDigits 10 n = ['0']) : n = 0 := by
  have value := Nat.ofDigitChars_ten_toDigits (n := n)
  rw [same] at value
  exact value.symm

/-- Other digits have no zero in front. -/
theorem toDigits_of_head? {n : Nat} (zero : (Nat.toDigits 10 n).head? = some '0') :
    Nat.toDigits 10 n = ['0'] := by
  induction n using Nat.strongRecOn with
  | ind n inductionHypothesis =>
      rw [Nat.toDigits_eq_if (by decide)] at zero ⊢
      split at zero
      · rename_i small
        rw [if_pos small]
        exact congrArg (· :: []) (Option.some.inj zero)
      · rename_i large
        rw [List.head?_append_of_ne_nil _ Nat.toDigits_ne_nil] at zero
        have noFront := eq_zero_of_toDigits (inductionHypothesis (n / 10) (by omega) zero)
        omega

theorem plain_ofNat (n : Nat) : Plain (naturals n) (Text.ofNat n) := by
  have isDigit : ∀ c ∈ Text.ofNat n, c.isDigit := fun c member =>
    Nat.isDigit_of_mem_toDigits (by decide) (by decide) member
  refine ⟨⟨Nat.toDigits_ne_nil, isDigit, toDigits_of_head?, Nat.ofDigitChars_ten_toDigits⟩, ?_⟩
  intro c member
  have bounds := isDigit c member
  rw [Char.isDigit_iff_toNat] at bounds
  have zero : '0'.toNat = 0x30 := rfl
  have nine : '9'.toNat = 0x39 := rfl
  have noControl : 0x20 ≤ c.toNat := by omega
  have below : c.toNat < 0x80 := by omega
  simp [isWritten, noControl, below]

theorem plain_ofInt (value : Int) : Plain (integers value) (Text.ofInt value) := by
  cases value with
  | ofNat n => exact ⟨⟨n, Or.inl ⟨rfl, (plain_ofNat n).1⟩⟩, (plain_ofNat n).2⟩
  | negSucc n =>
      have negative := (plain_mark (c := '-') rfl).append (plain_ofNat (n + 1))
      exact ⟨⟨n + 1, Or.inr ⟨rfl, negative.1⟩⟩, negative.2⟩

/-! ## Text -/

theorem plain_unitEscape {unit : Nat} (fits : unit < 0x10000) :
    Plain (unitForms unit) (unitEscape unit) := by
  have digits : ∀ digit < 16, isWritten digit.digitChar := by decide
  refine ⟨⟨_, rfl, Text.length_hex (by decide) fits, Text.ofHex?_hex 4 unit⟩, ?_⟩
  refine List.forall_mem_cons.mpr ⟨rfl, List.forall_mem_cons.mpr ⟨rfl, ?_⟩⟩
  intro c member
  rcases Text.exists_digit_of_mem_hex member with ⟨digit, small, rfl⟩
  exact digits digit small

theorem plain_short {letter c : Char} (listed : (letter, c) ∈ shortEscapes) :
    Plain (charForms c) [Text.backslash, letter] := by
  have all : ∀ escape ∈ shortEscapes, isWritten escape.1 := by decide
  refine ⟨CharForm.short listed, ?_⟩
  exact List.forall_mem_cons.mpr ⟨rfl, List.forall_mem_singleton.mpr (all _ listed)⟩

theorem plain_units {c : Char} {s : Text} (plain : Plain ((units c).map unitForms).prod s) :
    Plain (charForms c) s :=
  ⟨CharForm.escaped plain.1, plain.2⟩

theorem plain_escapeChar (c : Char) : Plain (charForms c) (escapeChar c) := by
  have cases := Text.toNat_cases c
  unfold escapeChar
  split_ifs with isMark isNewline isReturn isTab isBackspace isFormFeed
  · rcases Bool.or_eq_true_iff.mp isMark with isQuote | isBackslash
    · rw [of_decide_eq_true isQuote]
      exact plain_short (by decide)
    · rw [of_decide_eq_true isBackslash]
      exact plain_short (by decide)
  · exact plain_short (isNewline ▸ by decide)
  · exact plain_short (isReturn ▸ by decide)
  · exact plain_short (isTab ▸ by decide)
  · exact plain_short (isBackspace ▸ by decide)
  · exact plain_short (isFormFeed ▸ by decide)
  · have noMark : c ≠ Text.doubleQuote ∧ c ≠ Text.backslash := by simpa using isMark
    dsimp only
    split_ifs with isPlain isBasic
    · refine ⟨CharForm.plain isPlain.1 noMark.1 noMark.2, List.forall_mem_singleton.mpr ?_⟩
      have below : c.toNat < 0x80 := by omega
      simp [isWritten, isPlain.1, below]
    · apply plain_units
      rw [prod_units_of_lt isBasic]
      exact plain_unitEscape isBasic
    · apply plain_units
      rw [prod_units_of_le (Nat.not_lt.mp isBasic)]
      exact (plain_unitEscape (by omega)).append (plain_unitEscape (by omega))

theorem plain_quoted (s : Text) : Plain (quotations s) (quoted s) := by
  have body : ∀ s : Text, Plain (s.map charForms).prod (s.flatMap escapeChar) := by
    intro s
    induction s with
    | nil => exact ⟨rfl, nofun⟩
    | cons c s inductionHypothesis =>
        rw [List.map_cons, List.prod_cons, List.flatMap_cons]
        exact (plain_escapeChar c).append inductionHypothesis
  have quote := plain_mark (c := Text.doubleQuote) rfl
  exact quote.append ((body s).append quote)

/-! ## Values -/

theorem plain_fieldForm (name : Text) {form : Language Char} {s : Text} (plain : Plain form s) :
    Plain (fieldForm name form) (quoted name ++ ':' :: ' ' :: s) :=
  (plain_quoted name).append
    (plain_nil.append ((plain_mark (c := ':') rfl).append (plain_space.append plain)))

-- The blanks in front of a closing bracket belong to what stands behind the last item.
mutual

/-- The written form of a value is one of its texts, in front of whatever follows it. -/
theorem exists_written (level : Nat) : ∀ value : Json,
    ∃ s, Plain value.forms s ∧ ∀ after, value.written level after = s ++ after
  | .null => ⟨_, ⟨rfl, List.all_eq_true.mp rfl⟩, fun _ => rfl⟩
  | .integer value => ⟨_, plain_ofInt value, fun _ => rfl⟩
  | .text value => ⟨_, plain_quoted value, fun _ => rfl⟩
  | .list [] =>
      ⟨_, (plain_mark rfl).append (plain_nil.append (plain_mark rfl)), fun _ => rfl⟩
  | .list (item :: items) => by
      obtain ⟨front, plain, front_eq⟩ := exists_written (level + 1) item
      obtain ⟨back, plainBack, back_eq⟩ := exists_writtenItems (level + 1) level items
      have between := (plain_newline (level + 1)).append (plain.append plainBack)
      refine ⟨_, (plain_mark rfl).append (between.append (plain_mark rfl)), fun after => ?_⟩
      rw [written, front_eq, back_eq]
      simp
  | .object [] =>
      ⟨_, (plain_mark rfl).append (plain_nil.append (plain_mark rfl)), fun _ => rfl⟩
  | .object ((name, value) :: fields) => by
      obtain ⟨front, plain, front_eq⟩ := exists_written (level + 1) value
      obtain ⟨back, plainBack, back_eq⟩ := exists_writtenFields (level + 1) level fields
      have field := plain_fieldForm name plain
      have between := (plain_newline (level + 1)).append (field.append plainBack)
      refine ⟨_, (plain_mark rfl).append (between.append (plain_mark rfl)), fun after => ?_⟩
      rw [written, front_eq, back_eq]
      simp

theorem exists_writtenItems (level outer : Nat) : ∀ items : List Json,
    ∃ s, Plain (behind (formsAll items)) s ∧ ∀ after,
      writtenItems level items (newline outer ++ after) = s ++ after
  | [] => ⟨_, plain_newline outer, fun _ => rfl⟩
  | item :: items => by
      obtain ⟨front, plain, front_eq⟩ := exists_written level item
      obtain ⟨back, plainBack, back_eq⟩ := exists_writtenItems level outer items
      have comma := plain_mark (c := ',') rfl
      refine ⟨_, plain_nil.append
        (comma.append ((plain_newline level).append (plain.append plainBack))), fun after => ?_⟩
      rw [writtenItems, back_eq, front_eq]
      simp

theorem exists_writtenFields (level outer : Nat) : ∀ fields : List (Text × Json),
    ∃ s, Plain (behind (fieldForms fields)) s ∧ ∀ after,
      writtenFields level fields (newline outer ++ after) = s ++ after
  | [] => ⟨_, plain_newline outer, fun _ => rfl⟩
  | (name, value) :: fields => by
      obtain ⟨front, plain, front_eq⟩ := exists_written level value
      obtain ⟨back, plainBack, back_eq⟩ := exists_writtenFields level outer fields
      have comma := plain_mark (c := ',') rfl
      have field := plain_fieldForm name plain
      refine ⟨_, plain_nil.append
        (comma.append ((plain_newline level).append (field.append plainBack))), fun after => ?_⟩
      rw [writtenFields, back_eq, front_eq]
      simp

end

theorem plain_toText (value : Json) : Plain value.texts value.toText := by
  obtain ⟨s, plain, written_eq⟩ := exists_written 0 value
  have padded := plain_nil.append (plain.append plain_nil)
  rw [toText, written_eq]
  exact padded

/-- The text that is written for a value stands for it, and for no other one. -/
theorem toText_mem_texts_iff {value other : Json} :
    value.toText ∈ other.texts ↔ other = value := by
  constructor
  · exact fun stands => eq_of_mem_texts stands (plain_toText value).1
  · rintro rfl
    exact (plain_toText other).1

theorem toText_injective : Function.Injective toText := by
  intro first second same
  have stands : second.toText ∈ second.texts := toText_mem_texts_iff.mpr rfl
  rw [← same] at stands
  exact (toText_mem_texts_iff.mp stands).symm

end Lunette.Json
