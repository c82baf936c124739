import Lunette.Proofs.Json.Grammar
import Lunette.Proofs.Text.Quoted
import Lunette.Proofs.Text.Stretch

/-!
# A JSON text stands for one value

Two texts with something behind each are told apart from left to right: a language tells its
texts if it is known which characters may follow, and so do languages one behind the other.
The values of a text are then told by recursion, list and object alike.
-/

namespace Lunette.Json

/-! ## What a text begins with -/

/-- The text is empty or begins with a character of the class. -/
def Leads (p : Char → Prop) (s : Text) : Prop :=
  ∀ c ∈ s.head?, p c

/-- Every text of the language begins with a character of the class. -/
def Opens (p : Char → Prop) (L : Language Char) : Prop :=
  ∀ s ∈ L, ∃ c rest, s = c :: rest ∧ p c

/-- Every text of the language, in front of one that begins with a character of the first
class, begins with one of the second. -/
def GoesOn (p q : Char → Prop) (L : Language Char) : Prop :=
  ∀ s ∈ L, ∀ r, Leads p r → Leads q (s ++ r)

/-- The characters that do not go on with a number. -/
abbrev NotDigit (c : Char) : Prop := c.isDigit = false

/-- The characters that do not go on with blanks. -/
abbrev NotBlank (c : Char) : Prop := isBlank c = false

variable {p q : Char → Prop} {L L' M M' : Language Char} {P Q : Prop}

theorem Leads.mono {s : Text} (leads : Leads p s) (le : ∀ c, p c → q c) : Leads q s :=
  fun c first => le c (leads c first)

theorem leads_cons {c : Char} {s : Text} : Leads p (c :: s) ↔ p c := by
  simp [Leads]

theorem mem_mark {c : Char} {s : Text} : s ∈ mark c ↔ s = [c] :=
  Iff.rfl

theorem opens_mark (c : Char) : Opens (· = c) (mark c) := by
  intro s member
  exact ⟨c, [], mem_mark.mp member, rfl⟩

theorem Opens.mul (opens : Opens p L) : Opens p (L * M) := by
  intro s member
  rcases Language.mem_mul.mp member with ⟨front, inFront, back, -, rfl⟩
  rcases opens front inFront with ⟨c, rest, rfl, isLead⟩
  exact ⟨c, rest ++ back, rfl, isLead⟩

theorem Opens.mono (opens : Opens p L) (le : ∀ c, p c → q c) : Opens q L := by
  intro s member
  rcases opens s member with ⟨c, rest, rfl, isLead⟩
  exact ⟨c, rest, rfl, le c isLead⟩

theorem Opens.goesOn (opens : Opens q L) : GoesOn p q L := by
  intro s member r _
  rcases opens s member with ⟨c, rest, rfl, isLead⟩
  exact leads_cons.mpr isLead

theorem goesOn_blanks (le : ∀ c, p c → q c) (blankLe : ∀ c, isBlank c → q c) :
    GoesOn p q blanks := by
  intro s member r leads
  cases s with
  | nil => exact leads.mono le
  | cons c s => exact leads_cons.mpr (blankLe c (member c List.mem_cons_self))

theorem GoesOn.mul (first : GoesOn q q L) (second : GoesOn p q M) : GoesOn p q (L * M) := by
  intro s member r leads
  rcases Language.mem_mul.mp member with ⟨front, inFront, back, inBack, rfl⟩
  rw [List.append_assoc]
  exact first front inFront _ (second back inBack r leads)

/-! ## Telling texts apart -/

/-- Where a text of one language and a text of the other, with what may follow them, make the
same text, the property holds and the same is left behind. -/
def Tells (p : Char → Prop) (L L' : Language Char) (P : Prop) : Prop :=
  ∀ ⦃s s' r r' : Text⦄, s ∈ L → s' ∈ L' → Leads p r → Leads p r' → s ++ r = s' ++ r' →
    P ∧ r = r'

theorem Tells.imp (tells : Tells p L L' P) (imp : P → Q) : Tells p L L' Q := by
  intro s s' r r' member member' leads leads' same
  rcases tells member member' leads leads' same with ⟨holds, restEq⟩
  exact ⟨imp holds, restEq⟩

theorem Tells.mono (tells : Tells q L L' P) (le : ∀ c, p c → q c) : Tells p L L' P :=
  fun _ _ _ _ member member' leads leads' same =>
    tells member member' (leads.mono le) (leads'.mono le) same

theorem Tells.symm (tells : Tells p L L' P) : Tells p L' L P := by
  intro s s' r r' member member' leads leads' same
  rcases tells member' member leads' leads same.symm with ⟨holds, restEq⟩
  exact ⟨holds, restEq.symm⟩

/-- What comes first is told before what comes behind it. -/
theorem Tells.mul (first : Tells q L L' P) (goesOn : GoesOn p q M) (goesOn' : GoesOn p q M')
    (second : P → Tells p M M' Q) : Tells p (L * M) (L' * M') (P ∧ Q) := by
  intro s s' r r' member member' leads leads' same
  rcases Language.mem_mul.mp member with ⟨front, inFront, back, inBack, rfl⟩
  rcases Language.mem_mul.mp member' with ⟨front', inFront', back', inBack', rfl⟩
  rw [List.append_assoc, List.append_assoc] at same
  rcases first inFront inFront' (goesOn back inBack r leads) (goesOn' back' inBack' r' leads')
    same with ⟨holds, behindEq⟩
  rcases second holds inBack inBack' leads leads' behindEq with ⟨holdsBehind, restEq⟩
  exact ⟨⟨holds, holdsBehind⟩, restEq⟩

/-- Languages that nothing need follow are told one behind the other. -/
theorem Tells.mul_of_any (first : Tells (fun _ => True) L L' P) (second : P → Tells p M M' Q) :
    Tells p (L * M) (L' * M') (P ∧ Q) :=
  first.mul (fun _ _ _ _ _ _ => trivial) (fun _ _ _ _ _ _ => trivial) second

theorem tells_word (word : Text) : Tells p {word} {word} True := by
  intro s s' r r' member member' _ _ same
  cases member
  cases member'
  exact ⟨trivial, List.append_cancel_left same⟩

theorem tells_mark (c : Char) : Tells p (mark c) (mark c) True :=
  tells_word [c]

/-- Languages that begin differently are never at the same place. -/
theorem tells_of_opens (opens : Opens p L) (opens' : Opens q L')
    (apart : ∀ c, p c → ¬ q c) {f : Char → Prop} : Tells f L L' P := by
  intro s s' r r' member member' _ _ same
  rcases opens s member with ⟨c, rest, rfl, isLead⟩
  rcases opens' s' member' with ⟨c', rest', rfl, isLead'⟩
  cases (List.cons.inj same).1
  exact absurd isLead' (apart c isLead)

/-- What may follow an end does not begin what goes on. -/
theorem tells_one (opens : Opens q L) (apart : ∀ c, p c → ¬ q c) : Tells p 1 L P := by
  intro s s' r r' member member' leads _ same
  cases Language.mem_one s |>.mp member
  rcases opens s' member' with ⟨c, rest, rfl, isLead⟩
  change r = _ at same
  rw [same] at leads
  exact absurd isLead (apart c (leads_cons.mp leads))

theorem tells_blanks : Tells NotBlank blanks blanks True := by
  intro s s' r r' member member' leads leads' same
  exact ⟨trivial, (Text.eq_of_append_of_all member member' leads leads' same).2⟩

/-! ## Integers are told -/

theorem tells_naturals {n n' : Nat} :
    Tells NotDigit (naturals n) (naturals n') (n = n') := by
  intro s s' r r' ⟨_, digits, _, value⟩ ⟨_, digits', _, value'⟩ leads leads' same
  rcases Text.eq_of_append_of_all digits digits' leads leads' same with ⟨rfl, restEq⟩
  exact ⟨value.symm.trans value', restEq⟩

theorem opens_naturals (n : Nat) : Opens (fun c => c.isDigit) (naturals n) := by
  intro s ⟨notEmpty, digits, _⟩
  rcases List.exists_cons_of_ne_nil notEmpty with ⟨c, rest, rfl⟩
  exact ⟨c, rest, rfl, digits c List.mem_cons_self⟩

theorem opens_integers (value : Int) :
    Opens (fun c => c = '-' ∨ c.isDigit) (integers value) := by
  intro s ⟨n, form⟩
  rcases form with ⟨-, inNaturals⟩ | ⟨-, inNegative⟩
  · exact (opens_naturals n).mono (fun _ => Or.inr) s inNaturals
  · exact ((opens_mark '-').mul.mono fun _ => Or.inl) s inNegative

theorem tells_integers {value value' : Int} :
    Tells NotDigit (integers value) (integers value') (value = value') := by
  have apart : ∀ c : Char, c.isDigit → ¬ c = '-' := by
    rintro c isDigit rfl
    exact absurd isDigit (by decide)
  intro s s' r r' ⟨n, form⟩ ⟨n', form'⟩ leads leads' same
  rcases form with ⟨valueEq, inForm⟩ | ⟨valueEq, inForm⟩ <;>
    rcases form' with ⟨valueEq', inForm'⟩ | ⟨valueEq', inForm'⟩
  · exact (tells_naturals.imp (by omega)) inForm inForm' leads leads' same
  · exact tells_of_opens (opens_naturals n) (opens_mark '-').mul apart inForm inForm' leads
      leads' same
  · exact (tells_of_opens (opens_naturals n') (opens_mark '-').mul apart).symm inForm inForm'
      leads leads' same
  · have tells := (tells_mark '-').mul_of_any fun _ => @tells_naturals n n'
    exact (tells.imp (by omega)) inForm inForm' leads leads' same

/-! ## Characters are told -/

theorem tells_unitForms {unit unit' : Nat} :
    Tells p (unitForms unit) (unitForms unit') (unit = unit') := by
  intro s s' r r' ⟨digits, shape, length, value⟩ ⟨digits', shape', length', value'⟩ _ _ same
  subst shape shape'
  have behindEq := (List.cons.inj (List.cons.inj same).2).2
  rcases List.append_inj behindEq (length.trans length'.symm) with ⟨rfl, restEq⟩
  exact ⟨Option.some.inj (value.symm.trans value'), restEq⟩

theorem prod_units_of_lt {c : Char} (isBasic : c.toNat < 0x10000) :
    ((units c).map unitForms).prod = unitForms c.toNat := by
  rw [units, if_pos isBasic, List.map_singleton, List.prod_singleton]

theorem prod_units_of_le {c : Char} (notBasic : 0x10000 ≤ c.toNat) :
    ((units c).map unitForms).prod =
      unitForms (0xd800 + (c.toNat - 0x10000) / 0x400) *
        unitForms (0xdc00 + (c.toNat - 0x10000) % 0x400) := by
  rw [units, if_neg (Nat.not_lt.mpr notBasic), List.map_cons, List.map_singleton,
    List.prod_pair]

/-- No character is the first half of a pair. -/
theorem tells_units_of_lt {c d : Char} (isBasic : c.toNat < 0x10000)
    (notBasic : 0x10000 ≤ d.toNat) :
    Tells p ((units c).map unitForms).prod ((units d).map unitForms).prod (c = d) := by
  have cases := Text.toNat_cases c
  have cases' := Text.toNat_cases d
  rw [prod_units_of_lt isBasic, prod_units_of_le notBasic, ← mul_one (unitForms c.toNat)]
  refine (tells_unitForms.mul_of_any (Q := False) fun unitEq => ?_).imp (fun both => both.2.elim)
  exact absurd unitEq (by omega)

/-- The units of a character do not go on as those of another. -/
theorem tells_units {c d : Char} :
    Tells p ((units c).map unitForms).prod ((units d).map unitForms).prod (c = d) := by
  rcases Nat.lt_or_ge c.toNat 0x10000 with isBasic | notBasic <;>
    rcases Nat.lt_or_ge d.toNat 0x10000 with isBasic' | notBasic'
  · rw [prod_units_of_lt isBasic, prod_units_of_lt isBasic']
    exact tells_unitForms.imp Char.toNat_inj.mp
  · exact tells_units_of_lt isBasic notBasic'
  · exact (tells_units_of_lt isBasic' notBasic).symm.imp Eq.symm
  · rw [prod_units_of_le notBasic, prod_units_of_le notBasic']
    refine (tells_unitForms.mul_of_any fun _ => tells_unitForms).imp ?_
    rintro ⟨highEq, lowEq⟩
    exact Char.toNat_inj.mp (by omega)

theorem opens_units (c : Char) :
    Opens (· = Text.backslash) ((units c).map unitForms).prod := by
  have opens : ∀ unit, Opens (· = Text.backslash) (unitForms unit) := by
    rintro unit s ⟨digits, shape, -⟩
    exact ⟨_, _, shape, rfl⟩
  rcases Nat.lt_or_ge c.toNat 0x10000 with isBasic | notBasic
  · rw [prod_units_of_lt isBasic]
    exact opens _
  · rw [prod_units_of_le notBasic]
    exact (opens _).mul

theorem eq_of_shortEscapes {letter c d : Char} (listed : (letter, c) ∈ shortEscapes)
    (listed' : (letter, d) ∈ shortEscapes) : c = d := by
  have all : ∀ first ∈ shortEscapes, ∀ second ∈ shortEscapes,
      first.1 = second.1 → first.2 = second.2 := by decide
  exact all _ listed _ listed' rfl

/-- Behind a backslash, no short escape looks like a UTF-16 unit. -/
theorem short_ne_units {letter c d : Char} (listed : (letter, c) ∈ shortEscapes) {s r r' : Text}
    (spelled : s ∈ ((units d).map unitForms).prod) :
    [Text.backslash, letter] ++ r ≠ s ++ r' := by
  have notUnit : ∀ escape ∈ shortEscapes, escape.1 ≠ 'u' := by decide
  have second : ∃ back, s = Text.backslash :: 'u' :: back := by
    rcases Nat.lt_or_ge d.toNat 0x10000 with isBasic | notBasic
    · rw [prod_units_of_lt isBasic] at spelled
      rcases spelled with ⟨digits, shape, -⟩
      exact ⟨digits, shape⟩
    · rw [prod_units_of_le notBasic] at spelled
      rcases Language.mem_mul.mp spelled with ⟨_, ⟨digits, rfl, -⟩, back, -, rfl⟩
      exact ⟨digits ++ back, rfl⟩
  intro same
  rcases second with ⟨back, rfl⟩
  exact notUnit _ listed (List.cons.inj (List.cons.inj same).2).1

/-- A character that stands for itself is no backslash. -/
theorem plain_ne_escape {c : Char} (noBackslash : c ≠ Text.backslash) {s r r' : Text}
    (opens : ∃ back, s = Text.backslash :: back) : [c] ++ r ≠ s ++ r' := by
  rcases opens with ⟨back, rfl⟩
  exact fun same => noBackslash (List.cons.inj same).1

theorem tells_charForms {c d : Char} : Tells p (charForms c) (charForms d) (c = d) := by
  have opens : ∀ {c : Char} {s : Text}, s ∈ ((units c).map unitForms).prod →
      ∃ back, s = Text.backslash :: back := by
    intro c s spelled
    rcases opens_units c s spelled with ⟨_, back, rfl, rfl⟩
    exact ⟨back, rfl⟩
  intro s s' r r' form form' leads leads' same
  cases form with
  | plain noControl noQuote noBackslash =>
      cases form' with
      | plain noControl' noQuote' noBackslash' => exact List.cons.inj same
      | short listed' => exact absurd same (plain_ne_escape noBackslash ⟨_, rfl⟩)
      | escaped spelled' => exact absurd same (plain_ne_escape noBackslash (opens spelled'))
  | short listed =>
      cases form' with
      | plain noControl' noQuote' noBackslash' =>
          exact absurd same.symm (plain_ne_escape noBackslash' ⟨_, rfl⟩)
      | short listed' =>
          rcases List.cons.inj (List.cons.inj same).2 with ⟨rfl, restEq⟩
          exact ⟨eq_of_shortEscapes listed listed', restEq⟩
      | escaped spelled' => exact absurd same (short_ne_units listed spelled')
  | escaped spelled =>
      cases form' with
      | plain noControl' noQuote' noBackslash' =>
          exact absurd same.symm (plain_ne_escape noBackslash' (opens spelled))
      | short listed' => exact absurd same.symm (short_ne_units listed' spelled)
      | escaped spelled' => exact tells_units spelled spelled' leads leads' same

theorem opens_charForms (c : Char) : Opens (· ≠ Text.doubleQuote) (charForms c) := by
  intro s form
  cases form with
  | plain noControl noQuote noBackslash => exact ⟨c, [], rfl, noQuote⟩
  | short listed => exact ⟨_, _, rfl, by decide⟩
  | escaped spelled =>
      have notQuote : ∀ c, c = Text.backslash → c ≠ Text.doubleQuote := by
        rintro c rfl
        decide
      exact (opens_units c).mono notQuote s spelled

/-! ## Text is told -/

/-- Characters in a row are told up to the closing quote. -/
theorem tells_prod_charForms : ∀ {s s' : Text},
    Tells (· = Text.doubleQuote) (s.map charForms).prod (s'.map charForms).prod (s = s')
  | [], [] => by
      intro _ _ r r' member member' _ _ same
      cases (Language.mem_one _).mp member
      cases (Language.mem_one _).mp member'
      exact ⟨rfl, same⟩
  | [], c :: s => by
      rw [List.map_cons, List.prod_cons]
      exact tells_one (opens_charForms c).mul fun _ isQuote notQuote => notQuote isQuote
  | c :: s, [] => by
      rw [List.map_cons, List.prod_cons]
      exact (tells_one (opens_charForms c).mul fun _ isQuote notQuote => notQuote isQuote).symm
  | c :: s, c' :: s' => by
      rw [List.map_cons, List.map_cons, List.prod_cons, List.prod_cons]
      refine (tells_charForms.mul_of_any fun _ => tells_prod_charForms).imp ?_
      rintro ⟨rfl, rfl⟩
      rfl

theorem tells_quotations {s s' : Text} :
    Tells p (quotations s) (quotations s') (s = s') := by
  have behind := (opens_mark Text.doubleQuote).goesOn (p := p)
  refine ((tells_mark _).mul_of_any fun _ =>
    tells_prod_charForms.mul behind behind fun _ => tells_mark _).imp ?_
  exact fun both => both.2.1

theorem opens_quotations (s : Text) : Opens (· = Text.doubleQuote) (quotations s) :=
  (opens_mark _).mul

/-! ## Lists are told -/

/-- The characters that stand behind the last item. -/
abbrev IsClose (c : Char) : Prop := c = ']' ∨ c = '\x7d'

/-- The character that stands for all that begin texts of the same shape. -/
def leadOf (c : Char) : Char :=
  if c.isDigit then '-' else c

/-- The characters that values and names begin with. -/
abbrev IsLead (c : Char) : Prop := leadOf c ∈ ['n', '-', Text.doubleQuote, '[', '\x7b']

theorem of_isBlank {c : Char} (blank : isBlank c) : c.isDigit = false ∧ ¬ IsLead c := by
  simp only [isBlank, Bool.or_eq_true, decide_eq_true_eq] at blank
  rcases blank with ((rfl | rfl) | rfl) | rfl <;> decide

theorem of_isClose {c : Char} (close : IsClose c) :
    isBlank c = false ∧ c.isDigit = false ∧ ¬ IsLead c ∧ c ≠ ',' := by
  rcases close with rfl | rfl <;> decide

theorem not_isBlank_of_isLead {c : Char} (lead : IsLead c) : isBlank c = false := by
  cases blank : isBlank c with
  | false => rfl
  | true => exact absurd lead (of_isBlank blank).2

theorem not_isBlank_comma {c : Char} (isComma : c = ',') : isBlank c = false := by
  rw [isComma]
  rfl

section Listed

variable {α : Type} {form : α → Language Char}

theorem goesOn_behind (forms : List (Language Char)) :
    GoesOn IsClose NotDigit (behind forms) := by
  have blankLe : ∀ c, isBlank c → c.isDigit = false := fun _ blank => (of_isBlank blank).1
  cases forms with
  | nil => exact goesOn_blanks (fun _ close => (of_isClose close).2.1) blankLe
  | cons form forms =>
      refine (goesOn_blanks (fun _ => id) blankLe).mul (Opens.goesOn ?_)
      exact (opens_mark ',').mul.mono fun _ isComma => isComma ▸ rfl

/-- Blanks are told in front of what begins with no blank. -/
theorem tells_blanks_mul (opens : Opens NotBlank M)
    (opens' : Opens NotBlank M') (behind : Tells p M M' Q) :
    Tells p (blanks * M) (blanks * M') Q :=
  (tells_blanks.mul opens.goesOn opens'.goesOn fun _ => behind).imp And.right

/-- Behind blanks, a closing bracket does not begin what goes on. -/
theorem tells_blanks_of_opens (opens : Opens q M) (notBlank : ∀ c, q c → isBlank c = false)
    (notClose : ∀ c, IsClose c → ¬ q c) :
    Tells IsClose blanks (blanks * M) P := by
  have noMore : GoesOn IsClose NotBlank 1 := by
    intro s member r leads
    cases (Language.mem_one s).mp member
    exact leads.mono fun _ close => (of_isClose close).1
  have tells := tells_blanks.mul noMore (opens.mono notBlank).goesOn fun _ =>
    tells_one (P := P) opens notClose
  rw [mul_one] at tells
  exact tells.imp And.right

/-- An item and those behind it are told together. -/
theorem tells_item_behind {item item' : α} {items items' : List α}
    (opens : ∀ item, Opens IsLead (form item))
    (itemTold : Tells NotDigit (form item) (form item') (item = item'))
    (othersTold : Tells IsClose (behind (items.map form)) (behind (items'.map form))
      (items = items')) :
    Tells IsClose (blanks * (form item * behind (items.map form)))
      (blanks * (form item' * behind (items'.map form))) (item :: items = item' :: items') := by
  have notBlank := fun item => (opens item).mono fun _ => not_isBlank_of_isLead
  have both := itemTold.mul (goesOn_behind _) (goesOn_behind _) fun _ => othersTold
  refine (tells_blanks_mul (notBlank item).mul (notBlank item').mul both).imp ?_
  rintro ⟨rfl, rfl⟩
  rfl

/-- Further items are told up to the closing bracket, if each of them is told. -/
theorem tells_behind (opens : ∀ item, Opens IsLead (form item)) :
    ∀ {items items' : List α},
    (∀ item ∈ items, ∀ item',
      Tells NotDigit (form item) (form item') (item = item')) →
    Tells IsClose (behind (items.map form)) (behind (items'.map form))
      (items = items')
  | [], [], _ => (tells_blanks.mono fun _ close => (of_isClose close).1).imp fun _ => rfl
  | [], item' :: items', _ =>
      tells_blanks_of_opens (opens_mark ',').mul (fun _ => not_isBlank_comma)
        fun _ close => (of_isClose close).2.2.2
  | item :: items, [], _ =>
      (tells_blanks_of_opens (opens_mark ',').mul (fun _ => not_isBlank_comma)
        fun _ close => (of_isClose close).2.2.2).symm
  | item :: items, item' :: items', told => by
      have itemTold := told item List.mem_cons_self item'
      have othersTold := @tells_behind opens items items' fun other member =>
        told other (List.mem_cons_of_mem item member)
      have comma : ∀ {M : Language Char}, Opens NotBlank (mark ',' * M) :=
        (opens_mark ',').mul.mono fun _ => not_isBlank_comma
      have behindComma := (tells_mark ',').mul_of_any fun _ =>
        tells_item_behind opens itemTold othersTold
      exact (tells_blanks_mul comma comma behindComma).imp And.right

/-- What stands between brackets is told up to the closing one, if each item is told. -/
theorem tells_listed (opens : ∀ item, Opens IsLead (form item))
    {items items' : List α} (told : ∀ item ∈ items, ∀ item',
      Tells NotDigit (form item) (form item') (item = item')) :
    Tells IsClose (listed (items.map form)) (listed (items'.map form))
      (items = items') := by
  have notLead : ∀ c, IsClose c → ¬ IsLead c := fun _ close => (of_isClose close).2.2.1
  cases items with
  | nil =>
      cases items' with
      | nil => exact (tells_blanks.mono fun _ close => (of_isClose close).1).imp fun _ => rfl
      | cons item' items' =>
          exact tells_blanks_of_opens (opens item').mul (fun _ => not_isBlank_of_isLead) notLead
  | cons item items =>
      cases items' with
      | nil =>
          exact (tells_blanks_of_opens (opens item).mul (fun _ => not_isBlank_of_isLead)
            notLead).symm
      | cons item' items' =>
          have itemTold := told item List.mem_cons_self item'
          have othersTold := @tells_behind _ _ opens items items' fun other member =>
            told other (List.mem_cons_of_mem item member)
          exact tells_item_behind opens itemTold othersTold

end Listed

/-! ## Values are told -/

/-- The character that begins the texts of a value, up to its shape. -/
def lead : Json → Char
  | .null => 'n'
  | .integer _ => '-'
  | .text _ => Text.doubleQuote
  | .list _ => '['
  | .object _ => '\x7b'

theorem opens_forms (value : Json) : Opens (fun c => leadOf c = value.lead) value.forms := by
  have ofMark : ∀ {c d : Char}, c.isDigit = false → d = c → leadOf d = c := by
    rintro c d notDigit rfl
    rw [leadOf, notDigit]
    rfl
  cases value with
  | null =>
      intro s member
      cases member
      exact ⟨_, _, rfl, rfl⟩
  | integer value =>
      refine (opens_integers value).mono ?_
      rintro c (rfl | isDigit)
      · rfl
      · exact if_pos isDigit
  | text value => exact (opens_quotations value).mono fun _ => ofMark rfl
  | list items => exact (opens_mark '[').mul.mono fun _ => ofMark rfl
  | object fields => exact (opens_mark '\x7b').mul.mono fun _ => ofMark rfl

theorem isLead_of_lead {value : Json} {c : Char} (lead : leadOf c = value.lead) : IsLead c := by
  rw [IsLead, lead]
  cases value <;> simp [Json.lead]

theorem opens_forms_notBlank (value : Json) : Opens NotBlank value.forms :=
  (opens_forms value).mono fun _ lead => not_isBlank_of_isLead (isLead_of_lead lead)

theorem opens_fieldForm (name : Text) (form : Language Char) :
    Opens IsLead (fieldForm name form) :=
  (opens_quotations name).mul.mono fun _ isQuote => isQuote ▸ by decide

/-- Values whose texts begin differently are told. -/
theorem tells_of_lead_ne {value value' : Json} (different : value.lead ≠ value'.lead) :
    Tells p value.forms value'.forms P :=
  tells_of_opens (opens_forms value) (opens_forms value') fun _ lead lead' =>
    different (lead.symm.trans lead')

theorem tells_fieldForm {name name' : Text} {value value' : Json}
    (told : Tells NotDigit value.forms value'.forms (value = value')) :
    Tells NotDigit (fieldForm name value.forms) (fieldForm name' value'.forms)
      (name = name' ∧ value = value') := by
  have colon : ∀ {M : Language Char}, Opens NotBlank (mark ':' * M) :=
    (opens_mark ':').mul.mono fun _ isColon => isColon ▸ rfl
  refine (tells_quotations.mul_of_any fun _ => tells_blanks_mul colon colon <|
    (tells_mark ':').mul_of_any fun _ =>
      tells_blanks_mul (opens_forms_notBlank value) (opens_forms_notBlank value') told).imp ?_
  exact fun both => ⟨both.1, both.2.2⟩

-- Values of different shapes are told by their first character, so each case is left with a
-- value of its own shape.
mutual

theorem tells_forms : ∀ value value' : Json,
    Tells NotDigit value.forms value'.forms (value = value')
  | .null, value' => by
      cases value' with
      | null => exact (tells_word _).imp fun _ => rfl
      | _ => exact tells_of_lead_ne (by simp [lead, Text.doubleQuote])
  | .integer value, value' => by
      cases value' with
      | integer value' => exact tells_integers.imp (congrArg integer)
      | _ => exact tells_of_lead_ne (by simp [lead, Text.doubleQuote])
  | .text value, value' => by
      cases value' with
      | text value' => exact tells_quotations.imp (congrArg text)
      | _ => exact tells_of_lead_ne (by simp [lead, Text.doubleQuote])
  | .list items, value' => by
      cases value' with
      | list items' =>
          have opens := fun item : Json =>
            (opens_forms item).mono fun _ => isLead_of_lead
          have told := @tells_listed _ _ opens items items' (tells_formsAll items)
          have closing : Opens IsClose (mark ']') :=
            (opens_mark ']').mono fun _ => Or.inl
          rw [forms, forms, formsAll_eq_map, formsAll_eq_map]
          refine ((tells_mark '[').mul_of_any fun _ =>
            told.mul closing.goesOn closing.goesOn fun _ => tells_mark ']').imp ?_
          exact fun both => congrArg list both.2.1
      | _ => exact tells_of_lead_ne (by simp [lead, Text.doubleQuote])
  | .object fields, value' => by
      cases value' with
      | object fields' =>
          have opens := fun field : Text × Json => opens_fieldForm field.1 field.2.forms
          have told := @tells_listed _ _ opens fields fields' (tells_fieldForms fields)
          have closing : Opens IsClose (mark '\x7d') :=
            (opens_mark '\x7d').mono fun _ => Or.inr
          rw [forms, forms, fieldForms_eq_map, fieldForms_eq_map]
          refine ((tells_mark '\x7b').mul_of_any fun _ =>
            told.mul closing.goesOn closing.goesOn fun _ => tells_mark '\x7d').imp ?_
          exact fun both => congrArg object both.2.1
      | _ => exact tells_of_lead_ne (by simp [lead, Text.doubleQuote])

theorem tells_formsAll : ∀ items : List Json, ∀ item ∈ items, ∀ item',
    Tells NotDigit item.forms item'.forms (item = item')
  | item :: items, other, member, item' => by
      rcases List.mem_cons.mp member with isFirst | inRest
      · rw [isFirst]
        exact tells_forms item item'
      · exact tells_formsAll items other inRest item'

theorem tells_fieldForms : ∀ fields : List (Text × Json), ∀ field ∈ fields, ∀ field',
    Tells NotDigit (fieldForm field.1 field.2.forms)
      (fieldForm field'.1 field'.2.forms) (field = field')
  | (name, value) :: fields, other, member, field' => by
      rcases List.mem_cons.mp member with isFirst | inRest
      · rw [isFirst]
        exact (tells_fieldForm (tells_forms value field'.2)).imp fun both =>
          Prod.ext both.1 both.2
      · exact tells_fieldForms fields other inRest field'

end

/-- A text stands for one value at most. -/
theorem eq_of_mem_texts {s : Text} {value value' : Json} (stands : s ∈ value.texts)
    (stands' : s ∈ value'.texts) : value = value' := by
  have ends : GoesOn (fun _ => False) NotDigit blanks :=
    goesOn_blanks (fun _ => False.elim) fun _ blank => (of_isBlank blank).1
  have told := (tells_forms value value').mul ends ends fun _ =>
    tells_blanks.mono fun _ => False.elim
  -- Behind a whole text nothing follows, so no character has to be allowed there.
  have nothing : Leads (fun _ => False) [] := nofun
  have whole := tells_blanks_mul (opens_forms_notBlank value).mul
    (opens_forms_notBlank value').mul told
  exact (whole stands stands' nothing nothing rfl).1.1

end Lunette.Json
