import Mathlib.Data.Nat.Basic
import Mathlib.Tactic.Common

/-!
# Number literals of JSON

A number is kept as its literal, so that nothing is rounded. The grammar is a small
automaton over the characters. Whole numbers have a decimal form, which is a literal and
is read back.
-/

namespace ShoppingCS.Web

/-- How far the reading of a number literal has come, by the part it is in. -/
inductive NumberState where
  | start
  | minus
  | zero
  | whole
  | point
  | fraction
  | exponent
  | sign
  | power
deriving DecidableEq

/-- The state after the next character of a number literal, if the grammar allows it there. -/
def NumberState.step (state : NumberState) (character : Char) : Option NumberState :=
  if character = '0' then
    match state with
    | .start | .minus => some .zero
    | .whole => some .whole
    | .point | .fraction => some .fraction
    | .exponent | .sign | .power => some .power
    | .zero => none
  else if character.isDigit then
    match state with
    | .start | .minus | .whole => some .whole
    | .point | .fraction => some .fraction
    | .exponent | .sign | .power => some .power
    | .zero => none
  else if character = '-' then
    match state with
    | .start => some .minus
    | .exponent => some .sign
    | _ => none
  else if character = '+' then
    match state with
    | .exponent => some .sign
    | _ => none
  else if character = '.' then
    match state with
    | .zero | .whole => some .point
    | _ => none
  else if character = 'e' ∨ character = 'E' then
    match state with
    | .zero | .whole | .fraction => some .exponent
    | _ => none
  else none

/-- The literal may end in this state, being a number as it stands. -/
def NumberState.accepts : NumberState → Bool
  | .zero | .whole | .fraction | .power => true
  | _ => false

/-- Read a text on from a state, character by character. -/
def NumberState.run : NumberState → List Char → Option NumberState
  | state, [] => some state
  | state, character :: rest => (state.step character).bind (·.run rest)

/-- Whether a text is a number by the grammar of JSON. -/
def isNumber (text : List Char) : Bool := (NumberState.start.run text).any NumberState.accepts

/-- A number of JSON, as the text it is written by. -/
abbrev NumberLiteral := {text : List Char // isNumber text = true}

/-- The characters that a number may consist of. -/
def numberCharacter (character : Char) : Bool :=
  character.isDigit || ['-', '+', '.', 'e', 'E'].contains character

/-- A character that is taken in some state is one of those. -/
theorem NumberState.step_character {state next : NumberState} {character : Char}
    (taken : state.step character = some next) : numberCharacter character = true := by
  unfold NumberState.step at taken
  unfold numberCharacter
  split_ifs at taken with zero digit minus plus point power
  · subst zero
    rfl
  · simp [digit]
  · simp [minus]
  · simp [plus]
  · simp [point]
  · cases power with
    | inl small => simp [small]
    | inr large => simp [large]

/-- Every character of a text that has been taken is one of those, by induction on the text.
-/
theorem NumberState.run_characters {state final : NumberState} {text : List Char}
    (taken : state.run text = some final) : ∀ character ∈ text, numberCharacter character = true := by
  induction text generalizing state with
  | nil => simp
  | cons first rest inductionHypothesis =>
    obtain ⟨next, stepped, later⟩ := Option.bind_eq_some_iff.mp taken
    intro character member
    cases List.mem_cons.mp member with
    | inl same => exact same ▸ step_character stepped
    | inr within => exact inductionHypothesis later character within

/-- Reading a text in two parts goes on where the first has stopped. -/
theorem NumberState.run_append (state : NumberState) (first second : List Char) :
    state.run (first ++ second) = (state.run first).bind (·.run second) := by
  induction first generalizing state with
  | nil => rfl
  | cons character rest inductionHypothesis =>
    rw [List.cons_append, run, run]
    cases state.step character with
    | none => rfl
    | some next => exact inductionHypothesis next

namespace NumberLiteral

/-- Every character of a literal is one of those numbers consist of. -/
theorem characters (literal : NumberLiteral) :
    ∀ character ∈ literal.val, numberCharacter character = true := by
  obtain ⟨final, taken, -⟩ := Option.any_eq_true _ _ |>.mp literal.property
  exact NumberState.run_characters taken

/-- A literal has at least one character, as the first state does not accept. -/
theorem nonempty (literal : NumberLiteral) : literal.val ≠ [] := by
  intro empty
  have accepted := literal.property
  rw [empty] at accepted
  exact absurd accepted (by decide)

end NumberLiteral

/-- A digit other than zero begins or continues a whole number. -/
theorem NumberState.step_digit {state : NumberState} {digit : Nat} (small : digit < 10)
    (positive : digit ≠ 0) (before : state = .start ∨ state = .minus ∨ state = .whole) :
    state.step digit.digitChar = some .whole := by
  have digits : ∀ digit < 10, digit ≠ 0 →
      digit.digitChar ≠ '0' ∧ digit.digitChar.isDigit = true := by
    decide
  obtain ⟨other, isDigit⟩ := digits digit small positive
  unfold NumberState.step
  rw [if_neg other, if_pos isDigit]
  rcases before with rfl | rfl | rfl <;> rfl

/-- Any digit continues a whole number that does not begin with zero. -/
theorem NumberState.whole_step {digit : Nat} (small : digit < 10) :
    NumberState.whole.step digit.digitChar = some .whole := by
  by_cases zero : digit = 0
  · subst zero
    rfl
  · exact step_digit small zero (Or.inr (Or.inr rfl))

/-- The decimal form of a positive number is a whole number. -/
theorem NumberState.run_toDigits {state : NumberState} (before : state = .start ∨ state = .minus)
    {value : Nat} (positive : 0 < value) : state.run (Nat.toDigits 10 value) = some .whole := by
  induction value using Nat.strong_induction_on with
  | _ value inductionHypothesis =>
    rw [Nat.toDigits_eq_if (by decide)]
    split_ifs with small
    · have stepped : state.step value.digitChar = some .whole :=
        step_digit small (by omega) (before.imp_right Or.inl)
      rw [run, stepped]
      rfl
    · rw [run_append, inductionHypothesis (value / 10) (by omega) (by omega), Option.bind_some, run,
        whole_step (Nat.mod_lt _ (by decide))]
      rfl

/-- The decimal form of any number is accepted, from the start as behind a minus sign. -/
theorem NumberState.run_decimal {state : NumberState} (before : state = .start ∨ state = .minus)
    (value : Nat) : (state.run (Nat.toDigits 10 value)).any NumberState.accepts = true := by
  by_cases zero : value = 0
  · subst zero
    cases before with
    | inl start =>
      subst start
      rfl
    | inr minus =>
      subst minus
      rfl
  · rw [run_toDigits before (Nat.pos_of_ne_zero zero)]
    rfl

/-- The decimal form of a whole number, with a minus sign if it is negative. -/
def decimal : Int → List Char
  | .ofNat value => Nat.toDigits 10 value
  | .negSucc value => '-' :: Nat.toDigits 10 (value + 1)

/-- The decimal form of a whole number is a number of JSON. -/
theorem decimal_isNumber (value : Int) : isNumber (decimal value) = true := by
  cases value with
  | ofNat value => exact NumberState.run_decimal (Or.inl rfl) value
  | negSucc value => exact NumberState.run_decimal (Or.inr rfl) (value + 1)

/-- A whole number as a literal, by its decimal form. -/
def NumberLiteral.ofInt (value : Int) : NumberLiteral := ⟨decimal value, decimal_isNumber value⟩

/-- The value of a text of digits, in which no other character stands. -/
def digits? (text : List Char) : Option Nat :=
  if text.all Char.isDigit then some (Nat.ofDigitChars 10 text 0) else none

/-- The value of a literal that has neither fraction nor exponent. -/
def NumberLiteral.int? (literal : NumberLiteral) : Option Int :=
  match literal.val with
  | '-' :: rest => (digits? rest).map (- Int.ofNat ·)
  | text => (digits? text).map Int.ofNat

/-- The value of a decimal form is the number it was made of. -/
theorem digits?_toDigits (value : Nat) : digits? (Nat.toDigits 10 value) = some value := by
  have all : (Nat.toDigits 10 value).all Char.isDigit = true := by
    rw [List.all_eq_true]
    intro character member
    exact Nat.isDigit_of_mem_toDigits (by decide) (by decide) member
  rw [digits?, if_pos all, Nat.ofDigitChars_ten_toDigits]

/-- A whole number is read back from its literal, by its sign and its digits. -/
theorem NumberLiteral.int?_ofInt (value : Int) : (NumberLiteral.ofInt value).int? = some value := by
  cases value with
  | ofNat value =>
    have unsigned : ∀ rest, decimal (.ofNat value) ≠ '-' :: rest := by
      intro rest same
      have member : '-' ∈ decimal (.ofNat value) := by
        rw [same]
        exact List.mem_cons_self
      have digit := Nat.isDigit_of_mem_toDigits (by decide) (by decide) member
      exact absurd digit (by decide)
    unfold int? ofInt
    split
    · rename_i rest same
      exact absurd same (unsigned rest)
    · change (digits? (Nat.toDigits 10 value)).map Int.ofNat = _
      rw [digits?_toDigits]
      rfl
  | negSucc value =>
    change (digits? (Nat.toDigits 10 (value + 1))).map (- Int.ofNat ·) = _
    rw [digits?_toDigits]
    rfl

end ShoppingCS.Web
