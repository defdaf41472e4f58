import ShoppingCS.Web.Json

/-!
# The spelling of `JSON.stringify`

JavaScript escapes quotes, backslashes and control characters and nothing else; five of the
control characters have a letter of their own. The same reader takes it back.
-/

namespace ShoppingCS.Web

/-- The letter that `JSON.stringify` puts behind a backslash, for the characters that have
one. -/
def quotedLetter? (character : Char) : Option Char :=
  if character = '"' ∨ character = '\\' then some character
  else if character = Char.ofNat 8 then some 'b'
  else if character = '\t' then some 't'
  else if character = '\n' then some 'n'
  else if character = Char.ofNat 12 then some 'f'
  else if character = '\r' then some 'r'
  else none

/-- A character between the quotes, escaped if it is a quote, a backslash or a control
character. -/
def quoteCharacter (character : Char) : Text :=
  match quotedLetter? character with
  | some letter => ['\\', letter]
  | none =>
    if character.toNat < 0x20 then '\\' :: 'u' :: unitDigits character.toNat
    else [character]

/-- The part that a character is read as when it has been written so. -/
def quotedPart (character : Char) : StringPart :=
  match quotedLetter? character with
  | some _ => .plain character
  | none => if character.toNat < 0x20 then .unit character.toNat else .plain character

/-- The letter behind a backslash is read as the character it was written for. -/
theorem unescape?_quotedLetter? {character letter : Char}
    (short : quotedLetter? character = some letter) :
    letter ≠ 'u' ∧ unescape? letter = some character := by
  unfold quotedLetter? at short
  split_ifs at short with same backspace tab newline feed carriage
  · obtain rfl := Option.some.inj short
    cases same with
    | inl quote =>
      subst quote
      decide
    | inr backslash =>
      subst backslash
      decide
  all_goals
    obtain rfl := Option.some.inj short
    subst character
    decide

/-- A quoted character is read as its part, whatever follows it. -/
theorem readParts_quoteCharacter (character : Char) (rest : Text) :
    readParts .between (quoteCharacter character ++ rest) =
      withPart (quotedPart character) (readParts .between rest) := by
  unfold quoteCharacter quotedPart
  cases short : quotedLetter? character with
  | some letter =>
    obtain ⟨other, undone⟩ := unescape?_quotedLetter? short
    simp only [List.cons_append, List.nil_append, readParts, if_neg other, undone]
    rfl
  | none =>
    have special : ¬ (character = '"' ∨ character = '\\') := by
      intro special
      rw [quotedLetter?, if_pos special] at short
      exact absurd short (by simp)
    simp only
    split_ifs with control
    · have small : character.toNat < 0x10000 := by omega
      rw [← readParts_unitDigits small]
      rfl
    · rw [List.singleton_append, readParts, if_neg (fun quote => special (Or.inl quote)),
        if_neg (fun backslash => special (Or.inr backslash)), if_neg control]

/-- The part of a character, with no half of a pair before it, is joined to the character. -/
theorem joinParts_quotedPart (character : Char) (parts : List StringPart) :
    joinParts none (quotedPart character :: parts) = character :: joinParts none parts := by
  unfold quotedPart
  cases short : quotedLetter? character with
  | some letter => rfl
  | none =>
    simp only
    split_ifs with control
    · exact joinParts_unit (by omega) parts
    · rfl

/-- How `JSON.stringify` spells a string, together with the proof that it is read back. -/
def stringified : Spelling where
  spell text := text.flatMap quoteCharacter
  read_back := readString_flatMap readParts_quoteCharacter joinParts_quotedPart

end ShoppingCS.Web
