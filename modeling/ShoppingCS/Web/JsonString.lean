import ShoppingCS.Web.Utf8

/-!
# Strings of JSON

The writer escapes quotes, backslashes and control characters, and further the
characters that are dangerous inside a page: `&`, `<`, `>` and the two line separators of
Unicode. The reader takes characters and code units apart first and joins surrogates
afterwards; a surrogate without its partner is replaced. What is written holds no control
character and is read back.
-/

namespace ShoppingCS.Web

/-- A code unit of 16 bits as four hexadecimal digits. -/
def unitDigits (unit : Nat) : Text :=
  [(unit / 0x1000).digitChar, (unit / 0x100 % 0x10).digitChar, (unit / 0x10 % 0x10).digitChar,
    (unit % 0x10).digitChar]

/-- The characters that are written by their number where no letter stands for them: the
control characters, and five more that would be unsafe in HTML or JavaScript. -/
def writtenByNumber (character : Char) : Bool :=
  character.toNat < 0x20 || [0x26, 0x3C, 0x3E, 0x2028, 0x2029].contains character.toNat

/-- The letter that stands for a character behind a backslash. -/
def shortEscape? (character : Char) : Option Char :=
  if character = '"' ∨ character = '\\' then some character
  else if character = '\n' then some 'n'
  else if character = '\r' then some 'r'
  else if character = '\t' then some 't'
  else none

/-- A character as it is written inside a string, escaped if need be. -/
def escapeCharacter (character : Char) : Text :=
  match shortEscape? character with
  | some letter => ['\\', letter]
  | none =>
    if writtenByNumber character then '\\' :: 'u' :: unitDigits character.toNat
    else [character]

/-- What stands between the quotes of a written string. -/
def escapeText (text : Text) : Text := text.flatMap escapeCharacter

/-- A string as it is written, between its quotes. -/
def writeString (text : Text) : Text := '"' :: escapeText text ++ ['"']

/-- A character that stands for itself or behind a backslash, or a code unit given by
its number. -/
inductive StringPart where
  | plain (character : Char)
  | unit (value : Nat)
deriving DecidableEq

/-- Where in a string the reader is: between characters, behind a backslash, or inside a
number that still needs some digits. -/
inductive StringState where
  | between
  | escaped
  | digits (needed value : Nat)

/-- The characters that a backslash and one letter stand for. -/
def unescape? (letter : Char) : Option Char :=
  if letter = '"' ∨ letter = '\\' ∨ letter = '/' then some letter
  else if letter = 'b' then some (Char.ofNat 8)
  else if letter = 'f' then some (Char.ofNat 12)
  else if letter = 'n' then some '\n'
  else if letter = 'r' then some '\r'
  else if letter = 't' then some '\t'
  else none

/-- The value of a hexadecimal digit, of any case. -/
def hexCharacter? (character : Char) : Option Nat :=
  if character.toNat < 0x100 then hexValue? (UInt8.ofNat character.toNat) else none

/-- Put a part in front of what is read behind it. -/
def withPart (part : StringPart) (read : Option (List StringPart × Text)) :
    Option (List StringPart × Text) :=
  read.map (fun outcome => (part :: outcome.1, outcome.2))

/-- Read the parts of a string up to its closing quote, and what follows that. -/
def readParts : StringState → Text → Option (List StringPart × Text)
  | _, [] => none
  | .between, character :: rest =>
    if character = '"' then some ([], rest)
    else if character = '\\' then readParts .escaped rest
    else if character.toNat < 0x20 then none
    else withPart (.plain character) (readParts .between rest)
  | .escaped, letter :: rest =>
    if letter = 'u' then readParts (.digits 4 0) rest
    else
      match unescape? letter with
      | some character => withPart (.plain character) (readParts .between rest)
      | none => none
  | .digits needed value, digit :: rest =>
    match hexCharacter? digit with
    | none => none
    | some bits =>
      if needed = 1 then withPart (.unit (0x10 * value + bits)) (readParts .between rest)
      else readParts (.digits (needed - 1) (0x10 * value + bits)) rest

/-- The code unit is the first half of a pair of surrogates. -/
def isHighSurrogate (unit : Nat) : Bool := 0xD800 ≤ unit && unit < 0xDC00

/-- The code unit is the second half of a pair of surrogates. -/
def isLowSurrogate (unit : Nat) : Bool := 0xDC00 ≤ unit && unit < 0xE000

/-- The character of a code unit that is no first half. -/
def unitCharacter (unit : Nat) : Char := if isLowSurrogate unit then replacement else Char.ofNat unit

/-- The character that a pair of surrogates stands for. -/
def pairCharacter (high low : Nat) : Char :=
  Char.ofNat (0x10000 + 0x400 * (high - 0xD800) + (low - 0xDC00))

/-- Join the parts, behind the first half of a pair or not. A half without its other half is
replaced. -/
def joinParts : Option Nat → List StringPart → Text
  | none, [] => []
  | some _, [] => [replacement]
  | none, .plain character :: rest => character :: joinParts none rest
  | some _, .plain character :: rest => replacement :: character :: joinParts none rest
  | none, .unit value :: rest =>
    if isHighSurrogate value then joinParts (some value) rest
    else unitCharacter value :: joinParts none rest
  | some high, .unit value :: rest =>
    if isLowSurrogate value then pairCharacter high value :: joinParts none rest
    else if isHighSurrogate value then replacement :: joinParts (some value) rest
    else replacement :: unitCharacter value :: joinParts none rest

/-- Read a string behind its opening quote, and what follows its closing one. -/
def readString (text : Text) : Option (Text × Text) :=
  (readParts .between text).map (fun outcome => (joinParts none outcome.1, outcome.2))

/-- The digit of a small number is read as that number. -/
theorem hexCharacter?_digitChar {digit : Nat} (small : digit < 0x10) :
    hexCharacter? digit.digitChar = some digit := by
  have digits : ∀ digit < 0x10, hexCharacter? digit.digitChar = some digit := by decide
  exact digits digit small

/-- Four digits are read as the code unit they were made of. -/
theorem readParts_unitDigits {unit : Nat} (small : unit < 0x10000) (rest : Text) :
    readParts (.digits 4 0) (unitDigits unit ++ rest) =
      withPart (.unit unit) (readParts .between rest) := by
  have whole : 0x10 * (0x10 * (0x10 * (0x10 * 0 + unit / 0x1000) + unit / 0x100 % 0x10) +
      unit / 0x10 % 0x10) + unit % 0x10 = unit := by
    omega
  simp only [unitDigits, List.cons_append, List.nil_append, readParts,
    hexCharacter?_digitChar (show unit / 0x1000 < 0x10 by omega),
    hexCharacter?_digitChar (show unit / 0x100 % 0x10 < 0x10 by omega),
    hexCharacter?_digitChar (show unit / 0x10 % 0x10 < 0x10 by omega),
    hexCharacter?_digitChar (show unit % 0x10 < 0x10 by omega)]
  simp only [Nat.reduceEqDiff, if_false, Nat.reduceSub, if_true, whole]

/-- The part that a written character is read as, by the way in which it is escaped. -/
def partOf (character : Char) : StringPart :=
  match shortEscape? character with
  | some _ => .plain character
  | none => if writtenByNumber character then .unit character.toNat else .plain character

/-- A short escape is undone by reading its letter. -/
theorem unescape?_shortEscape? {character letter : Char}
    (short : shortEscape? character = some letter) :
    letter ≠ 'u' ∧ unescape? letter = some character := by
  unfold shortEscape? at short
  split_ifs at short with same newline carriage tab
  · obtain rfl := Option.some.inj short
    cases same with
    | inl quote =>
      subst quote
      decide
    | inr backslash =>
      subst backslash
      decide
  · obtain rfl := Option.some.inj short
    subst newline
    decide
  · obtain rfl := Option.some.inj short
    subst carriage
    decide
  · obtain rfl := Option.some.inj short
    subst tab
    decide

/-- A character that is written by its number has a code unit of its own. -/
theorem writtenByNumber_small {character : Char} (written : writtenByNumber character = true) :
    character.toNat < 0xD800 := by
  simp only [writtenByNumber, Bool.or_eq_true, decide_eq_true_eq, List.contains_eq_mem,
    List.mem_cons, List.not_mem_nil, or_false] at written
  omega

/-- A character that is written as it is neither ends the string nor escapes. -/
theorem written_plainly {character : Char} (long : shortEscape? character = none)
    (plain : writtenByNumber character = false) :
    character ≠ '"' ∧ character ≠ '\\' ∧ 0x20 ≤ character.toNat := by
  have special : ¬ (character = '"' ∨ character = '\\') := by
    intro special
    rw [shortEscape?, if_pos special] at long
    exact absurd long (by simp)
  simp only [writtenByNumber, Bool.or_eq_false_iff, decide_eq_false_iff_not] at plain
  exact ⟨fun quote => special (Or.inl quote), fun backslash => special (Or.inr backslash),
    Nat.le_of_not_lt plain.1⟩

/-- A written character is read as its part, whatever follows it. -/
theorem readParts_escapeCharacter (character : Char) (rest : Text) :
    readParts .between (escapeCharacter character ++ rest) =
      withPart (partOf character) (readParts .between rest) := by
  unfold escapeCharacter partOf
  cases short : shortEscape? character with
  | some letter =>
    obtain ⟨other, undone⟩ := unescape?_shortEscape? short
    simp only [List.cons_append, List.nil_append, readParts, if_neg other, undone]
    rfl
  | none =>
    simp only
    split_ifs with written
    · have small : character.toNat < 0x10000 := by
        have less := writtenByNumber_small written
        omega
      rw [← readParts_unitDigits small]
      rfl
    · obtain ⟨quote, backslash, visible⟩ :=
        written_plainly short (Bool.eq_false_iff.mpr written)
      rw [List.singleton_append, readParts, if_neg quote, if_neg backslash,
        if_neg (Nat.not_lt.mpr visible)]

/-- A small code unit by itself is joined to its character. -/
theorem joinParts_unit {character : Char} (small : character.toNat < 0xD800)
    (parts : List StringPart) :
    joinParts none (.unit character.toNat :: parts) = character :: joinParts none parts := by
  have high : isHighSurrogate character.toNat = false := by
    simp only [isHighSurrogate, Bool.and_eq_false_iff, decide_eq_false_iff_not]
    omega
  have low : isLowSurrogate character.toNat = false := by
    simp only [isLowSurrogate, Bool.and_eq_false_iff, decide_eq_false_iff_not]
    omega
  rw [joinParts, high, unitCharacter, low]
  simp only [Bool.false_eq_true, if_false, Char.ofNat_toNat]

/-- The part of a character, where no half of a pair is before it, is joined to the character.
-/
theorem joinParts_partOf (character : Char) (parts : List StringPart) :
    joinParts none (partOf character :: parts) = character :: joinParts none parts := by
  unfold partOf
  cases short : shortEscape? character with
  | some letter => rfl
  | none =>
    simp only
    split_ifs with written
    · exact joinParts_unit (writtenByNumber_small written) parts
    · rfl

/-- A text that is written character by character is read back, and nothing behind it is
touched, if each character is read as a part that is joined to it. -/
theorem readString_flatMap {spell : Char → Text} {part : Char → StringPart}
    (reads : ∀ character rest, readParts .between (spell character ++ rest) =
      withPart (part character) (readParts .between rest))
    (joins : ∀ character parts, joinParts none (part character :: parts) =
      character :: joinParts none parts)
    (text rest : Text) : readString (text.flatMap spell ++ '"' :: rest) = some (text, rest) := by
  have parts : readParts .between (text.flatMap spell ++ '"' :: rest) =
      some (text.map part, rest) := by
    induction text with
    | nil => rfl
    | cons character text inductionHypothesis =>
      rw [List.flatMap_cons, List.append_assoc, reads, inductionHypothesis]
      rfl
  have joined : joinParts none (text.map part) = text := by
    clear parts
    induction text with
    | nil => rfl
    | cons character text inductionHypothesis =>
      rw [List.map_cons, joins, inductionHypothesis]
  rw [readString, parts, Option.map_some, joined]

/-- A written string is read back, and nothing behind it is touched. -/
theorem readString_escapeText (text rest : Text) :
    readString (escapeText text ++ '"' :: rest) = some (text, rest) :=
  readString_flatMap readParts_escapeCharacter joinParts_partOf text rest

/-- The text has no control character, such as an end of a line. -/
def Printable (text : Text) : Prop := ∀ character ∈ text, 0x20 ≤ character.toNat

@[simp] theorem printable_nil : Printable [] := by simp [Printable]

@[simp] theorem printable_cons (character : Char) (text : Text) :
    Printable (character :: text) ↔ 0x20 ≤ character.toNat ∧ Printable text := by
  simp [Printable]

@[simp] theorem printable_append (first second : Text) :
    Printable (first ++ second) ↔ Printable first ∧ Printable second := by
  simp only [Printable, List.forall_mem_append]

theorem printable_of_all {text : Text}
    (visible : text.all (fun character => 0x20 ≤ character.toNat) = true) : Printable text := by
  intro character member
  exact of_decide_eq_true (List.all_eq_true.mp visible character member)

/-- A text of printable characters has no line break, so that it is one line. -/
theorem Printable.one_line {text : Text} (printable : Printable text) : '\n' ∉ text := by
  intro member
  exact absurd (printable '\n' member) (by decide)

/-- A hexadecimal digit is a printable character. -/
theorem digitChar_printable {digit : Nat} (small : digit < 0x10) :
    0x20 ≤ digit.digitChar.toNat := by
  have digits : ∀ digit < 0x10, 0x20 ≤ digit.digitChar.toNat := by decide
  exact digits digit small

/-- The four digits of a code unit are printable. -/
theorem unitDigits_printable {unit : Nat} (small : unit < 0x10000) : Printable (unitDigits unit) := by
  simp only [unitDigits, printable_cons, printable_nil, and_true]
  exact ⟨digitChar_printable (by omega), digitChar_printable (by omega),
    digitChar_printable (by omega), digitChar_printable (by omega)⟩

/-- The letter of a short escape is printable. -/
theorem shortEscape?_printable {character letter : Char}
    (short : shortEscape? character = some letter) : 0x20 ≤ letter.toNat := by
  unfold shortEscape? at short
  split_ifs at short with same
  · obtain rfl := Option.some.inj short
    cases same with
    | inl quote =>
      subst quote
      decide
    | inr backslash =>
      subst backslash
      decide
  all_goals
    obtain rfl := Option.some.inj short
    decide

/-- A written character is printable, since it is escaped if the character itself is not. -/
theorem escapeCharacter_printable (character : Char) : Printable (escapeCharacter character) := by
  have backslash : 0x20 ≤ '\\'.toNat := by decide
  have letterU : 0x20 ≤ 'u'.toNat := by decide
  unfold escapeCharacter
  cases short : shortEscape? character with
  | some letter =>
    simp only [printable_cons, printable_nil, and_true]
    exact ⟨backslash, shortEscape?_printable short⟩
  | none =>
    simp only
    split_ifs with written
    · have small := writtenByNumber_small written
      simp only [printable_cons]
      exact ⟨backslash, letterU, unitDigits_printable (by omega)⟩
    · simp only [printable_cons, printable_nil, and_true]
      exact (written_plainly short (Bool.eq_false_iff.mpr written)).2.2

/-- A written text is printable, each of its characters being so. -/
theorem escapeText_printable (text : Text) : Printable (escapeText text) := by
  intro character member
  obtain ⟨original, -, within⟩ := List.mem_flatMap.mp member
  exact escapeCharacter_printable original character within

/-- A written string is printable, the quotes included. -/
theorem writeString_printable (text : Text) : Printable (writeString text) := by
  have quote : 0x20 ≤ '"'.toNat := by decide
  simp only [writeString, printable_cons, List.cons_append, printable_append, printable_nil, and_true]
  exact ⟨quote, escapeText_printable text, quote⟩

end ShoppingCS.Web
