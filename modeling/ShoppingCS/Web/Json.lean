import ShoppingCS.Web.JsonNumber
import ShoppingCS.Web.JsonString

/-!
# JSON values as text

The writer puts no space between tokens, so a value takes one line whatever texts it
holds. The reader skips space between tokens and refuses whatever is not JSON. A written
value is read back, and nothing behind it is touched; only a number must not run into
what follows it. Writers differ in what they escape; all that counts is that each text is
read back.
-/

namespace ShoppingCS.Web

/-- A value. The members of an object keep their order, and a name may come twice. -/
inductive JsonValue where
  | null
  | boolean (value : Bool)
  | number (literal : NumberLiteral)
  | string (text : Text)
  | array (items : List JsonValue)
  | object (members : List (Text × JsonValue))

section Write

mutual

/-- A value written in one line, without any space between its tokens. -/
def JsonValue.write : JsonValue → Text
  | .null => ['n', 'u', 'l', 'l']
  | .boolean true => ['t', 'r', 'u', 'e']
  | .boolean false => ['f', 'a', 'l', 's', 'e']
  | .number literal => literal.val
  | .string text => writeString text
  | .array [] => ['[', ']']
  | .array (item :: items) => '[' :: (item.write ++ writeItems items)
  | .object [] => ['\x7b', '\x7d']
  | .object ((name, value) :: members) =>
    '\x7b' :: (writeString name ++ ':' :: (value.write ++ writeMembers members))

/-- The items of an array after the first one, and the closing bracket. -/
def writeItems : List JsonValue → Text
  | [] => [']']
  | item :: items => ',' :: (item.write ++ writeItems items)

/-- The members of an object after the first one, and the closing brace. -/
def writeMembers : List (Text × JsonValue) → Text
  | [] => ['\x7d']
  | (name, value) :: members =>
    ',' :: (writeString name ++ ':' :: (value.write ++ writeMembers members))

end

end Write

/-- How a writer puts a text between quotes, so that it is read back. -/
structure Spelling where
  spell : Text → Text
  read_back : ∀ text rest, readString (spell text ++ '"' :: rest) = some (text, rest)

namespace Spelling

/-- The spelling of `writeString`, by which strings are escaped as the writer does it. -/
def escaped : Spelling := ⟨escapeText, readString_escapeText⟩

variable (spelling : Spelling)

/-- A string between quotes, in the given spelling. -/
def quote (text : Text) : Text := '"' :: spelling.spell text ++ ['"']

mutual

/-- A value in one line, with its strings in the given spelling. -/
def value : JsonValue → Text
  | .null => ['n', 'u', 'l', 'l']
  | .boolean true => ['t', 'r', 'u', 'e']
  | .boolean false => ['f', 'a', 'l', 's', 'e']
  | .number literal => literal.val
  | .string text => spelling.quote text
  | .array [] => ['[', ']']
  | .array (item :: items) => '[' :: (value item ++ laterItems items)
  | .object [] => ['\x7b', '\x7d']
  | .object ((name, first) :: members) =>
    '\x7b' :: (spelling.quote name ++ ':' :: (value first ++ laterMembers members))

/-- The items after the first in that spelling, and the closing bracket. -/
def laterItems : List JsonValue → Text
  | [] => [']']
  | item :: items => ',' :: (value item ++ laterItems items)

/-- The members after the first in that spelling, and the closing brace. -/
def laterMembers : List (Text × JsonValue) → Text
  | [] => ['\x7d']
  | (name, first) :: members =>
    ',' :: (spelling.quote name ++ ':' :: (value first ++ laterMembers members))

end

mutual

/-- With the spelling of `writeString` a value is spelled as the writer writes it. By
recursion on the value, along with the two lemmas below. -/
theorem escaped_value : (value : JsonValue) → escaped.value value = value.write
  | .null => rfl
  | .boolean true => rfl
  | .boolean false => rfl
  | .number _ => rfl
  | .string _ => rfl
  | .array [] => rfl
  | .array (item :: items) => by
    rw [Spelling.value, JsonValue.write, escaped_value item, escaped_laterItems items]
  | .object [] => rfl
  | .object ((name, value) :: members) => by
    rw [Spelling.value, JsonValue.write, escaped_value value, escaped_laterMembers members]
    rfl

/-- The same for the items of an array, one after the other. -/
theorem escaped_laterItems : (items : List JsonValue) → escaped.laterItems items = writeItems items
  | [] => rfl
  | item :: items => by
    rw [laterItems, writeItems, escaped_value item, escaped_laterItems items]

/-- The same for the members of an object, one after the other. -/
theorem escaped_laterMembers : (members : List (Text × JsonValue)) →
    escaped.laterMembers members = writeMembers members
  | [] => rfl
  | (name, value) :: members => by
    rw [laterMembers, writeMembers, escaped_value value, escaped_laterMembers members]
    rfl

end

end Spelling

section Read

/-- The four characters that may stand between tokens as space. -/
def isSpace (character : Char) : Bool := [' ', '\t', '\n', '\r'].contains character

/-- Skip the space at the front of a text, as far as it goes. -/
def skipSpace (text : Text) : Text := text.dropWhile isSpace

/-- Read the rest of a word that stands for a value. -/
def readWord (word : Text) (value : JsonValue) (text : Text) : Option (JsonValue × Text) :=
  if word.isPrefixOf text then some (value, text.drop word.length) else none

/-- Read a number: the longest run of its characters must be a literal. -/
def readNumber (text : Text) : Option (JsonValue × Text) :=
  let literal := text.takeWhile numberCharacter
  if accepted : isNumber literal = true then
    some (.number ⟨literal, accepted⟩, text.dropWhile numberCharacter)
  else none

/-- Read a name, which is a string, and the colon behind it. -/
def readName (text : Text) : Option (Text × Text) :=
  match skipSpace text with
  | '"' :: rest =>
    (readString rest).bind (fun (name, rest) =>
      match skipSpace rest with
      | ':' :: rest => some (name, rest)
      | _ => none)
  | _ => none

mutual

/-- Read a value at the front of a text. Each token costs one step, so that the recursion is
bounded by the length. -/
def readValue : (steps : Nat) → Text → Option (JsonValue × Text)
  | 0, _ => none
  | steps + 1, text =>
    match skipSpace text with
    | [] => none
    | first :: rest =>
      if first = '"' then (readString rest).map (fun (text, rest) => (.string text, rest))
      else if first = '[' then
        match skipSpace rest with
        | ']' :: rest => some (.array [], rest)
        | rest =>
          (readValue steps rest).bind (fun (item, rest) =>
            (readItems steps rest).map (fun (items, rest) => (.array (item :: items), rest)))
      else if first = '\x7b' then
        match skipSpace rest with
        | '\x7d' :: rest => some (.object [], rest)
        | rest =>
          (readName rest).bind (fun (name, rest) =>
            (readValue steps rest).bind (fun (value, rest) =>
              (readMembers steps rest).map (fun (members, rest) =>
                (.object ((name, value) :: members), rest))))
      else if first = 'n' then readWord ['u', 'l', 'l'] .null rest
      else if first = 't' then readWord ['r', 'u', 'e'] (.boolean true) rest
      else if first = 'f' then readWord ['a', 'l', 's', 'e'] (.boolean false) rest
      else readNumber (first :: rest)

/-- Read the items after the first, up to the closing bracket. -/
def readItems : (steps : Nat) → Text → Option (List JsonValue × Text)
  | 0, _ => none
  | steps + 1, text =>
    match skipSpace text with
    | ']' :: rest => some ([], rest)
    | ',' :: rest =>
      (readValue steps rest).bind (fun (item, rest) =>
        (readItems steps rest).map (fun (items, rest) => (item :: items, rest)))
    | _ => none

/-- Read the members after the first, up to the closing brace. -/
def readMembers : (steps : Nat) → Text → Option (List (Text × JsonValue) × Text)
  | 0, _ => none
  | steps + 1, text =>
    match skipSpace text with
    | '\x7d' :: rest => some ([], rest)
    | ',' :: rest =>
      (readName rest).bind (fun (name, rest) =>
        (readValue steps rest).bind (fun (value, rest) =>
          (readMembers steps rest).map (fun (members, rest) => ((name, value) :: members, rest))))
    | _ => none

end

/-- Read a text that is a single value, with space around it and nothing else. -/
def readJson (text : Text) : Option JsonValue :=
  match readValue (text.length + 1) text with
  | some (value, rest) => if skipSpace rest = [] then some value else none
  | none => none

end Read

/-- The text does not begin with a character that a number in front of it would take as its
own. -/
def Separate (rest : Text) : Prop := ∀ character ∈ rest.head?, numberCharacter character = false

theorem skipSpace_cons {first : Char} (visible : isSpace first = false) (rest : Text) :
    skipSpace (first :: rest) = first :: rest := by
  rw [skipSpace, List.dropWhile_cons_of_neg (by simp [visible])]

/-- One of the three words is read back from its letters, with what follows it left. -/
theorem readWord_append (word : Text) (value : JsonValue) (rest : Text) :
    readWord word value (word ++ rest) = some (value, rest) := by
  rw [readWord, if_pos (by simp), List.drop_left]

/-- A literal is read back from in front of a separate text. -/
theorem readNumber_append (literal : NumberLiteral) {rest : Text} (separate : Separate rest) :
    readNumber (literal.val ++ rest) = some (.number literal, rest) := by
  have stops : rest.takeWhile numberCharacter = [] ∧ rest.dropWhile numberCharacter = rest := by
    cases rest with
    | nil => exact ⟨rfl, rfl⟩
    | cons first rest =>
      have other : numberCharacter first = false := separate first rfl
      exact ⟨List.takeWhile_cons_of_neg (by simp [other]),
        List.dropWhile_cons_of_neg (by simp [other])⟩
  have taken : (literal.val ++ rest).takeWhile numberCharacter = literal.val := by
    rw [List.takeWhile_append_of_pos literal.characters, stops.1, List.append_nil]
  have dropped : (literal.val ++ rest).dropWhile numberCharacter = rest := by
    rw [List.dropWhile_append_of_pos literal.characters, stops.2]
  rw [readNumber, dropped]
  simp only [taken]
  rw [dif_pos literal.property]

/-- A name is read back from its spelling and the colon, with what follows left. -/
theorem readName_quote (spelling : Spelling) (name rest : Text) :
    readName (spelling.quote name ++ ':' :: rest) = some (name, rest) := by
  have quote : spelling.quote name ++ ':' :: rest =
      '"' :: (spelling.spell name ++ '"' :: ':' :: rest) := by
    simp [Spelling.quote]
  rw [readName, quote, skipSpace_cons (by decide)]
  simp only [spelling.read_back, Option.bind_some]
  rw [skipSpace_cons (by decide)]
  rfl

/-- The first character of a number is none of those that begin anything else. -/
theorem numberCharacter_other {first : Char} (number : numberCharacter first = true) :
    isSpace first = false ∧ first ≠ ']' ∧ first ≠ '"' ∧ first ≠ '[' ∧ first ≠ '\x7b' ∧
      first ≠ 'n' ∧ first ≠ 't' ∧ first ≠ 'f' := by
  have other (character : Char) (no : numberCharacter character = false) : first ≠ character := by
    intro same
    rw [same, no] at number
    exact absurd number (by decide)
  have visible : isSpace first = false := by
    rw [isSpace, List.contains_eq_mem, decide_eq_false_iff_not]
    intro member
    simp only [List.mem_cons, List.not_mem_nil, or_false] at member
    rcases member with same | same | same | same
    all_goals exact other _ (by decide) same
  exact ⟨visible, other _ (by decide), other _ (by decide), other _ (by decide),
    other _ (by decide), other _ (by decide), other _ (by decide), other _ (by decide)⟩

/-- A value begins with a character that is neither space nor a closing bracket. -/
theorem Spelling.value_first (spelling : Spelling) (value : JsonValue) :
    ∃ first rest, spelling.value value = first :: rest ∧ isSpace first = false ∧ first ≠ ']' := by
  cases value with
  | null => exact ⟨_, _, rfl, by decide, by decide⟩
  | boolean truth => cases truth <;> exact ⟨_, _, rfl, by decide, by decide⟩
  | string text => exact ⟨_, _, rfl, by decide, by decide⟩
  | number literal =>
    obtain ⟨first, rest, same⟩ := List.exists_cons_of_ne_nil literal.nonempty
    have number : numberCharacter first = true := by
      apply literal.characters
      rw [same]
      exact List.mem_cons_self
    obtain ⟨visible, bracket, -⟩ := numberCharacter_other number
    exact ⟨first, rest, same, visible, bracket⟩
  | array items =>
    cases items with
    | nil => exact ⟨_, _, rfl, by decide, by decide⟩
    | cons item items => exact ⟨_, _, rfl, by decide, by decide⟩
  | object members =>
    cases members with
    | nil => exact ⟨_, _, rfl, by decide, by decide⟩
    | cons member members => exact ⟨_, _, rfl, by decide, by decide⟩

/-- A value does not run into what follows an item. -/
theorem Spelling.laterItems_separate (spelling : Spelling) (items : List JsonValue) (rest : Text) :
    Separate (spelling.laterItems items ++ rest) := by
  intro character member
  cases items with
  | nil =>
    obtain rfl : ']' = character := Option.some.inj member
    decide
  | cons item items =>
    obtain rfl : ',' = character := Option.some.inj member
    decide

/-- A number does not run into what follows a member of an object, a comma or a brace. -/
theorem Spelling.laterMembers_separate (spelling : Spelling) (members : List (Text × JsonValue))
    (rest : Text) : Separate (spelling.laterMembers members ++ rest) := by
  intro character member
  cases members with
  | nil =>
    obtain rfl : '\x7d' = character := Option.some.inj member
    decide
  | cons first members =>
    obtain rfl : ',' = character := Option.some.inj member
    decide

/-- An array with items is a value and what follows it. -/
theorem readValue_array (steps : Nat) {text : Text} {first : Char}
    (begins : text.head? = some first) (visible : isSpace first = false) (other : first ≠ ']') :
    readValue (steps + 1) ('[' :: text) =
      (readValue steps text).bind (fun (item, rest) =>
        (readItems steps rest).map (fun (items, rest) => (.array (item :: items), rest))) := by
  obtain ⟨rest, rfl⟩ := List.head?_eq_some_iff.mp begins
  rw [readValue, skipSpace_cons (by decide)]
  simp only [Char.reduceEq, if_false, if_true, skipSpace_cons visible]
  split
  · rename_i same
    exact absurd (List.cons.inj same).1 other
  · rfl

/-- An object with members is a name, a value and what follows. -/
theorem readValue_object (spelling : Spelling) (steps : Nat) (name rest : Text) :
    readValue (steps + 1) ('\x7b' :: (spelling.quote name ++ ':' :: rest)) =
      (readValue steps rest).bind (fun (value, rest) =>
        (readMembers steps rest).map (fun (members, rest) =>
          (.object ((name, value) :: members), rest))) := by
  have visible : skipSpace (spelling.quote name ++ ':' :: rest) =
      spelling.quote name ++ ':' :: rest :=
    skipSpace_cons (by decide) _
  rw [readValue, skipSpace_cons (by decide)]
  simp only [Char.reduceEq, if_false, if_true, visible]
  split
  · rename_i same
    exact absurd (List.cons.inj same).1 (by decide)
  · rw [readName_quote, Option.bind_some]

/-- Another item is a comma, a value and what follows. -/
theorem readItems_comma (steps : Nat) (text : Text) :
    readItems (steps + 1) (',' :: text) =
      (readValue steps text).bind (fun (item, rest) =>
        (readItems steps rest).map (fun (items, rest) => (item :: items, rest))) := by
  rw [readItems, skipSpace_cons (by decide)]
  rfl

/-- Another member is a comma, a name, a value and what follows. -/
theorem readMembers_comma (spelling : Spelling) (steps : Nat) (name rest : Text) :
    readMembers (steps + 1) (',' :: (spelling.quote name ++ ':' :: rest)) =
      (readValue steps rest).bind (fun (value, rest) =>
        (readMembers steps rest).map (fun (members, rest) => ((name, value) :: members, rest))) := by
  rw [readMembers, skipSpace_cons (by decide)]
  simp only [readName_quote, Option.bind_some]

/-- A number is read as the literal it is, if what follows is separate from it. -/
theorem readValue_number (steps : Nat) (literal : NumberLiteral) {rest : Text}
    (separate : Separate rest) :
    readValue (steps + 1) (literal.val ++ rest) = some (.number literal, rest) := by
  have read := readNumber_append literal separate
  obtain ⟨first, later, same⟩ := List.exists_cons_of_ne_nil literal.nonempty
  have number : numberCharacter first = true := by
    apply literal.characters
    rw [same]
    exact List.mem_cons_self
  obtain ⟨visible, -, quote, bracket, brace, letterN, letterT, letterF⟩ :=
    numberCharacter_other number
  rw [same, List.cons_append] at read ⊢
  rw [readValue, skipSpace_cons visible]
  simp only [quote, bracket, brace, letterN, letterT, letterF, if_false, read]

namespace Spelling

variable (spelling : Spelling)

mutual

/-- A written value is read back in as many steps as it has characters. -/
theorem readValue_value : (value : JsonValue) → (steps : Nat) → (rest : Text) →
    (spelling.value value).length ≤ steps → Separate rest →
      readValue steps (spelling.value value ++ rest) = some (value, rest)
  | value, 0, rest, enough, separate => by
    obtain ⟨first, later, same, -⟩ := spelling.value_first value
    simp [same] at enough
  | .null, _ + 1, rest, _, _ => readWord_append ['u', 'l', 'l'] .null rest
  | .boolean true, _ + 1, rest, _, _ => readWord_append ['r', 'u', 'e'] (.boolean true) rest
  | .boolean false, _ + 1, rest, _, _ => readWord_append ['a', 'l', 's', 'e'] (.boolean false) rest
  | .number literal, steps + 1, rest, _, separate => readValue_number steps literal separate
  | .string text, steps + 1, rest, _, _ => by
    have quote : spelling.quote text ++ rest = '"' :: (spelling.spell text ++ '"' :: rest) := by
      simp [Spelling.quote]
    rw [Spelling.value, quote, readValue, skipSpace_cons (by decide)]
    simp only [if_true, spelling.read_back, Option.map_some]
  | .array [], _ + 1, _, _, _ => rfl
  | .array (item :: items), steps + 1, rest, enough, _ => by
    obtain ⟨first, later, same, visible, other⟩ := spelling.value_first item
    simp only [Spelling.value, List.length_cons, List.length_append] at enough
    have read := readValue_value item steps (spelling.laterItems items ++ rest) (by omega)
      (spelling.laterItems_separate items rest)
    have more := readItems_laterItems items steps rest (by omega)
    rw [Spelling.value, List.cons_append, List.append_assoc,
      readValue_array steps (by rw [same]; rfl) visible other, read]
    simp only [Option.bind_some, more, Option.map_some]
  | .object [], _ + 1, _, _, _ => rfl
  | .object ((name, value) :: members), steps + 1, rest, enough, _ => by
    simp only [Spelling.value, List.length_cons, List.length_append] at enough
    have read := readValue_value value steps (spelling.laterMembers members ++ rest) (by omega)
      (spelling.laterMembers_separate members rest)
    have more := readMembers_laterMembers members steps rest (by omega)
    simp only [Spelling.value, List.cons_append, List.append_assoc]
    rw [readValue_object, read]
    simp only [Option.bind_some, more, Option.map_some]

/-- The items of an array are read back, by recursion on them, with enough steps for their
text. -/
theorem readItems_laterItems : (items : List JsonValue) → (steps : Nat) → (rest : Text) →
    (spelling.laterItems items).length ≤ steps →
      readItems steps (spelling.laterItems items ++ rest) = some (items, rest)
  | items, 0, rest, enough => by
    cases items <;> simp [laterItems] at enough
  | [], _ + 1, _, _ => rfl
  | item :: items, steps + 1, rest, enough => by
    simp only [laterItems, List.length_cons, List.length_append] at enough
    have read := readValue_value item steps (spelling.laterItems items ++ rest) (by omega)
      (spelling.laterItems_separate items rest)
    have more := readItems_laterItems items steps rest (by omega)
    rw [laterItems, List.cons_append, List.append_assoc, readItems_comma, read]
    simp only [Option.bind_some, more, Option.map_some]

/-- The members of an object are read back, by recursion on them, with enough steps for their
text. -/
theorem readMembers_laterMembers : (members : List (Text × JsonValue)) → (steps : Nat) →
    (rest : Text) → (spelling.laterMembers members).length ≤ steps →
      readMembers steps (spelling.laterMembers members ++ rest) = some (members, rest)
  | members, 0, rest, enough => by
    cases members <;> simp [laterMembers] at enough
  | [], _ + 1, _, _ => rfl
  | (name, value) :: members, steps + 1, rest, enough => by
    simp only [laterMembers, List.length_cons, List.length_append] at enough
    have read := readValue_value value steps (spelling.laterMembers members ++ rest) (by omega)
      (spelling.laterMembers_separate members rest)
    have more := readMembers_laterMembers members steps rest (by omega)
    simp only [laterMembers, List.cons_append, List.append_assoc]
    rw [readMembers_comma, read]
    simp only [Option.bind_some, more, Option.map_some]

end

/-- A value is read back from its text in any spelling that strings are read back from. -/
theorem readJson_value (value : JsonValue) : readJson (spelling.value value) = some value := by
  have read := spelling.readValue_value value ((spelling.value value).length + 1) [] (Nat.le_succ _)
    (by simp [Separate])
  rw [List.append_nil] at read
  rw [readJson, read]
  rfl

end Spelling

/-- A value is read back from the text the writer makes of it. -/
theorem readJson_write (value : JsonValue) : readJson value.write = some value := by
  rw [← Spelling.escaped_value]
  exact Spelling.escaped.readJson_value value

/-- The characters of which numbers consist are printable. -/
theorem numberCharacter_printable {character : Char} (number : numberCharacter character = true) :
    0x20 ≤ character.toNat := by
  simp only [numberCharacter, Char.isDigit, Bool.or_eq_true, Bool.and_eq_true, decide_eq_true_eq,
    List.contains_eq_mem, List.mem_cons, List.not_mem_nil, or_false] at number
  rcases number with ⟨low, -⟩ | rfl | rfl | rfl | rfl | rfl
  · have zero : '0'.val.toNat ≤ character.val.toNat := UInt32.le_iff_toNat_le.mp low
    exact Nat.le_trans (by decide) zero
  all_goals decide

mutual

/-- A written value is printable, whatever texts it holds, as their control characters are
escaped. -/
theorem write_printable : (value : JsonValue) → Printable value.write
  | .null => printable_of_all rfl
  | .boolean true => printable_of_all rfl
  | .boolean false => printable_of_all rfl
  | .number literal => fun character member => numberCharacter_printable (literal.characters character member)
  | .string text => writeString_printable text
  | .array [] => printable_of_all rfl
  | .array (item :: items) => by
    have bracket : 0x20 ≤ '['.toNat := by decide
    simp only [JsonValue.write, printable_cons, printable_append]
    exact ⟨bracket, write_printable item, writeItems_printable items⟩
  | .object [] => printable_of_all rfl
  | .object ((name, value) :: members) => by
    have brace : 0x20 ≤ '\x7b'.toNat := by decide
    have colon : 0x20 ≤ ':'.toNat := by decide
    simp only [JsonValue.write, printable_cons, printable_append]
    exact ⟨brace, writeString_printable name, colon, write_printable value,
      writeMembers_printable members⟩

/-- The written items of an array are printable, one after the other. -/
theorem writeItems_printable : (items : List JsonValue) → Printable (writeItems items)
  | [] => printable_of_all rfl
  | item :: items => by
    have comma : 0x20 ≤ ','.toNat := by decide
    simp only [writeItems, printable_cons, printable_append]
    exact ⟨comma, write_printable item, writeItems_printable items⟩

/-- The written members of an object are printable, one after the other. -/
theorem writeMembers_printable : (members : List (Text × JsonValue)) →
    Printable (writeMembers members)
  | [] => printable_of_all rfl
  | (name, value) :: members => by
    have comma : 0x20 ≤ ','.toNat := by decide
    have colon : 0x20 ≤ ':'.toNat := by decide
    simp only [writeMembers, printable_cons, printable_append]
    exact ⟨comma, writeString_printable name, colon, write_printable value,
      writeMembers_printable members⟩

end

end ShoppingCS.Web
