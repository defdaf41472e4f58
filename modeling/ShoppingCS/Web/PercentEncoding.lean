import Mathlib.Data.List.Basic

/-!
# Percent-encoding

Texts are lists of characters. A percent-encode set says which characters a part of
a URL cannot carry as they are; these are replaced by the bytes of their UTF-8 form,
each written as `%` and two hexadecimal digits. The sets are those of the URL
standard, given by code points. Decoding goes through bytes as well and never fails:
bytes that are no UTF-8 become replacement characters.
-/

namespace ShoppingCS.Web

/-- A text as the URL parser reads it, character by character. -/
abbrev Text := List Char

/-- One hexadecimal digit, in upper case above nine. -/
def hexDigit (value : Nat) : Char :=
  if value < 10 then Char.ofNat (0x30 + value) else Char.ofNat (0x37 + value)

/-- A byte as `%XX`, with its two digits in upper case. -/
def percentByte (byte : UInt8) : Text := ['%', hexDigit (byte.toNat / 16), hexDigit (byte.toNat % 16)]

/-- A character, encoded byte by byte in UTF-8 if the set asks for it. -/
def percentEncode (inSet : Char → Bool) (character : Char) : Text :=
  if inSet character then (String.utf8EncodeChar character).flatMap percentByte else [character]

/-- A text, encoded character by character by the same set. -/
def encodeText (inSet : Char → Bool) (text : Text) : Text := text.flatMap (percentEncode inSet)

/-- The C0 control set: control characters, and everything after the tilde. -/
def inControlSet (character : Char) : Bool :=
  character.toNat < 0x20 || 0x7E < character.toNat

/-- Further the space, the double quote, `#`, `<` and `>`. -/
def inQuerySet (character : Char) : Bool :=
  inControlSet character || [0x20, 0x22, 0x23, 0x3C, 0x3E].contains character.toNat

/-- The set for the query of an HTTP URL, to which the apostrophe belongs as well. -/
def inSpecialQuerySet (character : Char) : Bool :=
  inQuerySet character || character.toNat == 0x27

/-- A path segment: further `?`, the caret, the backtick and the braces. -/
def inPathSet (character : Char) : Bool :=
  inQuerySet character || [0x3F, 0x5E, 0x60, 0x7B, 0x7D].contains character.toNat

/-- What `encodeURIComponent` escapes: all but letters, digits and `- _ . ! ~ * ' ( )`. -/
def inComponentSet (character : Char) : Bool :=
  !(character.isAlphanum ||
    [0x2D, 0x5F, 0x2E, 0x21, 0x7E, 0x2A, 0x27, 0x28, 0x29].contains character.toNat)

/-- `encodeURIComponent`, which encodes all but letters, digits and nine marks. -/
def encodeURIComponent (text : Text) : Text := encodeText inComponentSet text

/-- The value of a hexadecimal digit, in either case. -/
def hexValue? (byte : UInt8) : Option Nat :=
  let code := byte.toNat
  if 0x30 ≤ code ∧ code ≤ 0x39 then some (code - 0x30)
  else if 0x41 ≤ code ∧ code ≤ 0x46 then some (code - 0x37)
  else if 0x61 ≤ code ∧ code ≤ 0x66 then some (code - 0x57)
  else none

/-- Replace every `%XX` by its byte. A `%` without two digits stays. -/
def percentDecode : List UInt8 → List UInt8
  | [] => []
  | [last] => [last]
  | [first, last] => [first, last]
  | first :: high :: low :: rest =>
    match hexValue? high, hexValue? low with
    | some upper, some lower =>
      if first = 0x25 then UInt8.ofNat (16 * upper + lower) :: percentDecode rest
      else first :: percentDecode (high :: low :: rest)
    | _, _ => first :: percentDecode (high :: low :: rest)

/-- A UTF-8 sequence that has begun: the bytes it still needs, the bits it has, and
the bounds of its next byte. -/
structure Utf8Sequence where
  needed : Nat
  bits : Nat
  lower : Nat
  upper : Nat

/-- The character that stands for bytes that are no UTF-8. -/
def replacement : Char := Char.ofNat 0xFFFD

/-- The first byte of a character: the character itself or what begins with it. The
bounds exclude overlong forms, surrogates and everything past the last code point. -/
def beginUtf8 (byte : Nat) : Char ⊕ Utf8Sequence :=
  if byte < 0x80 then .inl (Char.ofNat byte)
  else if 0xC2 ≤ byte ∧ byte ≤ 0xDF then .inr ⟨1, byte - 0xC0, 0x80, 0xBF⟩
  else if 0xE0 ≤ byte ∧ byte ≤ 0xEF then
    .inr ⟨2, byte - 0xE0, if byte = 0xE0 then 0xA0 else 0x80, if byte = 0xED then 0x9F else 0xBF⟩
  else if 0xF0 ≤ byte ∧ byte ≤ 0xF4 then
    .inr ⟨3, byte - 0xF0, if byte = 0xF0 then 0x90 else 0x80, if byte = 0xF4 then 0x8F else 0xBF⟩
  else .inl replacement

/-- UTF-8 decode with replacement. A byte that does not continue its sequence ends it
and is read again as a first byte. -/
def decodeUtf8 : Option Utf8Sequence → List UInt8 → Text
  | none, [] => []
  | some _, [] => [replacement]
  | none, byte :: rest =>
    match beginUtf8 byte.toNat with
    | .inl character => character :: decodeUtf8 none rest
    | .inr begun => decodeUtf8 (some begun) rest
  | some sequence, byte :: rest =>
    if sequence.lower ≤ byte.toNat ∧ byte.toNat ≤ sequence.upper then
      let bits := 0x40 * sequence.bits + (byte.toNat - 0x80)
      if sequence.needed = 1 then Char.ofNat bits :: decodeUtf8 none rest
      else decodeUtf8 (some ⟨sequence.needed - 1, bits, 0x80, 0xBF⟩) rest
    else
      match beginUtf8 byte.toNat with
      | .inl character => replacement :: character :: decodeUtf8 none rest
      | .inr begun => replacement :: decodeUtf8 (some begun) rest

/-- One name or value of an `application/x-www-form-urlencoded` text: a `+` is a
space, then the percent-encoding is undone. -/
def decodeFormPart (part : Text) : Text :=
  decodeUtf8 none (percentDecode
    ((part.map (fun character => if character = '+' then ' ' else character)).flatMap
      String.utf8EncodeChar))

/-- The pairs of an `application/x-www-form-urlencoded` text, cut at the first equals sign of
each part. -/
def formPairs (text : Text) : List (Text × Text) :=
  ((text.splitOn '&').filter (fun part => !part.isEmpty)).map (fun part =>
    (decodeFormPart (part.takeWhile (· ≠ '=')), decodeFormPart ((part.dropWhile (· ≠ '=')).drop 1)))

/-- The characters of `%XX` need no encoding and separate nothing. -/
theorem percentByte_passes (byte : UInt8) :
    ∀ character ∈ percentByte byte,
      inPathSet character = false ∧ character ≠ '/' ∧ character ≠ '\\' := by
  have digits : ∀ value < 16, inPathSet (hexDigit value) = false ∧ hexDigit value ≠ '/' ∧
      hexDigit value ≠ '\\' := by decide
  have small := byte.toNat_lt
  intro character member
  simp only [percentByte, List.mem_cons, List.not_mem_nil, or_false] at member
  rcases member with rfl | rfl | rfl
  · decide
  · exact digits _ (by omega)
  · exact digits _ (by omega)

/-- A path segment that has been encoded needs no further encoding, as no character of its set
is left. -/
theorem encodeText_passes {text : Text} {character : Char}
    (member : character ∈ encodeText inPathSet text) : inPathSet character = false := by
  obtain ⟨source, -, encoded⟩ := List.mem_flatMap.mp member
  unfold percentEncode at encoded
  split at encoded
  · obtain ⟨byte, -, written⟩ := List.mem_flatMap.mp encoded
    exact (percentByte_passes byte character written).1
  · rename_i plain
    obtain rfl := List.mem_singleton.mp encoded
    simpa using plain

/-- Encoding a path segment brings no separator into it, if there was none. -/
theorem encodeText_separates {text : Text} {character : Char}
    (free : ∀ source ∈ text, source ≠ '/' ∧ source ≠ '\\')
    (member : character ∈ encodeText inPathSet text) : character ≠ '/' ∧ character ≠ '\\' := by
  obtain ⟨source, inside, encoded⟩ := List.mem_flatMap.mp member
  unfold percentEncode at encoded
  split at encoded
  · obtain ⟨byte, -, written⟩ := List.mem_flatMap.mp encoded
    exact (percentByte_passes byte character written).2
  · obtain rfl := List.mem_singleton.mp encoded
    exact free character inside

/-- A text without characters of the set is not touched by the encoding. -/
theorem encodeText_eq_self {inSet : Char → Bool} {text : Text}
    (outside : ∀ character ∈ text, inSet character = false) : encodeText inSet text = text := by
  induction text with
  | nil => rfl
  | cons character text inductionHypothesis =>
    have kept : percentEncode inSet character = [character] := by
      simp [percentEncode, outside character (by simp)]
    have rest := inductionHypothesis (fun later member => outside later (by simp [member]))
    simp only [encodeText, List.flatMap_cons] at rest ⊢
    rw [kept, rest, List.singleton_append]

example : encodeURIComponent "é&b c".toList = "%C3%A9%26b%20c".toList := by decide

example : formPairs "q=%C3%A9%26b+c&x".toList =
    [("q".toList, "é&b c".toList), ("x".toList, [])] := by decide

end ShoppingCS.Web
