import ShoppingCS.Web.PercentEncoding
import Mathlib.Tactic.Common

/-!
# UTF-8 and its boundaries

A text in UTF-8 decodes to itself. Of the bytes of a character only the first can begin
one, so a cut in front of a byte that begins a character lies between two characters, and
a decoder writes at least one character for each byte that begins one.
-/

namespace ShoppingCS.Web

/-- A text in UTF-8, character by character. -/
def encodeUtf8 (text : Text) : List UInt8 := text.flatMap String.utf8EncodeChar

/-- A byte that stands inside a character, never at its beginning. -/
def continuesUtf8 (byte : UInt8) : Bool := 0x80 ≤ byte.toNat && byte.toNat ≤ 0xBF

/-- How many of the bytes are no continuation, which is how many characters begin among them.
-/
def beginnings (bytes : List UInt8) : Nat := bytes.countP (fun byte => !continuesUtf8 byte)

/-- A sequence whose next byte must be a continuation, as every sequence asks at least. -/
def Utf8Sequence.Awaits (sequence : Utf8Sequence) : Prop :=
  0x80 ≤ sequence.lower ∧ sequence.upper ≤ 0xBF

/-- The bounds for a next byte never leave the continuations. -/
theorem beginUtf8_awaits {byte : Nat} {begun : Utf8Sequence}
    (begins : beginUtf8 byte = .inr begun) : begun.Awaits := by
  unfold beginUtf8 at begins
  split_ifs at begins
  all_goals
    have same := Sum.inr.inj begins
    subst same
    constructor <;> dsimp only <;> omega

/-- A continuation byte where no sequence is open is replaced. -/
theorem beginUtf8_continuation {byte : UInt8} (continues : continuesUtf8 byte = true) :
    beginUtf8 byte.toNat = .inl replacement := by
  simp only [continuesUtf8, Bool.and_eq_true, decide_eq_true_eq] at continues
  obtain ⟨lower, upper⟩ := continues
  unfold beginUtf8
  rw [if_neg (by omega), if_neg (by omega), if_neg (by omega), if_neg (by omega)]

/-- The text of a byte between characters: the character it is, or what follows the
sequence it begins. -/
theorem decodeUtf8_between (byte : UInt8) (rest : List UInt8) :
    decodeUtf8 none (byte :: rest) =
      match beginUtf8 byte.toNat with
      | .inl character => character :: decodeUtf8 none rest
      | .inr begun => decodeUtf8 (some begun) rest := by
  cases begins : beginUtf8 byte.toNat <;> simp only [decodeUtf8, begins]

/-- A byte that does not continue the sequence ends it with a replacement. -/
theorem decodeUtf8_outside {sequence : Utf8Sequence} {byte : UInt8} (rest : List UInt8)
    (outside : ¬ (sequence.lower ≤ byte.toNat ∧ byte.toNat ≤ sequence.upper)) :
    decodeUtf8 (some sequence) (byte :: rest) = replacement :: decodeUtf8 none (byte :: rest) := by
  rw [decodeUtf8_between]
  cases begins : beginUtf8 byte.toNat <;> simp only [decodeUtf8, if_neg outside, begins]

/-- The last byte of a sequence completes its character. -/
theorem decodeUtf8_last {sequence : Utf8Sequence} {byte : UInt8} (rest : List UInt8)
    (inside : sequence.lower ≤ byte.toNat ∧ byte.toNat ≤ sequence.upper)
    (last : sequence.needed = 1) :
    decodeUtf8 (some sequence) (byte :: rest) =
      Char.ofNat (0x40 * sequence.bits + (byte.toNat - 0x80)) :: decodeUtf8 none rest := by
  simp only [decodeUtf8, if_pos inside, if_pos last]

/-- A byte of a sequence that needs more is taken into it. -/
theorem decodeUtf8_more {sequence : Utf8Sequence} {byte : UInt8} (rest : List UInt8)
    (inside : sequence.lower ≤ byte.toNat ∧ byte.toNat ≤ sequence.upper)
    (more : sequence.needed ≠ 1) :
    decodeUtf8 (some sequence) (byte :: rest) =
      decodeUtf8 (some ⟨sequence.needed - 1, 0x40 * sequence.bits + (byte.toNat - 0x80),
        0x80, 0xBF⟩) rest := by
  simp only [decodeUtf8, if_pos inside, if_neg more]

/-- At least one character is written for every byte that begins one, and one more for a
sequence that is still open. -/
theorem beginnings_le_decoded (bytes : List UInt8) :
    beginnings bytes ≤ (decodeUtf8 none bytes).length ∧
      ∀ sequence : Utf8Sequence, sequence.Awaits →
        beginnings bytes + 1 ≤ (decodeUtf8 (some sequence) bytes).length := by
  induction bytes with
  | nil =>
    constructor
    · exact Nat.zero_le _
    · intro sequence _
      exact Nat.le_refl 1
  | cons byte rest inductionHypothesis =>
    obtain ⟨between, within⟩ := inductionHypothesis
    have added : beginnings (byte :: rest) ≤ beginnings rest + 1 := by
      unfold beginnings
      rw [List.countP_cons]
      split <;> omega
    have fresh : beginnings (byte :: rest) ≤ (decodeUtf8 none (byte :: rest)).length := by
      rw [decodeUtf8_between]
      cases begins : beginUtf8 byte.toNat with
      | inl character =>
        simp only [List.length_cons]
        omega
      | inr begun =>
        have longer := within begun (beginUtf8_awaits begins)
        simp only
        omega
    constructor
    · exact fresh
    · intro sequence awaits
      by_cases inside : sequence.lower ≤ byte.toNat ∧ byte.toNat ≤ sequence.upper
      · have continues : continuesUtf8 byte = true := by
          simp only [continuesUtf8, Bool.and_eq_true, decide_eq_true_eq]
          obtain ⟨low, high⟩ := awaits
          omega
        have same : beginnings (byte :: rest) = beginnings rest := by
          simp [beginnings, continues]
        rw [same]
        by_cases last : sequence.needed = 1
        · rw [decodeUtf8_last rest inside last, List.length_cons]
          exact Nat.succ_le_succ between
        · rw [decodeUtf8_more rest inside last]
          exact within _ ⟨Nat.le_refl _, Nat.le_refl _⟩
      · rw [decodeUtf8_outside rest inside, List.length_cons]
        exact Nat.succ_le_succ fresh

/-- A piece that starts inside a character decodes to too many characters. -/
theorem beginnings_lt_decoded {byte : UInt8} (rest : List UInt8)
    (continues : continuesUtf8 byte = true) :
    beginnings (byte :: rest) < (decodeUtf8 none (byte :: rest)).length := by
  have same : beginnings (byte :: rest) = beginnings rest := by
    simp [beginnings, continues]
  rw [decodeUtf8_between, beginUtf8_continuation continues, same, List.length_cons]
  exact Nat.lt_succ_of_le (beginnings_le_decoded rest).1

/-- The code points a character can have, on both sides of the surrogates. -/
theorem char_range (character : Char) :
    character.val.toNat < 0xD800 ∨ 0xDFFF < character.val.toNat ∧ character.val.toNat < 0x110000 :=
  character.valid

/-- A character is read back from the number of its code point. -/
theorem char_ofNat {character : Char} {point : Nat} (same : point = character.val.toNat) :
    Char.ofNat point = character := by
  rw [same]
  exact Char.ofNat_toNat character

theorem byte_toNat {value : Nat} (small : value < 0x100) : (UInt8.ofNat value).toNat = value :=
  UInt8.toNat_ofNat_of_lt' small

/-- Six bits of a code point, in a continuation byte. -/
def continuation (bits : Nat) : UInt8 := UInt8.ofNat (bits % 0x40 + 0x80)

/-- What a continuation byte counts as, its six bits above the mark. -/
theorem continuation_toNat (bits : Nat) : (continuation bits).toNat = bits % 0x40 + 0x80 :=
  byte_toNat (by omega)

/-- A byte made of six bits in this way is a continuation. -/
theorem continuation_continues (bits : Nat) : continuesUtf8 (continuation bits) = true := by
  simp only [continuesUtf8, Bool.and_eq_true, decide_eq_true_eq, continuation_toNat]
  omega

/-- A character in UTF-8, with its continuation bytes named, for each of the four lengths. -/
theorem utf8EncodeChar_eq (character : Char) :
    String.utf8EncodeChar character =
      if character.val.toNat ≤ 0x7F then [UInt8.ofNat character.val.toNat]
      else if character.val.toNat ≤ 0x7FF then
        [UInt8.ofNat (character.val.toNat / 0x40 % 0x20 + 0xC0), continuation character.val.toNat]
      else if character.val.toNat ≤ 0xFFFF then
        [UInt8.ofNat (character.val.toNat / 0x1000 % 0x10 + 0xE0),
          continuation (character.val.toNat / 0x40), continuation character.val.toNat]
      else
        [UInt8.ofNat (character.val.toNat / 0x40000 % 8 + 0xF0),
          continuation (character.val.toNat / 0x1000),
          continuation (character.val.toNat / 0x40), continuation character.val.toNat] := by
  rfl

/-- The first bytes of the four widths are no continuations. -/
theorem first_begins {value : Nat} (small : value < 0x100)
    (outside : value < 0x80 ∨ 0xC0 ≤ value) : continuesUtf8 (UInt8.ofNat value) = false := by
  simp only [continuesUtf8, Bool.and_eq_false_iff, decide_eq_false_iff_not]
  rw [byte_toNat small]
  omega

/-- Exactly the first byte of a character's encoding is no continuation. -/
theorem utf8EncodeChar_shape (character : Char) :
    ∃ first rest, String.utf8EncodeChar character = first :: rest ∧
      continuesUtf8 first = false ∧ ∀ byte ∈ rest, continuesUtf8 byte = true := by
  have range := char_range character
  rw [utf8EncodeChar_eq]
  split_ifs
  all_goals
    apply Exists.intro _
    apply Exists.intro _
    constructor
    · rfl
    constructor
    · exact first_begins (by omega) (by omega)
    · simp [continuation_continues]

/-- The last continuation byte completes a character by its six bits. -/
theorem decodeUtf8_finish {needed bits lower upper : Nat} (value : Nat) (rest : List UInt8)
    (inside : lower ≤ value % 0x40 + 0x80 ∧ value % 0x40 + 0x80 ≤ upper) (last : needed = 1) :
    decodeUtf8 (some ⟨needed, bits, lower, upper⟩) (continuation value :: rest) =
      Char.ofNat (0x40 * bits + value % 0x40) :: decodeUtf8 none rest := by
  rw [decodeUtf8_last rest (by rw [continuation_toNat]; exact inside) last, continuation_toNat,
    Nat.add_sub_cancel]

/-- A continuation byte with more to come adds its six bits to the sequence. -/
theorem decodeUtf8_continue {needed bits lower upper : Nat} (value : Nat) (rest : List UInt8)
    (inside : lower ≤ value % 0x40 + 0x80 ∧ value % 0x40 + 0x80 ≤ upper) (more : needed ≠ 1) :
    decodeUtf8 (some ⟨needed, bits, lower, upper⟩) (continuation value :: rest) =
      decodeUtf8 (some ⟨needed - 1, 0x40 * bits + value % 0x40, 0x80, 0xBF⟩) rest := by
  rw [decodeUtf8_more rest (by rw [continuation_toNat]; exact inside) more, continuation_toNat,
    Nat.add_sub_cancel]

/-- A byte of the ASCII range is a character by itself. -/
theorem beginUtf8_one {value : Nat} (small : value ≤ 0x7F) :
    beginUtf8 value = .inl (Char.ofNat value) := by
  unfold beginUtf8
  rw [if_pos (by omega)]

/-- The first byte of two opens a sequence that needs one more. -/
theorem beginUtf8_two {bits : Nat} (low : 2 ≤ bits) (high : bits < 0x20) :
    beginUtf8 (bits + 0xC0) = .inr ⟨1, bits, 0x80, 0xBF⟩ := by
  unfold beginUtf8
  rw [if_neg (by omega), if_pos (by omega), Nat.add_sub_cancel]

/-- The first byte of three opens a sequence that needs two more, with a narrower range for
the second byte in two cases. -/
theorem beginUtf8_three {bits : Nat} (high : bits < 0x10) :
    beginUtf8 (bits + 0xE0) =
      .inr ⟨2, bits, if bits = 0 then 0xA0 else 0x80, if bits = 0xD then 0x9F else 0xBF⟩ := by
  unfold beginUtf8
  rw [if_neg (by omega), if_neg (by omega), if_pos (by omega), Nat.add_sub_cancel]
  simp only [Nat.add_eq_right, show bits + 0xE0 = 0xED ↔ bits = 0xD by omega]

/-- The first byte of four opens a sequence that needs three more, with a narrower range for
the second byte in two cases. -/
theorem beginUtf8_four {bits : Nat} (high : bits ≤ 4) :
    beginUtf8 (bits + 0xF0) =
      .inr ⟨3, bits, if bits = 0 then 0x90 else 0x80, if bits = 4 then 0x8F else 0xBF⟩ := by
  unfold beginUtf8
  rw [if_neg (by omega), if_neg (by omega), if_neg (by omega), if_pos (by omega),
    Nat.add_sub_cancel]
  simp only [Nat.add_eq_right, show bits + 0xF0 = 0xF4 ↔ bits = 4 by omega]

/-- The bytes of a character decode to it, whatever follows. -/
theorem decodeUtf8_char (character : Char) (rest : List UInt8) :
    decodeUtf8 none (String.utf8EncodeChar character ++ rest) =
      character :: decodeUtf8 none rest := by
  have range := char_range character
  rw [utf8EncodeChar_eq]
  split_ifs with one two three
  · rw [List.singleton_append, decodeUtf8_between, byte_toNat (by omega), beginUtf8_one one]
    simp only [char_ofNat rfl]
  · rw [List.cons_append, List.singleton_append, decodeUtf8_between, byte_toNat (by omega),
      beginUtf8_two (by omega) (by omega)]
    simp only
    rw [decodeUtf8_finish _ rest (by omega) rfl, @char_ofNat character _ (by omega)]
  · rw [List.cons_append, List.cons_append, List.singleton_append, decodeUtf8_between,
      byte_toNat (by omega), beginUtf8_three (by omega)]
    simp only
    rw [decodeUtf8_continue _ _ (by split_ifs <;> omega) (by decide),
      decodeUtf8_finish _ rest (by omega) rfl, @char_ofNat character _ (by omega)]
  · rw [List.cons_append, List.cons_append, List.cons_append, List.singleton_append,
      decodeUtf8_between, byte_toNat (by omega), beginUtf8_four (by omega)]
    simp only
    rw [decodeUtf8_continue _ _ (by split_ifs <;> omega) (by decide),
      decodeUtf8_continue _ _ (by omega) (by decide),
      decodeUtf8_finish _ rest (by omega) rfl, @char_ofNat character _ (by omega)]

/-- Whole characters decode by themselves, whatever bytes follow them; by induction on the
characters. -/
theorem decodeUtf8_append (text : Text) (rest : List UInt8) :
    decodeUtf8 none (encodeUtf8 text ++ rest) = text ++ decodeUtf8 none rest := by
  induction text with
  | nil => rfl
  | cons character text inductionHypothesis =>
    rw [encodeUtf8, List.flatMap_cons, List.append_assoc, decodeUtf8_char]
    exact congrArg (character :: ·) inductionHypothesis

/-- A text survives being encoded in UTF-8 and decoded again. -/
theorem decodeUtf8_encodeUtf8 (text : Text) : decodeUtf8 none (encodeUtf8 text) = text := by
  have whole := decodeUtf8_append text []
  rw [List.append_nil] at whole
  rw [whole, decodeUtf8, List.append_nil]

/-- A text has one byte that begins a character for each of its characters. -/
theorem beginnings_encodeUtf8 (text : Text) : beginnings (encodeUtf8 text) = text.length := by
  induction text with
  | nil => rfl
  | cons character text inductionHypothesis =>
    obtain ⟨first, rest, bytes, begins, continues⟩ := utf8EncodeChar_shape character
    have none_begins : rest.countP (fun byte => !continuesUtf8 byte) = 0 := by
      rw [List.countP_eq_zero]
      intro byte member
      simp [continues byte member]
    unfold beginnings at inductionHypothesis ⊢
    rw [encodeUtf8, List.flatMap_cons, bytes, List.countP_append, List.countP_cons, none_begins,
      ← encodeUtf8, inductionHypothesis, begins, List.length_cons]
    simp only [Bool.not_false, if_true]
    omega

/-- The first of the bytes stands inside a character, being a continuation. -/
def startsInside (bytes : List UInt8) : Bool := bytes.head?.any continuesUtf8

/-- A cut in front of a byte that begins a character lies between two characters. -/
theorem encodeUtf8_cut {text : Text} {left right : List UInt8}
    (parts : left ++ right = encodeUtf8 text) (starts : startsInside right = false) :
    ∃ before after, text = before ++ after ∧ left = encodeUtf8 before ∧ right = encodeUtf8 after := by
  induction text generalizing left with
  | nil =>
    obtain ⟨rfl, rfl⟩ := List.append_eq_nil_iff.mp parts
    exact ⟨[], [], rfl, rfl, rfl⟩
  | cons character text inductionHypothesis =>
    cases left with
    | nil => exact ⟨[], character :: text, rfl, rfl, parts⟩
    | cons head left =>
      rw [encodeUtf8, List.flatMap_cons, ← encodeUtf8] at parts
      obtain ⟨first, rest, bytes, -, continues⟩ := utf8EncodeChar_shape character
      have longer : ∃ more, head :: left = String.utf8EncodeChar character ++ more ∧
          more ++ right = encodeUtf8 text := by
        cases List.append_eq_append_iff.mp parts with
        | inl shorter =>
          obtain ⟨missing, whole, tail⟩ := shorter
          cases missing with
          | nil =>
            rw [List.append_nil] at whole
            exact ⟨[], by rw [whole, List.append_nil], tail⟩
          | cons byte missing =>
            rw [bytes, List.cons_append] at whole
            have member : byte ∈ rest := by
              rw [(List.cons.inj whole).2]
              simp
            rw [tail, List.cons_append] at starts
            simp [startsInside, continues byte member] at starts
        | inr longer =>
          obtain ⟨more, whole, tail⟩ := longer
          exact ⟨more, whole, tail.symm⟩
      obtain ⟨more, whole, tail⟩ := longer
      obtain ⟨before, after, rfl, rfl, rfl⟩ := inductionHypothesis tail
      exact ⟨character :: before, after, rfl, whole, rfl⟩

/-- If none of the pieces starts inside a character, neither does the whole. -/
theorem startsInside_flatten {pieces : List (List UInt8)}
    (starts : ∀ piece ∈ pieces, startsInside piece = false) :
    startsInside pieces.flatten = false := by
  induction pieces with
  | nil => rfl
  | cons piece pieces inductionHypothesis =>
    obtain ⟨first, later⟩ := List.forall_mem_cons.mp starts
    cases piece with
    | nil => exact inductionHypothesis later
    | cons byte rest => exact first

/-- Pieces that are cut between characters decode, piece by piece, to the characters. -/
theorem decodeUtf8_pieces_whole {text : Text} {pieces : List (List UInt8)}
    (parts : pieces.flatten = encodeUtf8 text)
    (starts : ∀ piece ∈ pieces, startsInside piece = false) :
    pieces.flatMap (decodeUtf8 none) = text := by
  induction pieces generalizing text with
  | nil => rw [← decodeUtf8_encodeUtf8 text, ← parts, List.flatten_nil, List.flatMap_nil, decodeUtf8]
  | cons piece pieces inductionHypothesis =>
    obtain ⟨-, later⟩ := List.forall_mem_cons.mp starts
    rw [List.flatten_cons] at parts
    obtain ⟨before, after, rfl, rfl, rest⟩ := encodeUtf8_cut parts (startsInside_flatten later)
    rw [List.flatMap_cons, decodeUtf8_encodeUtf8, inductionHypothesis rest later]

/-- Decoding piece by piece never loses a character: it yields at least one for every
beginning. -/
theorem beginnings_le_pieces (pieces : List (List UInt8)) :
    beginnings pieces.flatten ≤ (pieces.flatMap (decodeUtf8 none)).length := by
  induction pieces with
  | nil => exact Nat.le_refl 0
  | cons piece pieces inductionHypothesis =>
    have here := (beginnings_le_decoded piece).1
    unfold beginnings at here inductionHypothesis ⊢
    rw [List.flatten_cons, List.countP_append, List.flatMap_cons, List.length_append]
    omega

/-- A piece that starts inside a character adds one that is not there. -/
theorem beginnings_lt_pieces {pieces : List (List UInt8)} {piece : List UInt8}
    (member : piece ∈ pieces) (inside : startsInside piece = true) :
    beginnings pieces.flatten < (pieces.flatMap (decodeUtf8 none)).length := by
  obtain ⟨before, after, rfl⟩ := List.append_of_mem member
  have earlier := beginnings_le_pieces before
  have later := beginnings_le_pieces after
  have here : beginnings piece < (decodeUtf8 none piece).length := by
    cases piece with
    | nil => exact absurd inside (by decide)
    | cons byte rest => exact beginnings_lt_decoded rest inside
  unfold beginnings at earlier later here ⊢
  simp only [List.flatten_append, List.flatten_cons, List.countP_append, List.flatMap_append,
    List.flatMap_cons, List.length_append]
  omega

/-- A text decoded piece by piece comes out whole exactly when no piece starts inside a
character. -/
theorem decodeUtf8_pieces_iff {text : Text} {pieces : List (List UInt8)}
    (parts : pieces.flatten = encodeUtf8 text) :
    pieces.flatMap (decodeUtf8 none) = text ↔ ∀ piece ∈ pieces, startsInside piece = false := by
  constructor
  · intro whole piece member
    rw [Bool.eq_false_iff]
    intro inside
    have more := beginnings_lt_pieces member inside
    rw [parts, whole, beginnings_encodeUtf8] at more
    exact Nat.lt_irrefl _ more
  · exact decodeUtf8_pieces_whole parts

end ShoppingCS.Web
