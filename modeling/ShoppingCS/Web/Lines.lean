import ShoppingCS.Web.Json
import Mathlib.Data.List.TakeWhile

/-!
# Texts framed as lines

A writer puts one newline behind each message; a reader cuts at newlines. Messages
without newlines come back. The line scanner is that of `bufio` over a finite stream: it
drops one carriage return from the end of a line, takes a last line without a newline,
and stops at a line for which, with its line end, the buffer has no room.
-/

namespace ShoppingCS.Web

/-- The byte that ends a line, a line feed. -/
def newline : UInt8 := 0x0A

/-- The byte that may stand in front of the end of a line, and is dropped then. -/
def carriageReturn : UInt8 := 0x0D

/-- `dropCR`, which takes one carriage return off the end of a line. -/
def dropReturn (line : List UInt8) : List UInt8 :=
  if line.getLast? = some carriageReturn then line.dropLast else line

/-- `bufio.MaxScanTokenSize`, the longest line the scanner has room for. -/
def maxScanTokenSize : Nat := 64 * 1024

/-- `Scanner.Scan` with `ScanLines`: the next line and what follows it. -/
def scan (stream : List UInt8) : Option (List UInt8 × List UInt8) :=
  if stream = [] then none
  else
    let line := stream.takeWhile (· != newline)
    if line.length + 1 ≤ maxScanTokenSize then
      some (dropReturn line, (stream.dropWhile (· != newline)).drop 1)
    else none

/-- The lines of a stream until the scanner stops, at its end or at a line that is too long.
-/
def scanLines : (steps : Nat) → (stream : List UInt8) → List (List UInt8)
  | 0, _ => []
  | steps + 1, stream =>
    match scan stream with
    | some (line, rest) => line :: scanLines steps rest
    | none => []

/-- All lines of a stream. Each has at least one byte of it. -/
def scanAll (stream : List UInt8) : List (List UInt8) := scanLines stream.length stream

/-- Every line of the stream has room in the buffer, with a line end. -/
def Fits (stream : List UInt8) : Prop :=
  ∀ line ∈ stream.splitOn newline, line.length + 1 ≤ maxScanTokenSize

/-- The lines of a stream that hold more than a carriage return. -/
def filledLines (stream : List UInt8) : List (List UInt8) :=
  ((stream.splitOn newline).map dropReturn).filter (· ≠ [])

/-- A message with the end of line that is sent behind it. -/
def frame (message : List UInt8) : List UInt8 := message ++ [newline]

/-- A stream without newlines, or its first line and what follows. -/
theorem first_line (stream : List UInt8) :
    newline ∉ stream ∨ ∃ line rest, newline ∉ line ∧ stream = line ++ newline :: rest := by
  by_cases member : newline ∈ stream
  · obtain ⟨line, rest, same, unseen⟩ := List.eq_append_cons_of_mem member
    exact Or.inr ⟨line, rest, unseen, same⟩
  · exact Or.inl member

/-- The scanner passes over the bytes of a line, as none of them is its end. -/
theorem passes_line {line : List UInt8} (whole : newline ∉ line) :
    ∀ byte ∈ line, (byte != newline) = true := by
  intro byte member
  rw [bne_iff_ne]
  intro same
  exact whole (same ▸ member)

/-- A last line without an end is scanned as a line, if it is not empty. -/
theorem scan_last {line : List UInt8} (filled : line ≠ []) (whole : newline ∉ line)
    (fits : line.length + 1 ≤ maxScanTokenSize) : scan line = some (dropReturn line, []) := by
  have passes := passes_line whole
  have taken : line.takeWhile (· != newline) = line := List.takeWhile_eq_self_iff.mpr passes
  have dropped : line.dropWhile (· != newline) = [] := List.dropWhile_eq_nil_iff.mpr passes
  rw [scan, if_neg filled]
  simp only [taken, dropped, if_pos fits, List.drop_nil]

/-- A line with its end is scanned, and what follows it is left. -/
theorem scan_line {line : List UInt8} (rest : List UInt8) (whole : newline ∉ line)
    (fits : line.length + 1 ≤ maxScanTokenSize) :
    scan (line ++ newline :: rest) = some (dropReturn line, rest) := by
  have passes := passes_line whole
  have taken : (line ++ newline :: rest).takeWhile (· != newline) = line := by
    rw [List.takeWhile_append_of_pos passes, List.takeWhile_cons_of_neg (by simp), List.append_nil]
  have dropped : (line ++ newline :: rest).dropWhile (· != newline) = newline :: rest := by
    rw [List.dropWhile_append_of_pos passes, List.dropWhile_cons_of_neg (by simp)]
  rw [scan, if_neg (by simp)]
  simp only [taken, dropped, if_pos fits, List.drop_succ_cons, List.drop_zero]

/-- The filled lines of a stream are its first line, if that is filled, and those behind it.
-/
theorem filledLines_cons {line : List UInt8} (rest : List UInt8) (whole : newline ∉ line) :
    filledLines (line ++ newline :: rest) =
      [dropReturn line].filter (· ≠ []) ++ filledLines rest := by
  rw [filledLines, List.splitOn_append_cons_self_of_not_mem whole, List.map_cons,
    ← List.singleton_append, List.filter_append, filledLines]

/-- The scanner finds the lines of a stream whose lines fit. -/
theorem scanLines_filled {steps : Nat} {stream : List UInt8} (enough : stream.length ≤ steps)
    (fits : Fits stream) : (scanLines steps stream).filter (· ≠ []) = filledLines stream := by
  induction steps generalizing stream with
  | zero =>
    obtain rfl : stream = [] := List.eq_nil_of_length_eq_zero (Nat.le_zero.mp enough)
    rfl
  | succ steps inductionHypothesis =>
    cases first_line stream with
    | inl whole =>
      have only : stream.splitOn newline = [stream] := List.splitOn_eq_singleton whole
      by_cases empty : stream = []
      · subst empty
        rfl
      · have room := fits stream (by rw [only]; exact List.mem_cons_self)
        have ended : scanLines steps [] = [] := by cases steps <;> rfl
        rw [scanLines, scan_last empty whole room, filledLines, only]
        simp only [ended, List.map_cons, List.map_nil]
    | inr begins =>
      obtain ⟨line, rest, whole, rfl⟩ := begins
      have parts : (line ++ newline :: rest).splitOn newline = line :: rest.splitOn newline :=
        List.splitOn_append_cons_self_of_not_mem whole rest
      have room := fits line (by rw [parts]; exact List.mem_cons_self)
      have later : Fits rest := by
        intro other member
        exact fits other (by rw [parts]; exact List.mem_cons_of_mem _ member)
      rw [List.length_append, List.length_cons] at enough
      rw [scanLines, scan_line rest whole room, filledLines_cons rest whole]
      simp only
      rw [← inductionHypothesis (by omega) later, ← List.filter_append]
      rfl

/-- For a stream whose lines fit, the scanner's lines are its filled ones, up to empty lines.
-/
theorem scanAll_filled {stream : List UInt8} (fits : Fits stream) :
    (scanAll stream).filter (· ≠ []) = filledLines stream :=
  scanLines_filled (Nat.le_refl _) fits

/-- Framed messages are cut apart where they were framed, if none has a line break in it. -/
theorem splitOn_frames {messages : List (List UInt8)}
    (whole : ∀ message ∈ messages, newline ∉ message) :
    (messages.flatMap frame).splitOn newline = messages ++ [[]] := by
  induction messages with
  | nil => rfl
  | cons message messages inductionHypothesis =>
    obtain ⟨first, later⟩ := List.forall_mem_cons.mp whole
    rw [List.flatMap_cons, frame, List.append_assoc, List.singleton_append,
      List.splitOn_append_cons_self_of_not_mem first, inductionHypothesis later, List.cons_append]

/-- A byte below 128 in a UTF-8 text is a character of the text. -/
theorem ascii_mem_encodeUtf8 {text : Text} {byte : UInt8} (ascii : byte.toNat < 0x80)
    (member : byte ∈ encodeUtf8 text) : ∃ character ∈ text, character.toNat = byte.toNat := by
  obtain ⟨character, within, listed⟩ := List.mem_flatMap.mp member
  have range := char_range character
  have later (bits : Nat) : byte ≠ continuation bits := by
    intro same
    rw [same, continuation_toNat] at ascii
    omega
  have first {value : Nat} (high : 0x80 ≤ value) (small : value < 0x100) :
      byte ≠ UInt8.ofNat value := by
    intro same
    rw [same, byte_toNat small] at ascii
    omega
  refine ⟨character, within, ?_⟩
  rw [utf8EncodeChar_eq] at listed
  split_ifs at listed
  · rw [List.mem_singleton] at listed
    rw [listed, byte_toNat (by omega)]
    rfl
  all_goals
    simp only [List.mem_cons, List.not_mem_nil, or_false, later] at listed
    exact absurd listed (first (by omega) (by omega))

/-- The bytes of a printable text have no line break among them. -/
theorem Printable.encoded_line {text : Text} (printable : Printable text) :
    newline ∉ encodeUtf8 text := by
  intro member
  obtain ⟨character, within, same⟩ := ascii_mem_encodeUtf8 (by decide) member
  have visible := printable character within
  rw [same] at visible
  exact absurd visible (by decide)

end ShoppingCS.Web
