import Mathlib.Data.List.DropRight
import ShoppingCS.Web.PercentEncoding

/-!
# Paths and queries of HTTP URLs

What the URL standard makes of the part of an HTTP URL after its authority. The
parser drops control characters, treats `\` like `/`, resolves dot segments and
percent-encodes what a path cannot carry. A text is a plain segment if it survives
all of this as one segment. Everything the parser puts into a path is plain, and a
path of plain segments is read back unchanged.

An authority occurs here only in a reference that begins with two slashes. Whether
it is accepted is a parameter.
-/

namespace ShoppingCS.Web

/-- The path and the query of a URL, which is all of it that the listener looks at. -/
structure Url where
  path : List Text
  query : Option Text
deriving DecidableEq

/-- `/` or `\`, which the parser of an HTTP URL takes alike. -/
def isSeparator (character : Char) : Bool := character == '/' || character == '\\'

/-- Control characters and spaces are dropped at the end of the input. -/
def isTrimmed (character : Char) : Bool := character.toNat ≤ 0x20

/-- Tabs and line breaks, which the parser drops wherever they stand. -/
def isTabOrNewline (character : Char) : Bool := [0x09, 0x0A, 0x0D].contains character.toNat

/-- The path ends where the query or the fragment begins. -/
def endsPath (character : Char) : Bool := character == '?' || character == '#'

/-- The input as the parser reads it. The beginning is left alone: it is a slash or
the scheme. -/
def clean (input : Text) : Text :=
  (input.rdropWhile isTrimmed).filter (fun character => !isTabOrNewline character)

/-- The segment `.`, also percent-encoded and in any case. -/
def isSingleDot (segment : Text) : Bool :=
  [".".toList, "%2e".toList].contains (segment.map Char.toLower)

/-- The segment `..`, also with either or both dots percent-encoded. -/
def isDoubleDot (segment : Text) : Bool :=
  ["..".toList, ".%2e".toList, "%2e.".toList, "%2e%2e".toList].contains (segment.map Char.toLower)

/-- Add a segment to a path. A dot segment adds nothing unless it is the last one,
and two dots take a segment away. -/
def pushSegment (path : List Text) (segment : Text) (last : Bool) : List Text :=
  let encoded := encodeText inPathSet segment
  if isDoubleDot encoded then if last then path.dropLast ++ [[]] else path.dropLast
  else if isSingleDot encoded then if last then path ++ [[]] else path
  else path ++ [encoded]

/-- Add all segments of an input to a path, the last one knowing that it is the last. -/
def pushSegments : List Text → List Text → List Text
  | path, [] => path
  | path, [segment] => pushSegment path segment true
  | path, segment :: next :: segments =>
    pushSegments (pushSegment path segment false) (next :: segments)

/-- The segments of a path; the separator in front of the first one is skipped. -/
def segmentsOf (path : Text) : List Text :=
  match path with
  | [] => [[]]
  | first :: rest => (if isSeparator first then rest else path).splitOnP isSeparator

/-- Parse what follows the authority. The fragment is not kept. -/
def parsePath (input : Text) : Url :=
  let rest := input.dropWhile (fun character => !endsPath character)
  { path := pushSegments [] (segmentsOf (input.takeWhile (fun character => !endsPath character)))
    query :=
      if rest.head? = some '?' then
        some (encodeText inSpecialQuerySet ((rest.drop 1).takeWhile (· ≠ '#')))
      else none }

/-- Parse a reference that begins with a slash. A second separator makes what
follows an authority. -/
def parseReference? (authorityAccepted : Text → Bool) (reference : Text) : Option Url :=
  match clean reference with
  | first :: second :: rest =>
    if isSeparator first && isSeparator second then
      let named := rest.dropWhile isSeparator
      let outside := fun character => !(isSeparator character || endsPath character)
      if authorityAccepted (named.takeWhile outside) then some (parsePath (named.dropWhile outside))
      else none
    else some (parsePath (first :: second :: rest))
  | short => some (parsePath short)

namespace Url

/-- A path, with a slash in front of every segment. -/
def join (segments : List Text) : Text := segments.flatMap ('/' :: ·)

/-- `url.pathname`, with a slash before each segment. -/
def pathname (url : Url) : Text := join url.path

/-- The path and query of the request line, as they are sent. -/
def target (url : Url) : Text :=
  url.pathname ++ (match url.query with
    | none => []
    | some query => '?' :: query)

/-- `url.searchParams.get(name)`, the value of the first pair of that name. -/
def searchParam (url : Url) (name : Text) : Option Text := (formPairs (url.query.getD [])).lookup name

end Url

/-- The text passes the parser as one segment: nothing in it is encoded or separates
segments, and it is no dot segment. -/
structure Plain (segment : Text) : Prop where
  passes : ∀ character ∈ segment, inPathSet character = false ∧ isSeparator character = false
  single : isSingleDot segment = false
  double : isDoubleDot segment = false

instance (segment : Text) : Decidable (Plain segment) :=
  decidable_of_iff (segment.all (fun character => !inPathSet character && !isSeparator character) = true ∧
      isSingleDot segment = false ∧ isDoubleDot segment = false)
    ⟨fun ⟨passes, single, double⟩ => ⟨by simpa using passes, single, double⟩,
      fun plain => ⟨by simpa using plain.passes, plain.single, plain.double⟩⟩

theorem plain_nil : Plain [] := by decide

/-- What a path carries as it is, is kept by the parser. -/
theorem passes_kept {character : Char} (passes : inPathSet character = false) :
    isTrimmed character = false ∧ isTabOrNewline character = false ∧ endsPath character = false := by
  simp only [inPathSet, inQuerySet, inControlSet, Bool.or_eq_false_iff, decide_eq_false_iff_not,
    List.contains_eq_mem, List.mem_cons, List.not_mem_nil, or_false, not_or] at passes
  obtain ⟨⟨⟨low, -⟩, space, quote, hash, -⟩, question, -⟩ := passes
  refine ⟨?_, ?_, ?_⟩
  · simp only [isTrimmed, decide_eq_false_iff_not]
    omega
  · simp only [isTabOrNewline, List.contains_eq_mem, List.mem_cons, List.not_mem_nil, or_false,
      decide_eq_false_iff_not]
    omega
  · simp only [endsPath, Bool.or_eq_false_iff, beq_eq_false_iff_ne]
    constructor
    · rintro rfl
      exact question rfl
    · rintro rfl
      exact hash rfl

/-- Cleaning keeps what comes before it and has nothing to drop. -/
theorem clean_append {front : Text}
    (kept : ∀ character ∈ front, isTrimmed character = false ∧ isTabOrNewline character = false)
    (tail : Text) : clean (front ++ tail) = front ++ clean tail := by
  have trimmed : (front ++ tail).rdropWhile isTrimmed = front ++ tail.rdropWhile isTrimmed := by
    induction tail using List.reverseRecOn with
    | nil =>
      have last : front.rdropWhile isTrimmed = front :=
        List.rdropWhile_eq_self_iff.mpr (fun nonempty trimmed => by
          have free := (kept _ (List.getLast_mem nonempty)).1
          simp [trimmed] at free)
      simpa using last
    | append_singleton tail last inductionHypothesis =>
      rw [← List.append_assoc, List.rdropWhile_concat, List.rdropWhile_concat]
      split
      · exact inductionHypothesis
      · rw [List.append_assoc]
  have unfiltered : front.filter (fun character => !isTabOrNewline character) = front :=
    List.filter_eq_self.mpr (fun character member => by simp [(kept character member).2])
  rw [clean, trimmed, List.filter_append, unfiltered, clean]

/-- The codes of letters and digits lie in three ranges. -/
theorem alphanum_code {character : Char} (alphanum : character.isAlphanum = true) :
    (0x30 ≤ character.toNat ∧ character.toNat ≤ 0x39) ∨
      (0x41 ≤ character.toNat ∧ character.toNat ≤ 0x5A) ∨
      (0x61 ≤ character.toNat ∧ character.toNat ≤ 0x7A) := by
  have code : character.toNat = character.val.toNat := rfl
  delta Char.isAlphanum Char.isAlpha Char.isUpper Char.isLower Char.isDigit at alphanum
  simp only [Bool.or_eq_true, Bool.and_eq_true, decide_eq_true_eq] at alphanum
  rcases alphanum with (upper | lower) | digit
  · exact Or.inr (Or.inl upper)
  · exact Or.inr (Or.inr lower)
  · exact Or.inl digit

/-- In lower case they still come after all punctuation a dot segment consists of. -/
theorem toLower_code {character : Char} (alphanum : character.isAlphanum = true) :
    0x30 ≤ character.toLower.toNat := by
  have code := alphanum_code alphanum
  unfold Char.toLower
  split
  · rename_i upper
    have same : character.val.toNat = character.toNat := rfl
    have gap : ('a'.val - 'A'.val).toNat = 0x20 := by decide
    have shifted : (character.val + ('a'.val - 'A'.val)).toNat = character.toNat + 0x20 := by
      rw [UInt32.toNat_add]
      omega
    change 0x30 ≤ (character.val + ('a'.val - 'A'.val)).toNat
    omega
  · omega

/-- A text of letters and digits is plain: it needs no encoding, has no separator and is no
dot segment. -/
theorem plain_of_alphanum {segment : Text}
    (alphanum : ∀ character ∈ segment, character.isAlphanum = true) : Plain segment := by
  have lower {text : Text} {symbol : Char} (early : symbol.toNat < 0x30) (inside : symbol ∈ text) :
      segment.map Char.toLower ≠ text := by
    rintro rfl
    obtain ⟨source, member, rfl⟩ := List.mem_map.mp inside
    have late := toLower_code (alphanum source member)
    omega
  have dot : '.'.toNat < 0x30 := by decide
  have percent : '%'.toNat < 0x30 := by decide
  refine ⟨fun character member => ⟨?_, ?_⟩, ?_, ?_⟩
  · have code := alphanum_code (alphanum character member)
    simp only [inPathSet, inQuerySet, inControlSet, Bool.or_eq_false_iff, decide_eq_false_iff_not,
      List.contains_eq_mem, List.mem_cons, List.not_mem_nil, or_false]
    omega
  · have code := alphanum_code (alphanum character member)
    have slash : character ≠ '/' := by
      rintro rfl
      exact absurd code (by decide)
    have backslash : character ≠ '\\' := by
      rintro rfl
      exact absurd code (by decide)
    simp [isSeparator, slash, backslash]
  · simp only [isSingleDot, List.contains_eq_mem, List.mem_cons, List.not_mem_nil, or_false,
      decide_eq_false_iff_not, not_or]
    exact ⟨lower dot (by simp), lower percent (by simp)⟩
  · simp only [isDoubleDot, List.contains_eq_mem, List.mem_cons, List.not_mem_nil, or_false,
      decide_eq_false_iff_not, not_or]
    exact ⟨lower dot (by simp), lower dot (by simp), lower dot (by simp), lower percent (by simp)⟩

section Parsed

/-- Adding a segment without separators to a path of plain segments adds plain segments only,
as it is encoded first. -/
theorem pushSegment_plain {path : List Text} {segment : Text} (last : Bool)
    (plain : ∀ old ∈ path, Plain old)
    (one : ∀ character ∈ segment, isSeparator character = false) :
    ∀ pushed ∈ pushSegment path segment last, Plain pushed := by
  have shorter : ∀ old ∈ path.dropLast, Plain old :=
    fun old member => plain old (List.dropLast_subset path member)
  have extended {front : List Text} (before : ∀ old ∈ front, Plain old) {new : Text}
      (fits : Plain new) : ∀ pushed ∈ front ++ [new], Plain pushed := by
    intro pushed member
    cases List.mem_append.mp member with
    | inl old => exact before pushed old
    | inr new =>
      obtain rfl := List.mem_singleton.mp new
      exact fits
  have free : ∀ source ∈ segment, source ≠ '/' ∧ source ≠ '\\' := by
    intro source member
    simpa [isSeparator] using one source member
  have passes (character) (member : character ∈ encodeText inPathSet segment) :
      inPathSet character = false ∧ isSeparator character = false := by
    obtain ⟨slash, backslash⟩ := encodeText_separates free member
    exact ⟨encodeText_passes member, by simp [isSeparator, slash, backslash]⟩
  cases double : isDoubleDot (encodeText inPathSet segment) with
  | true =>
    cases last with
    | true => simpa [pushSegment, double] using extended shorter plain_nil
    | false => simpa [pushSegment, double] using shorter
  | false =>
    cases single : isSingleDot (encodeText inPathSet segment) with
    | true =>
      cases last with
      | true => simpa [pushSegment, double, single] using extended plain plain_nil
      | false => simpa [pushSegment, double, single] using plain
    | false =>
      simpa [pushSegment, double, single] using extended plain ⟨passes, single, double⟩

/-- The same for all segments of an input, by induction on them. -/
theorem pushSegments_plain {path segments : List Text} (plain : ∀ old ∈ path, Plain old)
    (split : ∀ segment ∈ segments, ∀ character ∈ segment, isSeparator character = false) :
    ∀ pushed ∈ pushSegments path segments, Plain pushed := by
  induction segments generalizing path with
  | nil => exact plain
  | cons segment segments inductionHypothesis =>
    have one := split segment (by simp)
    cases segments with
    | nil => exact pushSegment_plain true plain one
    | cons next segments =>
      exact inductionHypothesis (pushSegment_plain false plain one)
        (fun later member => split later (List.mem_cons_of_mem _ member))

/-- Splitting a text leaves no separator in any of its segments. -/
theorem splitOnP_free {separates : Char → Bool} {text segment : Text}
    (member : segment ∈ text.splitOnP separates) :
    ∀ character ∈ segment, separates character = false := by
  induction text generalizing segment with
  | nil =>
    obtain rfl : segment = [] := by simpa using member
    simp
  | cons first text inductionHypothesis =>
    rw [List.splitOnP_cons_eq_if_modifyHead] at member
    split at member
    · rcases List.mem_cons.mp member with rfl | later
      · simp
      · exact inductionHypothesis later
    · rename_i kept
      obtain ⟨head, tail, shape⟩ :=
        List.exists_cons_of_ne_nil (List.splitOnP_ne_nil separates text)
      rw [shape, List.modifyHead_cons] at member
      rcases List.mem_cons.mp member with rfl | later
      · intro character inside
        rcases List.mem_cons.mp inside with rfl | inside
        · exact Bool.eq_false_iff.mpr kept
        · exact inductionHypothesis (by rw [shape]; simp) character inside
      · exact inductionHypothesis (by rw [shape]; exact List.mem_cons_of_mem _ later)

/-- The path of a parsed URL has plain segments only, whatever the input was. -/
theorem parsePath_plain (input : Text) : ∀ segment ∈ (parsePath input).path, Plain segment := by
  refine pushSegments_plain (by simp) (fun segment member => ?_)
  unfold segmentsOf at member
  split at member
  · obtain rfl := List.mem_singleton.mp member
    simp
  · exact splitOnP_free member

/-- The path of a parsed reference has plain segments only as well. -/
theorem parseReference?_plain {authorityAccepted : Text → Bool} {reference : Text} {url : Url}
    (parsed : parseReference? authorityAccepted reference = some url) :
    ∀ segment ∈ url.path, Plain segment := by
  unfold parseReference? at parsed
  split at parsed
  · dsimp only at parsed
    split at parsed
    · split at parsed
      · exact Option.some.inj parsed ▸ parsePath_plain _
      · simp at parsed
    · exact Option.some.inj parsed ▸ parsePath_plain _
  · exact Option.some.inj parsed ▸ parsePath_plain _

end Parsed

section ReadBack

variable {segments : List Text} (plain : ∀ segment ∈ segments, Plain segment)

include plain

/-- A joined path contains slashes and what its segments contain. -/
theorem join_passes : ∀ character ∈ Url.join segments, inPathSet character = false := by
  intro character member
  obtain ⟨segment, inside, written⟩ := List.mem_flatMap.mp member
  rcases List.mem_cons.mp written with rfl | written
  · decide
  · exact ((plain segment inside).passes character written).1

/-- Cleaning an input keeps a joined path in front of it, as plain segments have nothing to be
dropped. -/
theorem clean_join_append (tail : Text) :
    clean (Url.join segments ++ tail) = Url.join segments ++ clean tail := by
  refine clean_append ?_ tail
  intro character member
  obtain ⟨kept, inside, -⟩ := passes_kept (join_passes plain character member)
  exact ⟨kept, inside⟩

/-- Splitting finds the segments that have been joined, since none of them has a separator. -/
theorem splitOnP_join {first : Text} (one : Plain first) :
    (first ++ Url.join segments).splitOnP isSeparator = first :: segments := by
  have free {segment : Text} (fits : Plain segment) :
      ∀ character ∈ segment, isSeparator character = false :=
    fun character member => (fits.passes character member).2
  induction segments generalizing first with
  | nil =>
    simp only [Url.join, List.flatMap_nil, List.append_nil]
    exact List.splitOnP_eq_singleton (free one)
  | cons next segments inductionHypothesis =>
    have shape : first ++ Url.join (next :: segments) =
        first ++ '/' :: (next ++ Url.join segments) := by
      simp [Url.join]
    rw [shape, List.splitOnP_append_cons_of_forall_mem (free one) '/' rfl,
      inductionHypothesis (fun later member => plain later (List.mem_cons_of_mem _ member))
        (plain next (by simp))]

/-- Plain segments are added to a path as they are, by induction on them. -/
theorem pushSegments_eq (path : List Text) : pushSegments path segments = path ++ segments := by
  have pushed {segment : Text} (fits : Plain segment) (path : List Text) (last : Bool) :
      pushSegment path segment last = path ++ [segment] := by
    have same := encodeText_eq_self (fun character member => (fits.passes character member).1)
    simp [pushSegment, same, fits.double, fits.single]
  induction segments generalizing path with
  | nil => simp [pushSegments]
  | cons segment segments inductionHypothesis =>
    have fits := plain segment (by simp)
    cases segments with
    | nil => exact pushed fits path true
    | cons next segments =>
      rw [pushSegments, pushed fits,
        inductionHypothesis (fun later member => plain later (List.mem_cons_of_mem _ member))]
      simp

/-- The parts of a cleaned input that begins with a joined path. -/
theorem parsePath_join {tail : Text} (nonempty : segments ≠ [])
    (ends : ∀ character ∈ tail.head?, endsPath character = true) :
    (parsePath (Url.join segments ++ tail)).path = segments ∧
      (tail = [] → (parsePath (Url.join segments ++ tail)).query = none) := by
  have inside : ∀ character ∈ Url.join segments, (!endsPath character) = true := by
    intro character member
    simp [(passes_kept (join_passes plain character member)).2.2]
  have front : (Url.join segments ++ tail).takeWhile (fun character => !endsPath character) =
      Url.join segments := by
    rw [List.takeWhile_append_of_pos inside]
    cases tail with
    | nil => simp
    | cons first tail => simp [ends first (by simp)]
  have back : (Url.join segments ++ tail).dropWhile (fun character => !endsPath character) = tail := by
    rw [List.dropWhile_append_of_pos inside]
    cases tail with
    | nil => simp
    | cons first tail => simp [ends first (by simp)]
  simp only [parsePath, front, back]
  refine ⟨?_, by rintro rfl; rfl⟩
  obtain ⟨first, rest, rfl⟩ := List.exists_cons_of_ne_nil nonempty
  have found : segmentsOf (Url.join (first :: rest)) = first :: rest := by
    have shape : Url.join (first :: rest) = '/' :: (first ++ Url.join rest) := by simp [Url.join]
    rw [shape, segmentsOf]
    exact splitOnP_join (fun later member => plain later (by simp [member])) (plain first (by simp))
  rw [found, pushSegments_eq plain, List.nil_append]

/-- `path.split('/')` gives the segments, after an empty one in front of the first slash. -/
theorem splitOn_pathname (query : Option Text) :
    (Url.pathname ⟨segments, query⟩).splitOn '/' = [] :: segments := by
  have joined : Url.join segments = ['/'].intercalate ([] :: segments) := by
    induction segments with
    | nil => rfl
    | cons segment segments inductionHypothesis =>
      have rest := inductionHypothesis
        (fun later member => plain later (List.mem_cons_of_mem _ member))
      simp only [Url.join, List.flatMap_cons] at rest ⊢
      rw [rest]
      cases segments with
      | nil => simp [List.intercalate]
      | cons next segments => simp [List.intercalate]
  rw [Url.pathname, joined]
  refine List.splitOn_intercalate '/' (fun segment member slash => ?_) (by simp)
  rcases List.mem_cons.mp member with rfl | member
  · simp at slash
  · exact absurd ((plain segment member).passes '/' slash).2 (by decide)

end ReadBack

/-- A reference with a plain, non-empty first segment has no authority. -/
theorem parseReference?_join {authorityAccepted : Text → Bool} {first : Text} {segments : List Text}
    (plain : ∀ segment ∈ first :: segments, Plain segment) (nonempty : first ≠ []) (tail : Text) :
    parseReference? authorityAccepted (Url.join (first :: segments) ++ tail) =
      some (parsePath (Url.join (first :: segments) ++ clean tail)) := by
  obtain ⟨character, rest, rfl⟩ := List.exists_cons_of_ne_nil nonempty
  have notSeparator := ((plain (character :: rest) (by simp)).passes character (by simp)).2
  have shape : Url.join ((character :: rest) :: segments) ++ clean tail =
      '/' :: character :: (rest ++ Url.join segments ++ clean tail) := by
    simp [Url.join]
  rw [parseReference?, clean_join_append plain, shape]
  simp [notSeparator]

end ShoppingCS.Web
