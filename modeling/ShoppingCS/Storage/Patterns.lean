import ShoppingCS.Storage.Queries
import Mathlib.Data.List.Infix

/-!
# Patterns made from search texts

A search text between two percent signs is a pattern. It matches exactly the texts that
contain the search text if no character of the search text has a meaning of its own in a
pattern. If one has, the pattern matches some text that does not contain the search text:
the shortest one it matches.
-/

namespace Storage

/-- The characters that have a meaning of their own in a pattern, the backslash among them. -/
def wildcards : List Char := ['%', '_', '\\']

/-- The pattern for a search text anywhere in a text, between two percent signs. -/
def containing (search : List Char) : List Char := '%' :: search ++ ['%']

/-- A percent sign stands for any beginning of the text, the empty one included. -/
theorem like_percent (pattern text : List Char) :
    like ('%' :: pattern) text = true ↔ ∃ suffix, suffix <:+ text ∧ like pattern suffix = true := by
  have tried : like ('%' :: pattern) text = text.tails.any (like pattern) := rfl
  rw [tried, List.any_eq_true]
  simp only [List.mem_tails]

/-- An underscore stands for any one character. -/
theorem like_underscore (pattern rest : List Char) (character : Char) :
    like ('_' :: pattern) (character :: rest) = like pattern rest := rfl

/-- A character behind a backslash stands for itself. -/
theorem like_escaped (pattern rest : List Char) (literal : Char) :
    like ('\\' :: literal :: pattern) (literal :: rest) = like pattern rest := by
  have compared : like ('\\' :: literal :: pattern) (literal :: rest) =
      (decide (literal = literal) && like pattern rest) := rfl
  simp [compared]

/-- Any character that is no wildcard stands for itself. -/
theorem like_literal {literal : Char} (plain : literal ∉ wildcards) (pattern text : List Char) :
    like (literal :: pattern) text = true ↔
      ∃ rest, text = literal :: rest ∧ like pattern rest = true := by
  simp only [wildcards, List.mem_cons, List.not_mem_nil, or_false, not_or] at plain
  obtain ⟨percent, underscore, escape⟩ := plain
  cases text with
  | nil => simp [like]
  | cons character rest =>
    simp only [like, Bool.and_eq_true, decide_eq_true_eq, List.cons.injEq]
    constructor
    · rintro ⟨rfl, matched⟩
      exact ⟨rest, ⟨rfl, rfl⟩, matched⟩
    · rintro ⟨others, ⟨rfl, rfl⟩, matched⟩
      exact ⟨rfl, matched⟩

/-- A percent sign at the end of a pattern matches whatever is left. -/
theorem like_anything (text : List Char) : like ['%'] text = true :=
  (like_percent [] text).mpr ⟨[], List.nil_suffix, rfl⟩

/-- Plain characters followed by anything match what begins with them. -/
theorem like_start {search : List Char} (plain : ∀ character ∈ search, character ∉ wildcards)
    (text : List Char) : like (search ++ ['%']) text = true ↔ search <+: text := by
  induction search generalizing text with
  | nil => simp [like_anything]
  | cons character search inductionHypothesis =>
    obtain ⟨here, later⟩ := List.forall_mem_cons.mp plain
    rw [List.cons_append, like_literal here]
    constructor
    · rintro ⟨rest, rfl, matched⟩
      exact (List.cons_prefix_cons).mpr ⟨rfl, (inductionHypothesis later rest).mp matched⟩
    · rintro ⟨rest, rfl⟩
      exact ⟨search ++ rest, rfl, (inductionHypothesis later _).mpr (List.prefix_append search rest)⟩

/-- Plain characters between percent signs match exactly the texts that contain them. -/
theorem like_containing {search : List Char}
    (plain : ∀ character ∈ search, character ∉ wildcards) (text : List Char) :
    like (containing search) text = true ↔ search <:+: text := by
  rw [containing, List.cons_append, like_percent, List.infix_iff_prefix_suffix]
  apply exists_congr
  intro suffix
  rw [like_start plain]
  exact and_comm

/-- The shortest text that a search text between percent signs matches. The character for
an underscore is arbitrary; a backslash at the end escapes the last percent sign. -/
def shortest (filler : Char) : List Char → List Char
  | [] => []
  | '%' :: pattern => shortest filler pattern
  | '_' :: pattern => filler :: shortest filler pattern
  | ['\\'] => ['%']
  | '\\' :: literal :: pattern => literal :: shortest filler pattern
  | literal :: pattern => literal :: shortest filler pattern

/-- The last case of the definition is that of a plain character, as the others exclude it. -/
theorem plain_of_cases {literal : Char} {pattern : List Char} (percent : literal = '%' → False)
    (underscore : literal = '_' → False) (last : literal = '\\' → pattern = [] → False)
    (escape : ∀ next rest, literal = '\\' → pattern = next :: rest → False) :
    literal ∉ wildcards := by
  intro wild
  simp only [wildcards, List.mem_cons, List.not_mem_nil, or_false] at wild
  rcases wild with same | same | same
  · exact percent same
  · exact underscore same
  · cases pattern with
    | nil => exact last same rfl
    | cons next pattern => exact escape next pattern same rfl

/-- The shortest text is matched by the pattern it is made for. -/
theorem like_shortest (filler : Char) (search : List Char) :
    like (containing search) (shortest filler search) = true := by
  rw [containing, List.cons_append, like_percent]
  apply Exists.intro (shortest filler search)
  constructor
  · exact List.suffix_refl _
  · fun_induction shortest filler search with
    | case1 => exact like_anything []
    | case2 pattern inductionHypothesis =>
      exact (like_percent _ _).mpr ⟨_, List.suffix_refl _, inductionHypothesis⟩
    | case3 pattern inductionHypothesis =>
      rw [List.cons_append, like_underscore]
      exact inductionHypothesis
    | case4 => decide
    | case5 literal pattern inductionHypothesis =>
      rw [List.cons_append, List.cons_append, like_escaped]
      exact inductionHypothesis
    | case6 literal pattern percent underscore last escape inductionHypothesis =>
      rw [List.cons_append, like_literal (plain_of_cases percent underscore last escape)]
      exact ⟨_, rfl, inductionHypothesis⟩

/-- The shortest text is not longer than the search text, since each character of it comes
from one of the search. -/
theorem shortest_length_le (filler : Char) (search : List Char) :
    (shortest filler search).length ≤ search.length := by
  fun_induction shortest filler search <;> simp only [List.length_cons, List.length_nil] <;> omega

/-- It is made of the characters of the search text, fillers and a percent sign. -/
theorem mem_shortest {filler : Char} {search : List Char} {character : Char}
    (member : character ∈ shortest filler search) :
    character = filler ∨ character = '%' ∨ character ∈ search := by
  fun_induction shortest filler search with
  | case1 => exact absurd member (by simp)
  | case2 pattern inductionHypothesis =>
    have found := inductionHypothesis member
    simp only [List.mem_cons]
    tauto
  | case3 pattern inductionHypothesis =>
    simp only [List.mem_cons] at member ⊢
    tauto
  | case4 =>
    simp only [List.mem_cons, List.not_mem_nil] at member
    tauto
  | case5 literal pattern inductionHypothesis =>
    simp only [List.mem_cons] at member ⊢
    tauto
  | case6 literal pattern percent underscore last escape inductionHypothesis =>
    simp only [List.mem_cons] at member ⊢
    tauto

/-- Only a search text without wildcards is the shortest text it matches. -/
theorem shortest_eq_self {filler : Char} (other : filler ≠ '_') {search : List Char}
    (same : shortest filler search = search) : ∀ character ∈ search, character ∉ wildcards := by
  fun_induction shortest filler search with
  | case1 => simp
  | case2 pattern inductionHypothesis =>
    have shorter := shortest_length_le filler pattern
    rw [same, List.length_cons] at shorter
    omega
  | case3 pattern inductionHypothesis => exact absurd (List.cons.inj same).1 other
  | case4 => exact absurd (List.cons.inj same).1 (by decide)
  | case5 literal pattern inductionHypothesis =>
    have shorter := shortest_length_le filler pattern
    rw [(List.cons.inj same).2, List.length_cons] at shorter
    omega
  | case6 literal pattern percent underscore last escape inductionHypothesis =>
    rw [List.forall_mem_cons]
    constructor
    · exact plain_of_cases percent underscore last escape
    · exact inductionHypothesis (List.cons.inj same).2

/-- With a wildcard the search text is not part of it. -/
theorem not_infix_shortest {filler : Char} (other : filler ≠ '_') {search : List Char}
    (wild : ¬ ∀ character ∈ search, character ∉ wildcards) :
    ¬ search <:+: shortest filler search := by
  intro inside
  have same := inside.eq_of_length_le (shortest_length_le filler search)
  exact wild (shortest_eq_self other same.symm)

end Storage
