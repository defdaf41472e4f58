import Mathlib.Data.String.Basic

/-!
# Texts as PostgreSQL stores them

A text of the database is encoded in UTF-8 and holds no U+0000. A parameter with that
character is refused before the statement is looked at, and so is a value on its way
into a column. A column of bounded width refuses in addition what is too long for it,
with one exception that the standard demands: blanks beyond the width are cut off.
-/

namespace Storage

/-- U+0000 occurs in the text, so the database takes it neither as a parameter nor as
the value of a column. -/
def holdsNul (text : String) : Bool :=
  text.toList.any (fun character => decide (character = Char.ofNat 0))

/-- TEXT: every text is stored as it is, unless it holds U+0000. -/
def unbounded (text : String) : Option String :=
  if holdsNul text then none else some text

/-- VARCHAR(width): a longer text is an error, unless the excess is blank, in
which case it is cut off. -/
def varchar (width : Nat) (text : String) : Option String :=
  if holdsNul text then none
  else if text.length ≤ width then some text
  else if (text.toList.drop width).all (· = ' ') then
    some (String.ofList (text.toList.take width))
  else none

/-- A nullable VARCHAR column stores NULL as it is, and a text as one that is not nullable
does. -/
def nullable (width : Nat) : Option String → Option (Option String)
  | none => some none
  | some text => (varchar width text).map some

/-- A nullable TEXT column stores NULL as it is, and a text as one that is not nullable does.
-/
def nullableText : Option String → Option (Option String)
  | none => some none
  | some text => (unbounded text).map some

/-- A text is free of U+0000 exactly when none of its characters is. -/
theorem holdsNul_eq_false {text : String} :
    holdsNul text = false ↔ ∀ character ∈ text.toList, character ≠ Char.ofNat 0 := by
  rw [holdsNul, List.any_eq_false]
  simp only [decide_eq_true_eq, ne_eq]

/-- Only texts without U+0000 are stored, and they are stored unchanged. -/
theorem unbounded_eq_some {text stored : String} :
    unbounded text = some stored ↔ holdsNul text = false ∧ stored = text := by
  unfold unbounded
  split
  · rename_i nul
    simp [nul]
  · rename_i clean
    simp [clean, eq_comm]

/-- What a column of bounded width takes is no longer than the column, holds no U+0000,
and is empty only if the given text was, unless nothing fits the column at all. -/
theorem varchar_sound {width : Nat} {text stored : String}
    (stores : varchar width text = some stored) :
    holdsNul text = false ∧ holdsNul stored = false ∧ stored.length ≤ width ∧
      (0 < width → text ≠ "" → stored ≠ "") := by
  unfold varchar at stores
  split_ifs at stores with nul short blank
  · obtain rfl := Option.some.inj stores
    exact ⟨by simpa using nul, by simpa using nul, short, fun _ given => given⟩
  · obtain rfl := Option.some.inj stores
    have clean : holdsNul text = false := by simpa using nul
    refine ⟨clean, ?_, ?_, ?_⟩
    · rw [holdsNul_eq_false] at clean ⊢
      intro character member
      rw [String.toList_ofList] at member
      exact clean character (List.mem_of_mem_take member)
    · rw [String.length_ofList, List.length_take]
      exact Nat.min_le_left _ _
    · intro positive given empty
      have length := congrArg String.length empty
      rw [String.length_ofList, List.length_take, String.length_toList, String.length_empty]
        at length
      omega

/-- A text that fits the column and holds no U+0000 is stored as it is. -/
theorem varchar_fits {width : Nat} {text : String} (clean : holdsNul text = false)
    (fits : text.length ≤ width) : varchar width text = some text := by
  simp [varchar, clean, fits]

/-- What is not longer than the column is stored as it is, if it is stored. -/
theorem varchar_short {width : Nat} {text stored : String} (short : text.length ≤ width)
    (stores : varchar width text = some stored) : stored = text := by
  rw [varchar_fits (varchar_sound stores).1 short] at stores
  exact (Option.some.inj stores).symm

/-- What a nullable TEXT column takes it stores unchanged, since it has no length to cut at.
-/
theorem nullableText_eq_some {value stored : Option String}
    (stores : nullableText value = some stored) : stored = value := by
  cases value with
  | none => exact (Option.some.inj stores).symm
  | some text =>
    obtain ⟨kept, unchanged, rfl⟩ := Option.map_eq_some_iff.mp stores
    rw [(unbounded_eq_some.mp unchanged).2]

end Storage
