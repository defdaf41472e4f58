import Mathlib.Data.List.Basic
import Mathlib.Data.List.Nodup

/-!
# Tables with a unique key

A table is a list of rows in insertion order in which no two rows share a key.
The uniqueness proof is part of the table, so an insertion that would violate it
has no result, and every other operation proves once that it keeps it.

`get?` is the table's meaning: a partial function from keys to rows. Each
operation has one law saying what it does to that function.
-/

namespace Storage

variable {Row Key : Type} [DecidableEq Key] {key : Row → Key}

/-- Rows in insertion order, no two with the same key. -/
@[ext] structure KeyedTable (Row Key : Type) (key : Row → Key) where
  rows : List Row
  unique : (rows.map key).Nodup

namespace KeyedTable

/-- The table without rows, whose keys are trivially distinct. -/
def empty : KeyedTable Row Key key := ⟨[], List.nodup_nil⟩

/-- The row with the given key, if there is one; the keys being distinct, there is no other.
-/
def get? (table : KeyedTable Row Key key) (wanted : Key) : Option Row :=
  table.rows.find? (fun row => decide (key row = wanted))

/-- A lookup returns a stored row with the wanted key. -/
theorem get?_sound {table : KeyedTable Row Key key} {wanted : Key} {row : Row}
    (found : table.get? wanted = some row) : row ∈ table.rows ∧ key row = wanted := by
  refine ⟨List.mem_of_find?_eq_some found, ?_⟩
  simpa using List.find?_some found

/-- A row that is stored is found under its key, because no other row can be found there
first. -/
theorem get?_complete {table : KeyedTable Row Key key} {row : Row} (stored : row ∈ table.rows) :
    table.get? (key row) = some row := by
  cases found : table.get? (key row) with
  | none =>
    have absent := List.find?_eq_none.mp found row stored
    simp at absent
  | some other =>
    obtain ⟨otherStored, same⟩ := get?_sound found
    rw [List.inj_on_of_nodup_map table.unique otherStored stored same]

/-- Lookup and membership say the same thing, as the keys are distinct. -/
theorem get?_eq_some {table : KeyedTable Row Key key} {wanted : Key} {row : Row} :
    table.get? wanted = some row ↔ row ∈ table.rows ∧ key row = wanted := by
  constructor
  · exact get?_sound
  · rintro ⟨stored, rfl⟩
    exact get?_complete stored

/-- A key is absent exactly when no row carries it. -/
theorem get?_eq_none {table : KeyedTable Row Key key} {wanted : Key} :
    table.get? wanted = none ↔ ∀ row ∈ table.rows, key row ≠ wanted := by
  simp [get?, List.find?_eq_none]

@[simp] theorem get?_empty (wanted : Key) :
    (empty : KeyedTable Row Key key).get? wanted = none := rfl

/-- Append a row whose key is free, which keeps the keys distinct. -/
def insertFree (table : KeyedTable Row Key key) (row : Row)
    (free : table.get? (key row) = none) : KeyedTable Row Key key where
  rows := table.rows ++ [row]
  unique := by
    rw [List.map_append, List.map_singleton, List.nodup_append]
    refine ⟨table.unique, List.nodup_singleton _, ?_⟩
    intro stored member other singleton
    obtain ⟨existing, present, rfl⟩ := List.mem_map.mp member
    obtain rfl := List.mem_singleton.mp singleton
    exact get?_eq_none.mp free existing present

/-- Insert a row at the end; a key that is taken rejects it. -/
def insert? (table : KeyedTable Row Key key) (row : Row) : Option (KeyedTable Row Key key) :=
  if free : table.get? (key row) = none then some (table.insertFree row free) else none

/-- An insertion is rejected exactly when its key is taken. -/
theorem insert?_eq_none {table : KeyedTable Row Key key} {row : Row} :
    table.insert? row = none ↔ table.get? (key row) ≠ none := by
  by_cases free : table.get? (key row) = none <;> simp [insert?, free]

/-- An accepted insertion had a free key and appends the row. -/
theorem insert?_eq_some {table next : KeyedTable Row Key key} {row : Row} :
    table.insert? row = some next ↔
      table.get? (key row) = none ∧ next.rows = table.rows ++ [row] := by
  by_cases free : table.get? (key row) = none
  · have inserted : table.insert? row = some (table.insertFree row free) := by simp [insert?, free]
    rw [inserted, Option.some.injEq, KeyedTable.ext_iff]
    exact ⟨fun same => ⟨free, same.symm⟩, fun result => result.2.symm⟩
  · simp [insert?, free]

/-- After an accepted insertion, the new key leads to the new row and every
other key to what it led to before. -/
theorem get?_insert {table next : KeyedTable Row Key key} {row : Row}
    (inserted : table.insert? row = some next) (wanted : Key) :
    next.get? wanted = if key row = wanted then some row else table.get? wanted := by
  obtain ⟨free, rows⟩ := insert?_eq_some.mp inserted
  unfold get? at free ⊢
  rw [rows, List.find?_append]
  by_cases same : key row = wanted
  · subst same
    simp [free]
  · simp [same]

/-- Keep the rows that satisfy a test, in their order. -/
def keep (table : KeyedTable Row Key key) (test : Row → Bool) : KeyedTable Row Key key where
  rows := table.rows.filter test
  unique := table.unique.sublist (List.filter_sublist.map key)

/-- Filtering leads a key to its row when the row passes, and nowhere else. -/
theorem get?_keep (table : KeyedTable Row Key key) (test : Row → Bool) (wanted : Key) :
    (table.keep test).get? wanted = (table.get? wanted).filter test := by
  cases found : table.get? wanted with
  | none =>
    rw [Option.filter_none, get?_eq_none]
    intro row member
    exact get?_eq_none.mp found row (List.mem_of_mem_filter member)
  | some row =>
    obtain ⟨stored, rfl⟩ := get?_sound found
    by_cases passes : test row = true
    · rw [Option.filter_some_pos passes]
      exact get?_complete (List.mem_filter.mpr ⟨stored, passes⟩)
    · rw [Option.filter_some_neg (Bool.eq_false_iff.mpr passes), get?_eq_none]
      intro other member same
      obtain ⟨otherStored, otherPasses⟩ := List.mem_filter.mp member
      rw [List.inj_on_of_nodup_map table.unique otherStored stored same] at otherPasses
      exact passes otherPasses

/-- Rewrite every row by a function that never changes a key. -/
def rewrite (table : KeyedTable Row Key key) (change : Row → Row)
    (keeps : ∀ row, key (change row) = key row) : KeyedTable Row Key key where
  rows := table.rows.map change
  unique := by
    have same : (key ∘ change) = key := funext keeps
    rw [List.map_map, same]
    exact table.unique

/-- After a rewriting that keeps the keys, every key leads to the rewritten row. -/
theorem get?_rewrite (table : KeyedTable Row Key key) (change : Row → Row)
    (keeps : ∀ row, key (change row) = key row) (wanted : Key) :
    (table.rewrite change keeps).get? wanted = (table.get? wanted).map change := by
  cases found : table.get? wanted with
  | none =>
    rw [Option.map_none, get?_eq_none]
    intro row member
    obtain ⟨source, stored, rfl⟩ := List.mem_map.mp member
    rw [keeps]
    exact get?_eq_none.mp found source stored
  | some row =>
    obtain ⟨stored, rfl⟩ := get?_sound found
    rw [Option.map_some, get?_eq_some]
    exact ⟨List.mem_map.mpr ⟨row, stored, rfl⟩, keeps row⟩

/-- Insert a row in place of the one with its key, if there is one. -/
def put (table : KeyedTable Row Key key) (row : Row) : KeyedTable Row Key key :=
  (table.keep (fun stored => decide (key stored ≠ key row))).insertFree row (by
    rw [get?_eq_none]
    intro stored member
    simpa using (List.mem_filter.mp member).2)

/-- After a put, its key leads to the new row and every other key to what it led
to before. -/
theorem get?_put (table : KeyedTable Row Key key) (row : Row) (wanted : Key) :
    (table.put row).get? wanted = if key row = wanted then some row else table.get? wanted := by
  have rows : (table.put row).rows =
      (table.keep (fun stored => decide (key stored ≠ key row))).rows ++ [row] := rfl
  unfold get?
  rw [rows, List.find?_append]
  by_cases same : key row = wanted
  · have gone : (table.keep (fun stored => decide (key stored ≠ key row))).rows.find?
        (fun stored => decide (key stored = wanted)) = none := by
      rw [List.find?_eq_none]
      intro stored member
      have passes : key stored ≠ key row := by simpa using (List.mem_filter.mp member).2
      simpa [← same] using passes
    rw [gone, if_pos same]
    simp [same]
  · have kept := get?_keep table (fun stored => decide (key stored ≠ key row)) wanted
    unfold get? at kept
    rw [kept, if_neg same]
    cases found : table.rows.find? (fun stored => decide (key stored = wanted)) with
    | none => simp [same]
    | some stored =>
      have carries : key stored = wanted := by simpa using List.find?_some found
      have different : key stored ≠ key row := carries ▸ Ne.symm same
      simp [Option.filter, different]

/-- Remove the row with the given key, if there is one. -/
def remove (table : KeyedTable Row Key key) (wanted : Key) : KeyedTable Row Key key :=
  table.keep (fun row => decide (key row ≠ wanted))

/-- After a removal, the key leads nowhere and every other key to what it led to
before. -/
theorem get?_remove (table : KeyedTable Row Key key) (removed wanted : Key) :
    (table.remove removed).get? wanted = if removed = wanted then none else table.get? wanted := by
  rw [remove, get?_keep]
  cases found : table.get? wanted with
  | none => simp
  | some row =>
    obtain ⟨-, rfl⟩ := get?_sound found
    by_cases same : removed = key row
    · simp [same]
    · rw [if_neg same, Option.filter_some_pos]
      simpa using fun same' => same same'.symm

end KeyedTable

end Storage
