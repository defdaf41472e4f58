import ShoppingCS.Storage.KeyedTable

/-!
# Tables whose entries expire

A key leads to a value until the deadline of its entry has passed. An entry
without a deadline stays until it is removed. An expired entry may still be in
the table, but no lookup returns it: `find?` is the meaning of the table at an
instant.
-/

namespace Storage

variable {Key Value : Type}

/-- A value with the last instant at which it is still there. -/
structure Entry (Key Value : Type) where
  key : Key
  value : Value
  deadline : Option Int
deriving DecidableEq

/-- The deadline of the entry has not passed at this time; an entry without one lives for
ever. -/
def Entry.LiveAt (entry : Entry Key Value) (now : Int) : Prop :=
  ∀ deadline ∈ entry.deadline, now ≤ deadline

instance (entry : Entry Key Value) (now : Int) : Decidable (entry.LiveAt now) :=
  match held : entry.deadline with
  | none => isTrue (by simp [Entry.LiveAt, held])
  | some deadline => decidable_of_iff (now ≤ deadline) (by simp [Entry.LiveAt, held])

/-- An entry that is live at some time was live at every earlier one, so what has expired
stays expired. -/
theorem Entry.LiveAt.mono {entry : Entry Key Value} {now later : Int}
    (live : entry.LiveAt later) (order : now ≤ later) : entry.LiveAt now :=
  fun deadline held => Int.le_trans order (live deadline held)

/-- A table of entries with one entry for each key, whether it has expired or not. -/
abbrev ExpiringTable (Key Value : Type) [DecidableEq Key] := KeyedTable (Entry Key Value) Key Entry.key

namespace ExpiringTable

variable [DecidableEq Key]

/-- The entry that a lookup at this time returns, which skips one that has expired. -/
def find? (table : ExpiringTable Key Value) (now : Int) (key : Key) : Option (Entry Key Value) :=
  (table.get? key).filter (fun entry => decide (entry.LiveAt now))

/-- A lookup returns the stored entry while it is live. -/
theorem find?_eq_some {table : ExpiringTable Key Value} {now : Int} {key : Key}
    {entry : Entry Key Value} :
    table.find? now key = some entry ↔ table.get? key = some entry ∧ entry.LiveAt now := by
  simp [find?, Option.filter_eq_some_iff]

/-- A lookup of a key without an entry returns nothing. -/
theorem find?_absent {table : ExpiringTable Key Value} {key : Key} (absent : table.get? key = none)
    (now : Int) : table.find? now key = none := by
  simp [find?, absent]

end ExpiringTable

end Storage
