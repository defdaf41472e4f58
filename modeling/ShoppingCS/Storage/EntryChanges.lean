import Mathlib.Algebra.Group.Basic
import Mathlib.Algebra.Group.Int.Defs

/-!
# Changes of one entry that arrive out of order

An entry of a map is there with a value, or not there. A change leaves it alone, adds to
it, sets it if it is there, or replaces it by a given entry, which may be none. Changes are
made in one order at one place and arrive in another order at a second place, and the
question is when both places end with the same entry.

A change may overtake an older one if the two commute. It may also overtake an older one
with which it does not commute, if a change that comes after the older one decides the
entry anyway: a replacement always does, and a second setting does if all the two can
disagree about is the value of an entry that is there.
-/

namespace Storage

/-- What can be done to one entry of a map. -/
inductive EntryChange (Value : Type) where
  | keep
  | add (amount : Value)
  | set (value : Value)
  | put (entry : Option Value)
deriving DecidableEq

namespace EntryChange

variable {Value : Type}

section Arithmetic

variable [AddCommMonoid Value]

/-- The entry after a change. An addition to no entry makes one, and setting no entry does
nothing. -/
def apply : EntryChange Value → Option Value → Option Value
  | .keep, entry => entry
  | .add amount, entry => some (entry.getD 0 + amount)
  | .set value, entry => entry.map (fun _ => value)
  | .put replacement, _ => replacement

/-- The entry after several changes, made in their order. -/
def applyAll (entry : Option Value) (changes : List (EntryChange Value)) : Option Value :=
  changes.foldl (fun entry change => change.apply entry) entry

@[simp] theorem applyAll_nil (entry : Option Value) : applyAll entry [] = entry := rfl

@[simp] theorem applyAll_cons (entry : Option Value) (change : EntryChange Value)
    (changes : List (EntryChange Value)) :
    applyAll entry (change :: changes) = applyAll (change.apply entry) changes := rfl

theorem applyAll_append (entry : Option Value) (first second : List (EntryChange Value)) :
    applyAll entry (first ++ second) = applyAll (applyAll entry first) second :=
  List.foldl_append

end Arithmetic

/-- Two changes lead to the same entry in either order: one of them does nothing, both add,
both set or replace alike, or one of them sets what the other one leaves there or leaves
out. -/
def Commutes : EntryChange Value → EntryChange Value → Prop
  | .keep, _ => True
  | _, .keep => True
  | .add _, .add _ => True
  | .set first, .set second => first = second
  | .put first, .put second => first = second
  | .set value, .put entry => ∀ present ∈ entry, present = value
  | .put entry, .set value => ∀ present ∈ entry, present = value
  | _, _ => False

instance [DecidableEq Value] : (first second : EntryChange Value) → Decidable (Commutes first second)
  | .keep, _ => isTrue trivial
  | .add _, .keep => isTrue trivial
  | .add _, .add _ => isTrue trivial
  | .add _, .set _ => isFalse id
  | .add _, .put _ => isFalse id
  | .set _, .keep => isTrue trivial
  | .set _, .add _ => isFalse id
  | .set first, .set second => inferInstanceAs (Decidable (first = second))
  | .set value, .put entry => inferInstanceAs (Decidable (∀ present ∈ entry, present = value))
  | .put _, .keep => isTrue trivial
  | .put _, .add _ => isFalse id
  | .put entry, .set value => inferInstanceAs (Decidable (∀ present ∈ entry, present = value))
  | .put first, .put second => inferInstanceAs (Decidable (first = second))

/-- The change sets the value of an entry that is there, and makes none. -/
def isSet : EntryChange Value → Bool
  | .set _ => true
  | _ => false

/-- The third change decides the entry, whichever of the first two came last: it replaces
the entry, or all three set it, so that it is there either way. -/
def Decides (first second : EntryChange Value) : EntryChange Value → Prop
  | .put _ => True
  | .set _ => first.isSet = true ∧ second.isSet = true
  | _ => False

/-- A change may be made before older ones instead of after them, with newer ones still to
come: it commutes with each of the older ones, or a change that comes after that one, older
or newer, decides the entry. -/
def MayOvertake (change : EntryChange Value) (newer : List (EntryChange Value)) :
    List (EntryChange Value) → Prop
  | [] => True
  | older :: rest =>
    (older.Commutes change ∨ ∃ later ∈ rest ++ newer, Decides older change later) ∧
      MayOvertake change newer rest

instance (first second : EntryChange Value) :
    (later : EntryChange Value) → Decidable (Decides first second later)
  | .keep => isFalse id
  | .add _ => isFalse id
  | .set _ => inferInstanceAs (Decidable (first.isSet = true ∧ second.isSet = true))
  | .put _ => isTrue trivial

instance decidableMayOvertake [DecidableEq Value] (change : EntryChange Value)
    (newer : List (EntryChange Value)) :
    (older : List (EntryChange Value)) → Decidable (MayOvertake change newer older)
  | [] => isTrue trivial
  | _ :: rest => @instDecidableAnd _ _ _ (decidableMayOvertake change newer rest)

/-- A change that does nothing may overtake all others. -/
theorem mayOvertake_keep (newer older : List (EntryChange Value)) :
    MayOvertake .keep newer older := by
  induction older with
  | nil => trivial
  | cons first rest inductionHypothesis =>
    refine ⟨Or.inl ?_, inductionHypothesis⟩
    cases first <;> trivial

section Overtaking

variable [AddCommMonoid Value]

/-- Changes that commute lead to the same entry, whatever it was before. The proof goes
through the pairs of kinds; those that do not commute are excluded by their hypothesis. -/
theorem Commutes.apply_comm {first second : EntryChange Value} (commutes : first.Commutes second)
    (entry : Option Value) : second.apply (first.apply entry) = first.apply (second.apply entry) := by
  cases first with
  | keep => rfl
  | add amount =>
    cases second with
    | keep => rfl
    | add other => simp [apply, add_right_comm]
    | set value => exact commutes.elim
    | put replacement => exact commutes.elim
  | set value =>
    cases second with
    | keep => rfl
    | add amount => exact commutes.elim
    | set other =>
      obtain rfl : value = other := commutes
      rfl
    | put replacement =>
      cases replacement with
      | none => rfl
      | some present =>
        obtain rfl : present = value := commutes present rfl
        rfl
  | put replacement =>
    cases second with
    | keep => rfl
    | add amount => exact commutes.elim
    | set value =>
      cases replacement with
      | none => rfl
      | some present =>
        obtain rfl : present = value := commutes present rfl
        rfl
    | put other =>
      obtain rfl : replacement = other := commutes
      rfl

/-- Both entries are there, or neither is. Every change keeps this, and a setting makes
the entries equal. -/
theorem apply_isSome {entry other : Option Value} (same : entry.isSome = other.isSome)
    (change : EntryChange Value) : (change.apply entry).isSome = (change.apply other).isSome := by
  cases change with
  | keep => exact same
  | add amount => rfl
  | set value => simpa [apply] using same
  | put replacement => rfl

/-- A setting neither makes an entry nor takes one away. -/
theorem isSome_apply_set {change : EntryChange Value} (sets : change.isSet = true)
    (entry : Option Value) : (change.apply entry).isSome = entry.isSome := by
  cases change with
  | set value => simp [apply]
  | _ => simp [isSet] at sets

/-- Two entries that are both there or both not there end alike if one of the changes sets
or replaces them. -/
theorem applyAll_eq_of_set {entry other : Option Value} (same : entry.isSome = other.isSome)
    {changes : List (EntryChange Value)}
    (decided : ∃ later ∈ changes, (∃ value, later = .set value) ∨ ∃ replacement, later = .put replacement) :
    applyAll entry changes = applyAll other changes := by
  induction changes generalizing entry other with
  | nil =>
    obtain ⟨later, member, -⟩ := decided
    exact absurd member (by simp)
  | cons change changes inductionHypothesis =>
    obtain ⟨later, member, sets⟩ := decided
    cases List.mem_cons.mp member with
    | inl here =>
      subst here
      rw [applyAll_cons, applyAll_cons]
      apply congrArg (fun entry => applyAll entry changes)
      rcases sets with ⟨value, rfl⟩ | ⟨replacement, rfl⟩
      · cases entry <;> cases other <;> first | rfl | simp at same
      · rfl
    | inr further => exact inductionHypothesis (apply_isSome same change) ⟨later, further, sets⟩

/-- Any two entries end alike if one of the changes replaces them. -/
theorem applyAll_eq_of_put (entry other : Option Value) {changes : List (EntryChange Value)}
    {replacement : Option Value} (replaced : .put replacement ∈ changes) :
    applyAll entry changes = applyAll other changes := by
  induction changes generalizing entry other with
  | nil => exact absurd replaced (by simp)
  | cons change changes inductionHypothesis =>
    cases List.mem_cons.mp replaced with
    | inl here =>
      subst here
      rfl
    | inr further => exact inductionHypothesis _ _ further

/-- Two neighbouring changes may be exchanged if they commute, or if a later change decides
the entry. -/
theorem applyAll_exchange {first second : EntryChange Value} {changes : List (EntryChange Value)}
    (allowed : first.Commutes second ∨ ∃ later ∈ changes, Decides first second later)
    (entry : Option Value) :
    applyAll entry (second :: first :: changes) = applyAll entry (first :: second :: changes) := by
  simp only [applyAll_cons]
  rcases allowed with commutes | ⟨later, member, decides⟩
  · rw [commutes.apply_comm]
  · cases later with
    | keep => exact decides.elim
    | add amount => exact decides.elim
    | set value =>
      obtain ⟨sets, others⟩ := decides
      apply applyAll_eq_of_set ?_ ⟨.set value, member, Or.inl ⟨value, rfl⟩⟩
      rw [isSome_apply_set others, isSome_apply_set sets, isSome_apply_set sets,
        isSome_apply_set others]
    | put replacement => exact applyAll_eq_of_put _ _ member

/-- A change that may overtake the older ones leads to the same entry if it is made before
them. The proof moves it past one of them at a time, and the changes that are still to come
are those behind both. -/
theorem applyAll_overtake {change : EntryChange Value} {newer older : List (EntryChange Value)}
    (allowed : MayOvertake change newer older) (entry : Option Value) :
    applyAll (change.apply entry) (older ++ newer) = applyAll entry (older ++ change :: newer) := by
  induction older generalizing entry with
  | nil => rfl
  | cons first rest inductionHypothesis =>
    obtain ⟨exchange, others⟩ := allowed
    have exchanged := applyAll_exchange exchange entry
    rw [List.cons_append, ← applyAll_cons, exchanged, applyAll_cons, applyAll_cons,
      inductionHypothesis others]
    rfl

end Overtaking

end EntryChange

end Storage
