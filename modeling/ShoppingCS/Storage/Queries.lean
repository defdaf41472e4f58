import Mathlib.Data.List.InsertIdx
import Mathlib.Data.List.Perm.Basic

/-!
# What a query leaves open, and text patterns

A query without an ordering clause returns its rows in an order of the
database's choosing. `reorder` turns a list of positions into such an order: it
only permutes, and every permutation is one of its results. A statement about
all position lists is therefore a statement about all row orders.

`like` is the matcher for patterns in which a percent sign stands for any text,
an underscore for any character, and a backslash makes the next character literal.
-/

namespace Storage

variable {α : Type}

/-- Insert each row into the reordered rest at the position chosen for it.
Missing positions mean the front, excessive ones the back. -/
def reorder : List Nat → List α → List α
  | _, [] => []
  | [], rows => rows
  | position :: positions, row :: rows =>
      (reorder positions rows).insertIdx (min position rows.length) row

@[simp] theorem reorder_nil (rows : List α) : reorder [] rows = rows := by
  cases rows <;> rfl

/-- Reordering neither loses nor repeats a row, whatever positions are asked for. -/
theorem reorder_perm (positions : List Nat) (rows : List α) :
    (reorder positions rows).Perm rows := by
  induction rows generalizing positions with
  | nil => cases positions <;> exact List.Perm.refl []
  | cons row rows inductionHypothesis =>
    cases positions with
    | nil => exact List.Perm.refl _
    | cons position positions =>
      have rest : (reorder positions rows).Perm rows := inductionHypothesis positions
      have inside : min position rows.length ≤ (reorder positions rows).length := by
        rw [rest.length_eq]
        exact Nat.min_le_right _ _
      exact (List.perm_insertIdx row _ inside).trans (rest.cons row)

/-- Inserting at the end of the front part inserts between the two parts. -/
theorem insertIdx_between (before after : List α) (row : α) :
    (before ++ after).insertIdx before.length row = before ++ row :: after := by
  induction before with
  | nil => rfl
  | cons first before inductionHypothesis =>
    exact congrArg (first :: ·) inductionHypothesis

/-- Every permutation of the rows is the result of some choice of positions. -/
theorem reorder_complete (rows wanted : List α) (same : wanted.Perm rows) :
    ∃ positions, reorder positions rows = wanted := by
  induction rows generalizing wanted with
  | nil => exact ⟨[], same.eq_nil.symm⟩
  | cons row rows inductionHypothesis =>
    have present : row ∈ wanted := same.mem_iff.mpr List.mem_cons_self
    obtain ⟨before, after, rfl⟩ := List.append_of_mem present
    have rest : (before ++ after).Perm rows :=
      (List.perm_middle.symm.trans same).cons_inv
    obtain ⟨positions, reordered⟩ := inductionHypothesis (before ++ after) rest
    refine ⟨before.length :: positions, ?_⟩
    have bounded : before.length ≤ rows.length := by
      rw [← rest.length_eq, List.length_append]
      exact Nat.le_add_right _ _
    rw [reorder, Nat.min_eq_left bounded, reordered, insertIdx_between]

theorem reorder_eq_nil (positions : List Nat) (rows : List α) :
    reorder positions rows = [] ↔ rows = [] := by
  constructor
  · intro empty
    exact (empty ▸ (reorder_perm positions rows).symm).eq_nil
  · rintro rfl
    cases positions <;> rfl

/-- Match a text against a pattern. A pattern that ends in an escape character
matches nothing. -/
def like : List Char → List Char → Bool
  | [], text => text.isEmpty
  | '%' :: pattern, text => text.tails.any (fun suffix => like pattern suffix)
  | '_' :: pattern, text =>
      match text with
      | [] => false
      | _ :: rest => like pattern rest
  | '\\' :: escaped, text =>
      match escaped, text with
      | literal :: pattern, character :: rest => decide (character = literal) && like pattern rest
      | _, _ => false
  | literal :: pattern, text =>
      match text with
      | [] => false
      | character :: rest => decide (character = literal) && like pattern rest

example : like "%lap%".toList "my laptop".toList = true := by decide

end Storage
