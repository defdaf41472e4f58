import Mathlib.Data.List.Basic

/-!
# Stable sorting of parts of a list

Sorting is stable, so elements of a part of a list come out in the order in which they
come out of the whole list: leaving elements out before sorting or behind it is the same.
The comparison is total and transitive; elements that are equal for it may be different.
-/

namespace Storage

variable {α : Type} {le : α → α → Bool}

/-- The first element goes in front of everything that is not before it. -/
theorem mergeSort_cons_eq (trans : ∀ first second third, le first second → le second third →
      le first third) (total : ∀ first second, le first second || le second first)
    (item : α) (items : List α) :
    (item :: items).mergeSort le =
      (items.mergeSort le).filter (fun other => !le item other) ++
        item :: (items.mergeSort le).filter (le item) := by
  obtain ⟨front, back, whole, rest, strictly⟩ := List.mergeSort_cons trans total item items
  have behind : ∀ other ∈ back, le item other = true := by
    have sorted := List.pairwise_mergeSort trans total (item :: items)
    rw [whole] at sorted
    have tail := (List.pairwise_append.mp sorted).2.1
    exact (List.pairwise_cons.mp tail).1
  have kept : back.filter (le item) = back := List.filter_eq_self.mpr behind
  have dropped : back.filter (fun other => !le item other) = [] := by
    apply List.filter_eq_nil_iff.mpr
    intro other member
    simp [behind other member]
  have strict : front.filter (fun other => !le item other) = front :=
    List.filter_eq_self.mpr strictly
  have early : front.filter (le item) = [] := by
    apply List.filter_eq_nil_iff.mpr
    intro other member
    simpa using strictly other member
  rw [whole, rest, List.filter_append, List.filter_append, strict, early, dropped, kept,
    List.append_nil, List.nil_append]

/-- The elements of a part come out in the order of the whole. -/
theorem mergeSort_sublist (trans : ∀ first second third, le first second → le second third →
      le first third) (total : ∀ first second, le first second || le second first)
    {part whole : List α} (sublist : part.Sublist whole) :
    (part.mergeSort le).Sublist (whole.mergeSort le) := by
  induction sublist with
  | slnil => exact List.Sublist.refl _
  | @cons part whole item sublist inductionHypothesis =>
    obtain ⟨front, back, sorted, rest, -⟩ := List.mergeSort_cons trans total item whole
    rw [sorted]
    rw [rest] at inductionHypothesis
    exact inductionHypothesis.middle item
  | @cons_cons part whole item sublist inductionHypothesis =>
    rw [mergeSort_cons_eq trans total, mergeSort_cons_eq trans total]
    exact (inductionHypothesis.filter _).append ((inductionHypothesis.filter _).cons_cons item)

/-- Elements may be left out before sorting or behind it. -/
theorem mergeSort_filter (trans : ∀ first second third, le first second → le second third →
      le first third) (total : ∀ first second, le first second || le second first)
    (keep : α → Bool) (items : List α) :
    (items.filter keep).mergeSort le = (items.mergeSort le).filter keep := by
  have sublist := (mergeSort_sublist trans total (List.filter_sublist (p := keep) (l := items))).filter
    keep
  have all : ((items.filter keep).mergeSort le).filter keep = (items.filter keep).mergeSort le := by
    apply List.filter_eq_self.mpr
    intro item member
    exact (List.mem_filter.mp ((List.mergeSort_perm _ le).mem_iff.mp member)).2
  rw [all] at sublist
  apply sublist.eq_of_length
  rw [List.length_mergeSort]
  exact ((List.mergeSort_perm items le).filter keep).length_eq.symm

/-- Groups by distinct keys, one behind the other, have the elements of the list. -/
theorem groups_perm {Key : Type} [DecidableEq Key] (key : α → Key) (keys : List Key)
    (distinct : keys.Nodup) (items : List α) :
    (keys.flatMap (fun wanted => items.filter (fun item => decide (key item = wanted)))).Perm
      (items.filter (fun item => decide (key item ∈ keys))) := by
  induction keys generalizing items with
  | nil => simp
  | cons first keys inductionHypothesis =>
    obtain ⟨fresh, distinct⟩ := List.nodup_cons.mp distinct
    rw [List.flatMap_cons]
    have later := inductionHypothesis distinct items
    refine (later.append_left _).trans ?_
    have split := List.filter_append_perm (fun item => decide (key item = first))
      (items.filter (fun item => decide (key item ∈ first :: keys)))
    refine List.Perm.trans (List.Perm.of_eq ?_) split
    rw [List.filter_filter, List.filter_filter]
    congr 1
    · apply List.filter_congr
      intro item _
      by_cases same : key item = first <;> simp [same]
    · apply List.filter_congr
      intro item _
      by_cases same : key item = first
      · simp [same, fresh]
      · simp [same]

end Storage
