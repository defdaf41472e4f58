import Mathlib.Data.List.Infix
import Mathlib.Data.String.Basic
import ShoppingCS.Storage.StableSort
import ShoppingCS.Client.AppContext

/-!
# The product grid

The grid shows the products of the context that pass its filters, sorted by the chosen
key. Filtering makes a new array, so the products of the context keep their order, and
the sort of the language is stable. What `toLowerCase` and `localeCompare` do with letters
outside of ASCII is left open; a comparison of names is total and transitive.
-/

namespace ShoppingCS.Client

open Shop Storage

/-- The choices of the second `select`, by which the products are sorted. -/
inductive SortBy where
  | name
  | price
  | rating
deriving DecidableEq

/-- `a.localeCompare(b) <= 0`, which depends on the platform. It is assumed to be total and
transitive. -/
structure Collation where
  before : String → String → Bool
  total : ∀ first second, before first second || before second first
  trans : ∀ first second third, before first second → before second third → before first third

/-- The states of the grid, one for each of its controls. -/
structure GridState where
  sortBy : SortBy
  filterCategory : String
  searchTerm : String
deriving DecidableEq

/-- The grid when it is mounted: sorted by name, with all categories and no search term. -/
def GridState.mounted : GridState := { sortBy := .name, filterCategory := "all", searchTerm := "" }

/-- `text.includes(part)`: the part occurs somewhere in the text. -/
def includes (text part : String) : Bool := decide (part.toList <:+: text.toList)

/-- `new Set(values)`, in the order in which values are met first. -/
def setOf (values : List String) : List String :=
  values.foldl (fun set value => if value ∈ set then set else set ++ [value]) []

/-- `categories`: the choice of all, and each category that occurs, in the order of its first
product. -/
def categories (products : List Product) : List String :=
  "all" :: setOf (products.map Product.category)

/-- The comparison of two products is not positive. A missing rating counts as zero. -/
def sortsBefore (collation : Collation) : SortBy → Product → Product → Bool
  | .price, first, second => decide (first.price.val ≤ second.price.val)
  | .rating, first, second => decide (second.rating.getD 0 ≤ first.rating.getD 0)
  | .name, first, second => collation.before first.name second.name

section Grid

variable (toLowerCase : String → String) (collation : Collation)

/-- The product passes the filters: its name contains the search term, and its category is the
chosen one. -/
def GridState.passes (grid : GridState) (product : Product) : Bool :=
  includes (toLowerCase product.name) (toLowerCase grid.searchTerm) &&
    (decide (grid.filterCategory = "all") || decide (product.category = grid.filterCategory))

/-- `filteredProducts`: what passes the filters, sorted. JavaScript's sort is stable, as merge
sort is. -/
def GridState.filteredProducts (grid : GridState) (products : List Product) : List Product :=
  (products.filter (grid.passes toLowerCase)).mergeSort (sortsBefore collation grid.sortBy)

end Grid

section Sorting

variable (collation : Collation) (sortBy : SortBy)

/-- The comparison is transitive for each of the three choices, as the sort needs. -/
theorem sortsBefore_trans (first second third : Product)
    (before : sortsBefore collation sortBy first second)
    (after : sortsBefore collation sortBy second third) :
    sortsBefore collation sortBy first third := by
  cases sortBy with
  | name => exact collation.trans _ _ _ before after
  | price =>
    simp only [sortsBefore, decide_eq_true_eq] at before after ⊢
    omega
  | rating =>
    simp only [sortsBefore, decide_eq_true_eq] at before after ⊢
    omega

/-- The comparison is total for each of the three choices, as the sort needs. -/
theorem sortsBefore_total (first second : Product) :
    sortsBefore collation sortBy first second || sortsBefore collation sortBy second first := by
  cases sortBy with
  | name => exact collation.total _ _
  | price =>
    simp only [sortsBefore, Bool.or_eq_true, decide_eq_true_eq]
    omega
  | rating =>
    simp only [sortsBefore, Bool.or_eq_true, decide_eq_true_eq]
    omega

end Sorting

section Filtering

variable {toLowerCase : String → String} {collation : Collation}

/-- The products shown are those that pass the filters, none more and none less. -/
theorem mem_filteredProducts {grid : GridState} {products : List Product} {product : Product} :
    product ∈ grid.filteredProducts toLowerCase collation products ↔
      product ∈ products ∧ grid.passes toLowerCase product = true := by
  rw [GridState.filteredProducts, List.mem_mergeSort, List.mem_filter]

/-- Another grid asks for more: a search term that contains the one of this grid, in lower
case, and the same category, or any if this grid has no category chosen. -/
structure GridState.Narrows (toLowerCase : String → String) (grid other : GridState) : Prop where
  sorted : other.sortBy = grid.sortBy
  searched : (toLowerCase grid.searchTerm).toList <:+: (toLowerCase other.searchTerm).toList
  filtered : grid.filterCategory = "all" ∨ other.filterCategory = grid.filterCategory

/-- What passes a narrower grid passes the wider one, filter by filter. -/
theorem GridState.Narrows.passes {grid other : GridState} (narrows : grid.Narrows toLowerCase other)
    {product : Product} (passes : other.passes toLowerCase product = true) :
    grid.passes toLowerCase product = true := by
  simp only [GridState.passes, includes, Bool.and_eq_true, Bool.or_eq_true,
    decide_eq_true_eq] at passes ⊢
  obtain ⟨found, category⟩ := passes
  refine ⟨narrows.searched.trans found, ?_⟩
  cases narrows.filtered with
  | inl open_ => exact Or.inl open_
  | inr same =>
    rw [same] at category
    exact category

/-- A product for the examples, with what the grid does not look at left out. -/
def card (id name category : String) (cents : Int)
    (inside : -10000000000 < cents ∧ cents < 10000000000) : Product where
  id := id
  name := name
  price := ⟨cents, inside⟩
  description := none
  image := none
  category := category
  inStock := none
  rating := none

/-- Names compared character by character, a collation that meets the assumptions. -/
def plainCollation : Collation where
  before first second := decide (first ≤ second)
  total first second := by
    simp only [Bool.or_eq_true, decide_eq_true_eq]
    exact le_total first second
  trans first second third before after := by
    simp only [decide_eq_true_eq] at before after ⊢
    exact le_trans before after

/-- `toLowerCase` on ASCII characters, for the examples. -/
def lowerCase (text : String) : String := String.ofList (text.toList.map Char.toLower)

end Filtering

section Categories

/-- A value is in the set exactly when it is among the values, by induction on them. -/
theorem mem_setOf {values : List String} {value : String} : value ∈ setOf values ↔ value ∈ values := by
  have grown : ∀ set : List String,
      value ∈ values.foldl (fun set value => if value ∈ set then set else set ++ [value]) set ↔
        value ∈ set ∨ value ∈ values := by
    intro set
    induction values generalizing set with
    | nil => simp
    | cons first values inductionHypothesis =>
      rw [List.foldl_cons, inductionHypothesis, List.mem_cons]
      split_ifs with known
      · constructor
        · rintro (member | member)
          · exact Or.inl member
          · exact Or.inr (Or.inr member)
        · rintro (member | rfl | member)
          · exact Or.inl member
          · exact Or.inl known
          · exact Or.inr member
      · rw [List.mem_append, List.mem_singleton, or_assoc]
  rw [setOf, grown]
  simp

/-- A set holds no value twice, since each is added only if it is not there. -/
theorem setOf_nodup (values : List String) : (setOf values).Nodup := by
  have grown : ∀ set : List String, set.Nodup →
      (values.foldl (fun set value => if value ∈ set then set else set ++ [value]) set).Nodup := by
    induction values with
    | nil => exact fun set distinct => distinct
    | cons first values inductionHypothesis =>
      intro set distinct
      rw [List.foldl_cons]
      apply inductionHypothesis
      split_ifs with known
      · exact distinct
      · exact List.nodup_append.mpr ⟨distinct, by simp, fun value member last lastMember same =>
          known (List.mem_singleton.mp lastMember ▸ same ▸ member)⟩
  exact grown [] List.nodup_nil

variable {toLowerCase : String → String} {collation : Collation}

/-- The grid with another category chosen and its other controls as they were. -/
def GridState.choose (grid : GridState) (category : String) : GridState :=
  { grid with filterCategory := category }

/-- The products whose names are found by the search term, before the category is chosen. -/
def GridState.found (toLowerCase : String → String) (grid : GridState) (products : List Product) :
    List Product :=
  products.filter (fun product => includes (toLowerCase product.name) (toLowerCase grid.searchTerm))

/-- Every product found is shown when all categories are chosen. -/
theorem choose_all_perm (grid : GridState) (products : List Product) :
    ((grid.choose "all").filteredProducts toLowerCase collation products).Perm
      (grid.found toLowerCase products) := by
  refine (List.mergeSort_perm _ _).trans (List.Perm.of_eq ?_)
  apply List.filter_congr
  intro product _
  simp [GridState.passes, GridState.choose]

/-- Those of a category are shown when it is chosen. -/
theorem choose_perm (grid : GridState) {category : String} (named : category ≠ "all")
    (products : List Product) :
    ((grid.choose category).filteredProducts toLowerCase collation products).Perm
      ((grid.found toLowerCase products).filter
        (fun product => decide (product.category = category))) := by
  refine (List.mergeSort_perm _ _).trans (List.Perm.of_eq ?_)
  rw [GridState.found, List.filter_filter]
  apply List.filter_congr
  intro product _
  change (includes _ _ && (decide (category = "all") || decide (product.category = category))) =
    (decide (product.category = category) && includes _ _)
  rw [decide_eq_false named, Bool.false_or, Bool.and_comm]
  rfl

/-- Choosing some categories one after the other shows the products found in them. -/
theorem sections_perm (grid : GridState) {chosen : List String} (distinct : chosen.Nodup)
    (named : "all" ∉ chosen) (products : List Product) :
    (chosen.flatMap (fun category =>
        (grid.choose category).filteredProducts toLowerCase collation products)).Perm
      ((grid.found toLowerCase products).filter
        (fun product => decide (product.category ∈ chosen))) := by
  refine List.Perm.trans ?_ (groups_perm Product.category chosen distinct
    (grid.found toLowerCase products))
  apply List.Perm.flatMap_left
  intro category member
  exact choose_perm grid (fun same => named (same ▸ member)) products

/-- The categories that can be chosen divide the products found exactly when no product is in
a category that is called "all", or all that are found are. No option appears twice
exactly when no product is in such a category. -/
theorem categories_divide_iff (toLowerCase : String → String) (collation : Collation)
    (grid : GridState) (products : List Product) :
    (((categories products).tail.flatMap (fun category =>
        (grid.choose category).filteredProducts toLowerCase collation products)).Perm
          ((grid.choose "all").filteredProducts toLowerCase collation products) ↔
        (∀ product ∈ products, product.category ≠ "all") ∨
          ∀ product ∈ grid.found toLowerCase products, product.category = "all") ∧
      ((categories products).Nodup ↔ ∀ product ∈ products, product.category ≠ "all") := by
  have listed {category : String} : category ∈ setOf (products.map Product.category) ↔
      ∃ product ∈ products, product.category = category := by
    rw [mem_setOf, List.mem_map]
  have distinct := setOf_nodup (products.map Product.category)
  have whole : ((grid.choose "all").filteredProducts toLowerCase collation products).Perm _ :=
    choose_all_perm grid products
  by_cases named : "all" ∈ setOf (products.map Product.category)
  · obtain ⟨product, member, called⟩ := listed.mp named
    let others := (setOf (products.map Product.category)).erase "all"
    have sections : ((categories products).tail.flatMap (fun category =>
        (grid.choose category).filteredProducts toLowerCase collation products)).Perm
          ((grid.choose "all").filteredProducts toLowerCase collation products ++
            (grid.found toLowerCase products).filter
              (fun product => decide (product.category ∈ others))) := by
      refine ((List.perm_cons_erase named).flatMap_right _).trans ?_
      rw [List.flatMap_cons]
      exact (sections_perm grid (distinct.erase _) distinct.not_mem_erase products).append_left _
    constructor
    · have nothing : ((grid.found toLowerCase products).filter
            (fun product => decide (product.category ∈ others))) = [] ↔
          ∀ product ∈ grid.found toLowerCase products, product.category = "all" := by
        rw [List.filter_eq_nil_iff]
        apply forall₂_congr
        intro product found
        have there := listed.mpr ⟨product, (List.mem_filter.mp found).1, rfl⟩
        rw [decide_eq_true_eq, distinct.mem_erase_iff]
        constructor
        · intro neither
          by_contra other
          exact neither ⟨other, there⟩
        · intro same both
          exact both.1 same
      constructor
      · intro divides
        right
        apply nothing.mp
        have lengths := (sections.symm.trans divides).length_eq
        rw [List.length_append] at lengths
        exact List.length_eq_zero_iff.mp (by omega)
      · intro either
        cases either with
        | inl unnamed => exact absurd called (unnamed product member)
        | inr only =>
          rw [nothing.mpr only, List.append_nil] at sections
          exact sections
    · apply iff_of_false
      · intro twice
        exact (List.nodup_cons.mp twice).1 named
      · intro unnamed
        exact unnamed product member called
  · have unnamed : ∀ product ∈ products, product.category ≠ "all" :=
      fun product member called => named (listed.mpr ⟨product, member, called⟩)
    constructor
    · apply iff_of_true _ (Or.inl unnamed)
      refine (sections_perm grid distinct named products).trans (List.Perm.trans ?_ whole.symm)
      apply List.Perm.of_eq
      apply List.filter_eq_self.mpr
      intro product found
      exact decide_eq_true (listed.mpr ⟨product, (List.mem_filter.mp found).1, rfl⟩)
    · exact iff_of_true (List.nodup_cons.mpr ⟨named, distinct⟩) unnamed

end Categories

end ShoppingCS.Client
