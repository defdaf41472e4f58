import Mathlib.Data.String.Basic
import ShoppingCS.Storage.Patterns
import ShoppingCS.Shop.Server

/-!
# The product search

`GET /api/products?q=...` puts the search text between percent signs and leaves the rest
to the pattern matcher of the database. The text is not escaped: a percent sign, an
underscore or a backslash in it keeps its meaning. Every other text finds the products
whose name or description contains it, ignoring case, except a text with U+0000, which
the database refuses as it refuses it in every parameter.
-/

namespace ShoppingCS.Shop

open Interleaving Storage

/-- A text that is searched for: ASCII characters, at least one. -/
structure SearchText where
  text : String
  nonempty : text ≠ ""
  ascii : ∀ character ∈ text.toList, character.toNat < 0x80

/-- A part of the text is the search text up to the case of its letters. -/
def containsIgnoringCase (text search : String) : Prop :=
  ∃ part, part <:+: text.toList ∧ part.map Char.toLower = search.toList.map Char.toLower

/-- The name contains the search text, or the description, if there is one. -/
def Product.Mentions (product : Product) (search : String) : Prop :=
  containsIgnoringCase product.name search ∨
    ∃ description, product.description = some description ∧ containsIgnoringCase description search

/-- `OR` on truth values, of which NULL is unknown. -/
def sqlOr : Option Bool → Option Bool → Option Bool
  | some true, _ => some true
  | _, some true => some true
  | some false, some false => some false
  | _, _ => none

/-- `LOWER(name) LIKE $1 OR LOWER(description) LIKE $1`. A pattern matches NULL neither
truly nor falsely. -/
def whereClause (pattern : String) (product : Product) : Option Bool :=
  sqlOr (some (like pattern.toList product.name.toLower.toList))
    (product.description.map (fun description =>
      like pattern.toList description.toLower.toList))

/-- The pattern the handler passes for a search text. -/
def searchPattern (search : String) : String := "%" ++ search.toLower ++ "%"

/-- The characters of a lower-case text are those of the text in lower case, one by one. -/
theorem toList_toLower (text : String) : text.toLower.toList = text.toList.map Char.toLower :=
  String.toList_map

/-- The pattern is the lower-case search text between percent signs. -/
theorem toList_searchPattern (search : String) :
    (searchPattern search).toList = containing (search.toList.map Char.toLower) := by
  unfold searchPattern containing
  rw [String.toList_append, String.toList_append, toList_toLower]
  rfl

/-- A truth value that is true on one side. -/
theorem sqlOr_eq_true {left right : Option Bool} :
    sqlOr left right = some true ↔ left = some true ∨ right = some true := by
  cases left with
  | none => cases right with
    | none => simp [sqlOr]
    | some value => cases value <;> simp [sqlOr]
  | some first => cases first <;> cases right with
    | none => simp [sqlOr]
    | some value => cases value <;> simp [sqlOr]

/-- The rows for which the condition is true are selected. -/
theorem mem_selectProducts {database : Database} {pattern : String} {positions : List Nat}
    {product : Product} : product ∈ database.selectProducts (some pattern) positions ↔
      product ∈ database.products.rows ∧ whereClause pattern product = some true := by
  unfold Database.selectProducts
  rw [(List.mergeSort_perm _ _).mem_iff, (reorder_perm _ _).mem_iff, List.mem_filter,
    Bool.or_eq_true, whereClause, sqlOr_eq_true]
  apply and_congr_right
  intro _
  cases product.description <;> simp

/-- Whatever the pattern is, the products that are found come ordered by name. -/
theorem selectProducts_sorted (database : Database) (pattern : Option String) (positions : List Nat) :
    (database.selectProducts pattern positions).Pairwise (fun first second => first.name ≤ second.name) := by
  have sorted := @List.pairwise_mergeSort Product
    (fun first second => decide (first.name ≤ second.name))
    (by
      intro first second third before after
      simp only [decide_eq_true_eq] at before after ⊢
      exact le_trans before after)
    (by
      intro first second
      simp only [Bool.or_eq_true, decide_eq_true_eq]
      exact le_total first.name second.name)
  unfold Database.selectProducts
  exact (sorted _).imp of_decide_eq_true

/-- Distinct rows stay distinct, so no product is found twice. -/
theorem selectProducts_nodup (database : Database) (pattern : Option String) (positions : List Nat) :
    (database.selectProducts pattern positions).Nodup := by
  have stored : database.products.rows.Nodup := List.Nodup.of_map _ database.products.unique
  unfold Database.selectProducts
  rw [(List.mergeSort_perm _ _).nodup_iff, (reorder_perm _ _).nodup_iff]
  cases pattern with
  | none => exact stored
  | some text => exact stored.filter _

/-- Of all characters only the letters from A to Z change, by a fixed distance. -/
theorem toLower_cases (character : Char) :
    character.toLower = character ∨
      (0x41 ≤ character.toNat ∧ character.toNat ≤ 0x5A) ∧
        character.toLower.toNat = character.toNat + 0x20 := by
  by_cases upper : 'A'.val ≤ character.val ∧ character.val ≤ 'Z'.val
  · right
    have low : 0x41 ≤ character.val.toNat := UInt32.le_iff_toNat_le.mp upper.1
    have high : character.val.toNat ≤ 0x5A := UInt32.le_iff_toNat_le.mp upper.2
    constructor
    · exact ⟨low, high⟩
    · unfold Char.toLower
      rw [dif_pos upper]
      change (character.val + 0x20).toNat = character.val.toNat + 0x20
      rw [UInt32.toNat_add]
      exact Nat.mod_eq_of_lt (show character.val.toNat + 0x20 < 2 ^ 32 by omega)
  · left
    exact dif_neg upper

/-- A character in lower case stays as it is, so lowering twice is lowering once. -/
theorem toLower_toLower (character : Char) : character.toLower.toLower = character.toLower := by
  cases toLower_cases character with
  | inl same => rw [same, same]
  | inr changed =>
    obtain ⟨⟨low, high⟩, shifted⟩ := changed
    cases toLower_cases character.toLower with
    | inl same => exact same
    | inr again =>
      obtain ⟨⟨-, bounded⟩, -⟩ := again
      omega

/-- A character of a pattern has a meaning of its own in either case. -/
theorem toLower_mem_wildcards (character : Char) :
    character.toLower ∈ wildcards ↔ character ∈ wildcards := by
  cases toLower_cases character with
  | inl same => rw [same]
  | inr changed =>
    obtain ⟨⟨low, high⟩, shifted⟩ := changed
    have codes : ∀ wild ∈ wildcards, wild.toNat = 0x25 ∨ wild.toNat = 0x5F ∨ wild.toNat = 0x5C := by
      simp [wildcards]
    constructor
    · intro member
      have code := codes _ member
      omega
    · intro member
      have code := codes _ member
      omega

/-- A text contains the search text in some case exactly when it does in lower case. -/
theorem containsIgnoringCase_iff (text search : String) :
    containsIgnoringCase text search ↔
      search.toList.map Char.toLower <:+: text.toList.map Char.toLower := by
  unfold containsIgnoringCase
  rw [List.infix_map_iff]
  apply exists_congr
  intro part
  rw [eq_comm]

/-- The characters of a search text that are none of the pattern's own. -/
def Literal (search : String) : Prop := ∀ character ∈ search.toList, character ∉ wildcards

/-- A plain search text is plain in lower case. -/
theorem plain_iff (search : String) :
    Literal search ↔ ∀ character ∈ search.toList.map Char.toLower, character ∉ wildcards := by
  simp [Literal, toLower_mem_wildcards]

/-- The condition selects the products that mention a plain search text. -/
theorem whereClause_plain {search : String} (plain : Literal search) (product : Product) :
    whereClause (searchPattern search) product = some true ↔ product.Mentions search := by
  have matched : ∀ text : String,
      like (searchPattern search).toList text.toLower.toList = true ↔
        containsIgnoringCase text search := by
    intro text
    rw [toList_searchPattern, toList_toLower, like_containing ((plain_iff search).mp plain),
      containsIgnoringCase_iff]
  unfold whereClause Product.Mentions
  rw [sqlOr_eq_true, Option.some_inj, matched]
  apply or_congr_right
  cases product.description with
  | none => simp
  | some description => simp [matched]

/-- The answer to a search on a working connection: the products that mention the text,
each once and ordered by name. -/
def FindsSubstrings (search : String) : Prop :=
  ∀ (database : Database) (choices : Nat → Choice), (choices 0).fails = false →
    ∃ rows rest, (getProducts (some search)).alone execute choices database =
        some (⟨200, .products rows⟩, database, rest) ∧
      rows.Pairwise (fun first second => first.name ≤ second.name) ∧ rows.Nodup ∧
      ∀ product, product ∈ rows ↔ product ∈ database.products.rows ∧ product.Mentions search

/-- The pattern holds U+0000 exactly when the search text does: neither the percent signs
nor lower case bring it in or take it out. -/
theorem holdsNul_searchPattern (search : String) :
    holdsNul (searchPattern search) = holdsNul search := by
  have codes (character : Char) :
      character.toLower = Char.ofNat 0 ↔ character = Char.ofNat 0 := by
    cases toLower_cases character with
    | inl same => rw [same]
    | inr changed =>
      obtain ⟨⟨low, high⟩, shifted⟩ := changed
      constructor
      · intro nul
        rw [nul] at shifted
        simp at shifted
      · rintro rfl
        simp at low
  unfold holdsNul
  rw [toList_searchPattern, containing]
  simp [Function.comp_def, codes]

/-- The handler by itself: a failing connection and a text with U+0000 are both answered
500, and otherwise the products that match the pattern are sent. -/
theorem alone_getProducts {search : String} (nonempty : search ≠ "") (choices : Nat → Choice)
    (database : Database) :
    (getProducts (some search)).alone execute choices database =
      some (if (choices 0).fails ∨ holdsNul search then .error 500 "Failed to fetch products"
        else ⟨200, .products (database.selectProducts (some (searchPattern search))
          (choices 0).order)⟩, database, Program.after 1 choices) := by
  have pattern : getProducts (some search) =
      query (.error 500 "Failed to fetch products") (.selectProducts (some (searchPattern search)))
        fun rows => .answer ⟨200, .products (rows.map transformProduct)⟩ := by
    unfold getProducts
    dsimp only
    rw [if_neg nonempty]
    rfl
  rw [pattern, query, Program.alone_call]
  by_cases fails : (choices 0).fails = true
  · simp [execute, fails]
  · have working := Bool.eq_false_iff.mpr fails
    by_cases nul : holdsNul search = true
    · rw [execute_refuses _ _ _ working (by simp [Statement.holdsNul, holdsNul_searchPattern, nul])]
      simp [nul]
    · have clean := Bool.eq_false_iff.mpr nul
      have same : ∀ rows : List Product, rows.map transformProduct = rows := List.map_id
      rw [execute_works working (by simp [Statement.holdsNul, holdsNul_searchPattern, clean])]
      simp [carryOut, working, clean, same]

/-- A plain search text finds the products that mention it. -/
theorem plain_findsSubstrings {search : String} (nonempty : search ≠ "") (plain : Literal search)
    (admitted : holdsNul search = false) : FindsSubstrings search := by
  intro database choices working
  have answered := alone_getProducts nonempty choices database
  rw [working, admitted] at answered
  refine ⟨_, _, answered, selectProducts_sorted database _ _, selectProducts_nodup database _ _, ?_⟩
  intro product
  rw [mem_selectProducts, whereClause_plain plain]

/-- A product of which only the description matters for the search. -/
def described (description : String) : Product where
  id := "1"
  name := ""
  price := ⟨0, by decide⟩
  description := some description
  image := none
  category := ""
  inStock := none
  rating := none

/-- The product table with this one product, in which the search either finds it or nothing.
-/
def describedOnly (description : String) : Database :=
  .seeded ⟨[described description], by simp⟩ (by
    intro product member
    obtain rfl := List.mem_singleton.mp member
    exact (by decide : holdsNul "1" = false))

/-- The shortest text that the pattern of a search matches. -/
def shortestMatch (search : String) : String :=
  String.ofList (shortest 'z' (search.toList.map Char.toLower))

/-- The shortest match in lower case is that of the search text in lower case. -/
theorem lower_shortestMatch (search : String) :
    (shortestMatch search).toList.map Char.toLower =
      shortest 'z' (search.toList.map Char.toLower) := by
  have fixed : (shortest 'z' (search.toList.map Char.toLower)).map Char.toLower =
      (shortest 'z' (search.toList.map Char.toLower)).map id := by
    apply List.map_congr_left
    intro character member
    rcases mem_shortest member with rfl | rfl | found
    · decide
    · decide
    · obtain ⟨source, -, rfl⟩ := List.mem_map.mp found
      exact toLower_toLower source
  rw [shortestMatch, String.toList_ofList, fixed, List.map_id]

/-- What a search answers when nothing fails: the products with the text somewhere in their
name, description or category. -/
theorem FindsSubstrings.mem_iff {search : String} (finds : FindsSubstrings search)
    (nonempty : search ≠ "") (admitted : holdsNul search = false) (database : Database)
    (product : Product) :
    product ∈ database.selectProducts (some (searchPattern search)) [] ↔
      product ∈ database.products.rows ∧ product.Mentions search := by
  obtain ⟨rows, rest, answered, -, -, found⟩ := finds database (fun _ => .plain) rfl
  rw [alone_getProducts nonempty] at answered
  simp only [Choice.plain, admitted, Option.some.injEq, Prod.mk.injEq] at answered
  have same : database.selectProducts (some (searchPattern search)) [] = rows := by
    simpa using answered.1
  rw [same]
  exact found product

/-- A search text with a wildcard finds a product that does not mention it. -/
theorem not_findsSubstrings {search : String} (nonempty : search ≠ "") (wild : ¬ Literal search)
    (admitted : holdsNul search = false) : ¬ FindsSubstrings search := by
  intro finds
  have stored : described (shortestMatch search) ∈
      (describedOnly (shortestMatch search)).products.rows := List.mem_singleton_self _
  have matched : whereClause (searchPattern search) (described (shortestMatch search)) = some true := by
    rw [whereClause, sqlOr_eq_true]
    right
    simp [described, toList_searchPattern, toList_toLower, lower_shortestMatch, like_shortest]
  have mentioned := ((finds.mem_iff nonempty admitted (describedOnly (shortestMatch search))
    (described (shortestMatch search))).mp (mem_selectProducts.mpr ⟨stored, matched⟩)).2
  cases mentioned with
  | inl name =>
    rw [containsIgnoringCase_iff] at name
    have empty : search.toList = [] := by simpa [described] using name
    exact nonempty (String.toList_eq_nil_iff.mp empty)
  | inr description =>
    obtain ⟨text, same, inside⟩ := description
    obtain rfl := Option.some.inj same
    rw [containsIgnoringCase_iff, lower_shortestMatch] at inside
    exact not_infix_shortest (by decide) (fun plain => wild ((plain_iff search).mpr plain)) inside

/-- A search text with the character U+0000 is refused by PostgreSQL and answered with an
error. -/
theorem refused_not_findsSubstrings {search : String} (nonempty : search ≠ "")
    (nul : holdsNul search = true) : ¬ FindsSubstrings search := by
  intro finds
  obtain ⟨rows, rest, answered, -⟩ := finds freshDatabase (fun _ => .plain) rfl
  rw [alone_getProducts nonempty] at answered
  simp [nul, Reply.error] at answered

/-- A search finds exactly the products that mention its text if and only if the text has no
wildcards, and no character that no text may have. For the converse a product is made that the
pattern matches and that does not mention the text. -/
theorem search_finds_substrings_iff (search : SearchText) :
    FindsSubstrings search.text ↔
      ∀ character ∈ search.text.toList, character ∉ wildcards ∧ character ≠ Char.ofNat 0 := by
  have admitted := @holdsNul_eq_false search.text
  constructor
  · intro finds character member
    have text : holdsNul search.text = false := by
      rw [Bool.eq_false_iff]
      intro nul
      exact refused_not_findsSubstrings search.nonempty nul finds
    have plain : Literal search.text := by
      by_contra wild
      exact not_findsSubstrings search.nonempty wild text finds
    exact ⟨plain character member, admitted.mp text character member⟩
  · intro harmless
    apply plain_findsSubstrings search.nonempty
    · intro character member
      exact (harmless character member).1
    · exact admitted.mpr (fun character member => (harmless character member).2)

/-- Neither the name nor the description of the smartphone has an underscore. -/
theorem smartphone_without_underscore : ¬ smartphone.Mentions "_" := by
  intro mentioned
  cases mentioned with
  | inl name =>
    rw [containsIgnoringCase_iff] at name
    exact absurd name (by decide)
  | inr description =>
    obtain ⟨text, same, inside⟩ := description
    obtain rfl := Option.some.inj same
    rw [containsIgnoringCase_iff] at inside
    exact absurd inside (by decide)

/-- A search for an underscore finds the smartphone, and so does not find what contains
the text. -/
theorem underscore_finds_smartphone :
    (∃ rows rest, (getProducts (some "_")).alone execute (fun _ => .plain) freshDatabase =
        some (⟨200, .products rows⟩, freshDatabase, rest) ∧ smartphone ∈ rows) ∧
      ¬ smartphone.Mentions "_" ∧ ¬ FindsSubstrings "_" := by
  have listed : smartphone ∈ freshDatabase.products.rows := by simp [freshDatabase, Database.seeded]
  have matched : whereClause (searchPattern "_") smartphone = some true := by
    rw [whereClause, sqlOr_eq_true, toList_searchPattern, toList_toLower]
    left
    decide
  have found := (@mem_selectProducts freshDatabase (searchPattern "_") [] smartphone).mpr
    ⟨listed, matched⟩
  constructor
  · exact ⟨_, _, alone_getProducts (by decide) _ _, found⟩
  constructor
  · exact smartphone_without_underscore
  · intro finds
    exact smartphone_without_underscore
      ((finds.mem_iff (by decide) (by decide) freshDatabase smartphone).mp found).2

end ShoppingCS.Shop
