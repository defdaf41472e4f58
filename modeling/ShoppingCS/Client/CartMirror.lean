import ShoppingCS.Client.AppContext
import ShoppingCS.Shop.CartLinearization
import ShoppingCS.Shop.OrderNumbers

/-!
# The client's copy of a cart

The lines of the client mirror a cart when they list its products once each, in its
quantities and at the prices of the product table. The reducer's actions do to the
mirrored cart what the operations of the server do to the cart, under the conditions
stated here; and lines that mirror a cart cost what a checkout of the cart charges.
-/

namespace ShoppingCS.Client

open Interleaving Shop Storage

/-- The product of a line, by which lines are told apart. -/
def lineProduct (item : CartLine) : String := item.product.id

/-- Lines of distinct products, as a table with the product as its key. -/
abbrev Lines := KeyedTable CartLine String lineProduct

/-- The cart that lines stand for: each product with the quantity of its line. -/
def Lines.cart (lines : Lines) : Cart := fun productId => (lines.get? productId).map (·.quantity)

/-- The product's line with another quantity, any other line as it is. -/
def atProduct (productId : String) (change : Int → Int) (item : CartLine) : CartLine :=
  if item.product.id = productId then { item with quantity := change item.quantity } else item

@[simp] theorem product_atProduct (productId : String) (change : Int → Int) (item : CartLine) :
    (atProduct productId change item).product = item.product := by
  unfold atProduct
  split <;> rfl

theorem lineProduct_atProduct (productId : String) (change : Int → Int) (item : CartLine) :
    lineProduct (atProduct productId change item) = lineProduct item :=
  congrArg Product.id (product_atProduct productId change item)

namespace Lines

/-- Change the quantity of one product, and leave the other lines as they are. -/
def change (table : Lines) (productId : String) (change : Int → Int) : Lines :=
  table.rewrite (atProduct productId change) (lineProduct_atProduct productId change)

/-- A line for a new product adds it to the cart. -/
theorem cart_insert {table next : Lines} {payload : CartLine}
    (inserted : table.insert? payload = some next) :
    Lines.cart next =
      (CartOperation.add payload.product.id payload.quantity).apply (Lines.cart table) := by
  have free : table.get? payload.product.id = none := (KeyedTable.insert?_eq_some.mp inserted).1
  funext wanted
  unfold Lines.cart
  rw [KeyedTable.get?_insert inserted]
  by_cases same : wanted = payload.product.id
  · subst same
    simp [CartOperation.apply, lineProduct, free]
  · have different : lineProduct payload ≠ wanted := fun equal => same equal.symm
    simp [CartOperation.apply, same, different]

/-- A change of one product's quantity changes it in the cart. -/
theorem cart_change (table : Lines) (productId : String) (change : Int → Int) :
    Lines.cart (Lines.change table productId change) = fun wanted =>
      if wanted = productId then (Lines.cart table productId).map change
      else Lines.cart table wanted := by
  funext wanted
  unfold Lines.cart Lines.change
  rw [KeyedTable.get?_rewrite]
  cases found : table.get? wanted with
  | none =>
    by_cases same : wanted = productId
    · subst same
      simp [found]
    · simp [same]
  | some item =>
    have located : item.product.id = wanted := (KeyedTable.get?_sound found).2
    by_cases same : wanted = productId
    · subst same
      simp [found, atProduct, located]
    · simp [same, atProduct, located]

/-- Keeping the lines of all other products removes a product from the cart. -/
theorem cart_remove (table : Lines) (productId : String) :
    Lines.cart (table.keep (fun item => decide (item.product.id ≠ productId))) =
      (CartOperation.remove productId).apply (Lines.cart table) := by
  funext wanted
  unfold Lines.cart
  rw [KeyedTable.get?_keep]
  cases found : table.get? wanted with
  | none => simp [CartOperation.apply, found]
  | some item =>
    have located : item.product.id = wanted := (KeyedTable.get?_sound found).2
    by_cases same : wanted = productId
    · simp [CartOperation.apply, located, same]
    · simp [CartOperation.apply, located, same, found]

end Lines

/-- The lines say what the cart says, at the prices of the products. -/
structure Mirrors (products : KeyedTable Product String Product.id) (cart : Cart)
    (lines : List CartLine) : Prop where
  table : ∃ table : Lines, table.rows = lines ∧ Lines.cart table = cart
  priced : ∀ item ∈ lines, ∀ row, products.get? item.product.id = some row →
    row.price = item.product.price

section Reducer

variable {products : KeyedTable Product String Product.id} {cart : Cart} {lines : List CartLine}

theorem mirrors_nil (products : KeyedTable Product String Product.id) :
    Mirrors products (fun _ => none) [] where
  table := ⟨.empty, rfl, rfl⟩
  priced := fun item member => absurd member (by simp)

/-- Changing a quantity keeps the prices, because the products of the lines stay the same. -/
theorem Mirrors.priced_change (mirrors : Mirrors products cart lines) (productId : String)
    (change : Int → Int) : ∀ item ∈ lines.map (atProduct productId change), ∀ row,
      products.get? item.product.id = some row → row.price = item.product.price := by
  intro item member
  obtain ⟨source, stored, rfl⟩ := List.mem_map.mp member
  rw [product_atProduct]
  exact mirrors.priced source stored

/-- `ADD_TO_CART` adds. A new line must have the right price. -/
theorem Mirrors.add (mirrors : Mirrors products cart lines) (payload : CartLine)
    (priced : (∀ item ∈ lines, item.product.id ≠ payload.product.id) →
      ∀ row, products.get? payload.product.id = some row → row.price = payload.product.price) :
    Mirrors products ((CartOperation.add payload.product.id payload.quantity).apply cart)
      (addLine lines payload) := by
  obtain ⟨table, rfl, rfl⟩ := mirrors.table
  unfold addLine
  cases found : table.get? payload.product.id with
  | none =>
    have missing : table.rows.find?
        (fun item => decide (item.product.id = payload.product.id)) = none := found
    have inserted : table.insert? payload = some (table.insertFree payload found) :=
      KeyedTable.insert?_eq_some.mpr ⟨found, rfl⟩
    rw [missing]
    refine ⟨⟨_, rfl, Lines.cart_insert inserted⟩, ?_⟩
    intro item member
    cases List.mem_append.mp member with
    | inl old => exact mirrors.priced item old
    | inr new =>
      obtain rfl := List.mem_singleton.mp new
      exact priced (KeyedTable.get?_eq_none.mp found)
  | some item =>
    have there : table.rows.find?
        (fun item => decide (item.product.id = payload.product.id)) = some item := found
    rw [there]
    refine ⟨⟨Lines.change table payload.product.id (· + payload.quantity), rfl, ?_⟩,
      mirrors.priced_change payload.product.id (· + payload.quantity)⟩
    rw [Lines.cart_change]
    funext wanted
    simp [CartOperation.apply, Lines.cart, found]

/-- `REMOVE_FROM_CART` does to the lines what the removal does to the cart. -/
theorem Mirrors.remove (mirrors : Mirrors products cart lines) (productId : String) :
    Mirrors products ((CartOperation.remove productId).apply cart) (removeLine lines productId) := by
  obtain ⟨table, rfl, rfl⟩ := mirrors.table
  exact ⟨⟨_, rfl, Lines.cart_remove table productId⟩,
    fun item member => mirrors.priced item (List.mem_of_mem_filter member)⟩

/-- All lines but the product's have a positive quantity, so the filter of an update takes
none of them. -/
def OthersPositive (productId : String) (lines : List CartLine) : Prop :=
  ∀ item ∈ lines, item.product.id ≠ productId → 0 < item.quantity

/-- `UPDATE_CART_ITEM` with a positive quantity sets it. The filter must not take
another line. -/
theorem Mirrors.set (mirrors : Mirrors products cart lines) {productId : String} {quantity : Int}
    (positive : 0 < quantity) (others : OthersPositive productId lines) :
    Mirrors products ((CartOperation.set productId quantity).apply cart)
      (updateLine lines productId quantity) := by
  have kept : updateLine lines productId quantity =
      lines.map (atProduct productId (fun _ => quantity)) := by
    apply List.filter_eq_self.mpr
    intro item member
    obtain ⟨source, stored, rfl⟩ := List.mem_map.mp member
    by_cases same : source.product.id = productId
    · simpa [same] using positive
    · simpa [same] using others source stored same
  rw [kept]
  obtain ⟨table, rfl, rfl⟩ := mirrors.table
  refine ⟨⟨Lines.change table productId (fun _ => quantity), rfl, ?_⟩,
    mirrors.priced_change productId (fun _ => quantity)⟩
  rw [Lines.cart_change]
  rfl

/-- With a quantity that is not positive an update removes the product, as its own line falls
to the filter. -/
theorem updateLine_nonpositive {productId : String} {quantity : Int} (nonpositive : quantity ≤ 0)
    (others : OthersPositive productId lines) :
    updateLine lines productId quantity = removeLine lines productId := by
  unfold updateLine removeLine
  induction lines with
  | nil => rfl
  | cons item lines inductionHypothesis =>
    have rest := inductionHypothesis (fun other member => others other (List.mem_cons_of_mem _ member))
    by_cases same : item.product.id = productId
    · simpa [same, Int.not_lt.mpr nonpositive] using rest
    · simpa [same, others item List.mem_cons_self same] using rest

/-- `UPDATE_CART_ITEM` does what a PUT of the same product means. -/
theorem Mirrors.update (mirrors : Mirrors products cart lines) {productId path : String}
    {quantity : Int} (same : path = productId) (others : OthersPositive productId lines) :
    Mirrors products (updated (ApiCall.updateCartItem path (.integer quantity)).request cart)
      (updateLine lines productId quantity) := by
  subst same
  by_cases positive : 0 < quantity
  · have means : (ApiCall.updateCartItem path (.integer quantity)).request.operation.update? =
        some (.set path quantity) := by
      simp [ApiCall.request, ApiCall.operation, Operation.update?, Quantity.nonpositive,
        Int.not_le.mpr positive]
    rw [updated, means]
    exact mirrors.set positive others
  · have nonpositive : quantity ≤ 0 := Int.not_lt.mp positive
    have means : (ApiCall.updateCartItem path (.integer quantity)).request.operation.update? =
        some (.remove path) := by
      simp [ApiCall.request, ApiCall.operation, Operation.update?, Quantity.nonpositive,
        nonpositive]
    rw [updated, means, updateLine_nonpositive nonpositive others]
    exact mirrors.remove path

end Reducer

section Total

variable {products : KeyedTable Product String Product.id} {cart : Cart} {lines : List CartLine}

/-- The products of the lines with their quantities, as the parts of lines that a cart knows.
-/
def quantities (lines : List CartLine) : List (String × Int) :=
  lines.map (fun item => (item.product.id, item.quantity))

/-- The price of a quantity of a product in the product table. -/
def worth (products : KeyedTable Product String Product.id) (wanted : String × Int) : Int :=
  ((products.get? wanted.1).map (fun row => row.price.val * wanted.2)).getD 0

/-- The lines list what the cart says, and nothing else. -/
theorem Mirrors.mem_quantities (mirrors : Mirrors products cart lines) (productId : String)
    (quantity : Int) : (productId, quantity) ∈ quantities lines ↔ cart productId = some quantity := by
  obtain ⟨table, rfl, rfl⟩ := mirrors.table
  simp only [quantities, List.mem_map, Lines.cart, Option.map_eq_some_iff, KeyedTable.get?_eq_some,
    Prod.mk.injEq, and_assoc]
  exact Iff.rfl

/-- The lines list every product once, as the cart has one quantity for it. -/
theorem Mirrors.quantities_nodup (mirrors : Mirrors products cart lines) :
    (quantities lines).Nodup := by
  obtain ⟨table, rfl, rfl⟩ := mirrors.table
  have distinct : ((quantities table.rows).map Prod.fst).Nodup := by
    rw [quantities, List.map_map]
    exact table.unique
  exact distinct.of_map Prod.fst

/-- The total of the page is what the quantities are worth. -/
theorem Mirrors.total_worth (mirrors : Mirrors products cart lines)
    (known : ∀ productId, cart productId ≠ none → products.get? productId ≠ none) :
    CheckoutPage.total lines = ((quantities lines).map (worth products)).sum := by
  rw [CheckoutPage.total_eq_sum, quantities, List.map_map]
  congr 1
  refine List.map_congr_left (fun item member => ?_)
  have listed := (mirrors.mem_quantities item.product.id item.quantity).mp
    (List.mem_map.mpr ⟨item, member, rfl⟩)
  obtain ⟨row, found⟩ := Option.ne_none_iff_exists'.mp (known item.product.id (by simp [listed]))
  simp [worth, found, mirrors.priced item member row found]

/-- All lines that mirror a cart have one total, whatever their order, since they have the
prices of the product table. -/
theorem Mirrors.total_unique {others : List CartLine} (mirrors : Mirrors products cart lines)
    (same : Mirrors products cart others)
    (known : ∀ productId, cart productId ≠ none → products.get? productId ≠ none) :
    CheckoutPage.total lines = CheckoutPage.total others := by
  have listed : (quantities lines).Perm (quantities others) := by
    refine (List.perm_ext_iff_of_nodup mirrors.quantities_nodup same.quantities_nodup).mpr ?_
    rintro ⟨productId, quantity⟩
    rw [mirrors.mem_quantities, same.mem_quantities]
  rw [mirrors.total_worth known, same.total_worth known]
  exact (listed.map (worth products)).sum_eq

end Total

section Database

variable {database : Database} {sessionId : String}

/-- Every product in a cart is in the product table. -/
theorem cart_known (productId : String) (there : database.cart sessionId productId ≠ none) :
    database.products.get? productId ≠ none := by
  obtain ⟨quantity, present⟩ := Option.ne_none_iff_exists'.mp there
  obtain ⟨row, found, -⟩ := Option.map_eq_some_iff.mp present
  obtain ⟨stored, located⟩ := KeyedTable.get?_sound found
  have known := database.cartProducts row stored
  have same : row.productId = productId := congrArg Prod.fst located
  rw [← same]
  exact Option.isSome_iff_ne_none.mp known

/-- The cart query lists every product once, by the unique key of the rows. -/
theorem joinedCart_distinct (database : Database) (sessionId : String) :
    ((database.joinedCart sessionId).map (fun line => line.1.id)).Nodup := by
  have joined : (database.joinedCart sessionId).map (fun line => line.1.id) =
      (database.cartRows sessionId).map (·.productId) := by
    rw [Database.joinedCart, List.map_filterMap, ← List.filterMap_eq_map]
    refine List.filterMap_congr (fun row member => ?_)
    have stored := (List.mem_filter.mp member).1
    obtain ⟨product, found⟩ := Option.isSome_iff_exists.mp (database.cartProducts row stored)
    simp [found, (KeyedTable.get?_sound found).2]
  have keys : ((database.cartRows sessionId).map CartItem.key).Nodup :=
    database.cartItems.unique.sublist (List.filter_sublist.map CartItem.key)
  have paired : (database.cartRows sessionId).map CartItem.key =
      ((database.cartRows sessionId).map (·.productId)).map (fun productId => (productId, sessionId)) := by
    rw [List.map_map]
    refine List.map_congr_left (fun row member => ?_)
    have own : row.sessionId = sessionId := by simpa using (List.mem_filter.mp member).2
    simp [CartItem.key, own]
  rw [paired] at keys
  rw [joined]
  exact keys.of_map _

/-- The lines the server sends mirror the cart at the moment of the query, in whatever order
they come. -/
theorem mirrors_joined {rows : List (Product × Int4)} (listed : rows.Perm (database.joinedCart sessionId)) :
    Mirrors database.products (database.cart sessionId) (cartLines rows) where
  table := by
    have distinct : ((cartLines rows).map lineProduct).Nodup := by
      rw [cartLines, List.map_map]
      exact (listed.map (fun line => line.1.id)).nodup_iff.mpr (joinedCart_distinct database sessionId)
    refine ⟨⟨cartLines rows, distinct⟩, rfl, ?_⟩
    funext productId
    apply Option.ext
    intro quantity
    simp only [Lines.cart, Database.cart, Option.map_eq_some_iff, KeyedTable.get?_eq_some, cartLines,
      List.mem_map]
    constructor
    · rintro ⟨item, ⟨⟨line, member, rfl⟩, rfl⟩, rfl⟩
      have stored := ((database.mem_joinedCart sessionId line.1 line.2).mp
        (listed.mem_iff.mp member)).2
      exact ⟨_, ⟨stored, rfl⟩, rfl⟩
    · rintro ⟨row, ⟨stored, located⟩, rfl⟩
      obtain ⟨product, found⟩ := Option.isSome_iff_exists.mp (database.cartProducts row stored)
      obtain ⟨known, same⟩ := KeyedTable.get?_sound found
      obtain ⟨rfl, rfl⟩ := Prod.mk.inj located
      refine ⟨⟨product, row.quantity⟩, ⟨⟨(product, row.quantity), ?_, rfl⟩, same⟩, rfl⟩
      refine listed.mem_iff.mpr ((database.mem_joinedCart row.sessionId product row.quantity).mpr
        ⟨known, ?_⟩)
      rw [same]
      exact stored
  priced := by
    intro item member row found
    obtain ⟨line, inside, rfl⟩ := List.mem_map.mp member
    have known := ((database.mem_joinedCart sessionId line.1 line.2).mp
      (listed.mem_iff.mp inside)).1
    have same : row = line.1 :=
      Option.some.inj (found.symm.trans (KeyedTable.get?_complete known))
    exact congrArg Product.price same

/-- Lines that mirror a cart cost what a checkout of the cart charges. -/
theorem Mirrors.charged {lines : List CartLine}
    (mirrors : Mirrors database.products (database.cart sessionId) lines) :
    CheckoutPage.total lines = totalAmount (database.checkoutRows sessionId) := by
  rw [mirrors.total_unique (mirrors_joined (.refl (database.joinedCart sessionId))) cart_known,
    CheckoutPage.total_eq_sum, totalAmount_eq_sum, cartLines, Database.checkoutRows, List.map_map,
    List.map_map]
  rfl

end Database

end ShoppingCS.Client
