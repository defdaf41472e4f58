import Mathlib.Data.List.Sort
import ShoppingCS.Storage.Columns
import ShoppingCS.Storage.KeyedTable
import ShoppingCS.Storage.Queries

/-!
# The shop's PostgreSQL tables

The four tables the HTTP server uses, as `schema.sql` declares them. Column
types carry their ranges, primary and unique keys are part of the tables, and
the foreign keys are part of the database, so a `Database` is exactly a content
the schema admits.

Amounts are integer cents. Columns the server never reads or writes (`id` of the
serial tables, `user_id` and the time stamps of the cart, `updated_at`) are left
out. The server never changes the product table.
-/

namespace ShoppingCS.Shop

open Storage

/-- INTEGER, a whole number of 32 bits with its sign. -/
abbrev Int4 := {value : Int // -2147483648 ≤ value ∧ value ≤ 2147483647}

/-- DECIMAL(10, 2), as a whole number of cents below the ten digits the column has. -/
abbrev Decimal := {cents : Int // -10000000000 < cents ∧ cents < 10000000000}

/-- A value outside the range of the column is an error, never wrapped. -/
def Int4.ofInt? (value : Int) : Option Int4 :=
  if inside : -2147483648 ≤ value ∧ value ≤ 2147483647 then some ⟨value, inside⟩ else none

/-- An amount of more than eight digits before the point is an error. -/
def Decimal.ofCents? (cents : Int) : Option Decimal :=
  if inside : -10000000000 < cents ∧ cents < 10000000000 then some ⟨cents, inside⟩ else none

theorem Int4.ofInt?_eq_some {value : Int} {stored : Int4} :
    Int4.ofInt? value = some stored ↔ stored.val = value := by
  obtain ⟨bounded, inside⟩ := stored
  unfold Int4.ofInt?
  split
  · simp [eq_comm]
  · rename_i outside
    simp only [reduceCtorEq, false_iff]
    rintro rfl
    exact outside inside

theorem Decimal.ofCents?_eq_some {cents : Int} {stored : Decimal} :
    Decimal.ofCents? cents = some stored ↔ stored.val = cents := by
  obtain ⟨bounded, inside⟩ := stored
  unfold Decimal.ofCents?
  split
  · simp [eq_comm]
  · rename_i outside
    simp only [reduceCtorEq, false_iff]
    rintro rfl
    exact outside inside

/-- A row of `products`. The rating, a DECIMAL(3, 2) of the table, is in hundredths. -/
structure Product where
  id : String
  name : String
  price : Decimal
  description : Option String
  image : Option String
  category : String
  inStock : Option Bool
  rating : Option Int
deriving DecidableEq

/-- A row of `cart_items`, without its serial number and its times, which no query of the
server selects. -/
structure CartItem where
  productId : String
  quantity : Int4
  sessionId : String
deriving DecidableEq

/-- UNIQUE(product_id, session_id): a session has at most one row for a product. -/
def CartItem.key (row : CartItem) : String × String := (row.productId, row.sessionId)

/-- The row with another quantity, as an UPDATE of the quantity leaves it. -/
def CartItem.withQuantity (row : CartItem) (quantity : Int4) : CartItem :=
  { row with quantity := quantity }

@[simp] theorem CartItem.key_withQuantity (row : CartItem) (quantity : Int4) :
    (row.withQuantity quantity).key = row.key := rfl

@[simp] theorem CartItem.quantity_withQuantity (row : CartItem) (quantity : Int4) :
    (row.withQuantity quantity).quantity = quantity := rfl

/-- A row of `orders`, with the time of its creation as a number, which is as much as an
ordering by it needs. -/
structure Order where
  id : String
  customerName : Option String
  customerEmail : Option String
  customerAddress : Option String
  customerPhone : Option String
  status : String
  totalAmount : Decimal
  createdAt : Nat
deriving DecidableEq

/-- A row of `order_items`, with copies of the name and the price the product had. -/
structure OrderItem where
  orderId : String
  productId : String
  productName : String
  productPrice : Decimal
  quantity : Int4
  subtotal : Decimal
deriving DecidableEq

/-- A content of the four tables that satisfies every constraint of the schema. Of the
texts only the ids of the products matter here: they are what a request looks up, and
like every stored text they hold no U+0000. -/
@[ext] structure Database where
  products : KeyedTable Product String Product.id
  cartItems : KeyedTable CartItem (String × String) CartItem.key
  orders : KeyedTable Order String Order.id
  orderItems : List OrderItem
  cartProducts : ∀ row ∈ cartItems.rows, (products.get? row.productId).isSome
  itemOrders : ∀ item ∈ orderItems, (orders.get? item.orderId).isSome
  itemProducts : ∀ item ∈ orderItems, (products.get? item.productId).isSome
  productIds : ∀ product ∈ products.rows, holdsNul product.id = false

namespace Database

/-- The database after `schema.sql`: the products inserted there, and nothing in
the other tables. -/
def seeded (products : KeyedTable Product String Product.id)
    (productIds : ∀ product ∈ products.rows, holdsNul product.id = false) : Database where
  products := products
  cartItems := .empty
  orders := .empty
  orderItems := []
  cartProducts := fun row member => absurd member (by simp [KeyedTable.empty])
  itemOrders := fun item member => absurd member (by simp)
  itemProducts := fun item member => absurd member (by simp)
  productIds := productIds

/-- The cart of a session as a partial function from products to quantities. -/
def cart (database : Database) (sessionId : String) (productId : String) : Option Int :=
  (database.cartItems.get? (productId, sessionId)).map (·.quantity.val)

/-- The rows `WHERE session_id = $1` selects, before the join with the products. -/
def cartRows (database : Database) (sessionId : String) : List CartItem :=
  database.cartItems.rows.filter (fun row => decide (row.sessionId = sessionId))

/-- `cart_items ci JOIN products p ON ci.product_id = p.id`, for one session.
The product id is a primary key, so a cart row joins at most one product. -/
def joinedCart (database : Database) (sessionId : String) : List (Product × Int4) :=
  (database.cartRows sessionId).filterMap (fun row =>
    (database.products.get? row.productId).map (fun product => (product, row.quantity)))

/-- A product that is in the table was stored, so its id is a text the database takes
as a parameter. -/
theorem productId_clean {database : Database} {id : String}
    (known : database.products.get? id ≠ none) : holdsNul id = false := by
  obtain ⟨product, found⟩ := Option.ne_none_iff_exists'.mp known
  obtain ⟨stored, same⟩ := KeyedTable.get?_sound found
  rw [← same]
  exact database.productIds product stored

/-- Replace the cart by a table whose rows refer to products. -/
def withCart (database : Database)
    (cartItems : KeyedTable CartItem (String × String) CartItem.key)
    (refers : ∀ row ∈ cartItems.rows, (database.products.get? row.productId).isSome) : Database :=
  { database with cartItems := cartItems, cartProducts := refers }

/-- Keep the cart rows that pass a test; the others are deleted. -/
def keepCart (database : Database) (test : CartItem → Bool) : Database :=
  database.withCart (database.cartItems.keep test) (fun row member =>
    database.cartProducts row (List.mem_of_mem_filter member))

/-- `SET quantity = $1 WHERE product_id = $2 AND session_id = $3`. -/
def storeQuantity (database : Database) (productId sessionId : String) (quantity : Int4) :
    Database :=
  database.withCart
    (database.cartItems.rewrite
      (fun row => if row.key = (productId, sessionId) then row.withQuantity quantity else row)
      (fun row => by split <;> simp))
    (by
      intro row member
      obtain ⟨source, stored, rfl⟩ := List.mem_map.mp member
      have refers := database.cartProducts source stored
      split
      · exact refers
      · exact refers)

/-- Insert a cart row; a missing product or a taken key rejects it. -/
def insertCart? (database : Database) (row : CartItem) : Option Database :=
  if refers : (database.products.get? row.productId).isSome then
    match inserted : database.cartItems.insert? row with
    | none => none
    | some cartItems => some (database.withCart cartItems (by
        obtain ⟨_, rows⟩ := KeyedTable.insert?_eq_some.mp inserted
        intro stored member
        rw [rows] at member
        rcases List.mem_append.mp member with member | member
        · exact database.cartProducts stored member
        · obtain rfl := List.mem_singleton.mp member
          exact refers))
  else none

/-- Insert an order row. The primary key makes a taken id reject it. -/
def insertOrder? (database : Database) (row : Order) : Option Database :=
  match inserted : database.orders.insert? row with
  | none => none
  | some orders => some { database with
      orders := orders
      itemOrders := by
        intro item member
        rw [KeyedTable.get?_insert inserted]
        split
        · rfl
        · exact database.itemOrders item member }

/-- Insert an order item; a missing order or product rejects it. -/
def insertItem? (database : Database) (item : OrderItem) : Option Database :=
  if refers : (database.orders.get? item.orderId).isSome ∧
      (database.products.get? item.productId).isSome then
    some { database with
      orderItems := database.orderItems ++ [item]
      itemOrders := by
        intro stored member
        rcases List.mem_append.mp member with member | member
        · exact database.itemOrders stored member
        · obtain rfl := List.mem_singleton.mp member
          exact refers.1
      itemProducts := by
        intro stored member
        rcases List.mem_append.mp member with member | member
        · exact database.itemProducts stored member
        · obtain rfl := List.mem_singleton.mp member
          exact refers.2 }
  else none

/-- An insertion into the cart refers to a product, has a free key, and changes
no other table. -/
theorem insertCart?_eq_some {database next : Database} {row : CartItem}
    (inserted : database.insertCart? row = some next) :
    database.cartItems.insert? row = some next.cartItems ∧ next.products = database.products ∧
      next.orders = database.orders ∧ next.orderItems = database.orderItems := by
  unfold insertCart? at inserted
  split at inserted
  · split at inserted
    · simp at inserted
    · rename_i cartItems accepted
      obtain rfl := Option.some.inj inserted
      exact ⟨accepted, rfl, rfl, rfl⟩
  · simp at inserted

/-- An insertion into the cart is rejected exactly for a missing product or a
product that is already in this session's cart. -/
theorem insertCart?_eq_none {database : Database} {row : CartItem} :
    database.insertCart? row = none ↔
      database.products.get? row.productId = none ∨ database.cartItems.get? row.key ≠ none := by
  unfold insertCart?
  split
  · rename_i refers
    have known : database.products.get? row.productId ≠ none := Option.isSome_iff_ne_none.mp refers
    split
    · rename_i rejected
      simp [KeyedTable.insert?_eq_none.mp rejected]
    · rename_i cartItems accepted
      simp [known, (KeyedTable.insert?_eq_some.mp accepted).1]
  · rename_i missing
    simp [Option.isSome_iff_ne_none] at missing
    simp [missing]

/-- An accepted order row had a free id, is appended, and changes no other table. -/
theorem insertOrder?_eq_some {database next : Database} {row : Order}
    (inserted : database.insertOrder? row = some next) :
    database.orders.insert? row = some next.orders ∧ next.products = database.products ∧
      next.cartItems = database.cartItems ∧ next.orderItems = database.orderItems := by
  unfold insertOrder? at inserted
  split at inserted
  · simp at inserted
  · rename_i orders accepted
    obtain rfl := Option.some.inj inserted
    exact ⟨accepted, rfl, rfl, rfl⟩

/-- An order row is rejected exactly when its id is taken. -/
theorem insertOrder?_eq_none {database : Database} {row : Order} :
    database.insertOrder? row = none ↔ database.orders.get? row.id ≠ none := by
  unfold insertOrder?
  split
  · rename_i rejected
    simp [KeyedTable.insert?_eq_none.mp rejected]
  · rename_i orders accepted
    simp [(KeyedTable.insert?_eq_some.mp accepted).1]

/-- An accepted item refers to an order and a product, is appended, and changes
no other table. -/
theorem insertItem?_eq_some {database next : Database} {item : OrderItem}
    (inserted : database.insertItem? item = some next) :
    next.orderItems = database.orderItems ++ [item] ∧ next.products = database.products ∧
      next.cartItems = database.cartItems ∧ next.orders = database.orders := by
  unfold insertItem? at inserted
  split at inserted
  · obtain rfl := Option.some.inj inserted
    exact ⟨rfl, rfl, rfl, rfl⟩
  · simp at inserted

/-- An item of an existing order and product is never rejected. -/
theorem insertItem?_ne_none {database : Database} {item : OrderItem}
    (ordered : (database.orders.get? item.orderId).isSome)
    (known : (database.products.get? item.productId).isSome) :
    database.insertItem? item ≠ none := by
  simp [insertItem?, ordered, known]

/-- Deleting cart rows leads a product to its quantity when the row passes. -/
theorem cart_keepCart (database : Database) (test : CartItem → Bool)
    (sessionId productId : String) :
    (database.keepCart test).cart sessionId productId =
      ((database.cartItems.get? (productId, sessionId)).filter test).map (·.quantity.val) := by
  simp only [cart, keepCart, withCart, KeyedTable.get?_keep]

/-- After rewriting quantities a product leads to its rewritten quantity, and the other
products to theirs. -/
theorem cart_storeQuantity (database : Database) (productId sessionId : String) (quantity : Int4)
    (wantedSession wantedProduct : String) :
    (database.storeQuantity productId sessionId quantity).cart wantedSession wantedProduct =
      if (wantedProduct, wantedSession) = (productId, sessionId) then
        (database.cart wantedSession wantedProduct).map (fun _ => quantity.val)
      else database.cart wantedSession wantedProduct := by
  simp only [cart, storeQuantity, withCart, KeyedTable.get?_rewrite]
  cases found : database.cartItems.get? (wantedProduct, wantedSession) with
  | none => simp
  | some row =>
    obtain ⟨_, same⟩ := KeyedTable.get?_sound found
    simp only [Option.map_some, same]
    split <;> simp

/-- An accepted cart row adds its product to its own session's cart. -/
theorem cart_insertCart {database next : Database} {row : CartItem}
    (inserted : database.insertCart? row = some next) (wantedSession wantedProduct : String) :
    next.cart wantedSession wantedProduct =
      if row.key = (wantedProduct, wantedSession) then some row.quantity.val
      else database.cart wantedSession wantedProduct := by
  obtain ⟨accepted, -⟩ := insertCart?_eq_some inserted
  simp only [cart, KeyedTable.get?_insert accepted]
  split <;> rfl

/-- A product in the cart is listed by the join exactly with its quantity. -/
theorem mem_joinedCart (database : Database) (sessionId : String) (product : Product)
    (quantity : Int4) :
    (product, quantity) ∈ database.joinedCart sessionId ↔
      product ∈ database.products.rows ∧
        ⟨product.id, quantity, sessionId⟩ ∈ database.cartItems.rows := by
  simp only [joinedCart, cartRows, List.mem_filterMap, List.mem_filter, decide_eq_true_eq,
    Option.map_eq_some_iff, Prod.mk.injEq]
  constructor
  · rintro ⟨row, ⟨stored, rfl⟩, other, found, rfl, rfl⟩
    obtain ⟨known, same⟩ := KeyedTable.get?_sound found
    exact ⟨known, by rw [same]; exact stored⟩
  · rintro ⟨known, stored⟩
    exact ⟨_, ⟨stored, rfl⟩, product, KeyedTable.get?_complete known, rfl, rfl⟩

end Database

/-- The first product that `schema.sql` inserts, with its columns as they are there. -/
def smartphone : Product where
  id := "1"
  name := "Smartphone Pro"
  price := ⟨59999, by decide⟩
  description := some "Latest smartphone with advanced camera and performance"
  image := some "https://via.placeholder.com/300x300?text=Smartphone"
  category := "Electronics"
  inStock := some true
  rating := some 500

/-- The second product that `schema.sql` inserts. -/
def laptop : Product where
  id := "2"
  name := "Laptop Ultra"
  price := ⟨129999, by decide⟩
  description := some "High-performance laptop for professionals"
  image := some "https://via.placeholder.com/300x300?text=Laptop"
  category := "Electronics"
  inStock := some true
  rating := some 500

/-- A fresh database with these two products and nothing else, where most of the runs begin.
-/
def freshDatabase : Database := .seeded ⟨[smartphone, laptop], by decide⟩ (by decide)

end ShoppingCS.Shop
