import ShoppingCS.Shop.Database

/-!
# The SQL statements of the HTTP server

One constructor per statement text of `server.js`, with its parameters, and
`execute`, which runs one statement in its own implicit transaction: it returns
rows and a new database, or an error and the database unchanged. A statement
fails when its connection does, or when a value or a constraint of the schema
rejects it.

A choice resolves what the statement text leaves open: whether the connection
fails, the order of rows no clause orders, and the time.
-/

namespace ShoppingCS.Shop

open Storage

/-- Why the database rejected a statement. The server never tells them apart. -/
inductive SqlError where
  | connection
  | uniqueViolation
  | foreignKeyViolation
  | notNullViolation
  | numericOutOfRange
  | invalidText
  | stringTooLong
deriving DecidableEq

/-- A JSON value passed as the quantity parameter, as far as the server's test
`quantity <= 0` and the INTEGER column distinguish them. A malformed value is one
that is not the text of an integer; it still has a result in the test. -/
inductive Quantity where
  | missing
  | null
  | integer (value : Int)
  | malformed (nonpositive : Bool)
deriving DecidableEq

/-- `quantity <= 0` in JavaScript: null counts as zero, undefined is not a number. -/
def Quantity.nonpositive : Quantity → Bool
  | .missing => false
  | .null => true
  | .integer value => decide (value ≤ 0)
  | .malformed nonpositive => nonpositive

/-- The parameter as the INTEGER column receives it; undefined and null are NULL. -/
def Quantity.parameter : Quantity → Except SqlError (Option Int4)
  | .missing => .ok none
  | .null => .ok none
  | .integer value =>
    match Int4.ofInt? value with
    | some stored => .ok (some stored)
    | none => .error .numericOutOfRange
  | .malformed _ => .error .invalidText

/-- Only an integer reaches the column as a value, and unchanged. -/
theorem Quantity.parameter_some {quantity : Quantity} {stored : Int4}
    (parameter : quantity.parameter = .ok (some stored)) : quantity = .integer stored.val := by
  cases quantity with
  | integer value =>
    unfold Quantity.parameter at parameter
    cases bound : Int4.ofInt? value with
    | none => simp [bound] at parameter
    | some bounded =>
      obtain rfl : bounded = stored := by simpa [bound] using parameter
      rw [Int4.ofInt?_eq_some.mp bound]
  | missing => simp [Quantity.parameter] at parameter
  | null => simp [Quantity.parameter] at parameter
  | malformed nonpositive => simp [Quantity.parameter] at parameter

/-- A row of the checkout's cart query, with the name and the price of the product as they are
at that moment. -/
structure CheckoutRow where
  productId : String
  quantity : Int4
  name : String
  price : Decimal
deriving DecidableEq

/-- The parameters of `INSERT INTO orders`, as the handler passes them. -/
structure NewOrder where
  id : String
  customerName : Option String
  customerEmail : Option String
  customerAddress : Option String
  customerPhone : Option String
  status : String
  totalAmount : Int
deriving DecidableEq

/-- The parameters of `INSERT INTO order_items`, as the handler passes them. -/
structure NewOrderItem where
  orderId : String
  productId : String
  productName : String
  productPrice : Decimal
  quantity : Int4
  subtotal : Int
deriving DecidableEq

/-- The statements of `server.js`. `enqueueReads` is not a statement: it lets the
connection pool choose the order in which the queries inside `Promise.all` run. -/
inductive Statement where
  | selectProducts (pattern : Option String)
  | selectProduct (id : Option String)
  | selectCart (sessionId : String)
  | selectCartItem (productId : Option String) (sessionId : String)
  | increaseQuantity (quantity : Quantity) (productId : Option String) (sessionId : String)
  | insertCartItem (productId : Option String) (quantity : Quantity) (sessionId : String)
  | setQuantity (quantity : Quantity) (productId : String) (sessionId : String)
  | deleteCartItem (productId : String) (sessionId : String)
  | deleteCart (sessionId : String)
  | selectCheckout (sessionId : String)
  | selectNextId
  | insertOrder (row : NewOrder)
  | insertOrderItem (row : NewOrderItem)
  | selectOrders
  | enqueueReads (orderIds : List String)
  | selectOrder (id : String)
  | selectOrderItems (orderId : String)
deriving DecidableEq

/-- What a successful statement returns: rows, a number, or the count of the
rows it changed. -/
@[reducible] def Statement.Rows : Statement → Type
  | .selectProducts _ => List Product
  | .selectProduct _ => List Product
  | .selectCart _ => List (Product × Int4)
  | .selectCartItem _ _ => List CartItem
  | .increaseQuantity _ _ _ => Nat
  | .insertCartItem _ _ _ => Nat
  | .setQuantity _ _ _ => Nat
  | .deleteCartItem _ _ => Nat
  | .deleteCart _ => Nat
  | .selectCheckout _ => List CheckoutRow
  | .selectNextId => Nat
  | .insertOrder _ => Nat
  | .insertOrderItem _ => Nat
  | .selectOrders => List Order
  | .enqueueReads _ => List String
  | .selectOrder _ => List Order
  | .selectOrderItems _ => List OrderItem

/-- A statement returns its rows or an error, by which the `await` throws. -/
abbrev Statement.Result (statement : Statement) : Type := Except SqlError statement.Rows

/-- What one execution of a statement leaves to chance. -/
structure Choice where
  fails : Bool
  order : List Nat
  now : Nat
deriving DecidableEq

/-- The choices of a working connection that returns rows as stored and whose clock stands at
zero. -/
def Choice.plain : Choice := { fails := false, order := [], now := 0 }

namespace Database

/-- `SELECT * FROM products [WHERE ... LIKE $1] ORDER BY name`. -/
def selectProducts (database : Database) (pattern : Option String) (positions : List Nat) :
    List Product :=
  let found := match pattern with
    | none => database.products.rows
    | some text => database.products.rows.filter (fun product =>
        like text.toList product.name.toLower.toList ||
          (product.description.map (fun description =>
            like text.toList description.toLower.toList)).getD false)
  (reorder positions found).mergeSort (fun first second => decide (first.name ≤ second.name))

/-- The checkout's cart query, a join of the session's rows with the products. -/
def checkoutRows (database : Database) (sessionId : String) : List CheckoutRow :=
  (database.joinedCart sessionId).map (fun line =>
    { productId := line.1.id, quantity := line.2, name := line.1.name, price := line.1.price })

/-- The cart query lists products that exist, by the join. -/
theorem checkoutRows_known {database : Database} {sessionId : String} {row : CheckoutRow}
    (listed : row ∈ database.checkoutRows sessionId) :
    database.products.get? row.productId ≠ none := by
  obtain ⟨⟨product, quantity⟩, joined, rfl⟩ := List.mem_map.mp listed
  have known := ((database.mem_joinedCart sessionId product quantity).mp joined).1
  rw [KeyedTable.get?_complete known]
  simp

/-- `UPDATE cart_items SET quantity = quantity + $1 WHERE ...`. Without a
matching row nothing is computed, so NULL and overflow are errors only when the
row exists. -/
def increaseQuantity (database : Database) (quantity : Quantity) (productId : Option String)
    (sessionId : String) : Except SqlError Nat × Database :=
  match quantity.parameter, productId with
  | .error error, _ => (.error error, database)
  | .ok _, none => (.ok 0, database)
  | .ok added, some productId =>
    match database.cartItems.get? (productId, sessionId), added with
    | none, _ => (.ok 0, database)
    | some _, none => (.error .notNullViolation, database)
    | some row, some added =>
      match Int4.ofInt? (row.quantity.val + added.val) with
      | none => (.error .numericOutOfRange, database)
      | some sum => (.ok 1, database.storeQuantity productId sessionId sum)

/-- `INSERT INTO cart_items (product_id, quantity, session_id) VALUES ...`. A
header value has no trailing blanks, so a long session id is always an error. -/
def insertCartItem (database : Database) (productId : Option String) (quantity : Quantity)
    (sessionId : String) : Except SqlError Nat × Database :=
  match quantity.parameter, productId with
  | .error error, _ => (.error error, database)
  | .ok none, _ => (.error .notNullViolation, database)
  | .ok (some _), none => (.error .notNullViolation, database)
  | .ok (some stored), some productId =>
    if 255 < sessionId.length then (.error .stringTooLong, database)
    else if (database.products.get? productId).isNone then (.error .foreignKeyViolation, database)
    else
      match database.insertCart? ⟨productId, stored, sessionId⟩ with
      | none => (.error .uniqueViolation, database)
      | some next => (.ok 1, next)

/-- `UPDATE cart_items SET quantity = $1 WHERE ...`, which returns no error when there is no
row. -/
def setQuantity (database : Database) (quantity : Quantity) (productId sessionId : String) :
    Except SqlError Nat × Database :=
  match quantity.parameter with
  | .error error => (.error error, database)
  | .ok stored =>
    match database.cartItems.get? (productId, sessionId), stored with
    | none, _ => (.ok 0, database)
    | some _, none => (.error .notNullViolation, database)
    | some _, some stored => (.ok 1, database.storeQuantity productId sessionId stored)

/-- `DELETE FROM cart_items WHERE product_id = $1 AND session_id = $2`. -/
def deleteCartItem (database : Database) (productId sessionId : String) :
    Except SqlError Nat × Database :=
  (.ok (if (database.cartItems.get? (productId, sessionId)).isSome then 1 else 0),
    database.keepCart (fun row => decide (row.key ≠ (productId, sessionId))))

/-- `DELETE FROM cart_items WHERE session_id = $1`, which always succeeds, also for an empty
cart. -/
def deleteCart (database : Database) (sessionId : String) : Except SqlError Nat × Database :=
  (.ok (database.cartRows sessionId).length,
    database.keepCart (fun row => decide (row.sessionId ≠ sessionId)))

/-- The row `INSERT INTO orders` stores, when every value fits its column: no text holds
U+0000, the bounded ones are short enough, and the total is in range. The id is at most
twenty-three characters long, the status is a constant. -/
def orderRow? (row : NewOrder) (now : Nat) : Option Order := do
  let customerName ← nullable 255 row.customerName
  let customerEmail ← nullable 255 row.customerEmail
  let customerAddress ← nullableText row.customerAddress
  let customerPhone ← nullable 50 row.customerPhone
  let totalAmount ← Decimal.ofCents? row.totalAmount
  pure
    { id := row.id
      customerName := customerName
      customerEmail := customerEmail
      customerAddress := customerAddress
      customerPhone := customerPhone
      status := row.status
      totalAmount := totalAmount
      createdAt := now }

/-- `INSERT INTO orders ... VALUES ($1, ..., $7)`, which is refused for a value its column
does not take and for an id that is taken. -/
def insertOrder (database : Database) (row : NewOrder) (now : Nat) :
    Except SqlError Nat × Database :=
  match orderRow? row now with
  | none => (.error .numericOutOfRange, database)
  | some stored =>
    match database.insertOrder? stored with
    | none => (.error .uniqueViolation, database)
    | some next => (.ok 1, next)

/-- `INSERT INTO order_items ... VALUES ($1, ..., $6)`, which is refused for an amount out of
range and for an order or a product that is not there. -/
def insertOrderItem (database : Database) (row : NewOrderItem) : Except SqlError Nat × Database :=
  match Decimal.ofCents? row.subtotal with
  | none => (.error .numericOutOfRange, database)
  | some subtotal =>
    match database.insertItem? ⟨row.orderId, row.productId, row.productName, row.productPrice,
        row.quantity, subtotal⟩ with
    | none => (.error .foreignKeyViolation, database)
    | some next => (.ok 1, next)

/-- Everything the additive update can do: fail, find no row, or store the sum. -/
theorem increaseQuantity_cases (database : Database) (quantity : Quantity)
    (productId : Option String) (sessionId : String) :
    (∃ error, database.increaseQuantity quantity productId sessionId = (.error error, database)) ∨
      (database.increaseQuantity quantity productId sessionId = (.ok 0, database) ∧
        ∀ id, productId = some id → database.cartItems.get? (id, sessionId) = none) ∨
      ∃ id value row sum, productId = some id ∧ quantity = .integer value ∧
        database.cartItems.get? (id, sessionId) = some row ∧
        sum.val = row.quantity.val + value ∧
        database.increaseQuantity quantity productId sessionId =
          (.ok 1, database.storeQuantity id sessionId sum) := by
  unfold increaseQuantity
  split
  · exact Or.inl ⟨_, rfl⟩
  · exact Or.inr (Or.inl ⟨rfl, by simp⟩)
  · rename_i added id parameter
    split
    · rename_i absent
      refine Or.inr (Or.inl ⟨rfl, ?_⟩)
      rintro other same
      obtain rfl := Option.some.inj same
      exact absent
    · exact Or.inl ⟨_, rfl⟩
    · rename_i row added found
      split
      · exact Or.inl ⟨_, rfl⟩
      · rename_i sum computed
        exact Or.inr (Or.inr ⟨id, added.val, row, sum, rfl, Quantity.parameter_some parameter,
          found, Int4.ofInt?_eq_some.mp computed, rfl⟩)

/-- The additive update stores the sum when the row is there and nothing
overflows. -/
theorem increaseQuantity_hit {database : Database} (value : Int) {productId sessionId : String}
    {row : CartItem} (found : database.cartItems.get? (productId, sessionId) = some row)
    (parameter : -2147483648 ≤ value ∧ value ≤ 2147483647)
    (fits : -2147483648 ≤ row.quantity.val + value ∧ row.quantity.val + value ≤ 2147483647) :
    (database.increaseQuantity (.integer value) (some productId) sessionId).1 = .ok 1 := by
  simp [increaseQuantity, Quantity.parameter, Int4.ofInt?, parameter, found, fits]

/-- The cart insertion is accepted when the product exists, its place is free
and the values fit their columns. -/
theorem insertCartItem_free {database : Database} (value : Int) {productId sessionId : String}
    (free : database.cartItems.get? (productId, sessionId) = none)
    (known : (database.products.get? productId).isSome = true)
    (parameter : -2147483648 ≤ value ∧ value ≤ 2147483647) (short : sessionId.length ≤ 255) :
    (database.insertCartItem (some productId) (.integer value) sessionId).1 = .ok 1 := by
  have accepted : database.insertCart? ⟨productId, ⟨value, parameter⟩, sessionId⟩ ≠ none := by
    intro rejected
    cases insertCart?_eq_none.mp rejected with
    | inl missing => simp [missing] at known
    | inr taken => exact taken free
  obtain ⟨next, inserted⟩ := Option.ne_none_iff_exists'.mp accepted
  have product : database.products.get? productId ≠ none := Option.isSome_iff_ne_none.mp known
  simp [insertCartItem, Quantity.parameter, Int4.ofInt?, parameter, Nat.not_lt.mpr short, product,
    inserted]

/-- Everything the cart insertion can do: fail, or add a row that was not there. -/
theorem insertCartItem_cases (database : Database) (productId : Option String)
    (quantity : Quantity) (sessionId : String) :
    (∃ error, database.insertCartItem productId quantity sessionId = (.error error, database)) ∨
      ∃ id stored next, productId = some id ∧ quantity = .integer stored.val ∧
        database.insertCart? ⟨id, stored, sessionId⟩ = some next ∧
        database.insertCartItem productId quantity sessionId = (.ok 1, next) := by
  unfold insertCartItem
  split
  · exact Or.inl ⟨_, rfl⟩
  · exact Or.inl ⟨_, rfl⟩
  · exact Or.inl ⟨_, rfl⟩
  · rename_i stored id parameter
    split
    · exact Or.inl ⟨_, rfl⟩
    · split
      · exact Or.inl ⟨_, rfl⟩
      · split
        · exact Or.inl ⟨_, rfl⟩
        · rename_i next inserted
          exact Or.inr ⟨id, stored, next, rfl, Quantity.parameter_some parameter, inserted, rfl⟩

/-- Everything the absolute update can do: fail, find no row, or store the value. -/
theorem setQuantity_cases (database : Database) (quantity : Quantity)
    (productId sessionId : String) :
    (∃ error, database.setQuantity quantity productId sessionId = (.error error, database)) ∨
      (database.setQuantity quantity productId sessionId = (.ok 0, database) ∧
        database.cartItems.get? (productId, sessionId) = none) ∨
      ∃ stored, quantity = .integer stored.val ∧
        database.setQuantity quantity productId sessionId =
          (.ok 1, database.storeQuantity productId sessionId stored) := by
  unfold setQuantity
  split
  · exact Or.inl ⟨_, rfl⟩
  · rename_i stored parameter
    split
    · rename_i absent
      exact Or.inr (Or.inl ⟨rfl, absent⟩)
    · exact Or.inl ⟨_, rfl⟩
    · rename_i row stored found
      exact Or.inr (Or.inr ⟨stored, Quantity.parameter_some parameter, rfl⟩)

/-- The stored order carries the id, the status and the total of the request. -/
theorem orderRow?_eq_some {row : NewOrder} {now : Nat} {stored : Order}
    (fits : orderRow? row now = some stored) :
    stored.id = row.id ∧ stored.totalAmount.val = row.totalAmount := by
  unfold orderRow? at fits
  simp only [Option.bind_eq_bind, Option.pure_def, Option.bind_eq_some_iff] at fits
  obtain ⟨_, _, _, _, _, _, _, _, total, exact, same⟩ := fits
  obtain rfl := Option.some.inj same
  exact ⟨rfl, Decimal.ofCents?_eq_some.mp exact⟩

/-- Everything the order insertion can do: fail, or add an order under a free id. -/
theorem insertOrder_cases (database : Database) (row : NewOrder) (now : Nat) :
    ((∃ error, database.insertOrder row now = (.error error, database)) ∧
        (orderRow? row now = none ∨ database.orders.get? row.id ≠ none)) ∨
      ∃ stored next, orderRow? row now = some stored ∧ database.insertOrder? stored = some next ∧
        database.insertOrder row now = (.ok 1, next) := by
  unfold insertOrder
  split
  · rename_i misfit
    exact Or.inl ⟨⟨_, rfl⟩, Or.inl misfit⟩
  · rename_i stored fits
    split
    · rename_i rejected
      have taken := insertOrder?_eq_none.mp rejected
      rw [(orderRow?_eq_some fits).1] at taken
      exact Or.inl ⟨⟨_, rfl⟩, Or.inr taken⟩
    · rename_i next inserted
      exact Or.inr ⟨stored, next, fits, inserted, rfl⟩

/-- The row is stored when every text and the total fit their columns. -/
theorem orderRow?_ne_none {row : NewOrder} (now : Nat)
    (name : nullable 255 row.customerName ≠ none) (email : nullable 255 row.customerEmail ≠ none)
    (address : nullableText row.customerAddress ≠ none)
    (phone : nullable 50 row.customerPhone ≠ none)
    (total : Decimal.ofCents? row.totalAmount ≠ none) : orderRow? row now ≠ none := by
  obtain ⟨customerName, name⟩ := Option.ne_none_iff_exists'.mp name
  obtain ⟨customerEmail, email⟩ := Option.ne_none_iff_exists'.mp email
  obtain ⟨customerAddress, address⟩ := Option.ne_none_iff_exists'.mp address
  obtain ⟨customerPhone, phone⟩ := Option.ne_none_iff_exists'.mp phone
  obtain ⟨totalAmount, total⟩ := Option.ne_none_iff_exists'.mp total
  simp [orderRow?, name, email, address, phone, total]

/-- The order insertion is accepted when its row fits and its id is free. -/
theorem insertOrder_free {database : Database} {row : NewOrder} {now : Nat}
    (fits : orderRow? row now ≠ none) (free : database.orders.get? row.id = none) :
    (database.insertOrder row now).1 = .ok 1 := by
  rcases database.insertOrder_cases row now with
    ⟨-, misfit | taken⟩ | ⟨stored, next, -, -, accepted⟩
  · exact absurd misfit fits
  · exact absurd free taken
  · rw [accepted]

/-- The item insertion is accepted when the subtotal fits its column and the
order and the product exist. -/
theorem insertOrderItem_known {database : Database} {row : NewOrderItem}
    (fits : Decimal.ofCents? row.subtotal ≠ none)
    (ordered : database.orders.get? row.orderId ≠ none)
    (known : database.products.get? row.productId ≠ none) :
    (database.insertOrderItem row).1 = .ok 1 := by
  obtain ⟨subtotal, computed⟩ := Option.ne_none_iff_exists'.mp fits
  have accepted := @insertItem?_ne_none database
    ⟨row.orderId, row.productId, row.productName, row.productPrice, row.quantity, subtotal⟩
    (Option.isSome_iff_ne_none.mpr ordered) (Option.isSome_iff_ne_none.mpr known)
  obtain ⟨next, inserted⟩ := Option.ne_none_iff_exists'.mp accepted
  simp [insertOrderItem, computed, inserted]

/-- Everything the item insertion can do: fail, or append the item. -/
theorem insertOrderItem_cases (database : Database) (row : NewOrderItem) :
    (∃ error, database.insertOrderItem row = (.error error, database)) ∨
      ∃ (item : OrderItem) (next : Database), item.orderId = row.orderId ∧ item.productId = row.productId ∧
        item.productName = row.productName ∧ item.productPrice = row.productPrice ∧
        item.quantity = row.quantity ∧ item.subtotal.val = row.subtotal ∧
        database.insertItem? item = some next ∧ database.insertOrderItem row = (.ok 1, next) := by
  unfold insertOrderItem
  split
  · exact Or.inl ⟨_, rfl⟩
  · rename_i subtotal computed
    split
    · exact Or.inl ⟨_, rfl⟩
    · rename_i next inserted
      exact Or.inr ⟨_, next, rfl, rfl, rfl, rfl, rfl, Decimal.ofCents?_eq_some.mp computed,
        inserted, rfl⟩

/-- An item that was accepted fits its column and refers to an order and a product. -/
theorem insertOrderItem_fits {database : Database} {row : NewOrderItem} {count : Nat}
    (accepted : (database.insertOrderItem row).1 = .ok count) :
    Decimal.ofCents? row.subtotal ≠ none ∧ database.orders.get? row.orderId ≠ none ∧
      database.products.get? row.productId ≠ none := by
  rcases database.insertOrderItem_cases row with
    ⟨error, same⟩ | ⟨item, next, order, product, -, -, -, subtotal, inserted, -⟩
  · simp [same] at accepted
  · obtain ⟨items, products, -, orders⟩ := insertItem?_eq_some inserted
    have stored : item ∈ next.orderItems := by simp [items]
    have ordered := next.itemOrders item stored
    have known := next.itemProducts item stored
    rw [orders, order] at ordered
    rw [products, product] at known
    refine ⟨?_, Option.isSome_iff_ne_none.mp ordered, Option.isSome_iff_ne_none.mp known⟩
    rw [Decimal.ofCents?_eq_some.mpr subtotal]
    simp

end Database

/-- A parameter that a client can have chosen freely holds U+0000: the search text of the
query string, or a product id from a body. The other texts a statement is sent with are
checked elsewhere or cannot hold it: what `INSERT INTO orders` stores goes through its
columns, a session id is a header value and an id in a path is part of the request
target, in which the HTTP parser admits no U+0000, and the rest was read from the
tables. -/
def Statement.holdsNul : Statement → Bool
  | .selectProducts pattern => pattern.any Storage.holdsNul
  | .selectProduct id => id.any Storage.holdsNul
  | .selectCartItem productId _ => productId.any Storage.holdsNul
  | .increaseQuantity _ productId _ => productId.any Storage.holdsNul
  | .insertCartItem productId _ _ => productId.any Storage.holdsNul
  | _ => false

/-- What a statement does whose parameters the database has taken. -/
def carryOut (statement : Statement) (choice : Choice) (database : Database) :
    statement.Result × Database :=
  match statement with
  | .selectProducts pattern => (.ok (database.selectProducts pattern choice.order), database)
  | .selectProduct id => (.ok ((id.bind database.products.get?).toList), database)
  | .selectCart sessionId => (.ok (reorder choice.order (database.joinedCart sessionId)), database)
  | .selectCartItem productId sessionId =>
    (.ok (productId.bind (fun id => database.cartItems.get? (id, sessionId))).toList, database)
  | .increaseQuantity quantity productId sessionId =>
    database.increaseQuantity quantity productId sessionId
  | .insertCartItem productId quantity sessionId =>
    database.insertCartItem productId quantity sessionId
  | .setQuantity quantity productId sessionId => database.setQuantity quantity productId sessionId
  | .deleteCartItem productId sessionId => database.deleteCartItem productId sessionId
  | .deleteCart sessionId => database.deleteCart sessionId
  | .selectCheckout sessionId =>
    (.ok (reorder choice.order (database.checkoutRows sessionId)), database)
  | .selectNextId => (.ok (database.orders.rows.length + 1), database)
  | .insertOrder row => database.insertOrder row choice.now
  | .insertOrderItem row => database.insertOrderItem row
  | .selectOrders =>
    (.ok ((reorder choice.order database.orders.rows).mergeSort
      (fun first second => decide (second.createdAt ≤ first.createdAt))), database)
  | .enqueueReads orderIds => (.ok (reorder choice.order orderIds), database)
  | .selectOrder id => (.ok (database.orders.get? id).toList, database)
  | .selectOrderItems orderId =>
    (.ok (reorder choice.order (database.orderItems.filter
      (fun item => decide (item.orderId = orderId)))), database)

/-- Run one statement. A failing connection executes nothing, and a parameter that the
database does not take is refused before the statement is looked at. -/
def execute (statement : Statement) (choice : Choice) (database : Database) :
    statement.Result × Database :=
  if choice.fails then (.error .connection, database)
  else if statement.holdsNul then (.error .invalidText, database)
  else carryOut statement choice database

/-- A failed connection reports its error and changes nothing. -/
theorem execute_fails (statement : Statement) (choice : Choice) (database : Database)
    (failing : choice.fails = true) :
    execute statement choice database = (.error .connection, database) := by
  simp [execute, failing]

/-- Everything the execution of a statement can be: it is rejected before it is looked at
and changes nothing, or it is carried out on a working connection. -/
theorem execute_cases (statement : Statement) (choice : Choice) (database : Database) :
    (∃ error, execute statement choice database = (.error error, database)) ∨
      (choice.fails = false ∧ statement.holdsNul = false ∧
        execute statement choice database = carryOut statement choice database) := by
  unfold execute
  split
  · exact Or.inl ⟨_, rfl⟩
  · rename_i working
    split
    · exact Or.inl ⟨_, rfl⟩
    · rename_i taken
      exact Or.inr ⟨by simpa using working, by simpa using taken, rfl⟩

/-- On a working connection a statement whose parameters are taken is carried out. -/
theorem execute_works {statement : Statement} {choice : Choice} (working : choice.fails = false)
    (taken : statement.holdsNul = false) (database : Database) :
    execute statement choice database = carryOut statement choice database := by
  simp [execute, working, taken]

/-- A statement that has returned rows was carried out. -/
theorem execute_ok {statement : Statement} {choice : Choice} {database : Database}
    {rows : statement.Rows} (returned : (execute statement choice database).1 = .ok rows) :
    choice.fails = false ∧ statement.holdsNul = false ∧
      execute statement choice database = carryOut statement choice database := by
  cases execute_cases statement choice database with
  | inl rejected =>
    obtain ⟨error, same⟩ := rejected
    rw [same] at returned
    exact absurd returned (by simp)
  | inr carried => exact carried

/-- A parameter with U+0000 is refused on a working connection, and changes nothing. -/
theorem execute_refuses (statement : Statement) (choice : Choice) (database : Database)
    (working : choice.fails = false) (nul : statement.holdsNul = true) :
    execute statement choice database = (.error .invalidText, database) := by
  simp [execute, working, nul]

end ShoppingCS.Shop
