import ShoppingCS.Interleaving.Service
import ShoppingCS.Shop.Statements

/-!
# The request handlers of `server.js`

Each route is a program over SQL statements. An `await pool.query(...)` is the
only place where another request can run, on this server instance or another:
the instances share nothing but the database. Every handler body is one `try`
block, so a rejected query ends the request with the answer of its `catch`.

Bodies arrive as `JSON.parse` and the parameter conversion of the driver leave
them: a missing body stands for text that does not parse or that cannot be
destructured, and an optional text is a parameter that may be NULL.
-/

namespace ShoppingCS.Shop

open Interleaving

/-- A cart line of a response, a product and its quantity. Prices are in whole cents, as
DECIMAL(10, 2) has them. -/
structure CartLine where
  product : Product
  quantity : Int
deriving DecidableEq

/-- An item of an order in a response, with the name and the price the product had when it was
ordered. -/
structure ItemView where
  productId : String
  productName : String
  productPrice : Int
  quantity : Int
  subtotal : Int
deriving DecidableEq

/-- An order in a response, with its items in the order the SELECT has returned them. -/
structure OrderView where
  id : String
  customerName : Option String
  customerEmail : Option String
  customerAddress : Option String
  customerPhone : Option String
  status : String
  totalAmount : Int
  items : List ItemView
  createdAt : Nat
deriving DecidableEq

/-- The JSON documents the server sends. The report of its health has no content
but the time and the address. -/
inductive Body where
  | error (message : String)
  | healthy
  | products (products : List Product)
  | product (product : Product)
  | cart (lines : List CartLine)
  | orders (orders : List OrderView)
  | order (order : OrderView)
deriving DecidableEq

/-- One HTTP response, as its status and the value that is serialised into its body. -/
structure Reply where
  status : Nat
  body : Body
deriving DecidableEq

/-- `sendResponse(res, statusCode, { error: message })`, the shape of every error the routes
send. -/
def Reply.error (status : Nat) (message : String) : Reply := ⟨status, .error message⟩

/-- The answer of the `catch` of the three handlers that read a body. -/
def invalidBody : Reply := .error 400 "Invalid request body"

/-- The body of `POST /api/cart`; the product id is the parameter's text. -/
structure CartBody where
  productId : Option String
  quantity : Quantity
deriving DecidableEq

/-- The customer fields of an order body after `|| null`, by which a missing field and an
empty one become NULL alike. -/
structure CustomerFields where
  customerName : Option String
  customerEmail : Option String
  customerAddress : Option String
  customerPhone : Option String
deriving DecidableEq

/-- The body of `POST /api/orders`. Reading a field of null throws, but only when
the fields are first needed. -/
inductive OrderBody where
  | unparsable
  | null
  | fields (customer : CustomerFields)
deriving DecidableEq

/-- The routes, each with what it takes from the path, the query and the body. -/
inductive Operation where
  | getHealth
  | getProducts (search : Option String)
  | getProduct (productId : String)
  | getCart
  | postCart (body : Option CartBody)
  | putCart (productId : String) (body : Option Quantity)
  | deleteCartItem (productId : String)
  | deleteCart
  | getOrders
  | postOrders (body : OrderBody)
  | getOrder (orderId : String)
deriving DecidableEq

/-- A request: the `x-session-id` header, if any, and the operation its method and path are
routed to. -/
structure Request where
  sessionHeader : Option String
  operation : Operation
deriving DecidableEq

/-- `req.headers['x-session-id'] || 'default-session'`, where an empty header counts as none.
-/
def getSessionId (request : Request) : String :=
  match request.sessionHeader with
  | none => "default-session"
  | some header => if header = "" then "default-session" else header

/-- A handler between two queries: it has answered, or it waits for the result of a statement.
-/
abbrev Handler := Program Statement Statement.Result Reply

/-- `await pool.query(...)` inside a `try` whose `catch` sends `rejected`, so that whatever
the error is the answer is the same. -/
def query (rejected : Reply) (statement : Statement) (next : statement.Rows → Handler) : Handler :=
  .call statement (fun result =>
    match result with
    | .ok rows => next rows
    | .error _ => .answer rejected)

/-- `transformProduct` renames columns and parses decimals; a row in cents keeps
all of its values. -/
def transformProduct (row : Product) : Product := row

/-- The response lines of a cart query, one for each row and in the order of the rows. -/
def cartLines (rows : List (Product × Int4)) : List CartLine :=
  rows.map (fun row => { product := transformProduct row.1, quantity := row.2.val })

/-- Select the session's cart and send it; the last part of the cart handlers. -/
def respondCart (rejected : Reply) (sessionId : String) : Handler :=
  query rejected (.selectCart sessionId) fun rows => .answer ⟨200, .cart (cartLines rows)⟩

/-- `/api/health`, answered without the database, so it works when nothing else does. -/
def getHealth : Handler := .answer ⟨200, .healthy⟩

/-- `GET /api/products`. An empty search text selects everything, as no text at all does. -/
def getProducts (search : Option String) : Handler :=
  let pattern := match search with
    | none => none
    | some text => if text = "" then none else some ("%" ++ text.toLower ++ "%")
  query (.error 500 "Failed to fetch products") (.selectProducts pattern) fun rows =>
    .answer ⟨200, .products (rows.map transformProduct)⟩

/-- `GET /api/products/:id`, which answers 404 for an id that is not in the table. -/
def getProduct (productId : String) : Handler :=
  query (.error 500 "Failed to fetch product") (.selectProduct (some productId)) fun rows =>
    match rows with
    | row :: _ => .answer ⟨200, .product (transformProduct row)⟩
    | [] => .answer (.error 404 "Product not found")

/-- `GET /api/cart`, which is empty for a session that has never added anything. -/
def getCart (sessionId : String) : Handler :=
  respondCart (.error 500 "Failed to fetch cart") sessionId

/-- `POST /api/cart`. The existing row decides between UPDATE and INSERT, in two statements
without a transaction. -/
def postCart (sessionId : String) : Option CartBody → Handler
  | none => .answer invalidBody
  | some body =>
    query invalidBody (.selectProduct body.productId) fun products =>
      if products.isEmpty then .answer (.error 404 "Product not found")
      else
        query invalidBody (.selectCartItem body.productId sessionId) fun existingItem =>
          if !existingItem.isEmpty then
            query invalidBody (.increaseQuantity body.quantity body.productId sessionId) fun _ =>
              respondCart invalidBody sessionId
          else
            query invalidBody (.insertCartItem body.productId body.quantity sessionId) fun _ =>
              respondCart invalidBody sessionId

/-- `PUT /api/cart/:id`, where a quantity that is not positive deletes the row. -/
def putCart (sessionId productId : String) : Option Quantity → Handler
  | none => .answer invalidBody
  | some quantity =>
    if quantity.nonpositive then
      query invalidBody (.deleteCartItem productId sessionId) fun _ =>
        respondCart invalidBody sessionId
    else
      query invalidBody (.setQuantity quantity productId sessionId) fun _ =>
        respondCart invalidBody sessionId

/-- `DELETE /api/cart/:id`, which does not look whether there was a row to delete. -/
def deleteCartItem (sessionId productId : String) : Handler :=
  query (.error 500 "Failed to delete cart item") (.deleteCartItem productId sessionId) fun _ =>
    respondCart (.error 500 "Failed to delete cart item") sessionId

/-- `DELETE /api/cart`, whose answer is an empty cart that has not been selected. -/
def deleteCart (sessionId : String) : Handler :=
  query (.error 500 "Failed to clear cart") (.deleteCart sessionId) fun _ =>
    .answer ⟨200, .cart []⟩

/-- The response item of an item row, with its DECIMAL columns read as numbers. -/
def itemView (item : OrderItem) : ItemView :=
  { productId := item.productId
    productName := item.productName
    productPrice := item.productPrice.val
    quantity := item.quantity.val
    subtotal := item.subtotal.val }

/-- The response order of an order row and its item rows. -/
def orderView (order : Order) (items : List OrderItem) : OrderView :=
  { id := order.id
    customerName := order.customerName
    customerEmail := order.customerEmail
    customerAddress := order.customerAddress
    customerPhone := order.customerPhone
    status := order.status
    totalAmount := order.totalAmount.val
    items := items.map itemView
    createdAt := order.createdAt }

/-- The item queries of `GET /api/orders`, in the order the pool runs them. -/
def readItems : List String → List (String × List OrderItem) →
    (List (String × List OrderItem) → Handler) → Handler
  | [], found, next => next found
  | orderId :: orderIds, found, next =>
    query (.error 500 "Failed to fetch orders") (.selectOrderItems orderId) fun items =>
      readItems orderIds (found ++ [(orderId, items)]) next

/-- `GET /api/orders`. The answer lists the orders as they were selected,
whatever the order in which their items arrive. -/
def getOrders : Handler :=
  query (.error 500 "Failed to fetch orders") .selectOrders fun rows =>
    query (.error 500 "Failed to fetch orders") (.enqueueReads (rows.map (·.id))) fun orderIds =>
      readItems orderIds [] fun found =>
        .answer ⟨200, .orders (rows.map (fun row =>
          orderView row ((found.lookup row.id).getD [])))⟩

/-- `ORD-${next_id}`, with the count of the orders plus one as the number. -/
def orderIdOf (nextId : Nat) : String := "ORD-" ++ nextId.repr

/-- `parseFloat(item.price) * item.quantity`, in exact cents. The source computes it in
floating point. -/
def CheckoutRow.subtotal (item : CheckoutRow) : Int := item.price.val * item.quantity.val

/-- The loop that adds up the order total, from the first line of the cart to the last. -/
def totalAmount (rows : List CheckoutRow) : Int :=
  rows.foldl (fun total item => total + item.subtotal) 0

/-- The parameters of the order row, before PostgreSQL checks them against the columns. -/
def newOrder (nextId : Nat) (customer : CustomerFields) (rows : List CheckoutRow) : NewOrder :=
  { id := orderIdOf nextId
    customerName := customer.customerName
    customerEmail := customer.customerEmail
    customerAddress := customer.customerAddress
    customerPhone := customer.customerPhone
    status := "pending"
    totalAmount := totalAmount rows }

/-- The parameters of one item row, again before the columns are checked. -/
def newOrderItem (nextId : Nat) (item : CheckoutRow) : NewOrderItem :=
  { orderId := orderIdOf nextId
    productId := item.productId
    productName := item.name
    productPrice := item.price
    quantity := item.quantity
    subtotal := item.subtotal }

/-- `for (const item of cartResult.rows)`: one INSERT per cart line, and `next` behind the
last. A rejected one ends the request with what it has inserted left in place. -/
def insertItems (nextId : Nat) : List CheckoutRow → Handler → Handler
  | [], next => next
  | item :: items, next =>
    query invalidBody (.insertOrderItem (newOrderItem nextId item)) fun _ =>
      insertItems nextId items next

/-- Read the items of the created order and send it; an order row that is not
there throws. -/
def sendOrder (nextId : Nat) (orders : List Order) : Handler :=
  query invalidBody (.selectOrderItems (orderIdOf nextId)) fun items =>
    match orders with
    | order :: _ => .answer ⟨201, .order (orderView order items)⟩
    | [] => .answer invalidBody

/-- Clear the cart, read the created order back and send it. -/
def finishOrder (sessionId : String) (nextId : Nat) : Handler :=
  query invalidBody (.deleteCart sessionId) fun _ =>
    query invalidBody (.selectOrder (orderIdOf nextId)) fun orders =>
      sendOrder nextId orders

/-- Create the order row and everything after it. This is where two checkouts with one number
part. -/
def placeOrder (sessionId : String) (nextId : Nat) (customer : CustomerFields)
    (rows : List CheckoutRow) : Handler :=
  query invalidBody (.insertOrder (newOrder nextId customer rows)) fun _ =>
    insertItems nextId rows (finishOrder sessionId nextId)

/-- The customer fields are read only now; those of null throw. -/
def submitOrder (sessionId : String) (body : OrderBody) (rows : List CheckoutRow) (nextId : Nat) :
    Handler :=
  match body with
  | .fields customer => placeOrder sessionId nextId customer rows
  | _ => .answer invalidBody

/-- Number the order, then create it. Between the two statements another order may be created.
-/
def numberOrder (sessionId : String) (body : OrderBody) (rows : List CheckoutRow) : Handler :=
  query invalidBody .selectNextId fun nextId => submitOrder sessionId body rows nextId

/-- `POST /api/orders`: the cart is selected first, and an empty one is answered with 400. -/
def postOrders (sessionId : String) (body : OrderBody) : Handler :=
  if body = .unparsable then .answer invalidBody
  else
    query invalidBody (.selectCheckout sessionId) fun rows =>
      if rows.isEmpty then .answer (.error 400 "Cart is empty")
      else numberOrder sessionId body rows

/-- `GET /api/orders/:id`, which answers 404 for an id that is not in the table. -/
def getOrder (orderId : String) : Handler :=
  query (.error 500 "Failed to fetch order") (.selectOrder orderId) fun orders =>
    match orders with
    | [] => .answer (.error 404 "Order not found")
    | order :: _ =>
      query (.error 500 "Failed to fetch order") (.selectOrderItems orderId) fun items =>
        .answer ⟨200, .order (orderView order items)⟩

/-- The request listener, from the dispatch on, as a handler for each route. -/
def handle (request : Request) : Handler :=
  match request.operation with
  | .getHealth => getHealth
  | .getProducts search => getProducts search
  | .getProduct productId => getProduct productId
  | .getCart => getCart (getSessionId request)
  | .postCart body => postCart (getSessionId request) body
  | .putCart productId body => putCart (getSessionId request) productId body
  | .deleteCartItem productId => deleteCartItem (getSessionId request) productId
  | .deleteCart => deleteCart (getSessionId request)
  | .getOrders => getOrders
  | .postOrders body => postOrders (getSessionId request) body
  | .getOrder orderId => getOrder orderId

/-- The server instances behind the load balancer, on one database. They keep no state of
their own, so one service stands for all of them. -/
def server : Service Request Statement Statement.Result Reply Database Choice where
  handler := handle
  perform := execute

/-- Let one request execute its next statements on a working connection. -/
def statements (index count : Nat) : List (Action Request Choice) :=
  List.replicate count (.proceed index .plain)

/-- A POST of one smartphone to the cart of a session, used by several of the runs. -/
def addSmartphone (sessionId : String) : Request :=
  ⟨some sessionId, .postCart (some ⟨some "1", .integer 1⟩)⟩

/-- A checkout without customer data, which the server accepts. -/
def checkout (sessionId : String) : Request :=
  ⟨some sessionId, .postOrders (.fields ⟨none, none, none, none⟩)⟩

/-- Distinct counts give distinct order ids, because the decimal digits determine the number.
-/
theorem orderIdOf_injective {first second : Nat} (same : orderIdOf first = orderIdOf second) :
    first = second := by
  have digits : first.repr = second.repr := (String.append_right_inj "ORD-").mp same
  have characters := congrArg String.toList digits
  rw [Nat.toList_repr, Nat.toList_repr] at characters
  rw [← Nat.ofDigitChars_ten_toDigits (n := first), characters, Nat.ofDigitChars_ten_toDigits]

@[simp] theorem orderIdOf_inj {first second : Nat} :
    orderIdOf first = orderIdOf second ↔ first = second :=
  ⟨orderIdOf_injective, congrArg orderIdOf⟩

/-- The total is the sum of the subtotals, so that it may be computed in any order. -/
theorem totalAmount_eq_sum (rows : List CheckoutRow) :
    totalAmount rows = (rows.map CheckoutRow.subtotal).sum := by
  rw [List.sum_eq_foldl, List.foldl_map]
  rfl

end ShoppingCS.Shop
