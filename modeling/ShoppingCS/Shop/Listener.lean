import ShoppingCS.Interleaving.Exceptions
import ShoppingCS.Shop.Routes

/-!
# The request listener and its exceptions

The listener once more, this time with everything that can throw. The answer of a
handler is not its value but what it does to the response object, and a `catch` is
reached by an exception. A query may reject with any error and return any rows of its
kind, and any expression over rows, bodies or parameters may throw instead of having
its value. What the listener has registered for the end of the body runs outside its
own `try`.
-/

namespace ShoppingCS.Shop.Listener

open Interleaving Web

/-- What is thrown, by its origin. The code only ever logs it, so nothing else is known of it.
-/
inductive Thrown where
  | invalidUrl
  | unparsable
  | noProperty
  | evaluation
  | headersSent
  | rejected (error : SqlError)
deriving DecidableEq

/-- A response on the wire; the answer to a preflight has no body. -/
structure HttpResponse where
  statusCode : Nat
  headers : List (String × String)
  body : Option Body
deriving DecidableEq

/-- `res`: the status and the headers that are set so far, and what was sent. -/
structure ServerResponse where
  statusCode : Nat
  headers : List (String × String)
  sent : List HttpResponse
deriving DecidableEq

/-- The response object the listener gets from the server, with the default status. -/
def ServerResponse.fresh : ServerResponse := { statusCode := 200, headers := [], sent := [] }

/-- What the code does beyond computing: queries, expressions that may throw, and the
methods of the response object. -/
inductive Effect where
  | query (statement : Statement)
  | evaluate
  | setStatusCode (statusCode : Nat)
  | setHeader (name value : String)
  | finish (body : Option Body)

/-- What an effect returns to the program, which is an exception where the source may throw.
-/
@[reducible] def Effect.Result : Effect → Type
  | .query statement => statement.Result
  | .evaluate => Except Thrown Unit
  | .setStatusCode _ => Unit
  | .setHeader _ _ => Except Thrown Unit
  | .finish _ => Unit

/-- What the database and the values leave open: the result of a query, and whether an
expression throws. -/
structure Outcome where
  result : (statement : Statement) → statement.Result
  evaluation : Except Thrown Unit

/-- What an effect does to the response. Headers cannot be set once the response has been
sent, and throw then. -/
def perform : (effect : Effect) → Outcome → ServerResponse → effect.Result × ServerResponse
  | .query statement, outcome, response => (outcome.result statement, response)
  | .evaluate, outcome, response => (outcome.evaluation, response)
  | .setStatusCode statusCode, _, response => ((), { response with statusCode := statusCode })
  | .setHeader name value, _, response =>
    if response.sent = [] then
      (.ok (), { response with
        headers := response.headers.filter (fun header => decide (header.1 ≠ name)) ++ [(name, value)] })
    else (.error .headersSent, response)
  | .finish body, _, response =>
    ((), { response with
      sent := response.sent ++ [⟨response.statusCode, response.headers, body⟩] })

/-- Code of the listener: a program of effects that may throw. -/
abbrev Js (α : Type) : Type := Throwing Effect Effect.Result Thrown α

/-- `await pool.query(...)`, which throws the error of the statement if it is rejected. -/
def poolQuery (statement : Statement) : Js statement.Rows :=
  Throwing.attempt (.query statement) (fun result => result.mapError .rejected)

/-- An expression that has a value or throws, where the model does not say which. -/
def evaluate {α : Type} (value : α) : Js α :=
  Throwing.attempt .evaluate (fun outcome => outcome.map (fun _ => value))

def setStatusCode (statusCode : Nat) : Js Unit := Throwing.attempt (.setStatusCode statusCode) .ok

/-- `res.setHeader(name, value)`, which throws when the headers have been sent. -/
def setHeader (name value : String) : Js Unit := Throwing.attempt (.setHeader name value) id

/-- `res.end(body)`, which sends the response with the status and headers set so far. -/
def finish (body : Option Body) : Js Unit := Throwing.attempt (.finish body) .ok

/-- `JSON.stringify(data)`, which may throw. An error is an object with one string, and never
does. -/
def stringify : Body → Js Body
  | .error message => pure (.error message)
  | data => evaluate data

/-- `sendResponse(res, statusCode, data)`, with the headers in the order of the source. -/
def sendResponse (statusCode : Nat) (data : Body) : Js Unit := do
  setStatusCode statusCode
  setHeader "Content-Type" "application/json"
  setHeader "Access-Control-Allow-Origin" "*"
  setHeader "Access-Control-Allow-Methods" "GET, POST, PUT, DELETE, OPTIONS"
  setHeader "Access-Control-Allow-Headers" "Content-Type, Authorization"
  let text ← stringify data
  finish (some text)

/-- What the listener reads of a request. The text of the body is complete when its end
is reported. -/
structure IncomingMessage where
  method : Method
  url : Text
  host : Option Text
  sessionHeader : Option String
  body : String

/-- What the listener calls and what is not its own: `new URL`, which throws where there
is none, and what the three handlers take from a parsed body. -/
structure Runtime where
  newUrl : Text → Text → Option Url
  readBody : String → ReadBody

/-- `handleCORS(req, res)`, which answers a preflight itself and says whether it has. -/
def handleCORS (req : IncomingMessage) : Js Bool :=
  if req.method = .options then do
    setStatusCode 200
    setHeader "Access-Control-Allow-Origin" "*"
    setHeader "Access-Control-Allow-Methods" "GET, POST, PUT, DELETE, OPTIONS"
    setHeader "Access-Control-Allow-Headers" "Content-Type, Authorization"
    finish none
    pure true
  else pure false

/-- `rows[0]`, of which a property is read, so that it throws for an empty result. -/
def firstRow {α : Type} : List α → Js α
  | row :: _ => pure row
  | [] => throw .noProperty

/-- A body that has been parsed and destructured, or throws because it cannot be. -/
def parsed {α : Type} : Option α → Js α
  | some value => pure value
  | none => throw .unparsable

/-- Select the session's cart and send it, as four of the routes end. -/
def respondCart (sessionId : String) : Js Unit := do
  let rows ← poolQuery (.selectCart sessionId)
  let lines ← evaluate (cartLines rows)
  sendResponse 200 (.cart lines)

/-- `/api/health`, which answers without a query. -/
def getHealth : Js Unit := sendResponse 200 .healthy

/-- `GET /api/products`, with the pattern made of the search text if there is one. -/
def getProducts (search : Option String) : Js Unit :=
  tryCatch (do
      let pattern ← evaluate (match search with
        | none => none
        | some text => if text = "" then none else some ("%" ++ text.toLower ++ "%"))
      let rows ← poolQuery (.selectProducts pattern)
      let products ← evaluate (rows.map transformProduct)
      sendResponse 200 (.products products))
    (fun _ => sendResponse 500 (.error "Failed to fetch products"))

/-- `GET /api/products/:id`, with a 404 of its own for an empty result. -/
def getProduct (productId : String) : Js Unit :=
  tryCatch (do
      let rows ← poolQuery (.selectProduct (some productId))
      match rows with
      | row :: _ =>
        let product ← evaluate (transformProduct row)
        sendResponse 200 (.product product)
      | [] => sendResponse 404 (.error "Product not found"))
    (fun _ => sendResponse 500 (.error "Failed to fetch product"))

/-- `GET /api/cart`, for the session of the header or the default one. -/
def getCart (sessionId : String) : Js Unit :=
  tryCatch (respondCart sessionId) (fun _ => sendResponse 500 (.error "Failed to fetch cart"))

/-- The callback of `POST /api/cart`: the product is looked up before its line is added, and
the cart is sent. -/
def postCart (sessionId : String) (body : Option CartBody) : Js Unit :=
  tryCatch (do
      let body ← parsed body
      let products ← poolQuery (.selectProduct body.productId)
      if products.isEmpty then sendResponse 404 (.error "Product not found")
      else do
        let existingItem ← poolQuery (.selectCartItem body.productId sessionId)
        if !existingItem.isEmpty then do
          let _ ← poolQuery (.increaseQuantity body.quantity body.productId sessionId)
          respondCart sessionId
        else do
          let _ ← poolQuery (.insertCartItem body.productId body.quantity sessionId)
          respondCart sessionId)
    (fun _ => sendResponse 400 (.error "Invalid request body"))

/-- The callback of `PUT /api/cart/:id`, where a quantity that is not positive deletes the
line. -/
def putCart (sessionId productId : String) (body : Option Quantity) : Js Unit :=
  tryCatch (do
      let quantity ← parsed body
      let removes ← evaluate quantity.nonpositive
      if removes then do
        let _ ← poolQuery (.deleteCartItem productId sessionId)
        respondCart sessionId
      else do
        let _ ← poolQuery (.setQuantity quantity productId sessionId)
        respondCart sessionId)
    (fun _ => sendResponse 400 (.error "Invalid request body"))

/-- `DELETE /api/cart/:id`, which sends the rest of the cart, also where nothing was deleted.
-/
def deleteCartItem (sessionId productId : String) : Js Unit :=
  tryCatch (do
      let _ ← poolQuery (.deleteCartItem productId sessionId)
      respondCart sessionId)
    (fun _ => sendResponse 500 (.error "Failed to delete cart item"))

/-- `DELETE /api/cart`, which sends an empty cart without selecting it. -/
def deleteCart (sessionId : String) : Js Unit :=
  tryCatch (do
      let _ ← poolQuery (.deleteCart sessionId)
      sendResponse 200 (.cart []))
    (fun _ => sendResponse 500 (.error "Failed to clear cart"))

/-- The function mapped over the orders, which selects the items of one. -/
def readOrder (order : Order) : Js OrderView := do
  let items ← poolQuery (.selectOrderItems order.id)
  evaluate (orderView order items)

/-- `GET /api/orders`. The queries for the items run concurrently under `Promise.all`. -/
def getOrders : Js Unit :=
  tryCatch (do
      let rows ← poolQuery .selectOrders
      let orders ← Throwing.all (rows.map readOrder)
      sendResponse 200 (.orders orders))
    (fun _ => sendResponse 500 (.error "Failed to fetch orders"))

/-- `JSON.parse` of the body of an order, before any query. -/
def parseOrder (body : OrderBody) : Js Unit :=
  if body = .unparsable then throw .unparsable else pure ()

/-- The customer fields are read only when the order is inserted; those of null throw. -/
def customerOf : OrderBody → Js CustomerFields
  | .fields customer => evaluate customer
  | _ => throw .noProperty

/-- The loop over the lines of the cart, one insertion after the other, without a transaction.
-/
def insertItems (nextId : Nat) : List CheckoutRow → Js Unit
  | [] => pure ()
  | item :: items => do
    let row ← evaluate (newOrderItem nextId item)
    let _ ← poolQuery (.insertOrderItem row)
    insertItems nextId items

/-- The created order is read back by its id and sent with the status 201. -/
def sendOrder (orderId : String) : Js Unit := do
  let orders ← poolQuery (.selectOrder orderId)
  let items ← poolQuery (.selectOrderItems orderId)
  let order ← firstRow orders
  let view ← evaluate (orderView order items)
  sendResponse 201 (.order view)

/-- The callback of `POST /api/orders`, with the early answer for an empty cart. -/
def postOrders (sessionId : String) (body : OrderBody) : Js Unit :=
  tryCatch (do
      parseOrder body
      let rows ← poolQuery (.selectCheckout sessionId)
      if rows.isEmpty then sendResponse 400 (.error "Cart is empty")
      else do
        let _ ← evaluate (totalAmount rows)
        let count ← poolQuery .selectNextId
        let nextId ← evaluate count
        let customer ← customerOf body
        let _ ← poolQuery (.insertOrder (newOrder nextId customer rows))
        insertItems nextId rows
        let _ ← poolQuery (.deleteCart sessionId)
        sendOrder (orderIdOf nextId))
    (fun _ => sendResponse 400 (.error "Invalid request body"))

/-- `GET /api/orders/:id`, with a 404 of its own for an empty result. -/
def getOrder (orderId : String) : Js Unit :=
  tryCatch (do
      let orders ← poolQuery (.selectOrder orderId)
      match orders with
      | [] => sendResponse 404 (.error "Order not found")
      | order :: _ =>
        let items ← poolQuery (.selectOrderItems orderId)
        let view ← evaluate (orderView order items)
        sendResponse 200 (.order view))
    (fun _ => sendResponse 500 (.error "Failed to fetch order"))

/-- What is registered for the end of the body, with the body as it will have been parsed. -/
inductive EndCallback where
  | postCart (body : Option CartBody)
  | putCart (productId : String) (body : Option Quantity)
  | postOrders (body : OrderBody)

/-- The session of a request; which one it is does not depend on the operation. -/
def sessionOf (req : IncomingMessage) (operation : Operation) : String :=
  getSessionId ⟨req.sessionHeader, operation⟩

/-- Run the callback for a request, whose header says the session. -/
def EndCallback.run (req : IncomingMessage) : EndCallback → Js Unit
  | .postCart body => Listener.postCart (sessionOf req (.postCart body)) body
  | .putCart productId body =>
    Listener.putCart (sessionOf req (.putCart productId body)) productId body
  | .postOrders body => Listener.postOrders (sessionOf req (.postOrders body)) body

/-- A route that answers at once and registers nothing. -/
def answering (route : Js Unit) : Js (Option EndCallback) := do
  route
  pure none

/-- The body of the listener's `try`. Three routes register a callback and return. -/
def dispatch (req : IncomingMessage) : Option Operation → Js (Option EndCallback)
  | some .getHealth => answering getHealth
  | some (.getProducts search) => answering (getProducts search)
  | some (.getProduct productId) => answering (getProduct productId)
  | some .getCart => answering (getCart (sessionOf req .getCart))
  | some (.postCart body) => pure (some (.postCart body))
  | some (.putCart productId body) => pure (some (.putCart productId body))
  | some (.deleteCartItem productId) =>
    answering (deleteCartItem (sessionOf req (.deleteCartItem productId)) productId)
  | some .deleteCart => answering (deleteCart (sessionOf req .deleteCart))
  | some .getOrders => answering getOrders
  | some (.postOrders body) => pure (some (.postOrders body))
  | some (.getOrder orderId) => answering (getOrder orderId)
  | none => answering (sendResponse 404 (.error "Endpoint not found"))

/-- The base of `new URL`: the host header, also when there is none. -/
def base (req : IncomingMessage) : Text := "http://".toList ++ req.host.getD "undefined".toList

/-- `new URL(req.url, ...)`, outside the `try`, so that what it throws escapes. -/
def newUrl (runtime : Runtime) (req : IncomingMessage) : Js Url :=
  match runtime.newUrl req.url (base req) with
  | some url => pure url
  | none => throw .invalidUrl

/-- The request listener, and the callback it has registered, if any. -/
def requestListener (runtime : Runtime) (req : IncomingMessage) : Js (Option EndCallback) := do
  if ← handleCORS req then pure none
  else do
    let url ← newUrl runtime req
    tryCatch (dispatch req (route req.method url (runtime.readBody req.body)))
      (fun _ => answering (sendResponse 500 (.error "Internal server error")))

/-- The listener, and then its callback when the body has ended. What either of them
throws escapes. -/
def exchange (runtime : Runtime) (req : IncomingMessage) : Js Unit := do
  match ← requestListener runtime req with
  | none => pure ()
  | some callback => callback.run req

end ShoppingCS.Shop.Listener
