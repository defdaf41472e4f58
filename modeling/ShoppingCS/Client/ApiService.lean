import ShoppingCS.Interleaving.Comparison
import ShoppingCS.Shop.Server

/-!
# The calls of `ApiService`

What the browser's API service sends for each of its calls, and what it makes of
the answer. Every call goes through one function, `request`, which sets the
headers; no call adds any of its own. An id that is part of a path is written
here as the server reads it from the path.

`browsers` is the server seen by its clients: a request also says which browser
has made the call. The server does not look at that.
-/

namespace ShoppingCS.Client

open Interleaving Shop

/-- The calls of `ApiService`, with the arguments of each that reach the server. -/
inductive ApiCall where
  | getProducts
  | getProduct (id : String)
  | searchProducts (query : String)
  | getCart
  | addToCart (productId : String) (quantity : Quantity)
  | updateCartItem (productId : String) (quantity : Quantity)
  | removeFromCart (productId : String)
  | clearCart
  | createOrder (orderData : CustomerFields)
  | getOrders
  | getOrder (id : String)
  | healthCheck
deriving DecidableEq

namespace ApiCall

/-- The route of a call. The path of a search is also the path of a product named
`search`, and the server takes it for that. -/
def operation : ApiCall → Operation
  | .getProducts => .getProducts none
  | .getProduct id => .getProduct id
  | .searchProducts _ => .getProduct "search"
  | .getCart => .getCart
  | .addToCart productId quantity => .postCart (some ⟨some productId, quantity⟩)
  | .updateCartItem productId quantity => .putCart productId (some quantity)
  | .removeFromCart productId => .deleteCartItem productId
  | .clearCart => .deleteCart
  | .createOrder orderData => .postOrders (.fields orderData)
  | .getOrders => .getOrders
  | .getOrder id => .getOrder id
  | .healthCheck => .getHealth

/-- The headers that `request` sends with every call. None of them names a session. -/
def defaultHeaders : List (String × String) := [("Content-Type", "application/json")]

/-- `fetch(url, config)`, as the request that the routes make of it. -/
def request (call : ApiCall) : Request :=
  { sessionHeader := defaultHeaders.lookup "x-session-id", operation := call.operation }

/-- The cart calls and the checkout, which read or write the cart of the session. -/
def usesCart : ApiCall → Bool
  | .getCart => true
  | .addToCart _ _ => true
  | .updateCartItem _ _ => true
  | .removeFromCart _ => true
  | .clearCart => true
  | .createOrder _ => true
  | _ => false

end ApiCall

/-- What a call returns to the application, a document or the message of an error. -/
structure ApiResponse where
  data : Option Body
  success : Bool
  message : Option String
deriving DecidableEq

/-- The end of `request`: a response outside the two hundreds is thrown and caught
as an error. -/
def receive (reply : Reply) : ApiResponse :=
  if 200 ≤ reply.status ∧ reply.status < 300 then
    { data := some reply.body, success := true, message := none }
  else
    { data := none
      success := false
      message := some ("HTTP error! status: " ++ reply.status.repr) }

/-- A call and the browser that makes it, which the server does not learn of. -/
structure Sent where
  browser : Nat
  call : ApiCall
deriving DecidableEq

/-- A call as the server receives it, whichever browser it comes from. -/
def Sent.request (sent : Sent) : Request := sent.call.request

/-- The server and its browsers: the same service, asked by calls. -/
def browsers : Service Sent Statement Statement.Result Reply Database Choice :=
  server.through Sent.request

/-- A call of some browser, in progress or answered. -/
abbrev BrowserTask := Task Sent Statement Statement.Result Reply

/-- The database and all calls that have been made, in their order. -/
abbrev BrowserState := State Sent Statement Statement.Result Reply Database

/-- What a call has returned so far, in the form the application gets it. -/
def response? (task : BrowserTask) : Option ApiResponse := task.answer?.map receive

/-- No call names a session, so all browsers share one. -/
theorem getSessionId_request (call : ApiCall) : getSessionId call.request = "default-session" := rfl

end ShoppingCS.Client
