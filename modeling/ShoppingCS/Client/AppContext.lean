import ShoppingCS.Client.CustomerDetails

/-!
# The application context of the client

The state the pages share, its reducer, and the calls they make: what a call sends,
and what it dispatches when it starts and when its answer is there. The client changes
its copy of the cart by itself; of the carts in the answers it takes only the one it
has asked for.

A visit is a client and the server. The client waits for the answer of a call before
it makes the next one, and nobody else uses its session; requests of other sessions
run in between. Quantities are whole numbers, as the pages have them.
-/

namespace ShoppingCS.Client

open Interleaving Shop

/-- `AppState`, with the lists as the server has sent them and the reducer changed them. -/
structure AppState where
  products : List Product
  cart : List CartLine
  orders : List OrderView
  loading : Bool
  error : Option String
deriving DecidableEq

/-- `initialState`, of an application that has loaded nothing yet. -/
def initialState : AppState :=
  { products := [], cart := [], orders := [], loading := false, error := none }

/-- `AppAction`, the ten actions of the reducer, with the payload of each. -/
inductive AppAction where
  | setLoading (payload : Bool)
  | setError (payload : Option String)
  | setProducts (payload : List Product)
  | setCart (payload : List CartLine)
  | addToCart (payload : CartLine)
  | updateCartItem (productId : String) (quantity : Int)
  | removeFromCart (payload : String)
  | clearCart
  | setOrders (payload : List OrderView)
  | addOrder (payload : OrderView)
deriving DecidableEq

/-- `ADD_TO_CART`: a line with the product takes the quantity, or the line is new. -/
def addLine (cart : List CartLine) (payload : CartLine) : List CartLine :=
  if (cart.find? (fun item => decide (item.product.id = payload.product.id))).isSome then
    cart.map (fun item =>
      if item.product.id = payload.product.id then
        { item with quantity := item.quantity + payload.quantity }
      else item)
  else cart ++ [payload]

/-- `UPDATE_CART_ITEM`: the product's line takes the quantity, and then every line
without a positive quantity goes. -/
def updateLine (cart : List CartLine) (productId : String) (quantity : Int) : List CartLine :=
  (cart.map (fun item =>
    if item.product.id = productId then { item with quantity := quantity } else item)).filter
      (fun item => decide (0 < item.quantity))

/-- `REMOVE_FROM_CART`, which filters the product's line out. -/
def removeLine (cart : List CartLine) (productId : String) : List CartLine :=
  cart.filter (fun item => decide (item.product.id ≠ productId))

/-- `appReducer`, one case for each action, which replaces parts of the state and keeps the
rest. -/
def appReducer (state : AppState) : AppAction → AppState
  | .setLoading payload => { state with loading := payload }
  | .setError payload => { state with error := payload }
  | .setProducts payload => { state with products := payload }
  | .setCart payload => { state with cart := payload }
  | .addToCart payload => { state with cart := addLine state.cart payload }
  | .updateCartItem productId quantity =>
    { state with cart := updateLine state.cart productId quantity }
  | .removeFromCart payload => { state with cart := removeLine state.cart payload }
  | .clearCart => { state with cart := [] }
  | .setOrders payload => { state with orders := payload }
  | .addOrder payload => { state with orders := state.orders ++ [payload] }

/-- `dispatch`, for one action after the other, as a function of the context dispatches
several. -/
def dispatch (state : AppState) (actions : List AppAction) : AppState :=
  actions.foldl appReducer state

/-- The calls of the context. `createOrder` is the one the checkout page makes with a
form. -/
inductive ContextCall where
  | loadProducts
  | loadCart
  | addToCart (product : Product) (quantity : Int)
  | updateCartItem (productId : String) (quantity : Int)
  | removeFromCart (productId : String)
  | clearCart
  | createOrder (formData : OrderData)
  | loadOrders
deriving DecidableEq

/-- What the browser and the database driver do: an id that is put into a path reaches
the handler as `inPath` says, and `prepareValue` makes parameters of values. -/
structure Platform where
  inPath : String → String
  prepareValue : Json → String

namespace ContextCall

/-- The request of a call, made with this cart; the checkout page may not make one. -/
def request? (platform : Platform) (cart : List CartLine) : ContextCall → Option Request
  | .loadProducts => some ApiCall.getProducts.request
  | .loadCart => some ApiCall.getCart.request
  | .addToCart product quantity =>
    some (ApiCall.addToCart product.id (.integer quantity)).request
  | .updateCartItem productId quantity =>
    some (ApiCall.updateCartItem (platform.inPath productId) (.integer quantity)).request
  | .removeFromCart productId => some (ApiCall.removeFromCart (platform.inPath productId)).request
  | .clearCart => some ApiCall.clearCart.request
  | .createOrder formData => CheckoutPage.submit platform.prepareValue cart formData
  | .loadOrders => some ApiCall.getOrders.request

/-- What a call dispatches before its request. Only `loadProducts` shows that it is loading.
-/
def begins : ContextCall → List AppAction
  | .loadProducts => [.setLoading true, .setError none]
  | _ => []

/-- What a call dispatches when its request has returned. The server answers every
call with a document of the call's own kind, or with an error. -/
def finishes (response : ApiResponse) : ContextCall → List AppAction
  | .loadProducts =>
    match response.success, response.data with
    | true, some (.products products) => [.setProducts products, .setLoading false]
    | _, _ =>
      [.setError (some (response.message.getD "Failed to load products")), .setLoading false]
  | .loadCart =>
    match response.success, response.data with
    | true, some (.cart lines) => [.setCart lines]
    | _, _ => []
  | .addToCart product quantity =>
    if response.success then [.addToCart { product := product, quantity := quantity }] else []
  | .updateCartItem productId quantity =>
    if response.success then [.updateCartItem productId quantity] else []
  | .removeFromCart productId => if response.success then [.removeFromCart productId] else []
  | .clearCart => if response.success then [.clearCart] else []
  | .createOrder _ =>
    match response.success, response.data with
    | true, some (.order order) => [.addOrder order, .clearCart]
    | _, _ => []
  | .loadOrders =>
    match response.success, response.data with
    | true, some (.orders orders) => [.setOrders orders]
    | _, _ => []

end ContextCall

/-- The session of all requests that name none, which are all requests of this client. -/
def clientSession : String := "default-session"

/-- The client and the server, and the call the client waits for with the place of its
request. -/
structure Visit where
  shop : ShopState
  state : AppState
  pending : Option (ContextCall × Nat)

namespace Visit

/-- A call of the client, a request of another session, a statement, or the arrival of
the awaited answer. -/
inductive Move where
  | call (call : ContextCall)
  | other (request : Request)
  | proceed (index : Nat) (choice : Choice)
  | receive
deriving DecidableEq

/-- A client that has just been loaded, and a server with nothing to do. -/
def fresh (initial : Database) : Visit :=
  { shop := Service.idleState initial, state := initialState, pending := none }

/-- The pending call with its task and its answer, once there is one. -/
def answered? (visit : Visit) : Option (ContextCall × ShopTask × Reply) := do
  let (call, index) ← visit.pending
  let task ← visit.shop.tasks[index]?
  let reply ← task.answer?
  pure (call, task, reply)

/-- One move. A call made while another one is pending does not happen, nor does a
request of the client's session by somebody else. -/
def step (platform : Platform) (visit : Visit) : Move → Visit
  | .call call =>
    match visit.pending, call.request? platform visit.state.cart with
    | none, some request =>
      { shop := server.step visit.shop (.start request)
        state := dispatch visit.state call.begins
        pending := some (call, visit.shop.tasks.length) }
    | _, _ => visit
  | .other request =>
    if getSessionId request = clientSession then visit
    else { visit with shop := server.step visit.shop (.start request) }
  | .proceed index choice =>
    { visit with shop := server.step visit.shop (.proceed index choice) }
  | .receive =>
    match visit.answered? with
    | some (call, _, reply) =>
      { visit with
        state := dispatch visit.state (call.finishes (Client.receive reply))
        pending := none }
    | none => visit

/-- The moves in their order, from any state of the visit. -/
def run (platform : Platform) (visit : Visit) (moves : List Move) : Visit :=
  moves.foldl (step platform) visit

end Visit

end ShoppingCS.Client
