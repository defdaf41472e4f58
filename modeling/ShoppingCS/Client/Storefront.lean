import ShoppingCS.Client.Browser
import ShoppingCS.Client.CartReducer
import ShoppingCS.Shop.OfferedProducts

/-!
# The shop as its pages let it be used

The server takes any product and any quantity. What keeps products that are not in stock out
of the carts, and quantities at one or more, are buttons: a card without stock has none, minus
stops at one, and plus and the cards add one. Any number of tabs use the same cart at once, each
with its own copy of it, while statements and requests fail.
-/

namespace ShoppingCS.Client

open Interleaving Shop Storage

/-- `cartItemCount`: the sum of the quantities of the cart, as `App` computes it for the
header. -/
def cartItemCount (cart : List CartLine) : Int :=
  cart.foldl (fun sum item => sum + item.quantity) 0

/-- `Header` shows a badge with the number at the cart, if the number is above zero. -/
def cartBadge (cartItemCount : Int) : Option Int :=
  if cartItemCount > 0 then some cartItemCount else none

/-- What the pages do when they appear, and their buttons. A line of the cart has its own. -/
inductive Control where
  | appMounted
  | cartPageMounted
  | addToCart (product : Product)
  | minus (place : Nat)
  | plus (place : Nat)
  | remove (place : Nat)
  | clearCart
  | submit (formData : OrderData)
deriving DecidableEq

/-- The call a control makes, if it is there and enabled. A card whose product is not in stock
is disabled, and so is minus at a quantity of one. -/
def Control.call? (state : AppState) : Control → Option ContextCall
  | .appMounted => some .loadProducts
  | .cartPageMounted => some .loadCart
  | .addToCart product =>
    match productsPage state with
    | .grid products =>
      if product ∈ products ∧ product.inStock = some true then some (.addToCart product 1) else none
    | _ => none
  | .minus place => state.cart[place]?.bind (fun item =>
      if item.quantity ≤ 1 then none
      else some (.updateCartItem item.product.id (item.quantity - 1)))
  | .plus place => state.cart[place]?.map (fun item =>
      .updateCartItem item.product.id (item.quantity + 1))
  | .remove place => state.cart[place]?.map (fun item => .removeFromCart item.product.id)
  | .clearCart => if state.cart = [] then none else some .clearCart
  | .submit formData => some (.createOrder formData)

/-- A tab: its application, and its calls in flight with the places of their requests. -/
structure Tab where
  app : AppState
  inFlight : List (ContextCall × Nat)

/-- The open tabs and the server they all talk to. Tabs share no state of the client. -/
structure Storefront where
  tabs : List Tab
  shop : ShopState

namespace Storefront

/-- A tab is opened or closed, a control of a tab is used, the server executes a statement, an
answer arrives at a tab, or a request of a tab is lost. -/
inductive Move where
  | openTab
  | closeTab (index : Nat)
  | use (index : Nat) (control : Control)
  | proceed (index : Nat) (choice : Choice)
  | receive (index place : Nat)
  | lose (index place : Nat) (message : {text : String // text ≠ ""})
deriving DecidableEq

/-- Nobody has opened a tab yet, and the server has had no request. -/
def fresh (initial : Database) : Storefront :=
  { tabs := [], shop := Service.idleState initial }

/-- A tab and the server, as the model of one browser has them. -/
def browser (front : Storefront) (tab : Tab) : Browser :=
  { app := tab.app, inFlight := tab.inFlight, shop := front.shop }

/-- A tab and the server have changed, and the other tabs stay as they are. -/
def put (front : Storefront) (index : Nat) (browser : Browser) : Storefront :=
  { tabs := front.tabs.set index ⟨browser.app, browser.inFlight⟩, shop := browser.shop }

/-- A move of the browser of a tab. For a place where there is no tab nothing happens. -/
def browse (platform : Platform) (front : Storefront) (index : Nat) (move : Browser.Move) :
    Storefront :=
  match front.tabs[index]? with
  | some tab => front.put index ((front.browser tab).step platform move)
  | none => front

/-- One move: tabs are opened and closed, a control is used, the server goes on, or a reply
arrives or is lost. -/
def step (platform : Platform) (front : Storefront) : Move → Storefront
  | .openTab => { front with tabs := front.tabs ++ [⟨initialState, []⟩] }
  | .closeTab index => { front with tabs := front.tabs.eraseIdx index }
  | .use index control =>
    match front.tabs[index]?.bind (fun tab => control.call? tab.app) with
    | some call => front.browse platform index (.call call)
    | none => front
  | .proceed index choice => { front with shop := server.step front.shop (.proceed index choice) }
  | .receive index place => front.browse platform index (.receive place)
  | .lose index place message => front.browse platform index (.lose place message)

/-- The moves in their order, from any state of tabs and server. -/
def run (platform : Platform) (front : Storefront) (moves : List Move) : Storefront :=
  Runs.run (step platform) front moves

end Storefront

/-- The product is in the catalogue of the database and marked as in stock, which makes its
button active. -/
def Sold (initial : Database) (product : Product) : Prop :=
  product ∈ initial.products.rows ∧ product.inStock = some true

/-- The id is that of such a product, which is what a request says of it. -/
def SoldId (initial : Database) (productId : String) : Prop :=
  ∃ product, Sold initial product ∧ product.id = productId

/-- Each product has one line, is in stock, and is wanted at least once. -/
structure Stocked (initial : Database) (lines : List CartLine) : Prop where
  tidy : Tidy lines
  sold : ∀ item ∈ lines, Sold initial item.product

/-- The action loads or adds only lines that are stocked. The other actions do not put lines
into the cart. -/
def AppAction.Stocks (initial : Database) : AppAction → Prop
  | .setCart payload => Stocked initial payload
  | .addToCart payload => 1 ≤ payload.quantity ∧ Sold initial payload.product
  | _ => True

/-- The call adds only products in stock, and asks for quantities of one or more. -/
def ContextCall.Stocks (initial : Database) : ContextCall → Prop
  | .addToCart product quantity => 1 ≤ quantity ∧ Sold initial product
  | .updateCartItem _ quantity => 1 ≤ quantity
  | _ => True

/-- A PUT asks for one or more; the controls ask for zero only in the form of a removal, which
is a DELETE. -/
def UpdatesSome : Operation → Prop
  | .putCart _ quantity => ∃ value, quantity = some (.integer value) ∧ 1 ≤ value
  | _ => True

/-- The request adds something, and that is in stock, and updates to one or more. -/
structure Ruled (initial : Database) (request : Request) : Prop where
  adds : AddsSome (.start request)
  offers : AddsOffered (SoldId initial) (.start request)
  updates : UpdatesSome request.operation

section Carts

variable {initial : Database}

theorem stocked_nil : Stocked initial [] where
  tidy := Tidy.nil
  sold := fun item member => absurd member (by simp)

/-- An action that stocks is sound in the sense of the reducer, so what is known of sound
actions applies. -/
theorem AppAction.Stocks.sound {action : AppAction} (stocks : action.Stocks initial) :
    action.Sound := by
  cases action with
  | setCart payload => exact stocks.tidy
  | addToCart payload => exact stocks.1
  | _ => trivial

/-- The reducer makes lines only of the lines there are and of what it is given. -/
theorem Stocked.appReducer {state : AppState} (stocked : Stocked initial state.cart)
    {action : AppAction} (stocks : action.Stocks initial) :
    Stocked initial (appReducer state action).cart := by
  constructor
  · exact stocked.tidy.appReducer stocks.sound
  · cases action with
    | setCart payload => exact stocks.sold
    | addToCart payload =>
      intro item member
      change item ∈ addLine state.cart payload at member
      rw [addLine_eq] at member
      split_ifs at member
      · obtain ⟨source, stored, rfl⟩ := List.mem_map.mp member
        rw [product_atProduct]
        exact stocked.sold source stored
      · cases List.mem_append.mp member with
        | inl stored => exact stocked.sold item stored
        | inr new =>
          obtain rfl := List.mem_singleton.mp new
          exact stocks.2
    | updateCartItem productId quantity =>
      intro item member
      obtain ⟨source, stored, rfl⟩ := List.mem_map.mp (List.mem_of_mem_filter member)
      split
      · exact stocked.sold source stored
      · exact stocked.sold source stored
    | removeFromCart productId =>
      exact fun item member => stocked.sold item (List.mem_of_mem_filter member)
    | clearCart => exact stocked_nil.sold
    | _ => exact stocked.sold

/-- So do any number of actions, dispatched one after the other, by induction on them. -/
theorem Stocked.dispatch {state : AppState} (stocked : Stocked initial state.cart)
    {actions : List AppAction} (stocks : ∀ action ∈ actions, action.Stocks initial) :
    Stocked initial (dispatch state actions).cart := by
  induction actions generalizing state with
  | nil => exact stocked
  | cons action actions inductionHypothesis =>
    obtain ⟨here, later⟩ := List.forall_mem_cons.mp stocks
    exact inductionHypothesis (stocked.appReducer here) later

/-- Beginning a call dispatches at most the note that products are loading, which leaves the
cart alone. -/
theorem begins_stocks (call : ContextCall) : ∀ action ∈ call.begins, action.Stocks initial := by
  cases call with
  | loadProducts => simp [ContextCall.begins, AppAction.Stocks]
  | _ => simp [ContextCall.begins]

/-- A call that stocks ends with actions that stock, if a cart it has loaded does. -/
theorem finishes_stocks {call : ContextCall} (stocks : call.Stocks initial) {response : ApiResponse}
    (loads : ∀ lines, call = .loadCart → response.data = some (.cart lines) → Stocked initial lines) :
    ∀ action ∈ call.finishes response, action.Stocks initial := by
  intro action member
  cases call with
  | loadCart =>
    simp only [ContextCall.finishes] at member
    split at member
    · rename_i lines _ data
      obtain rfl := List.mem_singleton.mp member
      exact loads lines rfl data
    · exact absurd member (by simp)
  | addToCart product quantity =>
    simp only [ContextCall.finishes] at member
    split at member
    · obtain rfl := List.mem_singleton.mp member
      exact stocks
    · exact absurd member (by simp)
  | loadProducts =>
    simp only [ContextCall.finishes] at member
    split at member
    · simp only [List.mem_cons, List.not_mem_nil, or_false] at member
      rcases member with rfl | rfl <;> trivial
    · simp only [List.mem_cons, List.not_mem_nil, or_false] at member
      rcases member with rfl | rfl <;> trivial
  | createOrder formData =>
    simp only [ContextCall.finishes] at member
    split at member
    · simp only [List.mem_cons, List.not_mem_nil, or_false] at member
      rcases member with rfl | rfl <;> trivial
    · exact absurd member (by simp)
  | loadOrders =>
    simp only [ContextCall.finishes] at member
    split at member
    · obtain rfl := List.mem_singleton.mp member
      trivial
    · exact absurd member (by simp)
  | _ =>
    simp only [ContextCall.finishes] at member
    split at member
    · obtain rfl := List.mem_singleton.mp member
      trivial
    · exact absurd member (by simp)

/-- The sum of positive lines is positive, unless there are none. -/
theorem cartItemCount_pos_iff {lines : List CartLine} (positive : ∀ item ∈ lines, 1 ≤ item.quantity) :
    0 < cartItemCount lines ↔ lines ≠ [] := by
  have counted : ∀ sum : Int, lines.foldl (fun sum item => sum + item.quantity) sum ≥ sum + lines.length := by
    induction lines with
    | nil => simp
    | cons item lines inductionHypothesis =>
      intro sum
      obtain ⟨here, later⟩ := List.forall_mem_cons.mp positive
      have rest := inductionHypothesis later (sum + item.quantity)
      rw [List.foldl_cons, List.length_cons]
      push_cast
      omega
  have all := counted 0
  cases lines with
  | nil => simp [cartItemCount]
  | cons item lines =>
    rw [List.length_cons] at all
    push_cast at all
    unfold cartItemCount
    constructor
    · exact fun _ => List.cons_ne_nil item lines
    · intro _
      omega

end Carts

section Calls

variable {platform : Platform} {initial : Database}

/-- The request of a call that stocks keeps the rules: it adds a product that is sold, with a
positive quantity. -/
theorem ContextCall.Stocks.ruled {call : ContextCall} (stocks : call.Stocks initial)
    {cart : List CartLine} {request : Request} (asked : call.request? platform cart = some request) :
    Ruled initial request := by
  cases call with
  | addToCart product quantity =>
    obtain rfl := Option.some.inj asked
    exact ⟨stocks.1, ⟨product, stocks.2, rfl⟩, trivial⟩
  | updateCartItem productId quantity =>
    obtain rfl := Option.some.inj asked
    exact ⟨trivial, trivial, ⟨quantity, rfl, stocks⟩⟩
  | createOrder formData =>
    obtain rfl := submit_some asked
    exact ⟨trivial, trivial, trivial⟩
  | _ =>
    obtain rfl := Option.some.inj asked
    exact ⟨trivial, trivial, trivial⟩

/-- A grid that is shown is one of the products of the application, so its buttons are those
of loaded products. -/
theorem productsPage_grid {state : AppState} {products : List Product}
    (page : productsPage state = .grid products) : products = state.products := by
  unfold productsPage at page
  split_ifs at page
  split at page
  · split_ifs at page
    exact (ProductsPage.grid.inj page).symm
  · exact (ProductsPage.grid.inj page).symm

/-- The controls of a tab that shows the catalogue and a stocked cart make calls that stock. -/
theorem call?_stocks {state : AppState}
    (catalogue : state.products = [] ∨ Catalogue initial state.products)
    (stocked : Stocked initial state.cart) {control : Control} {call : ContextCall}
    (made : control.call? state = some call) : call.Stocks initial := by
  cases control with
  | addToCart product =>
    simp only [Control.call?] at made
    split at made
    · rename_i products page
      split_ifs at made with enabled
      obtain rfl := Option.some.inj made
      obtain ⟨shown, inStock⟩ := enabled
      rw [productsPage_grid page] at shown
      rcases catalogue with empty | whole
      · exact absurd shown (by simp [empty])
      · exact ⟨Int.le_refl 1, whole.all.mem_iff.mp shown, inStock⟩
    · exact absurd made (by simp)
  | minus place =>
    obtain ⟨item, present, enabled⟩ := Option.bind_eq_some_iff.mp made
    split_ifs at enabled with least
    obtain rfl := Option.some.inj enabled
    change 1 ≤ item.quantity - 1
    omega
  | plus place =>
    obtain ⟨item, present, rfl⟩ := Option.map_eq_some_iff.mp made
    have wanted := stocked.tidy.positive item (List.mem_of_getElem? present)
    change 1 ≤ item.quantity + 1
    omega
  | remove place =>
    obtain ⟨item, present, rfl⟩ := Option.map_eq_some_iff.mp made
    trivial
  | clearCart =>
    simp only [Control.call?] at made
    split_ifs at made
    obtain rfl := Option.some.inj made
    trivial
  | _ =>
    obtain rfl := Option.some.inj made
    trivial

/-- A cart of the server with positive quantities of products in stock is listed as such. -/
theorem stocked_joined {database : Database} (positive : database.Positive)
    (sells : database.Sells (SoldId initial)) (products : database.products = initial.products)
    {sessionId : String} {rows : List (Product × Int4)}
    (listed : rows.Perm (database.joinedCart sessionId)) : Stocked initial (cartLines rows) := by
  have stored {product : Product} {quantity : Int4} (member : (product, quantity) ∈ rows) :=
    (database.mem_joinedCart sessionId product quantity).mp (listed.mem_iff.mp member)
  constructor
  · constructor
    · have ids : productIds (cartLines rows) = rows.map (fun line => line.1.id) := by
        simp only [productIds, cartLines, List.map_map]
        rfl
      rw [ids]
      exact (listed.map (fun line => line.1.id)).nodup_iff.mpr (joinedCart_distinct database sessionId)
    · intro item member
      obtain ⟨⟨product, quantity⟩, inside, rfl⟩ := List.mem_map.mp member
      exact positive.carts _ (stored inside).2
  · intro item member
    obtain ⟨⟨product, quantity⟩, inside, rfl⟩ := List.mem_map.mp member
    obtain ⟨known, row⟩ := stored inside
    rw [products] at known
    obtain ⟨other, sold, located⟩ := sells.carts _ row
    have same : other.id = product.id := located
    have found : initial.products.get? product.id = some other :=
      same ▸ KeyedTable.get?_complete sold.1
    obtain rfl := Option.some.inj ((KeyedTable.get?_complete known).symm.trans found)
    exact sold

end Calls

namespace Storefront

/-- What holds of a tab in every run: what its browser knows is sound, its cart is stocked,
and the calls it has made are such that their replies keep it stocked. -/
structure TabSound (platform : Platform) (initial : Database) (shop : ShopState) (tab : Tab) :
    Prop where
  browser : Browser.Sound platform initial ⟨tab.app, tab.inFlight, shop⟩
  cart : Stocked initial tab.app.cart
  calls : ∀ call index, (call, index) ∈ tab.inFlight → call.Stocks initial

/-- The server has only ever served requests that keep the rules, in some run from the initial
database. -/
def Served (initial : Database) (shop : ShopState) : Prop :=
  ∃ actions, (∀ request, .start request ∈ actions → Ruled initial request) ∧
    shop = server.run (Service.idleState initial) actions

/-- What holds in every run, of the server and of each open tab. -/
structure Sound (platform : Platform) (initial : Database) (front : Storefront) : Prop where
  served : Served initial front.shop
  tabs : ∀ tab ∈ front.tabs, TabSound platform initial front.shop tab

section Server

variable {initial : Database} {shop : ShopState}

/-- The server does one thing more, accepting a request that keeps the rules or executing a
statement. -/
theorem Served.step (served : Served initial shop) {action : Action Request Choice}
    (ruled : ∀ request, action = .start request → Ruled initial request) :
    Served initial (server.step shop action) := by
  obtain ⟨actions, all, rfl⟩ := served
  refine ⟨actions ++ [action], ?_, ?_⟩
  · intro request member
    cases List.mem_append.mp member with
    | inl old => exact all request old
    | inr new => exact ruled request (List.mem_singleton.mp new).symm
  · rw [server.run_append]
    rfl

variable (noCarts : initial.cartItems.rows = []) (noOrders : initial.orders.rows = [])
  (prices : ∀ product ∈ initial.products.rows, 0 ≤ product.price.val)

include noCarts noOrders

/-- After requests that keep the rules, carts and orders have lines of products in stock only.
The stock never changes, as there is no statement for it. -/
theorem ruled_offered {actions : List (Action Request Choice)}
    (ruled : ∀ request, .start request ∈ actions → Ruled initial request) :
    AllOffered (SoldId initial) (server.run (Service.idleState initial) actions) := by
  apply run_allOffered noCarts noOrders actions
  intro action member
  cases action with
  | start request => exact (ruled request member).offers
  | proceed index choice => trivial

include prices

/-- After such requests the quantities in carts and orders are one or more. -/
theorem ruled_positive {actions : List (Action Request Choice)}
    (ruled : ∀ request, .start request ∈ actions → Ruled initial request) :
    AllPositive initial (server.run (Service.idleState initial) actions) := by
  apply adding_run_positive noCarts noOrders prices actions
  intro action member
  cases action with
  | start request => exact (ruled request member).adds
  | proceed index choice => trivial

/-- A cart that the server has sent is stocked, because its lines are rows of the table at
that moment. -/
theorem Served.lists (served : Served initial shop) {index : Nat} {task : ShopTask}
    (present : shop.tasks[index]? = some task) (asked : task.request.operation = .getCart)
    {reply : Reply} (answered : task.answer? = some reply) {lines : List CartLine}
    (shows : reply.body = .cart lines) : Stocked initial lines := by
  obtain ⟨actions, ruled, rfl⟩ := served
  obtain ⟨early, late, rows, rfl, rfl, listed⟩ := getCart_lists present asked answered shows
  have earlier : ∀ request, .start request ∈ early → Ruled initial request :=
    fun request member => ruled request (List.mem_append_left late member)
  have positive := ruled_positive noCarts noOrders prices earlier
  exact stocked_joined positive.positive (ruled_offered noCarts noOrders earlier).sells
    positive.products listed

end Server

section Tabs

variable {platform : Platform} {initial : Database} {shop : ShopState} {tab : Tab}
  {front : Storefront}

/-- A new tab is as if the application had been loaded in a browser of its own: its cart is
empty and it has made no calls. -/
theorem tabSound_new (served : Served initial shop) :
    TabSound platform initial shop ⟨initialState, []⟩ := by
  have opened := Browser.sound_opened platform initial
  obtain ⟨actions, -, reached⟩ := served
  constructor
  · exact
      { reached := ⟨actions, reached⟩
        asked := fun call index member => absurd member (by simp)
        loading := opened.loading
        products := opened.products }
  · exact stocked_nil
  · exact fun call index member => absurd member (by simp)

/-- The server does something, for this tab or for another. The tab itself is not touched by
it. -/
theorem TabSound.serve (sound : TabSound platform initial shop tab) (action : Action Request Choice) :
    TabSound platform initial (server.step shop action) tab :=
  ⟨sound.browser.serve action, sound.cart, sound.calls⟩

/-- A call that stocks is made, which sends its request and waits for the reply. -/
theorem TabSound.call (sound : TabSound platform initial shop tab) {call : ContextCall}
    (stocks : call.Stocks initial) {request : Request}
    (asked : call.request? platform tab.app.cart = some request) :
    TabSound platform initial (server.step shop (.start request))
      ⟨dispatch tab.app call.begins, tab.inFlight ++ [(call, shop.tasks.length)]⟩ := by
  constructor
  · exact sound.browser.call asked
  · exact sound.cart.dispatch (begins_stocks call)
  · intro other index member
    cases List.mem_append.mp member with
    | inl old => exact sound.calls other index old
    | inr new =>
      obtain ⟨rfl, -⟩ := Prod.mk.inj (List.mem_singleton.mp new)
      exact stocks

/-- A call returns with a response that has a stocked cart, if it has loaded one. -/
theorem TabSound.settle (sound : TabSound platform initial shop tab) {place : Nat}
    {call : ContextCall} {index : Nat} (waiting : tab.inFlight[place]? = some (call, index))
    {response : ApiResponse}
    (carries : Browser.Carries initial call response)
    (loads : ∀ lines, call = .loadCart → response.data = some (.cart lines) → Stocked initial lines) :
    TabSound platform initial shop
      ⟨dispatch tab.app (call.finishes response), tab.inFlight.eraseIdx place⟩ := by
  have stocks := sound.calls call index (List.mem_of_getElem? waiting)
  constructor
  · exact sound.browser.settle waiting carries
  · exact sound.cart.dispatch (finishes_stocks stocks loads)
  · exact fun other position member => sound.calls other position (List.mem_of_mem_eraseIdx member)

/-- A tab has changed and the server has gone on, so the other tabs are judged by the new
server. -/
theorem Sound.put (sound : front.Sound platform initial) {index : Nat} {browser : Browser}
    (served : Served initial browser.shop)
    (here : TabSound platform initial browser.shop ⟨browser.app, browser.inFlight⟩)
    (others : ∀ tab, TabSound platform initial front.shop tab →
      TabSound platform initial browser.shop tab) :
    (front.put index browser).Sound platform initial where
  served := served
  tabs := by
    intro tab member
    rcases List.mem_or_eq_of_mem_set member with old | rfl
    · exact others tab (sound.tabs tab old)
    · exact here

/-- A control is used. What it does depends on the page it is on, and the calls it makes
stock. -/
theorem Sound.uses (sound : front.Sound platform initial) (index : Nat) (control : Control) :
    (front.step platform (.use index control)).Sound platform initial := by
  rw [step]
  split
  · rename_i call made
    obtain ⟨tab, present, offered⟩ := Option.bind_eq_some_iff.mp made
    have tabSound := sound.tabs tab (List.mem_of_getElem? present)
    have stocks : call.Stocks initial := call?_stocks tabSound.browser.products tabSound.cart offered
    rw [browse, present]
    dsimp only
    rw [Browser.step]
    split
    · rename_i request asked
      have served : Served initial (server.step front.shop (.start request)) := by
        apply sound.served.step
        intro other same
        obtain rfl := Action.start.inj same
        exact stocks.ruled asked
      have others (other : Tab) (held : TabSound platform initial front.shop other) :
          TabSound platform initial (server.step front.shop (.start request)) other :=
        held.serve (.start request)
      exact sound.put served (tabSound.call stocks asked) others
    · exact sound.put sound.served tabSound (fun other held => held)
  · exact sound

/-- A request is lost on its way and the call fails, which leaves the cart as it is. -/
theorem Sound.loses (sound : front.Sound platform initial) (index place : Nat)
    (message : {text : String // text ≠ ""}) :
    (front.step platform (.lose index place message)).Sound platform initial := by
  rw [step, browse]
  split
  · rename_i tab present
    have tabSound := sound.tabs tab (List.mem_of_getElem? present)
    rw [Browser.step]
    split
    · rename_i call request waiting
      have lost : Browser.Carries initial call (Browser.failure message.val) :=
        Browser.carries_failure initial call message.val
      have settled := tabSound.settle waiting lost
        (fun lines _ data => absurd data (by simp [Browser.failure]))
      exact sound.put sound.served settled (fun other held => held)
    · exact sound.put sound.served tabSound (fun other held => held)
  · exact sound

end Tabs

section Runs

variable {platform : Platform} {initial : Database} (noCarts : initial.cartItems.rows = [])
  (noOrders : initial.orders.rows = [])
  (prices : ∀ product ∈ initial.products.rows, 0 ≤ product.price.val)

include noCarts noOrders prices

/-- An answer arrives in its tab. If it carries a cart, that is one the server has sent. -/
theorem Sound.receives {front : Storefront} (sound : front.Sound platform initial)
    (index place : Nat) : (front.step platform (.receive index place)).Sound platform initial := by
  rw [step, browse]
  split
  · rename_i tab present
    have tabSound := sound.tabs tab (List.mem_of_getElem? present)
    rw [Browser.step]
    split
    · rename_i call reply answered
      obtain ⟨-, carries⟩ := tabSound.browser.carries answered
      obtain ⟨position, task, waiting, there, replied⟩ := Browser.answer?_eq_some.mp answered
      have loads : ∀ lines, call = .loadCart → (Client.receive reply).data = some (.cart lines) →
          Stocked initial lines := by
        intro lines own data
        obtain ⟨found, cart, same, asked⟩ :=
          tabSound.browser.asked call position (List.mem_of_getElem? waiting)
        obtain rfl := Option.some.inj (there.symm.trans same)
        subst own
        have operation : task.request.operation = .getCart := by
          rw [← Option.some.inj asked]
          rfl
        exact sound.served.lists noCarts noOrders prices there operation replied
          (Browser.receive_carried data).2
      exact sound.put sound.served (tabSound.settle waiting carries loads) (fun other held => held)
    · exact sound.put sound.served tabSound (fun other held => held)
  · exact sound

/-- Every move keeps it, by the lemma for that kind of move. -/
theorem Sound.step {front : Storefront} (sound : front.Sound platform initial) (move : Move) :
    (front.step platform move).Sound platform initial := by
  cases move with
  | openTab =>
    constructor
    · exact sound.served
    · intro tab member
      cases List.mem_append.mp member with
      | inl old => exact sound.tabs tab old
      | inr new =>
        obtain rfl := List.mem_singleton.mp new
        exact tabSound_new sound.served
  | closeTab index =>
    exact ⟨sound.served, fun tab member => sound.tabs tab (List.mem_of_mem_eraseIdx member)⟩
  | use index control => exact sound.uses index control
  | proceed index choice =>
    have served : Served initial (server.step front.shop (.proceed index choice)) := by
      apply sound.served.step
      intro request same
      exact absurd same (by simp)
    exact ⟨served, fun tab member => (sound.tabs tab member).serve (.proceed index choice)⟩
  | receive index place => exact sound.receives noCarts noOrders prices index place
  | lose index place message => exact sound.loses index place message

/-- So it holds in every run from the beginning, by induction on the moves. -/
theorem run_sound (moves : List Move) :
    ((fresh initial).run platform moves).Sound platform initial := by
  apply Runs.run_always (Sound platform initial)
  · exact fun _ move sound => sound.step noCarts noOrders prices move
  · exact ⟨⟨[], fun request member => absurd member (by simp), rfl⟩,
      fun tab member => absurd member (by simp [fresh])⟩

/-- However many tabs are used at once, however the server interleaves their requests and
whatever fails or is lost: from a shop without carts and orders, whose prices are not negative,
the buttons alone see to it that no cart and no order ever has a product that is not in stock,
nor a quantity below one, nor a negative amount; that no PUT ever asks for less than one, so that
none takes a line away; and that the cart of every tab lists each product once, in stock and at
least once, and is empty exactly if its header has no badge. -/
theorem buttons_keep_the_rules (moves : List Move) :
    let front := (fresh initial).run platform moves
    front.shop.store.Sells (SoldId initial) ∧ front.shop.store.Positive ∧
      (∀ task ∈ front.shop.tasks, UpdatesSome task.request.operation) ∧
      ∀ tab ∈ front.tabs, Stocked initial tab.app.cart ∧
        (cartBadge (cartItemCount tab.app.cart) = none ↔ tab.app.cart = []) := by
  intro front
  have sound : front.Sound platform initial := run_sound noCarts noOrders prices moves
  obtain ⟨actions, ruled, reached⟩ := sound.served
  rw [reached]
  refine ⟨(ruled_offered noCarts noOrders ruled).sells,
    (ruled_positive noCarts noOrders prices ruled).positive, ?_, ?_⟩
  · intro task member
    exact (ruled task.request (server.started_of_mem_tasks member)).updates
  · intro tab member
    have stocked := (sound.tabs tab member).cart
    constructor
    · exact stocked
    · have counted := cartItemCount_pos_iff stocked.tidy.positive
      unfold cartBadge
      split_ifs with shown
      · exact ⟨fun absent => absurd absent (by simp), fun empty => absurd empty (counted.mp shown)⟩
      · exact ⟨fun _ => not_not.mp (fun lines => shown (counted.mpr lines)), fun _ => rfl⟩

end Runs

/-- A smartphone in stock and a laptop that is not, for an example of an inactive button. -/
def laptopSoldOut : Database :=
  .seeded ⟨[smartphone, { laptop with inStock := some false }], by decide⟩ (by decide)

/-- A tab adds the smartphone and tries the laptop; another one opens the cart and tries to take
the smartphone away with minus. -/
def twoTabs : List Move :=
  [.openTab, .use 0 .appMounted, .proceed 0 .plain, .receive 0 0,
    .use 0 (.addToCart { laptop with inStock := some false }), .use 0 (.addToCart smartphone),
    .proceed 1 .plain, .proceed 1 .plain, .proceed 1 .plain, .proceed 1 .plain, .receive 0 0,
    .openTab, .use 1 .cartPageMounted, .proceed 2 .plain, .receive 1 0, .use 1 (.minus 0)]

/-- The shop only has smartphones in its cart, and the second tab shows as much. -/
theorem two_tabs_keep_the_rules :
    let front := (fresh laptopSoldOut).run Visit.plainPlatform twoTabs
    front.shop.store.Sells (SoldId laptopSoldOut) ∧ front.shop.store.Positive ∧
      (∀ task ∈ front.shop.tasks, UpdatesSome task.request.operation) ∧
      ∀ tab ∈ front.tabs, Stocked laptopSoldOut tab.app.cart ∧
        (cartBadge (cartItemCount tab.app.cart) = none ↔ tab.app.cart = []) :=
  buttons_keep_the_rules rfl rfl (by decide) twoTabs

end Storefront

end ShoppingCS.Client
