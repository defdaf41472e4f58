import ShoppingCS.Client.CartMirror
import ShoppingCS.Client.Endpoints
import ShoppingCS.Shop.CartAnswers

/-!
# One call and its effect on both carts

The client's cart is a list that the reducer edits; the server's cart is what
`GET /api/cart` lists. Of a call the server rejects, the client makes nothing; of a
call the server accepts, it makes its own edit and ignores the cart in the answer.
Both come to the same: carts that are equal as maps from ids to products and
quantities are equal again after every call that runs alone.
-/

namespace ShoppingCS.Client

open Interleaving Shop Storage Web

/-- The calls of the context that concern the cart. An order is created with any
data. -/
inductive CartCall where
  | loadCart
  | addToCart (product : Product) (quantity : Int)
  | updateCartItem (productId : String) (quantity : Int)
  | removeFromCart (productId : String)
  | clearCart
  | createOrder (orderData : CustomerFields)
deriving DecidableEq

namespace CartCall

/-- The call of `ApiService` that each of the five functions makes, with the quantity as a
whole number. -/
def apiCall : CartCall → ApiCall
  | .loadCart => .getCart
  | .addToCart product quantity => .addToCart product.id (.integer quantity)
  | .updateCartItem productId quantity => .updateCartItem productId (.integer quantity)
  | .removeFromCart productId => .removeFromCart productId
  | .clearCart => .clearCart
  | .createOrder orderData => .createOrder orderData

/-- What is dispatched when the answer is there, by the same functions as in the application
as a whole. -/
def finishes (response : ApiResponse) : CartCall → List AppAction
  | .loadCart => ContextCall.loadCart.finishes response
  | .addToCart product quantity => (ContextCall.addToCart product quantity).finishes response
  | .updateCartItem productId quantity =>
    (ContextCall.updateCartItem productId quantity).finishes response
  | .removeFromCart productId => (ContextCall.removeFromCart productId).finishes response
  | .clearCart => ContextCall.clearCart.finishes response
  | .createOrder _ =>
    match response.success, response.data with
    | true, some (.order order) => [.addOrder order, .clearCart]
    | _, _ => []

/-- The request of a call, as the listener dispatches it. -/
def request? (authorityAccepted : Text → Bool) (call : CartCall) : Option (Option Request) :=
  (call.apiCall.dispatched authorityAccepted).map
    (Option.map (fun operation => { call.apiCall.request with operation := operation }))

/-- What the server makes of a call while it does nothing else. A target that is no URL
gets no answer. -/
def serve (authorityAccepted : Text → Bool) (choices : Nat → Choice) (call : CartCall)
    (database : Database) : Option (Reply × Database) :=
  match call.request? authorityAccepted with
  | some (some request) =>
    ((handle request).alone execute choices database).map (fun (reply, last, _) => (reply, last))
  | some none => some (.error 404 "Endpoint not found", database)
  | none => none

/-- A call alone: it is served, and its answer received, before anything else happens. -/
def exchange (authorityAccepted : Text → Bool) (choices : Nat → Choice) (call : CartCall)
    (state : AppState) (database : Database) : Option (AppState × Database) :=
  (call.serve authorityAccepted choices database).map (fun (reply, last) =>
    (dispatch state (call.finishes (receive reply)), last))

end CartCall

/-- The cart the server lists for its client, which sends no session header and so shares one
session. -/
def serverCart (database : Database) : List CartLine :=
  cartLines (database.joinedCart clientSession)

/-- The line of a product among the lines of the application, as `find` returns it. -/
def lineAt (lines : List CartLine) (productId : String) : Option CartLine :=
  lines.find? (fun item => decide (item.product.id = productId))

/-- Every product has one line and is wanted at least once. -/
structure ProperLines (lines : List CartLine) : Prop where
  distinct : (lines.map lineProduct).Nodup
  positive : ∀ item ∈ lines, 1 ≤ item.quantity

/-- The carts of the client and the server are the same map from ids to products and
quantities. -/
structure EqualCarts (database : Database) (lines : List CartLine) : Prop where
  client : ProperLines lines
  server : ProperLines (serverCart database)
  same : ∀ productId, lineAt lines productId = lineAt (serverCart database) productId

/-- The lines list the cart, whatever the prices are. It is the mirror with no product known.
-/
abbrev Shows (cart : Cart) (lines : List CartLine) : Prop := Mirrors .empty cart lines

/-- The lines show a cart, with the products as they are in the product table. -/
structure Copies (products : KeyedTable Product String Product.id) (cart : Cart)
    (lines : List CartLine) : Prop where
  shows : Shows cart lines
  listed : ∀ item ∈ lines, products.get? item.product.id = some item.product

/-- All quantities of the cart are positive, as the ones the application asks for are. -/
def Wanted (cart : Cart) : Prop :=
  ∀ productId quantity, cart productId = some quantity → 1 ≤ quantity

/-- An operation that writes positive quantities only keeps all of them positive. -/
theorem wanted_apply {operation : CartOperation} {cart : Cart} (writes : operation.WritesPositive)
    (wanted : Wanted cart) : Wanted (operation.apply cart) := by
  intro productId quantity present
  cases operation with
  | add added more =>
    by_cases same : productId = added
    · subst same
      have sum : (cart productId).getD 0 + more = quantity := by
        simpa [CartOperation.apply] using present
      have positive : 1 ≤ more := writes
      cases before : cart productId with
      | none =>
        rw [before, Option.getD_none] at sum
        omega
      | some old =>
        have enough := wanted productId old before
        rw [before, Option.getD_some] at sum
        omega
    · exact wanted productId quantity (by simpa [CartOperation.apply, same] using present)
  | set changed value =>
    by_cases same : productId = changed
    · obtain ⟨-, -, rfl⟩ : ∃ old, cart changed = some old ∧ value = quantity := by
        simpa [CartOperation.apply, same] using present
      exact writes
    · exact wanted productId quantity (by simpa [CartOperation.apply, same] using present)
  | remove removed =>
    by_cases same : productId = removed
    · simp [CartOperation.apply, same] at present
    · exact wanted productId quantity (by simpa [CartOperation.apply, same] using present)
  | clear => simp [CartOperation.apply] at present

section Copies

variable {products : KeyedTable Product String Product.id} {cart : Cart} {lines : List CartLine}

/-- Lines that mirror a cart show it, since the prices are asked for only where products are
known. -/
theorem Mirrors.shows (mirrors : Mirrors products cart lines) : Shows cart lines where
  table := mirrors.table
  priced := fun _ _ row found => absurd found (by simp)

/-- Lines that show a cart have distinct products, as a table with the product as its key has.
-/
theorem Shows.distinct (shows : Shows cart lines) : (lines.map lineProduct).Nodup := by
  obtain ⟨table, rfl, -⟩ := shows.table
  exact table.unique

/-- The quantity of a product's line is the one in the cart. -/
theorem Shows.lineAt (shows : Shows cart lines) (productId : String) :
    (lineAt lines productId).map (·.quantity) = cart productId := by
  obtain ⟨table, rfl, rfl⟩ := shows.table
  rfl

/-- Every line shown is in the cart, with its quantity. -/
theorem Shows.present (shows : Shows cart lines) {item : CartLine} (member : item ∈ lines) :
    cart item.product.id = some item.quantity :=
  (shows.mem_quantities item.product.id item.quantity).mp (List.mem_map.mpr ⟨item, member, rfl⟩)

/-- `ADD_TO_CART` does to the lines what the addition does to the cart. -/
theorem Shows.add (shows : Shows cart lines) (payload : CartLine) :
    Shows ((CartOperation.add payload.product.id payload.quantity).apply cart)
      (addLine lines payload) :=
  Mirrors.add shows payload (fun _ row found =>
    absurd found (by simp))

/-- `UPDATE_CART_ITEM` does to the lines what a PUT does to the cart, when its filter takes no
other line. -/
theorem Shows.update (shows : Shows cart lines) {productId : String} (quantity : Int)
    (others : ∀ other quantity, other ≠ productId → cart other = some quantity → 0 < quantity) :
    Shows ((putOperation productId quantity).apply cart) (updateLine lines productId quantity) := by
  have updates : Shows (updated (ApiCall.updateCartItem productId (.integer quantity)).request cart)
      (updateLine lines productId quantity) :=
    Mirrors.update shows rfl (fun item member different => others _ _ different (shows.present member))
  have means : updated (ApiCall.updateCartItem productId (.integer quantity)).request cart =
      (putOperation productId quantity).apply cart := by
    unfold updated putOperation
    by_cases nonpositive : quantity ≤ 0
    · simp [ApiCall.request, ApiCall.operation, Operation.update?, Quantity.nonpositive, nonpositive]
    · simp [ApiCall.request, ApiCall.operation, Operation.update?, Quantity.nonpositive, nonpositive]
  rwa [means] at updates

/-- What a copy has under an id is decided by the cart and the products. -/
theorem Copies.lineAt_eq (copies : Copies products cart lines) (productId : String) :
    lineAt lines productId = (cart productId).bind (fun quantity =>
      (products.get? productId).map (fun product => ⟨product, quantity⟩)) := by
  rw [← copies.shows.lineAt productId]
  cases found : lineAt lines productId with
  | none => rfl
  | some item =>
    have located : item.product.id = productId := by simpa using List.find?_some found
    have known := copies.listed item (List.mem_of_find?_eq_some found)
    rw [located] at known
    simp [known]

/-- What the server lists is a copy of its cart. -/
theorem copies_server {database : Database} {rows : List (Product × Int4)}
    (listed : rows.Perm (database.joinedCart clientSession)) :
    Copies database.products (database.cart clientSession) (cartLines rows) where
  shows := (mirrors_joined listed).shows
  listed := by
    intro item member
    obtain ⟨line, inside, rfl⟩ := List.mem_map.mp member
    exact KeyedTable.get?_complete
      ((database.mem_joinedCart clientSession line.1 line.2).mp (listed.mem_iff.mp inside)).1

/-- Carts are equal when the client's is a copy of the server's, with positive
quantities. -/
theorem equalCarts_iff {database : Database} :
    EqualCarts database lines ↔
      Copies database.products (database.cart clientSession) lines ∧
        Wanted (database.cart clientSession) := by
  have server := copies_server (.refl (database.joinedCart clientSession))
  have proper {others : List CartLine} (shows : Shows (database.cart clientSession) others)
      (wanted : Wanted (database.cart clientSession)) : ProperLines others :=
    ⟨shows.distinct, fun item member => wanted _ _ (shows.present member)⟩
  constructor
  · intro equal
    have quantities (productId : String) :
        (lineAt lines productId).map (·.quantity) = database.cart clientSession productId := by
      rw [equal.same productId]
      exact server.shows.lineAt productId
    have listed (item) (member : item ∈ lines) :
        database.products.get? item.product.id = some item.product := by
      have own : lineAt lines item.product.id = some item :=
        KeyedTable.get?_complete (show item ∈ (⟨lines, equal.client.distinct⟩ : Lines).rows from member)
      rw [equal.same] at own
      exact server.listed item (List.mem_of_find?_eq_some own)
    refine ⟨⟨⟨⟨⟨lines, equal.client.distinct⟩, rfl, funext quantities⟩, ?_⟩, listed⟩, ?_⟩
    · exact fun _ _ row found => absurd found (by simp)
    · intro productId quantity present
      obtain ⟨item, found, rfl⟩ := Option.map_eq_some_iff.mp ((quantities productId).trans present)
      exact equal.client.positive item (List.mem_of_find?_eq_some found)
  · rintro ⟨copies, wanted⟩
    refine ⟨proper copies.shows wanted, proper server.shows wanted, ?_⟩
    intro productId
    rw [copies.lineAt_eq, serverCart, server.lineAt_eq]

end Copies

section Lines

variable {lines : List CartLine} {item : CartLine}

/-- The products after `ADD_TO_CART` are those before and the one that is added. -/
theorem product_addLine {payload : CartLine} (member : item ∈ addLine lines payload) :
    payload.product = item.product ∨ ∃ old ∈ lines, old.product = item.product := by
  unfold addLine at member
  split at member
  · obtain ⟨old, stored, rfl⟩ := List.mem_map.mp member
    refine Or.inr ⟨old, stored, ?_⟩
    split <;> rfl
  · cases List.mem_append.mp member with
    | inl stored => exact Or.inr ⟨item, stored, rfl⟩
    | inr new => exact Or.inl (congrArg CartLine.product (List.mem_singleton.mp new).symm)

/-- The products after `UPDATE_CART_ITEM` are among those before. -/
theorem product_updateLine {productId : String} {quantity : Int}
    (member : item ∈ updateLine lines productId quantity) :
    ∃ old ∈ lines, old.product = item.product := by
  obtain ⟨old, stored, rfl⟩ := List.mem_map.mp (List.mem_of_mem_filter member)
  refine ⟨old, stored, ?_⟩
  split <;> rfl

end Lines

section Answers

variable {reply : Reply}

/-- A call that is accepted returns the document of its answer. -/
theorem receive_accepted (accepted : reply.Accepts) :
    receive reply = { data := some reply.body, success := true, message := none } := by
  have status : reply.status = 200 := accepted
  simp [receive, status]

/-- An answer with an error is reported as a failure, without a document. -/
theorem receive_error (error : 400 ≤ reply.status) :
    (receive reply).success = false ∧ (receive reply).data = none := by
  have outside : ¬ (200 ≤ reply.status ∧ reply.status < 300) := by omega
  simp [receive, outside]

/-- Of a call that has failed nothing is made in the cart: no action is dispatched. -/
theorem finishes_error (error : 400 ≤ reply.status) (call : CartCall) :
    call.finishes (receive reply) = [] := by
  obtain ⟨failed, empty⟩ := receive_error error
  cases call <;> simp [CartCall.finishes, ContextCall.finishes, failed]

end Answers

namespace CartCall

/-- What a call means for the cart of the server, if it means a change. -/
def effect : CartCall → Option CartOperation
  | .loadCart => none
  | .addToCart product quantity => some (.add product.id quantity)
  | .updateCartItem productId quantity => some (putOperation productId quantity)
  | .removeFromCart productId => some (.remove productId)
  | .clearCart => some .clear
  | .createOrder _ => some .clear

/-- The reply to a call that the server has carried out. -/
def Succeeds : CartCall → Reply → Prop
  | .createOrder _, reply => reply.Creates
  | _, reply => reply.Accepts

/-- The end of a call on the server: a cart is listed, or the call has its effect, or
it is refused. -/
def Outcome (call : CartCall) (database : Database) (reply : Reply) (last : Database) : Prop :=
  match call.effect with
  | none => last = database ∧ ∃ rows : List (Product × Int4),
      rows.Perm (database.joinedCart clientSession) ∧ reply = ⟨200, .cart (cartLines rows)⟩
  | some effect => Served clientSession call.Succeeds effect database reply last

/-- On working connections every call ends so, from any database, by the lemma for its route.
-/
theorem leads_outcome (call : CartCall) (database : Database) :
    Leads (call.Outcome database) (handle call.apiCall.request) database := by
  cases call with
  | loadCart => exact leads_getCart clientSession database
  | addToCart product quantity => exact leads_postCart clientSession product.id quantity database
  | updateCartItem productId quantity => exact leads_putCart clientSession productId quantity database
  | removeFromCart productId => exact leads_deleteCartItem clientSession productId database
  | clearCart => exact leads_deleteCart clientSession database
  | createOrder orderData => exact leads_postOrders clientSession orderData database

/-- An id of letters and digits, as the products of the shop have. -/
def Alphanumeric (id : String) : Prop := id ≠ "" ∧ ∀ character ∈ id.toList, character.isAlphanum = true

/-- The arguments of a call: a product as the server lists it, if the server has it at
all, at least once, and ids of letters and digits. -/
def Proper (products : KeyedTable Product String Product.id) : CartCall → Prop
  | .addToCart product quantity =>
    1 ≤ quantity ∧ ∀ row, products.get? product.id = some row → row = product
  | .updateCartItem productId _ => Alphanumeric productId
  | .removeFromCart productId => Alphanumeric productId
  | _ => True

/-- The reducer's filter on quantities takes no line but the one the call is about. -/
def Spares (cart : Cart) : CartCall → Prop
  | .updateCartItem productId _ =>
    ∀ other quantity, other ≠ productId → cart other = some quantity → 0 < quantity
  | _ => True

/-- A proper call writes positive quantities only, since the application asks for no others.
-/
theorem Proper.positive {products : KeyedTable Product String Product.id} {call : CartCall}
    {operation : CartOperation} (proper : call.Proper products)
    (means : call.effect = some operation) : operation.WritesPositive := by
  cases call with
  | addToCart product quantity =>
    obtain rfl := Option.some.inj means
    exact proper.1
  | updateCartItem productId quantity =>
    obtain rfl := Option.some.inj means
    unfold putOperation
    split
    · trivial
    · rename_i positive
      exact Int.not_le.mp positive
  | loadCart => exact absurd means (by simp [effect])
  | _ =>
    obtain rfl := Option.some.inj means
    trivial

/-- The id of a proper call passes the path unchanged, because it is of letters and digits. -/
theorem Proper.passes {products : KeyedTable Product String Product.id} {call : CartCall}
    (proper : call.Proper products) : call.apiCall.Passes := by
  cases call with
  | updateCartItem productId quantity => exact plain_of_alphanum proper.2
  | removeFromCart productId => exact plain_of_alphanum proper.2
  | _ => trivial

/-- A call whose id passes the path is served as it is meant. -/
theorem served_outcome (authorityAccepted : Text → Bool) {choices : Nat → Choice}
    (working : ∀ index, (choices index).Works) {call : CartCall} (passes : call.apiCall.Passes)
    (database : Database) : ∃ reply last,
      call.serve authorityAccepted choices database = some (reply, last) ∧
        call.Outcome database reply last := by
  obtain ⟨reply, last, rest, answered, outcome⟩ :=
    (call.leads_outcome database).alone choices working
  have reached : call.request? authorityAccepted = some (some call.apiCall.request) := by
    rw [request?, ApiCall.dispatched_operation authorityAccepted _ (Or.inl passes)]
    rfl
  refine ⟨reply, last, ?_, outcome⟩
  rw [serve, reached]
  simp only [answered, Option.map_some]

section Simulation

variable {database last : Database} {state : AppState} {reply : Reply} {call : CartCall}

/-- The edits of a call of the client that the server has carried out. -/
theorem finishes_success (succeeds : call.Succeeds reply) (changes : call.effect ≠ none) :
    (dispatch state (call.finishes (receive reply))).cart =
      match call with
      | .addToCart product quantity => addLine state.cart ⟨product, quantity⟩
      | .updateCartItem productId quantity => updateLine state.cart productId quantity
      | .removeFromCart productId => removeLine state.cart productId
      | .clearCart => []
      | .createOrder _ => []
      | .loadCart => state.cart := by
  cases call with
  | createOrder orderData =>
    obtain ⟨view, rfl⟩ := succeeds
    rfl
  | loadCart => exact absurd rfl changes
  | _ =>
    have accepted : reply.Accepts := succeeds
    simp [finishes, ContextCall.finishes, receive_accepted accepted, dispatch, appReducer]

/-- An accepted addition is of a product that the server has. -/
theorem Outcome.known {product : Product} {quantity : Int}
    (outcome : (CartCall.addToCart product quantity).Outcome database reply last)
    (accepted : reply.Accepts) : database.products.get? product.id ≠ none := by
  rcases outcome.outcome with ⟨-, carried⟩ | ⟨error, -⟩
  · rw [← outcome.products]
    have there : last.cart clientSession product.id ≠ none := by
      rw [carried]
      simp [CartOperation.apply]
    exact cart_known product.id there
  · have status : reply.status = 200 := accepted
    omega

/-- If the client's lines have shown the server's cart, they show it after the call. -/
theorem Outcome.shows (outcome : call.Outcome database reply last)
    (spares : call.Spares (database.cart clientSession))
    (shows : Shows (database.cart clientSession) state.cart) :
    Shows (last.cart clientSession) (dispatch state (call.finishes (receive reply))).cart := by
  by_cases reads : call.effect = none
  · obtain rfl : call = .loadCart := by cases call <;> simp [effect] at reads ⊢
    obtain ⟨rfl, rows, listed, rfl⟩ := outcome
    exact (copies_server listed).shows
  · obtain ⟨operation, means⟩ := Option.ne_none_iff_exists'.mp reads
    rw [Outcome, means] at outcome
    rcases outcome.outcome with ⟨succeeds, carried⟩ | ⟨error, kept⟩
    · rw [finishes_success succeeds reads, carried]
      cases call with
      | loadCart => exact absurd rfl reads
      | addToCart product quantity =>
        obtain rfl := Option.some.inj means
        exact shows.add ⟨product, quantity⟩
      | updateCartItem productId quantity =>
        obtain rfl := Option.some.inj means
        exact shows.update quantity spares
      | removeFromCart productId =>
        obtain rfl := Option.some.inj means
        exact Mirrors.remove shows productId
      | clearCart =>
        obtain rfl := Option.some.inj means
        exact mirrors_nil .empty
      | createOrder orderData =>
        obtain rfl := Option.some.inj means
        exact mirrors_nil .empty
    · rw [finishes_error error, kept]
      exact shows

/-- The products of the client's lines stay as the server lists them. -/
theorem Outcome.listed (outcome : call.Outcome database reply last)
    (proper : call.Proper database.products)
    (listed : ∀ item ∈ state.cart, database.products.get? item.product.id = some item.product) :
    ∀ item ∈ (dispatch state (call.finishes (receive reply))).cart,
      database.products.get? item.product.id = some item.product := by
  by_cases reads : call.effect = none
  · obtain rfl : call = .loadCart := by cases call <;> simp [effect] at reads ⊢
    obtain ⟨rfl, rows, selected, rfl⟩ := outcome
    exact (copies_server selected).listed
  · obtain ⟨operation, means⟩ := Option.ne_none_iff_exists'.mp reads
    have served := outcome
    rw [Outcome, means] at served
    rcases served.outcome with ⟨succeeds, -⟩ | ⟨error, -⟩
    · rw [finishes_success succeeds reads]
      intro item member
      cases call with
      | loadCart => exact absurd rfl reads
      | addToCart product quantity =>
        obtain ⟨row, found⟩ := Option.ne_none_iff_exists'.mp (outcome.known succeeds)
        obtain rfl := proper.2 row found
        exact (product_addLine member).elim (fun same => same ▸ found)
          (fun ⟨old, stored, same⟩ => same ▸ listed old stored)
      | updateCartItem productId quantity =>
        obtain ⟨old, stored, same⟩ := product_updateLine member
        exact same ▸ listed old stored
      | removeFromCart productId => exact listed item (List.mem_of_mem_filter member)
      | clearCart => simp at member
      | createOrder orderData => simp at member
    · rwa [finishes_error error]

/-- No call changes the product table, as none of the statements does. -/
theorem Outcome.products (outcome : call.Outcome database reply last) :
    last.products = database.products := by
  cases means : call.effect with
  | none =>
    rw [Outcome, means] at outcome
    rw [outcome.1]
  | some operation =>
    rw [Outcome, means] at outcome
    exact Served.products outcome

/-- The quantities of the cart stay positive through every proper call. -/
theorem Outcome.wanted (outcome : call.Outcome database reply last)
    (proper : call.Proper database.products) (wanted : Wanted (database.cart clientSession)) :
    Wanted (last.cart clientSession) := by
  cases means : call.effect with
  | none =>
    rw [Outcome, means] at outcome
    obtain ⟨rfl, -⟩ := outcome
    exact wanted
  | some operation =>
    rw [Outcome, means] at outcome
    rcases outcome.outcome with ⟨-, carried⟩ | ⟨-, kept⟩
    · rw [carried]
      exact wanted_apply (proper.positive means) wanted
    · rwa [kept]

end Simulation

/-- The reducer simulates the server. From equal carts, a call that runs alone on
working connections ends with equal carts, whether the server carries it out or
rejects it. -/
theorem carts_stay_equal (authorityAccepted : Text → Bool) (choices : Nat → Choice)
    (working : ∀ index, (choices index).Works) (call : CartCall) (state : AppState)
    (database : Database) (proper : call.Proper database.products)
    (equal : EqualCarts database state.cart) :
    ∃ next last, call.exchange authorityAccepted choices state database = some (next, last) ∧
      EqualCarts last next.cart := by
  obtain ⟨reply, last, answered, outcome⟩ :=
    served_outcome authorityAccepted working proper.passes database
  obtain ⟨copies, wanted⟩ := equalCarts_iff.mp equal
  have spares : call.Spares (database.cart clientSession) := by
    cases call with
    | updateCartItem productId quantity => exact fun other quantity _ present => wanted _ _ present
    | _ => trivial
  have listed := outcome.listed proper copies.listed
  rw [← outcome.products] at listed
  refine ⟨dispatch state (call.finishes (receive reply)), last, ?_, equalCarts_iff.mpr
    ⟨⟨outcome.shows spares copies.shows, listed⟩, outcome.wanted proper wanted⟩⟩
  rw [exchange, answered, Option.map_some]

/-- Both carts are empty, a smartphone is added, and both are equal again. -/
theorem smartphone_stays_equal :
    ∃ next last, (CartCall.addToCart smartphone 1).exchange (fun _ => true) (fun _ => .plain)
        initialState freshDatabase = some (next, last) ∧ EqualCarts last next.cart :=
  carts_stay_equal (fun _ => true) (fun _ => .plain) (fun _ => rfl) (.addToCart smartphone 1)
    initialState freshDatabase ⟨by decide, by decide⟩
    ⟨⟨by decide, by decide⟩, ⟨by decide, by decide⟩, fun _ => rfl⟩

end CartCall

end ShoppingCS.Client
