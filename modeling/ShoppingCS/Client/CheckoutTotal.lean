import ShoppingCS.Client.Visits
import ShoppingCS.Shop.OrderSnapshot

/-!
# The price shown and the price charged

The checkout page adds up the client's lines, the server the rows of its cart. Once
the lines mirror the cart they go on doing so as long as the client's own changes are
those of the server: no call fails after it has written, products are added at their
prices, ids survive the path, and no line without a positive quantity is dropped with
the update of another one. Then the total that is shown is the total that is charged.

A fresh client has no lines whatever the cart holds, and only `loadCart` reads the
cart; a client that never makes this call may order what it does not show.
-/

namespace ShoppingCS.Client

open Interleaving Shop Storage Program

/-- A successful call changes the lines as the server has changed the cart. -/
def ContextCall.Matches (platform : Platform) (products : KeyedTable Product String Product.id)
    (lines : List CartLine) : ContextCall → Prop
  | .addToCart product _ => (∀ item ∈ lines, item.product.id ≠ product.id) →
      ∀ row ∈ products.get? product.id, row.price = product.price
  | .updateCartItem productId _ =>
      platform.inPath productId = productId ∧ OthersPositive productId lines
  | .removeFromCart productId => platform.inPath productId = productId
  | _ => True

instance (productId : String) (lines : List CartLine) : Decidable (OthersPositive productId lines) :=
  inferInstanceAs (Decidable (∀ item ∈ lines, item.product.id ≠ productId → 0 < item.quantity))

instance (platform : Platform) (products : KeyedTable Product String Product.id)
    (lines : List CartLine) : ∀ call : ContextCall, Decidable (call.Matches platform products lines)
  | .loadProducts => isTrue trivial
  | .loadCart => isTrue trivial
  | .addToCart product _ =>
    inferInstanceAs (Decidable ((∀ item ∈ lines, item.product.id ≠ product.id) →
      ∀ row ∈ products.get? product.id, row.price = product.price))
  | .updateCartItem productId _ =>
    inferInstanceAs (Decidable (platform.inPath productId = productId ∧
      OthersPositive productId lines))
  | .removeFromCart productId => inferInstanceAs (Decidable (platform.inPath productId = productId))
  | .clearCart => isTrue trivial
  | .createOrder _ => isTrue trivial
  | .loadOrders => isTrue trivial

/-- An answer keeps the lines and the cart together: a success matches, and an error
has changed nothing. -/
def ContextCall.Faithful (platform : Platform) (products : KeyedTable Product String Product.id)
    (lines : List CartLine) (call : ContextCall) (task : ShopTask) (reply : Reply) : Prop :=
  if (receive reply).success = true then call.Matches platform products lines
  else settled task.trace = false

instance (platform : Platform) (products : KeyedTable Product String Product.id)
    (lines : List CartLine) (call : ContextCall) (task : ShopTask) (reply : Reply) :
    Decidable (call.Faithful platform products lines task reply) :=
  inferInstanceAs (Decidable (if (receive reply).success = true
    then call.Matches platform products lines else settled task.trace = false))

/-- The calls after which the lines do not depend on what they were. -/
def ContextCall.Resets : ContextCall → Prop
  | .loadCart => True
  | .clearCart => True
  | .createOrder _ => True
  | _ => False

namespace Visit

/-- If this move receives an answer, the answer is faithful to the call and to the cart it was
made on. -/
def Faithful (platform : Platform) (visit : Visit) : Move → Prop
  | .receive => ∀ answered ∈ visit.answered?, answered.1.Faithful platform
      visit.shop.store.products visit.state.cart answered.2.1 answered.2.2
  | _ => True

instance (platform : Platform) (visit : Visit) :
    ∀ move, Decidable (visit.Faithful platform move)
  | .call _ => isTrue trivial
  | .other _ => isTrue trivial
  | .proceed _ _ => isTrue trivial
  | .receive => inferInstanceAs (Decidable (∀ answered ∈ visit.answered?,
      answered.1.Faithful platform visit.shop.store.products visit.state.cart answered.2.1
        answered.2.2))

/-- The same for each of the moves, in the state it is made in. -/
def FaithfulAlong (platform : Platform) : Visit → List Move → Prop
  | _, [] => True
  | visit, move :: moves => visit.Faithful platform move ∧
      FaithfulAlong platform (visit.step platform move) moves

instance decidableFaithfulAlong (platform : Platform) :
    ∀ visit moves, Decidable (FaithfulAlong platform visit moves)
  | _, [] => isTrue trivial
  | visit, move :: moves =>
    have : Decidable (FaithfulAlong platform (visit.step platform move) moves) :=
      decidableFaithfulAlong platform _ moves
    inferInstanceAs (Decidable (visit.Faithful platform move ∧
      FaithfulAlong platform (visit.step platform move) moves))

/-- The lines mirror the cart; while a call is pending, the cart it has started with. -/
structure Level (platform : Platform) (products : KeyedTable Product String Product.id)
    (visit : Visit) : Prop where
  free : visit.pending = none →
    Mirrors products (visit.shop.store.cart clientSession) visit.state.cart
  awaiting : ∀ call index, visit.pending = some (call, index) → ∃ task start,
    Awaits platform products visit call index task start ∧ Mirrors products start visit.state.cart

end Visit

/-- The client counts an answer as a success when the server does. -/
theorem receive_success {operation : Operation} {reply : Reply}
    (concludes : Concludes operation reply) :
    (receive reply).success = true ↔ reply.status = operation.success := by
  have range : 200 ≤ operation.success ∧ operation.success < 300 := by
    unfold Operation.success
    split <;> decide
  unfold receive
  cases concludes with
  | inl same => simp [same, range]
  | inr error =>
    rw [if_neg (by omega)]
    refine iff_of_false (by simp) (by omega)

/-- A call that is a success has carried the body of the answer back as its data. -/
theorem receive_data {reply : Reply} (success : (receive reply).success = true) :
    (receive reply).data = some reply.body := by
  unfold receive at success ⊢
  split
  · rfl
  · rename_i outside
    rw [if_neg outside] at success
    simp at success

/-- Data that a call has returned is the body of the answer and nothing else. -/
theorem receive_body {reply : Reply} {body : Body} (data : (receive reply).data = some body) :
    reply.body = body := by
  unfold receive at data
  split at data
  · exact Option.some.inj data
  · simp at data

/-- A call that has failed leaves the lines of the application as they are. -/
theorem finishes_failed {response : ApiResponse} (failed : response.success = false)
    (state : AppState) (call : ContextCall) :
    (dispatch state (call.finishes response)).cart = state.cart := by
  cases call <;> simp [ContextCall.finishes, failed, dispatch, appReducer]

/-- The calls about products and orders leave the lines as they are. -/
theorem finishes_elsewhere {response : ApiResponse} {state : AppState} {call : ContextCall}
    (elsewhere : call = .loadProducts ∨ call = .loadOrders) :
    (dispatch state (call.finishes response)).cart = state.cart := by
  rcases elsewhere with rfl | rfl
  · simp only [ContextCall.finishes]
    split <;> rfl
  · simp only [ContextCall.finishes]
    split <;> rfl

section Received

variable {platform : Platform} {products : KeyedTable Product String Product.id} {visit : Visit}
  {call : ContextCall} {index : Nat} {task : ShopTask} {start : Cart} {reply : Reply}

/-- An answered task has followed its handler to its answer. -/
theorem answered_follows (traced : server.Traced visit.shop)
    (awaits : visit.Awaits platform products call index task start)
    (answer : task.answer? = some reply) :
    Follows (handle task.request) task.trace (.answer reply) := by
  have follows := traced task (List.mem_of_getElem? awaits.present)
  rwa [(task.answer_some reply).mp answer] at follows

/-- A call that has succeeded has done to the cart what it means. -/
theorem awaits_updated (traced : server.Traced visit.shop)
    (awaits : visit.Awaits platform products call index task start)
    (answer : task.answer? = some reply) {request : Request} (asked : task.request = request)
    (plain : request.operation.isCheckout = false) (accepted : reply.status = 200) :
    visit.shop.store.cart clientSession = updated request start := by
  have follows := answered_follows traced awaits answer
  have session := request?_session awaits.asked
  have alone := awaits.alone
  rw [← session] at alone ⊢
  rw [asked] at follows alone ⊢
  exact updated_answered plain follows alone accepted

/-- A loaded cart is the one the call has started with. -/
theorem loaded_mirrors (traced : server.Traced visit.shop)
    (awaits : visit.Awaits platform products .loadCart index task start)
    (answer : task.answer? = some reply) (accepted : reply.status = 200) :
    ∃ lines, reply = ⟨200, .cart lines⟩ ∧ Mirrors products start lines := by
  have follows := answered_follows traced awaits answer
  have asked : task.request = ApiCall.getCart.request := (Option.some.inj awaits.asked).symm
  rw [asked] at follows
  rcases (follows_respondCart _ _ _ _).mp follows with
    ⟨-, same⟩ | ⟨error, -, same⟩ | ⟨rows, trace, same⟩
  · exact absurd (congrArg pending? same) (by simp [respondCart])
  · obtain rfl := Program.answer.inj same
    exact absurd accepted (by decide)
  · obtain rfl := Program.answer.inj same
    obtain ⟨database, rfl, rfl, listed⟩ :=
      seen_selectCart (awaits.alone.observed [] _ [] trace rfl)
    exact ⟨_, rfl, mirrors_joined listed⟩

/-- The insertions of an order's items change no cart, so they are no writes in the ledger of
carts. -/
theorem writes_itemTrace (nextId : Nat) (items : List (CheckoutRow × Nat)) :
    writes (itemTrace nextId items) = [] := by
  apply List.filterMap_eq_nil_iff.mpr
  intro event recorded
  obtain ⟨item, -, rfl⟩ := List.mem_map.mp recorded
  rfl

/-- A checkout that has succeeded has taken the cart it has started with: it is empty
now, and the order costs what the lines of that cart do. -/
theorem ordered_charged {initial : Database} (orderly : visit.Orderly platform initial)
    {formData : OrderData}
    (awaits : visit.Awaits platform products (.createOrder formData) index task start)
    (answer : task.answer? = some reply) (created : reply.status = 201) :
    (visit.shop.store.cart clientSession = fun _ => none) ∧
      ∃ view, reply.body = .order view ∧ ∀ lines, Mirrors products start lines →
        view.totalAmount = CheckoutPage.total lines := by
  have follows := answered_follows orderly.traced awaits answer
  have asked := submit_some awaits.asked
  have operation : task.request.operation =
      .postOrders (.fields ⟨none, none, none, none⟩) := by rw [asked]; rfl
  have session : sessionOf task = clientSession := request?_session awaits.asked
  obtain ⟨rows, nextId, customer, count, done, deleted, order, others, items, -, -, all, rfl, trace⟩ :=
    checkout_created (task_checkout orderly.traced (List.mem_of_getElem? awaits.present) operation)
      ((task.answer_some reply).mp answer) created
  rw [session] at trace
  refine ⟨?_, orderView order items, rfl, ?_⟩
  · rw [awaits.alone.reached, afterWrites, trace, writes_append, writes_append, writes_itemTrace]
    rfl
  · intro lines mirrors
    obtain ⟨database, rfl, rfl, listed⟩ :=
      seen_selectCheckout (awaits.alone.observed [] _ _ trace rfl)
    obtain ⟨actions, reached⟩ := orderly.reached
    have present := awaits.present
    rw [reached] at present
    have total := reread_order clientSession present all (trace.trans (List.append_assoc _ [_] _).symm)
    rw [mirrors.charged, ← totalAmount_perm listed]
    exact total.2

/-- Whatever the lines were, after a successful `loadCart`, `clearCart` or
`createOrder` they mirror the cart. -/
theorem received_reset {initial : Database} (orderly : visit.Orderly platform initial)
    (awaits : visit.Awaits platform products call index task start)
    (answer : task.answer? = some reply) (success : (receive reply).success = true)
    (resets : call.Resets) :
    Mirrors products (visit.shop.store.cart clientSession)
      (dispatch visit.state (call.finishes (receive reply))).cart := by
  have status := (receive_success (handle_concludes task.request task.trace reply
    (answered_follows orderly.traced awaits answer))).mp success
  have asked := awaits.asked
  cases call with
  | loadCart =>
    have request : task.request = ApiCall.getCart.request := (Option.some.inj asked).symm
    rw [request] at status
    obtain ⟨lines, rfl, loaded⟩ := loaded_mirrors orderly.traced awaits answer status
    rw [awaits_updated orderly.traced awaits answer request rfl status]
    exact loaded
  | clearCart =>
    have request : task.request = ApiCall.clearCart.request := (Option.some.inj asked).symm
    rw [request] at status
    have lines : (dispatch visit.state (ContextCall.clearCart.finishes (receive reply))).cart =
        [] := by
      simp [ContextCall.finishes, success, dispatch, appReducer]
    rw [awaits_updated orderly.traced awaits answer request rfl status, lines]
    exact mirrors_nil products
  | createOrder formData =>
    have request := submit_some asked
    rw [request] at status
    obtain ⟨cleared, view, body, -⟩ := ordered_charged orderly awaits answer status
    have lines : (dispatch visit.state ((ContextCall.createOrder formData).finishes
        (receive reply))).cart = [] := by
      simp [ContextCall.finishes, success, receive_data success, body, dispatch, appReducer]
    rw [cleared, lines]
    exact mirrors_nil products
  | _ => exact absurd resets id

/-- A faithful answer leaves lines that mirror the cart of the server, given that they did
when the call was made. -/
theorem received_mirrors {initial : Database} (orderly : visit.Orderly platform initial)
    (awaits : visit.Awaits platform products call index task start)
    (mirrors : Mirrors products start visit.state.cart) (answer : task.answer? = some reply)
    (faithful : call.Faithful platform products visit.state.cart task reply) :
    Mirrors products (visit.shop.store.cart clientSession)
      (dispatch visit.state (call.finishes (receive reply))).cart := by
  have concludes := handle_concludes task.request task.trace reply
    (answered_follows orderly.traced awaits answer)
  unfold ContextCall.Faithful at faithful
  by_cases success : (receive reply).success = true
  · rw [if_pos success] at faithful
    have status := (receive_success concludes).mp success
    have asked := awaits.asked
    cases call with
    | loadProducts =>
      have request : task.request = ApiCall.getProducts.request := (Option.some.inj asked).symm
      rw [request] at status
      rw [awaits_updated orderly.traced awaits answer request rfl status,
        finishes_elsewhere (Or.inl rfl)]
      exact mirrors
    | loadCart => exact received_reset orderly awaits answer success trivial
    | addToCart product quantity =>
      have request : task.request = (ApiCall.addToCart product.id (.integer quantity)).request :=
        (Option.some.inj asked).symm
      rw [request] at status
      have lines : (dispatch visit.state ((ContextCall.addToCart product quantity).finishes
          (receive reply))).cart = addLine visit.state.cart ⟨product, quantity⟩ := by
        simp [ContextCall.finishes, success, dispatch, appReducer]
      rw [awaits_updated orderly.traced awaits answer request rfl status, lines]
      exact mirrors.add ⟨product, quantity⟩ faithful
    | updateCartItem productId quantity =>
      have request : task.request =
          (ApiCall.updateCartItem (platform.inPath productId) (.integer quantity)).request :=
        (Option.some.inj asked).symm
      rw [request] at status
      have lines : (dispatch visit.state ((ContextCall.updateCartItem productId quantity).finishes
          (receive reply))).cart = updateLine visit.state.cart productId quantity := by
        simp [ContextCall.finishes, success, dispatch, appReducer]
      rw [awaits_updated orderly.traced awaits answer request rfl status, lines]
      exact mirrors.update faithful.1 faithful.2
    | removeFromCart productId =>
      have request : task.request =
          (ApiCall.removeFromCart (platform.inPath productId)).request :=
        (Option.some.inj asked).symm
      rw [request] at status
      have lines : (dispatch visit.state ((ContextCall.removeFromCart productId).finishes
          (receive reply))).cart = removeLine visit.state.cart productId := by
        simp [ContextCall.finishes, success, dispatch, appReducer]
      have path : platform.inPath productId = productId := faithful
      have changed := awaits_updated orderly.traced awaits answer request rfl status
      rw [path] at changed
      rw [changed, lines]
      exact mirrors.remove productId
    | clearCart => exact received_reset orderly awaits answer success trivial
    | createOrder formData => exact received_reset orderly awaits answer success trivial
    | loadOrders =>
      have request : task.request = ApiCall.getOrders.request := (Option.some.inj asked).symm
      rw [request] at status
      rw [awaits_updated orderly.traced awaits answer request rfl status,
        finishes_elsewhere (Or.inr rfl)]
      exact mirrors
  · rw [if_neg success] at faithful
    rw [finishes_failed (by simpa using success), awaits.alone.unsettled faithful]
    exact mirrors

/-- Products that have been loaded are rows of the product table, which never changes. -/
theorem loaded_products (traced : server.Traced visit.shop)
    (awaits : visit.Awaits platform products .loadProducts index task start)
    (answer : task.answer? = some reply) {loaded : List Product}
    (body : reply.body = .products loaded) {product : Product} (listed : product ∈ loaded) :
    product ∈ products.rows := by
  have follows := answered_follows traced awaits answer
  have asked : task.request = ApiCall.getProducts.request := (Option.some.inj awaits.asked).symm
  rw [asked] at follows
  rcases (follows_query _ _ _ _ _).mp follows with
    ⟨-, same⟩ | ⟨error, -, same⟩ | ⟨rows, later, trace, tail⟩
  · exact absurd (congrArg pending? same) (by simp)
  · obtain rfl := Program.answer.inj same
    exact absurd body (by simp [Reply.error])
  · obtain ⟨-, same⟩ := (follows_answer _ _ _).mp tail
    obtain rfl := Program.answer.inj same
    obtain rfl : rows.map transformProduct = loaded := Body.products.inj body
    obtain ⟨row, member, rfl⟩ := List.mem_map.mp listed
    exact seen_selectProducts (awaits.alone.observed [] _ later trace rfl) member

/-- An answer replaces the products only if it is one to `loadProducts`. -/
theorem finishes_products (response : ApiResponse) (state : AppState) (call : ContextCall) :
    (dispatch state (call.finishes response)).products = state.products ∨
      ∃ loaded, call = .loadProducts ∧ response.data = some (.products loaded) ∧
        (dispatch state (call.finishes response)).products = loaded := by
  cases call with
  | loadProducts =>
    simp only [ContextCall.finishes]
    split
    · rename_i loaded _ data
      exact Or.inr ⟨loaded, trivial, data, rfl⟩
    · exact Or.inl rfl
  | _ =>
    simp only [ContextCall.finishes]
    first
      | exact Or.inl rfl
      | split <;> exact Or.inl rfl

end Received

namespace Visit

section Level

variable {platform : Platform} {initial : Database} {visit : Visit}

/-- A fresh client and an empty cart are level: no lines mirror no rows. -/
theorem level_fresh (platform : Platform)
    (empty : ∀ productId, initial.cart clientSession productId = none) :
    Level platform initial.products (fresh initial) where
  free := by
    intro _
    have nothing : (fresh initial).shop.store.cart clientSession = fun _ => none := funext empty
    rw [nothing]
    exact mirrors_nil initial.products
  awaiting := fun call index pending => absurd pending (by simp [fresh])

/-- Lines that mirror the cart when the answer is there are level. -/
theorem level_received {call : ContextCall} {reply : Reply}
    (mirrors : Mirrors initial.products (visit.shop.store.cart clientSession)
      (dispatch visit.state (call.finishes (Client.receive reply))).cart) :
    Level platform initial.products
      { visit with
        state := dispatch visit.state (call.finishes (Client.receive reply))
        pending := none } where
  free := fun _ => mirrors
  awaiting := fun call index pending => absurd pending (by simp)

/-- A step of the server keeps a visit level, as its only running request is the one the
client awaits. -/
theorem Level.shop_step (level : Level platform initial.products visit)
    (orderly : Orderly platform initial visit) (action : Action Request Choice) :
    Level platform initial.products { visit with shop := server.step visit.shop action } where
  free := by
    intro free
    rw [orderly.cart_step free action]
    exact level.free free
  awaiting := by
    intro call index pending
    obtain ⟨task, start, awaits, mirrors⟩ := level.awaiting call index pending
    obtain ⟨later, still⟩ := awaits.step orderly pending action
    exact ⟨later, start, still, mirrors⟩

/-- Every faithful move keeps a visit level: a call, a step of the server, or an answer. -/
theorem Level.step (level : Level platform initial.products visit)
    (orderly : Orderly platform initial visit) {move : Move}
    (faithful : visit.Faithful platform move) :
    Level platform initial.products (visit.step platform move) := by
  have stepped := step_stepped platform visit move
  generalize visit.step platform move = next at stepped
  cases stepped with
  | ignored => exact level
  | other request foreign => exact level.shop_step orderly (.start request)
  | proceeded index choice => exact level.shop_step orderly (.proceed index choice)
  | called call request free asked =>
    refine ⟨fun impossible => absurd impossible (by simp), ?_⟩
    intro call' index pending
    obtain ⟨rfl, rfl⟩ := Prod.mk.inj (Option.some.inj pending)
    have kept : (dispatch visit.state call.begins).cart = visit.state.cart := by cases call <;> rfl
    refine ⟨_, _, awaits_start orderly asked, ?_⟩
    rw [kept]
    exact level.free free
  | received call index task reply pending present answer =>
    obtain ⟨other, start, awaits, mirrors⟩ := level.awaiting call index pending
    obtain rfl : other = task := Option.some.inj (awaits.present.symm.trans present)
    have given := faithful (call, other, reply)
      (answered?_eq_some.mpr ⟨index, pending, present, answer⟩)
    rw [orderly.products] at given
    exact level_received (received_mirrors orderly awaits mirrors answer given)

/-- Moves that are faithful one after the other keep a visit level, by induction on them. -/
theorem run_level (moves : List Move) (orderly : Orderly platform initial visit)
    (level : Level platform initial.products visit) (faithful : FaithfulAlong platform visit moves) :
    Level platform initial.products (run platform visit moves) := by
  induction moves generalizing visit with
  | nil => exact level
  | cons move moves inductionHypothesis =>
    exact inductionHypothesis (orderly.step move) (level.step orderly faithful.1) faithful.2

/-- After a successful `loadCart`, `clearCart` or `createOrder` a visit is level. -/
theorem level_reset {call : ContextCall} {task : ShopTask} {reply : Reply}
    (orderly : Orderly platform initial visit) (answered : visit.answered? = some (call, task, reply))
    (success : (Client.receive reply).success = true) (resets : call.Resets) :
    Level platform initial.products (visit.step platform .receive) := by
  obtain ⟨index, pending, present, answer⟩ := answered?_eq_some.mp answered
  obtain ⟨other, start, awaits⟩ := orderly.awaited call index pending
  obtain rfl : other = task := Option.some.inj (awaits.present.symm.trans present)
  have received : visit.step platform .receive =
      { visit with
        state := dispatch visit.state (call.finishes (Client.receive reply))
        pending := none } := by
    simp only [Visit.step, answered]
  rw [received]
  exact level_received (received_reset orderly awaits answer success resets)

end Level

/-- The products the client has loaded are rows of the product table. -/
def Offers (products : KeyedTable Product String Product.id) (visit : Visit) : Prop :=
  ∀ product ∈ visit.state.products, product ∈ products.rows

/-- Every move keeps what a page offers among the rows of the product table. -/
theorem Offers.step (offers : Offers initial.products visit)
    (orderly : Orderly platform initial visit) (move : Move) :
    Offers initial.products (visit.step platform move) := by
  have stepped := step_stepped platform visit move
  generalize visit.step platform move = next at stepped
  cases stepped with
  | ignored => exact offers
  | other request foreign => exact offers
  | proceeded index choice => exact offers
  | called call request free asked =>
    intro product listed
    have kept : (dispatch visit.state call.begins).products = visit.state.products := by
      cases call <;> rfl
    rw [kept] at listed
    exact offers product listed
  | received call index task reply pending present answer =>
    intro product listed
    rcases finishes_products (Client.receive reply) visit.state call with
      kept | ⟨loaded, rfl, data, brings⟩
    · rw [kept] at listed
      exact offers product listed
    · obtain ⟨other, start, awaits⟩ := orderly.awaited _ index pending
      obtain rfl : other = task := Option.some.inj (awaits.present.symm.trans present)
      rw [brings] at listed
      exact loaded_products orderly.traced awaits answer (receive_body data) listed

/-- A run of a fresh client offers products of the table. -/
theorem run_offers (platform : Platform) (initial : Database) (moves : List Move) :
    Offers initial.products (run platform (fresh initial) moves) := by
  have begun : Offers initial.products (fresh initial) := by
    intro product listed
    simp [fresh, initialState] at listed
  exact (Runs.run_always (fun visit => Orderly platform initial visit ∧ Offers initial.products visit)
    (fun _ move kept => ⟨kept.1.step move, kept.2.step kept.1 move⟩) (fresh initial) moves
    ⟨orderly_fresh platform initial, begun⟩).2

/-- So adding a product that a page offers has the price of the table, as a faithful addition
must. -/
theorem offered_matches (platform : Platform) (initial : Database) (moves : List Move)
    {product : Product} (offered : product ∈ (run platform (fresh initial) moves).state.products)
    (lines : List CartLine) (quantity : Int) :
    (ContextCall.addToCart product quantity).Matches platform initial.products lines := by
  intro _ row found
  have known := KeyedTable.get?_complete (run_offers platform initial moves product offered)
  have same : row = product := Option.some.inj ((Option.mem_def.mp found).symm.trans known)
  rw [same]

theorem run_append (platform : Platform) (visit : Visit) (before later : List Move) :
    run platform visit (before ++ later) = run platform (run platform visit before) later :=
  Runs.run_append (step platform) visit before later

/-- The price shown is the price charged, from a moment on at which the lines of the
client are level with the cart of the server, as they are for a fresh client and an
empty cart and after every successful `loadCart`, `clearCart` or `createOrder`. While
all answers are faithful, every checkout answered 201 has created an order whose total
is the one the page shows. -/
theorem price_shown_charged (platform : Platform) (initial : Database) :
    ((∀ productId, initial.cart clientSession productId = none) →
      Level platform initial.products (fresh initial)) ∧
    (∀ moves call task reply,
      (run platform (fresh initial) moves).answered? = some (call, task, reply) →
        (Client.receive reply).success = true → call.Resets →
          Level platform initial.products (run platform (fresh initial) (moves ++ [.receive]))) ∧
    ∀ before later, Level platform initial.products (run platform (fresh initial) before) →
      FaithfulAlong platform (run platform (fresh initial) before) later →
        ∀ formData task reply, (run platform (fresh initial) (before ++ later)).answered? =
            some (.createOrder formData, task, reply) → reply.status = 201 →
          ∃ view, reply.body = .order view ∧ view.totalAmount =
            CheckoutPage.total (run platform (fresh initial) (before ++ later)).state.cart := by
  refine ⟨level_fresh platform, ?_, ?_⟩
  · intro moves call task reply answered success resets
    rw [run_append]
    exact level_reset (run_orderly platform initial moves) answered success resets
  · intro before later level faithful formData task reply answered created
    have orderly := run_orderly platform initial (before ++ later)
    have still := run_level later (run_orderly platform initial before) level faithful
    rw [← run_append] at still
    obtain ⟨index, pending, present, answer⟩ := answered?_eq_some.mp answered
    obtain ⟨other, start, awaits, mirrors⟩ := still.awaiting _ index pending
    obtain rfl : other = task := Option.some.inj (awaits.present.symm.trans present)
    obtain ⟨-, view, body, charged⟩ := ordered_charged orderly awaits answer created
    exact ⟨view, body, charged _ mirrors⟩

/-- A platform on which a path without special characters arrives as it is. -/
def plainPlatform : Platform := { inPath := id, prepareValue := sendText }

/-- One call, the statements of its request, and its answer. -/
def exchange (call : ContextCall) (index count : Nat) : List Move :=
  .call call :: List.replicate count (.proceed index .plain) ++ [.receive]

/-- Two smartphones are added and become three; then the page submits the order. -/
def threeSmartphones : List Move :=
  exchange (.addToCart smartphone 2) 0 4 ++ exchange (.updateCartItem "1" 3) 1 2 ++
    .call (.createOrder janesForm) :: List.replicate 7 (.proceed 2 .plain)

set_option maxRecDepth 4000 in
/-- The three smartphones are charged as shown, with a total of 1799.97. -/
theorem three_smartphones_charged : ∃ call task reply,
    (run plainPlatform (fresh freshDatabase) threeSmartphones).answered? =
        some (call, task, reply) ∧
      ∃ view, reply.body = .order view ∧ view.totalAmount = 179997 := by
  have charged := (price_shown_charged plainPlatform freshDatabase).2.2 [] threeSmartphones
    ((price_shown_charged plainPlatform freshDatabase).1 (fun _ => rfl)) (by decide)
  obtain ⟨view, body, total⟩ := charged janesForm _ _ rfl rfl
  exact ⟨_, _, _, rfl, view, body, total⟩

/-- An earlier visit has left one smartphone in the cart. -/
def leftSmartphone : Database :=
  (run plainPlatform (fresh freshDatabase) (exchange (.addToCart smartphone 1) 0 4)).shop.store

/-- A client that has just been loaded adds a laptop and orders. -/
def orderLaptop : List Move :=
  exchange (.addToCart laptop 1) 0 4 ++
    .call (.createOrder janesForm) :: List.replicate 8 (.proceed 1 .plain)

set_option maxRecDepth 4000 in
/-- The page shows 1299.99 and the order, answered 201, costs 1899.98. -/
theorem left_smartphone_charged : ∃ task view,
    (run plainPlatform (fresh leftSmartphone) orderLaptop).answered? =
        some (.createOrder janesForm, task, ⟨201, .order view⟩) ∧
      CheckoutPage.total (run plainPlatform (fresh leftSmartphone) orderLaptop).state.cart =
        129999 ∧ view.totalAmount = 189998 :=
  ⟨_, _, rfl, rfl, rfl⟩

end Visit

end ShoppingCS.Client
