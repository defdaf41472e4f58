import ShoppingCS.Shop.Paths

/-!
# Requests and the sessions they act for

A request names no cart but that of its own session, in any statement it can
issue. With the meaning of the statements this gives the frame rule of every run:
a step of a request of one session leaves the carts of all others alone. The
product table is never written at all. A session that may send some operations only has
no requests of others.
-/

namespace ShoppingCS.Shop

open Interleaving Storage Program

/-- The session a statement on the cart table names. -/
def Statement.session? : Statement → Option String
  | .selectCart sessionId => some sessionId
  | .selectCartItem _ sessionId => some sessionId
  | .increaseQuantity _ _ sessionId => some sessionId
  | .insertCartItem _ _ sessionId => some sessionId
  | .setQuantity _ _ sessionId => some sessionId
  | .deleteCartItem _ sessionId => some sessionId
  | .deleteCart sessionId => some sessionId
  | .selectCheckout sessionId => some sessionId
  | _ => none

/-- The statements that create orders and their items, which only checkouts issue. -/
def Statement.writesOrders : Statement → Bool
  | .insertOrder _ => true
  | .insertOrderItem _ => true
  | _ => false

/-- The statements whose result or effect involves the order tables. -/
def Statement.usesOrders : Statement → Bool
  | .selectNextId => true
  | .insertOrder _ => true
  | .insertOrderItem _ => true
  | .selectOrders => true
  | .enqueueReads _ => true
  | .selectOrder _ => true
  | .selectOrderItems _ => true
  | _ => false

/-- What a request may issue: no statement on the cart of another session, and
writes to the order tables only as a checkout. A checkout writes to its cart only
by clearing it. -/
structure Statement.Serves (sessionId : String) (checkout : Bool) (statement : Statement) :
    Prop where
  session : ∀ owner, statement.session? = some owner → owner = sessionId
  orders : statement.writesOrders = true → checkout = true
  clearing : checkout = true → statement.writesCart = true → statement = .deleteCart sessionId

/-- A cart request uses its own cart as it likes. -/
theorem serves_own {sessionId : String} {statement : Statement}
    (named : statement.session? = some sessionId) (plain : statement.writesOrders = false) :
    statement.Serves sessionId false where
  session := fun owner same => (Option.some.inj (named.symm.trans same)).symm
  orders := fun writes => absurd writes (by simp [plain])
  clearing := fun impossible => absurd impossible (by decide)

/-- A statement that writes nothing serves any request whose session it names, if it names
one. -/
theorem serves_read {sessionId : String} {checkout : Bool} {statement : Statement}
    (stays : statement.session? = none ∨ statement.session? = some sessionId)
    (plain : statement.writesOrders = false) (reads : statement.writesCart = false) :
    statement.Serves sessionId checkout where
  session := by
    intro owner same
    cases stays with
    | inl unnamed => simp [unnamed] at same
    | inr named => exact (Option.some.inj (named.symm.trans same)).symm
  orders := fun writes => absurd writes (by simp [plain])
  clearing := fun _ writes => absurd (reads.symm.trans writes) (by decide)

/-- A statement that writes orders names no session and serves a checkout only. -/
theorem serves_order {sessionId : String} {statement : Statement}
    (unnamed : statement.session? = none) (plain : statement.writesCart = false) :
    statement.Serves sessionId true where
  session := fun owner same => absurd same (by simp [unnamed])
  orders := fun _ => rfl
  clearing := fun _ writes => absurd (plain.symm.trans writes) (by decide)

/-- A checkout clears the cart of its own session, as a request for deletion may too. -/
theorem serves_clear (sessionId : String) (checkout : Bool) :
    (Statement.deleteCart sessionId).Serves sessionId checkout where
  session := fun owner same => (Option.some.inj same).symm
  orders := fun writes => absurd writes (by simp [Statement.writesOrders])
  clearing := fun _ _ => rfl

/-- A cart operation is performed in the session its statement names. -/
theorem written_session {statement : Statement} {result : statement.Result} {owner : String}
    {operation : CartOperation} (performs : written statement result = some (owner, operation)) :
    statement.session? = some owner := by
  cases written_writesAs performs <;> rfl

/-- What a cart handler may issue: statements of its own session, and none on the
order tables. -/
def Statement.ServesCart (sessionId : String) (statement : Statement) : Prop :=
  statement.Serves sessionId false ∧ statement.usesOrders = false

/-- A query stays inside a bound when its statement does and everything after
it does; the answer to an error issues nothing. -/
theorem issues_query {allowed : Statement → Prop} {rejected : Reply} {statement : Statement}
    {next : statement.Rows → Handler} :
    (query rejected statement next).Issues allowed ↔
      allowed statement ∧ ∀ rows, (next rows).Issues allowed := by
  unfold query
  rw [issues_call]
  constructor
  · rintro ⟨first, later⟩
    exact ⟨first, fun rows => later (.ok rows)⟩
  · rintro ⟨first, later⟩
    refine ⟨first, ?_⟩
    rintro (error | rows)
    · exact issues_answer _ _
    · exact later rows

theorem issues_respondCart (rejected : Reply) (sessionId : String) :
    (respondCart rejected sessionId).Issues (Statement.ServesCart sessionId) :=
  issues_query.mpr ⟨⟨serves_own rfl rfl, rfl⟩, fun _ => issues_answer _ _⟩

theorem issues_postCart (sessionId : String) (body : Option CartBody) :
    (postCart sessionId body).Issues (Statement.ServesCart sessionId) := by
  cases body with
  | none => exact issues_answer _ _
  | some body =>
    refine issues_query.mpr ⟨⟨serves_read (Or.inl rfl) rfl rfl, rfl⟩, ?_⟩
    intro products
    split
    · exact issues_answer _ _
    · refine issues_query.mpr ⟨⟨serves_own rfl rfl, rfl⟩, ?_⟩
      intro existing
      split
      · exact issues_query.mpr ⟨⟨serves_own rfl rfl, rfl⟩,
          fun _ => issues_respondCart invalidBody sessionId⟩
      · exact issues_query.mpr ⟨⟨serves_own rfl rfl, rfl⟩,
          fun _ => issues_respondCart invalidBody sessionId⟩

theorem issues_putCart (sessionId : String) (productId : String)
    (body : Option Quantity) :
    (putCart sessionId productId body).Issues (Statement.ServesCart sessionId) := by
  cases body with
  | none => exact issues_answer _ _
  | some quantity =>
    simp only [putCart]
    split
    · exact issues_query.mpr ⟨⟨serves_own rfl rfl, rfl⟩,
        fun _ => issues_respondCart invalidBody sessionId⟩
    · exact issues_query.mpr ⟨⟨serves_own rfl rfl, rfl⟩,
        fun _ => issues_respondCart invalidBody sessionId⟩

theorem issues_readItems {allowed : Statement → Prop}
    (reads : ∀ orderId, allowed (.selectOrderItems orderId)) (orderIds : List String)
    (found : List (String × List OrderItem)) (next : List (String × List OrderItem) → Handler)
    (beyond : ∀ found, (next found).Issues allowed) :
    (readItems orderIds found next).Issues allowed := by
  induction orderIds generalizing found with
  | nil => exact beyond found
  | cons orderId orderIds inductionHypothesis =>
    exact issues_query.mpr ⟨reads orderId, fun _ => inductionHypothesis _⟩

theorem issues_insertItems (sessionId : String) (nextId : Nat) (items : List CheckoutRow)
    (next : Handler) (beyond : next.Issues (Statement.Serves sessionId true)) :
    (insertItems nextId items next).Issues (Statement.Serves sessionId true) := by
  induction items with
  | nil => exact beyond
  | cons item items inductionHypothesis =>
    exact issues_query.mpr ⟨serves_order rfl rfl, fun _ => inductionHypothesis⟩

theorem issues_finishOrder (sessionId : String) (nextId : Nat) :
    (finishOrder sessionId nextId).Issues (Statement.Serves sessionId true) := by
  refine issues_query.mpr ⟨serves_clear sessionId true, ?_⟩
  intro _
  refine issues_query.mpr ⟨serves_read (Or.inl rfl) rfl rfl, ?_⟩
  intro orders
  refine issues_query.mpr ⟨serves_read (Or.inl rfl) rfl rfl, ?_⟩
  intro items
  split <;> exact issues_answer _ _

theorem issues_postOrders (sessionId : String) (body : OrderBody) :
    (postOrders sessionId body).Issues (Statement.Serves sessionId true) := by
  unfold postOrders
  split
  · exact issues_answer _ _
  · refine issues_query.mpr ⟨serves_read (Or.inr rfl) rfl rfl, ?_⟩
    intro rows
    split
    · exact issues_answer _ _
    · refine issues_query.mpr ⟨serves_read (Or.inl rfl) rfl rfl, ?_⟩
      intro nextId
      unfold submitOrder
      split
      · exact issues_query.mpr ⟨serves_order rfl rfl, fun _ =>
          issues_insertItems _ _ _ _ (issues_finishOrder sessionId nextId)⟩
      · exact issues_answer _ _

/-- The request is a checkout, the only kind that writes orders. -/
def Operation.isCheckout : Operation → Bool
  | .postOrders _ => true
  | _ => false

/-- No request can name the cart of another session, and only checkouts write
orders. -/
theorem issues_handle (request : Request) :
    (handle request).Issues
      (Statement.Serves (getSessionId request) request.operation.isCheckout) := by
  obtain ⟨header, operation⟩ := request
  cases operation with
  | getHealth => exact issues_answer _ _
  | getProducts search =>
    exact issues_query.mpr ⟨serves_read (Or.inl rfl) rfl rfl, fun _ => issues_answer _ _⟩
  | getProduct productId =>
    refine issues_query.mpr ⟨serves_read (Or.inl rfl) rfl rfl, ?_⟩
    intro rows
    split <;> exact issues_answer _ _
  | getCart => exact (issues_respondCart _ _).mono (fun _ serves => serves.1)
  | postCart body => exact (issues_postCart _ body).mono (fun _ serves => serves.1)
  | putCart productId body =>
    exact (issues_putCart _ productId body).mono (fun _ serves => serves.1)
  | deleteCartItem productId =>
    exact issues_query.mpr ⟨serves_own rfl rfl, fun _ =>
      (issues_respondCart _ _).mono (fun _ serves => serves.1)⟩
  | deleteCart => exact issues_query.mpr ⟨serves_own rfl rfl, fun _ => issues_answer _ _⟩
  | getOrders =>
    refine issues_query.mpr ⟨serves_read (Or.inl rfl) rfl rfl, ?_⟩
    intro rows
    refine issues_query.mpr ⟨serves_read (Or.inl rfl) rfl rfl, ?_⟩
    intro orderIds
    exact issues_readItems (fun _ => serves_read (Or.inl rfl) rfl rfl) _ _ _
      (fun _ => issues_answer _ _)
  | postOrders body => exact issues_postOrders _ body
  | getOrder orderId =>
    refine issues_query.mpr ⟨serves_read (Or.inl rfl) rfl rfl, ?_⟩
    intro orders
    split
    · exact issues_answer _ _
    · exact issues_query.mpr ⟨serves_read (Or.inl rfl) rfl rfl, fun _ => issues_answer _ _⟩

/-- The requests that update a cart and do nothing else. -/
def Operation.updatesCart : Operation → Bool
  | .postCart _ => true
  | .putCart _ _ => true
  | .deleteCartItem _ => true
  | .deleteCart => true
  | _ => false

/-- The statement writes to no table, neither carts nor orders. -/
def Statement.Reads (statement : Statement) : Prop :=
  statement.writesCart = false ∧ statement.writesOrders = false

/-- The handlers without an update or an order only read. -/
theorem issues_reads (request : Request) (reads : request.operation.updatesCart = false)
    (plain : request.operation.isCheckout = false) :
    (handle request).Issues Statement.Reads := by
  obtain ⟨header, operation⟩ := request
  cases operation with
  | getHealth => exact issues_answer _ _
  | getProducts search => exact issues_query.mpr ⟨⟨rfl, rfl⟩, fun _ => issues_answer _ _⟩
  | getProduct productId =>
    refine issues_query.mpr ⟨⟨rfl, rfl⟩, ?_⟩
    intro rows
    split <;> exact issues_answer _ _
  | getCart => exact issues_query.mpr ⟨⟨rfl, rfl⟩, fun _ => issues_answer _ _⟩
  | getOrders =>
    refine issues_query.mpr ⟨⟨rfl, rfl⟩, fun rows => issues_query.mpr ⟨⟨rfl, rfl⟩, ?_⟩⟩
    intro orderIds
    exact issues_readItems (fun _ => ⟨rfl, rfl⟩) _ _ _ (fun _ => issues_answer _ _)
  | getOrder orderId =>
    refine issues_query.mpr ⟨⟨rfl, rfl⟩, ?_⟩
    intro orders
    split
    · exact issues_answer _ _
    · exact issues_query.mpr ⟨⟨rfl, rfl⟩, fun _ => issues_answer _ _⟩
  | postCart => simp [Operation.updatesCart] at reads
  | putCart => simp [Operation.updatesCart] at reads
  | deleteCartItem => simp [Operation.updatesCart] at reads
  | deleteCart => simp [Operation.updatesCart] at reads
  | postOrders => simp [Operation.isCheckout] at plain

/-- The requests about orders, whose answers depend on the order tables. -/
def Operation.seesOrders : Operation → Bool
  | .getOrders => true
  | .postOrders _ => true
  | .getOrder _ => true
  | _ => false

/-- The handlers of all other requests issue no statement on the order tables. -/
theorem issues_plain (request : Request) (plain : request.operation.seesOrders = false) :
    (handle request).Issues (fun statement => statement.usesOrders = false) := by
  obtain ⟨header, operation⟩ := request
  cases operation with
  | getHealth => exact issues_answer _ _
  | getProducts search => exact issues_query.mpr ⟨rfl, fun _ => issues_answer _ _⟩
  | getProduct productId =>
    refine issues_query.mpr ⟨rfl, ?_⟩
    intro rows
    split <;> exact issues_answer _ _
  | getCart => exact issues_query.mpr ⟨rfl, fun _ => issues_answer _ _⟩
  | postCart body => exact (issues_postCart _ body).mono (fun _ serves => serves.2)
  | putCart productId body =>
    exact (issues_putCart _ productId body).mono (fun _ serves => serves.2)
  | deleteCartItem productId =>
    exact issues_query.mpr ⟨rfl, fun _ => (issues_respondCart _ _).mono (fun _ serves => serves.2)⟩
  | deleteCart => exact issues_query.mpr ⟨rfl, fun _ => issues_answer _ _⟩
  | getOrders => simp [Operation.seesOrders] at plain
  | postOrders => simp [Operation.seesOrders] at plain
  | getOrder => simp [Operation.seesOrders] at plain

/-- What a task is about to execute serves its own request. -/
theorem pending_serves {state : ShopState} (traced : server.Traced state) {task : ShopTask}
    (member : task ∈ state.tasks) {command : Statement}
    {resume : command.Result → Handler} (pending : task.program = .call command resume) :
    command.Serves (sessionOf task) task.request.operation.isCheckout := by
  have remaining := ((issues_handle task.request).follows (traced task member)).2
  rw [pending] at remaining
  exact remaining.1

/-- A request of another session leaves the cart alone. -/
theorem cart_of_other {state : ShopState} (traced : server.Traced state) {task : ShopTask}
    (member : task ∈ state.tasks) {command : Statement}
    {resume : command.Result → Handler} (pending : task.program = .call command resume)
    {sessionId : String} (other : sessionOf task ≠ sessionId) (choice : Choice) :
    (execute command choice state.store).2.cart sessionId = state.store.cart sessionId := by
  rw [cart_execute]
  cases performs : written command (execute command choice state.store).1 with
  | none => rfl
  | some operation =>
    obtain ⟨owner, operation⟩ := operation
    have same : owner = sessionOf task :=
      (pending_serves traced member pending).session owner (written_session performs)
    have elsewhere : owner ≠ sessionId := same ▸ other
    exact if_neg elsewhere

namespace Database

/-- What a statement can change: the cart, the orders, or the order items, each
in its own way. The other tables are the same. -/
theorem execute_tables (statement : Statement) (choice : Choice) (database : Database) :
    (execute statement choice database).2.products = database.products ∧
      ((∀ row, statement ≠ .insertOrder row) →
        (execute statement choice database).2.orders = database.orders) ∧
      ((∀ row, statement ≠ .insertOrderItem row) →
        (execute statement choice database).2.orderItems = database.orderItems) ∧
      (statement.writesCart = false →
        (execute statement choice database).2.cartItems = database.cartItems) := by
  rcases execute_cases statement choice database with ⟨error, rejected⟩ | ⟨-, -, carried⟩
  · rw [rejected]
    exact ⟨rfl, fun _ => rfl, fun _ => rfl, fun _ => rfl⟩
  · rw [carried]
    cases statement with
    | increaseQuantity quantity productId owner =>
      rcases database.increaseQuantity_cases quantity productId owner with
        ⟨error, same⟩ | ⟨same, -⟩ | ⟨id, value, row, sum, -, -, -, -, same⟩
      all_goals
        simp only [carryOut]
        rw [same]
        exact ⟨rfl, fun _ => rfl, fun _ => rfl, fun impossible => absurd impossible (by simp)⟩
    | insertCartItem productId quantity owner =>
      rcases database.insertCartItem_cases productId quantity owner with
        ⟨error, same⟩ | ⟨id, stored, next, -, -, inserted, same⟩
      · simp only [carryOut]
        rw [same]
        exact ⟨rfl, fun _ => rfl, fun _ => rfl, fun _ => rfl⟩
      · simp only [carryOut]
        rw [same]
        obtain ⟨-, products, orders, items⟩ := insertCart?_eq_some inserted
        exact ⟨products, fun _ => orders, fun _ => items,
          fun impossible => absurd impossible (by simp)⟩
    | setQuantity quantity productId owner =>
      rcases database.setQuantity_cases quantity productId owner with
        ⟨error, same⟩ | ⟨same, -⟩ | ⟨stored, -, same⟩
      all_goals
        simp only [carryOut]
        rw [same]
        exact ⟨rfl, fun _ => rfl, fun _ => rfl, fun impossible => absurd impossible (by simp)⟩
    | insertOrder row =>
      rcases database.insertOrder_cases row choice.now with
        ⟨⟨error, same⟩, -⟩ | ⟨stored, next, -, inserted, same⟩
      · simp only [carryOut]
        rw [same]
        exact ⟨rfl, fun _ => rfl, fun _ => rfl, fun _ => rfl⟩
      · simp only [carryOut]
        rw [same]
        obtain ⟨-, products, cartItems, items⟩ := insertOrder?_eq_some inserted
        exact ⟨products, fun impossible => absurd rfl (impossible row), fun _ => items,
          fun _ => cartItems⟩
    | insertOrderItem row =>
      rcases database.insertOrderItem_cases row with
        ⟨error, same⟩ | ⟨item, next, -, -, -, -, -, -, inserted, same⟩
      · simp only [carryOut]
        rw [same]
        exact ⟨rfl, fun _ => rfl, fun _ => rfl, fun _ => rfl⟩
      · simp only [carryOut]
        rw [same]
        obtain ⟨-, products, cartItems, orders⟩ := insertItem?_eq_some inserted
        exact ⟨products, fun _ => orders, fun impossible => absurd rfl (impossible row),
          fun _ => cartItems⟩
    | deleteCartItem productId owner =>
      exact ⟨rfl, fun _ => rfl, fun _ => rfl, fun impossible => absurd impossible (by simp)⟩
    | deleteCart owner =>
      exact ⟨rfl, fun _ => rfl, fun _ => rfl, fun impossible => absurd impossible (by simp)⟩
    | _ => exact ⟨rfl, fun _ => rfl, fun _ => rfl, fun _ => rfl⟩

/-- A statement that has failed has changed nothing, as PostgreSQL executes each as a whole.
-/
theorem execute_error {statement : Statement} {choice : Choice} {database : Database}
    {error : SqlError} (failure : (execute statement choice database).1 = .error error) :
    (execute statement choice database).2 = database := by
  rcases execute_cases statement choice database with ⟨other, rejected⟩ | ⟨-, -, carried⟩
  · rw [rejected]
  · rw [carried] at failure ⊢
    cases statement with
    | increaseQuantity quantity productId owner =>
      simp only [carryOut] at failure ⊢
      rcases database.increaseQuantity_cases quantity productId owner with
        ⟨other, same⟩ | ⟨same, -⟩ | ⟨id, value, row, sum, -, -, -, -, same⟩
      · rw [same]
      · rw [same]
      · rw [same] at failure
        simp at failure
    | insertCartItem productId quantity owner =>
      simp only [carryOut] at failure ⊢
      rcases database.insertCartItem_cases productId quantity owner with
        ⟨other, same⟩ | ⟨id, stored, next, -, -, -, same⟩
      · rw [same]
      · rw [same] at failure
        simp at failure
    | setQuantity quantity productId owner =>
      simp only [carryOut] at failure ⊢
      rcases database.setQuantity_cases quantity productId owner with
        ⟨other, same⟩ | ⟨same, -⟩ | ⟨stored, -, same⟩
      · rw [same]
      · rw [same]
      · rw [same] at failure
        simp at failure
    | insertOrder row =>
      simp only [carryOut] at failure ⊢
      rcases database.insertOrder_cases row choice.now with
        ⟨⟨other, same⟩, -⟩ | ⟨stored, next, -, -, same⟩
      · rw [same]
      · rw [same] at failure
        simp at failure
    | insertOrderItem row =>
      simp only [carryOut] at failure ⊢
      rcases database.insertOrderItem_cases row with
        ⟨other, same⟩ | ⟨item, next, -, -, -, -, -, -, -, same⟩
      · rw [same]
      · rw [same] at failure
        simp at failure
    | deleteCartItem => simp [carryOut, deleteCartItem] at failure
    | deleteCart => simp [carryOut, deleteCart] at failure
    | _ => rfl

end Database

/-- No step changes the products, as there is no statement that writes them. -/
theorem step_products (state : ShopState) (action : Action Request Choice) :
    (server.step state action).store.products = state.store.products := by
  generalize after : server.step state action = next
  have transition : server.Transition state action next := after ▸ server.step_transition state action
  cases transition with
  | started request => rfl
  | proceeded index choice task command resume present pending =>
    exact (Database.execute_tables command choice state.store).1
  | idle index choice nothing => rfl

/-- The products of a run are those of its beginning. -/
theorem run_products (state : ShopState) (actions : List (Action Request Choice)) :
    (server.run state actions).store.products = state.store.products :=
  server.run_always (fun current => current.store.products = state.store.products)
    (fun current action same => (step_products current action).trans same) state actions rfl

/-- A read whose parameters are taken fails only with its connection. -/
theorem execute_reads {statement : Statement} {choice : Choice} (database : Database)
    (working : choice.fails = false) (taken : statement.holdsNul = false)
    (cart : statement.writesCart = false) (orders : statement.writesOrders = false) :
    ∃ rows, (execute statement choice database).1 = .ok rows := by
  rw [execute_works working taken]
  cases statement with
  | increaseQuantity => simp at cart
  | insertCartItem => simp at cart
  | setQuantity => simp at cart
  | deleteCartItem => simp at cart
  | deleteCart => simp at cart
  | insertOrder => simp [Statement.writesOrders] at orders
  | insertOrderItem => simp [Statement.writesOrders] at orders
  | _ => exact ⟨_, rfl⟩

/-- The session only issues the allowed requests, and its statements fail by no
lost connection. Other sessions are unrestricted. -/
def Restricted (sessionId : String) (allowed : Operation → Prop) (state : ShopState) :
    Action Request Choice → Prop
  | .start request => getSessionId request = sessionId → allowed request.operation
  | .proceed index choice => ∀ task ∈ state.tasks[index]?,
      sessionOf task = sessionId → choice.fails = false

instance (sessionId : String) (allowed : Operation → Prop) [DecidablePred allowed]
    (state : ShopState) : ∀ action, Decidable (Restricted sessionId allowed state action)
  | .start request =>
    inferInstanceAs (Decidable (getSessionId request = sessionId → allowed request.operation))
  | .proceed index choice => inferInstanceAs (Decidable (∀ task ∈ state.tasks[index]?,
      sessionOf task = sessionId → choice.fails = false))

/-- The requests of the session are all among the allowed ones. -/
def Admitted (sessionId : String) (allowed : Operation → Prop) (state : ShopState) : Prop :=
  ∀ task ∈ state.tasks, sessionOf task = sessionId → allowed task.request.operation

/-- Restricted steps accept only allowed requests of the session, so what was admitted before
stays the condition on all tasks. -/
theorem step_admitted {sessionId : String} {allowed : Operation → Prop} (state : ShopState)
    (action : Action Request Choice) (admitted : Admitted sessionId allowed state)
    (restricted : Restricted sessionId allowed state action) :
    Admitted sessionId allowed (server.step state action) := by
  generalize after : server.step state action = next
  have transition : server.Transition state action next := after ▸ server.step_transition state action
  cases transition with
  | started request =>
    intro task member own
    cases List.mem_append.mp member with
    | inl member => exact admitted task member own
    | inr member =>
      obtain rfl := List.mem_singleton.mp member
      exact restricted own
  | proceeded index choice task command resume present pending =>
    intro other member own
    rcases List.mem_or_eq_of_mem_set member with member | rfl
    · exact admitted other member own
    · exact admitted task (List.mem_of_getElem? present) own
  | idle index choice nothing => exact admitted

end ShoppingCS.Shop
