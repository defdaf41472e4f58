import ShoppingCS.Client.ApiService
import ShoppingCS.Shop.Books

/-!
# Whether browsers are isolated

Two runs are compared: one as it was, and one in which a browser has checked the
server's health wherever it had used its cart or checked out. The other browsers
make the same calls, and the scheduler gives the same turns.

All browsers share one cart, so a browser notices what another one does to it.
As long as no statement of the other browser changes a row of the cart table,
nothing is noticed: carts and orders are the same in both runs, up to the ids of
the orders.
-/

namespace ShoppingCS.Client

open Interleaving Storage Shop Program

/-- The other browser checks the server's health instead of using its cart. -/
def without (other : Nat) : Action Sent Choice → Action Sent Choice
  | .start sent =>
    if sent.browser = other ∧ sent.call.usesCart = true then .start ⟨other, .healthCheck⟩
    else .start sent
  | .proceed index choice => .proceed index choice

/-- The id of the order row that a statement inserts, if it does. -/
def orderId? : Statement → Option String
  | .insertOrder row => some row.id
  | _ => none

/-- Whenever an order row is inserted, its id is free. -/
def NoClash (state : BrowserState) : Action Sent Choice → Prop
  | .start _ => True
  | .proceed index _ => ∀ task ∈ state.tasks[index]?,
      ∀ id ∈ task.program.pending?.bind orderId?, state.store.orders.get? id = none

instance (state : BrowserState) : ∀ action, Decidable (NoClash state action)
  | .start _ => isTrue trivial
  | .proceed index _ => inferInstanceAs (Decidable (∀ task ∈ state.tasks[index]?,
      ∀ id ∈ task.program.pending?.bind orderId?, state.store.orders.get? id = none))

/-- No statement of the browser changes a row of the cart table. -/
def LeavesCarts (browser : Nat) (state : BrowserState) : Action Sent Choice → Prop
  | .start _ => True
  | .proceed index choice => ∀ task ∈ state.tasks[index]?, task.request.browser = browser →
      ∀ statement ∈ task.program.pending?,
        (execute statement choice state.store).2.cartItems.rows = state.store.cartItems.rows

instance (browser : Nat) (state : BrowserState) : ∀ action, Decidable (LeavesCarts browser state action)
  | .start _ => isTrue trivial
  | .proceed index choice => inferInstanceAs (Decidable (∀ task ∈ state.tasks[index]?,
      task.request.browser = browser → ∀ statement ∈ task.program.pending?,
        (execute statement choice state.store).2.cartItems.rows = state.store.cartItems.rows))

/-- The items of the orders a call has created, as they are stored. -/
def createdItems (database : Database) (task : BrowserTask) : List ItemView :=
  (opened task.trace).flatMap database.orderedItems

section Statements

variable {first second : Database}

/-- The databases have the same products and the same carts. -/
structure SameCarts (first second : Database) : Prop where
  products : first.products = second.products
  cartItems : first.cartItems = second.cartItems

/-- Storing a quantity does the same to the same carts. -/
theorem storeQuantity_sameCarts (same : SameCarts first second) (productId sessionId : String)
    (quantity : Int4) : (first.storeQuantity productId sessionId quantity).cartItems =
      (second.storeQuantity productId sessionId quantity).cartItems := by
  simp only [Database.storeQuantity, Database.withCart, same.cartItems]

/-- The additive update returns the same and does the same. -/
theorem increaseQuantity_sameCarts (same : SameCarts first second) (quantity : Quantity)
    (productId : Option String) (sessionId : String) :
    (first.increaseQuantity quantity productId sessionId).1 =
        (second.increaseQuantity quantity productId sessionId).1 ∧
      (first.increaseQuantity quantity productId sessionId).2.cartItems =
        (second.increaseQuantity quantity productId sessionId).2.cartItems := by
  unfold Database.increaseQuantity
  rw [same.cartItems]
  split
  · exact ⟨rfl, same.cartItems⟩
  · exact ⟨rfl, same.cartItems⟩
  · split
    · exact ⟨rfl, same.cartItems⟩
    · exact ⟨rfl, same.cartItems⟩
    · split
      · exact ⟨rfl, same.cartItems⟩
      · exact ⟨rfl, storeQuantity_sameCarts same _ _ _⟩

/-- The absolute update returns the same and does the same. -/
theorem setQuantity_sameCarts (same : SameCarts first second) (quantity : Quantity)
    (productId sessionId : String) :
    (first.setQuantity quantity productId sessionId).1 =
        (second.setQuantity quantity productId sessionId).1 ∧
      (first.setQuantity quantity productId sessionId).2.cartItems =
        (second.setQuantity quantity productId sessionId).2.cartItems := by
  unfold Database.setQuantity
  rw [same.cartItems]
  split
  · exact ⟨rfl, same.cartItems⟩
  · split
    · exact ⟨rfl, same.cartItems⟩
    · exact ⟨rfl, same.cartItems⟩
    · exact ⟨rfl, storeQuantity_sameCarts same _ _ _⟩

/-- A cart row is accepted by both databases or by none. -/
theorem insertCart?_sameCarts (same : SameCarts first second) (row : CartItem) :
    (first.insertCart? row).map (·.cartItems) = (second.insertCart? row).map (·.cartItems) := by
  cases accepted : second.insertCart? row with
  | none =>
    rw [Database.insertCart?_eq_none, ← same.products, ← same.cartItems,
      ← Database.insertCart?_eq_none] at accepted
    rw [accepted]
  | some next =>
    have there : first.insertCart? row ≠ none := by
      intro rejected
      rw [Database.insertCart?_eq_none, same.products, same.cartItems,
        ← Database.insertCart?_eq_none] at rejected
      simp [rejected] at accepted
    obtain ⟨other, inserted⟩ := Option.ne_none_iff_exists'.mp there
    have left := (Database.insertCart?_eq_some inserted).1
    have right := (Database.insertCart?_eq_some accepted).1
    rw [same.cartItems] at left
    rw [inserted]
    exact left.symm.trans right

/-- The cart insertion returns the same and does the same. -/
theorem insertCartItem_sameCarts (same : SameCarts first second) (productId : Option String)
    (quantity : Quantity) (sessionId : String) :
    (first.insertCartItem productId quantity sessionId).1 =
        (second.insertCartItem productId quantity sessionId).1 ∧
      (first.insertCartItem productId quantity sessionId).2.cartItems =
        (second.insertCartItem productId quantity sessionId).2.cartItems := by
  unfold Database.insertCartItem
  rw [same.products]
  split
  · exact ⟨rfl, same.cartItems⟩
  · exact ⟨rfl, same.cartItems⟩
  · exact ⟨rfl, same.cartItems⟩
  · split
    · exact ⟨rfl, same.cartItems⟩
    · split
      · exact ⟨rfl, same.cartItems⟩
      · rename_i stored productId _ _ _
        have inserted := insertCart?_sameCarts same ⟨productId, stored, sessionId⟩
        cases left : first.insertCart? ⟨productId, stored, sessionId⟩ with
        | none =>
          cases right : second.insertCart? ⟨productId, stored, sessionId⟩ with
          | none => exact ⟨rfl, same.cartItems⟩
          | some next => simp [left, right] at inserted
        | some other =>
          cases right : second.insertCart? ⟨productId, stored, sessionId⟩ with
          | none => simp [left, right] at inserted
          | some next => exact ⟨rfl, by simpa [left, right] using inserted⟩

/-- Statements that use no orders return the same and do the same to the carts. -/
theorem execute_sameCarts (same : SameCarts first second) (choice : Choice) {statement : Statement}
    (plain : statement.usesOrders = false) :
    (execute statement choice first).1 = (execute statement choice second).1 ∧
      (execute statement choice first).2.cartItems = (execute statement choice second).2.cartItems := by
  by_cases failing : choice.fails = true
  · rw [execute_fails statement choice first failing, execute_fails statement choice second failing]
    exact ⟨rfl, same.cartItems⟩
  have working := Bool.eq_false_iff.mpr failing
  by_cases nul : statement.holdsNul = true
  · rw [execute_refuses statement choice first working nul,
      execute_refuses statement choice second working nul]
    exact ⟨rfl, same.cartItems⟩
  · have taken := Bool.eq_false_iff.mpr nul
    rw [execute_works working taken, execute_works working taken]
    simp only [carryOut]
    cases statement with
    | selectProducts pattern => simp [Database.selectProducts, same.products, same.cartItems]
    | selectProduct id => simp [same.products, same.cartItems]
    | selectCart owner =>
      simp [Database.joinedCart, Database.cartRows, same.products, same.cartItems]
    | selectCartItem productId owner => simp [same.cartItems]
    | selectCheckout owner =>
      simp [Database.checkoutRows, Database.joinedCart, Database.cartRows, same.products,
        same.cartItems]
    | deleteCartItem productId owner =>
      simp [Database.deleteCartItem, Database.keepCart, Database.withCart, same.cartItems]
    | deleteCart owner =>
      simp [Database.deleteCart, Database.keepCart, Database.withCart, Database.cartRows,
        same.cartItems]
    | increaseQuantity quantity productId owner =>
      exact increaseQuantity_sameCarts same quantity productId owner
    | insertCartItem productId quantity owner =>
      exact insertCartItem_sameCarts same productId quantity owner
    | setQuantity quantity productId owner =>
      exact setQuantity_sameCarts same quantity productId owner
    | _ => simp [Statement.usesOrders] at plain

/-- Any statements that leave the carts alone keep them the same. -/
theorem sameCarts_of_reads (same : SameCarts first second) (choice : Choice)
    {here there : Statement} (readsHere : here.writesCart = false)
    (readsThere : there.writesCart = false) :
    SameCarts (execute here choice first).2 (execute there choice second).2 := by
  obtain ⟨productsHere, -, -, cartHere⟩ := Database.execute_tables here choice first
  obtain ⟨productsThere, -, -, cartThere⟩ := Database.execute_tables there choice second
  constructor
  · rw [productsHere, productsThere, same.products]
  · rw [cartHere readsHere, cartThere readsThere, same.cartItems]

/-- A statement that uses no orders keeps the carts the same. -/
theorem sameCarts_of_plain (same : SameCarts first second) (choice : Choice)
    {statement : Statement} (plain : statement.usesOrders = false) :
    SameCarts (execute statement choice first).2 (execute statement choice second).2 where
  products := by
    rw [(Database.execute_tables statement choice first).1,
      (Database.execute_tables statement choice second).1, same.products]
  cartItems := (execute_sameCarts same choice plain).2

end Statements

section Checkouts

variable {first second : Database} {choice : Choice} {left right : BrowserTask}

/-- Two checkouts at the same point, on databases that count their orders
differently. Once the cart is cleared they only read, and may part. -/
inductive Twin (first second : Database) : Handler → Handler → Prop where
  | asked (sessionId : String) (body : OrderBody) :
      Twin first second (postOrders sessionId body) (postOrders sessionId body)
  | counting (sessionId : String) (body : OrderBody) (rows : List CheckoutRow) :
      Twin first second (numberOrder sessionId body rows) (numberOrder sessionId body rows)
  | ordering (sessionId : String) (customer : CustomerFields) (rows : List CheckoutRow)
      (one two : Nat) :
      Twin first second (placeOrder sessionId one customer rows)
        (placeOrder sessionId two customer rows)
  | inserting (sessionId : String) (rest : List CheckoutRow) (one two : Nat)
      (storedOne : first.orders.get? (orderIdOf one) ≠ none)
      (storedTwo : second.orders.get? (orderIdOf two) ≠ none) :
      Twin first second (insertItems one rest (finishOrder sessionId one))
        (insertItems two rest (finishOrder sessionId two))
  | reading (here there : Handler) (readsHere : here.Issues Statement.Reads)
      (readsThere : there.Issues Statement.Reads) : Twin first second here there

/-- Orders that are added to the databases do not matter to two checkouts at one point. -/
theorem Twin.mono {firstLater secondLater : Database} {here there : Handler}
    (twin : Twin first second here there)
    (keepsFirst : ∀ id, first.orders.get? id ≠ none → firstLater.orders.get? id ≠ none)
    (keepsSecond : ∀ id, second.orders.get? id ≠ none → secondLater.orders.get? id ≠ none) :
    Twin firstLater secondLater here there := by
  cases twin with
  | asked sessionId body => exact .asked sessionId body
  | counting sessionId body rows => exact .counting sessionId body rows
  | ordering sessionId customer rows one two => exact .ordering sessionId customer rows one two
  | inserting sessionId rest one two storedOne storedTwo =>
    exact .inserting sessionId rest one two (keepsFirst _ storedOne) (keepsSecond _ storedTwo)
  | reading _ _ readsHere readsThere => exact .reading _ _ readsHere readsThere

/-- Two answers are a pair of programs that only read, whatever they say. -/
theorem Twin.answers (here there : Reply) : Twin first second (.answer here) (.answer there) :=
  .reading _ _ (issues_answer _ _) (issues_answer _ _)

/-- The items a trace has inserted, without the orders they belong to. -/
def insertedItems (trace : Trace) : List ItemView := (inserted trace).map NewOrderItem.view

/-- What both tasks are after a turn of each: at the same point, with the same
items added. -/
structure TurnsAlike (choice : Choice) (first second : Database) (left right : BrowserTask) :
    Prop where
  carts : SameCarts (browsers.turn choice first left).1 (browsers.turn choice second right).1
  twin : Twin (browsers.turn choice first left).1 (browsers.turn choice second right).1
    (browsers.turn choice first left).2.program (browsers.turn choice second right).2.program
  items : ∃ added,
    insertedItems (browsers.turn choice first left).2.trace = insertedItems left.trace ++ added ∧
      insertedItems (browsers.turn choice second right).2.trace = insertedItems right.trace ++ added

/-- A task that only reads leaves products, carts and its items alone. -/
theorem turn_reads (choice : Choice) (database : Database) {task : BrowserTask}
    (reads : task.program.Issues Statement.Reads) :
    SameCarts (browsers.turn choice database task).1 database ∧
      (browsers.turn choice database task).2.program.Issues Statement.Reads ∧
      insertedItems (browsers.turn choice database task).2.trace = insertedItems task.trace := by
  cases pending : task.program with
  | answer value =>
    rw [browsers.turn_idle choice database task (by rw [pending]; rfl)]
    exact ⟨⟨rfl, rfl⟩, reads, rfl⟩
  | halt =>
    rw [browsers.turn_idle choice database task (by rw [pending]; rfl)]
    exact ⟨⟨rfl, rfl⟩, reads, rfl⟩
  | call statement resume =>
    rw [browsers.turn_call choice database task pending]
    rw [pending] at reads
    obtain ⟨cart, orders⟩ := reads.1
    obtain ⟨products, -, -, cartItems⟩ := Database.execute_tables statement choice database
    refine ⟨⟨products, cartItems cart⟩, reads.2 _, ?_⟩
    have silent : insertedBy ⟨statement, (browsers.perform statement choice database).1⟩ = none := by
      cases statement <;> first | rfl | simp [Statement.writesOrders] at orders
    simp [insertedItems, inserted, silent]

/-- One more event adds at most one item to those a trace has inserted. -/
theorem insertedItems_append (trace : Trace) (event : Event Statement Statement.Result) :
    insertedItems (trace ++ [event]) =
      insertedItems trace ++ ((insertedBy event).map NewOrderItem.view).toList := by
  unfold insertedItems
  rw [inserted_append, List.map_append]
  cases entry : insertedBy event <;> simp [inserted, entry]

/-- A statement that has failed adds no item to those its task has inserted. -/
theorem insertedBy_failed (statement : Statement) (error : SqlError) :
    insertedBy ⟨statement, .error error⟩ = none := by
  cases statement <;> rfl

/-- The turn of a task that waits for a query. -/
theorem turn_query {rejected : Reply} {statement : Statement} {next : statement.Rows → Handler}
    {task : BrowserTask} {database following : Database} {result : statement.Result}
    (waits : task.program = query rejected statement next)
    (executed : execute statement choice database = (result, following)) :
    browsers.turn choice database task =
      (following, task.advance statement (fun returned =>
        match returned with
        | .ok rows => next rows
        | .error _ => .answer rejected) result) := by
  have performed : browsers.perform statement choice database = (result, following) := executed
  refine (browsers.turn_call choice database task waits).trans ?_
  exact congrArg (fun outcome => (outcome.2, task.advance statement _ outcome.1)) performed

/-- Two checkouts that wait for corresponding statements take the same turn, if these succeed
or fail alike. -/
theorem turnsAlike_query {rejected : Reply} {here there : Statement} {nextHere : here.Rows → Handler}
    {nextThere : there.Rows → Handler} (waitsHere : left.program = query rejected here nextHere)
    (waitsThere : right.program = query rejected there nextThere)
    {resultHere : here.Result} {resultThere : there.Result} {firstLater secondLater : Database}
    (executedHere : execute here choice first = (resultHere, firstLater))
    (executedThere : execute there choice second = (resultThere, secondLater))
    (carts : SameCarts firstLater secondLater)
    (outcome : (∃ errorHere errorThere, resultHere = .error errorHere ∧
        resultThere = .error errorThere) ∨
      ∃ rowsHere rowsThere, resultHere = .ok rowsHere ∧ resultThere = .ok rowsThere ∧
        Twin firstLater secondLater (nextHere rowsHere) (nextThere rowsThere) ∧
        (insertedBy ⟨here, .ok rowsHere⟩).map NewOrderItem.view =
          (insertedBy ⟨there, .ok rowsThere⟩).map NewOrderItem.view) :
    TurnsAlike choice first second left right := by
  have turnHere := turn_query waitsHere executedHere
  have turnThere := turn_query waitsThere executedThere
  rcases outcome with
    ⟨errorHere, errorThere, rfl, rfl⟩ | ⟨rowsHere, rowsThere, rfl, rfl, twin, entries⟩
  · refine ⟨?_, ?_, [], ?_, ?_⟩
    · rw [turnHere, turnThere]
      exact carts
    · rw [turnHere, turnThere]
      exact .answers rejected rejected
    · simp only [turnHere, Task.advance_trace, insertedItems_append, insertedBy_failed]
      rfl
    · simp only [turnThere, Task.advance_trace, insertedItems_append, insertedBy_failed]
      rfl
  · refine ⟨?_, ?_, ((insertedBy ⟨here, .ok rowsHere⟩).map NewOrderItem.view).toList, ?_, ?_⟩
    · rw [turnHere, turnThere]
      exact carts
    · rw [turnHere, turnThere]
      exact twin
    · simp only [turnHere, Task.advance_trace, insertedItems_append]
    · simp only [turnThere, Task.advance_trace, insertedItems_append, entries]

/-- A task that waits for nothing has no turn to take. -/
theorem turnsAlike_idle (carts : SameCarts first second)
    (twin : Twin first second left.program right.program) (idleHere : left.program.pending? = none)
    (idleThere : right.program.pending? = none) : TurnsAlike choice first second left right := by
  have turnHere := browsers.turn_idle choice first left idleHere
  have turnThere := browsers.turn_idle choice second right idleThere
  refine ⟨?_, ?_, [], ?_, ?_⟩
  · rw [turnHere, turnThere]
    exact carts
  · rw [turnHere, turnThere]
    exact twin
  · rw [turnHere, List.append_nil]
  · rw [turnThere, List.append_nil]

/-- Order rows with the same customer and total fit, or do not fit, alike. -/
theorem orderRow?_twin (customer : CustomerFields) (rows : List CheckoutRow) (one two now : Nat) :
    Database.orderRow? (newOrder one customer rows) now = none ↔
      Database.orderRow? (newOrder two customer rows) now = none := by
  simp [Database.orderRow?, newOrder]

/-- Both checkouts read the cart, which is the same in both databases. -/
theorem turnsAlike_asked (carts : SameCarts first second) (sessionId : String) (body : OrderBody)
    (waitsHere : left.program = postOrders sessionId body)
    (waitsThere : right.program = postOrders sessionId body) :
    TurnsAlike choice first second left right := by
  by_cases parsed : body = .unparsable
  · have ended : postOrders sessionId body = .answer invalidBody := if_pos parsed
    refine turnsAlike_idle carts ?_ (by rw [waitsHere, ended]; rfl) (by rw [waitsThere, ended]; rfl)
    rw [waitsHere, waitsThere, ended]
    exact .answers _ _
  · have asks : postOrders sessionId body =
        query invalidBody (.selectCheckout sessionId) (fun rows =>
          if rows.isEmpty then .answer (.error 400 "Cart is empty")
          else numberOrder sessionId body rows) := if_neg parsed
    have returns := (@execute_sameCarts _ _ carts choice (.selectCheckout sessionId) rfl).1
    refine turnsAlike_query (waitsHere.trans asks) (waitsThere.trans asks)
      Prod.mk.eta.symm Prod.mk.eta.symm (sameCarts_of_reads carts choice rfl rfl) ?_
    rw [← returns]
    cases (execute (.selectCheckout sessionId) choice first).1 with
    | error error => exact Or.inl ⟨error, error, rfl, rfl⟩
    | ok rows =>
      refine Or.inr ⟨rows, rows, rfl, rfl, ?_, rfl⟩
      split
      · exact .answers _ _
      · exact .counting sessionId body rows

/-- Both checkouts count the orders, with different results in general, so their ids may
differ from here on. -/
theorem turnsAlike_counting (carts : SameCarts first second) (sessionId : String)
    (body : OrderBody) (rows : List CheckoutRow)
    (waitsHere : left.program = numberOrder sessionId body rows)
    (waitsThere : right.program = numberOrder sessionId body rows) :
    TurnsAlike choice first second left right := by
  refine turnsAlike_query waitsHere waitsThere Prod.mk.eta.symm Prod.mk.eta.symm
    (sameCarts_of_reads carts choice rfl rfl) ?_
  by_cases failing : choice.fails = true
  · exact Or.inl ⟨.connection, .connection, congrArg Prod.fst (execute_fails _ _ first failing),
      congrArg Prod.fst (execute_fails _ _ second failing)⟩
  · refine Or.inr ⟨first.orders.rows.length + 1, second.orders.rows.length + 1,
      congrArg Prod.fst (execute_works (Bool.eq_false_iff.mpr failing) rfl first),
      congrArg Prod.fst (execute_works (Bool.eq_false_iff.mpr failing) rfl second), ?_, rfl⟩
    cases body with
    | fields customer => exact .ordering sessionId customer rows _ _
    | null => exact .answers _ _
    | unparsable => exact .answers _ _

/-- An order row that fits its columns and whose id is free is stored by the insertion. -/
theorem insertOrder_stored {database : Database} {row : NewOrder} {now : Nat}
    (fits : Database.orderRow? row now ≠ none) (free : database.orders.get? row.id = none) :
    (database.insertOrder row now).2.orders.get? row.id ≠ none := by
  rcases database.insertOrder_cases row now with
    ⟨-, misfit | taken⟩ | ⟨stored, next, same, inserted, accepted⟩
  · exact absurd misfit fits
  · exact absurd free taken
  · rw [accepted, KeyedTable.get?_insert (Database.insertOrder?_eq_some inserted).1,
      if_pos (Database.orderRow?_eq_some same).1]
    simp

/-- Both checkouts insert their order rows, under ids that are free in their databases. -/
theorem turnsAlike_ordering (carts : SameCarts first second) (sessionId : String)
    (customer : CustomerFields) (rows : List CheckoutRow) (one two : Nat)
    (waitsHere : left.program = placeOrder sessionId one customer rows)
    (waitsThere : right.program = placeOrder sessionId two customer rows)
    (freeHere : first.orders.get? (orderIdOf one) = none)
    (freeThere : second.orders.get? (orderIdOf two) = none) :
    TurnsAlike choice first second left right := by
  refine turnsAlike_query waitsHere waitsThere Prod.mk.eta.symm Prod.mk.eta.symm
    (sameCarts_of_reads carts choice rfl rfl) ?_
  by_cases failing : choice.fails = true
  · exact Or.inl ⟨.connection, .connection, congrArg Prod.fst (execute_fails _ _ first failing),
      congrArg Prod.fst (execute_fails _ _ second failing)⟩
  · have executed (database : Database) (nextId : Nat) :
        execute (.insertOrder (newOrder nextId customer rows)) choice database =
          database.insertOrder (newOrder nextId customer rows) choice.now :=
      execute_works (Bool.eq_false_iff.mpr failing) rfl _
    rw [executed, executed]
    by_cases fits : Database.orderRow? (newOrder one customer rows) choice.now = none
    · have misfits := (orderRow?_twin customer rows one two choice.now).mp fits
      exact Or.inl ⟨.numericOutOfRange, .numericOutOfRange, by simp [Database.insertOrder, fits],
        by simp [Database.insertOrder, misfits]⟩
    · have fitsToo : Database.orderRow? (newOrder two customer rows) choice.now ≠ none :=
        fun misfits => fits ((orderRow?_twin customer rows one two choice.now).mpr misfits)
      refine Or.inr ⟨1, 1, Database.insertOrder_free fits freeHere,
        Database.insertOrder_free fitsToo freeThere, ?_, rfl⟩
      exact .inserting sessionId rows one two (insertOrder_stored fits freeHere)
        (insertOrder_stored fitsToo freeThere)

/-- Once the cart is cleared a checkout only reads, so it no longer matters to others. -/
theorem issues_finished (nextId : Nat) :
    (query invalidBody (.selectOrder (orderIdOf nextId)) (sendOrder nextId)).Issues
      Statement.Reads := by
  refine issues_query.mpr ⟨⟨rfl, rfl⟩, fun orders => issues_query.mpr ⟨⟨rfl, rfl⟩, ?_⟩⟩
  intro items
  cases orders <;> exact issues_answer _ _

/-- Both checkouts insert the same item, or clear the cart. -/
theorem turnsAlike_inserting (carts : SameCarts first second) (sessionId : String)
    (rest : List CheckoutRow) (one two : Nat)
    (waitsHere : left.program = insertItems one rest (finishOrder sessionId one))
    (waitsThere : right.program = insertItems two rest (finishOrder sessionId two))
    (storedOne : first.orders.get? (orderIdOf one) ≠ none)
    (storedTwo : second.orders.get? (orderIdOf two) ≠ none) :
    TurnsAlike choice first second left right := by
  cases rest with
  | nil =>
    have returns := (@execute_sameCarts _ _ carts choice (.deleteCart sessionId) rfl).1
    refine turnsAlike_query waitsHere waitsThere Prod.mk.eta.symm Prod.mk.eta.symm
      (sameCarts_of_plain carts choice rfl) ?_
    rw [← returns]
    cases (execute (.deleteCart sessionId) choice first).1 with
    | error error => exact Or.inl ⟨error, error, rfl, rfl⟩
    | ok count =>
      exact Or.inr ⟨count, count, rfl, rfl,
        .reading _ _ (issues_finished one) (issues_finished two), rfl⟩
  | cons item rest =>
    refine turnsAlike_query waitsHere waitsThere Prod.mk.eta.symm Prod.mk.eta.symm
      (sameCarts_of_reads carts choice rfl rfl) ?_
    by_cases failing : choice.fails = true
    · exact Or.inl ⟨.connection, .connection, congrArg Prod.fst (execute_fails _ _ first failing),
        congrArg Prod.fst (execute_fails _ _ second failing)⟩
    · have executed (database : Database) (nextId : Nat) :
          execute (.insertOrderItem (newOrderItem nextId item)) choice database =
            database.insertOrderItem (newOrderItem nextId item) :=
      execute_works (Bool.eq_false_iff.mpr failing) rfl _
      have keepsOne := @Database.execute_keeps_order (.insertOrderItem (newOrderItem one item))
        choice first _ storedOne
      have keepsTwo := @Database.execute_keeps_order (.insertOrderItem (newOrderItem two item))
        choice second _ storedTwo
      rw [executed] at keepsOne keepsTwo
      rw [executed, executed]
      by_cases fits : Decimal.ofCents? item.subtotal ≠ none ∧
          first.products.get? item.productId ≠ none
      · obtain ⟨amount, known⟩ := fits
        have knownToo : second.products.get? item.productId ≠ none := carts.products ▸ known
        exact Or.inr ⟨1, 1, Database.insertOrderItem_known amount storedOne known,
          Database.insertOrderItem_known amount storedTwo knownToo,
          .inserting sessionId rest one two keepsOne keepsTwo, rfl⟩
      · apply Or.inl
        rcases refused : (first.insertOrderItem (newOrderItem one item)).1 with errorHere | count
        · rcases refusedToo : (second.insertOrderItem (newOrderItem two item)).1 with
            errorThere | count
          · exact ⟨errorHere, errorThere, rfl, rfl⟩
          · obtain ⟨amount, -, known⟩ := Database.insertOrderItem_fits refusedToo
            exact absurd ⟨amount, carts.products ▸ known⟩ fits
        · obtain ⟨amount, -, known⟩ := Database.insertOrderItem_fits refused
          exact absurd ⟨amount, known⟩ fits

/-- Two tasks that only read stay alike whatever they read. -/
theorem turnsAlike_reading (carts : SameCarts first second)
    (readsHere : left.program.Issues Statement.Reads)
    (readsThere : right.program.Issues Statement.Reads) :
    TurnsAlike choice first second left right := by
  obtain ⟨sameHere, issuesHere, itemsHere⟩ := turn_reads choice first readsHere
  obtain ⟨sameThere, issuesThere, itemsThere⟩ := turn_reads choice second readsThere
  refine ⟨⟨?_, ?_⟩, .reading _ _ issuesHere issuesThere, [], ?_, ?_⟩
  · rw [sameHere.products, carts.products, sameThere.products]
  · rw [sameHere.cartItems, carts.cartItems, sameThere.cartItems]
  · rw [itemsHere, List.append_nil]
  · rw [itemsThere, List.append_nil]

/-- Two checkouts at the same point take the same turn, by cases on what they wait for. -/
theorem twin_turn (carts : SameCarts first second)
    (twin : Twin first second left.program right.program)
    (freeHere : ∀ id ∈ left.program.pending?.bind orderId?, first.orders.get? id = none)
    (freeThere : ∀ id ∈ right.program.pending?.bind orderId?, second.orders.get? id = none) :
    TurnsAlike choice first second left right := by
  generalize here : left.program = programHere at *
  generalize there : right.program = programThere at *
  cases twin with
  | asked sessionId body => exact turnsAlike_asked carts sessionId body here there
  | counting sessionId body rows => exact turnsAlike_counting carts sessionId body rows here there
  | ordering sessionId customer rows one two =>
    exact turnsAlike_ordering carts sessionId customer rows one two here there
      (freeHere _ rfl) (freeThere _ rfl)
  | inserting sessionId rest one two storedOne storedTwo =>
    exact turnsAlike_inserting carts sessionId rest one two here there storedOne storedTwo
  | reading _ _ readsHere readsThere =>
    exact turnsAlike_reading carts (here ▸ readsHere) (there ▸ readsThere)

end Checkouts

section Runs

variable {first second : Database} {choice : Choice} {left right : BrowserTask}

/-- The same call in both runs. It stands at the same point; if it has nothing to
do with orders, everything about it is the same. -/
structure Alike (first second : Database) (left right : BrowserTask) : Prop where
  request : left.request = right.request
  plain : left.request.call.operation.seesOrders = false →
    left = right ∧ left.program.Issues (fun statement => statement.usesOrders = false)
  twin : left.request.call.operation.seesOrders = true →
    Twin first second left.program right.program ∧
      insertedItems left.trace = insertedItems right.trace

/-- Orders that are added to the databases do not make two alike tasks differ. -/
theorem Alike.mono {firstLater secondLater : Database} (alike : Alike first second left right)
    (keepsFirst : ∀ id, first.orders.get? id ≠ none → firstLater.orders.get? id ≠ none)
    (keepsSecond : ∀ id, second.orders.get? id ≠ none → secondLater.orders.get? id ≠ none) :
    Alike firstLater secondLater left right where
  request := alike.request
  plain := alike.plain
  twin := fun orders => ⟨(alike.twin orders).1.mono keepsFirst keepsSecond, (alike.twin orders).2⟩

/-- The same call, accepted in both runs, is alike in both. -/
theorem alike_accept (sent : Sent) :
    Alike first second (browsers.accept sent) (browsers.accept sent) where
  request := rfl
  plain := fun plain => ⟨rfl, issues_plain sent.request plain⟩
  twin := by
    intro orders
    refine ⟨?_, rfl⟩
    obtain ⟨browser, call⟩ := sent
    cases call with
    | createOrder orderData =>
      exact .asked (getSessionId (ApiCall.createOrder orderData).request) (.fields orderData)
    | getOrders =>
      have reads := issues_reads (Sent.request ⟨browser, .getOrders⟩) rfl rfl
      exact .reading _ _ reads reads
    | getOrder id =>
      have reads := issues_reads (Sent.request ⟨browser, .getOrder id⟩) rfl rfl
      exact .reading _ _ reads reads
    | _ => simp [Service.accept, ApiCall.operation, Operation.seesOrders] at orders

/-- The same call stays alike when it takes its turn in both runs. -/
theorem alike_turn (carts : SameCarts first second) (alike : Alike first second left right)
    (freeHere : ∀ id ∈ left.program.pending?.bind orderId?, first.orders.get? id = none)
    (freeThere : ∀ id ∈ right.program.pending?.bind orderId?, second.orders.get? id = none) :
    SameCarts (browsers.turn choice first left).1 (browsers.turn choice second right).1 ∧
      Alike (browsers.turn choice first left).1 (browsers.turn choice second right).1
        (browsers.turn choice first left).2 (browsers.turn choice second right).2 := by
  by_cases orders : left.request.call.operation.seesOrders = true
  · obtain ⟨twin, items⟩ := alike.twin orders
    obtain ⟨cartsLater, twinLater, added, here, there⟩ :=
      twin_turn carts twin freeHere freeThere
    refine ⟨cartsLater, ?_, ?_, ?_⟩
    · simpa using alike.request
    · intro plain
      simp [orders] at plain
    · exact fun _ => ⟨twinLater, by rw [here, there, items]⟩
  · obtain ⟨rfl, issues⟩ := alike.plain (by simpa using orders)
    cases pending : left.program with
    | answer value =>
      have idle : left.program.pending? = none := by rw [pending]; rfl
      rw [browsers.turn_idle choice first left idle, browsers.turn_idle choice second left idle]
      exact ⟨carts, rfl, fun _ => ⟨rfl, issues⟩, fun impossible => absurd impossible orders⟩
    | halt =>
      have idle : left.program.pending? = none := by rw [pending]; rfl
      rw [browsers.turn_idle choice first left idle, browsers.turn_idle choice second left idle]
      exact ⟨carts, rfl, fun _ => ⟨rfl, issues⟩, fun impossible => absurd impossible orders⟩
    | call statement resume =>
      rw [pending] at issues
      have returns : (browsers.perform statement choice first).1 =
          (browsers.perform statement choice second).1 :=
        (execute_sameCarts carts choice issues.1).1
      rw [browsers.turn_call choice first left pending, browsers.turn_call choice second left pending]
      refine ⟨sameCarts_of_plain carts choice issues.1, rfl, fun _ => ⟨?_, issues.2 _⟩,
        fun impossible => absurd impossible orders⟩
      rw [returns]

/-- The tasks at one place of both runs. The other browser's only reads in the
second run; all others are alike. -/
inductive Paired (other : Nat) (first second : Database) (left right : BrowserTask) : Prop where
  | apart (sender : left.request.browser = other) (reads : right.program.Issues Statement.Reads)
  | alike (sender : left.request.browser ≠ other) (alike : Alike first second left right)

/-- The two runs agree on products, carts, and all calls but the other browser's. -/
structure Isolated (other : Nat) (before after : BrowserState) : Prop where
  carts : SameCarts before.store after.store
  sizes : before.tasks.length = after.tasks.length
  pairs : ∀ (index : Nat) (left right : BrowserTask), before.tasks[index]? = some left →
    after.tasks[index]? = some right → Paired other before.store after.store left right

variable {other : Nat} {before after : BrowserState}

/-- The calls of all other browsers are alike in both runs. -/
theorem Isolated.alike (isolated : Isolated other before after) {index : Nat}
    (here : before.tasks[index]? = some left) (there : after.tasks[index]? = some right)
    (sender : left.request.browser ≠ other) : Alike before.store after.store left right := by
  cases isolated.pairs index left right here there with
  | apart same reads => exact absurd same sender
  | alike _ alike => exact alike

/-- A turn deletes no order, as no statement does. -/
theorem turn_keeps_order (choice : Choice) (database : Database) (task : BrowserTask) {id : String}
    (there : database.orders.get? id ≠ none) :
    (browsers.turn choice database task).1.orders.get? id ≠ none := by
  cases pending : task.program with
  | answer value =>
    rw [browsers.turn_idle choice database task (by rw [pending]; rfl)]
    exact there
  | halt =>
    rw [browsers.turn_idle choice database task (by rw [pending]; rfl)]
    exact there
  | call statement resume =>
    rw [browsers.turn_call choice database task pending]
    exact Database.execute_keeps_order statement choice there

/-- Both runs accept a call, the edited one with the other cart, and stay isolated. -/
theorem isolated_accept (isolated : Isolated other before after) {sent edited : Sent}
    (paired : Paired other before.store after.store (browsers.accept sent)
      (browsers.accept edited)) :
    Isolated other (browsers.step before (.start sent)) (browsers.step after (.start edited)) := by
  refine ⟨isolated.carts, ?_, ?_⟩
  · simp [Service.step, isolated.sizes]
  · intro index left right here there
    simp only [Service.step, List.getElem?_append] at here there
    rw [isolated.sizes] at here
    split at here
    · rename_i inside
      rw [if_pos inside] at there
      exact isolated.pairs index left right here there
    · rename_i outside
      rw [if_neg outside] at there
      obtain rfl := List.mem_singleton.mp (List.mem_of_getElem? here)
      obtain rfl := List.mem_singleton.mp (List.mem_of_getElem? there)
      exact paired

/-- One task of each run takes its turn, at the same place, and the runs stay isolated. -/
theorem isolated_turn (isolated : Isolated other before after) {index : Nat}
    (here : before.tasks[index]? = some left) (there : after.tasks[index]? = some right)
    (carts : SameCarts (browsers.turn choice before.store left).1
      (browsers.turn choice after.store right).1)
    (paired : Paired other (browsers.turn choice before.store left).1
      (browsers.turn choice after.store right).1 (browsers.turn choice before.store left).2
      (browsers.turn choice after.store right).2) :
    Isolated other (browsers.step before (.proceed index choice))
      (browsers.step after (.proceed index choice)) := by
  rw [browsers.step_turn before index choice here, browsers.step_turn after index choice there]
  refine ⟨carts, ?_, ?_⟩
  · simp [isolated.sizes]
  · intro position one two foundOne foundTwo
    rcases set_lookup foundOne with ⟨rfl, rfl⟩ | ⟨different, oldOne⟩
    · rcases set_lookup foundTwo with ⟨-, rfl⟩ | ⟨impossible, -⟩
      · exact paired
      · exact absurd rfl impossible
    · rcases set_lookup foundTwo with ⟨same, -⟩ | ⟨-, oldTwo⟩
      · exact absurd same different
      · cases isolated.pairs position one two oldOne oldTwo with
        | apart sender reads => exact .apart sender reads
        | alike sender alike =>
          exact .alike sender (alike.mono
            (fun id stored => turn_keeps_order choice before.store left stored)
            (fun id stored => turn_keeps_order choice after.store right stored))

/-- The turn of the other browser leaves products and carts alone. -/
theorem turn_leaves (choice : Choice) (database : Database) (task : BrowserTask)
    (leaves : ∀ statement ∈ task.program.pending?,
      (execute statement choice database).2.cartItems.rows = database.cartItems.rows) :
    SameCarts (browsers.turn choice database task).1 database := by
  cases pending : task.program with
  | answer value =>
    rw [browsers.turn_idle choice database task (by rw [pending]; rfl)]
    exact ⟨rfl, rfl⟩
  | halt =>
    rw [browsers.turn_idle choice database task (by rw [pending]; rfl)]
    exact ⟨rfl, rfl⟩
  | call statement resume =>
    rw [browsers.turn_call choice database task pending]
    exact ⟨(Database.execute_tables statement choice database).1,
      KeyedTable.ext (leaves statement (by rw [pending]; rfl))⟩

/-- Every step keeps the browsers isolated when the other browser leaves the carts
alone and no order ids clash. -/
theorem step_isolated (action : Action Sent Choice) (isolated : Isolated other before after)
    (leaves : LeavesCarts other before action) (free : NoClash before action)
    (freeEdited : NoClash after (without other action)) :
    Isolated other (browsers.step before action) (browsers.step after (without other action)) := by
  cases action with
  | start sent =>
    by_cases edits : sent.browser = other ∧ sent.call.usesCart = true
    · have edited : without other (.start sent) = .start ⟨other, .healthCheck⟩ := if_pos edits
      rw [edited]
      exact isolated_accept isolated (.apart edits.1 (issues_answer _ _))
    · have edited : without other (.start sent) = .start sent := if_neg edits
      rw [edited]
      apply isolated_accept isolated
      by_cases sender : sent.browser = other
      · refine .apart sender (issues_reads sent.request ?_ ?_)
        all_goals
          obtain ⟨browser, call⟩ := sent
          cases call <;> first | rfl | exact absurd ⟨sender, rfl⟩ edits
      · exact .alike sender (alike_accept sent)
  | proceed index choice =>
    have same : without other (.proceed index choice) = .proceed index choice := rfl
    rw [same] at freeEdited ⊢
    cases here : before.tasks[index]? with
    | none =>
      have there : after.tasks[index]? = none := by
        rw [List.getElem?_eq_none_iff] at here ⊢
        rw [← isolated.sizes]
        exact here
      rw [browsers.step_absent before index choice here, browsers.step_absent after index choice there]
      exact isolated
    | some left =>
      have inside : index < after.tasks.length := by
        rw [← isolated.sizes]
        exact (List.getElem?_eq_some_iff.mp here).1
      have there := List.getElem?_eq_getElem inside
      cases isolated.pairs index left _ here there with
      | apart sender reads =>
        have cartsHere := turn_leaves choice before.store left (leaves left here sender)
        obtain ⟨cartsThere, issues, -⟩ := turn_reads choice after.store reads
        refine isolated_turn isolated here there ⟨?_, ?_⟩ (.apart (by simpa using sender) issues)
        · rw [cartsHere.products, isolated.carts.products, cartsThere.products]
        · rw [cartsHere.cartItems, isolated.carts.cartItems, cartsThere.cartItems]
      | alike sender alike =>
        obtain ⟨carts, later⟩ := alike_turn isolated.carts alike (free left here)
          (freeEdited _ there)
        exact isolated_turn isolated here there carts (.alike (by simpa using sender) later)

/-- The two runs stay side by side through all their actions, by induction on them. -/
theorem run_isolated (other : Nat) (initial : Database) (actions : List (Action Sent Choice))
    (leaves : browsers.Along (LeavesCarts other) (Service.idleState initial) actions)
    (free : browsers.Along NoClash (Service.idleState initial) actions)
    (freeEdited : browsers.Along NoClash (Service.idleState initial)
      (actions.map (without other))) :
    Isolated other (browsers.run (Service.idleState initial) actions)
      (browsers.run (Service.idleState initial) (actions.map (without other))) := by
  refine browsers.run_related (Isolated other) (without other) ?_ _ _ actions ?_
    (leaves.and free) freeEdited
  · exact fun before after action isolated met edited =>
      step_isolated action isolated met.1 met.2 edited
  · exact ⟨⟨rfl, rfl⟩, rfl, fun index left right here => absurd here (by simp)⟩

end Runs

/-- What the other browsers see of two runs is the same: the carts their calls
have returned and the items of the orders their calls have created. -/
structure Unnoticed (other : Nat) (before after : BrowserState) : Prop where
  sizes : before.tasks.length = after.tasks.length
  carts : ∀ (index : Nat) (left right : BrowserTask), before.tasks[index]? = some left →
    after.tasks[index]? = some right → left.request.browser ≠ other →
    left.request.call = .getCart → response? left = response? right
  orders : ∀ (index : Nat) (left right : BrowserTask) (orderData : CustomerFields),
    before.tasks[index]? = some left → after.tasks[index]? = some right →
    left.request.browser ≠ other → left.request.call = .createOrder orderData →
    createdItems before.store left = createdItems after.store right

/-- The items stored for the order of a call are those the call has inserted. -/
theorem createdItems_eq (initial : Database) (actions : List (Action Sent Choice))
    {task : BrowserTask}
    (member : task ∈ (browsers.run (Service.idleState initial) actions).tasks)
    {orderData : CustomerFields} (creates : task.request.call = .createOrder orderData) :
    createdItems (browsers.run (Service.idleState initial) actions).store task =
      insertedItems task.trace := by
  have behind := server.run_through Sent.request (Service.idleState initial) actions
  have entered := run_itemsEntered initial (actions.map (Action.relabel Sent.request))
  have traced := server.run_traced _ (actions.map (Action.relabel Sent.request))
    (server.idleState_traced initial)
  have initially : (Service.idleState initial : BrowserState).relabel Sent.request =
      Service.idleState initial := rfl
  rw [initially] at behind
  rw [← behind] at entered traced
  have known : task.relabel Sent.request ∈
      ((browsers.run (Service.idleState initial) actions).relabel Sent.request).tasks :=
    List.mem_map_of_mem member
  have items := entered _ known
  have follows : Follows (handle task.request.request) task.trace task.program := traced _ known
  have asks : handle task.request.request =
      postOrders (getSessionId task.request.request) (.fields orderData) := by
    simp [handle, Sent.request, ApiCall.request, creates, ApiCall.operation]
  rw [asks] at follows
  unfold createdItems insertedItems
  cases checkout_entered (checkout_at follows) with
  | nothing opens inserts keeps => simp [opens, inserts]
  | order rows done left nextId nonempty split opens inserts reads clearing =>
    have stored := items (orderIdOf nextId) (by simp [Task.relabel, opens])
    rw [opens, List.flatMap_cons, List.flatMap_nil, List.append_nil]
    exact stored

/-- Browsers are isolated from a browser that leaves the carts alone. When no
statement of the other browser changes a row of the cart table, and no order ids
clash, nobody notices its cart calls and checkouts. -/
theorem browsers_isolated (other : Nat) (initial : Database) (actions : List (Action Sent Choice))
    (leaves : browsers.Along (LeavesCarts other) (Service.idleState initial) actions)
    (free : browsers.Along NoClash (Service.idleState initial) actions)
    (freeWithout : browsers.Along NoClash (Service.idleState initial)
      (actions.map (without other))) :
    Unnoticed other (browsers.run (Service.idleState initial) actions)
      (browsers.run (Service.idleState initial) (actions.map (without other))) := by
  have isolated := run_isolated other initial actions leaves free freeWithout
  refine ⟨isolated.sizes, ?_, ?_⟩
  · intro index left right here there sender reads
    rw [((isolated.alike here there sender).plain (by rw [reads]; rfl)).1]
  · intro index left right orderData here there sender creates
    have same := isolated.alike here there sender
    have createsToo : right.request.call = .createOrder orderData := by
      rw [← same.request]
      exact creates
    rw [createdItems_eq initial actions (List.mem_of_getElem? here) creates,
      createdItems_eq initial _ (List.mem_of_getElem? there) createsToo]
    exact (same.twin (by rw [creates]; rfl)).2

/-- Let one call execute its next statements on a working connection. -/
def turns (index count : Nat) : List (Action Sent Choice) :=
  List.replicate count (.proceed index .plain)

/-- One browser fills its cart, looks at it and checks out. The other one removes
what is not there. -/
def quietNeighbour : List (Action Sent Choice) :=
  [.start ⟨0, .addToCart "1" (.integer 1)⟩, .start ⟨1, .removeFromCart "2"⟩] ++ turns 0 4 ++
    turns 1 2 ++ .start ⟨0, .getCart⟩ :: turns 2 1 ++
    .start ⟨0, .createOrder ⟨none, none, none, none⟩⟩ :: turns 3 7

/-- With a quiet neighbour nobody notices whether he is there. -/
theorem quiet_neighbour_unnoticed :
    Unnoticed 1 (browsers.run (Service.idleState freshDatabase) quietNeighbour)
      (browsers.run (Service.idleState freshDatabase) (quietNeighbour.map (without 1))) :=
  browsers_isolated 1 freshDatabase quietNeighbour (by decide) (by decide) (by decide)

/-- One browser adds a smartphone, then the other one looks at its own cart. -/
def noisyNeighbour : List (Action Sent Choice) :=
  .start ⟨1, .addToCart "1" (.integer 1)⟩ :: turns 0 4 ++ .start ⟨0, .getCart⟩ :: turns 1 1

/-- The second browser has added nothing and finds a smartphone in its cart. It
would have found an empty cart without the first one. -/
theorem noisy_neighbour_noticed :
    browsers.Along NoClash (Service.idleState freshDatabase) noisyNeighbour ∧
      browsers.Along NoClash (Service.idleState freshDatabase) (noisyNeighbour.map (without 1)) ∧
      (browsers.run (Service.idleState freshDatabase) noisyNeighbour).tasks[1]?.map response? =
        some (some (receive ⟨200, .cart [⟨smartphone, 1⟩]⟩)) ∧
      (browsers.run (Service.idleState freshDatabase)
        (noisyNeighbour.map (without 1))).tasks[1]?.map response? =
        some (some (receive ⟨200, .cart []⟩)) ∧
      ¬ Unnoticed 1 (browsers.run (Service.idleState freshDatabase) noisyNeighbour)
        (browsers.run (Service.idleState freshDatabase) (noisyNeighbour.map (without 1))) := by
  have responseHere : (browsers.run (Service.idleState freshDatabase)
      noisyNeighbour).tasks[1]?.map response? =
      some (some (receive ⟨200, .cart [⟨smartphone, 1⟩]⟩)) := by decide
  have responseThere : (browsers.run (Service.idleState freshDatabase)
      (noisyNeighbour.map (without 1))).tasks[1]?.map response? =
      some (some (receive ⟨200, .cart []⟩)) := by decide
  refine ⟨by decide, by decide, responseHere, responseThere, ?_⟩
  intro unnoticed
  have asks : (browsers.run (Service.idleState freshDatabase) noisyNeighbour).tasks[1]?.map
      (·.request) = some ⟨0, .getCart⟩ := by decide
  obtain ⟨left, here, responds⟩ := Option.map_eq_some_iff.mp responseHere
  obtain ⟨right, there, respondsToo⟩ := Option.map_eq_some_iff.mp responseThere
  have request : left.request = ⟨0, .getCart⟩ := by simpa [here] using asks
  have same := unnoticed.carts 1 left right here there (by simp [request]) (by rw [request])
  rw [responds, respondsToo] at same
  exact absurd same (by decide)

end ShoppingCS.Client
