import ShoppingCS.Shop.Books

/-!
# The ledger of a cart

For one session and one product, the quantity in the cart equals what the
session's adds have put there, less what its checkouts have taken. An add
enters what its UPDATE or INSERT reports; a checkout enters, when its DELETE has
run, what its cart query read. The ledger balances through a run exactly as long
as every DELETE finds what was read, which is the condition the theorems carry.
-/

namespace ShoppingCS.Shop

open Interleaving Storage Program

/-- The quantity of a product in the rows of a checkout. -/
def quantityIn (productId : String) (rows : List CheckoutRow) : Int :=
  total (fun row : CheckoutRow => if row.productId = productId then row.quantity.val else 0) rows

/-- The quantity of a product that a cart operation adds, and nothing for operations on
others. -/
def addedBy (productId : String) : String × CartOperation → Int
  | (_, .add other quantity) => if other = productId then quantity else 0
  | _ => 0

/-- The quantity of a product a trace has added to a cart. -/
def addedQuantity (productId : String) (trace : Trace) : Int :=
  total (addedBy productId) (writes trace)

/-- The quantity of a product a trace has taken out of a cart: everything it had
read, once the cart is cleared. -/
def takenQuantity (productId : String) (trace : Trace) : Int :=
  if cleared trace = true then quantityIn productId (readRows trace) else 0

/-- The entry of a task in the ledger of a session's cart. -/
def cartEntry (sessionId productId : String) (task : ShopTask) : Int :=
  if sessionOf task = sessionId then
    addedQuantity productId task.trace - takenQuantity productId task.trace
  else 0

/-- The quantity of a product in a cart; no row counts as nothing. -/
def Database.quantityOf (database : Database) (sessionId productId : String) : Int :=
  (database.cart sessionId productId).getD 0

/-- A POST of a whole number of pieces of a product, the one kind of POST the ledger has
numbers for. -/
def Operation.Adds (productId : String) (quantity : Int) (operation : Operation) : Prop :=
  operation = .postCart (some ⟨some productId, .integer quantity⟩)

/-- The product and the quantity of such a POST, and nothing for every other operation. -/
def Operation.addition? : Operation → Option (String × Int)
  | .postCart (some ⟨some productId, .integer quantity⟩) => some (productId, quantity)
  | _ => none

theorem addition?_eq_some {operation : Operation} {productId : String} {quantity : Int} :
    operation.addition? = some (productId, quantity) ↔ operation.Adds productId quantity := by
  unfold Operation.Adds Operation.addition?
  split
  · simp
  · rename_i other
    simp only [reduceCtorEq, false_iff]
    exact fun same => other productId quantity same

section Entries

/-- One more event in the trace adds what it reports to the quantity the task has added. -/
theorem addedQuantity_advance (productId : String) (task : ShopTask) (command : Statement)
    (resume : command.Result → Handler) (result : command.Result) :
    addedQuantity productId (task.advance command resume result).trace =
      addedQuantity productId task.trace +
        total (addedBy productId) (written command result).toList := by
  unfold addedQuantity
  rw [Task.advance_trace, writes_append, total_append, writes_cons, writes_nil, List.append_nil]

/-- What a cart operation does to the quantity of a product, for the operations
the ledger knows. -/
theorem quantityOf_performed (sessionId productId : String)
    (performs : Option (String × CartOperation)) (cart : Cart)
    (adds : ∀ owner operation, performs = some (owner, operation) →
      owner = sessionId ∧ ∃ other quantity, operation = .add other quantity) :
    (performed sessionId performs cart productId).getD 0 =
      (cart productId).getD 0 + total (addedBy productId) performs.toList := by
  cases performs with
  | none => simp [performed]
  | some write =>
    obtain ⟨owner, operation⟩ := write
    obtain ⟨rfl, other, quantity, rfl⟩ := adds owner operation rfl
    by_cases same : productId = other
    · simp [performed, CartOperation.apply, addedBy, same]
    · have different : other ≠ productId := fun equal => same equal.symm
      simp [performed, CartOperation.apply, addedBy, same, different]

/-- The cart operations an add has performed: none, or its own. -/
theorem postCart_added {sessionId productId : String} {quantity : Int} {trace : Trace}
    {program : Handler}
    (point : PostCartAt sessionId ⟨some productId, .integer quantity⟩ trace program) :
    writes trace = [] ∨ writes trace = [(sessionId, .add productId quantity)] := by
  have stored (products : List Product) (existing : List CartItem)
      (write : Event Statement Statement.Result)
      (stores : Stores sessionId ⟨some productId, .integer quantity⟩ existing write) (last : Trace)
      (silent : writes last = []) :
      writes ([passed (.selectProduct (some productId)) products,
          passed (.selectCartItem (some productId) sessionId) existing, write] ++ last) = [] ∨
        writes ([passed (.selectProduct (some productId)) products,
          passed (.selectCartItem (some productId) sessionId) existing, write] ++ last) =
          [(sessionId, .add productId quantity)] := by
    rw [writes_append, silent, List.append_nil]
    cases stores with
    | increased _ present count =>
      by_cases hit : count = 1
      · subst hit
        exact Or.inr rfl
      · apply Or.inl
        have missed : written (.increaseQuantity (.integer quantity) (some productId) sessionId)
            (.ok count) = none := by
          simp [written, hit]
        simp only [writes_cons, writes_nil, List.append_nil]
        exact missed ▸ rfl
    | inserted count => exact Or.inr rfl
  cases point with
  | asked => exact Or.inl rfl
  | found products known => exact Or.inl rfl
  | storing products existing => exact Or.inl rfl
  | stored products existing write stores =>
    simpa using stored products existing write stores [] rfl
  | answered products existing write stores rows =>
    exact stored products existing write stores [passed (.selectCart sessionId) rows] rfl
  | unread products existing write stores error =>
    exact stored products existing write stores [failed (.selectCart sessionId) error] rfl
  | refused trace reply status unsettled fault => exact Or.inl (writes_of_unsettled unsettled)

/-- What an executed statement of an add can do to the cart: nothing, or the
addition it was asked for. -/
theorem postCart_written {sessionId other : String} {quantity : Int} {trace : Trace}
    {program : Handler}
    (point : PostCartAt sessionId ⟨some other, .integer quantity⟩ trace program)
    {statement : Statement} (pending : program.pending? = some statement)
    (result : statement.Result) :
    written statement result = none ∨
      written statement result = some (sessionId, .add other quantity) := by
  cases result with
  | error error => exact Or.inl (written_error statement error)
  | ok rows =>
    rcases postCart_pending point pending with rfl | rfl | rfl | rfl | rfl
    · exact Or.inl rfl
    · exact Or.inl rfl
    · rw [written_increase]
      split
      · exact Or.inr rfl
      · exact Or.inl rfl
    · exact Or.inr rfl
    · exact Or.inl rfl

/-- The only cart statement that writes in a checkout is the final DELETE, and
the cart is read first. -/
theorem checkout_pending {sessionId : String} {body : OrderBody} {trace : Trace}
    {program : Handler} (point : CheckoutAt sessionId body trace program) {statement : Statement}
    (pending : program.pending? = some statement) :
    (statement.writesCart = false ∧
        ((∀ owner, statement ≠ .selectCheckout owner) ∨ cleared trace = false)) ∨
      (statement = .deleteCart sessionId ∧ cleared trace = false) := by
  cases point with
  | asked parsed =>
    exact Or.inl ⟨by simp [postOrders, parsed] at pending; simp [← pending], Or.inr rfl⟩
  | counting rows nonempty =>
    exact Or.inl ⟨by simp [numberOrder] at pending; simp [← pending], Or.inr rfl⟩
  | ordering rows nonempty nextId customer given =>
    exact Or.inl ⟨by simp [placeOrder] at pending; simp [← pending], Or.inr rfl⟩
  | inserting rows nonempty nextId customer given count done rest split =>
    cases rest with
    | nil =>
      refine Or.inr ⟨by simpa [insertItems, finishOrder, eq_comm] using pending, ?_⟩
      rw [cleared_append, (itemTrace_books nextId done).2.2.2]
      rfl
    | cons item rest =>
      refine Or.inl ⟨by simp [insertItems] at pending; simp [← pending], Or.inl ?_⟩
      rintro owner rfl
      simp [insertItems] at pending
  | cleared rows nonempty nextId customer given count done all deleted =>
    refine Or.inl ⟨by simp at pending; simp [← pending], Or.inl ?_⟩
    rintro owner rfl
    simp at pending
  | reread rows nonempty nextId customer given count done all deleted orders =>
    refine Or.inl ⟨by simp [sendOrder] at pending; simp [← pending], Or.inl ?_⟩
    rintro owner rfl
    simp [sendOrder] at pending
  | abandoned => simp at pending
  | answered => simp at pending
  | unread => simp at pending
  | refused => simp at pending

/-- What is taken changes only when the cart is cleared. -/
theorem takenQuantity_advance (productId : String) (task : ShopTask) (command : Statement)
    (resume : command.Result → Handler) (result : command.Result)
    (keeps : clears ⟨command, result⟩ = false)
    (reads : readBy ⟨command, result⟩ = [] ∨ cleared task.trace = false) :
    takenQuantity productId (task.advance command resume result).trace =
      takenQuantity productId task.trace := by
  have still : cleared (task.advance command resume result).trace = cleared task.trace := by
    rw [Task.advance_trace, cleared_append]
    simp [cleared, keeps]
  unfold takenQuantity
  rw [still]
  by_cases before : cleared task.trace = true
  · have silent : readBy ⟨command, result⟩ = [] :=
      reads.resolve_right (by simp [before])
    have rows : readRows (task.advance command resume result).trace = readRows task.trace := by
      rw [Task.advance_trace, readRows_append]
      simp [readRows, silent]
    rw [rows]
  · rw [if_neg before, if_neg before]

/-- A statement that writes no cart clears none, so it is no entry in that column. -/
theorem clears_of_reads {statement : Statement} (reads : statement.writesCart = false)
    (result : statement.Result) : clears ⟨statement, result⟩ = false := by
  cases statement <;> first | rfl | simp at reads

/-- Only the cart query of a checkout reads rows for it. -/
theorem readBy_other {statement : Statement} (other : ∀ owner, statement ≠ .selectCheckout owner)
    (result : statement.Result) : readBy ⟨statement, result⟩ = [] := by
  cases statement <;> first | rfl | exact absurd rfl (other _)

/-- Clearing a cart is one of the operations of the trace. -/
theorem writes_of_cleared {trace : Trace} (clearing : cleared trace = true) :
    ∃ owner, (owner, CartOperation.clear) ∈ writes trace := by
  obtain ⟨event, recorded, clears⟩ := List.any_eq_true.mp clearing
  unfold Shop.clears at clears
  split at clears
  · rename_i owner count
    exact ⟨owner, List.mem_filterMap.mpr ⟨_, recorded, rfl⟩⟩
  · simp at clears

/-- An add clears no cart at any of its control points, so it takes nothing from one. -/
theorem postCart_untaken {sessionId other : String} {quantity : Int} (productId : String)
    {trace : Trace} {program : Handler}
    (point : PostCartAt sessionId ⟨some other, .integer quantity⟩ trace program) :
    takenQuantity productId trace = 0 := by
  apply if_neg
  intro clearing
  obtain ⟨owner, recorded⟩ := writes_of_cleared clearing
  cases postCart_added point with
  | inl none => simp [none] at recorded
  | inr one => simp [one] at recorded

/-- A checkout adds nothing to a cart at any of its control points. -/
theorem checkout_unadded (productId : String) {state : ShopState} (traced : server.Traced state)
    {task : ShopTask} (member : task ∈ state.tasks) {body : OrderBody}
    (orders : task.request.operation = .postOrders body) :
    addedQuantity productId task.trace = 0 := by
  have allowed := ((issues_handle task.request).follows (traced task member)).1
  have silent : addedQuantity productId task.trace =
      total (fun _ : String × CartOperation => 0) (writes task.trace) := by
    refine total_congr _ _ (fun operation performed => ?_)
    obtain ⟨event, recorded, performs⟩ := List.mem_filterMap.mp performed
    have writes : event.command.writesCart = true := by
      by_contra reads
      rw [written_none event.result (Bool.eq_false_iff.mpr reads)] at performs
      simp at performs
    have clearing := (allowed event recorded).clearing (by simp [orders, Operation.isCheckout]) writes
    obtain ⟨command, result⟩ := event
    dsimp only at clearing
    subst clearing
    cases result with
    | error error => exact absurd performs (by rw [written_error]; simp)
    | ok count =>
      obtain rfl := Option.some.inj performs
      rfl
  rw [silent]
  simp [total]

end Entries

/-- The requests the ledger accounts for: additions of whole numbers, and checkouts. -/
def AddsOrOrders (operation : Operation) : Prop :=
  (∃ productId quantity, operation.Adds productId quantity) ∨ ∃ body, operation = .postOrders body

instance : DecidablePred AddsOrOrders := fun operation =>
  decidable_of_iff (operation.addition?.isSome = true ∨ operation.isCheckout = true) (by
    refine or_congr ?_ ?_
    · rw [Option.isSome_iff_exists]
      constructor
      · rintro ⟨⟨productId, quantity⟩, same⟩
        exact ⟨productId, quantity, addition?_eq_some.mp same⟩
      · rintro ⟨productId, quantity, adds⟩
        exact ⟨(productId, quantity), addition?_eq_some.mpr adds⟩
    · cases operation <;> simp [Operation.isCheckout])

/-- The cart holds, of every product, the quantity these rows say. -/
def Database.Holds (database : Database) (sessionId : String) (rows : List CheckoutRow) : Prop :=
  ∀ productId, database.quantityOf sessionId productId = quantityIn productId rows

/-- Rows say nothing about the products they do not list. -/
theorem quantityIn_unlisted {productId : String} {rows : List CheckoutRow}
    (unlisted : productId ∉ rows.map (·.productId)) : quantityIn productId rows = 0 := by
  have silent : quantityIn productId rows = total (fun _ : CheckoutRow => 0) rows := by
    refine total_congr _ rows (fun row member => if_neg ?_)
    rintro rfl
    exact unlisted (List.mem_map_of_mem member)
  rw [silent]
  simp [total]

/-- Only products with a row in some cart have a quantity, so the sum has finitely many terms.
-/
theorem quantityOf_unlisted {database : Database} {sessionId productId : String}
    (unlisted : productId ∉ database.cartItems.rows.map (·.productId)) :
    database.quantityOf sessionId productId = 0 := by
  have absent : database.cartItems.get? (productId, sessionId) = none := by
    rw [KeyedTable.get?_eq_none]
    intro row member same
    have product : row.productId = productId := congrArg Prod.fst same
    exact unlisted (product ▸ List.mem_map_of_mem member)
  simp [Database.quantityOf, Database.cart, absent]

instance (database : Database) (sessionId : String) (rows : List CheckoutRow) :
    Decidable (database.Holds sessionId rows) :=
  decidable_of_iff (∀ productId ∈ database.cartItems.rows.map (·.productId) ++
      rows.map (·.productId),
      database.quantityOf sessionId productId = quantityIn productId rows) (by
    constructor
    · intro listed productId
      by_cases member : productId ∈ database.cartItems.rows.map (·.productId) ++
          rows.map (·.productId)
      · exact listed productId member
      · rw [List.mem_append, not_or] at member
        rw [quantityOf_unlisted member.1, quantityIn_unlisted member.2]
    · exact fun holds productId _ => holds productId)

/-- Whenever a checkout of the session is about to clear the cart, the cart holds
the quantities it has read. -/
def DeletesWhatWasRead (sessionId : String) (state : ShopState) : Action Request Choice → Prop
  | .start _ => True
  | .proceed index _ => ∀ task ∈ state.tasks[index]?, sessionOf task = sessionId →
      task.program.pending? = some (.deleteCart sessionId) →
      state.store.Holds sessionId (readRows task.trace)

instance (sessionId : String) (state : ShopState) :
    ∀ action, Decidable (DeletesWhatWasRead sessionId state action)
  | .start _ => isTrue trivial
  | .proceed index _ => inferInstanceAs (Decidable (∀ task ∈ state.tasks[index]?,
      sessionOf task = sessionId → task.program.pending? = some (.deleteCart sessionId) →
      state.store.Holds sessionId (readRows task.trace)))

/-- A task whose operation is an addition is at one of the control points of additions. -/
theorem task_postCart {state : ShopState} (traced : server.Traced state) {task : ShopTask}
    (member : task ∈ state.tasks) {productId : String} {quantity : Int}
    (adds : task.request.operation.Adds productId quantity) :
    PostCartAt (sessionOf task) ⟨some productId, .integer quantity⟩ task.trace task.program := by
  have follows := traced task member
  unfold Operation.Adds at adds
  exact postCart_at (by simpa [server, handle, adds, sessionOf] using follows)

theorem task_checkout {state : ShopState} (traced : server.Traced state) {task : ShopTask}
    (member : task ∈ state.tasks) {body : OrderBody}
    (orders : task.request.operation = .postOrders body) :
    CheckoutAt (sessionOf task) body task.trace task.program := by
  have follows := traced task member
  exact checkout_at (by simpa [server, handle, orders, sessionOf] using follows)

/-- An executed statement of an add changes the cart by what it enters. -/
theorem postCart_booked {sessionId productId other : String} {quantity : Int} {task : ShopTask}
    {command : Statement} {resume : command.Result → Handler} (choice : Choice)
    (database : Database)
    (point : PostCartAt sessionId ⟨some other, .integer quantity⟩ task.trace task.program)
    (pending : task.program = .call command resume) :
    (execute command choice database).2.quantityOf sessionId productId -
        database.quantityOf sessionId productId =
      (addedQuantity productId (task.advance command resume (execute command choice database).1).trace -
        takenQuantity productId
          (task.advance command resume (execute command choice database).1).trace) -
      (addedQuantity productId task.trace - takenQuantity productId task.trace) := by
  have waits : task.program.pending? = some command := by
    rw [pending]
    rfl
  generalize returned : (execute command choice database).1 = result
  have adds : ∀ owner operation, written command result = some (owner, operation) →
      owner = sessionId ∧ ∃ product added, operation = .add product added := by
    intro owner operation performs
    cases postCart_written point waits result with
    | inl none => simp [none] at performs
    | inr one =>
      obtain ⟨rfl, rfl⟩ := Prod.mk.inj (Option.some.inj (one.symm.trans performs))
      exact ⟨rfl, other, quantity, rfl⟩
  have silent : clears ⟨command, result⟩ = false ∧ readBy ⟨command, result⟩ = [] := by
    rcases postCart_pending point waits with rfl | rfl | rfl | rfl | rfl <;> exact ⟨rfl, rfl⟩
  have change := quantityOf_performed sessionId productId (written command result)
    (database.cart sessionId) adds
  rw [addedQuantity_advance, takenQuantity_advance _ _ _ _ _ silent.1 (Or.inl silent.2)]
  unfold Database.quantityOf
  rw [cart_execute, returned, change]
  omega

/-- An executed statement of a checkout changes the cart by what it enters, as
long as the DELETE finds what was read. -/
theorem checkout_booked {sessionId productId : String} {body : OrderBody} {task : ShopTask}
    {command : Statement} {resume : command.Result → Handler} (choice : Choice)
    (database : Database) (point : CheckoutAt sessionId body task.trace task.program)
    (pending : task.program = .call command resume)
    (unchanged : command = .deleteCart sessionId →
      database.quantityOf sessionId productId = quantityIn productId (readRows task.trace)) :
    (execute command choice database).2.quantityOf sessionId productId -
        database.quantityOf sessionId productId =
      (addedQuantity productId (task.advance command resume (execute command choice database).1).trace -
        takenQuantity productId
          (task.advance command resume (execute command choice database).1).trace) -
      (addedQuantity productId task.trace - takenQuantity productId task.trace) := by
  have waits : task.program.pending? = some command := by
    rw [pending]
    rfl
  rcases checkout_pending point waits with ⟨reads, order⟩ | ⟨rfl, uncleared⟩
  · have silent := written_none (execute command choice database).1 reads
    have keeps := clears_of_reads reads (execute command choice database).1
    have readsNothing : readBy ⟨command, (execute command choice database).1⟩ = [] ∨
        cleared task.trace = false := order.imp_left (fun other => readBy_other other _)
    rw [addedQuantity_advance, takenQuantity_advance _ _ _ _ _ keeps readsNothing, silent]
    unfold Database.quantityOf
    rw [cart_execute, silent]
    simp [performed]
  · by_cases failing : choice.fails = true
    · rw [execute_fails _ choice database failing]
      rw [addedQuantity_advance, takenQuantity_advance _ _ _ _ _ rfl (Or.inr uncleared),
        written_error]
      simp
    · have executed : execute (.deleteCart sessionId) choice database =
          database.deleteCart sessionId := execute_works (Bool.eq_false_iff.mpr failing) rfl _
      have emptied := database.cart_deleteCart sessionId sessionId
      have before : takenQuantity productId task.trace = 0 := if_neg (by simp [uncleared])
      rw [executed, addedQuantity_advance, before]
      unfold Database.quantityOf takenQuantity
      rw [emptied, Task.advance_trace, cleared_append, readRows_append]
      have found := unchanged rfl
      unfold Database.quantityOf at found
      simp [performed, CartOperation.apply, Database.deleteCart, cleared, clears, readRows, readBy,
        written, addedBy, found]

/-- One step keeps the ledger of the cart balanced: what has been added is in the cart or has
been taken out by a checkout. -/
theorem step_cartLedger (sessionId productId : String) (state : ShopState)
    (action : Action Request Choice) (traced : server.Traced state)
    (admitted : Admitted sessionId AddsOrOrders state)
    (deletes : DeletesWhatWasRead sessionId state action) :
    (server.step state action).store.quantityOf sessionId productId -
        total (cartEntry sessionId productId) (server.step state action).tasks =
      state.store.quantityOf sessionId productId -
        total (cartEntry sessionId productId) state.tasks := by
  refine server.step_balanced (fun store => store.quantityOf sessionId productId)
    (cartEntry sessionId productId) ?_ state action ?_
  · intro request
    unfold cartEntry
    split <;> rfl
  · rintro index choice task command resume rfl present pending
    have member := List.mem_of_getElem? present
    unfold cartEntry
    by_cases own : sessionOf task = sessionId
    · have advanced : sessionOf (task.advance command resume
          (server.perform command choice state.store).1) = sessionId := own
      rw [if_pos own, if_pos advanced]
      subst own
      rcases admitted task member rfl with ⟨other, quantity, adds⟩ | ⟨body, orders⟩
      · exact postCart_booked choice state.store (task_postCart traced member adds) pending
      · refine checkout_booked choice state.store (task_checkout traced member orders) pending ?_
        rintro rfl
        exact deletes task present rfl (by rw [pending]; rfl) productId
    · have advanced : sessionOf (task.advance command resume
          (server.perform command choice state.store).1) ≠ sessionId := own
      have same := cart_of_other traced member pending own choice
      have unchanged : (server.perform command choice state.store).2.cart sessionId =
          state.store.cart sessionId := same
      rw [if_neg own, if_neg advanced]
      simp only [Database.quantityOf, unchanged]
      omega

/-- The ledger of the cart balances through every run in which each checkout
deletes what it has read. -/
theorem run_cartLedger (sessionId productId : String) (initial : Database)
    (actions : List (Action Request Choice))
    (restricted : server.Along (Restricted sessionId AddsOrOrders) (Service.idleState initial) actions)
    (deletes : server.Along (DeletesWhatWasRead sessionId) (Service.idleState initial) actions) :
    (server.run (Service.idleState initial) actions).store.quantityOf sessionId productId =
      initial.quantityOf sessionId productId +
        total (cartEntry sessionId productId)
          (server.run (Service.idleState initial) actions).tasks := by
  have balanced := server.run_invariant (fun state => (server.Traced state ∧
    Admitted sessionId AddsOrOrders state) ∧ state.store.quantityOf sessionId productId -
      total (cartEntry sessionId productId) state.tasks = initial.quantityOf sessionId productId)
    ?_ (Service.idleState initial) actions ?_ (restricted.and deletes)
  · omega
  · rintro state action ⟨⟨traced, admitted⟩, balance⟩ ⟨allowed, delete⟩
    exact ⟨⟨server.step_traced state action traced, step_admitted state action admitted allowed⟩,
      (step_cartLedger sessionId productId state action traced admitted delete).trans balance⟩
  · refine ⟨⟨server.idleState_traced initial, fun task member => absurd member (by simp)⟩, ?_⟩
    simp

end ShoppingCS.Shop
