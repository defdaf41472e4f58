import ShoppingCS.Interleaving.Histories
import ShoppingCS.Shop.CartLedger

/-!
# What is stored under an order

Order rows are appended and never changed, so whoever has inserted one finds it as
the columns have stored it. Every row was there before the run or was inserted by
one checkout of the run, with the total of the cart that the checkout has read; and
nothing is added to an order that was there before.
-/

namespace ShoppingCS.Shop

open Interleaving Storage Program

namespace Database

/-- A statement appends order rows, if it changes them at all. -/
theorem execute_orders_grow (statement : Statement) (choice : Choice) (database : Database) :
    database.orders.rows <+: (execute statement choice database).2.orders.rows := by
  rcases execute_orders statement choice database with ⟨stored, -, accepted⟩ | ⟨-, same⟩
  · obtain ⟨-, rows⟩ := KeyedTable.insert?_eq_some.mp accepted
    rw [rows]
    exact List.prefix_append _ _
  · simp [same]

/-- An order row is never changed: rows are only added, so a row that is found is found again.
-/
theorem get?_of_prefix {database next : Database}
    (grown : database.orders.rows <+: next.orders.rows) {id : String} {order : Order}
    (there : database.orders.get? id = some order) : next.orders.get? id = some order := by
  rw [KeyedTable.get?_eq_some] at there ⊢
  exact ⟨grown.subset there.1, there.2⟩

/-- An executed insertion stores the row as its columns take it. -/
theorem execute_insertOrder {row : NewOrder} {choice : Choice} {database : Database} {count : Nat}
    (accepted : (execute (.insertOrder row) choice database).1 = .ok count) :
    ∃ stored, orderRow? row choice.now = some stored ∧
      (execute (.insertOrder row) choice database).2.orders.get? row.id = some stored := by
  by_cases failing : choice.fails = true
  · rw [execute_fails _ choice database failing] at accepted
    simp at accepted
  · have executed : execute (.insertOrder row) choice database =
        database.insertOrder row choice.now := execute_works (Bool.eq_false_iff.mpr failing) rfl _
    rw [executed] at accepted ⊢
    rcases database.insertOrder_cases row choice.now with
      ⟨⟨error, failed⟩, -⟩ | ⟨stored, next, fits, inserted, same⟩
    · rw [failed] at accepted
      simp at accepted
    · refine ⟨stored, fits, ?_⟩
      rw [same, KeyedTable.get?_insert (insertOrder?_eq_some inserted).1,
        if_pos (orderRow?_eq_some fits).1]

end Database

/-- Order rows are appended by every step, and none is changed or removed. -/
theorem step_orders_grow (state : ShopState) (action : Action Request Choice) :
    state.store.orders.rows <+: (server.step state action).store.orders.rows := by
  generalize after : server.step state action = next
  have transition : server.Transition state action next := after ▸ server.step_transition state action
  cases transition with
  | started request => exact List.prefix_rfl
  | proceeded index choice task command resume present pending =>
    exact Database.execute_orders_grow command choice state.store
  | idle index choice nothing => exact List.prefix_rfl

/-- Along every run the order rows at an earlier moment are the first of those at a later one.
-/
theorem run_orders_grow (state : ShopState) (actions : List (Action Request Choice)) :
    state.store.orders.rows <+: (server.run state actions).store.orders.rows :=
  server.run_always (fun current => state.store.orders.rows <+: current.store.orders.rows)
    (fun current action grown => grown.trans (step_orders_grow current action)) state actions
    List.prefix_rfl

section Writers

variable {sessionId : String} {body : OrderBody} {trace : Trace} {program : Handler}

/-- A checkout that has inserted an order row has read a cart, and the row is that of
the cart. -/
theorem checkout_opened (point : CheckoutAt sessionId body trace program) {id : String}
    (opens : id ∈ opened trace) :
    ∃ rows nextId customer count, rows ≠ [] ∧ body = .fields customer ∧ id = orderIdOf nextId ∧
      passed (.insertOrder (newOrder nextId customer rows)) count ∈ trace ∧ readRows trace = rows := by
  have told (rows : List CheckoutRow) (nonempty : rows ≠ []) (nextId : Nat)
      (customer : CustomerFields) (given : body = .fields customer) (count : Nat)
      (done : List (CheckoutRow × Nat)) (later : Trace) (silent : opened later = [])
      (unread : readRows later = []) (opens : id ∈ opened
        (openingTrace sessionId rows nextId customer count ++ itemTrace nextId done ++ later)) :
      ∃ rows' nextId' customer' count', rows' ≠ [] ∧ body = .fields customer' ∧
        id = orderIdOf nextId' ∧ passed (.insertOrder (newOrder nextId' customer' rows')) count' ∈
          openingTrace sessionId rows nextId customer count ++ itemTrace nextId done ++ later ∧
        readRows (openingTrace sessionId rows nextId customer count ++ itemTrace nextId done ++
          later) = rows' := by
    obtain ⟨itemOpens, -, itemReads, -⟩ := itemTrace_books nextId done
    rw [opened_append, opened_append, itemOpens, silent, List.append_nil, List.append_nil] at opens
    refine ⟨rows, nextId, customer, count, nonempty, given, List.mem_singleton.mp opens, ?_, ?_⟩
    · simp [openingTrace]
    · rw [readRows_append, readRows_append, itemReads, unread, List.append_nil, List.append_nil]
      exact List.append_nil rows
  cases point with
  | asked parsed => simp [opened] at opens
  | counting rows nonempty => simp [opened, passed, openedBy] at opens
  | ordering rows nonempty nextId customer given => simp [opened, passed, openedBy] at opens
  | inserting rows nonempty nextId customer given count done rest split =>
    have found := told rows nonempty nextId customer given count done [] rfl rfl
    rw [List.append_nil] at found
    exact found opens
  | abandoned rows nonempty nextId customer given count done rest split statement error =>
    obtain ⟨silent, -, unread, -⟩ := failed_silent statement error
    exact told rows nonempty nextId customer given count done _ silent unread opens
  | cleared rows nonempty nextId customer given count done all deleted =>
    exact told rows nonempty nextId customer given count done _ rfl rfl opens
  | reread rows nonempty nextId customer given count done all deleted orders =>
    exact told rows nonempty nextId customer given count done _ rfl rfl opens
  | answered rows nonempty nextId customer given count done all deleted order orders items =>
    exact told rows nonempty nextId customer given count done _ rfl rfl opens
  | unread rows nonempty nextId customer given count done all deleted later reads fault =>
    obtain ⟨silent, -, unread, -⟩ := reading_silent nextId later reads
    exact told rows nonempty nextId customer given count done _ silent unread opens
  | refused _ reply status idle fault =>
    simp [(preliminary_silent sessionId trace idle).1] at opens

/-- Whoever has inserted an order row is a checkout. -/
theorem opener_checkout {state : ShopState} (traced : server.Traced state) {task : ShopTask}
    (member : task ∈ state.tasks) {id : String} (opens : id ∈ opened task.trace) :
    ∃ body, task.request.operation = .postOrders body ∧
      CheckoutAt (sessionOf task) body task.trace task.program := by
  have allowed := ((issues_handle task.request).follows (traced task member)).1
  obtain ⟨event, executed, enters⟩ := List.mem_filterMap.mp opens
  have checkout : task.request.operation.isCheckout = true := by
    refine (allowed event executed).orders ?_
    unfold openedBy at enters
    split at enters
    · rfl
    · simp at enters
  cases asked : task.request.operation with
  | postOrders body => exact ⟨body, rfl, task_checkout traced member asked⟩
  | _ => simp [asked, Operation.isCheckout] at checkout

end Writers

/-- What is stored under the orders after a run on an initial database. -/
structure Records (initial : Database) (state : ShopState) : Prop where
  placed : ∀ task ∈ state.tasks, ∀ row count, passed (.insertOrder row) count ∈ task.trace →
    ∃ stored now, Database.orderRow? row now = some stored ∧
      state.store.orders.get? row.id = some stored
  entered : ∀ order ∈ state.store.orders.rows,
    order ∈ initial.orders.rows ∨ ∃ task ∈ state.tasks, order.id ∈ opened task.trace
  untouched : ∀ id, initial.orders.get? id ≠ none →
    state.store.orderedItems id = initial.orderedItems id

section Execute

variable {initial : Database} {state : ShopState} {index : Nat} {choice : Choice} {task : ShopTask}
  {command : Statement} {resume : command.Result → Handler}

/-- An inserted row is found as it was stored. -/
theorem records_placed (records : Records initial state) (present : state.tasks[index]? = some task)
    {other : ShopTask}
    (member : other ∈ state.tasks.set index
      (task.advance command resume (execute command choice state.store).1))
    {row : NewOrder} {count : Nat} (recorded : passed (.insertOrder row) count ∈ other.trace) :
    ∃ stored now, Database.orderRow? row now = some stored ∧
      (execute command choice state.store).2.orders.get? row.id = some stored := by
  have earlier (before : ShopTask) (old : before ∈ state.tasks)
      (recorded : passed (.insertOrder row) count ∈ before.trace) : ∃ stored now,
      Database.orderRow? row now = some stored ∧
        (execute command choice state.store).2.orders.get? row.id = some stored := by
    obtain ⟨stored, now, fits, there⟩ := records.placed before old row count recorded
    exact ⟨stored, now, fits,
      Database.get?_of_prefix (Database.execute_orders_grow command choice state.store) there⟩
  rcases List.mem_or_eq_of_mem_set member with old | rfl
  · exact earlier other old recorded
  · rw [Task.advance_trace] at recorded
    cases List.mem_append.mp recorded with
    | inl before => exact earlier task (List.mem_of_getElem? present) before
    | inr now =>
      obtain ⟨named, result⟩ := Event.mk.inj (List.mem_singleton.mp now)
      obtain rfl := named
      obtain ⟨stored, fits, there⟩ := Database.execute_insertOrder (eq_of_heq result).symm
      exact ⟨stored, choice.now, fits, there⟩

/-- Every row has been inserted by a request, or is old. -/
theorem records_entered (records : Records initial state) (present : state.tasks[index]? = some task)
    {order : Order} (member : order ∈ (execute command choice state.store).2.orders.rows) :
    order ∈ initial.orders.rows ∨ ∃ other ∈ state.tasks.set index
      (task.advance command resume (execute command choice state.store).1),
        order.id ∈ opened other.trace := by
  have inside := (List.getElem?_eq_some_iff.mp present).1
  have earlier (old : order ∈ state.store.orders.rows) : order ∈ initial.orders.rows ∨
      ∃ other ∈ state.tasks.set index
        (task.advance command resume (execute command choice state.store).1),
          order.id ∈ opened other.trace := by
    refine (records.entered order old).imp id ?_
    rintro ⟨other, member, opens⟩
    obtain ⟨position, located⟩ := List.mem_iff_getElem?.mp member
    by_cases here : position = index
    · subst here
      obtain rfl : other = task := Option.some.inj (located.symm.trans present)
      refine ⟨_, List.mem_set inside _, ?_⟩
      rw [opened_advance]
      exact List.mem_append_left _ opens
    · refine ⟨other, List.mem_of_getElem? (i := position) ?_, opens⟩
      rw [List.getElem?_set_ne (fun equal => here equal.symm)]
      exact located
  rcases Database.execute_orders command choice state.store with ⟨stored, opens, accepted⟩ | ⟨-, same⟩
  · obtain ⟨-, rows⟩ := KeyedTable.insert?_eq_some.mp accepted
    rw [rows] at member
    cases List.mem_append.mp member with
    | inl old => exact earlier old
    | inr now =>
      obtain rfl := List.mem_singleton.mp now
      refine Or.inr ⟨_, List.mem_set inside _, ?_⟩
      rw [opened_advance, opens]
      simp
  · rw [same] at member
    exact earlier member

/-- Nobody adds to an order that was there before the run. -/
theorem records_untouched (traced : server.Traced state) (books : Books initial state)
    (records : Records initial state) (present : state.tasks[index]? = some task)
    (pending : task.program = .call command resume) {id : String}
    (old : initial.orders.get? id ≠ none) :
    (execute command choice state.store).2.orderedItems id = initial.orderedItems id := by
  have member := List.mem_of_getElem? present
  rw [Database.execute_orderedItems, records.untouched id old]
  cases entry : insertedBy ⟨command, (execute command choice state.store).1⟩ with
  | none => simp
  | some row =>
    have opens := insertedBy_opened traced member pending entry
    have foreign : row.orderId ≠ id := by
      rintro rfl
      exact old (books.stored task member row.orderId (by simp [opens])).2
    simp [foreign]

end Execute

/-- Every step keeps the records, which say of each order row what its checkout has read. -/
theorem step_records {initial : Database} {state : ShopState} (action : Action Request Choice)
    (traced : server.Traced state) (books : Books initial state) (records : Records initial state) :
    Records initial (server.step state action) := by
  generalize after : server.step state action = next
  have transition : server.Transition state action next := after ▸ server.step_transition state action
  cases transition with
  | idle index choice nothing => exact records
  | started request =>
    refine ⟨?_, ?_, records.untouched⟩
    · intro task member row count recorded
      cases List.mem_append.mp member with
      | inl member => exact records.placed task member row count recorded
      | inr member =>
        obtain rfl := List.mem_singleton.mp member
        exact absurd recorded (by simp [Service.accept])
    · intro order member
      refine (records.entered order member).imp id ?_
      rintro ⟨task, there, opens⟩
      exact ⟨task, List.mem_append_left _ there, opens⟩
  | proceeded index choice task command resume present pending =>
    exact ⟨fun other member row count recorded => records_placed records present member recorded,
      fun order member => records_entered records present member,
      fun id old => records_untouched traced books records present pending old⟩

/-- What every run has kept of orders, items and the tasks that have inserted them. -/
structure Documented (initial : Database) (state : ShopState) : Prop where
  traced : server.Traced state
  books : Books initial state
  items : ItemsEntered state
  records : Records initial state

/-- After every run the records are right, by induction with the books that the step needs. -/
theorem run_documented (initial : Database) (actions : List (Action Request Choice)) :
    Documented initial (server.run (Service.idleState initial) actions) := by
  have records := server.run_always
    (fun state => (server.Traced state ∧ Books initial state) ∧ Records initial state)
    (fun state action holds => ⟨⟨server.step_traced state action holds.1.1,
      step_books initial state action holds.1.2⟩,
        step_records action holds.1.1 holds.1.2 holds.2⟩)
    (Service.idleState initial) actions
    ⟨⟨server.idleState_traced initial, books_initially initial⟩,
      { placed := fun task member => absurd member (by simp)
        entered := fun order member => Or.inl member
        untouched := fun id old => rfl }⟩
  exact ⟨records.1.1, records.1.2, run_itemsEntered initial actions, records.2⟩

section Writer

variable {initial : Database} {state : ShopState} {task : ShopTask} {id : String}

/-- What is stored under an order that a task has inserted: its row, with the total of
the cart the task has read, and the items it has inserted so far. -/
theorem Documented.written (documented : Documented initial state) (member : task ∈ state.tasks)
    (opens : id ∈ opened task.trace) :
    ∃ order done left, state.store.orders.get? id = some order ∧
      order.totalAmount.val = totalAmount (readRows task.trace) ∧
      readRows task.trace = done ++ left ∧ readRows task.trace ≠ [] ∧
      (inserted task.trace).length = done.length ∧
      state.store.orderedItems id = done.map (fun row => (newOrderItem 0 row).view) := by
  obtain ⟨body, -, point⟩ := opener_checkout documented.traced member opens
  obtain ⟨rows, nextId, customer, count, nonempty, -, rfl, recorded, reads⟩ :=
    checkout_opened point opens
  obtain ⟨stored, now, fits, there⟩ := documented.records.placed task member _ count recorded
  cases checkout_entered point with
  | nothing silent => simp [silent] at opens
  | order rows' done left number _ split _ inserts reads' _ =>
    refine ⟨stored, done, left, there, ?_, reads'.trans split, by rwa [reads], ?_, ?_⟩
    · rw [(Database.orderRow?_eq_some fits).2, reads]
      rfl
    · rw [inserts, List.length_map]
    · rw [documented.items task member _ opens, inserts, List.map_map]
      rfl

end Writer

end ShoppingCS.Shop
