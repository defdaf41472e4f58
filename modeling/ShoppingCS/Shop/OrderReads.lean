import ShoppingCS.Shop.OrderSnapshot

/-!
# Reading orders while they are written

An order row is visible before the items of its order, and it stays when one of them
fails. A reader takes the row and the items by two statements. So an order is
returned whole if its items are read when the checkout that has inserted the row has
inserted an item for everything in its cart; until then it may be returned without
items, or with a total they do not add up to.
-/

namespace ShoppingCS.Shop

open Interleaving Storage Program

/-- There are items, and they add up to the total. -/
def OrderView.Complete (view : OrderView) : Prop :=
  view.items ≠ [] ∧ view.totalAmount = (view.items.map ItemView.subtotal).sum

/-- The orders in a response, whichever route it comes from. -/
def Body.orderViews : Body → List OrderView
  | .orders views => views
  | .order view => [view]
  | _ => []

/-- The requests that return orders without creating one, for which the result is stated. -/
def Operation.readsOrders : Operation → Bool
  | .getOrders => true
  | .getOrder _ => true
  | _ => false

/-- The item queries of `GET /api/orders` and what they have returned. -/
def readTrace (found : List (String × List OrderItem)) : Trace :=
  found.map (fun entry => passed (.selectOrderItems entry.1) entry.2)

section Paths

/-- The item queries that all return are those asked for, in order. -/
theorem follows_readItems {orderIds : List String} {found : List (String × List OrderItem)}
    {next : List (String × List OrderItem) → Handler} {trace : Trace} {reply : Reply}
    (good : reply.status = 200)
    (follows : Follows (readItems orderIds found next) trace (.answer reply)) :
    ∃ read later, read.map Prod.fst = orderIds ∧ trace = readTrace read ++ later ∧
      Follows (next (found ++ read)) later (.answer reply) := by
  induction orderIds generalizing found trace with
  | nil => exact ⟨[], trace, rfl, rfl, by rwa [List.append_nil]⟩
  | cons orderId orderIds inductionHypothesis =>
    rcases (follows_query _ _ _ _ _).mp follows with
      ⟨rfl, same⟩ | ⟨error, rfl, same⟩ | ⟨items, later, rfl, tail⟩
    · exact absurd same (by simp [query])
    · rw [Program.answer.inj same] at good
      exact absurd good (by decide)
    · obtain ⟨read, last, ids, rfl, beyond⟩ := inductionHypothesis tail
      refine ⟨(orderId, items) :: read, last, by rw [List.map_cons, ids], rfl, ?_⟩
      rwa [List.append_assoc, List.singleton_append] at beyond

/-- A listing answered 200 has read the rows, and then the items of each. -/
theorem getOrders_answered {trace : Trace} {reply : Reply} (good : reply.status = 200)
    (follows : Follows getOrders trace (.answer reply)) :
    ∃ rows orderIds read, read.map Prod.fst = orderIds ∧
      trace = [passed .selectOrders rows, passed (.enqueueReads (rows.map (·.id))) orderIds] ++
        readTrace read ∧
      reply.body = .orders (rows.map (fun row =>
        orderView row ((read.lookup row.id).getD []))) := by
  rcases (follows_query _ _ _ _ _).mp follows with
    ⟨rfl, same⟩ | ⟨error, rfl, same⟩ | ⟨rows, later, rfl, tail⟩
  · exact absurd same (by simp [query])
  · rw [Program.answer.inj same] at good
    exact absurd good (by decide)
  · rcases (follows_query _ _ _ _ _).mp tail with
      ⟨rfl, same⟩ | ⟨error, rfl, same⟩ | ⟨orderIds, later, rfl, reading⟩
    · exact absurd same (by simp [query])
    · rw [Program.answer.inj same] at good
      exact absurd good (by decide)
    · obtain ⟨read, last, ids, rfl, answering⟩ := follows_readItems good reading
      obtain ⟨rfl, same⟩ := (follows_answer _ _ _).mp answering
      obtain rfl := Program.answer.inj same
      exact ⟨rows, orderIds, read, ids, by simp, rfl⟩

/-- A lookup answered 200 has read the row, and then its items. -/
theorem getOrder_answered {orderId : String} {trace : Trace} {reply : Reply}
    (good : reply.status = 200) (follows : Follows (getOrder orderId) trace (.answer reply)) :
    ∃ order others items, trace = [passed (.selectOrder orderId) (order :: others),
        passed (.selectOrderItems orderId) items] ∧
      reply.body = .order (orderView order items) := by
  rcases (follows_query _ _ _ _ _).mp follows with
    ⟨rfl, same⟩ | ⟨error, rfl, same⟩ | ⟨orders, later, rfl, tail⟩
  · exact absurd same (by simp [query])
  · rw [Program.answer.inj same] at good
    exact absurd good (by decide)
  · cases orders with
    | nil =>
      obtain ⟨rfl, same⟩ := (follows_answer _ _ _).mp tail
      rw [Program.answer.inj same] at good
      exact absurd good (by decide)
    | cons order others =>
      rcases (follows_query _ _ _ _ _).mp tail with
        ⟨rfl, same⟩ | ⟨error, rfl, same⟩ | ⟨items, later, rfl, answering⟩
      · exact absurd same (by simp [query])
      · rw [Program.answer.inj same] at good
        exact absurd good (by decide)
      · obtain ⟨rfl, same⟩ := (follows_answer _ _ _).mp answering
        obtain rfl := Program.answer.inj same
        exact ⟨order, others, items, rfl, rfl⟩

end Paths

section Seen

/-- The order rows that an executed statement has returned, from the listing or for one id. -/
def seenBy : Event Statement Statement.Result → List Order
  | ⟨.selectOrders, .ok rows⟩ => rows
  | ⟨.selectOrder _, .ok rows⟩ => rows
  | _ => []

/-- Whatever rows a statement returns are stored in the database it is executed on. -/
theorem seenBy_execute {statement : Statement} {choice : Choice} {database : Database} {order : Order}
    (seen : order ∈ seenBy ⟨statement, (execute statement choice database).1⟩) :
    order ∈ (execute statement choice database).2.orders.rows := by
  by_cases failing : choice.fails = true
  · rw [execute_fails _ choice database failing] at seen
    cases statement <;> simp [seenBy] at seen
  · cases statement with
    | selectOrders =>
      have rows : (execute .selectOrders choice database) =
          (.ok ((reorder choice.order database.orders.rows).mergeSort
            (fun first second => decide (second.createdAt ≤ first.createdAt))), database) :=
        execute_works (Bool.eq_false_iff.mpr failing) rfl _
      rw [rows] at seen ⊢
      have listed := List.mem_mergeSort.mp (show order ∈ List.mergeSort _ _ from seen)
      exact (reorder_perm _ _).mem_iff.mp listed
    | selectOrder id =>
      have rows : (execute (.selectOrder id) choice database) =
          (.ok (database.orders.get? id).toList, database) :=
        execute_works (Bool.eq_false_iff.mpr failing) rfl _
      rw [rows] at seen ⊢
      have found := Option.mem_toList.mp (show order ∈ (database.orders.get? id).toList from seen)
      exact (KeyedTable.get?_sound found).1
    | _ => simp [seenBy] at seen

/-- Every row a request has read is still stored. -/
def SeenStored (state : ShopState) : Prop :=
  ∀ task ∈ state.tasks, ∀ event ∈ task.trace, ∀ order ∈ seenBy event,
    order ∈ state.store.orders.rows

/-- Rows are never removed, so every step keeps this. -/
theorem step_seenStored {state : ShopState} (action : Action Request Choice)
    (stored : SeenStored state) : SeenStored (server.step state action) := by
  intro task member event recorded order seen
  obtain ⟨index, present⟩ := List.mem_iff_getElem?.mp member
  have grown := step_orders_grow state action
  rcases Service.step_task action present with
    there | ⟨request, -, -, rfl⟩ | ⟨choice, before, command, resume, rfl, found, pending, rfl⟩
  · exact grown.subset (stored task (List.mem_of_getElem? there) event recorded order seen)
  · exact absurd recorded (by simp [Service.accept])
  · rw [Task.advance_trace] at recorded
    cases List.mem_append.mp recorded with
    | inl earlier =>
      exact grown.subset (stored before (List.mem_of_getElem? found) event earlier order seen)
    | inr now =>
      obtain rfl := List.mem_singleton.mp now
      rw [(Service.step_executes found pending choice).2]
      exact seenBy_execute seen

/-- Through every run all order rows that a task has seen stay stored. -/
theorem run_seenStored (initial : Database) (actions : List (Action Request Choice)) :
    SeenStored (server.run (Service.idleState initial) actions) :=
  server.run_always SeenStored (fun _ action stored => step_seenStored action stored) _ actions
    (fun task member => absurd member (by simp))

end Seen

/-- The checkout has inserted an item for every row it has read. -/
def Whole (task : ShopTask) : Prop := (inserted task.trace).length = (readRows task.trace).length

/-- The order whose items a statement reads, if it is such a read. -/
def Statement.itemsOf? : Statement → Option String
  | .selectOrderItems orderId => some orderId
  | _ => none

/-- Whenever a reader reads the items of an order, whoever has inserted the order has
inserted all of its items. -/
def ReadsWhole (state : ShopState) : Action Request Choice → Prop
  | .start _ => True
  | .proceed index choice => ∀ task ∈ state.tasks[index]?, task.request.operation.readsOrders = true →
      choice.fails = false → ∀ id ∈ task.program.pending?.bind Statement.itemsOf?,
      ∀ writer ∈ state.tasks, id ∈ opened writer.trace → Whole writer

instance (task : ShopTask) : Decidable (Whole task) := inferInstanceAs (Decidable (_ = _))

instance (state : ShopState) : ∀ action, Decidable (ReadsWhole state action)
  | .start _ => isTrue trivial
  | .proceed index choice => inferInstanceAs (Decidable (∀ task ∈ state.tasks[index]?,
      task.request.operation.readsOrders = true → choice.fails = false →
      ∀ id ∈ task.program.pending?.bind Statement.itemsOf?,
      ∀ writer ∈ state.tasks, id ∈ opened writer.trace → Whole writer))

/-- The orders that are there at the beginning are complete. -/
def Database.Complete (database : Database) : Prop :=
  ∀ order ∈ database.orders.rows, database.orderedItems order.id ≠ [] ∧
    order.totalAmount.val = ((database.orderedItems order.id).map ItemView.subtotal).sum

/-- An order is complete if its items are read when they are all there. -/
theorem Documented.complete {initial : Database} {state : ShopState}
    (documented : Documented initial state) (initially : initial.Complete) {order : Order}
    (member : order ∈ state.store.orders.rows)
    (whole : ∀ writer ∈ state.tasks, order.id ∈ opened writer.trace → Whole writer)
    {items : List OrderItem}
    (read : (items.map itemView).Perm (state.store.orderedItems order.id)) :
    (orderView order items).Complete := by
  have complete (nonempty : state.store.orderedItems order.id ≠ [])
      (total : order.totalAmount.val =
        ((state.store.orderedItems order.id).map ItemView.subtotal).sum) :
      (orderView order items).Complete :=
    ⟨fun empty => nonempty (List.perm_nil.mp (empty ▸ read.symm)),
      total.trans (read.map ItemView.subtotal).sum_eq.symm⟩
  rcases documented.records.entered order member with old | ⟨writer, there, opens⟩
  · obtain ⟨nonempty, total⟩ := initially order old
    have same := documented.records.untouched order.id
      (by rw [KeyedTable.get?_complete old]; simp)
    exact complete (by rwa [same]) (by rwa [same])
  · obtain ⟨stored, done, left, found, total, split, nonempty, length, items'⟩ :=
      documented.written there opens
    obtain rfl : order = stored :=
      Option.some.inj ((KeyedTable.get?_complete member).symm.trans found)
    have all : left = [] := by
      have sizes := whole writer there opens
      rw [Whole, length, split, List.length_append] at sizes
      exact List.eq_nil_of_length_eq_zero (by omega)
    rw [all, List.append_nil] at split
    have listed : state.store.orderedItems order.id = done.map CheckoutRow.item := items'
    apply complete
    · rw [listed, ne_eq, List.map_eq_nil_iff, ← split]
      exact nonempty
    · rw [listed, total, split, totalAmount_items]

section Reader

variable {initial : Database} {actions : List (Action Request Choice)} {index : Nat} {task : ShopTask}

/-- What a reader says of an order it has seen, after reading its items, is complete. -/
theorem reader_complete (initially : initial.Complete)
    (reads : server.Along ReadsWhole (Service.idleState initial) actions)
    (present : (server.run (Service.idleState initial) actions).tasks[index]? = some task)
    (reader : task.request.operation.readsOrders = true) {before after : Trace}
    {event : Event Statement Statement.Result} {order : Order} {items : List OrderItem}
    (split : task.trace = before ++ passed (.selectOrderItems order.id) items :: after)
    (recorded : event ∈ before) (seen : order ∈ seenBy event) :
    (orderView order items).Complete := by
  obtain ⟨early, choice, late, earlier, resume, rfl, found, asked, same, program, result⟩ :=
    Service.run_executed present split
  have returned : (execute (.selectOrderItems order.id) choice
      (server.run (Service.idleState initial) early).store).1 = .ok items := result.symm
  have stored := run_seenStored initial early earlier (List.mem_of_getElem? found) event
    (by rwa [same]) order seen
  have works : choice.fails = false := by
    by_contra failing
    rw [execute_fails _ choice _ (by simpa using failing)] at returned
    simp at returned
  have here := ((server.along_append _ _ early _).mp reads).2.1
  have whole := here earlier found (by rwa [asked]) works order.id (by rw [program]; rfl)
  exact (run_documented initial early).complete initially stored whole
    (selectOrderItems_returned returned)

/-- The row a lookup returns has the id asked for. -/
theorem found_id (present : (server.run (Service.idleState initial) actions).tasks[index]? =
      some task) {before after : Trace} {id : String} {order : Order} {others : List Order}
    (split : task.trace = before ++ passed (.selectOrder id) (order :: others) :: after) :
    order.id = id := by
  obtain ⟨early, choice, late, earlier, resume, -, -, -, -, -, result⟩ :=
    Service.run_executed present split
  have returned := selectOrder_returned result.symm
  cases found : (server.run (Service.idleState initial) early).store.orders.get? id with
  | none =>
    rw [found] at returned
    simp at returned
  | some stored =>
    rw [found, Option.toList_some] at returned
    obtain rfl := (List.cons.inj returned).1
    exact (KeyedTable.get?_sound found).2

/-- What a key leads to is listed with it. -/
theorem lookup_listed {entries : List (String × List OrderItem)} {key : String}
    (listed : key ∈ entries.map Prod.fst) :
    ∃ before items after, entries.lookup key = some items ∧
      entries = before ++ (key, items) :: after := by
  induction entries with
  | nil => simp at listed
  | cons entry entries inductionHypothesis =>
    obtain ⟨other, items⟩ := entry
    by_cases same : key = other
    · subst same
      exact ⟨[], items, entries, List.lookup_cons_self, rfl⟩
    · have later : key ∈ entries.map Prod.fst := by simpa [same] using listed
      obtain ⟨before, items', after, found, rfl⟩ := inductionHypothesis later
      have different : (key == other) = false := by simp [same]
      exact ⟨(other, items) :: before, items', after, by
        rw [List.lookup_cons, different]
        exact found, rfl⟩

/-- The pool runs the queries it was given, in its own order, and hands their results back by
position. -/
theorem enqueued (present : (server.run (Service.idleState initial) actions).tasks[index]? =
      some task) {before after : Trace} {orderIds given : List String}
    (split : task.trace = before ++ passed (.enqueueReads given) orderIds :: after) :
    orderIds.Perm given := by
  obtain ⟨early, choice, late, earlier, resume, -, -, -, -, -, result⟩ :=
    Service.run_executed present split
  have returned : (execute (.enqueueReads given) choice
      (server.run (Service.idleState initial) early).store).1 = .ok orderIds := result.symm
  by_cases failing : choice.fails = true
  · rw [execute_fails _ choice _ failing] at returned
    simp at returned
  · have order : reorder choice.order given = orderIds := by
      simpa [execute, Statement.holdsNul, carryOut, failing] using returned
    rw [← order]
    exact reorder_perm _ _

end Reader

/-- Readers see whole orders. In every run from a database whose orders are complete,
in which items are read only when the checkout concerned has inserted all of its
items, every order in an answer 200 has items that add up to its total. -/
theorem readers_see_whole_orders (initial : Database) (initially : initial.Complete)
    (actions : List (Action Request Choice))
    (reads : server.Along ReadsWhole (Service.idleState initial) actions) :
    ∀ task ∈ (server.run (Service.idleState initial) actions).tasks,
      task.request.operation.readsOrders = true → ∀ reply, task.answer? = some reply →
      reply.status = 200 → ∀ view ∈ reply.body.orderViews, view.Complete := by
  intro task member reader reply answered good view inside
  obtain ⟨index, present⟩ := List.mem_iff_getElem?.mp member
  have follows := server.run_traced _ actions (server.idleState_traced initial) task member
  rw [(task.answer_some reply).mp answered] at follows
  cases asked : task.request.operation with
  | getOrders =>
    have path : Follows getOrders task.trace (.answer reply) := by
      simpa [server, handle, asked] using follows
    obtain ⟨rows, orderIds, read, ids, trace, body⟩ := getOrders_answered good path
    rw [body] at inside
    obtain ⟨row, listed, rfl⟩ := List.mem_map.mp inside
    have queued : task.trace = [passed .selectOrders rows] ++
        passed (.enqueueReads (rows.map (·.id))) orderIds :: readTrace read := trace
    have queried := enqueued present queued
    have key : row.id ∈ read.map Prod.fst := by
      rw [ids]
      exact queried.mem_iff.mpr (List.mem_map_of_mem listed)
    obtain ⟨earlier, items, later, found, rfl⟩ := lookup_listed key
    rw [found]
    have split : task.trace = (passed .selectOrders rows ::
        passed (.enqueueReads (rows.map (·.id))) orderIds :: readTrace earlier) ++
          passed (.selectOrderItems row.id) items :: readTrace later := by
      rw [trace]
      simp [readTrace]
    exact reader_complete initially reads present reader split (.head _) listed
  | getOrder orderId =>
    have path : Follows (getOrder orderId) task.trace (.answer reply) := by
      simpa [server, handle, asked] using follows
    obtain ⟨order, others, items, trace, body⟩ := getOrder_answered good path
    rw [body] at inside
    obtain rfl := List.mem_singleton.mp inside
    have looked : task.trace = [] ++ passed (.selectOrder orderId) (order :: others) ::
        [passed (.selectOrderItems orderId) items] := trace
    obtain rfl := found_id present looked
    have split : task.trace = [passed (.selectOrder order.id) (order :: others)] ++
        passed (.selectOrderItems order.id) items :: [] := trace
    exact reader_complete initially reads present reader split (.head _) (.head _)
  | _ => simp [asked, Operation.readsOrders] at reader

/-- A lookup of the first order, which is made while that order is being created. -/
def lookFirstOrder : Request := ⟨none, .getOrder "ORD-1"⟩

/-- A checkout, and a lookup after its last item. -/
def readAfterItems : List (Action Request Choice) :=
  .start (checkout "s") :: statements 0 4 ++ .start lookFirstOrder :: statements 1 2

theorem smartphoneInCart_complete : smartphoneInCart.Complete := by
  intro order member
  have empty : smartphoneInCart.orders.rows = [] := rfl
  simp [empty] at member

set_option maxRecDepth 2000 in
/-- The lookup behind the last insertion of an item returns the whole order. -/
theorem order_read_whole :
    ∃ view, (server.run (Service.idleState smartphoneInCart) readAfterItems).tasks.map
        (fun task => task.answer?) = [none, some ⟨200, .order view⟩] ∧ view.Complete := by
  refine ⟨_, rfl, ?_⟩
  exact readers_see_whole_orders smartphoneInCart smartphoneInCart_complete readAfterItems (by decide) _
    (List.mem_of_getElem? (i := 1) rfl) rfl _ rfl rfl _ (.head _)

/-- A checkout, and a lookup after its order row. -/
def readBeforeItems : List (Action Request Choice) :=
  .start (checkout "s") :: statements 0 3 ++ .start lookFirstOrder :: statements 1 2

/-- A checkout whose item is lost with the connection, and a lookup after that. -/
def readAfterFailure : List (Action Request Choice) :=
  .start (checkout "s") :: statements 0 3 ++ .proceed 0 { Choice.plain with fails := true } ::
    .start lookFirstOrder :: statements 1 2

set_option maxRecDepth 2000 in
/-- Both see an order of one smartphone's price without an item, since its row is stored
before its items are. -/
theorem order_read_without_items :
    (∃ view, (server.run (Service.idleState smartphoneInCart) readBeforeItems).tasks.map
        (fun task => task.answer?) = [none, some ⟨200, .order view⟩] ∧
      view.totalAmount = 59999 ∧ view.items = []) ∧
    ∃ view, (server.run (Service.idleState smartphoneInCart) readAfterFailure).tasks.map
        (fun task => task.answer?) = [some invalidBody, some ⟨200, .order view⟩] ∧
      view.totalAmount = 59999 ∧ view.items = [] := by
  refine ⟨⟨_, rfl, ?_, ?_⟩, _, rfl, ?_, ?_⟩ <;> rfl

end ShoppingCS.Shop
