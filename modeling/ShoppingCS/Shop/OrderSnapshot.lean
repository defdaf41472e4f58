import ShoppingCS.Shop.OrderNumbers
import ShoppingCS.Shop.OrderRecords

/-!
# What a created order says

A checkout reads its order back after its last insertion, row and items by two
statements. In between other requests may create orders of their own, but nobody
else inserts under its id. So the answer 201 says what the cart query has returned,
item by item, and the total is the sum of what the items say.
-/

namespace ShoppingCS.Shop

open Interleaving Storage Program

/-- The item of a response for a row of the cart. -/
def CheckoutRow.item (row : CheckoutRow) : ItemView :=
  { productId := row.productId
    productName := row.name
    productPrice := row.price.val
    quantity := row.quantity.val
    subtotal := row.price.val * row.quantity.val }

/-- The total is what the items add up to. -/
theorem totalAmount_items (rows : List CheckoutRow) :
    totalAmount rows = ((rows.map CheckoutRow.item).map ItemView.subtotal).sum := by
  rw [totalAmount_eq_sum, List.map_map]
  rfl

section Answer

variable {sessionId : String} {body : OrderBody} {trace : Trace} {program : Handler}

/-- A checkout answered 201 has executed all of its statements, and answers with what
the last two have returned. -/
theorem checkout_created (point : CheckoutAt sessionId body trace program) {reply : Reply}
    (answer : program = .answer reply) (created : reply.status = 201) :
    ∃ rows nextId customer count done deleted order orders items, rows ≠ [] ∧
      body = .fields customer ∧ rows = done.map Prod.fst ∧
      reply = ⟨201, .order (orderView order items)⟩ ∧
      trace = openingTrace sessionId rows nextId customer count ++ itemTrace nextId done ++
        [passed (.deleteCart sessionId) deleted,
          passed (.selectOrder (orderIdOf nextId)) (order :: orders),
          passed (.selectOrderItems (orderIdOf nextId)) items] := by
  have ended := congrArg pending? answer
  cases point with
  | asked parsed => simp [postOrders, parsed] at ended
  | counting rows nonempty => simp [numberOrder] at ended
  | ordering rows nonempty nextId customer given => simp [placeOrder] at ended
  | inserting rows nonempty nextId customer given count done rest split =>
    cases rest <;> simp [insertItems, finishOrder] at ended
  | cleared => simp at ended
  | reread => simp [sendOrder] at ended
  | abandoned =>
    obtain rfl := Program.answer.inj answer
    exact absurd created (by decide)
  | unread =>
    obtain rfl := Program.answer.inj answer
    exact absurd created (by decide)
  | refused _ other status idle fault =>
    obtain rfl := Program.answer.inj answer
    exact absurd created status
  | answered rows nonempty nextId customer given count done all deleted order orders items =>
    obtain rfl := Program.answer.inj answer
    exact ⟨rows, nextId, customer, count, done, deleted, order, orders, items, nonempty, given, all,
      rfl, rfl⟩

/-- The entries of a trace with all of its items. -/
theorem entries_of_whole (sessionId : String) (rows : List CheckoutRow) (nextId : Nat)
    (customer : CustomerFields) (count : Nat) {done : List (CheckoutRow × Nat)}
    (all : rows = done.map Prod.fst) (later : Trace) (opens : opened later = [])
    (inserts : inserted later = []) (reads : readRows later = []) :
    opened (openingTrace sessionId rows nextId customer count ++ itemTrace nextId done ++ later) =
        [orderIdOf nextId] ∧
      inserted (openingTrace sessionId rows nextId customer count ++ itemTrace nextId done ++
        later) = rows.map (newOrderItem nextId) ∧
      readRows (openingTrace sessionId rows nextId customer count ++ itemTrace nextId done ++
        later) = rows := by
  obtain ⟨itemOpens, itemInserts, itemReads, -⟩ := itemTrace_books nextId done
  refine ⟨?_, ?_, ?_⟩
  · rw [opened_append, opened_append, itemOpens, opens]
    rfl
  · rw [inserted_append, inserted_append, itemInserts, inserts, List.append_nil, ← all]
    rfl
  · rw [readRows_append, readRows_append, itemReads, reads, List.append_nil, List.append_nil]
    exact List.append_nil rows

end Answer

/-- A lookup of an order that returns has returned the stored row. -/
theorem selectOrder_returned {id : String} {choice : Choice} {database : Database}
    {orders : List Order} (returned : (execute (.selectOrder id) choice database).1 = .ok orders) :
    orders = (database.orders.get? id).toList := by
  by_cases failing : choice.fails = true
  · rw [execute_fails _ choice database failing] at returned
    simp at returned
  · have rows : (execute (.selectOrder id) choice database).1 =
        .ok (database.orders.get? id).toList :=
    congrArg Prod.fst (execute_works (Bool.eq_false_iff.mpr failing) rfl _)
    exact (Except.ok.inj (rows.symm.trans returned)).symm

/-- A lookup of items that returns has returned the stored ones, in some order. -/
theorem selectOrderItems_returned {id : String} {choice : Choice} {database : Database}
    {items : List OrderItem}
    (returned : (execute (.selectOrderItems id) choice database).1 = .ok items) :
    (items.map itemView).Perm (database.orderedItems id) := by
  by_cases failing : choice.fails = true
  · rw [execute_fails _ choice database failing] at returned
    simp at returned
  · have rows : (execute (.selectOrderItems id) choice database).1 =
        .ok (reorder choice.order (database.orderItems.filter
          (fun item => decide (item.orderId = id)))) :=
    congrArg Prod.fst (execute_works (Bool.eq_false_iff.mpr failing) rfl _)
    rw [← Except.ok.inj (rows.symm.trans returned)]
    exact (reorder_perm _ _).map itemView

section Reread

variable {initial : Database} {actions : List (Action Request Choice)} {index : Nat} {task : ShopTask}
  {rows : List CheckoutRow} {nextId : Nat} {customer : CustomerFields} {count deleted : Nat}
  {done : List (CheckoutRow × Nat)} {order : Order} {others : List Order} {items : List OrderItem}

/-- The row a checkout reads back is its own. -/
theorem reread_order (sessionId : String)
    (present : (server.run (Service.idleState initial) actions).tasks[index]? = some task)
    (all : rows = done.map Prod.fst) {later : Trace}
    (split : task.trace = (openingTrace sessionId rows nextId customer count ++
      itemTrace nextId done ++ [passed (.deleteCart sessionId) deleted]) ++
        passed (.selectOrder (orderIdOf nextId)) (order :: others) :: later) :
    order.id = orderIdOf nextId ∧ order.totalAmount.val = totalAmount rows := by
  obtain ⟨early, choice, late, earlier, resume, -, found, -, before, -, result⟩ :=
    Service.run_executed present split
  have documented := run_documented initial early
  obtain ⟨opens, -, reads⟩ := entries_of_whole sessionId rows nextId customer count all
    [passed (.deleteCart sessionId) deleted] rfl rfl rfl
  rw [← before] at opens reads
  have opened : orderIdOf nextId ∈ opened earlier.trace := by simp [opens]
  obtain ⟨stored, -, -, there, total, -⟩ :=
    documented.written (List.mem_of_getElem? found) opened
  have returned := selectOrder_returned result.symm
  rw [there, Option.toList_some] at returned
  obtain rfl : order = stored := (List.cons.inj returned).1
  exact ⟨(KeyedTable.get?_sound there).2, by rw [total, reads]⟩

/-- The items it reads back are those of the cart. -/
theorem reread_items (sessionId : String)
    (present : (server.run (Service.idleState initial) actions).tasks[index]? = some task)
    (all : rows = done.map Prod.fst) {later : Trace}
    (split : task.trace = (openingTrace sessionId rows nextId customer count ++
      itemTrace nextId done ++ [passed (.deleteCart sessionId) deleted,
        passed (.selectOrder (orderIdOf nextId)) (order :: others)]) ++
          passed (.selectOrderItems (orderIdOf nextId)) items :: later) :
    (items.map itemView).Perm (rows.map CheckoutRow.item) := by
  obtain ⟨early, choice, late, earlier, resume, -, found, -, before, -, result⟩ :=
    Service.run_executed present split
  have documented := run_documented initial early
  obtain ⟨opens, inserts, -⟩ := entries_of_whole sessionId rows nextId customer count all
    [passed (.deleteCart sessionId) deleted,
      passed (.selectOrder (orderIdOf nextId)) (order :: others)] rfl rfl rfl
  rw [← before] at opens inserts
  have returned := selectOrderItems_returned result.symm
  rw [documented.items earlier (List.mem_of_getElem? found) _ (by simp [opens]), inserts,
    List.map_map] at returned
  exact returned

/-- A checkout has read these rows, has entered an order of them and has read it back. -/
structure Snapshot (task : ShopTask) (store : Database) (rows : List CheckoutRow) (order : Order)
    (items : List OrderItem) : Prop where
  read : passed (.selectCheckout (sessionOf task)) rows ∈ task.trace
  alone : readRows task.trace = rows
  nonempty : rows ≠ []
  opens : opened task.trace = [order.id]
  reread : ∃ others, passed (.selectOrder order.id) (order :: others) ∈ task.trace
  total : order.totalAmount.val = totalAmount rows
  listed : (items.map itemView).Perm (rows.map CheckoutRow.item)
  stored : store.orderedItems order.id = rows.map CheckoutRow.item

/-- So has every checkout that is answered 201, and it answers with this order. -/
theorem created_snapshot {reply : Reply}
    (present : (server.run (Service.idleState initial) actions).tasks[index]? = some task)
    (checkout : IsCheckout task.request.operation) (answered : task.answer? = some reply)
    (created : reply.status = 201) :
    ∃ rows order items, reply = ⟨201, .order (orderView order items)⟩ ∧
      Snapshot task (server.run (Service.idleState initial) actions).store rows order items := by
  have documented := run_documented initial actions
  have member := List.mem_of_getElem? present
  obtain ⟨body, orders⟩ := checkout.body
  obtain ⟨rows, nextId, customer, count, done, deleted, order, others, items, nonempty, -, all, rfl,
    trace⟩ := checkout_created (task_checkout documented.traced member orders)
      ((task.answer_some reply).mp answered) created
  obtain ⟨opens, inserts, reads⟩ := entries_of_whole (sessionOf task) rows nextId customer count all
    [passed (.deleteCart (sessionOf task)) deleted,
      passed (.selectOrder (orderIdOf nextId)) (order :: others),
      passed (.selectOrderItems (orderIdOf nextId)) items] rfl rfl rfl
  rw [← trace] at opens inserts reads
  obtain ⟨named, total⟩ := reread_order (sessionOf task) present all
    (trace.trans (List.append_assoc _ [_] _).symm)
  have listed := reread_items (sessionOf task) present all
    (trace.trans (List.append_assoc _ [_, _] _).symm)
  have stored : (server.run (Service.idleState initial) actions).store.orderedItems
      (orderIdOf nextId) = rows.map CheckoutRow.item := by
    rw [documented.items task member _ (by simp [opens]), inserts, List.map_map]
    rfl
  rw [← named] at opens stored trace
  refine ⟨rows, order, items, rfl, ?_, reads, nonempty, opens, ⟨others, ?_⟩, total, listed, stored⟩
  · rw [trace]
    exact .head _
  · rw [trace]
    simp

end Reread

/-- An order answered 201 is an exact snapshot. In every run, a checkout answered 201
returns one item for each row of the cart it has read, each with price times quantity
as its subtotal, and their sum as the total; so they are stored under the order, and
no other request inserts under it. -/
theorem created_order_exact (initial : Database) (actions : List (Action Request Choice))
    (index : Nat) (task : ShopTask)
    (present : (server.run (Service.idleState initial) actions).tasks[index]? = some task)
    (checkout : IsCheckout task.request.operation) (reply : Reply)
    (answered : task.answer? = some reply) (created : reply.status = 201) :
    ∃ rows view, passed (.selectCheckout (sessionOf task)) rows ∈ task.trace ∧
      readRows task.trace = rows ∧ rows ≠ [] ∧ reply.body = .order view ∧
      view.items.Perm (rows.map CheckoutRow.item) ∧
      (∀ item ∈ view.items, item.subtotal = item.productPrice * item.quantity) ∧
      view.totalAmount = (view.items.map ItemView.subtotal).sum ∧
      view.items.Perm ((server.run (Service.idleState initial) actions).store.orderedItems view.id) ∧
      ∀ other task', (server.run (Service.idleState initial) actions).tasks[other]? = some task' →
        other ≠ index → ∀ row ∈ inserted task'.trace, row.orderId ≠ view.id := by
  obtain ⟨rows, order, items, rfl, snapshot⟩ := created_snapshot present checkout answered created
  refine ⟨rows, orderView order items, snapshot.read, snapshot.alone, snapshot.nonempty, rfl,
    snapshot.listed, ?_, ?_, ?_, ?_⟩
  · intro item inside
    obtain ⟨row, -, rfl⟩ := List.mem_map.mp (snapshot.listed.mem_iff.mp inside)
    rfl
  · exact snapshot.total.trans ((totalAmount_items rows).trans
      (snapshot.listed.map ItemView.subtotal).sum_eq.symm)
  · exact snapshot.stored ▸ snapshot.listed
  · intro other task' there different row inside named
    have documented := run_documented initial actions
    have opens := inserted_opened documented.traced (List.mem_of_getElem? there) inside
    rw [named] at opens
    refine different (documented.books.owned other index task' task there present _ opens ?_)
    rw [snapshot.opens]
    exact List.mem_singleton_self _

set_option maxRecDepth 2000 in
/-- Two checkouts in turn; the answer of the second one is such a snapshot. -/
theorem second_order_exact :
    ∃ task, (server.run (Service.idleState twoCarts) countsInTurn).tasks[1]? = some task ∧
      ∃ rows view, passed (.selectCheckout (sessionOf task)) rows ∈ task.trace ∧
        readRows task.trace = rows ∧ rows ≠ [] ∧
        task.answer? = some ⟨201, .order view⟩ ∧ view.items.Perm (rows.map CheckoutRow.item) := by
  refine ⟨_, rfl, ?_⟩
  obtain ⟨rows, view, read, reads, nonempty, body, listed, -⟩ := created_order_exact twoCarts
    countsInTurn 1 _ rfl rfl _ rfl rfl
  exact ⟨rows, view, read, reads, nonempty, by rw [← body]; rfl, listed⟩

end ShoppingCS.Shop
