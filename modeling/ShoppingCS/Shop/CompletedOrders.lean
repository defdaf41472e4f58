import ShoppingCS.Shop.OrderReads

/-!
# Completed orders stay as they are

An order that has been answered 201 has its row and all of its items in the
database. Rows are never changed, and nobody else inserts under its id, so every
request that starts later reads the same row and the same items. What it makes of
them is what the checkout has made of them.
-/

namespace ShoppingCS.Shop

open Interleaving Storage Program

/-- The same order, up to the order of its items. -/
structure OrderView.Same (left right : OrderView) : Prop where
  head : { left with items := [] } = { right with items := [] }
  items : left.items.Perm right.items

/-- How a reader that is asked for the order answers: with the order, or with a
listing that has it exactly once. -/
def OrderView.ReturnedBy (view : OrderView) : Operation → Reply → Prop
  | .getOrder id, reply => id = view.id →
      ∃ again : OrderView, reply = ⟨200, .order again⟩ ∧ again.Same view
  | .getOrders, reply => ∃ front back, ∃ again : OrderView,
      reply = ⟨200, .orders (front ++ again :: back)⟩ ∧ again.Same view ∧
        ∀ other ∈ front ++ back, OrderView.id other ≠ view.id
  | _, _ => True

section Finishing

/-- A query finishes when everything after it does, for its rows as for its error. -/
theorem finishes_query {rejected : Reply} {statement : Statement} {next : statement.Rows → Handler}
    (later : ∀ rows, (next rows).Finishes) : (query rejected statement next).Finishes := by
  rintro (error | rows)
  · exact finishes_answer _
  · exact later rows

/-- The item queries finish, by induction on the orders that are left. -/
theorem finishes_readItems (orderIds : List String) (found : List (String × List OrderItem))
    (next : List (String × List OrderItem) → Handler) (later : ∀ found, (next found).Finishes) :
    (readItems orderIds found next).Finishes := by
  induction orderIds generalizing found with
  | nil => exact later found
  | cons orderId orderIds inductionHypothesis => exact finishes_query (fun _ => inductionHypothesis _)

/-- The requests that read orders finish, whatever the database returns to them. -/
theorem finishes_reader {request : Request} (reader : request.operation.readsOrders = true) :
    (handle request).Finishes := by
  unfold handle
  cases operation : request.operation with
  | getOrders =>
    exact finishes_query (fun rows => finishes_query (fun orderIds =>
      finishes_readItems orderIds [] _ (fun _ => finishes_answer _)))
  | getOrder orderId =>
    apply finishes_query
    intro orders
    split
    · exact finishes_answer _
    · exact finishes_query (fun _ => finishes_answer _)
  | _ => simp [operation, Operation.readsOrders] at reader

/-- They ask for nothing that a client could have spoiled with U+0000. -/
theorem issues_taken {request : Request} (reader : request.operation.readsOrders = true) :
    (handle request).Issues (fun statement => statement.holdsNul = false) := by
  unfold handle
  cases operation : request.operation with
  | getOrders =>
    refine issues_query.mpr ⟨rfl, fun rows => issues_query.mpr ⟨rfl, fun orderIds => ?_⟩⟩
    exact issues_readItems (fun _ => rfl) _ _ _ (fun _ => issues_answer _ _)
  | getOrder orderId =>
    refine issues_query.mpr ⟨rfl, ?_⟩
    intro orders
    split
    · exact issues_answer _ _
    · exact issues_query.mpr ⟨rfl, fun _ => issues_answer _ _⟩
  | _ => simp [operation, Operation.readsOrders] at reader

end Finishing

section Paths

/-- No statement of the trace has failed, which is the assumption about the connection of a
reader. -/
def Unfailed (trace : Trace) : Prop := ∀ statement error, failed statement error ∉ trace

theorem Unfailed.tail {event : Event Statement Statement.Result} {trace : Trace}
    (unfailed : Unfailed (event :: trace)) : Unfailed trace :=
  fun statement error member => unfailed statement error (List.mem_cons_of_mem _ member)

/-- In an unfailed trace a query has returned rows, and what follows it has gone on with them.
-/
theorem follows_query_unfailed {rejected : Reply} {statement : Statement}
    {next : statement.Rows → Handler} {trace : Trace} {reply : Reply} (unfailed : Unfailed trace)
    (follows : Follows (query rejected statement next) trace (.answer reply)) :
    ∃ rows later, trace = passed statement rows :: later ∧
      Follows (next rows) later (.answer reply) := by
  rcases (follows_query _ _ _ _ _).mp follows with
    ⟨rfl, same⟩ | ⟨error, rfl, same⟩ | ⟨rows, later, rfl, tail⟩
  · exact absurd same (by simp [query])
  · exact absurd List.mem_cons_self (unfailed statement error)
  · exact ⟨rows, later, rfl, tail⟩

/-- Without a failure the item queries lead on to what follows them, by induction on the
orders that are left. -/
theorem readItems_unfailed {orderIds : List String} {found : List (String × List OrderItem)}
    {next : List (String × List OrderItem) → Handler} {trace : Trace} {reply : Reply}
    (unfailed : Unfailed trace)
    (follows : Follows (readItems orderIds found next) trace (.answer reply)) :
    ∃ found later, Follows (next found) later (.answer reply) := by
  induction orderIds generalizing found trace with
  | nil => exact ⟨found, trace, follows⟩
  | cons orderId orderIds inductionHypothesis =>
    obtain ⟨items, later, rfl, tail⟩ := follows_query_unfailed unfailed follows
    exact inductionHypothesis unfailed.tail tail

/-- A listing without a failure is answered 200, with the orders its first statement has
returned. -/
theorem getOrders_unfailed {trace : Trace} {reply : Reply} (unfailed : Unfailed trace)
    (follows : Follows getOrders trace (.answer reply)) : reply.status = 200 := by
  obtain ⟨rows, later, rfl, tail⟩ := follows_query_unfailed unfailed follows
  obtain ⟨orderIds, later, rfl, reading⟩ := follows_query_unfailed unfailed.tail tail
  obtain ⟨found, later, answering⟩ := readItems_unfailed unfailed.tail.tail reading
  rw [← Program.answer.inj ((follows_answer _ _ _).mp answering).2.symm]

/-- A lookup without a failure has found no row, or is answered 200. -/
theorem getOrder_unfailed {orderId : String} {trace : Trace} {reply : Reply}
    (unfailed : Unfailed trace) (follows : Follows (getOrder orderId) trace (.answer reply)) :
    trace = [passed (.selectOrder orderId) []] ∨ reply.status = 200 := by
  obtain ⟨orders, later, rfl, tail⟩ := follows_query_unfailed unfailed follows
  cases orders with
  | nil =>
    obtain ⟨rfl, -⟩ := (follows_answer _ _ _).mp tail
    exact Or.inl rfl
  | cons order others =>
    obtain ⟨items, later, rfl, answering⟩ := follows_query_unfailed unfailed.tail tail
    rw [← Program.answer.inj ((follows_answer _ _ _).mp answering).2.symm]
    exact Or.inr rfl

end Paths

section Creator

variable {initial : Database} {actions : List (Action Request Choice)} {index : Nat} {task : ShopTask}
  {reply : Reply}

/-- An order that was answered 201 is stored with its items. -/
theorem created_stored
    (present : (server.run (Service.idleState initial) actions).tasks[index]? = some task)
    (checkout : IsCheckout task.request.operation) (answered : task.answer? = some reply)
    (created : reply.status = 201) :
    ∃ order items, reply = ⟨201, .order (orderView order items)⟩ ∧
      order ∈ (server.run (Service.idleState initial) actions).store.orders.rows ∧
      (items.map itemView).Perm
        ((server.run (Service.idleState initial) actions).store.orderedItems order.id) := by
  obtain ⟨rows, order, items, rfl, snapshot⟩ := created_snapshot present checkout answered created
  obtain ⟨others, reread⟩ := snapshot.reread
  refine ⟨order, items, rfl, ?_, ?_⟩
  · exact run_seenStored initial actions task (List.mem_of_getElem? present) _ reread order (.head _)
  · rw [snapshot.stored]
    exact snapshot.listed

/-- Once a checkout has created an order the order stays as it is, whatever comes later. -/
theorem created_later
    (present : (server.run (Service.idleState initial) actions).tasks[index]? = some task)
    (checkout : IsCheckout task.request.operation) (answered : task.answer? = some reply)
    (created : reply.status = 201) :
    ∃ order items, reply = ⟨201, .order (orderView order items)⟩ ∧
      ∀ middle, order ∈ (server.run (Service.idleState initial) (actions ++ middle)).store.orders.rows ∧
        (items.map itemView).Perm ((server.run (Service.idleState initial)
          (actions ++ middle)).store.orderedItems order.id) := by
  obtain ⟨order, items, rfl, stored, -⟩ := created_stored present checkout answered created
  refine ⟨order, items, rfl, fun middle => ⟨?_, ?_⟩⟩
  · rw [Service.run_append]
    exact (run_orders_grow _ middle).subset stored
  · have there : (server.run (Service.idleState initial) (actions ++ middle)).tasks[index]? =
        some task := by
      rw [Service.run_append]
      exact Service.run_keeps_answer middle present (by simp [answered])
    obtain ⟨other, items', same, -, listed⟩ := created_stored there checkout answered created
    have view := Body.order.inj (Reply.mk.inj same).2
    have named : order.id = other.id := congrArg OrderView.id view
    have shown : items.map itemView = items'.map itemView := congrArg OrderView.items view
    rw [named, shown]
    exact listed

end Creator

/-- A listing that returns has returned all rows, in some order. -/
theorem selectOrders_returned {choice : Choice} {database : Database} {rows : List Order}
    (returned : (execute .selectOrders choice database).1 = .ok rows) :
    rows.Perm database.orders.rows := by
  by_cases failing : choice.fails = true
  · rw [execute_fails _ choice database failing] at returned
    simp at returned
  · have listed : (execute .selectOrders choice database).1 =
        .ok ((reorder choice.order database.orders.rows).mergeSort
          (fun first second => decide (second.createdAt ≤ first.createdAt))) :=
      congrArg Prod.fst (execute_works (Bool.eq_false_iff.mpr failing) rfl _)
    rw [← Except.ok.inj (listed.symm.trans returned)]
    exact (List.mergeSort_perm _ _).trans (reorder_perm _ _)

/-- A row with a key of its own stands in one place. -/
theorem rows_split {database : Database} {rows : List Order} (listed : rows.Perm database.orders.rows)
    {order : Order} (stored : order ∈ database.orders.rows) :
    ∃ front back, rows = front ++ order :: back ∧ ∀ other ∈ front ++ back, other.id ≠ order.id := by
  obtain ⟨front, back, rfl⟩ := List.append_of_mem (listed.mem_iff.mpr stored)
  refine ⟨front, back, rfl, ?_⟩
  intro other inside same
  have unique : ((front ++ order :: back).map Order.id).Nodup :=
    (listed.map Order.id).nodup_iff.mpr database.orders.unique
  rw [(List.perm_middle.map Order.id).nodup_iff, List.map_cons, List.nodup_cons] at unique
  exact unique.1 (same ▸ List.mem_map_of_mem inside)

section Reader

variable {initial : Database} {before after : List (Action Request Choice)} {request : Request}
  {task : ShopTask}

/-- A statement of a request that starts after some actions is executed on what these
and some later ones have left. -/
theorem executed_later
    (present : (server.run (Service.idleState initial)
      (before ++ .start request :: after)).tasks[(server.run (Service.idleState initial)
        before).tasks.length]? = some task)
    (works : ∀ choice, .proceed (server.run (Service.idleState initial) before).tasks.length choice ∈
      after → choice.fails = false)
    {front back : Trace} {event : Event Statement Statement.Result}
    (split : task.trace = front ++ event :: back) :
    ∃ middle choice, choice.fails = false ∧ event.result = (execute event.command choice
      (server.run (Service.idleState initial) (before ++ middle)).store).1 := by
  obtain ⟨early, choice, late, earlier, resume, cut, found, -, -, -, result⟩ :=
    Service.run_executed present split
  rcases List.append_eq_append_iff.mp cut with ⟨middle, rfl, rest⟩ | ⟨middle, ended, rest⟩
  · cases middle with
    | nil => exact absurd (List.cons.inj rest).1 (by simp)
    | cons first middle =>
      obtain ⟨-, rest⟩ := List.cons.inj rest
      refine ⟨first :: middle, choice, works choice ?_, result⟩
      rw [rest]
      simp
  · obtain ⟨next, there, -⟩ := Service.run_extends middle found
    rw [← Service.run_append, ← ended] at there
    have inside := (List.getElem?_eq_some_iff.mp there).1
    omega

/-- As long as its connection works, no statement of a reader fails. -/
theorem reader_unfailed (reader : request.operation.readsOrders = true)
    (present : (server.run (Service.idleState initial)
      (before ++ .start request :: after)).tasks[(server.run (Service.idleState initial)
        before).tasks.length]? = some task)
    (asked : task.request = request)
    (works : ∀ choice, .proceed (server.run (Service.idleState initial) before).tasks.length choice ∈
      after → choice.fails = false) : Unfailed task.trace := by
  intro statement error member
  have traced := server.run_traced _ (before ++ .start request :: after)
    (server.idleState_traced initial) task (List.mem_of_getElem? present)
  have reads : (handle task.request).Issues Statement.Reads := by
    refine issues_reads _ ?_ ?_ <;>
      (rw [asked]; cases operation : request.operation <;>
        simp [operation, Operation.readsOrders, Operation.updatesCart, Operation.isCheckout] at reader ⊢)
  obtain ⟨cart, orders⟩ := (reads.follows traced).1 _ member
  have taken := ((issues_taken (asked ▸ reader)).follows traced).1 _ member
  obtain ⟨front, back, split⟩ := List.append_of_mem member
  obtain ⟨middle, choice, working, result⟩ := executed_later present works split
  obtain ⟨rows, returned⟩ := execute_reads (server.run (Service.idleState initial)
    (before ++ middle)).store working taken cart orders
  exact absurd (result.trans returned) (by simp [failed])

end Reader

section Answers

variable {initial : Database} {before after : List (Action Request Choice)} {request : Request}
  {task : ShopTask} {order : Order} {items : List OrderItem}
  (present : (server.run (Service.idleState initial)
    (before ++ .start request :: after)).tasks[(server.run (Service.idleState initial)
      before).tasks.length]? = some task)
  (works : ∀ choice, .proceed (server.run (Service.idleState initial) before).tasks.length choice ∈
    after → choice.fails = false)
  (stored : ∀ middle,
    order ∈ (server.run (Service.idleState initial) (before ++ middle)).store.orders.rows ∧
      (items.map itemView).Perm ((server.run (Service.idleState initial)
        (before ++ middle)).store.orderedItems order.id))

include present works stored

/-- What a later reader makes of the order's row and items is the order. -/
theorem reread_same {front back : Trace} {found : List OrderItem}
    (split : task.trace = front ++ passed (.selectOrderItems order.id) found :: back) :
    (orderView order found).Same (orderView order items) := by
  obtain ⟨middle, choice, -, result⟩ := executed_later present works split
  exact ⟨rfl, (selectOrderItems_returned result.symm).trans (stored middle).2.symm⟩

/-- A lookup of the order that starts later returns it. -/
theorem getOrder_later (asked : task.request.operation = .getOrder order.id)
    (unfailed : Unfailed task.trace) {reply : Reply} (answered : task.answer? = some reply) :
    ∃ again : OrderView, reply = ⟨200, .order again⟩ ∧ again.Same (orderView order items) := by
  have follows := server.run_traced _ _ (server.idleState_traced initial) task
    (List.mem_of_getElem? present)
  have path : Follows (getOrder order.id) task.trace (.answer reply) := by
    rw [(task.answer_some reply).mp answered] at follows
    simpa [server, handle, asked] using follows
  have looked {orders : List Order} {back : Trace}
      (split : task.trace = [] ++ passed (.selectOrder order.id) orders :: back) :
      orders = [order] := by
    obtain ⟨middle, choice, -, result⟩ := executed_later present works split
    rw [selectOrder_returned result.symm, KeyedTable.get?_complete (stored middle).1]
    rfl
  cases getOrder_unfailed unfailed path with
  | inl trace => exact absurd (looked trace) (by simp)
  | inr good =>
    obtain ⟨row, others, found, trace, body⟩ := getOrder_answered good path
    obtain ⟨rfl, -⟩ := List.cons.inj (looked trace)
    have cut : task.trace = [passed (.selectOrder row.id) (row :: others)] ++
        passed (.selectOrderItems row.id) found :: [] := trace
    refine ⟨orderView row found, ?_, reread_same present works stored cut⟩
    rw [← good, ← body]

/-- A listing that starts after the answer of the checkout has its order exactly once, because
the ids are keys. -/
theorem getOrders_later (asked : task.request.operation = .getOrders)
    (unfailed : Unfailed task.trace) {reply : Reply} (answered : task.answer? = some reply) :
    ∃ front back, ∃ again : OrderView, reply = ⟨200, .orders (front ++ again :: back)⟩ ∧
      again.Same (orderView order items) ∧ ∀ other ∈ front ++ back, OrderView.id other ≠ order.id := by
  have follows := server.run_traced _ _ (server.idleState_traced initial) task
    (List.mem_of_getElem? present)
  have path : Follows getOrders task.trace (.answer reply) := by
    rw [(task.answer_some reply).mp answered] at follows
    simpa [server, handle, asked] using follows
  have good := getOrders_unfailed unfailed path
  obtain ⟨rows, orderIds, read, ids, trace, body⟩ := getOrders_answered good path
  have selected : task.trace = [] ++ passed .selectOrders rows ::
      (passed (.enqueueReads (rows.map (·.id))) orderIds :: readTrace read) := trace
  obtain ⟨middle, choice, -, result⟩ := executed_later present works selected
  have listed := selectOrders_returned result.symm
  obtain ⟨front, back, split, others⟩ := rows_split listed (stored middle).1
  have queued : task.trace = [passed .selectOrders rows] ++
      passed (.enqueueReads (rows.map (·.id))) orderIds :: readTrace read := trace
  have key : order.id ∈ read.map Prod.fst := by
    rw [ids]
    refine (enqueued present queued).mem_iff.mpr (List.mem_map_of_mem ?_)
    rw [split]
    simp
  obtain ⟨earlier, found, later, looked, cut⟩ := lookup_listed key
  have same : (orderView order found).Same (orderView order items) := by
    have reread : task.trace = (passed .selectOrders rows ::
        passed (.enqueueReads (rows.map (·.id))) orderIds :: readTrace earlier) ++
          passed (.selectOrderItems order.id) found :: readTrace later := by
      rw [trace, cut]
      simp [readTrace]
    exact reread_same present works stored reread
  let shown (row : Order) : OrderView := orderView row ((read.lookup row.id).getD [])
  have view : shown order = orderView order found := by simp only [shown, looked, Option.getD_some]
  refine ⟨front.map shown, back.map shown, orderView order found, ?_, same, ?_⟩
  · rw [← view, ← List.map_cons, ← List.map_append, ← split, ← good, ← body]
  · intro other inside
    rw [← List.map_append] at inside
    obtain ⟨row, member, rfl⟩ := List.mem_map.mp inside
    exact others row member

end Answers

/-- Completed orders do not change, and all readers agree. In every run, after a
checkout has been answered 201 with an order, every lookup of this order and every
listing of the orders that starts later, and whose own statements do not lose the
connection, returns the order as it was, up to the order of its items, the listing
exactly once. It does answer, after some steps of its own. -/
theorem completed_orders_stay (initial : Database) (before after : List (Action Request Choice))
    (index : Nat) (task : ShopTask)
    (present : (server.run (Service.idleState initial) before).tasks[index]? = some task)
    (checkout : IsCheckout task.request.operation) (view : OrderView)
    (answered : task.answer? = some ⟨201, .order view⟩) (request : Request)
    (reads : request.operation.readsOrders = true)
    (works : ∀ choice, .proceed (server.run (Service.idleState initial) before).tasks.length choice ∈
      after → choice.fails = false) :
    ∃ reader, (server.run (Service.idleState initial)
        (before ++ .start request :: after)).tasks[(server.run (Service.idleState initial)
          before).tasks.length]? = some reader ∧
      (∀ reply, reader.answer? = some reply → view.ReturnedBy request.operation reply) ∧
      ∃ count last, (server.run (Service.idleState initial)
          (before ++ .start request :: after ++ statements
            (server.run (Service.idleState initial) before).tasks.length count)).tasks[(server.run
              (Service.idleState initial) before).tasks.length]? = some last ∧
        last.answer?.isSome := by
  obtain ⟨order, items, same, stored⟩ := created_later present checkout answered rfl
  obtain rfl : view = orderView order items := Body.order.inj (Reply.mk.inj same).2
  have begun : (server.run (Service.idleState initial) (before ++ [.start request])).tasks[(server.run
      (Service.idleState initial) before).tasks.length]? = some (server.accept request) := by
    rw [Service.run_append]
    simp [Service.run, Service.step]
  obtain ⟨reader, there, asked, -⟩ := Service.run_extends after begun
  rw [← Service.run_append, List.append_assoc, List.singleton_append] at there
  replace asked : reader.request = request := asked
  refine ⟨reader, there, ?_, ?_⟩
  · intro reply answer
    have unfailed := reader_unfailed reads there asked works
    unfold OrderView.ReturnedBy
    cases operation : request.operation with
    | getOrder id =>
      rintro rfl
      exact getOrder_later there works stored (by rw [asked, operation]; rfl) unfailed answer
    | getOrders => exact getOrders_later there works stored (by rw [asked, operation]) unfailed answer
    | _ => trivial
  · have traced := server.run_traced _ (before ++ .start request :: after)
      (server.idleState_traced initial) reader (List.mem_of_getElem? there)
    have finishes : (server.handler reader.request).Finishes := by
      rw [asked]
      exact finishes_reader reads
    obtain ⟨count, last, found, -, ends⟩ :=
      Service.run_completes there (finishes.follows traced) Choice.plain
    refine ⟨count, last, ?_, ends⟩
    rw [Service.run_append]
    exact found

/-- A checkout that is accepted and executes its seven statements on a working connection. -/
def completeCheckout : List (Action Request Choice) := .start (checkout "s") :: statements 0 7

set_option maxRecDepth 2000 in
/-- A lookup of the first order after it has been completed. -/
theorem first_order_stays :
    ∃ view again : OrderView,
      (server.run (Service.idleState smartphoneInCart) (completeCheckout ++
        .start lookFirstOrder :: statements 1 2)).tasks.map (fun task => task.answer?) =
          [some ⟨201, .order view⟩, some ⟨200, .order again⟩] ∧ again.Same view := by
  refine ⟨_, _, rfl, ?_⟩
  obtain ⟨reader, there, returns, -⟩ := completed_orders_stay smartphoneInCart completeCheckout
    (statements 1 2) 0 _ rfl rfl _ rfl lookFirstOrder rfl (fun choice member => by
      obtain ⟨-, rfl⟩ := Action.proceed.inj (List.eq_of_mem_replicate member)
      rfl)
  obtain rfl := Option.some.inj there
  obtain ⟨again, same, agrees⟩ := returns _ rfl rfl
  obtain rfl := Body.order.inj (Reply.mk.inj same).2
  exact agrees

end ShoppingCS.Shop
