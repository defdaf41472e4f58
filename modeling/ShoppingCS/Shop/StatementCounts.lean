import ShoppingCS.Interleaving.Progress
import ShoppingCS.Interleaving.Forwarding
import ShoppingCS.Shop.OrderSnapshot

/-!
# How many statements a request takes

No handler waits for another request: it takes no lock and repeats nothing that has failed.
The number of its statements is fixed, except that a checkout inserts each line of the cart
and a listing reads the items of each order; and a cart has no more lines than there are
products. So every request is answered after a known number of its own turns.
-/

namespace ShoppingCS.Shop

open Interleaving Storage Program

/-- The most statements of a request, by the numbers of products and of orders. One of the
two that a listing takes besides the item queries is `enqueueReads`, the step of this model
in which the pool puts these queries in some order; the server sends one statement less. -/
def Operation.budget (products orders : Nat) : Operation → Nat
  | .getHealth => 0
  | .getProducts _ => 1
  | .getProduct _ => 1
  | .getCart => 1
  | .postCart _ => 4
  | .putCart _ _ => 2
  | .deleteCartItem _ => 2
  | .deleteCart => 1
  | .getOrders => orders + 2
  | .postOrders _ => products + 6
  | .getOrder _ => 2

/-- A result that can be returned where there are no more products and orders. -/
def Returnable (products orders : Nat) : Event Statement Statement.Result → Prop
  | ⟨.selectCheckout _, .ok rows⟩ => rows.length ≤ products
  | ⟨.selectOrders, .ok rows⟩ => rows.length ≤ orders
  | ⟨.enqueueReads given, .ok orderIds⟩ => orderIds.length = given.length
  | _ => True

section Budgets

variable {products orders : Nat}

/-- A query takes one statement more than what follows it; after an error nothing does. -/
theorem within_query {rejected : Reply} {statement : Statement} {next : statement.Rows → Handler}
    {budget : Nat} (later : ∀ rows, Returnable products orders ⟨statement, .ok rows⟩ →
      (next rows).Within (Returnable products orders) budget) :
    (query rejected statement next).Within (Returnable products orders) (budget + 1) := by
  intro result can
  cases result with
  | ok rows => exact later rows can
  | error error => trivial

/-- The cart is sent after one statement, the SELECT with the join. -/
theorem within_respondCart (rejected : Reply) (sessionId : String) :
    (respondCart rejected sessionId).Within (Returnable products orders) 1 :=
  within_query (fun _ _ => trivial)

/-- The loop over the items takes a statement for each of them. -/
theorem within_insertItems (nextId : Nat) (items : List CheckoutRow) {next : Handler} {budget : Nat}
    (later : next.Within (Returnable products orders) budget) :
    (insertItems nextId items next).Within (Returnable products orders) (budget + items.length) := by
  induction items with
  | nil => exact later
  | cons item items inductionHypothesis => exact within_query (fun _ _ => inductionHypothesis)

/-- The reads of a listing take a statement for each order. -/
theorem within_readItems (orderIds : List String)
    {next : List (String × List OrderItem) → Handler} {budget : Nat}
    (later : ∀ found, (next found).Within (Returnable products orders) budget)
    (found : List (String × List OrderItem)) :
    (readItems orderIds found next).Within (Returnable products orders)
      (budget + orderIds.length) := by
  induction orderIds generalizing found with
  | nil => exact later found
  | cons orderId orderIds inductionHypothesis =>
    exact within_query (fun items _ => inductionHypothesis _)

/-- A listing is within its budget: one statement for the orders, one for the items of each,
and the step in which the model queues these. -/
theorem within_getOrders : getOrders.Within (Returnable products orders) (orders + 2) := by
  apply within_query
  intro rows listed
  apply within_query
  intro orderIds enqueued
  have count : orderIds.length ≤ orders := by
    have same : orderIds.length = (rows.map (·.id)).length := enqueued
    rw [same, List.length_map]
    exact listed
  apply Program.Within.mono (within_readItems orderIds _ [])
  · rw [Nat.zero_add]
    exact count
  · exact fun found => trivial

/-- A checkout is within its budget, which allows one item for each product and six more
statements. -/
theorem within_postOrders (sessionId : String) (body : OrderBody) :
    (postOrders sessionId body).Within (Returnable products orders) (products + 6) := by
  unfold postOrders
  split_ifs with unparsable
  · trivial
  · apply within_query
    intro rows read
    split_ifs with empty
    · trivial
    · apply within_query
      intro nextId _
      cases body with
      | fields customer =>
        have finishes : (finishOrder sessionId nextId).Within (Returnable products orders) 3 := by
          apply within_query
          intro _ _
          apply within_query
          intro orders _
          apply within_query
          intro items _
          cases orders <;> trivial
        have places : (placeOrder sessionId nextId customer rows).Within
            (Returnable products orders) (3 + rows.length + 1) :=
          within_query (fun _ _ => within_insertItems nextId rows finishes)
        have few : rows.length ≤ products := read
        exact places.mono (by omega)
      | _ => trivial

/-- Every handler is within its budget, by the lemma for its route. -/
theorem handle_within (request : Request) :
    (handle request).Within (Returnable products orders)
      (request.operation.budget products orders) := by
  unfold handle
  cases operation : request.operation with
  | getHealth => trivial
  | getProducts search => exact within_query (fun _ _ => trivial)
  | getProduct productId =>
    apply within_query
    intro rows _
    cases rows <;> trivial
  | getCart => exact within_respondCart _ _
  | postCart body =>
    cases body with
    | none => trivial
    | some body =>
      apply within_query
      intro found _
      split_ifs
      · trivial
      · apply within_query
        intro existing _
        split_ifs
        · exact within_query (fun _ _ => within_respondCart _ _)
        · exact within_query (fun _ _ => within_respondCart _ _)
  | putCart productId body =>
    cases body with
    | none => trivial
    | some quantity =>
      simp only [putCart]
      split_ifs
      · exact within_query (fun _ _ => within_respondCart _ _)
      · exact within_query (fun _ _ => within_respondCart _ _)
  | deleteCartItem productId => exact within_query (fun _ _ => within_respondCart _ _)
  | deleteCart => exact within_query (fun _ _ => trivial)
  | getOrders => exact within_getOrders
  | postOrders body => exact within_postOrders _ body
  | getOrder orderId =>
    apply within_query
    intro found _
    cases found with
    | nil => trivial
    | cons order others => exact within_query (fun _ _ => trivial)

end Budgets

/-- A cart has no more lines than there are products. -/
theorem joinedCart_length (database : Database) (sessionId : String) :
    (database.joinedCart sessionId).length ≤ database.products.rows.length := by
  have lines : (database.joinedCart sessionId).length ≤ (database.cartRows sessionId).length :=
    List.length_filterMap_le _ _
  have distinct : ((database.cartRows sessionId).map CartItem.productId).Nodup := by
    have keys := (database.cartItems.unique.sublist
      ((List.filter_sublist (p := fun row => decide (row.sessionId = sessionId))).map CartItem.key))
    refine List.Nodup.of_map (fun productId => (productId, sessionId)) ?_
    rw [List.map_map]
    convert keys using 1
    apply List.map_congr_left
    intro row member
    have owned : row.sessionId = sessionId := of_decide_eq_true (List.mem_filter.mp member).2
    simp [CartItem.key, owned]
  have known : (database.cartRows sessionId).map CartItem.productId ⊆
      database.products.rows.map Product.id := by
    intro id member
    obtain ⟨row, listed, rfl⟩ := List.mem_map.mp member
    obtain ⟨product, found⟩ := Option.isSome_iff_exists.mp
      (database.cartProducts row (List.mem_filter.mp listed).1)
    obtain ⟨present, same⟩ := KeyedTable.get?_sound found
    exact List.mem_map.mpr ⟨product, present, same⟩
  calc (database.joinedCart sessionId).length
    _ ≤ (database.cartRows sessionId).length := lines
    _ = ((database.cartRows sessionId).map CartItem.productId).length := by rw [List.length_map]
    _ ≤ (database.products.rows.map Product.id).length :=
      (List.subperm_of_subset distinct known).length_le
    _ = database.products.rows.length := by rw [List.length_map]

/-- What a statement returns is among what can be returned for so many products and orders. -/
theorem execute_returnable (statement : Statement) (choice : Choice) (database : Database) :
    Returnable database.products.rows.length database.orders.rows.length
      ⟨statement, (execute statement choice database).1⟩ := by
  by_cases failing : choice.fails = true
  · rw [execute_fails _ _ _ failing]
    cases statement <;> trivial
  · cases statement with
    | selectCheckout sessionId =>
      have rows : (execute (.selectCheckout sessionId) choice database).1 =
          .ok (reorder choice.order (database.checkoutRows sessionId)) :=
        congrArg Prod.fst (execute_works (Bool.eq_false_iff.mpr failing) rfl _)
      rw [rows]
      change (reorder choice.order (database.checkoutRows sessionId)).length ≤ _
      rw [(reorder_perm _ _).length_eq, Database.checkoutRows, List.length_map]
      exact joinedCart_length database sessionId
    | selectOrders =>
      have rows : (execute .selectOrders choice database).1 =
          .ok ((reorder choice.order database.orders.rows).mergeSort
            (fun first second => decide (second.createdAt ≤ first.createdAt))) :=
        congrArg Prod.fst (execute_works (Bool.eq_false_iff.mpr failing) rfl _)
      rw [rows]
      change (List.mergeSort _ _).length ≤ _
      rw [List.length_mergeSort, (reorder_perm _ _).length_eq]
    | enqueueReads given =>
      have rows : (execute (.enqueueReads given) choice database).1 =
          .ok (reorder choice.order given) :=
        congrArg Prod.fst (execute_works (Bool.eq_false_iff.mpr failing) rfl _)
      rw [rows]
      exact (reorder_perm _ _).length_eq
    | _ => trivial

/-- More orders in the database only make more results possible. -/
theorem Returnable.mono {products orders more : Nat} {event : Event Statement Statement.Result}
    (can : Returnable products orders event) (grown : orders ≤ more) :
    Returnable products more event := by
  obtain ⟨command, result⟩ := event
  cases command with
  | selectOrders =>
    cases result with
    | ok rows => exact Nat.le_trans can grown
    | error error => trivial
  | _ => cases result <;> exact can

section Runs

variable {initial : Database} {actions : List (Action Request Choice)} {index : Nat} {task : ShopTask}
  (present : (server.run (Service.idleState initial) actions).tasks[index]? = some task)

include present

/-- What a request has been given is bounded by the products and by the orders of the end. -/
theorem trace_returnable (event : Event Statement Statement.Result) (member : event ∈ task.trace) :
    Returnable initial.products.rows.length
      (server.run (Service.idleState initial) actions).store.orders.rows.length event := by
  obtain ⟨front, back, split⟩ := List.append_of_mem member
  obtain ⟨early, choice, late, earlier, resume, cut, -, -, -, -, result⟩ :=
    Service.run_executed present split
  have returned := execute_returnable event.command choice
    (server.run (Service.idleState initial) early).store
  rw [run_products] at returned
  have same : event = ⟨event.command, (execute event.command choice
      (server.run (Service.idleState initial) early).store).1⟩ := by
    obtain ⟨command, given⟩ := event
    exact congrArg (Event.mk command) result
  rw [same]
  apply returned.mono
  rw [cut, server.run_append]
  exact (run_orders_grow _ _).length_le

/-- The statements of a checkout that is answered 201 are six and one for each item of its
order. -/
theorem created_statements (checkout : IsCheckout task.request.operation) {reply : Reply}
    (answered : task.answer? = some reply) (created : reply.status = 201) :
    ∃ view, reply.body = .order view ∧ task.trace.length = view.items.length + 6 := by
  have traced := server.run_traced _ actions (server.idleState_traced initial)
  obtain ⟨body, orders⟩ := checkout.body
  obtain ⟨rows, nextId, customer, count, done, deleted, order, others, items, -, -, all, rfl,
    trace⟩ := checkout_created (task_checkout traced (List.mem_of_getElem? present) orders)
      ((task.answer_some reply).mp answered) created
  have listed := reread_items (sessionOf task) present all
    (trace.trans (List.append_assoc _ [_, _] _).symm)
  have count : items.length = done.length := by
    have same := listed.length_eq
    rwa [List.length_map, List.length_map, all, List.length_map] at same
  refine ⟨orderView order items, rfl, ?_⟩
  rw [trace]
  simp [openingTrace, itemTrace, orderView, count]

end Runs

/-- No request waits for another. Whatever the others do, and whichever statements fail, a
request takes no more statements than its budget, for the products there are and the orders
there are in the end, and has answered once it has had as many turns. A checkout that is
answered 201 has taken six statements and one for each item of its order. -/
theorem requests_wait_for_nobody (initial : Database) (actions : List (Action Request Choice))
    (index : Nat) (task : ShopTask)
    (present : (server.run (Service.idleState initial) actions).tasks[index]? = some task) :
    let budget := task.request.operation.budget initial.products.rows.length
      (server.run (Service.idleState initial) actions).store.orders.rows.length
    task.trace.length ≤ budget ∧
      (budget ≤ Service.turns index 0 actions → ∃ reply, task.answer? = some reply) ∧
      (IsCheckout task.request.operation → ∀ reply, task.answer? = some reply →
        reply.status = 201 →
          ∃ view, reply.body = .order view ∧ task.trace.length = view.items.length + 6) := by
  intro budget
  obtain ⟨most, answers⟩ := Service.run_within initial actions present
    (trace_returnable present) (handle_within task.request)
  exact ⟨most, answers, fun checkout _ answered created =>
    created_statements present checkout answered created⟩

/-- A checkout that is given eight turns among those of another one. -/
def eightTurns : List (Action Request Choice) :=
  [.start (checkout "s"), .start (checkout "s")] ++ statements 0 3 ++ statements 1 2 ++
    statements 0 5 ++ statements 1 1

/-- Where there are two products, it has been answered by then. -/
theorem eight_turns_answered :
    ∃ task, (server.run (Service.idleState smartphoneInCart) eightTurns).tasks[0]? = some task ∧
      task.trace.length ≤ 8 ∧ ∃ reply, task.answer? = some reply := by
  obtain ⟨task, present⟩ : ∃ task,
      (server.run (Service.idleState smartphoneInCart) eightTurns).tasks[0]? = some task := by
    apply Option.isSome_iff_exists.mp
    decide
  obtain ⟨most, answered, -⟩ := requests_wait_for_nobody smartphoneInCart eightTurns 0 task present
  have asked := server.run_idle_request smartphoneInCart eightTurns present
  have request : task.request = checkout "s" := Option.some.inj (asked.symm.trans (by decide))
  rw [request] at most answered
  exact ⟨task, present, most, answered (by decide)⟩

end ShoppingCS.Shop
