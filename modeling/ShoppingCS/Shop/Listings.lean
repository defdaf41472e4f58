import ShoppingCS.Shop.CompletedOrders
import ShoppingCS.Shop.ProductSearch

/-!
# What the listings list

The products never change, so a listing of them is the whole catalogue. The orders only
grow: a listing has every order that was there when it was asked for, each order once, and
the items of each are those it had at some moment since.
-/

namespace ShoppingCS.Shop

open Interleaving Storage Program

/-- The list has all products of the database, each as often as it is there, and is ordered by
name. -/
structure Catalogue (database : Database) (products : List Product) : Prop where
  all : products.Perm database.products.rows
  sorted : products.Pairwise (fun first second => first.name ≤ second.name)

/-- What is shown of an order is its row, and the items it had at some moment between two
states of the database: all those it had in the earlier one, and only such as it has in the
later one. -/
structure OrderView.Shows (view : OrderView) (since database : Database) : Prop where
  row : ∃ order ∈ database.orders.rows, { view with items := [] } = orderView order []
  items : ∃ had, since.orderedItems view.id <+: had ∧ had <+: database.orderedItems view.id ∧
    view.items.Perm had

section Products

variable {initial : Database} {actions : List (Action Request Choice)} {index : Nat} {task : ShopTask}

/-- The statement without a pattern returns the catalogue, whatever order the rows come from
the table in. -/
theorem selectProducts_catalogue (database : Database) (positions : List Nat) :
    Catalogue database (database.selectProducts none positions) where
  all := (List.mergeSort_perm _ _).trans (reorder_perm _ _)
  sorted := selectProducts_sorted database none positions

/-- A request for all products is answered with the catalogue, or with an error. -/
theorem getProducts_reply
    (present : (server.run (Service.idleState initial) actions).tasks[index]? = some task)
    (asked : task.request.operation = .getProducts none) {reply : Reply}
    (answered : task.answer? = some reply) :
    (∃ products, reply = ⟨200, .products products⟩ ∧ Catalogue initial products) ∨
      reply = .error 500 "Failed to fetch products" := by
  have follows := server.run_traced _ actions (server.idleState_traced initial) task
    (List.mem_of_getElem? present)
  rw [(task.answer_some reply).mp answered] at follows
  have path : Follows (getProducts none) task.trace (.answer reply) := by
    simpa [server, handle, asked] using follows
  rcases (follows_query _ _ _ _ _).mp path with
    ⟨-, same⟩ | ⟨error, -, same⟩ | ⟨rows, later, trace, tail⟩
  · exact absurd same (by simp [query])
  · exact Or.inr (Program.answer.inj same)
  · left
    obtain ⟨-, same⟩ := (follows_answer _ _ _).mp tail
    have transformed : rows.map transformProduct = rows := List.map_id rows
    rw [transformed] at same
    refine ⟨rows, Program.answer.inj same, ?_⟩
    obtain ⟨early, choice, late, earlier, resume, -, -, -, -, -, result⟩ :=
      Service.run_executed present (show task.trace = [] ++ _ :: later from trace)
    have products : (server.run (Service.idleState initial) early).store.products =
        initial.products := run_products _ early
    by_cases failing : choice.fails = true
    · have refused := result.trans (congrArg Prod.fst
        (execute_fails (.selectProducts none) choice _ failing))
      exact absurd refused (by simp [passed])
    · have listed : rows = (server.run (Service.idleState initial) early).store.selectProducts none
          choice.order := by
        have ran : (execute (.selectProducts none) choice
            (server.run (Service.idleState initial) early).store).1 =
              .ok ((server.run (Service.idleState initial) early).store.selectProducts none
                choice.order) :=
          congrArg Prod.fst (execute_works (Bool.eq_false_iff.mpr failing) rfl _)
        exact Except.ok.inj (result.trans ran)
      rw [listed]
      have whole := selectProducts_catalogue (server.run (Service.idleState initial) early).store
        choice.order
      exact ⟨products ▸ whole.all, whole.sorted⟩

end Products

section Growth

/-- The items of an order grow at their end. -/
theorem run_orderedItems_grow (state : ShopState) (actions : List (Action Request Choice))
    (id : String) :
    state.store.orderedItems id <+: (server.run state actions).store.orderedItems id := by
  refine server.run_always
    (fun current => state.store.orderedItems id <+: current.store.orderedItems id) ?_ state actions
    List.prefix_rfl
  intro current action grown
  apply grown.trans
  generalize after : server.step current action = next
  have transition : server.Transition current action next :=
    after ▸ server.step_transition current action
  cases transition with
  | started request => exact List.prefix_rfl
  | idle index choice nothing => exact List.prefix_rfl
  | proceeded index choice task command resume present pending =>
    change _ <+: (execute command choice current.store).2.orderedItems id
    rw [Database.execute_orderedItems]
    exact List.prefix_append _ _

/-- What is shown of an order stays so while the server works on: rows stay, and items are
only appended. -/
theorem OrderView.Shows.later {view : OrderView} {since : Database} {state : ShopState}
    (shows : view.Shows since state.store) (actions : List (Action Request Choice)) :
    view.Shows since (server.run state actions).store where
  row := by
    obtain ⟨order, stored, same⟩ := shows.row
    exact ⟨order, (run_orders_grow state actions).subset stored, same⟩
  items := by
    obtain ⟨had, whole, part, listed⟩ := shows.items
    exact ⟨had, whole, part.trans (run_orderedItems_grow state actions view.id), listed⟩

end Growth

section Orders

/-- A listing that has been answered has followed its handler from the first statement to the
answer. -/
theorem answered_path {initial : Database} {actions : List (Action Request Choice)} {index : Nat}
    {task : ShopTask}
    (present : (server.run (Service.idleState initial) actions).tasks[index]? = some task)
    {reply : Reply} (answered : task.answer? = some reply)
    (asked : task.request.operation = .getOrders) :
    Follows getOrders task.trace (.answer reply) := by
  have follows := server.run_traced _ actions (server.idleState_traced initial) task
    (List.mem_of_getElem? present)
  rw [(task.answer_some reply).mp answered] at follows
  simpa [server, handle, asked] using follows

/-- A statement of a request that starts after some actions is executed on what these and
some of the later ones have left, whether it fails or not. The request has no place before
it starts, so the statement cannot be earlier. -/
theorem executed_since {initial : Database} {before after : List (Action Request Choice)}
    {request : Request} {task : ShopTask}
    (present : (server.run (Service.idleState initial)
      (before ++ .start request :: after)).tasks[(server.run (Service.idleState initial)
        before).tasks.length]? = some task)
    {front back : Trace} {event : Event Statement Statement.Result}
    (split : task.trace = front ++ event :: back) :
    ∃ middle choice late, .start request :: after = middle ++ late ∧
      event.result = (execute event.command choice
        (server.run (Service.idleState initial) (before ++ middle)).store).1 := by
  obtain ⟨early, choice, late, earlier, resume, cut, found, -, -, -, result⟩ :=
    Service.run_executed present split
  rcases List.append_eq_append_iff.mp cut with ⟨middle, rfl, rest⟩ | ⟨middle, ended, rest⟩
  · exact ⟨middle, choice, _, rest, result⟩
  · obtain ⟨next, there, -⟩ := Service.run_extends middle found
    rw [← Service.run_append, ← ended] at there
    have inside := (List.getElem?_eq_some_iff.mp there).1
    omega

/-- The rows of a listing are those of the table, the newest first. -/
theorem selectOrders_sorted {choice : Choice} {database : Database} {rows : List Order}
    (returned : (execute .selectOrders choice database).1 = .ok rows) :
    rows.Pairwise (fun first second => second.createdAt ≤ first.createdAt) := by
  by_cases failing : choice.fails = true
  · rw [execute_fails _ choice database failing] at returned
    simp at returned
  · have listed : (execute .selectOrders choice database).1 =
        .ok ((reorder choice.order database.orders.rows).mergeSort
          (fun first second => decide (second.createdAt ≤ first.createdAt))) :=
      congrArg Prod.fst (execute_works (Bool.eq_false_iff.mpr failing) rfl _)
    rw [← Except.ok.inj (listed.symm.trans returned)]
    have sorted := @List.pairwise_mergeSort Order
      (fun first second => decide (second.createdAt ≤ first.createdAt))
      (by
        intro first second third newer newest
        simp only [decide_eq_true_eq] at newer newest ⊢
        exact le_trans newest newer)
      (by
        intro first second
        simp only [Bool.or_eq_true, decide_eq_true_eq]
        exact le_total second.createdAt first.createdAt)
    exact (sorted _).imp of_decide_eq_true

section Shown

variable {initial : Database} {before after : List (Action Request Choice)} {request : Request}
  {task : ShopTask}
  (present : (server.run (Service.idleState initial)
    (before ++ .start request :: after)).tasks[(server.run (Service.idleState initial)
      before).tasks.length]? = some task)

include present

/-- Items that a request has read are those the order had at a moment after the request was
made, so they include all it had before. -/
theorem items_shown {id : String} {items : List OrderItem}
    (read : passed (.selectOrderItems id) items ∈ task.trace) :
    ∃ had, (server.run (Service.idleState initial) before).store.orderedItems id <+: had ∧
      had <+: (server.run (Service.idleState initial)
        (before ++ .start request :: after)).store.orderedItems id ∧
      (items.map itemView).Perm had := by
  obtain ⟨front, back, split⟩ := List.append_of_mem read
  obtain ⟨middle, choice, late, cut, result⟩ := executed_since present split
  refine ⟨_, ?_, ?_, selectOrderItems_returned result.symm⟩
  · rw [Service.run_append]
    exact run_orderedItems_grow _ middle id
  · rw [cut, ← List.append_assoc, server.run_append _ (before ++ middle) late]
    exact run_orderedItems_grow _ late id

/-- What a listing shows of an order is its stored row, and items it has had since the
listing was asked for. -/
theorem listing_shows (asked : task.request.operation = .getOrders) {reply : Reply}
    (answered : task.answer? = some reply) (good : reply.status = 200) :
    ∀ view ∈ reply.body.orderViews,
      view.Shows (server.run (Service.idleState initial) before).store
        (server.run (Service.idleState initial) (before ++ .start request :: after)).store := by
  obtain ⟨rows, orderIds, read, ids, trace, body⟩ := getOrders_answered good
    (answered_path present answered asked)
  intro view member
  rw [body] at member
  obtain ⟨order, returned, rfl⟩ := List.mem_map.mp member
  constructor
  · have seen := run_seenStored initial _ task (List.mem_of_getElem? present)
      (passed .selectOrders rows) (by rw [trace]; exact List.mem_cons_self) order returned
    exact ⟨order, seen, rfl⟩
  · have queued := enqueued present (show task.trace = [passed .selectOrders rows] ++
      passed (.enqueueReads (rows.map (·.id))) orderIds :: readTrace read from trace)
    have wanted : order.id ∈ read.map Prod.fst := by
      rw [ids, queued.mem_iff]
      exact List.mem_map_of_mem returned
    obtain ⟨front, items, back, found, split⟩ := lookup_listed wanted
    change ∃ had, _ <+: had ∧ had <+: _ ∧
      (((read.lookup order.id).getD []).map itemView).Perm had
    rw [found, Option.getD_some]
    apply items_shown present
    rw [trace, split]
    apply List.mem_append_right
    exact List.mem_map_of_mem (List.mem_append_right _ List.mem_cons_self)

/-- What a checkout answers of its order is its stored row and all the items it has. -/
theorem created_shows (checkout : IsCheckout task.request.operation) {reply : Reply}
    (answered : task.answer? = some reply) (created : reply.status = 201) :
    ∀ view ∈ reply.body.orderViews,
      view.Shows (server.run (Service.idleState initial) before).store
        (server.run (Service.idleState initial) (before ++ .start request :: after)).store := by
  obtain ⟨order, items, rfl, stored, listed⟩ := created_stored present checkout answered created
  intro view member
  obtain rfl := List.mem_singleton.mp member
  refine ⟨⟨order, stored, rfl⟩, _, ?_, List.prefix_rfl, listed⟩
  rw [Service.run_append]
  exact run_orderedItems_grow _ _ _

end Shown

/-- A listing of the orders that is answered 200 has every order that was stored when it was
asked for, no order twice, and the newest first. What it shows of each is what is stored:
its row, and the items it had at some moment since the listing was asked for, with all it
had then. The rows come from one statement and the items of each from a later one, and both
are executed after the request was made. -/
theorem orders_listed (initial : Database) (before after : List (Action Request Choice))
    (request : Request) (task : ShopTask) (reply : Reply)
    (present : (server.run (Service.idleState initial)
      (before ++ .start request :: after)).tasks[(server.run (Service.idleState initial)
        before).tasks.length]? = some task)
    (asked : task.request.operation = .getOrders)
    (answered : task.answer? = some reply) (good : reply.status = 200) :
    ∃ views, reply.body = .orders views ∧ (views.map OrderView.id).Nodup ∧
      views.Pairwise (fun first second => second.createdAt ≤ first.createdAt) ∧
      (∀ order ∈ (server.run (Service.idleState initial) before).store.orders.rows,
        ∃ view ∈ views, { view with items := [] } = orderView order []) ∧
      ∀ view ∈ views, view.Shows (server.run (Service.idleState initial) before).store
        (server.run (Service.idleState initial) (before ++ .start request :: after)).store := by
  obtain ⟨rows, orderIds, read, ids, trace, body⟩ := getOrders_answered good
    (answered_path present answered asked)
  have selected : task.trace = [] ++ passed .selectOrders rows ::
      (passed (.enqueueReads (rows.map (·.id))) orderIds :: readTrace read) := trace
  obtain ⟨middle, choice, late, -, result⟩ := executed_since present selected
  have listed := selectOrders_returned result.symm
  refine ⟨_, body, ?_, ?_, ?_, ?_⟩
  · rw [List.map_map]
    exact (listed.map Order.id).nodup_iff.mpr (Database.orders _).unique
  · rw [List.pairwise_map]
    exact selectOrders_sorted result.symm
  · intro order stored
    have kept : order ∈ (server.run (Service.idleState initial)
        (before ++ middle)).store.orders.rows := by
      rw [Service.run_append]
      exact (run_orders_grow _ middle).subset stored
    exact ⟨_, List.mem_map_of_mem (listed.mem_iff.mpr kept), rfl⟩
  · have shows := listing_shows present asked answered good
    rwa [body] at shows

/-- A listing of the orders, which no session header is needed for. -/
def listOrders : Request := ⟨none, .getOrders⟩

/-- When there is one order, the statement returns a list of that order alone. -/
theorem selectOrders_one {database : Database} {order : Order}
    (only : database.orders.rows = [order]) :
    execute .selectOrders .plain database = (.ok [order], database) := by
  have working : Choice.plain.fails = false := rfl
  have kept : reorder Choice.plain.order [order] = [order] := rfl
  simp only [execute, Statement.holdsNul, carryOut, working, only, kept, List.mergeSort_singleton, Bool.false_eq_true, if_false]

/-- The first order has been completed, and a listing asked for. -/
def listingAsked : ShopState :=
  server.run (Service.idleState smartphoneInCart) (completeCheckout ++ [.start listOrders])

set_option maxRecDepth 2000 in
/-- A listing after the first order has been completed. -/
theorem first_order_listed :
    ∃ created view : OrderView,
      (server.run (Service.idleState smartphoneInCart) (completeCheckout ++
        .start listOrders :: statements 1 3)).tasks.map (fun task => task.answer?) =
          [some ⟨201, .order created⟩, some ⟨200, .orders [view]⟩] ∧
        view.Shows (server.run (Service.idleState smartphoneInCart) completeCheckout).store
          (server.run (Service.idleState smartphoneInCart) (completeCheckout ++
            .start listOrders :: statements 1 3)).store := by
  have selected : server.step listingAsked (.proceed 1 .plain) =
      { store := (execute .selectOrders .plain listingAsked.store).2
        tasks := listingAsked.tasks.set 1 ((server.accept listOrders).advance .selectOrders _
          (execute .selectOrders .plain listingAsked.store).1) } := rfl
  rw [selectOrders_one rfl] at selected
  have last : server.run (Service.idleState smartphoneInCart) (completeCheckout ++
      .start listOrders :: statements 1 3) =
        server.run (server.step listingAsked (.proceed 1 .plain)) (statements 1 2) := rfl
  have answers := congrArg (fun state : ShopState => state.tasks.map (fun task => task.answer?))
    (last.trans (congrArg (server.run · (statements 1 2)) selected))
  refine ⟨_, _, answers.trans rfl, ?_⟩
  have second := congrArg (fun replies : List (Option Reply) => replies[1]?) (answers.trans rfl)
  obtain ⟨task, present, answered⟩ := Option.map_eq_some_iff.mp
    ((List.getElem?_map ..).symm.trans second)
  have asked : task.request = listOrders := by
    have requests := congrArg (fun requests : List Request => requests[1]?)
      (server.run_requests (Service.idleState smartphoneInCart)
        (completeCheckout ++ .start listOrders :: statements 1 3))
    rw [List.getElem?_map, present] at requests
    exact Option.some.inj requests
  obtain ⟨views, body, -, -, -, shows⟩ := orders_listed smartphoneInCart completeCheckout
    (statements 1 3) listOrders task _ present (by rw [asked]; rfl) answered rfl
  obtain rfl := Body.orders.inj body
  exact shows _ List.mem_cons_self

end Orders

end ShoppingCS.Shop
