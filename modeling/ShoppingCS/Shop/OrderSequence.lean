import ShoppingCS.Shop.OrderNumbers
import ShoppingCS.Shop.OrderRecords

/-!
# The sequence of orders

The orders of a run are numbered in the order of their insertion, without a gap,
and each number is won by one request. The primary key turns away an order exactly
if its count is out of date: some other order has been inserted since.
-/

namespace ShoppingCS.Shop

open Interleaving Storage Program

/-- The ids of the orders, in the order of their insertion. -/
def Database.orderIds (database : Database) : List String := database.orders.rows.map Order.id

/-- The first ids, as many as there are orders. -/
def Sequenced (state : ShopState) : Prop :=
  state.store.orderIds =
    (List.range state.store.orders.rows.length).map (fun count => orderIdOf (count + 1))

/-- Every step adds the next id, if it adds one. -/
theorem step_sequenced {state : ShopState} (action : Action Request Choice)
    (traced : server.Traced state) (numbering : Numbering state) (sequenced : Sequenced state) :
    Sequenced (server.step state action) := by
  generalize after : server.step state action = next
  have transition : server.Transition state action next := after ▸ server.step_transition state action
  cases transition with
  | idle index choice nothing => exact sequenced
  | started request => exact sequenced
  | proceeded index choice task command resume present pending =>
    unfold Sequenced Database.orderIds at sequenced ⊢
    rcases Database.execute_orders command choice state.store with ⟨stored, opens, accepted⟩ | ⟨-, same⟩
    · obtain ⟨-, rows⟩ := KeyedTable.insert?_eq_some.mp accepted
      have id := (opened_next traced numbering (List.mem_of_getElem? present) pending opens).2
      have grown : (server.perform command choice state.store).2.orders.rows =
          state.store.orders.rows ++ [stored] := rows
      dsimp only
      rw [grown, List.map_append, sequenced, List.length_append, List.length_singleton,
        List.range_succ, List.map_append, List.map_singleton, List.map_singleton, id]
    · have contents : (server.perform command choice state.store).2.orders = state.store.orders :=
        same
      dsimp only
      rw [contents]
      exact sequenced

/-- After every run from a database without orders the ids are in sequence, from one on
without a gap. -/
theorem run_sequenced {initial : Database} (empty : initial.orders.rows = [])
    (actions : List (Action Request Choice)) :
    Sequenced (server.run (Service.idleState initial) actions) := by
  have numbered (before : List (Action Request Choice)) := run_numbering empty before
  induction actions using List.reverseRecOn with
  | nil => simp [Sequenced, Database.orderIds, empty]
  | append_singleton actions action inductionHypothesis =>
    rw [Service.run_append]
    exact step_sequenced action (server.run_traced _ actions (server.idleState_traced initial))
      (numbered actions) inductionHypothesis

/-- The ids of a database are those that lead to a row. -/
theorem mem_orderIds {database : Database} {id : String} :
    id ∈ database.orderIds ↔ database.orders.get? id ≠ none := by
  rw [ne_eq, KeyedTable.get?_eq_none]
  simp [Database.orderIds]

/-- The primary key turns away a row that fits its columns exactly if its id is taken. -/
theorem insertOrder_rejected {database : Database} {row : NewOrder} {now : Nat}
    (fits : Database.orderRow? row now ≠ none) :
    (database.insertOrder row now).1 = .error .uniqueViolation ↔
      database.orders.get? row.id ≠ none := by
  obtain ⟨stored, stores⟩ := Option.ne_none_iff_exists'.mp fits
  have named := (Database.orderRow?_eq_some stores).1
  unfold Database.insertOrder
  rw [stores]
  dsimp only
  split
  · rename_i rejected
    have taken := Database.insertOrder?_eq_none.mp rejected
    rw [named] at taken
    exact ⟨fun _ => taken, fun _ => rfl⟩
  · rename_i next inserted
    have free : database.insertOrder? stored ≠ none := by simp [inserted]
    rw [ne_eq, Database.insertOrder?_eq_none, not_not, named] at free
    simp [free]

/-- The request at a place is about to count the orders. -/
def AboutToCount (state : ShopState) (index : Nat) : Prop :=
  ∃ task, state.tasks[index]? = some task ∧ task.program.pending? = some .selectNextId

section Count

variable {initial : Database} {index : Nat} {task : ShopTask} {row : NewOrder}

/-- A request that is about to insert its order has counted, at some moment. -/
theorem count_executed {actions : List (Action Request Choice)}
    (present : (server.run (Service.idleState initial) actions).tasks[index]? = some task)
    (waits : task.program.pending? = some (.insertOrder row)) :
    ∃ early counting late, actions = early ++ .proceed index counting :: late ∧
      AboutToCount (server.run (Service.idleState initial) early) index := by
  have traced := server.run_traced _ actions (server.idleState_traced initial)
  obtain ⟨resume, pending⟩ := pending?_eq_some.mp waits
  obtain ⟨body, point⟩ :=
    checkout_of_writesOrders traced (List.mem_of_getElem? present) pending rfl
  obtain ⟨rows, nextId, customer, -, -, trace, -⟩ := checkout_insertOrder point waits
  have split : task.trace = [passed (.selectCheckout (sessionOf task)) rows] ++
      passed .selectNextId nextId :: [] := trace
  obtain ⟨early, counting, late, earlier, resume, cut, found, -, -, program, -⟩ :=
    Service.run_executed present split
  exact ⟨early, counting, late, cut, earlier, found, by rw [program]; rfl⟩

/-- Its order is to have the number after those it has counted. -/
theorem counted_number {early late : List (Action Request Choice)} {counting : Choice}
    (present : (server.run (Service.idleState initial)
      (early ++ .proceed index counting :: late)).tasks[index]? = some task)
    (waits : task.program.pending? = some (.insertOrder row))
    (counts : AboutToCount (server.run (Service.idleState initial) early) index) :
    row.id = orderIdOf
      ((server.run (Service.idleState initial) early).store.orders.rows.length + 1) := by
  have traced := server.run_traced _ (early ++ .proceed index counting :: late)
    (server.idleState_traced initial)
  obtain ⟨resume, pending⟩ := pending?_eq_some.mp waits
  obtain ⟨body, point⟩ :=
    checkout_of_writesOrders traced (List.mem_of_getElem? present) pending rfl
  obtain ⟨rows, nextId, customer, -, -, trace, rfl⟩ := checkout_insertOrder point waits
  rw [Service.run_append, Service.run_cons] at present
  obtain ⟨before, found, waiting⟩ := counts
  obtain ⟨resume, counted⟩ := pending?_eq_some.mp waiting
  obtain ⟨counting', -⟩ := Service.step_executes found counted counting
  obtain ⟨final, there, -, later, grown⟩ := Service.run_extends late counting'
  obtain rfl : final = task := Option.some.inj (there.symm.trans present)
  have recorded : passed .selectNextId nextId = ⟨.selectNextId, (execute .selectNextId counting
      (server.run (Service.idleState initial) early).store).1⟩ := by
    have executed : ⟨.selectNextId, (execute .selectNextId counting
        (server.run (Service.idleState initial) early).store).1⟩ ∈ final.trace := by
      rw [grown, Task.advance_trace]
      simp [server]
    rw [trace] at executed
    cases List.mem_cons.mp executed with
    | inl first => exact absurd (Event.mk.inj first).1 (by simp)
    | inr rest => exact (List.mem_singleton.mp rest).symm
  have counts : countedBy ⟨.selectNextId, (execute .selectNextId counting
      (server.run (Service.idleState initial) early).store).1⟩ = some nextId := by
    rw [← recorded]
    rfl
  exact congrArg orderIdOf (countedBy_execute counts).1

/-- Counting the orders does not change them, so what has been counted is true of the state
after the count as well. -/
theorem step_orders_count {early : List (Action Request Choice)}
    (counts : AboutToCount (server.run (Service.idleState initial) early) index)
    (counting : Choice) :
    (server.run (Service.idleState initial) (early ++ [.proceed index counting])).store.orders =
      (server.run (Service.idleState initial) early).store.orders := by
  obtain ⟨task, present, waits⟩ := counts
  obtain ⟨resume, pending⟩ := pending?_eq_some.mp waits
  rw [Service.run_append, Service.run_cons, Service.run_nil,
    (Service.step_executes present pending counting).2]
  exact (Database.execute_tables _ _ _).2.1 (by simp)

end Count

/-- The request at a place has inserted the order. -/
def Wins (state : ShopState) (index : Nat) (id : String) : Prop :=
  ∃ task, state.tasks[index]? = some task ∧ id ∈ opened task.trace

/-- A table that has grown has a row it had not before. -/
theorem grown_iff {database next : Database} (grown : database.orders.rows <+: next.orders.rows) :
    (∃ order ∈ next.orders.rows, order ∉ database.orders.rows) ↔
      database.orders.rows.length < next.orders.rows.length := by
  constructor
  · rintro ⟨order, member, absent⟩
    by_contra short
    have same := grown.eq_of_length_le (by omega)
    rw [same] at absent
    exact absent member
  · intro longer
    obtain ⟨later, rows⟩ := grown
    have some : later ≠ [] := by
      rintro rfl
      rw [← rows, List.append_nil] at longer
      omega
    obtain ⟨order, inside⟩ := List.exists_mem_of_ne_nil later some
    refine ⟨order, by rw [← rows]; exact List.mem_append_right _ inside, fun before => ?_⟩
    have unique : next.orders.rows.Nodup := List.Nodup.of_map _ next.orders.unique
    rw [← rows] at unique
    exact List.disjoint_of_nodup_append unique before inside

/-- Order ids are dense, and each is won by one request. After every run on a database
without orders, whatever fails: the ids in use are those from 1 to the number of
orders; the orders have them in the order of their insertion, and stay where they
are; each was inserted by exactly one request; and an order that fits its columns is
turned away by the primary key if and only if another one has been inserted since
its request has counted. -/
theorem order_ids_dense (initial : Database) (empty : initial.orders.rows = [])
    (actions : List (Action Request Choice)) :
    (∀ id, (server.run (Service.idleState initial) actions).store.orders.get? id ≠ none ↔
      ∃ number, 1 ≤ number ∧
        number ≤ (server.run (Service.idleState initial) actions).store.orders.rows.length ∧
        id = orderIdOf number) ∧
    Sequenced (server.run (Service.idleState initial) actions) ∧
    (∀ before after, actions = before ++ after →
      (server.run (Service.idleState initial) before).store.orders.rows <+:
        (server.run (Service.idleState initial) actions).store.orders.rows) ∧
    (∀ id, (server.run (Service.idleState initial) actions).store.orders.get? id ≠ none →
      ∃! winner, Wins (server.run (Service.idleState initial) actions) winner id) ∧
    ∀ index task row now,
      (server.run (Service.idleState initial) actions).tasks[index]? = some task →
      task.program.pending? = some (.insertOrder row) → Database.orderRow? row now ≠ none →
      (∃ early counting late, actions = early ++ .proceed index counting :: late ∧
        AboutToCount (server.run (Service.idleState initial) early) index) ∧
      ∀ early counting late, actions = early ++ .proceed index counting :: late →
        AboutToCount (server.run (Service.idleState initial) early) index →
        (((server.run (Service.idleState initial) actions).store.insertOrder row now).1 =
            .error .uniqueViolation ↔
          ∃ order ∈ (server.run (Service.idleState initial) actions).store.orders.rows,
            order ∉ (server.run (Service.idleState initial)
              (early ++ [.proceed index counting])).store.orders.rows) := by
  have documented := run_documented initial actions
  have numbering := run_numbering empty actions
  have sequenced := run_sequenced empty actions
  refine ⟨?_, sequenced, ?_, ?_, ?_⟩
  · intro id
    constructor
    · intro used
      rw [← mem_orderIds, sequenced] at used
      obtain ⟨count, inside, rfl⟩ := List.mem_map.mp used
      exact ⟨count + 1, by omega, List.mem_range.mp inside, rfl⟩
    · rintro ⟨number, positive, last, rfl⟩
      exact (numbering.ids number).mpr ⟨positive, last⟩
  · rintro before after rfl
    rw [Service.run_append]
    exact run_orders_grow _ after
  · intro id used
    obtain ⟨order, there⟩ := Option.ne_none_iff_exists'.mp used
    obtain ⟨stored, rfl⟩ := KeyedTable.get?_sound there
    rcases documented.records.entered order stored with old | ⟨task, member, opens⟩
    · simp [empty] at old
    · obtain ⟨winner, present⟩ := List.mem_iff_getElem?.mp member
      refine ⟨winner, ⟨task, present, opens⟩, ?_⟩
      rintro other ⟨task', present', opens'⟩
      exact documented.books.owned other winner task' task present' present order.id opens' opens
  · intro index task row now present waits fits
    refine ⟨count_executed present waits, ?_⟩
    rintro early counting late rfl counts
    have number := counted_number present waits counts
    have before := step_orders_count counts counting
    have grown := run_orders_grow
      (server.run (Service.idleState initial) (early ++ [.proceed index counting])) late
    rw [← Service.run_append, List.append_assoc, List.singleton_append] at grown
    rw [insertOrder_rejected fits, number, numbering.ids, grown_iff grown, before]
    omega

/-- Two checkouts count, and one of them goes on. -/
def countedTogether : List (Action Request Choice) :=
  [.start (checkout "a"), .start (checkout "b")] ++ statements 0 2 ++ statements 1 1 ++
    .proceed 1 .plain :: statements 0 5

set_option maxRecDepth 2000 in
/-- The order of the other one is turned away. -/
theorem late_order_rejected :
    ∃ task row, (server.run (Service.idleState twoCarts) countedTogether).tasks[1]? = some task ∧
      task.program.pending? = some (.insertOrder row) ∧
      ((server.run (Service.idleState twoCarts) countedTogether).store.insertOrder row 0).1 =
        .error .uniqueViolation := by
  refine ⟨_, _, rfl, rfl, ?_⟩
  exact (((order_ids_dense twoCarts rfl countedTogether).2.2.2.2 1 _ _ 0 rfl rfl (by decide)).2
    ([.start (checkout "a"), .start (checkout "b")] ++ statements 0 2 ++ statements 1 1) .plain
    (statements 0 5) rfl ⟨_, rfl, rfl⟩).mpr ⟨_, .head _, by decide⟩

end ShoppingCS.Shop
