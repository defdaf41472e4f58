import ShoppingCS.Shop.CartLedger

/-!
# What is added is in the cart or in an order

The sum of the acknowledged adds equals what is left in the cart plus what the
session's orders contain. It holds in every quiet state of every run in which no
UPDATE of an add misses its row and no DELETE of a checkout removes more than the
checkout has read. The two conditions are about the interleaving only: nothing in
the handlers enforces them, and each can fail with two requests.
-/

namespace ShoppingCS.Shop

open Interleaving Storage Program

/-- The product whose quantity the statement increases, if it is an UPDATE of that kind. -/
def Statement.increases? : Statement → Option String
  | .increaseQuantity _ productId _ => productId
  | _ => none

/-- Whenever an add of the session is about to increase a quantity, the row is
still there. -/
def UpdatesFindTheirRow (sessionId : String) (state : ShopState) : Action Request Choice → Prop
  | .start _ => True
  | .proceed index _ => ∀ task ∈ state.tasks[index]?, sessionOf task = sessionId →
      ∀ productId ∈ task.program.pending?.bind Statement.increases?,
      state.store.cart sessionId productId ≠ none

instance (sessionId : String) (state : ShopState) :
    ∀ action, Decidable (UpdatesFindTheirRow sessionId state action)
  | .start _ => isTrue trivial
  | .proceed index _ => inferInstanceAs (Decidable (∀ task ∈ state.tasks[index]?,
      sessionOf task = sessionId → ∀ productId ∈ task.program.pending?.bind Statement.increases?,
      state.store.cart sessionId productId ≠ none))

/-- The quantity of a product that an add has been told is in the cart. -/
def acknowledgedQuantity (sessionId productId : String) (task : ShopTask) : Int :=
  match task.request.operation, task.answer? with
  | .postCart (some ⟨some other, .integer quantity⟩), some reply =>
      if sessionOf task = sessionId ∧ reply.status = 200 ∧ other = productId then quantity else 0
  | _, _ => 0

/-- The quantity of a product in the order a checkout has been told it created. -/
def deliveredQuantity (database : Database) (sessionId productId : String) (task : ShopTask) : Int :=
  match task.request.operation, task.answer? with
  | .postOrders _, some ⟨201, .order view⟩ =>
      if sessionOf task = sessionId then database.orderedQuantity view.id productId else 0
  | _, _ => 0

/-- What the results of the session's statements are under the conditions: reads whose
parameters are taken and the clearing of the cart do not fail, updates hit one row, and
the created order is found. -/
structure Reliable (event : Event Statement Statement.Result) : Prop where
  reads : ∀ statement error, event = failed statement error →
    statement.writesCart = true ∨ statement.writesOrders = true ∨ statement.holdsNul = true
  hits : ∀ quantity productId sessionId count,
    event = passed (.increaseQuantity quantity (some productId) sessionId) count → count = 1
  finds : ∀ id rows, event = passed (.selectOrder id) rows →
    rows ≠ [] ∧ ∀ row ∈ rows, row.id = id

section Run

variable {sessionId : String} {initial : Database} {actions : List (Action Request Choice)}

/-- A result of the session is reliable when it is returned. -/
theorem execute_reliable {state : ShopState} {task : ShopTask} {command : Statement}
    {resume : command.Result → Handler} {index : Nat} {choice : Choice}
    (traced : server.Traced state) (admitted : Admitted (sessionOf task) AddsOrOrders state)
    (books : Books initial state) (present : state.tasks[index]? = some task)
    (pending : task.program = .call command resume) (working : choice.fails = false)
    (updates : UpdatesFindTheirRow (sessionOf task) state (.proceed index choice)) :
    Reliable ⟨command, (execute command choice state.store).1⟩ := by
  have member := List.mem_of_getElem? present
  have waits : task.program.pending? = some command := by
    rw [pending]
    rfl
  refine ⟨?_, ?_, ?_⟩
  · intro statement error same
    obtain ⟨rfl, failure⟩ := Event.mk.inj same
    by_contra neither
    rw [not_or, not_or, Bool.not_eq_true, Bool.not_eq_true, Bool.not_eq_true] at neither
    obtain ⟨cart, orders, taken⟩ := neither
    obtain ⟨rows, fine⟩ := execute_reads state.store working taken cart orders
    have failing : (execute command choice state.store).1 = .error error := eq_of_heq failure
    rw [fine] at failing
    simp at failing
  · intro quantity productId owner count same
    obtain ⟨rfl, hit⟩ := Event.mk.inj same
    have own := (pending_serves traced member pending).session owner rfl
    subst own
    have returned : (state.store.increaseQuantity quantity (some productId) (sessionOf task)).1 =
        .ok count := by
      have result : (execute _ choice state.store).1 = .ok count := eq_of_heq hit
      rw [(execute_ok result).2.2] at result
      exact result
    exact increaseQuantity_present (updates task present rfl productId (by rw [waits]; rfl)) returned
  · intro id rows same
    obtain ⟨rfl, found⟩ := Event.mk.inj same
    have returned : rows = (state.store.orders.get? id).toList := by
      have result : (execute _ choice state.store).1 = .ok rows := eq_of_heq found
      rw [execute_works working rfl] at result
      exact (Except.ok.inj result).symm
    have there : state.store.orders.get? id ≠ none := by
      rcases admitted task member rfl with ⟨other, quantity, adds⟩ | ⟨body, orders⟩
      · rcases postCart_pending (task_postCart traced member adds) waits with
          same | same | same | same | same <;> simp at same
      · exact (books.stored task member id
          (checkout_selectOrder (task_checkout traced member orders) waits)).1
    obtain ⟨order, stored⟩ := Option.ne_none_iff_exists'.mp there
    rw [stored] at returned
    subst returned
    refine ⟨by simp, ?_⟩
    intro row member
    obtain rfl : row = order := by simpa using member
    exact (KeyedTable.get?_sound stored).2

/-- All results of the session are reliable: an UPDATE that has returned has found its row. -/
theorem run_reliable
    (requests : server.Along (Restricted sessionId AddsOrOrders) (Service.idleState initial) actions)
    (updates : server.Along (UpdatesFindTheirRow sessionId) (Service.idleState initial) actions) :
    ∀ task ∈ (server.run (Service.idleState initial) actions).tasks, sessionOf task = sessionId →
      ∀ event ∈ task.trace, Reliable event := by
  have ruled := (requests.and updates).with_invariant
    (fun state => server.Traced state ∧ Admitted sessionId AddsOrOrders state ∧
      Books initial state) ?_ ?_
  · refine server.run_events (fun request => getSessionId request = sessionId) Reliable ?_ _ actions
      ?_ ruled
    · rintro state index choice task command resume
        ⟨⟨allowed, updates⟩, traced, admitted, books⟩ present pending own
      have mine : sessionOf task = sessionId := own
      subst mine
      exact execute_reliable traced admitted books present pending (allowed task present rfl) updates
    · intro task member
      exact absurd member (by simp)
  · rintro state action ⟨traced, admitted, books⟩ ⟨allowed, -⟩
    exact ⟨server.step_traced state action traced, step_admitted state action admitted allowed,
      step_books initial state action books⟩
  · refine ⟨server.idleState_traced initial, ?_, books_initially initial⟩
    intro task member
    exact absurd member (by simp)

/-- An add that has been answered 200 has added the quantity it acknowledges. -/
theorem acknowledged_added (productId : String) {other : String} {quantity : Int} {task : ShopTask}
    (adds : task.request.operation.Adds other quantity)
    (point : PostCartAt (sessionOf task) ⟨some other, .integer quantity⟩ task.trace task.program)
    (reliable : ∀ event ∈ task.trace, Reliable event) (answered : task.answer? ≠ none) :
    acknowledgedQuantity (sessionOf task) productId task = addedQuantity productId task.trace := by
  obtain ⟨reply, answer⟩ := Option.ne_none_iff_exists'.mp answered
  have program := (task.answer_some reply).mp answer
  have acknowledged : acknowledgedQuantity (sessionOf task) productId task =
      if reply.status = 200 ∧ other = productId then quantity else 0 := by
    unfold Operation.Adds at adds
    simp [acknowledgedQuantity, adds, answer]
  rw [acknowledged]
  rcases postCart_answered point program with
    ⟨products, existing, write, rows, stores, trace, rfl⟩ | ⟨write, error, before, trace, rfl⟩ |
      ⟨status, unsettled, -⟩
  · have recorded : write ∈ task.trace := by simp [trace]
    have added : writes [write] = [(sessionOf task, .add other quantity)] := by
      cases stores with
      | increased _ present count =>
        have hit : count = 1 :=
          (reliable _ recorded).hits (.integer quantity) other (sessionOf task) count rfl
        subst hit
        rfl
      | inserted count => rfl
    have whole : writes task.trace = [(sessionOf task, .add other quantity)] := by
      rw [trace, writes_append, writes_append, added]
      rfl
    unfold addedQuantity
    simp [whole, addedBy]
  · have recorded : failed (.selectCart (sessionOf task)) error ∈ task.trace := by simp [trace]
    have impossible := (reliable _ recorded).reads _ _ rfl
    simp [Statement.writesOrders, Statement.holdsNul] at impossible
  · simp [addedQuantity, writes_of_unsettled unsettled, status]

/-- An answered checkout has delivered what it has taken. -/
theorem delivered_taken (productId : String) {body : OrderBody} {task : ShopTask}
    {database : Database} (orders : task.request.operation = .postOrders body)
    (point : CheckoutAt (sessionOf task) body task.trace task.program)
    (reliable : ∀ event ∈ task.trace, Reliable event)
    (booked : ∀ orderId ∈ opened task.trace,
      database.orderedQuantity orderId productId = insertedQuantity orderId productId task.trace)
    (answered : task.answer? ≠ none) :
    deliveredQuantity database (sessionOf task) productId task =
      takenQuantity productId task.trace := by
  obtain ⟨reply, answer⟩ := Option.ne_none_iff_exists'.mp answered
  have program := (task.answer_some reply).mp answer
  rcases checkout_answered point program with
    ⟨order, found, items, rows, nextId, rfl, recorded, -, clearing, opens, inserts, reads⟩ |
      ⟨-, fault⟩ | ⟨status, uncleared, -⟩
  · have own : order.id = orderIdOf nextId :=
      ((reliable _ recorded).finds _ _ rfl).2 order List.mem_cons_self
    have delivered : deliveredQuantity database (sessionOf task) productId task =
        database.orderedQuantity order.id productId := by
      simp [deliveredQuantity, orders, answer, orderView]
    rw [delivered, own, booked (orderIdOf nextId) (by simp [opens])]
    unfold insertedQuantity takenQuantity quantityIn
    rw [if_pos clearing, inserts, reads]
    simp [total, newOrderItem, Function.comp_def]
  · rcases fault with ⟨statement, error, recorded, cart, books, taken⟩ | ⟨id, recorded⟩
    · have impossible := (reliable _ recorded).reads _ _ rfl
      rw [cart, books, taken] at impossible
      simp at impossible
    · exact absurd rfl ((reliable _ recorded).finds _ _ rfl).1
  · have nothing : deliveredQuantity database (sessionOf task) productId task = 0 := by
      unfold deliveredQuantity
      rw [orders, answer]
      split
      · rename_i same
        obtain rfl := Option.some.inj same
        exact absurd rfl status
      · rfl
    rw [nothing]
    exact (if_neg (by simp [uncleared])).symm

end Run

/-- Two adds, one after the other, and then a checkout. -/
def addsThenCheckout : List (Action Request Choice) :=
  .start (addSmartphone "s") :: statements 0 4 ++ .start (addSmartphone "s") :: statements 1 4 ++
    .start (checkout "s") :: statements 2 7

/-- The second add executes between the cart query and the DELETE of the checkout. -/
def addDuringCheckout : List (Action Request Choice) :=
  .start (addSmartphone "s") :: statements 0 4 ++ .start (checkout "s") :: statements 1 1 ++
    .start (addSmartphone "s") :: statements 2 4 ++ statements 1 6

end ShoppingCS.Shop
