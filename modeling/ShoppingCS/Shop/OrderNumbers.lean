import ShoppingCS.Shop.CheckoutOnce

/-!
# Order numbers of independent checkouts

An order id is one more than a COUNT, and becomes a primary key two statements
later. Since orders are never deleted, the ids in use are always exactly those
from 1 to the number of orders, whatever the interleaving. A count is therefore
usable only while it is up to date: a checkout succeeds if no order was inserted
since it counted, and collides if one was, even one of another session.
-/

namespace ShoppingCS.Shop

open Interleaving Storage Program

/-- The ids in use are those from 1 to the number of orders. -/
def Database.Numbered (database : Database) : Prop :=
  ∀ number, database.orders.get? (orderIdOf number) ≠ none ↔
    1 ≤ number ∧ number ≤ database.orders.rows.length

/-- The number a statement has computed for an order. -/
def countedBy : Event Statement Statement.Result → Option Nat
  | ⟨.selectNextId, .ok nextId⟩ => some nextId
  | _ => none

/-- The numbers a trace has computed, each by a count of the orders. -/
def counted (trace : Trace) : List Nat := trace.filterMap countedBy

/-- The orders are numbered, and no task holds a number beyond the next one. -/
structure Numbering (state : ShopState) : Prop where
  ids : state.store.Numbered
  counts : ∀ task ∈ state.tasks, ∀ number ∈ counted task.trace,
    1 ≤ number ∧ number ≤ state.store.orders.rows.length + 1

/-- A number is computed from the orders there are. -/
theorem countedBy_execute {statement : Statement} {choice : Choice} {database : Database}
    {number : Nat}
    (counts : countedBy ⟨statement, (execute statement choice database).1⟩ = some number) :
    number = database.orders.rows.length + 1 ∧ ∀ row, statement ≠ .insertOrder row := by
  unfold countedBy at counts
  split at counts
  · rename_i nextId same
    obtain ⟨rfl, result⟩ := Event.mk.inj same
    obtain rfl : nextId = number := Option.some.inj counts
    refine ⟨?_, by simp⟩
    by_cases failing : choice.fails = true
    · rw [execute_fails _ choice database failing] at result
      exact absurd (eq_of_heq result) (by simp)
    · have returned := eq_of_heq result
      simp [execute, Statement.holdsNul, carryOut, failing] at returned
      exact returned.symm
  · simp at counts

/-- A checkout inserts its order under the number it has computed. -/
theorem pending_numbered {state : ShopState} (traced : server.Traced state) {task : ShopTask}
    (member : task ∈ state.tasks) {command : Statement} {resume : command.Result → Handler}
    (pending : task.program = .call command resume) {row : NewOrder}
    (orders : command.order? = some row) :
    ∃ number ∈ counted task.trace, row.id = orderIdOf number := by
  cases command with
  | insertOrder other =>
    obtain rfl : other = row := Option.some.inj orders
    obtain ⟨body, point⟩ := checkout_of_writesOrders traced member pending rfl
    have waits : task.program.pending? = some (.insertOrder other) := by
      rw [pending]
      rfl
    obtain ⟨rows, nextId, customer, -, -, trace, rfl⟩ := checkout_insertOrder point waits
    refine ⟨nextId, ?_, rfl⟩
    rw [trace]
    exact .head _
  | _ => simp [Statement.order?] at orders

/-- An order that is inserted takes the next number: its task has counted one between the
first and the next, and the numbers below the next are taken. -/
theorem opened_next {state : ShopState} (traced : server.Traced state) (numbering : Numbering state)
    {task : ShopTask} (member : task ∈ state.tasks) {command : Statement}
    {resume : command.Result → Handler} (pending : task.program = .call command resume)
    {choice : Choice} {id : String}
    (entry : openedBy ⟨command, (execute command choice state.store).1⟩ = some id) :
    (∃ row, command = .insertOrder row) ∧ id = orderIdOf (state.store.orders.rows.length + 1) := by
  obtain ⟨free, -⟩ := Database.execute_opens entry
  unfold openedBy at entry
  split at entry
  · rename_i row rows same
    obtain ⟨rfl, -⟩ := Event.mk.inj same
    obtain rfl : row.id = id := Option.some.inj entry
    refine ⟨⟨row, rfl⟩, ?_⟩
    obtain ⟨number, counts, named⟩ := pending_numbered traced member pending
      (rfl : (Statement.insertOrder row).order? = some row)
    have bounds := numbering.counts task member number counts
    have last : number = state.store.orders.rows.length + 1 := by
      by_contra earlier
      have taken := (numbering.ids number).mpr (by omega)
      rw [named] at free
      exact taken free
    rw [named, last]
  · simp at entry

/-- Every step keeps the numbering: a count is at most one above the orders, and these have
the numbers up to their count. -/
theorem step_numbering {state : ShopState} (action : Action Request Choice)
    (traced : server.Traced state) (numbering : Numbering state) :
    Numbering (server.step state action) := by
  generalize after : server.step state action = next
  have transition : server.Transition state action next := after ▸ server.step_transition state action
  cases transition with
  | idle index choice nothing => exact numbering
  | started request =>
    refine ⟨numbering.ids, ?_⟩
    intro task member number entry
    cases List.mem_append.mp member with
    | inl member => exact numbering.counts task member number entry
    | inr member =>
      obtain rfl := List.mem_singleton.mp member
      exact absurd entry (by simp [Service.accept, counted])
  | proceeded index choice task command resume present pending =>
    have member := List.mem_of_getElem? present
    have entries (number : Nat) (entry : number ∈ counted (task.advance command resume
        (server.perform command choice state.store).1).trace) : number ∈ counted task.trace ∨
        countedBy ⟨command, (execute command choice state.store).1⟩ = some number := by
      rw [Task.advance_trace] at entry
      obtain ⟨event, recorded, counts⟩ := List.mem_filterMap.mp entry
      cases List.mem_append.mp recorded with
      | inl recorded => exact Or.inl (List.mem_filterMap.mpr ⟨event, recorded, counts⟩)
      | inr recorded =>
        obtain rfl := List.mem_singleton.mp recorded
        exact Or.inr counts
    rcases Database.execute_orders command choice state.store with
      ⟨stored, entry, accepted⟩ | ⟨-, same⟩
    · obtain ⟨⟨other, rfl⟩, storedId⟩ := opened_next traced numbering member pending entry
      obtain ⟨-, appended⟩ := KeyedTable.insert?_eq_some.mp accepted
      have length : (server.perform (.insertOrder other) choice state.store).2.orders.rows.length =
          state.store.orders.rows.length + 1 := by
        have contents : (server.perform (.insertOrder other) choice state.store).2.orders.rows =
            state.store.orders.rows ++ [stored] := appended
        rw [contents, List.length_append, List.length_singleton]
      constructor
      · intro wanted
        have found : (server.perform (.insertOrder other) choice state.store).2.orders.get?
            (orderIdOf wanted) = if stored.id = orderIdOf wanted then some stored
              else state.store.orders.get? (orderIdOf wanted) :=
          KeyedTable.get?_insert accepted (orderIdOf wanted)
        rw [found, length]
        by_cases here : state.store.orders.rows.length + 1 = wanted
        · have same : stored.id = orderIdOf wanted := here ▸ storedId
          rw [if_pos same]
          simp only [ne_eq, reduceCtorEq, not_false_eq_true, true_iff]
          omega
        · have different : stored.id ≠ orderIdOf wanted := by
            rw [storedId]
            exact fun same => here (orderIdOf_injective same)
          rw [if_neg different, numbering.ids wanted]
          omega
      · intro task' member' wanted entered
        rw [length]
        rcases List.mem_or_eq_of_mem_set member' with old | rfl
        · have before := numbering.counts task' old wanted entered
          omega
        · cases entries wanted entered with
          | inl earlier =>
            have before := numbering.counts task member wanted earlier
            omega
          | inr now => exact absurd rfl ((countedBy_execute now).2 other)
    · have contents : (server.perform command choice state.store).2.orders = state.store.orders :=
        same
      constructor
      · intro wanted
        rw [contents]
        exact numbering.ids wanted
      · intro task' member' wanted entered
        rw [contents]
        rcases List.mem_or_eq_of_mem_set member' with old | rfl
        · exact numbering.counts task' old wanted entered
        · cases entries wanted entered with
          | inl earlier => exact numbering.counts task member wanted earlier
          | inr now =>
            have exact := (countedBy_execute now).1
            omega

/-- Without orders at the beginning, they are numbered after every run. -/
theorem run_numbering {initial : Database} (empty : initial.orders.rows = [])
    (actions : List (Action Request Choice)) :
    Numbering (server.run (Service.idleState initial) actions) := by
  have initially : Numbering (Service.idleState initial) := by
    refine ⟨?_, fun task member => absurd member (by simp)⟩
    intro number
    have absent : initial.orders.get? (orderIdOf number) = none := by
      rw [KeyedTable.get?_eq_none, empty]
      simp
    simp only [Service.idleState_store, absent, empty, List.length_nil, ne_eq, not_true_eq_false,
      false_iff]
    omega
  exact (server.run_always (fun state => server.Traced state ∧ Numbering state)
    (fun state action both =>
      ⟨server.step_traced state action both.1, step_numbering action both.1 both.2⟩)
    (Service.idleState initial) actions ⟨server.idleState_traced initial, initially⟩).2

/-- A content the database can have: what some run leaves that began without
orders. -/
def Reachable (database : Database) : Prop :=
  ∃ (initial : Database) (actions : List (Action Request Choice)),
    initial.orders.rows = [] ∧ (server.run (Service.idleState initial) actions).store = database

/-- Every reachable database is numbered, since it began without orders. -/
theorem Reachable.numbered {database : Database} (reachable : Reachable database) :
    database.Numbered := by
  obtain ⟨initial, actions, empty, rfl⟩ := reachable
  exact (run_numbering empty actions).ids

/-- Only checkouts are accepted, each of a session that has none, and no
connection is lost. -/
def SeparateCheckouts (state : ShopState) : Action Request Choice → Prop
  | .start request => IsCheckout request.operation ∧
      ∀ task ∈ state.tasks, sessionOf task ≠ getSessionId request
  | .proceed _ choice => choice.fails = false

instance (state : ShopState) : ∀ action, Decidable (SeparateCheckouts state action)
  | .start request => inferInstanceAs (Decidable (IsCheckout request.operation ∧
      ∀ task ∈ state.tasks, sessionOf task ≠ getSessionId request))
  | .proceed _ choice => inferInstanceAs (Decidable (choice.fails = false))

/-- Whenever a checkout is about to insert its order, there are still as many
orders as it has counted. -/
def CountsUpToDate (state : ShopState) : Action Request Choice → Prop
  | .start _ => True
  | .proceed index _ => ∀ task ∈ state.tasks[index]?,
      task.program.pending?.bind Statement.order? ≠ none → ∀ number ∈ counted task.trace,
      number = state.store.orders.rows.length + 1

instance (state : ShopState) : ∀ action, Decidable (CountsUpToDate state action)
  | .start _ => isTrue trivial
  | .proceed index _ => inferInstanceAs (Decidable (∀ task ∈ state.tasks[index]?,
      task.program.pending?.bind Statement.order? ≠ none → ∀ number ∈ counted task.trace,
      number = state.store.orders.rows.length + 1))

/-- What holds while checkouts of different sessions run on a database. -/
structure CheckingOut (database : Database) (state : ShopState) : Prop where
  traced : server.Traced state
  books : Books database state
  numbering : Numbering state
  products : state.store.products = database.products
  checkouts : ∀ task ∈ state.tasks, IsCheckout task.request.operation
  apart : ∀ (i j : Nat) (first second : ShopTask), state.tasks[i]? = some first →
    state.tasks[j]? = some second → sessionOf first = sessionOf second → i = j
  carts : ∀ sessionId, (∀ task ∈ state.tasks, sessionOf task = sessionId →
    cleared task.trace = false) → state.store.cartRows sessionId = database.cartRows sessionId
  read : ∀ task ∈ state.tasks, readRows task.trace = [] ∨
    (readRows task.trace).Perm (database.checkoutRows (sessionOf task))

/-- Clearing one cart leaves the rows of the others in place. -/
theorem cartRows_deleteCart (database : Database) {owner sessionId : String}
    (other : owner ≠ sessionId) :
    (database.deleteCart owner).2.cartRows sessionId = database.cartRows sessionId := by
  have kept : (database.deleteCart owner).2.cartItems.rows =
      database.cartItems.rows.filter (fun row => decide (row.sessionId ≠ owner)) := rfl
  unfold Database.cartRows
  rw [kept, List.filter_filter]
  refine List.filter_congr (fun row _ => ?_)
  by_cases own : row.sessionId = sessionId
  · have different : ¬ sessionId = owner := fun same => other same.symm
    simp [own, different]
  · simp [own]

/-- The rows of a checkout come from the products and the cart rows. -/
theorem checkoutRows_congr {database other : Database} {sessionId : String}
    (products : other.products = database.products)
    (rows : other.cartRows sessionId = database.cartRows sessionId) :
    other.checkoutRows sessionId = database.checkoutRows sessionId := by
  unfold Database.checkoutRows Database.joinedCart
  rw [products, rows]

/-- A checkout changes the rows of a cart only by clearing it. -/
theorem cartRows_of_checkout {state : ShopState} (traced : server.Traced state)
    {task : ShopTask} (member : task ∈ state.tasks) (isCheckout : IsCheckout task.request.operation)
    {command : Statement} {resume : command.Result → Handler}
    (pending : task.program = .call command resume) (choice : Choice) (sessionId : String)
    (keeps : sessionOf task ≠ sessionId ∨
      clears ⟨command, (execute command choice state.store).1⟩ = false) :
    (execute command choice state.store).2.cartRows sessionId = state.store.cartRows sessionId := by
  by_cases writes : command.writesCart = true
  · obtain rfl := (pending_serves traced member pending).clearing isCheckout writes
    by_cases failing : choice.fails = true
    · rw [execute_fails _ choice state.store failing]
    · have executed : execute (.deleteCart (sessionOf task)) choice state.store =
          state.store.deleteCart (sessionOf task) :=
    execute_works (Bool.eq_false_iff.mpr failing) rfl _
      rw [executed] at keeps ⊢
      cases keeps with
      | inl other => exact cartRows_deleteCart state.store other
      | inr impossible => simp [Database.deleteCart, clears] at impossible
  · have same := (Database.execute_tables command choice state.store).2.2.2
      (Bool.eq_false_iff.mpr writes)
    unfold Database.cartRows
    rw [same]

/-- A list extended by one element has it at the end and the old ones before. -/
theorem append_lookup {α : Type} {items : List α} {position : Nat} {new found : α}
    (looked : (items ++ [new])[position]? = some found) :
    (position = items.length ∧ found = new) ∨ items[position]? = some found := by
  rcases Nat.lt_trichotomy position items.length with inside | rfl | outside
  · rw [List.getElem?_append_left inside] at looked
    exact Or.inr looked
  · rw [List.getElem?_append_right (Nat.le_refl _), Nat.sub_self] at looked
    exact Or.inl ⟨rfl, (Option.some.inj looked).symm⟩
  · rw [List.getElem?_eq_none (by simp; omega)] at looked
    simp at looked

/-- A checkout of a session that has none yet changes nothing: it has read no rows, and it is
apart from the others because its session is. -/
theorem CheckingOut.accepted {database : Database} {state : ShopState}
    (checking : CheckingOut database state) {request : Request}
    (separate : SeparateCheckouts state (.start request)) :
    CheckingOut database (server.step state (.start request)) where
  traced := server.step_traced state _ checking.traced
  books := step_books database state _ checking.books
  numbering := step_numbering _ checking.traced checking.numbering
  products := checking.products
  checkouts := by
    intro task member
    cases List.mem_append.mp member with
    | inl member => exact checking.checkouts task member
    | inr member =>
      obtain rfl := List.mem_singleton.mp member
      exact separate.1
  apart := by
    intro i j first second foundFirst foundSecond same
    rcases append_lookup foundFirst with ⟨rfl, rfl⟩ | oldFirst
    · rcases append_lookup foundSecond with ⟨rfl, -⟩ | oldSecond
      · rfl
      · exact absurd same.symm (separate.2 second (List.mem_of_getElem? oldSecond))
    · rcases append_lookup foundSecond with ⟨rfl, rfl⟩ | oldSecond
      · exact absurd same (separate.2 first (List.mem_of_getElem? oldFirst))
      · exact checking.apart i j first second oldFirst oldSecond same
  carts := by
    intro sessionId uncleared
    exact checking.carts sessionId
      (fun task member => uncleared task (List.mem_append_left _ member))
  read := by
    intro task member
    cases List.mem_append.mp member with
    | inl member => exact checking.read task member
    | inr member =>
      obtain rfl := List.mem_singleton.mp member
      exact Or.inl rfl

section Statement

variable {database : Database} {state : ShopState} {index : Nat} {task : ShopTask}
  {command : Statement} {resume : command.Result → Handler}

/-- A cart that no checkout has cleared with the statement had not been cleared before it
either, since the trace of the checkout that executes it only grows. -/
theorem uncleared_before (present : state.tasks[index]? = some task)
    {result : command.Result} {sessionId : String}
    (uncleared : ∀ other ∈ state.tasks.set index (task.advance command resume result),
      sessionOf other = sessionId → cleared other.trace = false) :
    (∀ other ∈ state.tasks, sessionOf other = sessionId → cleared other.trace = false) ∧
      (sessionOf task = sessionId → clears ⟨command, result⟩ = false) := by
  have inside : task.advance command resume result ∈
      state.tasks.set index (task.advance command resume result) :=
    List.mem_set (List.getElem?_eq_some_iff.mp present).1 _
  have both (own : sessionOf task = sessionId) :
      cleared task.trace = false ∧ cleared [⟨command, result⟩] = false := by
    have later := uncleared _ inside own
    rw [Task.advance_trace, cleared_append, Bool.or_eq_false_iff] at later
    exact later
  constructor
  · intro other member own
    obtain ⟨position, found⟩ := List.mem_iff_getElem?.mp member
    by_cases here : position = index
    · subst here
      obtain rfl : other = task := Option.some.inj (found.symm.trans present)
      exact (both own).1
    · have kept : (state.tasks.set index (task.advance command resume result))[position]? =
          some other := by
        rw [List.getElem?_set_ne (fun equal => here equal.symm)]
        exact found
      exact uncleared other (List.mem_of_getElem? kept) own
  · intro own
    have last := (both own).2
    simp only [cleared, List.any_cons, List.any_nil, Bool.or_false] at last
    exact last

/-- A cart that has not been cleared is still the one of the database that the run has
started on: the statement of a checkout changes a cart only by clearing it. -/
theorem CheckingOut.carts_kept (checking : CheckingOut database state)
    (present : state.tasks[index]? = some task) (pending : task.program = .call command resume)
    (choice : Choice) {sessionId : String}
    (uncleared : ∀ other ∈ state.tasks.set index
        (task.advance command resume (execute command choice state.store).1),
      sessionOf other = sessionId → cleared other.trace = false) :
    (execute command choice state.store).2.cartRows sessionId = database.cartRows sessionId := by
  obtain ⟨before, now⟩ := uncleared_before present uncleared
  have member := List.mem_of_getElem? present
  have keeps : sessionOf task ≠ sessionId ∨
      clears ⟨command, (execute command choice state.store).1⟩ = false := by
    by_cases own : sessionOf task = sessionId
    · exact Or.inr (now own)
    · exact Or.inl own
  have same := cartRows_of_checkout checking.traced member (checking.checkouts task member) pending
    choice sessionId keeps
  exact same.trans (checking.carts sessionId before)

/-- The rows that a checkout selects are those that its session had at the start. It has read
none before, so it has not cleared its cart, and nobody else has its session. -/
theorem CheckingOut.selects (checking : CheckingOut database state)
    (present : state.tasks[index]? = some task) (unread : task.trace = []) {choice : Choice}
    (working : choice.fails = false) :
    (execute (.selectCheckout (sessionOf task)) choice state.store).1 =
      .ok (reorder choice.order (database.checkoutRows (sessionOf task))) := by
  have uncleared : ∀ other ∈ state.tasks, sessionOf other = sessionOf task →
      cleared other.trace = false := by
    intro other member same
    obtain ⟨position, found⟩ := List.mem_iff_getElem?.mp member
    obtain rfl := checking.apart position index other task found present same
    obtain rfl : other = task := Option.some.inj (found.symm.trans present)
    rw [unread]
    rfl
  have same := checkoutRows_congr checking.products (checking.carts _ uncleared)
  rw [← same]
  exact congrArg Prod.fst (execute_works working rfl _)

/-- What a checkout has read stays a rearrangement of the rows its session had at the start. -/
theorem CheckingOut.read_kept (checking : CheckingOut database state)
    (present : state.tasks[index]? = some task) (pending : task.program = .call command resume)
    {choice : Choice} (working : choice.fails = false) :
    readRows (task.advance command resume (execute command choice state.store).1).trace = [] ∨
      (readRows (task.advance command resume (execute command choice state.store).1).trace).Perm
        (database.checkoutRows (sessionOf task)) := by
  have member := List.mem_of_getElem? present
  have reads : readRows (task.advance command resume (execute command choice state.store).1).trace =
      readRows task.trace ++ readBy ⟨command, (execute command choice state.store).1⟩ := by
    rw [Task.advance_trace, readRows_append]
    simp [readRows]
  rw [reads]
  by_cases asks : ∃ owner, command = .selectCheckout owner
  · obtain ⟨body, orders⟩ := (checking.checkouts task member).body
    have point := task_checkout checking.traced member orders
    obtain ⟨owner, rfl⟩ := asks
    have unread := checkout_selectCheckout point (by rw [pending]; rfl)
    obtain rfl := (pending_serves checking.traced member pending).session owner rfl
    rw [checking.selects present unread working, unread]
    exact Or.inr (reorder_perm _ _)
  · have silent := readBy_other (fun owner same => asks ⟨owner, same⟩)
      (execute command choice state.store).1
    rw [silent, List.append_nil]
    exact checking.read task member

end Statement

/-- Every such step keeps all of it. A new checkout is of a session of its own, and a statement
that works changes neither the products nor a cart other than the one it clears. -/
theorem step_checkingOut {database : Database} {state : ShopState} {action : Action Request Choice}
    (checking : CheckingOut database state) (separate : SeparateCheckouts state action) :
    CheckingOut database (server.step state action) := by
  cases action with
  | start request => exact checking.accepted separate
  | proceed index choice =>
    have traced := server.step_traced state (.proceed index choice) checking.traced
    have books := step_books database state (.proceed index choice) checking.books
    have numbering := step_numbering (.proceed index choice) checking.traced checking.numbering
    have products := (step_products state (.proceed index choice)).trans checking.products
    generalize after : server.step state (.proceed index choice) = next at *
    have transition : server.Transition state (.proceed index choice) next :=
      after ▸ server.step_transition state (.proceed index choice)
    cases transition with
    | idle index choice nothing => exact checking
    | proceeded index choice task command resume present pending =>
      have member := List.mem_of_getElem? present
      refine ⟨traced, books, numbering, products, ?_, ?_, ?_, ?_⟩
      · intro other otherMember
        rcases List.mem_or_eq_of_mem_set otherMember with old | rfl
        · exact checking.checkouts other old
        · exact checking.checkouts task member
      · intro i j first second foundFirst foundSecond same
        rcases set_lookup foundFirst with ⟨rfl, rfl⟩ | ⟨-, oldFirst⟩
        · rcases set_lookup foundSecond with ⟨rfl, -⟩ | ⟨-, oldSecond⟩
          · rfl
          · exact checking.apart i j task second present oldSecond same
        · rcases set_lookup foundSecond with ⟨rfl, rfl⟩ | ⟨-, oldSecond⟩
          · exact checking.apart i j first task oldFirst present same
          · exact checking.apart i j first second oldFirst oldSecond same
      · intro sessionId uncleared
        exact checking.carts_kept present pending choice uncleared
      · intro other otherMember
        rcases List.mem_or_eq_of_mem_set otherMember with old | rfl
        · exact checking.read other old
        · exact checking.read_kept present pending separate

/-- The order that the body and the session's cart lead to fits the columns of the
order tables: no text of the body holds U+0000 or is too long, the amounts are in range,
and there is something to order. -/
structure Orderable (database : Database) (sessionId : String) (customer : CustomerFields) :
    Prop where
  nonempty : database.cartRows sessionId ≠ []
  name : nullable 255 customer.customerName ≠ none
  email : nullable 255 customer.customerEmail ≠ none
  address : nullableText customer.customerAddress ≠ none
  phone : nullable 50 customer.customerPhone ≠ none
  total : Decimal.ofCents? (totalAmount (database.checkoutRows sessionId)) ≠ none
  subtotals : ∀ row ∈ database.checkoutRows sessionId, Decimal.ofCents? row.subtotal ≠ none

/-- The total does not depend on the order of the rows. -/
theorem totalAmount_perm {rows other : List CheckoutRow} (same : rows.Perm other) :
    totalAmount rows = totalAmount other := by
  rw [totalAmount_eq_sum, totalAmount_eq_sum]
  exact (same.map CheckoutRow.subtotal).sum_eq

/-- The cart query lists every row of the cart. -/
theorem checkoutRows_ne_nil {database : Database} {sessionId : String}
    (nonempty : database.cartRows sessionId ≠ []) : database.checkoutRows sessionId ≠ [] := by
  obtain ⟨row, stored⟩ := List.exists_mem_of_ne_nil _ nonempty
  obtain ⟨member, own⟩ := List.mem_filter.mp stored
  obtain ⟨product, found⟩ := Option.isSome_iff_exists.mp (database.cartProducts row member)
  obtain ⟨known, id⟩ := KeyedTable.get?_sound found
  have session : row.sessionId = sessionId := by simpa using own
  have joined : (product, row.quantity) ∈ database.joinedCart sessionId := by
    rw [Database.mem_joinedCart]
    refine ⟨known, ?_⟩
    rw [id, ← session]
    exact member
  exact List.ne_nil_of_mem (List.mem_map_of_mem joined)

/-- The faults that end a checkout without a 201. -/
def Orderly (event : Event Statement Statement.Result) : Prop :=
  (∀ statement error, event ≠ failed statement error) ∧
    (∀ id, event ≠ passed (.selectOrder id) []) ∧
    ∀ sessionId, event ≠ passed (.selectCheckout sessionId) []

/-- A statement that returned rows, and was none of the two lookups, is orderly. -/
theorem orderly_of_ok {statement : Statement} {result : statement.Result} {rows : statement.Rows}
    (fine : result = .ok rows) (order : ∀ id, statement ≠ .selectOrder id)
    (cart : ∀ sessionId, statement ≠ .selectCheckout sessionId) :
    Orderly ⟨statement, result⟩ :=
  ⟨ok_ne_failed fine, fun id same => order id (Event.mk.inj same).1,
    fun sessionId same => cart sessionId (Event.mk.inj same).1⟩

/-- Before the session's checkout clears the cart, the cart query returns the rows
of the original cart. -/
theorem checkingOut_rows {database : Database} {state : ShopState}
    (checking : CheckingOut database state) {index : Nat} {task : ShopTask}
    (present : state.tasks[index]? = some task) (uncleared : cleared task.trace = false) :
    state.store.checkoutRows (sessionOf task) = database.checkoutRows (sessionOf task) := by
  refine checkoutRows_congr checking.products (checking.carts _ ?_)
  intro other otherMember same
  obtain ⟨position, found⟩ := List.mem_iff_getElem?.mp otherMember
  obtain rfl := checking.apart position index other task found present same
  obtain rfl : other = task := Option.some.inj (found.symm.trans present)
  exact uncleared

/-- An order inserted under an up-to-date count is accepted. -/
theorem insertOrder_upToDate {database : Database} {state : ShopState}
    (checking : CheckingOut database state) {index : Nat} {task : ShopTask} {choice : Choice}
    (present : state.tasks[index]? = some task) {customer : CustomerFields}
    (orders : task.request.operation = .postOrders (.fields customer))
    (orderable : Orderable database (sessionOf task) customer) {row : NewOrder}
    (waits : task.program.pending? = some (.insertOrder row)) (working : choice.fails = false)
    (upToDate : CountsUpToDate state (.proceed index choice)) :
    (execute (.insertOrder row) choice state.store).1 = .ok 1 := by
  have member := List.mem_of_getElem? present
  obtain ⟨rows, nextId, other, nonempty, same, trace, rfl⟩ :=
    checkout_insertOrder (task_checkout checking.traced member orders) waits
  obtain rfl : customer = other := by simpa using same
  have latest := upToDate task present (by rw [waits]; simp [Statement.order?]) nextId
    (by rw [trace]; exact .head _)
  have free : state.store.orders.get? (newOrder nextId customer rows).id = none := by
    by_contra taken
    have bounds := (checking.numbering.ids nextId).mp taken
    omega
  have whole : rows.Perm (database.checkoutRows (sessionOf task)) := by
    have reads : readRows task.trace = rows := by
      rw [trace]
      exact List.append_nil rows
    cases checking.read task member with
    | inl empty => exact absurd (reads.symm.trans empty) nonempty
    | inr whole => exact reads ▸ whole
  have fits := @Database.orderRow?_ne_none (newOrder nextId customer rows) choice.now orderable.name
    orderable.email orderable.address orderable.phone (by
      show Decimal.ofCents? (totalAmount rows) ≠ none
      rw [totalAmount_perm whole]
      exact orderable.total)
  have accepted := Database.insertOrder_free fits free
  simpa [execute, Statement.holdsNul, carryOut, working] using accepted

/-- An item of an orderable cart is accepted: its order is there, its product exists, and its
subtotal fits. -/
theorem insertItem_orderable {database : Database} {state : ShopState}
    (checking : CheckingOut database state) {index : Nat} {task : ShopTask} {choice : Choice}
    (present : state.tasks[index]? = some task) {customer : CustomerFields}
    (orders : task.request.operation = .postOrders (.fields customer))
    (orderable : Orderable database (sessionOf task) customer) {row : NewOrderItem}
    (waits : task.program.pending? = some (.insertOrderItem row)) (working : choice.fails = false) :
    (execute (.insertOrderItem row) choice state.store).1 = .ok 1 := by
  have member := List.mem_of_getElem? present
  obtain ⟨rows, done, item, left, nextId, split, opens, -, reads, rfl⟩ :=
    checkout_insertItem (task_checkout checking.traced member orders) waits
  have listed : item ∈ database.checkoutRows (sessionOf task) := by
    cases checking.read task member with
    | inl empty =>
      rw [reads, split] at empty
      simp at empty
    | inr whole =>
      rw [reads, split] at whole
      exact whole.mem_iff.mp (by simp)
  have ordered := (checking.books.stored task member (orderIdOf nextId) (by simp [opens])).1
  have known : state.store.products.get? item.productId ≠ none := by
    rw [checking.products]
    exact Database.checkoutRows_known listed
  have accepted := @Database.insertOrderItem_known state.store (newOrderItem nextId item)
    (orderable.subtotals item listed) ordered known
  simpa [execute, Statement.holdsNul, carryOut, working] using accepted

/-- No statement of an orderable checkout has a fault, as long as counts are up to
date. -/
theorem execute_orderly {database : Database} {state : ShopState}
    (checking : CheckingOut database state) {index : Nat} {task : ShopTask} {choice : Choice}
    (present : state.tasks[index]? = some task) {customer : CustomerFields}
    (orders : task.request.operation = .postOrders (.fields customer))
    (orderable : Orderable database (sessionOf task) customer) {command : Statement}
    {resume : command.Result → Handler} (pending : task.program = .call command resume)
    (working : choice.fails = false) (upToDate : CountsUpToDate state (.proceed index choice)) :
    Orderly ⟨command, (execute command choice state.store).1⟩ := by
  have member := List.mem_of_getElem? present
  have point := task_checkout checking.traced member orders
  have waits : task.program.pending? = some command := by
    rw [pending]
    rfl
  rcases checkout_statements point waits with
    rfl | rfl | ⟨row, rfl⟩ | ⟨row, rfl⟩ | rfl | ⟨id, rfl⟩ | ⟨id, rfl⟩
  · have empty := checkout_selectCheckout point waits
    have rows : (execute (.selectCheckout (sessionOf task)) choice state.store).1 =
        .ok (reorder choice.order (database.checkoutRows (sessionOf task))) := by
      rw [← checkingOut_rows checking present (by rw [empty]; rfl)]
      simp [execute, Statement.holdsNul, carryOut, working]
    refine ⟨ok_ne_failed rows, fun id same => by simpa using (Event.mk.inj same).1, ?_⟩
    intro owner same
    obtain ⟨owners, result⟩ := Event.mk.inj same
    obtain rfl : sessionOf task = owner := by simpa using owners
    rw [rows] at result
    have nothing := Except.ok.inj (eq_of_heq result)
    exact checkoutRows_ne_nil orderable.nonempty ((reorder_eq_nil _ _).mp nothing)
  · have rows : (execute .selectNextId choice state.store).1 =
        .ok (state.store.orders.rows.length + 1) := congrArg Prod.fst (execute_works working rfl _)
    exact orderly_of_ok rows (by simp) (by simp)
  · exact orderly_of_ok
      (insertOrder_upToDate checking present orders orderable waits working upToDate)
      (by simp) (by simp)
  · exact orderly_of_ok (insertItem_orderable checking present orders orderable waits working)
      (by simp) (by simp)
  · have rows : (execute (.deleteCart (sessionOf task)) choice state.store).1 =
        .ok (state.store.cartRows (sessionOf task)).length := by
      simp [execute, Statement.holdsNul, carryOut, working, Database.deleteCart]
    exact orderly_of_ok rows (by simp) (by simp)
  · have rows : (execute (.selectOrder id) choice state.store).1 =
        .ok (state.store.orders.get? id).toList := congrArg Prod.fst (execute_works working rfl _)
    have there := (checking.books.stored task member id (checkout_selectOrder point waits)).1
    refine ⟨ok_ne_failed rows, ?_, fun owner same => by simpa using (Event.mk.inj same).1⟩
    intro other same
    obtain ⟨ids, result⟩ := Event.mk.inj same
    obtain rfl : id = other := by simpa using ids
    rw [rows] at result
    have nothing := Except.ok.inj (eq_of_heq result)
    exact there (Option.toList_eq_nil_iff.mp nothing)
  · have rows : (execute (.selectOrderItems id) choice state.store).1 =
        .ok (reorder choice.order (state.store.orderItems.filter
          (fun item => decide (item.orderId = id)))) :=
      congrArg Prod.fst (execute_works working rfl _)
    exact orderly_of_ok rows (by simp) (by simp)

/-- At the beginning nobody has checked out, and the carts are those the condition speaks of.
-/
theorem checkingOut_initially {database : Database} (numbered : database.Numbered) :
    CheckingOut database (Service.idleState database) where
  traced := server.idleState_traced database
  books := books_initially database
  numbering := ⟨numbered, fun task member => absurd member (by simp)⟩
  products := rfl
  checkouts := fun task member => absurd member (by simp)
  apart := fun i j first second found => absurd found (by simp)
  carts := fun _ _ => rfl
  read := fun task member => absurd member (by simp)

/-- Independent checkouts. From every reachable database, when no order is
inserted between the count and the INSERT of another checkout, every checkout of
a non-empty cart that fits the columns is answered 201, after six statements and
one for each item. -/
theorem separate_checkouts_succeed (database : Database) (reachable : Reachable database)
    (actions : List (Action Request Choice))
    (separate : server.Along SeparateCheckouts (Service.idleState database) actions)
    (upToDate : server.Along CountsUpToDate (Service.idleState database) actions) :
    ∀ task ∈ (server.run (Service.idleState database) actions).tasks, ∀ customer,
      task.request.operation = .postOrders (.fields customer) →
      Orderable database (sessionOf task) customer →
      (∀ reply, task.answer? = some reply → reply.status = 201) ∧
        (task.answer? = none → task.program.pending? ≠ none ∧
          task.trace.length < 6 + (database.checkoutRows (sessionOf task)).length) := by
  have initially := checkingOut_initially reachable.numbered
  have ruled := (separate.and upToDate).with_invariant (CheckingOut database)
    (fun state action checking met => step_checkingOut checking met.1) initially
  have orderly := server.run_events
    (fun request => ∃ customer, request.operation = .postOrders (.fields customer) ∧
      Orderable database (getSessionId request) customer) Orderly (by
        rintro state index choice task command resume ⟨⟨working, current⟩, checking⟩ present pending
          ⟨customer, orders, orderable⟩
        exact execute_orderly checking present orders orderable pending working current)
    _ actions (fun task member => absurd member (by simp)) ruled
  have checking := server.run_invariant (CheckingOut database)
    (fun state action checking met => step_checkingOut checking met) _ actions initially separate
  generalize server.run (Service.idleState database) actions = final at *
  intro task member customer orders orderable
  have point := task_checkout checking.traced member orders
  have sound := orderly task member ⟨customer, orders, orderable⟩
  constructor
  · intro reply answer
    rcases checkout_answered point ((task.answer_some reply).mp answer) with
      ⟨order, found, items, rows, nextId, rfl, -⟩ |
        ⟨-, ⟨statement, error, recorded, -⟩ | ⟨id, recorded⟩⟩ |
        ⟨-, -, unreadable | recorded | ⟨statement, error, recorded⟩⟩
    · rfl
    · exact absurd rfl ((sound _ recorded).1 statement error)
    · exact absurd rfl ((sound _ recorded).2.1 id)
    · exact absurd rfl (unreadable customer)
    · exact absurd rfl ((sound _ recorded).2.2 (sessionOf task))
    · exact absurd rfl ((sound _ recorded).1 statement error)
  · intro unanswered
    have running := checkout_running point (by
      intro reply program
      have answer := (task.answer_some reply).mpr program
      simp [answer] at unanswered)
    refine ⟨running.1, ?_⟩
    cases checking.read task member with
    | inl empty =>
      have length := running.2
      rw [empty, List.length_nil] at length
      omega
    | inr whole =>
      have length := running.2
      rw [whole.length_eq] at length
      exact length

/-- A database in which two sessions have one smartphone each in their carts. -/
def twoCarts : Database :=
  (server.run (Service.idleState freshDatabase)
    (.start (addSmartphone "a") :: statements 0 4 ++
      .start (addSmartphone "b") :: statements 1 4)).store

/-- Two adds, in two sessions, lead to the database with a smartphone in each cart. -/
theorem twoCarts_reachable : Reachable twoCarts := ⟨freshDatabase, _, rfl, rfl⟩

/-- Two checkouts that overlap, but not between count and INSERT. -/
def countsInTurn : List (Action Request Choice) :=
  [.start (checkout "a"), .start (checkout "b")] ++ statements 0 1 ++ statements 1 1 ++
    statements 0 2 ++ statements 1 6 ++ statements 0 4

/-- Each of the two sessions has one smartphone to order, which meets all conditions on carts.
-/
theorem twoCarts_orderable : Orderable twoCarts "b" ⟨none, none, none, none⟩ := by
  refine ⟨?_, ?_, ?_, ?_, ?_, ?_, ?_⟩ <;> decide

/-- Both are answered 201; so is the one that begins second. -/
theorem counts_in_turn_succeed :
    ∃ task ∈ (server.run (Service.idleState twoCarts) countsInTurn).tasks,
      task.request = checkout "b" ∧ ∃ reply, task.answer? = some reply ∧ reply.status = 201 := by
  refine ⟨_, List.mem_of_getElem? (i := 1) rfl, rfl, _, rfl, ?_⟩
  exact (separate_checkouts_succeed twoCarts twoCarts_reachable countsInTurn (by decide) (by decide)
    _ (List.mem_of_getElem? (i := 1) rfl) ⟨none, none, none, none⟩ rfl twoCarts_orderable).1 _ rfl

/-- Two checkouts that both count before either inserts, so they count the same number. -/
def countsAtOnce : List (Action Request Choice) :=
  [.start (checkout "a"), .start (checkout "b")] ++ statements 0 2 ++ statements 1 2 ++
    statements 0 5 ++ statements 1 1

/-- The second one is answered 400, although its cart is there and everything fits:
the id it has computed is taken by the order of the other session. -/
theorem counts_at_once_collide :
    Reachable twoCarts ∧
      server.Along SeparateCheckouts (Service.idleState twoCarts) countsAtOnce ∧
      Orderable twoCarts "b" ⟨none, none, none, none⟩ ∧
      (server.run (Service.idleState twoCarts) countsAtOnce).tasks.map
        (fun task => task.answer?.map Reply.status) = [some 201, some 400] := by
  exact ⟨twoCarts_reachable, by decide, twoCarts_orderable, by decide⟩

end ShoppingCS.Shop
