import ShoppingCS.Shop.Conservation

/-!
# At most one checkout of a cart

Several checkouts of one session may run at once, on any server instance. Each reads the
cart in its first statement and deletes it in a much later one, and what it orders is
what it has read. Two of them deliver the same cart when the second one reads before the
first one deletes. The condition is about that window only: when the SELECT of a
checkout finds rows, no other checkout of the session may stand between its own SELECT
and its DELETE, or have left that stretch with items but without the DELETE.

The DELETE protects every later reader. The session issues checkouts only, so nothing
puts a row back, and a SELECT that is executed after any DELETE of the session finds
nothing. From this and the condition it follows that of any two checkouts that have read
rows one has ended without inserting an item.
-/

namespace ShoppingCS.Shop

open Interleaving Storage Program

/-- The order row that the statement inserts, before PostgreSQL checks it. -/
def Statement.order? : Statement → Option NewOrder
  | .insertOrder row => some row
  | _ => none

/-- A checkout that has ended without inserting an item. -/
def Fruitless (task : ShopTask) : Prop :=
  task.answer? ≠ none ∧ inserted task.trace = []

instance (task : ShopTask) : Decidable (Fruitless task) :=
  inferInstanceAs (Decidable (_ ∧ _))

/-- The checkout is past the window between its SELECT and its DELETE: it has deleted the
cart, or it has ended before its first item. -/
def Past (task : ShopTask) : Prop := cleared task.trace = true ∨ Fruitless task

instance (task : ShopTask) : Decidable (Past task) :=
  inferInstanceAs (Decidable (_ ∨ _))

/-- Every other checkout of the session that has read rows is past its window. -/
def OthersPast (sessionId : String) (index : Nat) (state : ShopState) : Prop :=
  ∀ position < state.tasks.length, position ≠ index → ∀ other ∈ state.tasks[position]?,
    sessionOf other = sessionId → readRows other.trace ≠ [] → Past other

instance (sessionId : String) (index : Nat) (state : ShopState) :
    Decidable (OthersPast sessionId index state) :=
  inferInstanceAs (Decidable (∀ position < state.tasks.length, position ≠ index →
    ∀ other ∈ state.tasks[position]?, sessionOf other = sessionId → readRows other.trace ≠ [] →
    Past other))

/-- Whenever a checkout of the session is about to read a cart that has rows, every other
one that has read rows is past its window. Only the state before the SELECT is looked at:
what is in the cart, and how far the other checkouts have come. -/
def ReadsAlone (sessionId : String) (state : ShopState) : Action Request Choice → Prop
  | .start _ => True
  | .proceed index _ => ∀ task ∈ state.tasks[index]?, sessionOf task = sessionId →
      task.program.pending? = some (.selectCheckout sessionId) →
      state.store.checkoutRows sessionId ≠ [] → OthersPast sessionId index state

instance (sessionId : String) (state : ShopState) :
    ∀ action, Decidable (ReadsAlone sessionId state action)
  | .start _ => isTrue trivial
  | .proceed index _ => inferInstanceAs (Decidable (∀ task ∈ state.tasks[index]?,
      sessionOf task = sessionId → task.program.pending? = some (.selectCheckout sessionId) →
      state.store.checkoutRows sessionId ≠ [] → OthersPast sessionId index state))

/-- The requests the result is about: checkouts, and nothing else in that session. -/
def IsCheckout (operation : Operation) : Prop := operation.isCheckout = true

instance : DecidablePred IsCheckout := fun _ => inferInstanceAs (Decidable (_ = true))

/-- A checkout has a body, which says the customer's data. -/
theorem IsCheckout.body {operation : Operation} (checkout : IsCheckout operation) :
    ∃ body, operation = .postOrders body := by
  cases operation with
  | postOrders body => exact ⟨body, rfl⟩
  | _ => simp [IsCheckout, Operation.isCheckout] at checkout

/-- Once a checkout of the session has executed its DELETE, the cart is empty. -/
def Emptied (sessionId : String) (state : ShopState) : Prop :=
  ∀ task ∈ state.tasks, sessionOf task = sessionId → cleared task.trace = true →
    state.store.cart sessionId = fun _ => none

/-- An empty cart has no rows that a checkout could read. -/
theorem checkoutRows_of_empty {database : Database} {sessionId : String}
    (empty : database.cart sessionId = fun _ => none) : database.checkoutRows sessionId = [] := by
  by_contra rows
  obtain ⟨row, listed⟩ := List.exists_mem_of_ne_nil _ rows
  obtain ⟨⟨product, quantity⟩, joined, -⟩ := List.mem_map.mp listed
  have stored := ((database.mem_joinedCart sessionId product quantity).mp joined).2
  have found : database.cart sessionId product.id = some quantity.val := by
    have present := KeyedTable.get?_complete stored
    unfold Database.cart
    exact congrArg (Option.map _) present
  rw [empty] at found
  simp at found

/-- What a checkout has read was in the cart, in the order in which the database listed
the rows. -/
theorem readBy_selectCheckout {sessionId : String} {choice : Choice} {database : Database}
    (reads : readBy ⟨.selectCheckout sessionId,
      (execute (.selectCheckout sessionId) choice database).1⟩ ≠ []) :
    database.checkoutRows sessionId ≠ [] := by
  rcases execute_cases (.selectCheckout sessionId) choice database with
    ⟨error, rejected⟩ | ⟨-, -, carried⟩
  · rw [rejected] at reads
    exact absurd rfl reads
  · intro nothing
    rw [carried] at reads
    apply reads
    show reorder choice.order (database.checkoutRows sessionId) = []
    rw [nothing]
    exact (reorder_eq_nil _ _).mpr rfl

/-- A checkout that reads after another one's DELETE finds nothing, as long as a deleted cart
stays empty. -/
theorem nothing_after_delete {sessionId : String} {state : ShopState}
    (emptied : Emptied sessionId state) {other : ShopTask} (member : other ∈ state.tasks)
    (own : sessionOf other = sessionId) (deleted : cleared other.trace = true) :
    state.store.checkoutRows sessionId = [] :=
  checkoutRows_of_empty (emptied other member own deleted)

/-- A checkout's DELETE is the only thing its session does to the cart, so the cart stays
empty after the first one. The case that matters is the task that executes: of another
session, it leaves the cart alone; of this one, it deletes or does not write. -/
theorem step_emptied {sessionId : String} {state : ShopState} {action : Action Request Choice}
    (traced : server.Traced state) (admitted : Admitted sessionId IsCheckout state)
    (emptied : Emptied sessionId state) : Emptied sessionId (server.step state action) := by
  generalize after : server.step state action = next
  have transition : server.Transition state action next := after ▸ server.step_transition state action
  cases transition with
  | idle index choice nothing => exact emptied
  | started request =>
    intro task member own deleted
    cases List.mem_append.mp member with
    | inl old => exact emptied task old own deleted
    | inr new =>
      obtain rfl := List.mem_singleton.mp new
      exact absurd deleted (by simp [Service.accept, cleared])
  | proceeded index choice task command resume present pending =>
    have member := List.mem_of_getElem? present
    have serves := pending_serves traced member pending
    have cart := cart_execute command choice state.store sessionId
    have stays (empty : state.store.cart sessionId = fun _ => none) :
        (execute command choice state.store).2.cart sessionId = fun _ => none := by
      rw [cart, empty]
      cases performs : written command (execute command choice state.store).1 with
      | none => rfl
      | some write =>
        obtain ⟨owner, operation⟩ := write
        obtain rfl := serves.session owner (written_session performs)
        by_cases own : sessionOf task = sessionId
        · have writes : command.writesCart = true := by
            cases written_writesAs performs <;> rfl
          obtain rfl := serves.clearing (admitted task member own) writes
          have clear : operation = .clear := by cases written_writesAs performs; rfl
          rw [clear, performed, if_pos own]
          rfl
        · rw [performed, if_neg own]
    intro other otherMember own deleted
    rcases List.mem_or_eq_of_mem_set otherMember with old | rfl
    · exact stays (emptied other old own deleted)
    · rw [Task.advance_trace, cleared_append, Bool.or_eq_true] at deleted
      cases deleted with
      | inl before => exact stays (emptied task member own before)
      | inr now =>
        have clears : clears ⟨command, (execute command choice state.store).1⟩ = true := by
          rw [cleared, List.any_cons, List.any_nil, Bool.or_false] at now
          exact now
        have writes : command.writesCart = true := by
          by_contra reads
          rw [clears_of_reads (Bool.eq_false_iff.mpr reads)] at clears
          simp at clears
        obtain rfl := serves.clearing (admitted task member own) writes
        show (execute (.deleteCart (sessionOf task)) choice state.store).2.cart sessionId = _
        rw [cart]
        cases returned : (execute (.deleteCart (sessionOf task)) choice state.store).1 with
        | error error =>
          rw [returned] at clears
          simp [Shop.clears] at clears
        | ok count =>
          have own' : sessionOf task = sessionId := own
          rw [written, performed, if_pos own']
          rfl

/-- Of any two checkouts of the session that have read rows, one has ended without
inserting an item. -/
def OneFruitful (sessionId : String) (state : ShopState) : Prop :=
  ∀ (i j : Nat) (first second : ShopTask), i ≠ j → state.tasks[i]? = some first →
    state.tasks[j]? = some second → sessionOf first = sessionId → sessionOf second = sessionId →
    readRows first.trace ≠ [] → readRows second.trace ≠ [] → Fruitless first ∨ Fruitless second

/-- Rows are read at one point only: by the SELECT of the session, from a cart that has
them. -/
theorem reads_now {state : ShopState} (traced : server.Traced state) {task : ShopTask}
    (member : task ∈ state.tasks) {command : Statement} {resume : command.Result → Handler}
    (pending : task.program = .call command resume) {choice : Choice}
    (before : readRows task.trace = [])
    (reads : readRows (task.advance command resume
      (execute command choice state.store).1).trace ≠ []) :
    task.program.pending? = some (.selectCheckout (sessionOf task)) ∧
      state.store.checkoutRows (sessionOf task) ≠ [] := by
  rw [Task.advance_trace, readRows_append, before, List.nil_append] at reads
  have now : readBy ⟨command, (execute command choice state.store).1⟩ ≠ [] := by
    simpa [readRows] using reads
  by_cases asks : ∃ owner, command = .selectCheckout owner
  · obtain ⟨owner, rfl⟩ := asks
    obtain rfl := (pending_serves traced member pending).session owner rfl
    exact ⟨by rw [pending]; rfl, readBy_selectCheckout now⟩
  · exact absurd (readBy_other (fun owner same => asks ⟨owner, same⟩) _) now

/-- A step keeps the fruitful checkouts apart. A second reader is stopped by the cart, if
another checkout has deleted it, and by the condition, if another one still may order
what it has read. -/
theorem step_oneFruitful {sessionId : String} {state : ShopState} {action : Action Request Choice}
    (traced : server.Traced state) (emptied : Emptied sessionId state)
    (alone : ReadsAlone sessionId state action) (fruitful : OneFruitful sessionId state) :
    OneFruitful sessionId (server.step state action) := by
  generalize after : server.step state action = next
  have transition : server.Transition state action next := after ▸ server.step_transition state action
  cases transition with
  | idle index choice nothing => exact fruitful
  | started request =>
    have known (position : Nat) (task : ShopTask)
        (present : (state.tasks ++ [server.accept request])[position]? = some task)
        (reads : readRows task.trace ≠ []) : state.tasks[position]? = some task := by
      cases Nat.lt_or_ge position state.tasks.length with
      | inl inside => rwa [List.getElem?_append_left inside] at present
      | inr outside =>
        rw [List.getElem?_append_right outside] at present
        obtain rfl := List.mem_singleton.mp (List.mem_of_getElem? present)
        exact absurd rfl reads
    intro i j first second different foundFirst foundSecond ownFirst ownSecond readsFirst readsSecond
    exact fruitful i j first second different (known i first foundFirst readsFirst)
      (known j second foundSecond readsSecond) ownFirst ownSecond readsFirst readsSecond
  | proceeded index choice task command resume present pending =>
    have member := List.mem_of_getElem? present
    have against (position : Nat) (other : ShopTask) (different : position ≠ index)
        (found : state.tasks[position]? = some other) (own : sessionOf task = sessionId)
        (ownOther : sessionOf other = sessionId) (readsOther : readRows other.trace ≠ [])
        (reads : readRows (task.advance command resume
          (server.perform command choice state.store).1).trace ≠ []) : Fruitless other := by
      by_cases before : readRows task.trace = []
      · obtain ⟨waits, rows⟩ := reads_now traced member pending before reads
        rw [own] at waits rows
        have past := alone task present own waits rows position
          (List.getElem?_eq_some_iff.mp found).1 different other found ownOther readsOther
        cases past with
        | inl deleted =>
          exact absurd (nothing_after_delete emptied (List.mem_of_getElem? found) ownOther deleted)
            rows
        | inr fruitless => exact fruitless
      · rcases fruitful position index other task different found present ownOther own readsOther
          before with fruitless | ⟨answered, -⟩
        · exact fruitless
        · exact absurd (task.pending_unanswered pending) answered
    intro i j first second different foundFirst foundSecond ownFirst ownSecond readsFirst readsSecond
    rcases set_lookup foundFirst with ⟨rfl, rfl⟩ | ⟨notFirst, oldFirst⟩
    · rcases set_lookup foundSecond with ⟨rfl, -⟩ | ⟨notSecond, oldSecond⟩
      · exact absurd rfl different
      · exact Or.inr (against j second notSecond oldSecond ownFirst ownSecond readsSecond readsFirst)
    · rcases set_lookup foundSecond with ⟨rfl, rfl⟩ | ⟨notSecond, oldSecond⟩
      · exact Or.inl (against i first notFirst oldFirst ownSecond ownFirst readsFirst readsSecond)
      · exact fruitful i j first second different oldFirst oldSecond ownFirst ownSecond readsFirst
          readsSecond

/-- In every run of checkouts that read alone, the fruitful ones are apart. -/
theorem run_oneFruitful {sessionId : String} {initial : Database}
    {actions : List (Action Request Choice)}
    (requests : server.Along (Restricted sessionId IsCheckout) (Service.idleState initial) actions)
    (alone : server.Along (ReadsAlone sessionId) (Service.idleState initial) actions) :
    OneFruitful sessionId (server.run (Service.idleState initial) actions) := by
  exact (server.run_invariant
    (fun state => server.Traced state ∧ Admitted sessionId IsCheckout state ∧
      Emptied sessionId state ∧ OneFruitful sessionId state)
    (fun state action kept met =>
      ⟨server.step_traced state action kept.1, step_admitted state action kept.2.1 met.1,
        step_emptied kept.1 kept.2.1 kept.2.2.1,
        step_oneFruitful kept.1 kept.2.2.1 met.2 kept.2.2.2⟩)
    (Service.idleState initial) actions
    ⟨server.idleState_traced initial, fun task member => absurd member (by simp),
      fun task member => absurd member (by simp),
      fun i j first second _ found => absurd found (by simp)⟩ (requests.and alone)).2.2.2

/-- A checkout that has inserted its order row has read rows before. -/
theorem opened_reads {sessionId : String} {body : OrderBody} {trace : Trace} {program : Handler}
    (point : CheckoutAt sessionId body trace program) (opens : opened trace ≠ []) :
    readRows trace ≠ [] := by
  cases checkout_entered point with
  | nothing none => exact absurd none opens
  | order rows done left nextId nonempty split _ inserts reads =>
    rw [reads]
    exact nonempty

/-- The order was created by a request of the session. -/
def CreatedBy (sessionId orderId : String) (state : ShopState) : Prop :=
  ∃ task ∈ state.tasks, sessionOf task = sessionId ∧ orderId ∈ opened task.trace

/-- A stored item of an order that a task has created was inserted by that task. -/
theorem inserted_of_item {initial : Database} {state : ShopState} (traced : server.Traced state)
    (books : Books initial state) {item : OrderItem} (stored : item ∈ state.store.orderItems)
    {index : Nat} {task : ShopTask} (present : state.tasks[index]? = some task)
    (creates : item.orderId ∈ opened task.trace) : inserted task.trace ≠ [] := by
  have member := List.mem_of_getElem? present
  rcases books.sourced item stored with old | ⟨other, otherMember, row, entry, order, -⟩
  · have new := (books.stored task member item.orderId creates).2
    have there := initial.itemOrders item old
    simp [new] at there
  · obtain ⟨position, found⟩ := List.mem_iff_getElem?.mp otherMember
    have opens := inserted_opened traced otherMember entry
    rw [order] at opens
    obtain rfl := books.owned position index other task found present item.orderId opens creates
    obtain rfl : other = task := Option.some.inj (found.symm.trans present)
    exact fun empty => by simp [empty] at entry

section Answers

variable {sessionId : String} {state : ShopState}

/-- A checkout that has been answered 201 has inserted its order row and at least one item,
since it refuses an empty cart. -/
theorem created_inserted (traced : server.Traced state)
    (admitted : Admitted sessionId IsCheckout state) {task : ShopTask} (member : task ∈ state.tasks)
    (own : sessionOf task = sessionId) (created : task.answer?.map Reply.status = some 201) :
    opened task.trace ≠ [] ∧ inserted task.trace ≠ [] := by
  obtain ⟨body, orders⟩ := (admitted task member own).body
  obtain ⟨reply, answer, status⟩ := Option.map_eq_some_iff.mp created
  have point := task_checkout traced member orders
  rcases checkout_answered point ((task.answer_some reply).mp answer) with
    ⟨order, found, items, rows, nextId, -, -, nonempty, -, opens, inserts, -⟩ | ⟨rfl, -⟩ |
      ⟨other, -⟩
  · exact ⟨by simp [opens], by simpa [inserts] using nonempty⟩
  · exact absurd status (by decide)
  · exact absurd status other

/-- A checkout inserts one order row at most, so all its items are of one order. -/
theorem opened_unique (traced : server.Traced state)
    (admitted : Admitted sessionId IsCheckout state) {task : ShopTask} (member : task ∈ state.tasks)
    (own : sessionOf task = sessionId) {first second : String} (opensFirst : first ∈ opened task.trace)
    (opensSecond : second ∈ opened task.trace) : first = second := by
  obtain ⟨body, orders⟩ := (admitted task member own).body
  cases checkout_entered (task_checkout traced member orders) with
  | nothing opens => simp [opens] at opensFirst
  | order rows done left nextId nonempty split opens =>
    simp only [opens, List.mem_singleton] at opensFirst opensSecond
    rw [opensFirst, opensSecond]

/-- Two checkouts of the session that have both inserted an order row and items are one:
both have read rows, and of two such checkouts one is without items. -/
theorem OneFruitful.unique (fruitful : OneFruitful sessionId state) (traced : server.Traced state)
    (admitted : Admitted sessionId IsCheckout state) {i j : Nat} {first second : ShopTask}
    (foundFirst : state.tasks[i]? = some first) (foundSecond : state.tasks[j]? = some second)
    (ownFirst : sessionOf first = sessionId) (ownSecond : sessionOf second = sessionId)
    (filledFirst : opened first.trace ≠ [] ∧ inserted first.trace ≠ [])
    (filledSecond : opened second.trace ≠ [] ∧ inserted second.trace ≠ []) : i = j := by
  by_contra different
  have reads {task : ShopTask} (member : task ∈ state.tasks) (own : sessionOf task = sessionId)
      (opens : opened task.trace ≠ []) : readRows task.trace ≠ [] := by
    obtain ⟨body, orders⟩ := (admitted task member own).body
    exact opened_reads (task_checkout traced member orders) opens
  rcases fruitful i j first second different foundFirst foundSecond ownFirst ownSecond
    (reads (List.mem_of_getElem? foundFirst) ownFirst filledFirst.1)
    (reads (List.mem_of_getElem? foundSecond) ownSecond filledSecond.1) with
    ⟨-, nothing⟩ | ⟨-, nothing⟩
  · exact filledFirst.2 nothing
  · exact filledSecond.2 nothing

end Answers

/-- At most one checkout of a cart. If no checkout of the session reads rows while another
one is between its SELECT and its DELETE, or has given up in between with items inserted,
then at most one is answered 201, and no product is in two of the session's orders. -/
theorem checkout_once (sessionId : String) (initial : Database)
    (actions : List (Action Request Choice))
    (requests : server.Along (Restricted sessionId IsCheckout) (Service.idleState initial) actions)
    (alone : server.Along (ReadsAlone sessionId) (Service.idleState initial) actions) :
    (∀ (i j : Nat) (first second : ShopTask),
      (server.run (Service.idleState initial) actions).tasks[i]? = some first →
      (server.run (Service.idleState initial) actions).tasks[j]? = some second →
      sessionOf first = sessionId → sessionOf second = sessionId →
      first.answer?.map Reply.status = some 201 → second.answer?.map Reply.status = some 201 →
      i = j) ∧
      ∀ first ∈ (server.run (Service.idleState initial) actions).store.orderItems,
      ∀ second ∈ (server.run (Service.idleState initial) actions).store.orderItems,
      first.productId = second.productId →
      CreatedBy sessionId first.orderId (server.run (Service.idleState initial) actions) →
      CreatedBy sessionId second.orderId (server.run (Service.idleState initial) actions) →
      first.orderId = second.orderId := by
  have fruitful := run_oneFruitful requests alone
  have admitted := server.run_invariant (Admitted sessionId IsCheckout) step_admitted
    (Service.idleState initial) actions (fun task member => absurd member (by simp)) requests
  have traced := server.run_traced _ actions (server.idleState_traced initial)
  have books := run_books initial actions
  generalize server.run (Service.idleState initial) actions = final at *
  constructor
  · intro i j first second foundFirst foundSecond ownFirst ownSecond createdFirst createdSecond
    apply fruitful.unique traced admitted foundFirst foundSecond ownFirst ownSecond
    · exact created_inserted traced admitted (List.mem_of_getElem? foundFirst) ownFirst createdFirst
    · exact created_inserted traced admitted (List.mem_of_getElem? foundSecond) ownSecond createdSecond
  · rintro first storedFirst second storedSecond -
      ⟨firstTask, firstMember, ownFirst, opensFirst⟩
      ⟨secondTask, secondMember, ownSecond, opensSecond⟩
    obtain ⟨i, foundFirst⟩ := List.mem_iff_getElem?.mp firstMember
    obtain ⟨j, foundSecond⟩ := List.mem_iff_getElem?.mp secondMember
    have fillsFirst := inserted_of_item traced books storedFirst foundFirst opensFirst
    have fillsSecond := inserted_of_item traced books storedSecond foundSecond opensSecond
    obtain rfl := fruitful.unique traced admitted foundFirst foundSecond ownFirst ownSecond
      ⟨List.ne_nil_of_mem opensFirst, fillsFirst⟩ ⟨List.ne_nil_of_mem opensSecond, fillsSecond⟩
    obtain rfl : firstTask = secondTask := Option.some.inj (foundFirst.symm.trans foundSecond)
    exact opened_unique traced admitted firstMember ownFirst opensFirst opensSecond

/-- A database in which the session has one smartphone in its cart. -/
def smartphoneInCart : Database :=
  (server.run (Service.idleState freshDatabase)
    (.start (addSmartphone "s") :: statements 0 4)).store

/-- Two checkouts of one session, one after the other, the second with the one statement it
needs to be refused. -/
def checkoutsInTurn : List (Action Request Choice) :=
  [.start (checkout "s"), .start (checkout "s")] ++ statements 0 7 ++ statements 1 1

/-- The second of them finds the cart empty, so at most one of the two is fruitful. -/
theorem checkouts_in_turn_once :
    (∀ (i j : Nat) (first second : ShopTask),
      (server.run (Service.idleState smartphoneInCart) checkoutsInTurn).tasks[i]? = some first →
      (server.run (Service.idleState smartphoneInCart) checkoutsInTurn).tasks[j]? = some second →
      sessionOf first = "s" → sessionOf second = "s" →
      first.answer?.map Reply.status = some 201 → second.answer?.map Reply.status = some 201 →
      i = j) ∧
      ∀ first ∈ (server.run (Service.idleState smartphoneInCart) checkoutsInTurn).store.orderItems,
      ∀ second ∈ (server.run (Service.idleState smartphoneInCart) checkoutsInTurn).store.orderItems,
      first.productId = second.productId →
      CreatedBy "s" first.orderId (server.run (Service.idleState smartphoneInCart) checkoutsInTurn) →
      CreatedBy "s" second.orderId (server.run (Service.idleState smartphoneInCart) checkoutsInTurn) →
      first.orderId = second.orderId :=
  checkout_once "s" smartphoneInCart checkoutsInTurn (by decide) (by decide)

/-- Two checkouts that both read the cart before either deletes it. -/
def checkoutsAtOnce : List (Action Request Choice) :=
  [.start (checkout "s"), .start (checkout "s")] ++ statements 0 1 ++ statements 1 1 ++
    statements 0 6 ++ statements 1 6

/-- Both are answered 201, and the one smartphone is in two orders, because the second
checkout has read the cart before the first one deletes it. -/
theorem checkouts_at_once_twice :
    smartphoneInCart.cart "s" "1" = some 1 ∧
      server.Along (Restricted "s" IsCheckout) (Service.idleState smartphoneInCart)
        checkoutsAtOnce ∧
      (server.run (Service.idleState smartphoneInCart) checkoutsAtOnce).tasks.map
        (fun task => task.answer?.map Reply.status) = [some 201, some 201] ∧
      (server.run (Service.idleState smartphoneInCart) checkoutsAtOnce).store.orderItems.map
        (fun item => (item.orderId, item.productId)) = [("ORD-1", "1"), ("ORD-2", "1")] := by
  refine ⟨?_, ?_, ?_, ?_⟩ <;> decide

end ShoppingCS.Shop
