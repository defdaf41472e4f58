import ShoppingCS.Shop.Conservation

/-!
# Concurrent adds of one product

Any number of POSTs of one product by one session, interleaved statement by
statement, are all acknowledged and add up, provided no INSERT runs when another
add has already created the row. With the row absent at the start, two adds that
both look before either writes break the condition, and the later one is refused
by the unique constraint.

An UPDATE, in contrast, never misses here: a row that was seen stays.
-/

namespace ShoppingCS.Shop

open Interleaving Storage Program

/-- A POST of at least one piece of the product. -/
def AddsOf (productId : String) (operation : Operation) : Prop :=
  ∃ quantity, 1 ≤ quantity ∧ operation.Adds productId quantity

instance (productId : String) : DecidablePred (AddsOf productId) := fun operation =>
  decidable_of_iff (∃ addition ∈ operation.addition?, addition.1 = productId ∧ 1 ≤ addition.2) (by
    constructor
    · rintro ⟨⟨other, quantity⟩, same, rfl, positive⟩
      exact ⟨quantity, positive, addition?_eq_some.mp same⟩
    · rintro ⟨quantity, positive, adds⟩
      exact ⟨(productId, quantity), addition?_eq_some.mpr adds, rfl, positive⟩)

/-- The statement inserts a cart row, which is where two concurrent adds of a new product
conflict. -/
def Statement.insertsCartItem : Statement → Bool
  | .insertCartItem _ _ _ => true
  | _ => false

/-- Whenever an add of the session is about to insert its row, no other add has
created it, and the session id fits its column. -/
def InsertsFindNoRow (sessionId productId : String) (state : ShopState) :
    Action Request Choice → Prop
  | .start _ => True
  | .proceed index _ => ∀ task ∈ state.tasks[index]?, sessionOf task = sessionId →
      (task.program.pending?.map Statement.insertsCartItem) = some true →
      state.store.cart sessionId productId = none ∧ sessionId.length ≤ 255

instance (sessionId productId : String) (state : ShopState) :
    ∀ action, Decidable (InsertsFindNoRow sessionId productId state action)
  | .start _ => isTrue trivial
  | .proceed index _ => inferInstanceAs (Decidable (∀ task ∈ state.tasks[index]?,
      sessionOf task = sessionId →
      (task.program.pending?.map Statement.insertsCartItem) = some true →
      state.store.cart sessionId productId = none ∧ sessionId.length ≤ 255))

/-- The quantity a request of the session asks to add, and nothing for those of other
sessions. -/
def requestedQuantity (sessionId : String) (task : ShopTask) : Int :=
  if sessionOf task = sessionId then (task.request.operation.addition?.map Prod.snd).getD 0 else 0

/-- An add of the product has at most entered what it asks for. -/
theorem entry_requested {sessionId productId : String} {state : ShopState}
    (traced : server.Traced state) (admitted : Admitted sessionId (AddsOf productId) state)
    {task : ShopTask} (member : task ∈ state.tasks) :
    cartEntry sessionId productId task ≤ requestedQuantity sessionId task := by
  unfold cartEntry requestedQuantity
  by_cases own : sessionOf task = sessionId
  · obtain ⟨quantity, positive, adds⟩ := admitted task member own
    have point := task_postCart traced member adds
    have untaken := postCart_untaken productId point
    have asked : (task.request.operation.addition?.map Prod.snd).getD 0 = quantity := by
      simp [addition?_eq_some.mpr adds]
    rw [if_pos own, if_pos own, asked, untaken]
    cases postCart_added point with
    | inl none =>
      simp only [addedQuantity, none, total_nil]
      omega
    | inr one =>
      simp only [addedQuantity, one, total_cons, total_nil, addedBy, if_pos]
      omega
  · rw [if_neg own, if_neg own]

/-- An add that has seen a row will find it. -/
def SeenStays (sessionId productId : String) (state : ShopState) : Prop :=
  ∀ task ∈ state.tasks, sessionOf task = sessionId → ∀ existing,
    passed (.selectCartItem (some productId) sessionId) existing ∈ task.trace → existing ≠ [] →
    state.store.cart sessionId productId ≠ none

/-- No cart operation of an add takes a product out of the cart. -/
theorem step_keeps_row {sessionId productId other : String} {state : ShopState}
    {action : Action Request Choice} (traced : server.Traced state)
    (admitted : Admitted sessionId (AddsOf other) state)
    (present : state.store.cart sessionId productId ≠ none) :
    (server.step state action).store.cart sessionId productId ≠ none := by
  generalize after : server.step state action = next
  have transition : server.Transition state action next := after ▸ server.step_transition state action
  cases transition with
  | started request => exact present
  | idle index choice nothing => exact present
  | proceeded index choice task command resume located pending =>
    have member := List.mem_of_getElem? located
    by_cases own : sessionOf task = sessionId
    · subst own
      obtain ⟨quantity, -, adds⟩ := admitted task member rfl
      have point := task_postCart traced member adds
      have performs := postCart_written point (by rw [pending]; rfl)
        (server.perform command choice state.store).1
      have changed : (server.perform command choice state.store).2.cart (sessionOf task) =
          performed (sessionOf task) (written command (server.perform command choice state.store).1)
            (state.store.cart (sessionOf task)) := cart_execute command choice state.store _
      rw [changed]
      cases performs with
      | inl none =>
        rw [none]
        exact present
      | inr one =>
        rw [one]
        by_cases same : productId = other
        · simp [performed, CartOperation.apply, same]
        · simp [performed, CartOperation.apply, same, present]
    · have same : (server.perform command choice state.store).2.cart sessionId =
          state.store.cart sessionId := cart_of_other traced member pending own choice
      rw [same]
      exact present

/-- A row that an add has seen stays in the table at every step, since nobody of the session
removes rows. -/
theorem step_seenStays {sessionId productId : String} {state : ShopState}
    {action : Action Request Choice} (traced : server.Traced state)
    (admitted : Admitted sessionId (AddsOf productId) state)
    (seen : SeenStays sessionId productId state) :
    SeenStays sessionId productId (server.step state action) := by
  have keeps := @step_keeps_row sessionId productId productId state action traced admitted
  generalize after : server.step state action = next at keeps
  have transition : server.Transition state action next := after ▸ server.step_transition state action
  cases transition with
  | started request =>
    intro task member own existing recorded nonempty
    cases List.mem_append.mp member with
    | inl member => exact seen task member own existing recorded nonempty
    | inr member =>
      obtain rfl := List.mem_singleton.mp member
      exact absurd recorded (by simp [Service.accept])
  | idle index choice nothing => exact seen
  | proceeded index choice task command resume present pending =>
    intro other member own existing recorded nonempty
    rcases List.mem_or_eq_of_mem_set member with member | rfl
    · exact keeps (seen other member own existing recorded nonempty)
    · rw [Task.advance_trace] at recorded
      cases List.mem_append.mp recorded with
      | inl recorded =>
        exact keeps (seen task (List.mem_of_getElem? present) own existing recorded nonempty)
      | inr recorded =>
        obtain ⟨rfl, result⟩ := Event.mk.inj (List.mem_singleton.mp recorded)
        exact keeps (selectCartItem_found (eq_of_heq result).symm nonempty)

/-- What holds at every point of a run of adds. -/
structure Adding (sessionId productId : String) (initial : Database) (state : ShopState) : Prop where
  traced : server.Traced state
  admitted : Admitted sessionId (AddsOf productId) state
  seen : SeenStays sessionId productId state
  products : state.store.products = initial.products
  ledger : state.store.quantityOf sessionId productId =
    initial.quantityOf sessionId productId + total (cartEntry sessionId productId) state.tasks

/-- Adds of a product are requests the ledger accounts for. -/
theorem AddsOf.accounted {productId : String} {operation : Operation}
    (adds : AddsOf productId operation) : AddsOrOrders operation := by
  obtain ⟨quantity, -, adds⟩ := adds
  exact Or.inl ⟨productId, quantity, adds⟩

/-- An add never waits to clear a cart, so the condition about clearing is met. -/
theorem adding_deletes {sessionId productId : String} {state : ShopState}
    (traced : server.Traced state) (admitted : Admitted sessionId (AddsOf productId) state)
    (action : Action Request Choice) : DeletesWhatWasRead sessionId state action := by
  cases action with
  | start request => trivial
  | proceed index choice =>
    intro task present own waits
    have member := List.mem_of_getElem? present
    obtain ⟨quantity, -, adds⟩ := admitted task member own
    rcases postCart_pending (task_postCart traced member adds) waits with
      same | same | same | same | same <;> simp at same

/-- Every restricted step keeps all parts of the invariant, by the step lemma of each. -/
theorem step_adding {sessionId productId : String} {initial : Database} {state : ShopState}
    {action : Action Request Choice} (adding : Adding sessionId productId initial state)
    (restricted : Restricted sessionId (AddsOf productId) state action) :
    Adding sessionId productId initial (server.step state action) where
  traced := server.step_traced state action adding.traced
  admitted := step_admitted state action adding.admitted restricted
  seen := step_seenStays adding.traced adding.admitted adding.seen
  products := (step_products state action).trans adding.products
  ledger := by
    have balanced := step_cartLedger sessionId productId state action adding.traced
      (fun task member own => (adding.admitted task member own).accounted)
      (adding_deletes adding.traced adding.admitted action)
    have before := adding.ledger
    omega

/-- The requested total never falls, as requests are only added to the list of tasks. -/
theorem step_requested {sessionId productId : String} {state : ShopState}
    {action : Action Request Choice}
    (restricted : Restricted sessionId (AddsOf productId) state action) :
    total (requestedQuantity sessionId) state.tasks ≤
      total (requestedQuantity sessionId) (server.step state action).tasks := by
  generalize after : server.step state action = next
  have transition : server.Transition state action next := after ▸ server.step_transition state action
  cases transition with
  | started request =>
    have asked : 0 ≤ requestedQuantity sessionId (server.accept request) := by
      unfold requestedQuantity
      split
      · rename_i own
        obtain ⟨quantity, positive, adds⟩ := restricted own
        have same : (server.accept request).request.operation.addition? =
            some (productId, quantity) := addition?_eq_some.mpr adds
        simp only [same, Option.map_some, Option.getD_some]
        omega
      · exact Int.le_refl 0
    simp only [total_append, total_cons, total_nil]
    omega
  | idle index choice nothing => exact Int.le_refl _
  | proceeded index choice task command resume present pending =>
    have same : requestedQuantity sessionId
        (task.advance command resume (server.perform command choice state.store).1) =
        requestedQuantity sessionId task := rfl
    rw [total_set _ _ _ _ _ present, same]
    omega

/-- Before an add writes, the requested total still has room for it. -/
theorem adding_room {sessionId productId : String} {initial : Database} {state : ShopState}
    (adding : Adding sessionId productId initial state) {index : Nat} {task : ShopTask}
    (present : state.tasks[index]? = some task) (own : sessionOf task = sessionId)
    {quantity : Int} (adds : task.request.operation.Adds productId quantity)
    {command : Statement} (waits : task.program.pending? = some command)
    (writing : command.writesCart = true) :
    state.store.quantityOf sessionId productId + quantity ≤
      initial.quantityOf sessionId productId + total (requestedQuantity sessionId) state.tasks := by
  have member := List.mem_of_getElem? present
  have gap := total_gap (cartEntry sessionId productId) state.tasks index task present
    (fun other otherMember => entry_requested adding.traced adding.admitted otherMember)
  have asked : requestedQuantity sessionId task = quantity := by
    simp [requestedQuantity, own, addition?_eq_some.mpr adds]
  have unwritten : cartEntry sessionId productId task = 0 := by
    obtain ⟨products, existing, trace, -⟩ :=
      postCart_storing (task_postCart adding.traced member adds) waits writing
    unfold cartEntry
    rw [trace]
    split <;> rfl
  have ledger := adding.ledger
  omega

/-- The faults that end an add without a 200: a failed statement, and a product that is not
found. -/
def Faultless (productId : String) (event : Event Statement Statement.Result) : Prop :=
  (∀ statement error, event ≠ failed statement error) ∧
    event ≠ passed (.selectProduct (some productId)) []

theorem faultless_of_ok {productId : String} {statement : Statement}
    {result : statement.Result} {rows : statement.Rows} (fine : result = .ok rows)
    (other : statement ≠ .selectProduct (some productId)) :
    Faultless productId ⟨statement, result⟩ :=
  ⟨ok_ne_failed fine, fun same => other (Event.mk.inj same).1⟩

/-- Under the conditions no statement of an add has a fault. -/
theorem execute_faultless {productId : String} {initial : Database} {state : ShopState}
    {index : Nat} {task : ShopTask} {choice : Choice} {command : Statement}
    {resume : command.Result → Handler} (adding : Adding (sessionOf task) productId initial state)
    (present : state.tasks[index]? = some task) (pending : task.program = .call command resume)
    (working : choice.fails = false) (known : (initial.products.get? productId).isSome = true)
    (gap : InsertsFindNoRow (sessionOf task) productId state (.proceed index choice))
    (requested : total (requestedQuantity (sessionOf task)) state.tasks ≤ 2147483647)
    (sum : initial.quantityOf (sessionOf task) productId +
      total (requestedQuantity (sessionOf task)) state.tasks ≤ 2147483647) :
    Faultless productId ⟨command, (execute command choice state.store).1⟩ := by
  have member := List.mem_of_getElem? present
  have waits : task.program.pending? = some command := by
    rw [pending]
    rfl
  obtain ⟨quantity, positive, adds⟩ := adding.admitted task member rfl
  have point := task_postCart adding.traced member adds
  have small : quantity ≤ 2147483647 := by
    have positives : ∀ other ∈ state.tasks, 0 ≤ requestedQuantity (sessionOf task) other := by
      intro other otherMember
      unfold requestedQuantity
      split
      · rename_i own
        obtain ⟨amount, atLeast, same⟩ := adding.admitted other otherMember own
        simp only [addition?_eq_some.mpr same, Option.map_some, Option.getD_some]
        omega
      · exact Int.le_refl 0
    have below := total_gap (fun _ : ShopTask => 0) state.tasks index task present positives
    have asked : requestedQuantity (sessionOf task) task = quantity := by
      simp [requestedQuantity, addition?_eq_some.mpr adds]
    have zero : total (fun _ : ShopTask => 0) state.tasks = 0 := by simp [total]
    omega
  have clean := Database.productId_clean (Option.isSome_iff_ne_none.mp known)
  rcases postCart_pending point waits with rfl | rfl | rfl | rfl | rfl
  · have rows : (execute (.selectProduct (some productId)) choice state.store).1 =
        .ok (initial.products.get? productId).toList := by
      simp [execute, Statement.holdsNul, carryOut, working, clean, adding.products]
    obtain ⟨product, found⟩ := Option.isSome_iff_exists.mp known
    refine ⟨ok_ne_failed rows, ?_⟩
    intro same
    have empty := eq_of_heq (Event.mk.inj same).2
    rw [rows, found] at empty
    exact absurd empty (by simp)
  · have rows : (execute (.selectCartItem (some productId) (sessionOf task)) choice state.store).1 =
        .ok (state.store.cartItems.get? (productId, sessionOf task)).toList := by
      simp [execute, Statement.holdsNul, carryOut, working, clean]
    exact faultless_of_ok rows (by simp)
  · have room := adding_room adding present rfl adds waits rfl
    obtain ⟨products, existing, trace, ⟨nonempty, -⟩ | impossible⟩ := postCart_storing point waits rfl
    · have there := adding.seen task member rfl existing (by simp [trace]) nonempty
      obtain ⟨row, found⟩ : ∃ row,
          state.store.cartItems.get? (productId, sessionOf task) = some row := by
        rw [← Option.ne_none_iff_exists']
        exact fun absent => there (by simp [Database.cart, absent])
      have stored : state.store.quantityOf (sessionOf task) productId = row.quantity.val := by
        simp [Database.quantityOf, Database.cart, found]
      have lower := row.quantity.property.1
      have hit := Database.increaseQuantity_hit quantity found (by omega) (by omega)
      have executed : (execute (.increaseQuantity (.integer quantity) (some productId)
          (sessionOf task)) choice state.store).1 = .ok 1 := by
        simpa [execute, Statement.holdsNul, carryOut, working, clean] using hit
      exact faultless_of_ok executed (by simp)
    · simp at impossible
  · have free := gap task present rfl (by rw [waits]; rfl)
    have absent : state.store.cartItems.get? (productId, sessionOf task) = none := by
      simpa [Database.cart] using free.1
    have product : (state.store.products.get? productId).isSome = true := by
      rw [adding.products]
      exact known
    have accepted := Database.insertCartItem_free quantity absent product (by omega) free.2
    have executed : (execute (.insertCartItem (some productId) (.integer quantity)
        (sessionOf task)) choice state.store).1 = .ok 1 := by
      simpa [execute, Statement.holdsNul, carryOut, working, clean] using accepted
    exact faultless_of_ok executed (by simp)
  · have rows : (execute (.selectCart (sessionOf task)) choice state.store).1 =
        .ok (reorder choice.order (state.store.joinedCart (sessionOf task))) :=
      congrArg Prod.fst (execute_works working rfl _)
    exact faultless_of_ok rows (by simp)

section Run

variable {sessionId productId : String} {initial : Database}
  {actions : List (Action Request Choice)}

/-- At the beginning nothing has been added and nothing requested, so both sides of the
equation are equal. -/
theorem adding_initially (sessionId productId : String) (initial : Database) :
    Adding sessionId productId initial (Service.idleState initial) where
  traced := server.idleState_traced initial
  admitted := fun task member => absurd member (by simp)
  seen := fun task member => absurd member (by simp)
  products := rfl
  ledger := by simp

/-- No statement of the session has a fault in a run that meets the conditions. -/
theorem run_faultless (known : (initial.products.get? productId).isSome = true)
    (requests : server.Along (Restricted sessionId (AddsOf productId)) (Service.idleState initial)
      actions)
    (gaps : server.Along (InsertsFindNoRow sessionId productId) (Service.idleState initial) actions)
    (requested : total (requestedQuantity sessionId)
      (server.run (Service.idleState initial) actions).tasks ≤ 2147483647)
    (sum : initial.quantityOf sessionId productId + total (requestedQuantity sessionId)
      (server.run (Service.idleState initial) actions).tasks ≤ 2147483647) :
    ∀ task ∈ (server.run (Service.idleState initial) actions).tasks, sessionOf task = sessionId →
      ∀ event ∈ task.trace, Faultless productId event := by
  have limits := requests.bounded
    (fun state => total (requestedQuantity sessionId) state.tasks)
    (fun state action restricted => step_requested restricted)
    (min 2147483647 (2147483647 - initial.quantityOf sessionId productId)) (by omega)
  have ruled := (limits.and gaps).with_invariant (Adding sessionId productId initial)
    (fun state action adding met => step_adding adding met.1.1)
    (adding_initially sessionId productId initial)
  refine server.run_events (fun request => getSessionId request = sessionId)
    (Faultless productId) ?_ _ actions (fun task member => absurd member (by simp)) ruled
  rintro state index choice task command resume
    ⟨⟨⟨restricted, bounded⟩, gap⟩, adding⟩ present pending own
  have mine : sessionOf task = sessionId := own
  subst mine
  have rising := step_requested restricted
  exact execute_faultless adding present pending (restricted task present rfl) known gap
    (by omega) (by omega)

/-- In a run of adds every UPDATE finds its row. -/
theorem adding_updates
    (requests : server.Along (Restricted sessionId (AddsOf productId)) (Service.idleState initial)
      actions) :
    server.Along (UpdatesFindTheirRow sessionId) (Service.idleState initial) actions := by
  have ruled := requests.with_invariant (Adding sessionId productId initial)
    (fun state action adding restricted => step_adding adding restricted)
    (adding_initially sessionId productId initial)
  apply ruled.mono
  rintro state action ⟨-, adding⟩
  cases action with
  | start request => trivial
  | proceed index choice =>
    intro task present own other increased
    subst own
    have member := List.mem_of_getElem? present
    obtain ⟨quantity, -, adds⟩ := adding.admitted task member rfl
    have point := task_postCart adding.traced member adds
    obtain ⟨statement, waits, increases⟩ := Option.bind_eq_some_iff.mp increased
    have writing : statement.writesCart = true := by
      cases statement <;> first | rfl | simp [Statement.increases?] at increases
    obtain ⟨products, existing, trace, ⟨nonempty, rfl⟩ | rfl⟩ := postCart_storing point waits writing
    · obtain rfl : productId = other := Option.some.inj increases
      exact adding.seen task member rfl existing (by simp [trace]) nonempty
    · simp [Statement.increases?] at increases

/-- Concurrent adds add up. When every INSERT finds the place free, every add is
answered 200 after at most four statements, and once all are answered the cart
holds the initial quantity and all requested ones. -/
theorem adds_add_up (sessionId productId : String) (initial : Database)
    (actions : List (Action Request Choice))
    (known : (initial.products.get? productId).isSome = true)
    (requests : server.Along (Restricted sessionId (AddsOf productId)) (Service.idleState initial)
      actions)
    (gaps : server.Along (InsertsFindNoRow sessionId productId) (Service.idleState initial) actions)
    (requested : total (requestedQuantity sessionId)
      (server.run (Service.idleState initial) actions).tasks ≤ 2147483647)
    (sum : initial.quantityOf sessionId productId + total (requestedQuantity sessionId)
      (server.run (Service.idleState initial) actions).tasks ≤ 2147483647) :
    (∀ task ∈ (server.run (Service.idleState initial) actions).tasks, sessionOf task = sessionId →
      (∀ reply, task.answer? = some reply → reply.status = 200) ∧
        (task.answer? = none → task.program.pending? ≠ none ∧ task.trace.length < 4)) ∧
      ((∀ task ∈ (server.run (Service.idleState initial) actions).tasks,
          sessionOf task = sessionId → task.answer? ≠ none) →
        (server.run (Service.idleState initial) actions).store.quantityOf sessionId productId =
          initial.quantityOf sessionId productId + total (requestedQuantity sessionId)
            (server.run (Service.idleState initial) actions).tasks) := by
  have faultless := run_faultless known requests gaps requested sum
  have updates := adding_updates requests
  have accounted : server.Along (Restricted sessionId AddsOrOrders) (Service.idleState initial)
      actions := by
    apply requests.mono
    intro state action restricted
    cases action with
    | start request => exact fun own => (restricted own).accounted
    | proceed index choice => exact restricted
  have reliable := run_reliable accounted updates
  have adding := server.run_invariant (Adding sessionId productId initial)
    (fun state action adding restricted => step_adding adding restricted)
    (Service.idleState initial) actions (adding_initially sessionId productId initial) requests
  generalize server.run (Service.idleState initial) actions = final at *
  have points (task : ShopTask) (member : task ∈ final.tasks) (own : sessionOf task = sessionId) :
      ∃ quantity, task.request.operation.Adds productId quantity ∧
        PostCartAt (sessionOf task) ⟨some productId, .integer quantity⟩ task.trace task.program := by
    obtain ⟨quantity, -, adds⟩ := adding.admitted task member own
    exact ⟨quantity, adds, task_postCart adding.traced member adds⟩
  have accepted (task : ShopTask) (member : task ∈ final.tasks) (own : sessionOf task = sessionId)
      (reply : Reply) (answer : task.answer? = some reply) : reply.status = 200 := by
    obtain ⟨quantity, -, point⟩ := points task member own
    have program := (task.answer_some reply).mp answer
    rcases postCart_answered point program with
      ⟨products, existing, write, rows, -, -, rfl⟩ | ⟨write, error, before, trace, -⟩ |
        ⟨-, -, ⟨statement, error, recorded⟩ | recorded⟩
    · rfl
    · have recorded : failed (.selectCart (sessionOf task)) error ∈ task.trace := by simp [trace]
      exact absurd rfl ((faultless task member own _ recorded).1 _ error)
    · exact absurd rfl ((faultless task member own _ recorded).1 _ error)
    · exact absurd rfl (faultless task member own _ recorded).2
  constructor
  · intro task member own
    refine ⟨accepted task member own, ?_⟩
    intro unanswered
    obtain ⟨quantity, -, point⟩ := points task member own
    apply postCart_running point
    intro reply program
    have answer := (task.answer_some reply).mpr program
    simp [answer] at unanswered
  · intro quiet
    have entries : total (cartEntry sessionId productId) final.tasks =
        total (requestedQuantity sessionId) final.tasks := by
      refine total_congr _ _ (fun task member => ?_)
      by_cases own : sessionOf task = sessionId
      · subst own
        obtain ⟨quantity, adds, point⟩ := points task member rfl
        have answered := quiet task member rfl
        obtain ⟨reply, answer⟩ := Option.ne_none_iff_exists'.mp answered
        have status := accepted task member rfl reply answer
        have acknowledged := acknowledged_added productId adds point (reliable task member rfl) answered
        have untaken := postCart_untaken productId point
        have whole : acknowledgedQuantity (sessionOf task) productId task = quantity := by
          unfold Operation.Adds at adds
          simp [acknowledgedQuantity, adds, answer, status]
        have entry : cartEntry (sessionOf task) productId task =
            addedQuantity productId task.trace - takenQuantity productId task.trace := if_pos rfl
        have asked : requestedQuantity (sessionOf task) task = quantity := by
          simp [requestedQuantity, addition?_eq_some.mpr adds]
        omega
      · exact (if_neg own).trans (if_neg own).symm
    have ledger := adding.ledger
    omega

end Run

/-- The first add creates the row before the second one looks for it. -/
def addsInTurn : List (Action Request Choice) :=
  [.start (addSmartphone "s"), .start (addSmartphone "s")] ++ statements 0 3 ++ statements 1 4 ++
    statements 0 1

/-- Then both are acknowledged and the cart holds two pieces. -/
theorem adds_in_turn_add_up :
    (∀ task ∈ (server.run (Service.idleState freshDatabase) addsInTurn).tasks,
      sessionOf task = "s" → (∀ reply, task.answer? = some reply → reply.status = 200) ∧
        (task.answer? = none → task.program.pending? ≠ none ∧ task.trace.length < 4)) ∧
      ((∀ task ∈ (server.run (Service.idleState freshDatabase) addsInTurn).tasks,
          sessionOf task = "s" → task.answer? ≠ none) →
        (server.run (Service.idleState freshDatabase) addsInTurn).store.quantityOf "s" "1" =
          freshDatabase.quantityOf "s" "1" + total (requestedQuantity "s")
            (server.run (Service.idleState freshDatabase) addsInTurn).tasks) :=
  adds_add_up "s" "1" freshDatabase addsInTurn (by decide) (by decide) (by decide) (by decide)
    (by decide)

/-- Both adds look for the row before either has created it. -/
def addsAtOnce : List (Action Request Choice) :=
  [.start (addSmartphone "s"), .start (addSmartphone "s")] ++ statements 0 2 ++ statements 1 2 ++
    statements 0 2 ++ statements 1 1

/-- The second INSERT violates the unique constraint: its add is answered 400 and
the cart holds one piece instead of two. -/
theorem adds_at_once_refused :
    server.Along (Restricted "s" (AddsOf "1")) (Service.idleState freshDatabase) addsAtOnce ∧
      (server.run (Service.idleState freshDatabase) addsAtOnce).tasks.map
        (fun task => task.answer?.map Reply.status) = [some 200, some 400] ∧
      (server.run (Service.idleState freshDatabase) addsAtOnce).store.quantityOf "s" "1" = 1 ∧
      freshDatabase.quantityOf "s" "1" + total (requestedQuantity "s")
        (server.run (Service.idleState freshDatabase) addsAtOnce).tasks = 2 := by
  refine ⟨?_, ?_, ?_, ?_⟩ <;> decide

end ShoppingCS.Shop
