import ShoppingCS.Client.CartMirror
import ShoppingCS.Interleaving.Runs
import ShoppingCS.Shop.Undisturbed

/-!
# A client that waits for its answers

The client makes one call at a time and nobody else uses its session. So among the
requests of that session only the awaited one still has statements to execute, and it
is alone with the cart from its start to its answer.
-/

namespace ShoppingCS.Client

open Interleaving Shop Storage Program

/-- What the page submits is the request that `handleOrderSubmit` sends, after the form has
been accepted. -/
theorem submit_some {prepareValue : Json → String} {cart : List CartLine} {formData : OrderData}
    {request : Request} (submitted : CheckoutPage.submit prepareValue cart formData = some request) :
    request = CheckoutPage.handleOrderSubmit prepareValue cart formData := by
  unfold CheckoutPage.submit at submitted
  split at submitted
  · simp at submitted
  · split at submitted
    · exact (Option.some.inj submitted).symm
    · simp at submitted

/-- Every call of the client is one of its session. -/
theorem request?_session {platform : Platform} {cart : List CartLine} {call : ContextCall}
    {request : Request} (asked : call.request? platform cart = some request) :
    getSessionId request = clientSession := by
  cases call with
  | createOrder formData =>
    obtain rfl := submit_some asked
    rfl
  | _ =>
    obtain rfl := Option.some.inj asked
    rfl

namespace Visit

/-- The pending call, alone with the cart of the session since it was `start`. -/
structure Awaits (platform : Platform) (products : KeyedTable Product String Product.id)
    (visit : Visit) (call : ContextCall) (index : Nat) (task : ShopTask) (start : Cart) : Prop where
  present : visit.shop.tasks[index]? = some task
  asked : call.request? platform visit.state.cart = some task.request
  alone : Undisturbed products start clientSession visit.shop.store task.trace

/-- What holds in every visit: the server is in a reachable state, and of its requests only
the awaited one may be running. -/
structure Orderly (platform : Platform) (initial : Database) (visit : Visit) : Prop where
  reached : ∃ actions, visit.shop = server.run (Service.idleState initial) actions
  quiet : ∀ index task, visit.shop.tasks[index]? = some task → sessionOf task = clientSession →
    task.program.pending? = none ∨ ∃ call, visit.pending = some (call, index)
  awaited : ∀ call index, visit.pending = some (call, index) →
    ∃ task start, Awaits platform initial.products visit call index task start

section Step

variable {platform : Platform} {initial : Database} {visit : Visit} {call : ContextCall}
  {index : Nat} {task : ShopTask} {start : Cart}

/-- The server has followed its handlers, as in every reachable state. -/
theorem Orderly.traced (orderly : Orderly platform initial visit) : server.Traced visit.shop := by
  obtain ⟨actions, reached⟩ := orderly.reached
  rw [reached]
  exact server.run_traced _ actions (server.idleState_traced initial)

/-- The products of the server are the initial ones, as no statement changes them. -/
theorem Orderly.products (orderly : Orderly platform initial visit) :
    visit.shop.store.products = initial.products := by
  obtain ⟨actions, reached⟩ := orderly.reached
  rw [reached]
  exact run_products _ actions

/-- One more step of the server is a step of its run. -/
theorem Orderly.step_reached (orderly : Orderly platform initial visit)
    (action : Action Request Choice) :
    ∃ actions, server.step visit.shop action = server.run (Service.idleState initial) actions := by
  obtain ⟨actions, reached⟩ := orderly.reached
  refine ⟨actions ++ [action], ?_⟩
  rw [reached, server.run_append]
  rfl

/-- A statement of a task that nobody awaits leaves the cart alone. -/
theorem Orderly.kept (orderly : Orderly platform initial visit)
    (present : visit.shop.tasks[index]? = some task) {command : Statement}
    {resume : command.Result → Handler} (pending : task.program = .call command resume)
    (unawaited : ∀ call, visit.pending ≠ some (call, index)) (choice : Choice) :
    (execute command choice visit.shop.store).2.cart clientSession =
      visit.shop.store.cart clientSession := by
  refine cart_of_other orderly.traced (List.mem_of_getElem? present) pending ?_ choice
  intro own
  rcases orderly.quiet index task present own with idle | ⟨call, awaited⟩
  · simp [pending] at idle
  · exact unawaited call awaited

/-- The awaited call stays alone with the cart through every step of the server. -/
theorem Awaits.step (awaits : Awaits platform initial.products visit call index task start)
    (orderly : Orderly platform initial visit) (pending : visit.pending = some (call, index))
    (action : Action Request Choice) :
    ∃ later, Awaits platform initial.products
      { visit with shop := server.step visit.shop action } call index later start := by
  have inside := (List.getElem?_eq_some_iff.mp awaits.present).1
  generalize after : server.step visit.shop action = next
  have transition : server.Transition visit.shop action next :=
    after ▸ server.step_transition visit.shop action
  cases transition with
  | started request =>
    exact ⟨task, by rw [List.getElem?_append_left inside]; exact awaits.present, awaits.asked,
      awaits.alone⟩
  | idle position choice nothing => exact ⟨task, awaits⟩
  | proceeded position choice other command resume present waits =>
    by_cases here : position = index
    · subst here
      obtain rfl : other = task := Option.some.inj (present.symm.trans awaits.present)
      exact ⟨_, List.getElem?_set_self inside, awaits.asked, awaits.alone.own command choice⟩
    · refine ⟨task, ?_, awaits.asked, awaits.alone.other ?_ ?_⟩
      · rw [List.getElem?_set_ne here]
        exact awaits.present
      · exact (Database.execute_tables command choice visit.shop.store).1
      · refine orderly.kept present waits (fun call' awaited => here ?_) choice
        exact (Prod.mk.inj (Option.some.inj (awaited.symm.trans pending))).2

/-- While no call is awaited no step of the server changes the cart. -/
theorem Orderly.cart_step (orderly : Orderly platform initial visit) (free : visit.pending = none)
    (action : Action Request Choice) :
    (server.step visit.shop action).store.cart clientSession =
      visit.shop.store.cart clientSession := by
  generalize after : server.step visit.shop action = next
  have transition : server.Transition visit.shop action next :=
    after ▸ server.step_transition visit.shop action
  cases transition with
  | started request => rfl
  | idle position choice nothing => rfl
  | proceeded position choice other command resume present waits =>
    exact orderly.kept present waits (by simp [free]) choice

/-- A new call starts with the cart as it is. -/
theorem awaits_start (orderly : Orderly platform initial visit) {request : Request}
    (asked : call.request? platform visit.state.cart = some request) :
    Awaits platform initial.products
      { shop := server.step visit.shop (.start request)
        state := dispatch visit.state call.begins
        pending := some (call, visit.shop.tasks.length) }
      call visit.shop.tasks.length (server.accept request)
      (visit.shop.store.cart clientSession) where
  present := List.getElem?_concat_length
  asked := by
    have kept : (dispatch visit.state call.begins).cart = visit.state.cart := by cases call <;> rfl
    rw [kept]
    exact asked
  alone := by
    rw [← orderly.products]
    exact undisturbed_start visit.shop.store clientSession

end Step

/-- Everything a move can do to a visit, one case for each way in which it changes it. -/
inductive Stepped (platform : Platform) (visit : Visit) : Move → Visit → Prop where
  | called (call : ContextCall) (request : Request) (free : visit.pending = none)
      (asked : call.request? platform visit.state.cart = some request) :
      Stepped platform visit (.call call)
        { shop := server.step visit.shop (.start request)
          state := dispatch visit.state call.begins
          pending := some (call, visit.shop.tasks.length) }
  | other (request : Request) (foreign : getSessionId request ≠ clientSession) :
      Stepped platform visit (.other request)
        { visit with shop := server.step visit.shop (.start request) }
  | proceeded (index : Nat) (choice : Choice) :
      Stepped platform visit (.proceed index choice)
        { visit with shop := server.step visit.shop (.proceed index choice) }
  | received (call : ContextCall) (index : Nat) (task : ShopTask) (reply : Reply)
      (pending : visit.pending = some (call, index))
      (present : visit.shop.tasks[index]? = some task) (answer : task.answer? = some reply) :
      Stepped platform visit .receive
        { visit with
          state := dispatch visit.state (call.finishes (Client.receive reply))
          pending := none }
  | ignored (move : Move) : Stepped platform visit move visit

/-- A call that has been answered is the pending one, and its task has the answer. -/
theorem answered?_eq_some {visit : Visit} {call : ContextCall} {task : ShopTask} {reply : Reply} :
    visit.answered? = some (call, task, reply) ↔ ∃ index, visit.pending = some (call, index) ∧
      visit.shop.tasks[index]? = some task ∧ task.answer? = some reply := by
  unfold answered?
  simp only [Option.bind_eq_bind, Option.pure_def, Option.bind_eq_some_iff, Option.some.injEq,
    Prod.mk.injEq]
  constructor
  · rintro ⟨⟨asked, index⟩, pending, found, present, given, answer, rfl, rfl, rfl⟩
    exact ⟨index, pending, present, answer⟩
  · rintro ⟨index, pending, present, answer⟩
    exact ⟨(call, index), pending, task, present, reply, answer, rfl, rfl, rfl⟩

/-- Every move of a visit does one of these things, by cases on the move. -/
theorem step_stepped (platform : Platform) (visit : Visit) (move : Move) :
    Stepped platform visit move (visit.step platform move) := by
  cases move with
  | call call =>
    unfold step
    dsimp only
    split
    · rename_i request free asked
      exact .called call request free asked
    · exact .ignored _
  | other request =>
    by_cases own : getSessionId request = clientSession
    · rw [step, if_pos own]
      exact .ignored _
    · rw [step, if_neg own]
      exact .other request own
  | proceed index choice => exact .proceeded index choice
  | receive =>
    unfold step
    dsimp only
    split
    · rename_i call task reply answered
      obtain ⟨index, pending, present, answer⟩ := answered?_eq_some.mp answered
      exact .received call index task reply pending present answer
    · exact .ignored _

section Run

variable {platform : Platform} {initial : Database} {visit : Visit}

/-- A fresh client awaits nothing and its server has had no request. -/
theorem orderly_fresh (platform : Platform) (initial : Database) :
    Orderly platform initial (fresh initial) where
  reached := ⟨[], rfl⟩
  quiet := fun index task present => absurd present (by simp [fresh])
  awaited := fun call index pending => absurd pending (by simp [fresh])

/-- After a step of the server a task that can still execute a statement in the
client's session is the awaited one, or has just been accepted. -/
theorem Orderly.step_quiet (orderly : Orderly platform initial visit)
    (action : Action Request Choice) {index : Nat} {task : ShopTask}
    (present : (server.step visit.shop action).tasks[index]? = some task)
    (own : sessionOf task = clientSession) :
    (task.program.pending? = none ∨ ∃ call, visit.pending = some (call, index)) ∨
      ∃ request, action = .start request ∧ index = visit.shop.tasks.length ∧
        getSessionId request = clientSession := by
  rcases Service.step_task action present with
    old | ⟨request, rfl, last, rfl⟩ | ⟨choice, before, command, resume, -, there, waits, rfl⟩
  · exact Or.inl (orderly.quiet index task old own)
  · exact Or.inr ⟨request, rfl, last, own⟩
  · refine Or.inl ((orderly.quiet index before there own).imp_left ?_)
    intro idle
    simp [waits] at idle

/-- Every move keeps a visit orderly, by cases on what it does. -/
theorem Orderly.step (orderly : Orderly platform initial visit) (move : Move) :
    Orderly platform initial (visit.step platform move) := by
  have stepped := step_stepped platform visit move
  generalize visit.step platform move = next at stepped
  cases stepped with
  | ignored => exact orderly
  | called call request free asked =>
    refine ⟨orderly.step_reached (.start request), ?_, ?_⟩
    · intro index task present own
      rcases orderly.step_quiet _ present own with old | ⟨started, -, last, -⟩
      · exact old.imp_right (fun awaited => absurd awaited (by simp [free]))
      · exact Or.inr ⟨call, by rw [last]⟩
    · intro call' index pending
      obtain ⟨rfl, rfl⟩ := Prod.mk.inj (Option.some.inj pending)
      exact ⟨_, _, awaits_start orderly asked⟩
  | other request foreign =>
    refine ⟨orderly.step_reached (.start request), ?_, ?_⟩
    · intro index task present own
      rcases orderly.step_quiet _ present own with old | ⟨started, same, -, inside⟩
      · exact old
      · obtain rfl := Action.start.inj same
        exact absurd inside foreign
    · intro call index pending
      obtain ⟨task, start, awaits⟩ := orderly.awaited call index pending
      obtain ⟨later, still⟩ := awaits.step orderly pending (.start request)
      exact ⟨later, start, still⟩
  | proceeded position choice =>
    refine ⟨orderly.step_reached (.proceed position choice), ?_, ?_⟩
    · intro index task present own
      rcases orderly.step_quiet _ present own with old | ⟨started, same, -⟩
      · exact old
      · exact absurd same (by simp)
    · intro call index pending
      obtain ⟨task, start, awaits⟩ := orderly.awaited call index pending
      obtain ⟨later, still⟩ := awaits.step orderly pending (.proceed position choice)
      exact ⟨later, start, still⟩
  | received call position task reply pending present answer =>
    refine ⟨orderly.reached, ?_, fun call index impossible => absurd impossible (by simp)⟩
    intro index other there own
    rcases orderly.quiet index other there own with idle | ⟨call', awaited⟩
    · exact Or.inl idle
    · obtain ⟨rfl, rfl⟩ := Prod.mk.inj (Option.some.inj (awaited.symm.trans pending))
      obtain rfl : other = task := Option.some.inj (there.symm.trans present)
      exact Or.inl (by rw [(other.answer_some reply).mp answer]; rfl)

/-- Every visit that a fresh client can reach is orderly, by induction on the moves. -/
theorem run_orderly (platform : Platform) (initial : Database) (moves : List Move) :
    Orderly platform initial (run platform (fresh initial) moves) :=
  Runs.run_always (Orderly platform initial) (fun _ move orderly => orderly.step move) (fresh initial)
    moves (orderly_fresh platform initial)

end Run

end Visit

end ShoppingCS.Client
