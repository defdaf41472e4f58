import ShoppingCS.Client.Overlap

/-!
# The renderings of the cart page

React compares identities. The provider is rendered again when the reducer has made a
new state, the cart page when the provider has made a new context value, and the
page's effect runs again when its dependency, the function `loadCart`, is another one.

The provider makes a new `loadCart` whenever it is rendered, and the reducer a new
state for every action, also when its cart is the old one. So the answer to a
`GET /api/cart` leads to the next one, and the page never comes to rest.
-/

namespace ShoppingCS.Client

open Interleaving Shop Web

/-- A state of the reducer, with the identity of the object that it is. -/
structure StoredState where
  identity : Nat
  state : AppState

/-- A context value: the object, the state in it, and the identity of its `loadCart`.
No effect depends on the other functions. -/
structure ContextValue where
  identity : Nat
  state : StoredState
  loadCart : Nat

/-- The mounted cart page: the next new identity, the state of the reducer, the context
value of the last rendering of the provider and the one the page was last rendered
with, the dependency with which the effect last ran, the calls of `loadCart` without
an answer, the actions that other calls of the provider will still dispatch, and the
number of `GET /api/cart` requests so far. -/
structure Screen where
  fresh : Nat
  store : StoredState
  value : ContextValue
  shown : ContextValue
  dependency : Option Nat
  loading : Nat
  others : List AppAction
  requests : Nat

/-- What `loadCart` dispatches when the server has answered from this database. -/
def loadCartActions (authorityAccepted : Text → Bool) (database : Database) (working : Working) :
    List AppAction :=
  match CartCall.loadCart.serve authorityAccepted working.val database with
  | some (reply, _) => CartCall.loadCart.finishes (receive reply)
  | none => []

/-- The request succeeds whatever the cart holds, and the cart is set. -/
theorem loadCartActions_eq (authorityAccepted : Text → Bool) (database : Database)
    (working : Working) : ∃ rows : List (Product × Int4),
      rows.Perm (database.joinedCart clientSession) ∧
        loadCartActions authorityAccepted database working = [.setCart (cartLines rows)] := by
  obtain ⟨reply, last, served, -, rows, listed, rfl⟩ :=
    CartCall.served_outcome authorityAccepted working.property
      (show CartCall.loadCart.apiCall.Passes from trivial) database
  refine ⟨rows, listed, ?_⟩
  rw [loadCartActions, served]
  rfl

namespace Screen

/-- The provider or the page is rendered, the effect runs, `loadCart` has its answer,
or another call of the provider dispatches an action. The user does nothing, but the
cart on the server may be another one at each answer. -/
inductive Move where
  | render
  | renderPage
  | effect
  | answer (database : Database) (working : Working)
  | other

/-- What React waits for before each kind of move: something has changed identity, or an
answer is there. -/
def Enabled (screen : Screen) : Move → Prop
  | .render => screen.store.identity ≠ screen.value.state.identity
  | .renderPage => screen.value.identity ≠ screen.shown.identity
  | .effect => screen.dependency ≠ some screen.shown.loadCart
  | .answer _ _ => 0 < screen.loading
  | .other => screen.others ≠ []

/-- `dispatch`. Every case of the reducer makes a new object. -/
def dispatched (screen : Screen) (action : AppAction) : Screen :=
  { screen with
    fresh := screen.fresh + 1
    store := { identity := screen.fresh, state := appReducer screen.store.state action } }

/-- The body of `AppProvider`, with a new `loadCart` in a new context value. -/
def rendered (screen : Screen) : Screen :=
  { screen with
    fresh := screen.fresh + 2
    value := { identity := screen.fresh, state := screen.store, loadCart := screen.fresh + 1 } }

/-- One move of React or of an answer: the provider or the page is rendered, the effect runs,
a call is answered. -/
def step (authorityAccepted : Text → Bool) (screen : Screen) : Move → Screen
  | .render => screen.rendered
  | .renderPage => { screen with shown := screen.value }
  | .effect =>
    { screen with
      dependency := some screen.shown.loadCart
      loading := screen.loading + 1
      requests := screen.requests + 1 }
  | .answer database working =>
    (loadCartActions authorityAccepted database working).foldl dispatched
      { screen with loading := screen.loading - 1 }
  | .other =>
    match screen.others with
    | [] => screen
    | action :: rest => dispatched { screen with others := rest } action

/-- A context value made before an identity, which is then new to it. -/
structure MadeBefore (fresh : Nat) (value : ContextValue) : Prop where
  object : value.identity < fresh
  state : value.state.identity < fresh
  loadCart : value.loadCart < fresh

/-- The page has just been rendered with the current context value, and its effect has
not run yet. Calls made before may be without an answer. -/
structure Mounted (screen : Screen) : Prop where
  store : screen.store.identity < screen.fresh
  value : MadeBefore screen.fresh screen.value
  shown : screen.shown = screen.value
  dependency : screen.dependency = none

/-- There is something to do: an answer is awaited, or the provider is to be rendered,
or the effect is to run with the current context value. -/
def Busy (screen : Screen) : Prop :=
  0 < screen.loading ∨ screen.store.identity ≠ screen.value.state.identity ∨
    screen.dependency ≠ some screen.value.loadCart

/-- What holds from the mounting on. Objects with the same identity are the same, and
there is always something to do. -/
structure Running (screen : Screen) : Prop where
  store : screen.store.identity < screen.fresh
  value : MadeBefore screen.fresh screen.value
  shown : MadeBefore screen.fresh screen.shown
  same : screen.value.identity = screen.shown.identity → screen.shown = screen.value
  dependency : ∀ loadCart ∈ screen.dependency, loadCart < screen.fresh
  busy : screen.Busy

section Steps

variable {authorityAccepted : Text → Bool} {screen : Screen}

/-- Values made before an identity were made before every later one. -/
theorem MadeBefore.mono {fresh later : Nat} {value : ContextValue} (made : MadeBefore fresh value)
    (grows : fresh ≤ later) : MadeBefore later value :=
  ⟨made.object.trans_le grows, made.state.trans_le grows, made.loadCart.trans_le grows⟩

/-- The page is busy from the beginning, when its effect has not run yet. -/
theorem Mounted.running (mounted : screen.Mounted) : screen.Running where
  store := mounted.store
  value := mounted.value
  shown := mounted.shown ▸ mounted.value
  same := fun _ => mounted.shown
  dependency := by simp [mounted.dependency]
  busy := Or.inr (Or.inr (by simp [mounted.dependency]))

/-- After an action the provider is to be rendered, because the state is a new object. -/
theorem running_dispatched (screen : Screen)
    (value : MadeBefore screen.fresh screen.value) (shown : MadeBefore screen.fresh screen.shown)
    (same : screen.value.identity = screen.shown.identity → screen.shown = screen.value)
    (dependency : ∀ loadCart ∈ screen.dependency, loadCart < screen.fresh) (action : AppAction) :
    (screen.dispatched action).Running where
  store := Nat.lt_succ_self _
  value := value.mono (Nat.le_succ _)
  shown := shown.mono (Nat.le_succ _)
  same := same
  dependency := fun loadCart ran => (dependency loadCart ran).trans (Nat.lt_succ_self _)
  busy := Or.inr (Or.inl (Nat.ne_of_gt value.state))

/-- An answer dispatches one action, which replaces the cart by the lines of the answer. -/
theorem step_answer (authorityAccepted : Text → Bool) (screen : Screen) (database : Database)
    (working : Working) : ∃ lines, screen.step authorityAccepted (.answer database working) =
      dispatched { screen with loading := screen.loading - 1 } (.setCart lines) := by
  obtain ⟨rows, -, actions⟩ := loadCartActions_eq authorityAccepted database working
  refine ⟨cartLines rows, ?_⟩
  rw [step, actions]
  rfl

/-- The page is busy after every move, as each move makes another one possible. -/
theorem Running.stays (running : screen.Running) (move : Move) (enabled : screen.Enabled move) :
    (screen.step authorityAccepted move).Running := by
  cases move with
  | render =>
    refine ⟨running.store.trans (Nat.lt_add_of_pos_right (by decide)),
      ⟨Nat.lt_add_of_pos_right (by decide), running.store.trans (Nat.lt_add_of_pos_right (by decide)),
        Nat.lt_succ_self _⟩,
      running.shown.mono (Nat.le_add_right _ _), fun again => ?_, fun loadCart ran => ?_, ?_⟩
    · exact absurd again (Nat.ne_of_gt running.shown.object)
    · exact (running.dependency loadCart ran).trans (Nat.lt_add_of_pos_right (by decide))
    · refine Or.inr (Or.inr ?_)
      intro ran
      have old := running.dependency _ ran
      exact absurd old (Nat.not_lt.mpr (Nat.le_succ _))
  | renderPage =>
    exact ⟨running.store, running.value, running.value, fun _ => rfl, running.dependency, running.busy⟩
  | effect =>
    refine ⟨running.store, running.value, running.shown, running.same, ?_, Or.inl (Nat.succ_pos _)⟩
    rintro loadCart ⟨⟩
    exact running.shown.loadCart
  | answer database working =>
    obtain ⟨lines, stepped⟩ := step_answer authorityAccepted screen database working
    rw [stepped]
    exact running_dispatched { screen with loading := screen.loading - 1 } running.value
      running.shown running.same running.dependency _
  | other =>
    unfold Screen.step
    cases screen.others with
    | nil => exact running
    | cons action rest =>
      exact running_dispatched { screen with others := rest } running.value running.shown
        running.same running.dependency _

/-- One rendering, if what was rendered is another object than what there is. -/
def due (current rendered : Nat) : Nat := if current = rendered then 0 else 1

/-- At most one rendering is due for a value, however often it has changed. -/
theorem due_le_one (current rendered : Nat) : due current rendered ≤ 1 := by
  unfold due
  split <;> decide

theorem due_self (current : Nat) : due current current = 0 := if_pos rfl

theorem due_of_ne {current rendered : Nat} (other : current ≠ rendered) :
    due current rendered = 1 := if_neg other

/-- The work left before the next request: an awaited answer or a waiting action leads
to two renderings, a rendering of the provider to one of the page. -/
def potential (screen : Screen) : Nat :=
  3 * screen.loading + 3 * screen.others.length +
    2 * due screen.store.identity screen.value.state.identity +
    due screen.value.identity screen.shown.identity

/-- An action leads to one rendering of the provider and one of the page, and so raises the
measure by two at most. -/
theorem potential_dispatched (screen : Screen) (action : AppAction) :
    (screen.dispatched action).potential ≤ screen.potential + 2 := by
  have once := due_le_one screen.fresh screen.value.state.identity
  simp only [potential, dispatched]
  omega

/-- Every move lowers the potential, only a request adds to it. -/
theorem potential_step (move : Move) (enabled : screen.Enabled move) :
    (screen.step authorityAccepted move).potential + 4 * screen.requests + 1 ≤
      screen.potential + 4 * (screen.step authorityAccepted move).requests := by
  cases move with
  | render =>
    have old := due_of_ne (show screen.store.identity ≠ screen.value.state.identity from enabled)
    have new := due_self screen.store.identity
    have page := due_le_one screen.fresh screen.shown.identity
    simp only [step, rendered, potential]
    omega
  | renderPage =>
    have old := due_of_ne (show screen.value.identity ≠ screen.shown.identity from enabled)
    have new := due_self screen.value.identity
    simp only [step, potential]
    omega
  | effect =>
    simp only [step, potential]
    omega
  | answer database working =>
    obtain ⟨lines, stepped⟩ := step_answer authorityAccepted screen database working
    have awaited : 0 < screen.loading := enabled
    have dispatches :=
      potential_dispatched { screen with loading := screen.loading - 1 } (.setCart lines)
    rw [stepped]
    simp only [dispatched, potential] at dispatches ⊢
    omega
  | other =>
    unfold Screen.step
    cases waiting : screen.others with
    | nil => exact absurd waiting enabled
    | cons action rest =>
      have dispatches := potential_dispatched { screen with others := rest } action
      simp only [dispatched, potential, waiting, List.length_cons] at dispatches ⊢
      omega

/-- The next move, with answers from this database: answers first, then renderings,
then the effect. -/
def next (database : Database) (working : Working) (screen : Screen) : Move :=
  if 0 < screen.loading then .answer database working
  else if screen.store.identity ≠ screen.value.state.identity then .render
  else if screen.value.identity ≠ screen.shown.identity then .renderPage
  else .effect

/-- An answer comes from this database, if the move is one. -/
def AnsweredFrom (database : Database) : Move → Prop
  | .answer served _ => served = database
  | _ => True

/-- In a busy page there always is a next move, and it may be taken as the one of this choice.
-/
theorem Running.offered (running : screen.Running) (database : Database) (working : Working) :
    screen.Enabled (screen.next database working) ∧
      AnsweredFrom database (screen.next database working) := by
  unfold Screen.next
  split
  · exact ⟨‹_›, rfl⟩
  · rename_i loaded
    split
    · exact ⟨‹_›, trivial⟩
    · rename_i rendered
      split
      · exact ⟨‹_›, trivial⟩
      · rename_i shown
        have current := running.same (not_not.mp shown)
        refine ⟨?_, trivial⟩
        intro ran
        rw [current] at ran
        rcases running.busy with awaited | outdated | due
        · exact loaded awaited
        · exact rendered outdated
        · exact due ran

end Steps

/-- A run without an end in which React does nothing it does not wait for, and the
answers come from this database. -/
def EndlessFrom (authorityAccepted : Text → Bool) (database : Database) (screen : Screen)
    (moves : Nat → Move) : Prop :=
  Runs.Endless (step authorityAccepted)
    (fun screen move => screen.Enabled move ∧ AnsweredFrom database move) screen moves

/-- The requests issued in the first part of a run. -/
def requestsAfter (authorityAccepted : Text → Bool) (screen : Screen) (moves : Nat → Move)
    (count : Nat) : Nat :=
  (Runs.run (step authorityAccepted) screen (Runs.firstMoves moves count)).requests

section Runs

variable {authorityAccepted : Text → Bool} {screen : Screen}

/-- A busy page has a run without an end, by always taking the next move. -/
theorem Running.endless (running : screen.Running) (database : Database) (working : Working) :
    ∃ moves, EndlessFrom authorityAccepted database screen moves :=
  ⟨_, Runs.endless_chosen Running (fun _ move running meets => running.stays move meets.1)
    (next database working) (fun _ running => running.offered database working) screen running⟩

/-- In a run without an end the page issues more requests than any number. -/
theorem Running.unbounded (running : screen.Running) {moves : Nat → Move}
    (endless : Runs.Endless (step authorityAccepted) Enabled screen moves) (bound : Nat) :
    ∃ count, bound < requestsAfter authorityAccepted screen moves count :=
  Runs.endless_unbounded Running (fun _ move running enabled => running.stays move enabled)
    potential requests 4 (fun _ move _ enabled => potential_step move enabled) screen running moves
    endless bound

end Runs

/-- The cart page never comes to rest. From the mounting on, whatever the server's cart
is, there always is something to do, and there are runs without an end; and in every
such run, also when the cart changes between the answers, the number of requests
exceeds every bound. -/
theorem cart_page_never_settles (authorityAccepted : Text → Bool) (screen : Screen)
    (mounted : screen.Mounted) :
    (∀ moves, Runs.Along (step authorityAccepted) Enabled screen moves →
        ∃ move, (Runs.run (step authorityAccepted) screen moves).Enabled move) ∧
      (∀ database, ∃ moves, EndlessFrom authorityAccepted database screen moves) ∧
      ∀ moves, Runs.Endless (step authorityAccepted) Enabled screen moves →
        ∀ bound, ∃ count, bound < requestsAfter authorityAccepted screen moves count := by
  refine ⟨?_, fun database => mounted.running.endless database plainWorking,
    fun moves endless bound => mounted.running.unbounded endless bound⟩
  intro moves along
  have running : (Runs.run (step authorityAccepted) screen moves).Running :=
    Runs.run_invariant Running (fun _ move running enabled => running.stays move enabled) screen moves
      mounted.running along
  exact ⟨_, (running.offered freshDatabase plainWorking).1⟩

/-- The cart page, opened with an empty cart, as it is when it has just been mounted. -/
def openedCartPage : Screen :=
  { fresh := 3
    store := ⟨0, initialState⟩
    value := ⟨1, ⟨0, initialState⟩, 2⟩
    shown := ⟨1, ⟨0, initialState⟩, 2⟩
    dependency := none
    loading := 0
    others := []
    requests := 0 }

theorem opened_mounted : openedCartPage.Mounted :=
  ⟨by decide, ⟨by decide, by decide, by decide⟩, rfl, rfl⟩

/-- The opened page never comes to rest, and every database lets it go on without an end. -/
theorem opened_never_settles :
    (∀ moves, Runs.Along (step (fun _ => true)) Enabled openedCartPage moves →
        ∃ move, (Runs.run (step (fun _ => true)) openedCartPage moves).Enabled move) ∧
      (∀ database, ∃ moves, EndlessFrom (fun _ => true) database openedCartPage moves) ∧
      ∀ moves, Runs.Endless (step (fun _ => true)) Enabled openedCartPage moves →
        ∀ bound, ∃ count, bound < requestsAfter (fun _ => true) openedCartPage moves count :=
  cart_page_never_settles (fun _ => true) openedCartPage opened_mounted

/-- The run that answers from the fresh server whenever it can. -/
def cartLoop (index : Nat) : Move :=
  next freshDatabase plainWorking
    (Runs.chosen (step (fun _ => true)) (next freshDatabase plainWorking) openedCartPage index)

/-- With this database the empty cart is loaded again and again, and the number of requests
has no bound. -/
theorem empty_cart_never_settles :
    openedCartPage.Mounted ∧
      EndlessFrom (fun _ => true) freshDatabase openedCartPage cartLoop ∧
      ¬ ∃ bound, ∀ count, requestsAfter (fun _ => true) openedCartPage cartLoop count ≤ bound := by
  have running := opened_mounted.running
  have endless : Runs.Endless (step (fun _ => true))
      (fun screen move => screen.Enabled move ∧ AnsweredFrom freshDatabase move) openedCartPage
      cartLoop :=
    Runs.endless_chosen Running (fun _ move running meets => running.stays move meets.1)
      (next freshDatabase plainWorking)
      (fun _ running => running.offered freshDatabase plainWorking) openedCartPage running
  refine ⟨opened_mounted, endless, fun ⟨bound, limited⟩ => ?_⟩
  obtain ⟨count, more⟩ := running.unbounded
    (fun count => (endless count).mono (fun _ _ meets => meets.1)) bound
  exact Nat.not_lt.mpr (limited count) more

end Screen

end ShoppingCS.Client
