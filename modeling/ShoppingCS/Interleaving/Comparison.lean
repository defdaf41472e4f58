import ShoppingCS.Interleaving.Service

/-!
# Two runs side by side

Two runs of one service are compared by giving both the same turns, up to an
edit of the scheduler's actions. `turn` is what one task does to the store when
it is scheduled, so a comparison needs to look at one task of each run only.

A service is seen through its clients by letting the requests carry more than
the service looks at, such as who has sent them. The run behind the clients is a
run of the service itself.
-/

namespace Interleaving

variable {Sent Request Command : Type} {Result : Command → Type} {Answer Store Choice : Type}

/-- The task as the service knows it, with its request in the form the service takes. -/
def Task.relabel (send : Sent → Request) (task : Task Sent Command Result Answer) :
    Task Request Command Result Answer :=
  { request := send task.request, trace := task.trace, program := task.program }

/-- The state as the service knows it, with all requests in that form. -/
def State.relabel (send : Sent → Request) (state : State Sent Command Result Answer Store) :
    State Request Command Result Answer Store :=
  { store := state.store, tasks := state.tasks.map (Task.relabel send) }

/-- The action as the service knows it; only the acceptance of a request changes its form. -/
def Action.relabel (send : Sent → Request) : Action Sent Choice → Action Request Choice
  | .start sent => .start (send sent)
  | .proceed index choice => .proceed index choice

@[simp] theorem State.relabel_store (send : Sent → Request)
    (state : State Sent Command Result Answer Store) : (state.relabel send).store = state.store :=
  rfl

namespace Service

/-- The service with requests that carry more than it looks at. -/
def through (service : Service Request Command Result Answer Store Choice) (send : Sent → Request) :
    Service Sent Command Result Answer Store Choice where
  handler sent := service.handler (send sent)
  perform := service.perform

section Through

variable (service : Service Request Command Result Answer Store Choice) (send : Sent → Request)

/-- A step behind the clients is a step of the service. -/
theorem step_through (state : State Sent Command Result Answer Store) (action : Action Sent Choice) :
    ((service.through send).step state action).relabel send =
      service.step (state.relabel send) (action.relabel send) := by
  cases action with
  | start sent => simp [step, State.relabel, Action.relabel, accept, through, Task.relabel]
  | proceed index choice =>
    cases present : state.tasks[index]? with
    | none => simp [step, State.relabel, Action.relabel, present]
    | some task =>
      cases pending : task.program with
      | answer value => simp [step, State.relabel, Action.relabel, Task.relabel, present, pending]
      | halt => simp [step, State.relabel, Action.relabel, Task.relabel, present, pending]
      | call command resume =>
        simp [step, State.relabel, Action.relabel, Task.relabel, present, pending, through,
          Task.advance, List.map_set]

/-- The run behind the clients is a run of the service. -/
theorem run_through (state : State Sent Command Result Answer Store)
    (actions : List (Action Sent Choice)) :
    ((service.through send).run state actions).relabel send =
      service.run (state.relabel send) (actions.map (Action.relabel send)) := by
  induction actions generalizing state with
  | nil => rfl
  | cons action actions inductionHypothesis =>
    rw [run_cons, inductionHypothesis, step_through]
    rfl

end Through

variable (service : Service Request Command Result Answer Store Choice)

/-- What a scheduled task does to the store and to itself. -/
def turn (choice : Choice) (store : Store) (task : Task Request Command Result Answer) :
    Store × Task Request Command Result Answer :=
  match task.program with
  | .answer _ => (store, task)
  | .halt => (store, task)
  | .call command resume =>
    ((service.perform command choice store).2,
      task.advance command resume (service.perform command choice store).1)

/-- A task without a pending command does nothing when it is scheduled, and the store stays.
-/
theorem turn_idle (choice : Choice) (store : Store) (task : Task Request Command Result Answer)
    (idle : task.program.pending? = none) : service.turn choice store task = (store, task) := by
  cases pending : task.program with
  | answer value => simp [turn, pending]
  | halt => simp [turn, pending]
  | call command resume => simp [pending] at idle

/-- A task that waits for a command executes it, and goes on with its result. -/
theorem turn_call (choice : Choice) (store : Store) (task : Task Request Command Result Answer)
    {command : Command} {resume : Result command → Program Command Result Answer}
    (pending : task.program = .call command resume) :
    service.turn choice store task =
      ((service.perform command choice store).2,
        task.advance command resume (service.perform command choice store).1) := by
  simp [turn, pending]

/-- A turn never changes what was asked for, only how far the task has come. -/
@[simp] theorem turn_request (choice : Choice) (store : Store)
    (task : Task Request Command Result Answer) :
    (service.turn choice store task).2.request = task.request := by
  cases pending : task.program <;> simp [turn, pending]

/-- Scheduling a task gives it its turn, and leaves the other tasks in their places. -/
theorem step_turn (state : State Request Command Result Answer Store) (index : Nat)
    (choice : Choice) {task : Task Request Command Result Answer}
    (present : state.tasks[index]? = some task) :
    service.step state (.proceed index choice) =
      { store := (service.turn choice state.store task).1
        tasks := state.tasks.set index (service.turn choice state.store task).2 } := by
  obtain ⟨inside, located⟩ := List.getElem?_eq_some_iff.mp present
  have same : state.tasks.set index task = state.tasks := by
    rw [← located]
    exact List.set_getElem_self inside
  cases pending : task.program with
  | answer value => simp [step, turn, present, pending, same]
  | halt => simp [step, turn, present, pending, same]
  | call command resume => simp [step, turn, present, pending]

/-- Scheduling a place where no task is changes nothing. -/
theorem step_absent (state : State Request Command Result Answer Store) (index : Nat)
    (choice : Choice) (absent : state.tasks[index]? = none) :
    service.step state (.proceed index choice) = state := by
  simp [step, absent]

/-- A relation that one step of both runs preserves relates their ends. -/
theorem run_related
    {meets permits : State Request Command Result Answer Store → Action Request Choice → Prop}
    (related : State Request Command Result Answer Store →
      State Request Command Result Answer Store → Prop)
    (edit : Action Request Choice → Action Request Choice)
    (preserved : ∀ first second action, related first second → meets first action →
      permits second (edit action) →
      related (service.step first action) (service.step second (edit action)))
    (first second : State Request Command Result Answer Store)
    (actions : List (Action Request Choice)) (initially : related first second)
    (along : service.Along meets first actions)
    (edited : service.Along permits second (actions.map edit)) :
    related (service.run first actions) (service.run second (actions.map edit)) := by
  induction actions generalizing first second with
  | nil => exact initially
  | cons action actions inductionHypothesis =>
    exact inductionHypothesis _ _ (preserved first second action initially along.1 edited.1)
      along.2 edited.2

end Service

end Interleaving
