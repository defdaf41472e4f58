import ShoppingCS.Interleaving.Comparison
import ShoppingCS.Interleaving.Interpretation
import ShoppingCS.Interleaving.Silence

/-!
# A service in front of another one

The outer service has its own requests and its own form of answers, and does for a request
what the inner service does for the one it is taken for. The states of the outer service
are those of the inner one in another form, after every run; requests that the inner service does
not see may be among the others, if they leave the store alone.
-/

namespace Interleaving

variable {Sent Request Command : Type} {Result : Command → Type}
  {Answer Reply Store Choice : Type}

/-- The program with its answer in another form, and the same commands before it. -/
def Program.render (form : Answer → Reply) (program : Program Command Result Answer) :
    Program Command Result Reply :=
  program >>= fun answer => .answer (form answer)

/-- The task with its answer in another form, and the same request and trace. -/
def Task.render (form : Answer → Reply) (task : Task Request Command Result Answer) :
    Task Request Command Result Reply :=
  { request := task.request, trace := task.trace, program := task.program.render form }

/-- The state with all answers in another form, and the same store. -/
def State.render (form : Answer → Reply) (state : State Request Command Result Answer Store) :
    State Request Command Result Reply Store :=
  { store := state.store, tasks := state.tasks.map (Task.render form) }

/-- The answer of a task in the other form is the form of its answer, if it has one. -/
@[simp] theorem Task.render_answer (form : Answer → Reply)
    (task : Task Request Command Result Answer) :
    (task.render form).answer? = task.answer?.map form := by
  obtain ⟨request, trace, program⟩ := task
  cases program <;> rfl

namespace Service

/-- The outer service does for a request what the inner one does, and says it in its form. -/
structure Forwards (outer : Service Request Command Result Reply Store Choice)
    (inner : Service Request Command Result Answer Store Choice) (form : Answer → Reply)
    (passed : Request → Prop) : Prop where
  handler : ∀ request, passed request →
    outer.handler request = (inner.handler request).render form
  perform : outer.perform = inner.perform

variable {outer : Service Request Command Result Reply Store Choice}
  {inner : Service Request Command Result Answer Store Choice} {form : Answer → Reply}
  {passed : Request → Prop}

/-- A step of the outer service is a step of the inner one. -/
theorem Forwards.step (forwards : outer.Forwards inner form passed)
    (state : State Request Command Result Answer Store) {action : Action Request Choice}
    (met : ∀ request, action = .start request → passed request) :
    outer.step (state.render form) action = (inner.step state action).render form := by
  cases action with
  | start request =>
    have handler := forwards.handler request (met request rfl)
    simp [Service.step, State.render, accept, Task.render, handler]
  | proceed index choice =>
    cases present : state.tasks[index]? with
    | none => simp [Service.step, State.render, present]
    | some task =>
      cases pending : task.program with
      | answer value =>
        simp [Service.step, State.render, Task.render, Program.render, present, pending]
      | halt => simp [Service.step, State.render, Task.render, Program.render, present, pending]
      | call command resume =>
        simp [Service.step, State.render, Task.render, Program.render, present, pending,
          forwards.perform, Task.advance, List.map_set]

/-- A run of the outer service is a run of the inner one. -/
theorem Forwards.run (forwards : outer.Forwards inner form passed)
    (state : State Request Command Result Answer Store) (actions : List (Action Request Choice))
    (met : ∀ request ∈ requests actions, passed request) :
    outer.run (state.render form) actions = (inner.run state actions).render form := by
  induction actions generalizing state with
  | nil => rfl
  | cons action actions inductionHypothesis =>
    have first : ∀ request, action = .start request → passed request := by
      intro request same
      subst same
      exact met request List.mem_cons_self
    have later : ∀ request ∈ requests actions, passed request := by
      intro request member
      cases action with
      | start other => exact met request (List.mem_cons_of_mem _ member)
      | proceed index choice => exact met request member
    rw [run_cons, run_cons, forwards.step state first]
    exact inductionHypothesis _ later

/-- From the start, the tasks are the accepted requests in order. -/
theorem run_idle_requests (service : Service Request Command Result Answer Store Choice)
    (store : Store) (actions : List (Action Request Choice)) :
    (service.run (idleState store) actions).tasks.map (·.request) = requests actions := by
  rw [run_requests, idleState_tasks, List.map_nil, List.nil_append]

/-- So each task is the request that was accepted at its place. -/
theorem run_idle_request (service : Service Request Command Result Answer Store Choice)
    (store : Store) (actions : List (Action Request Choice)) {index : Nat}
    {task : Task Request Command Result Answer}
    (present : (service.run (idleState store) actions).tasks[index]? = some task) :
    (requests actions)[index]? = some task.request := by
  rw [← run_idle_requests service store, List.getElem?_map, present, Option.map_some]

/-- Requests that issue nothing but commands that leave the store alone are silent. -/
theorem silent_of_issues (service : Service Request Command Result Answer Store Choice)
    (quiet : Command → Prop)
    (leaves : ∀ command choice store, quiet command →
      (service.perform command choice store).2 = store)
    (store : Store) (actions : List (Action Request Choice)) {gone : Nat → Bool}
    (issues : ∀ place request, (requests actions)[place]? = some request → gone place = true →
      (service.handler request).Issues quiet) :
    service.Along (service.Silent gone) (idleState store) actions := by
  apply service.silent_of_traces _ (fun event => quiet event.command)
  · exact fun command choice database still => leaves command choice database still
  · intro index task present dropped
    have asked := service.run_idle_request store actions present
    have follows := service.run_traced _ actions (service.idleState_traced store) task
      (List.mem_of_getElem? present)
    exact ((issues index task.request asked dropped).follows follows).1

/-- A run of the outer service without its silent requests is a run of the inner one. -/
theorem Forwards.run_among (forwards : outer.Forwards inner form passed) (store : Store)
    (actions : List (Action Request Choice)) {gone : Nat → Bool}
    (silent : outer.Along (outer.Silent gone) (idleState store) actions)
    (met : ∀ place request, (requests actions)[place]? = some request → gone place = false →
      passed request) :
    (outer.run (idleState store) actions).without gone =
      (inner.run (idleState store) (without gone 0 actions)).render form := by
  have removed : outer.run (idleState store) (without gone 0 actions) =
      (outer.run (idleState store) actions).without gone :=
    outer.run_without _ _ actions silent
  rw [← removed]
  apply forwards.run (idleState store)
  intro request member
  rw [← run_idle_requests outer store, removed] at member
  obtain ⟨task, kept, rfl⟩ := List.mem_map.mp member
  obtain ⟨index, stays, present⟩ := mem_keepPlaces kept
  exact met index task.request (outer.run_idle_request store actions present) stays

end Service

end Interleaving
