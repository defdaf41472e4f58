import ShoppingCS.Interleaving.Indifference

/-!
# Requests that do not notice the others

Some requests are left alone when those of everybody else are taken out of a run and only the
time these have taken remains. They do not notice: they issue the same commands and get the same
results, as long as theirs depend on a view of the store that the others keep.

What the commands of a request are about may depend on what earlier ones have returned. `Relies`
bounds the commands of a program on the paths whose results are possible.
-/

namespace Interleaving

variable {Request Command : Type} {Result : Command → Type} {Answer Store Choice : Type}

namespace Program

variable {α β : Type}

/-- As long as all results are possible, the program issues allowed commands and answers as
promised. -/
def Relies (possible : Event Command Result → Prop) (allowed : Command → Prop)
    (promised : α → Prop) : Program Command Result α → Prop
  | .answer value => promised value
  | .halt => True
  | .call command resume => allowed command ∧
      ∀ result, possible ⟨command, result⟩ → (resume result).Relies possible allowed promised

section Rules

variable {possible : Event Command Result → Prop} {allowed : Command → Prop} {promised : α → Prop}

/-- A composition relies on the promise of its first part. -/
theorem Relies.bind {program : Program Command Result α} {next : α → Program Command Result β}
    {ends : β → Prop} (first : program.Relies possible allowed promised)
    (second : ∀ value, promised value → (next value).Relies possible allowed ends) :
    (program >>= next).Relies possible allowed ends := by
  induction program with
  | answer value => exact second value first
  | halt => trivial
  | call command resume inductionHypothesis =>
    exact ⟨first.1, fun result may => inductionHypothesis result (first.2 result may)⟩

/-- A weaker promise is kept as well, by induction on the program. -/
theorem Relies.mono {program : Program Command Result α} {weaker : α → Prop}
    (relies : program.Relies possible allowed promised) (implies : ∀ value, promised value → weaker value) :
    program.Relies possible allowed weaker := by
  induction program with
  | answer value => exact implies value relies
  | halt => trivial
  | call command resume inductionHypothesis =>
    exact ⟨relies.1, fun result may => inductionHypothesis result (relies.2 result may)⟩

/-- A possible trace leaves a program that relies on the same. -/
theorem Relies.follows {program rest : Program Command Result α} {trace : List (Event Command Result)}
    (relies : program.Relies possible allowed promised) (follows : Follows program trace rest)
    (all : ∀ event ∈ trace, possible event) : rest.Relies possible allowed promised := by
  induction follows with
  | here program => exact relies
  | called command resume result trace rest tail inductionHypothesis =>
    obtain ⟨here, later⟩ := List.forall_mem_cons.mp all
    exact inductionHypothesis (relies.2 result here) later

end Rules

end Program

namespace Service

variable (service : Service Request Command Result Answer Store Choice)

/-- What is left of an action when the requests that are not own are taken out: an own step with
its new place, or the time that another request has taken. -/
def leftOf (own : Request → Bool) (state : State Request Command Result Answer Store) :
    Action Request Choice → List (Choice ⊕ Action Request Choice)
  | .start request => if own request then [.inr (.start request)] else []
  | .proceed index choice =>
    match state.tasks[index]? with
    | some task =>
      if own task.request then
        [.inr (.proceed (rank (fun task => own task.request) state.tasks index) choice)]
      else if task.program.pending?.isSome then [.inl choice]
      else []
    | none => []

/-- Of the acceptance of a request it is the acceptance, if it is own. -/
theorem leftOf_start (own : Request → Bool) (state : State Request Command Result Answer Store)
    (request : Request) : leftOf own state (.start request : Action Request Choice) =
      if own request then [.inr (.start request)] else [] := rfl

/-- What is left of a run for one side: its own actions, and of the others the passing of time
alone. -/
def residue (own : Request → Bool) (state : State Request Command Result Answer Store) :
    List (Action Request Choice) → List (Choice ⊕ Action Request Choice)
  | [] => []
  | action :: actions => leftOf own state action ++ residue own (service.step state action) actions

variable {service}

/-- When own requests do not notice the others. Own commands return the same and keep the view on
stores with the same view; of the other ones only the time they take is seen. -/
structure Seclusion (service : Service Request Command Result Answer Store Choice) where
  own : Request → Bool
  pass : Choice → Store → Store
  meets : State Request Command Result Answer Store → Action Request Choice → Prop
  invariant : State Request Command Result Answer Store → Prop
  sameView : Store → Store → Prop
  kept : ∀ state action, invariant state → meets state action → invariant (service.step state action)
  own_turns : ∀ (state : State Request Command Result Answer Store) (index : Nat) (choice : Choice)
    (task : Task Request Command Result Answer) (command : Command)
    (resume : Result command → Program Command Result Answer) (other : Store), invariant state →
    state.tasks[index]? = some task → task.program = .call command resume → own task.request = true →
    sameView state.store other →
      (service.perform command choice state.store).1 = (service.perform command choice other).1 ∧
        sameView (service.perform command choice state.store).2 (service.perform command choice other).2
  other_turns : ∀ (state : State Request Command Result Answer Store) (index : Nat) (choice : Choice)
    (task : Task Request Command Result Answer) (command : Command)
    (resume : Result command → Program Command Result Answer) (other : Store), invariant state →
    state.tasks[index]? = some task → task.program = .call command resume → own task.request = false →
    sameView state.store other →
      sameView (service.perform command choice state.store).2 (pass choice other)

namespace Seclusion

variable (seclusion : service.Seclusion)

/-- The task is an own one if its request is. -/
def ownTask (task : Task Request Command Result Answer) : Bool := seclusion.own task.request

/-- A state and the same state without the other requests. -/
structure Secluded (state alone : State Request Command Result Answer Store) : Prop where
  view : seclusion.sameView state.store alone.store
  tasks : alone.tasks = state.tasks.filter seclusion.ownTask

variable {seclusion} {state alone : State Request Command Result Answer Store}

/-- A request is accepted: on both sides if it is an own one, and otherwise on the first only.
-/
theorem Secluded.start (secluded : seclusion.Secluded state alone) (request : Request) :
    seclusion.Secluded (service.step state (.start request))
      (Runs.run (service.disturbedStep seclusion.pass) alone (leftOf seclusion.own state (.start request))) := by
  have accepted : seclusion.ownTask (service.accept request) = seclusion.own request := rfl
  rw [leftOf_start]
  split_ifs with own
  · constructor
    · exact secluded.view
    · change alone.tasks ++ [service.accept request] =
        (state.tasks ++ [service.accept request]).filter seclusion.ownTask
      rw [List.filter_append, ← secluded.tasks, List.filter_cons_of_pos (accepted.trans own),
        List.filter_nil]
  · constructor
    · exact secluded.view
    · change alone.tasks = (state.tasks ++ [service.accept request]).filter seclusion.ownTask
      rw [List.filter_append, ← secluded.tasks, List.filter_cons_of_neg (by rw [accepted]; exact own),
        List.filter_nil, List.append_nil]

/-- A turn of an own request is the same turn on both sides, since its command sees the same.
-/
theorem Secluded.own_turn (secluded : seclusion.Secluded state alone) (holds : seclusion.invariant state)
    {index : Nat} {task : Task Request Command Result Answer} (choice : Choice)
    (present : state.tasks[index]? = some task) (own : seclusion.ownTask task = true) :
    seclusion.Secluded (service.step state (.proceed index choice))
      (service.step alone (.proceed (rank seclusion.ownTask state.tasks index) choice)) := by
  have there : alone.tasks[rank seclusion.ownTask state.tasks index]? = some task := by
    rw [secluded.tasks]
    exact filter_rank seclusion.ownTask present own
  rw [step_turn service state index choice present, step_turn service alone _ choice there]
  cases waits : task.program.pending? with
  | none =>
    rw [turn_idle service choice state.store task waits, turn_idle service choice alone.store task waits]
    constructor
    · exact secluded.view
    · change alone.tasks.set _ task = (state.tasks.set index task).filter seclusion.ownTask
      rw [filter_set_rank seclusion.ownTask present own task own, secluded.tasks]
  | some command =>
    obtain ⟨resume, pending⟩ := Program.pending?_eq_some.mp waits
    rw [turn_call service choice state.store task pending,
      turn_call service choice alone.store task pending]
    obtain ⟨results, views⟩ := seclusion.own_turns state index choice task command resume alone.store
      holds present pending own secluded.view
    constructor
    · exact views
    · dsimp only
      rw [filter_set_rank seclusion.ownTask present own (task.advance command resume _) own,
        secluded.tasks, results]

/-- A turn of another request is a pause for the own side, by the separation of the two. -/
theorem Secluded.other_turn (secluded : seclusion.Secluded state alone)
    (holds : seclusion.invariant state) {index : Nat} {task : Task Request Command Result Answer}
    {command : Command} {resume : Result command → Program Command Result Answer} (choice : Choice)
    (present : state.tasks[index]? = some task) (pending : task.program = .call command resume)
    (other : seclusion.ownTask task = false) :
    seclusion.Secluded (service.step state (.proceed index choice))
      { alone with store := seclusion.pass choice alone.store } := by
  rw [step_turn service state index choice present, turn_call service choice state.store task pending]
  constructor
  · exact seclusion.other_turns state index choice task command resume alone.store holds present
      pending other secluded.view
  · dsimp only
    rw [filter_set_other seclusion.ownTask present other (task.advance command resume _) other,
      secluded.tasks]

/-- One action keeps the two sides together, by what is left of it. -/
theorem Secluded.step (secluded : seclusion.Secluded state alone) (holds : seclusion.invariant state)
    (action : Action Request Choice) :
    seclusion.Secluded (service.step state action)
      (Runs.run (service.disturbedStep seclusion.pass) alone (leftOf seclusion.own state action)) := by
  cases action with
  | start request => exact secluded.start request
  | proceed index choice =>
    cases present : state.tasks[index]? with
    | none =>
      rw [step_absent service state index choice present]
      have nothing : leftOf seclusion.own state (.proceed index choice) = [] := by
        simp only [leftOf, present]
      rw [nothing]
      exact secluded
    | some task =>
      simp only [leftOf, present]
      split_ifs with own waits
      · exact secluded.own_turn holds choice present own
      · obtain ⟨command, issued⟩ := Option.isSome_iff_exists.mp waits
        obtain ⟨resume, pending⟩ := Program.pending?_eq_some.mp issued
        exact secluded.other_turn holds choice present pending (Bool.eq_false_iff.mpr own)
      · have idle : task.program.pending? = none := by simpa using waits
        rw [step_turn service state index choice present, turn_idle service choice state.store task idle]
        constructor
        · exact secluded.view
        · change alone.tasks = (state.tasks.set index task).filter seclusion.ownTask
          rw [filter_set_other seclusion.ownTask present (Bool.eq_false_iff.mpr own) task
            (Bool.eq_false_iff.mpr own), secluded.tasks]

/-- Own requests do not notice the others: in what is left of a run without them, the tasks are
the own ones as they are in the run. -/
theorem Secluded.run (secluded : seclusion.Secluded state alone) (holds : seclusion.invariant state)
    (actions : List (Action Request Choice)) (along : service.Along seclusion.meets state actions) :
    seclusion.Secluded (service.run state actions)
      (Runs.run (service.disturbedStep seclusion.pass) alone
        (residue service seclusion.own state actions)) := by
  induction actions generalizing state alone with
  | nil => exact secluded
  | cons action actions inductionHypothesis =>
    rw [residue, Runs.run_append]
    exact inductionHypothesis (secluded.step holds action)
      (seclusion.kept state action holds along.1) along.2

end Seclusion

end Service

end Interleaving
