import ShoppingCS.Interleaving.Histories

/-!
# Requests that wait for nobody

A program may be within a budget: on every path of results that can be returned it issues
no more commands than that, and then answers. A task executes a command at each of its turns
until it has answered. So a task whose program is within a budget has answered after as many
turns of its own, whatever the others do in the meantime.
-/

namespace Interleaving

variable {Request Command : Type} {Result : Command → Type} {Answer Store Choice : Type}

namespace Program

variable {α : Type} {possible : Event Command Result → Prop}

/-- Every possible path ends with an answer within the budget. -/
def Within (possible : Event Command Result → Prop) : Program Command Result α → Nat → Prop
  | .answer _, _ => True
  | .halt, _ => False
  | .call _ _, 0 => False
  | .call command resume, budget + 1 =>
    ∀ result, possible ⟨command, result⟩ → (resume result).Within possible budget

/-- A program within a budget is within every larger one. -/
theorem Within.mono {program : Program Command Result α} {budget more : Nat}
    (within : program.Within possible budget) (less : budget ≤ more) :
    program.Within possible more := by
  induction program generalizing budget more with
  | answer value => trivial
  | halt => exact within
  | call command resume inductionHypothesis =>
    cases budget with
    | zero => exact within.elim
    | succ budget =>
      obtain ⟨more, rfl⟩ := Nat.exists_eq_succ_of_ne_zero (show more ≠ 0 by omega)
      intro result can
      exact inductionHypothesis result (within result can) (Nat.le_of_succ_le_succ less)

/-- What is left after a trace is within what is left of the budget. -/
theorem Within.follows {program rest : Program Command Result α}
    {trace : List (Event Command Result)} (follows : Follows program trace rest) {budget : Nat}
    (within : program.Within possible budget) (can : ∀ event ∈ trace, possible event) :
    ∃ left, rest.Within possible left ∧ left + trace.length = budget := by
  induction follows generalizing budget with
  | here program => exact ⟨budget, within, rfl⟩
  | called command resume result trace rest tail inductionHypothesis =>
    cases budget with
    | zero => exact within.elim
    | succ budget =>
      obtain ⟨left, inside, whole⟩ := inductionHypothesis (within result (can _ List.mem_cons_self))
        (fun event member => can event (List.mem_cons_of_mem _ member))
      exact ⟨left, inside, by rw [List.length_cons]; omega⟩

/-- Within no budget at all there is only an answer. -/
theorem Within.answered {program : Program Command Result α} (within : program.Within possible 0) :
    ∃ value, program = .answer value := by
  cases program with
  | answer value => exact ⟨value, rfl⟩
  | halt => exact within.elim
  | call command resume => exact within.elim

end Program

namespace Service

/-- The turns that a task is given from the moment it is there. -/
def turns (index : Nat) : (accepted : Nat) → List (Action Request Choice) → Nat
  | _, [] => 0
  | accepted, .start _ :: actions => turns index (accepted + 1) actions
  | accepted, .proceed position _ :: actions =>
    (if position = index ∧ index < accepted then 1 else 0) + turns index accepted actions

/-- How many commands the task at a place has executed, by the length of its trace. -/
def executed (state : State Request Command Result Answer Store) (index : Nat) : Nat :=
  match state.tasks[index]? with
  | some task => task.trace.length
  | none => 0

variable {service : Service Request Command Result Answer Store Choice}
  {state : State Request Command Result Answer Store}

/-- A task that waits for no command stays as it is. -/
theorem run_keeps_finished (actions : List (Action Request Choice)) {index : Nat}
    {task : Task Request Command Result Answer} (present : state.tasks[index]? = some task)
    (finished : task.program.pending? = none) :
    (service.run state actions).tasks[index]? = some task := by
  induction actions generalizing state with
  | nil => exact present
  | cons action actions inductionHypothesis =>
    apply inductionHypothesis
    generalize after : service.step state action = next
    have transition : service.Transition state action next :=
      after ▸ service.step_transition state action
    cases transition with
    | started request =>
      have inside := (List.getElem?_eq_some_iff.mp present).1
      rw [List.getElem?_append_left inside, present]
    | idle other choice nothing => exact present
    | proceeded other choice scheduled command resume found pending =>
      have different : other ≠ index := by
        rintro rfl
        obtain rfl : scheduled = task := Option.some.inj (found.symm.trans present)
        simp [pending] at finished
      rw [List.getElem?_set_ne different, present]

/-- Accepting a request executes no command of any task. -/
theorem executed_start (request : Request) (index : Nat) :
    executed (service.step state (.start request)) index = executed state index := by
  have tasks : (service.step state (.start request)).tasks =
      state.tasks ++ [service.accept request] := rfl
  unfold executed
  rw [tasks]
  rcases Nat.lt_trichotomy index state.tasks.length with inside | rfl | outside
  · rw [List.getElem?_append_left inside]
  · rw [List.getElem?_concat_length, List.getElem?_eq_none (Nat.le_refl _)]
    rfl
  · rw [List.getElem?_eq_none (by simp; omega), List.getElem?_eq_none (by omega)]

/-- A turn of a waiting task executes one command, and a turn of another task none. -/
theorem executed_proceed {position index : Nat} (choice : Choice)
    (waits : ∀ task, state.tasks[index]? = some task → task.program.pending? ≠ none) :
    executed (service.step state (.proceed position choice)) index =
        (if position = index ∧ index < state.tasks.length then 1 else 0) + executed state index ∧
      (service.step state (.proceed position choice)).tasks.length = state.tasks.length := by
  generalize after : service.step state (.proceed position choice) = next
  have transition : service.Transition state (.proceed position choice) next :=
    after ▸ service.step_transition state (.proceed position choice)
  cases transition with
  | idle position choice nothing =>
    refine ⟨?_, rfl⟩
    rw [if_neg, Nat.zero_add]
    rintro ⟨rfl, inside⟩
    have present := List.getElem?_eq_getElem inside
    obtain ⟨command, waiting⟩ := Option.ne_none_iff_exists'.mp (waits _ present)
    obtain ⟨resume, call⟩ := Program.pending?_eq_some.mp waiting
    exact nothing _ present command resume call
  | proceeded position choice task command resume present pending =>
    refine ⟨?_, List.length_set⟩
    have inside := (List.getElem?_eq_some_iff.mp present).1
    by_cases same : position = index
    · subst same
      simp only [executed, List.getElem?_set_self inside, present, Task.advance_trace,
        List.length_append, List.length_singleton, inside, and_self, if_true]
      omega
    · simp [executed, List.getElem?_set_ne same, same]

/-- A task that waits for a command has executed one at each of its turns. -/
theorem run_turns (actions : List (Action Request Choice)) {index : Nat}
    {task : Task Request Command Result Answer}
    (present : (service.run state actions).tasks[index]? = some task)
    (waiting : task.program.pending? ≠ none) :
    task.trace.length = executed state index + turns index state.tasks.length actions := by
  induction actions generalizing state with
  | nil =>
    have there : state.tasks[index]? = some task := present
    simp [executed, there, turns]
  | cons action actions inductionHypothesis =>
    have later := @inductionHypothesis (service.step state action) present
    cases action with
    | start request =>
      have grown : (service.step state (.start request)).tasks.length = state.tasks.length + 1 :=
        List.length_append
      rw [later, executed_start, grown, turns]
    | proceed position choice =>
      have waits : ∀ earlier, state.tasks[index]? = some earlier →
          earlier.program.pending? ≠ none := by
        intro earlier there finished
        have kept : (service.run state (.proceed position choice :: actions)).tasks[index]? =
            some earlier := run_keeps_finished _ there finished
        obtain rfl : earlier = task := Option.some.inj (kept.symm.trans present)
        exact waiting finished
      obtain ⟨executes, same⟩ := @executed_proceed _ _ _ _ _ _ service state position index choice
        waits
      rw [later, executes, same, turns]
      omega

/-- A task within a budget has executed no more than that, and has answered once it has been
given as many turns. -/
theorem run_within (store : Store) (actions : List (Action Request Choice)) {index : Nat}
    {task : Task Request Command Result Answer}
    (present : (service.run (idleState store) actions).tasks[index]? = some task)
    {possible : Event Command Result → Prop} (can : ∀ event ∈ task.trace, possible event)
    {budget : Nat} (within : (service.handler task.request).Within possible budget) :
    task.trace.length ≤ budget ∧
      (budget ≤ turns index 0 actions → ∃ answer, task.answer? = some answer) := by
  have follows := service.run_traced _ actions (service.idleState_traced store) task
    (List.mem_of_getElem? present)
  obtain ⟨left, inside, whole⟩ := within.follows follows can
  refine ⟨by omega, fun enough => ?_⟩
  cases waiting : task.program.pending? with
  | none =>
    cases program : task.program with
    | answer value => exact ⟨value, (task.answer_some value).mpr program⟩
    | halt =>
      rw [program] at inside
      exact inside.elim
    | call command resume => simp [program] at waiting
  | some command =>
    have turned := run_turns actions present (by simp [waiting])
    have nothing : executed (idleState store : State Request Command Result Answer Store) index = 0 :=
      rfl
    rw [nothing, idleState_tasks, List.length_nil] at turned
    obtain rfl : left = 0 := by omega
    obtain ⟨value, program⟩ := inside.answered
    exact ⟨value, (task.answer_some value).mpr program⟩

end Service

end Interleaving
