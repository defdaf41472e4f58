import Mathlib.Data.List.Induction
import ShoppingCS.Interleaving.Service

/-!
# What a program does, given what it has seen

`Obeys` is a program logic over histories. A program obeys a pair of conditions
from a history if on every path each command is allowed by what has happened
before it, and each answer is one the whole history admits. Results are
arbitrary, so the rules need no store: there is one for answers, one for
commands, one for composition, and one for weakening.

A task that stands on a path of its handler obeys, from its trace on, whatever
its handler obeys from the start.
-/

namespace Interleaving

variable {Command : Type} {Result : Command → Type} {α β : Type}

namespace Program

/-- Along every path from the history, commands are allowed and answers admitted. -/
def Obeys (allowed : List (Event Command Result) → Command → Prop)
    (admits : List (Event Command Result) → α → Prop) :
    List (Event Command Result) → Program Command Result α → Prop
  | history, .answer value => admits history value
  | _, .halt => True
  | history, .call command resume =>
      allowed history command ∧
        ∀ result, Obeys allowed admits (history ++ [⟨command, result⟩]) (resume result)

section Obeys

variable {allowed : List (Event Command Result) → Command → Prop}
  {admits : List (Event Command Result) → α → Prop} {history : List (Event Command Result)}

@[simp] theorem obeys_answer (value : α) :
    Obeys allowed admits history (.answer value : Program Command Result α) ↔ admits history value :=
  Iff.rfl

@[simp] theorem obeys_halt :
    Obeys allowed admits history (.halt : Program Command Result α) ↔ True := Iff.rfl

/-- A composition obeys when its first part does and its second part continues
from whatever the first one answers. -/
theorem Obeys.bind {between : List (Event Command Result) → α → Prop}
    {ends : List (Event Command Result) → β → Prop} {program : Program Command Result α}
    {next : α → Program Command Result β} (first : Obeys allowed between history program)
    (second : ∀ later value, between later value → Obeys allowed ends later (next value)) :
    Obeys allowed ends history (program >>= next) := by
  induction program generalizing history with
  | answer value => exact second history value first
  | halt => trivial
  | call command resume inductionHypothesis =>
    exact ⟨first.1, fun result => inductionHypothesis result (first.2 result)⟩

/-- The same with a given condition between the two parts. -/
theorem Obeys.through (between : List (Event Command Result) → α → Prop)
    {ends : List (Event Command Result) → β → Prop} {program : Program Command Result α}
    {next : α → Program Command Result β} (first : Obeys allowed between history program)
    (second : ∀ later value, between later value → Obeys allowed ends later (next value)) :
    Obeys allowed ends history (program >>= next) :=
  first.bind second

/-- What is allowed and admitted may be weakened, so that a program that obeys stronger
conditions obeys these. -/
theorem Obeys.mono {permitted : List (Event Command Result) → Command → Prop}
    {ends : List (Event Command Result) → α → Prop} {program : Program Command Result α}
    (obeys : Obeys allowed admits history program)
    (commands : ∀ later command, allowed later command → permitted later command)
    (answers : ∀ later value, admits later value → ends later value) :
    Obeys permitted ends history program := by
  induction program generalizing history with
  | answer value => exact answers history value obeys
  | halt => trivial
  | call command resume inductionHypothesis =>
    exact ⟨commands history command obeys.1,
      fun result => inductionHypothesis result (obeys.2 result)⟩

/-- Two pairs of conditions that are obeyed are obeyed together. -/
theorem Obeys.and {permitted : List (Event Command Result) → Command → Prop}
    {ends : List (Event Command Result) → α → Prop} {program : Program Command Result α}
    (first : Obeys allowed admits history program) (second : Obeys permitted ends history program) :
    Obeys (fun later command => allowed later command ∧ permitted later command)
      (fun after value => admits after value ∧ ends after value) history program := by
  induction program generalizing history with
  | answer value => exact ⟨first, second⟩
  | halt => trivial
  | call command resume inductionHypothesis =>
    exact ⟨⟨first.1, second.1⟩,
      fun result => inductionHypothesis result (first.2 result) (second.2 result)⟩

/-- The history an answer is admitted by extends the one at the start. -/
theorem Obeys.extends {program : Program Command Result α}
    (obeys : Obeys allowed admits history program) :
    Obeys allowed (fun after value => admits after value ∧ ∃ later, after = history ++ later)
      history program := by
  suffices extended : ∀ before, Obeys allowed admits (history ++ before) program →
      Obeys allowed (fun after value => admits after value ∧ ∃ later, after = history ++ later)
        (history ++ before) program by
    simpa using extended [] (by simpa using obeys)
  clear obeys
  intro before obeys
  induction program generalizing before with
  | answer value => exact ⟨obeys, before, rfl⟩
  | halt => trivial
  | call command resume inductionHypothesis =>
    refine ⟨obeys.1, ?_⟩
    intro result
    rw [List.append_assoc]
    exact inductionHypothesis result _ (by simpa using obeys.2 result)

/-- A program that obeys a discipline issues only commands that some history allows. -/
theorem Obeys.issues {program : Program Command Result α}
    (obeys : Obeys allowed admits history program) :
    program.Issues (fun command => ∃ before, allowed before command) := by
  induction program generalizing history with
  | answer value => trivial
  | halt => trivial
  | call command resume inductionHypothesis =>
    exact ⟨⟨history, obeys.1⟩, fun result => inductionHypothesis result (obeys.2 result)⟩

/-- What a program obeys from the start it obeys behind any history, as far as its own part
of it goes. -/
theorem Obeys.behind (before : List (Event Command Result)) {program : Program Command Result α}
    (obeys : Obeys allowed admits history program) :
    Obeys (fun trace command => ∃ own, trace = before ++ own ∧ allowed own command)
      (fun after value => ∃ own, after = before ++ own ∧ admits own value) (before ++ history)
      program := by
  induction program generalizing history with
  | answer value => exact ⟨history, rfl, obeys⟩
  | halt => trivial
  | call command resume inductionHypothesis =>
    refine ⟨⟨history, rfl, obeys.1⟩, ?_⟩
    intro result
    rw [List.append_assoc]
    exact inductionHypothesis result (obeys.2 result)

/-- What remains of a program continues from the longer history. -/
theorem Obeys.follows {program rest : Program Command Result α}
    {trace : List (Event Command Result)} (obeys : Obeys allowed admits history program)
    (follows : Follows program trace rest) : Obeys allowed admits (history ++ trace) rest := by
  induction follows generalizing history with
  | here => simpa using obeys
  | called command resume result trace rest tail inductionHypothesis =>
    have later := inductionHypothesis (obeys.2 result)
    rwa [List.append_assoc, List.singleton_append] at later

/-- What every allowed command keeps true of the history is true of every history
a path adds. -/
theorem Obeys.keeps {program rest : Program Command Result α} {trace : List (Event Command Result)}
    (obeys : Obeys allowed admits history program) (follows : Follows program trace rest)
    (invariant : List (Event Command Result) → Prop)
    (kept : ∀ later command result, invariant later → allowed later command →
      invariant (later ++ [⟨command, result⟩])) (initially : invariant history) :
    invariant (history ++ trace) := by
  induction follows generalizing history with
  | here => simpa using initially
  | called command resume result trace rest tail inductionHypothesis =>
    have later := inductionHypothesis (obeys.2 result)
      (kept history command result initially obeys.1)
    rwa [List.append_assoc, List.singleton_append] at later

/-- A program that only issues some commands obeys every condition these meet
whatever has happened, and only adds such commands to the history. -/
theorem Issues.obeys {issued : Command → Prop} {program : Program Command Result α}
    (issues : program.Issues issued)
    (permitted : ∀ later, (∀ event ∈ later, issued event.command) →
      ∀ command, issued command → allowed (history ++ later) command) :
    Obeys allowed (fun after _ => ∃ later, after = history ++ later ∧
      ∀ event ∈ later, issued event.command) history program := by
  suffices extended : ∀ before, (∀ event ∈ before, issued event.command) →
      Obeys allowed (fun after _ => ∃ later, after = history ++ later ∧
        ∀ event ∈ later, issued event.command) (history ++ before) program by
    simpa using extended [] (by simp)
  intro before sound
  induction program generalizing before with
  | answer value => exact ⟨before, rfl, sound⟩
  | halt => trivial
  | call command resume inductionHypothesis =>
    refine ⟨permitted before sound command issues.1, ?_⟩
    intro result
    rw [List.append_assoc]
    refine inductionHypothesis result (issues.2 result) (before ++ [⟨command, result⟩]) ?_
    intro event member
    cases List.mem_append.mp member with
    | inl member => exact sound event member
    | inr member =>
      obtain rfl := List.mem_singleton.mp member
      exact issues.1

end Obeys

end Program

namespace Service

variable {Request Answer Store Choice : Type}
  {service : Service Request Command Result Answer Store Choice}
  {state : State Request Command Result Answer Store}
  {allowed : List (Event Command Result) → Command → Prop}
  {admits : List (Event Command Result) → Answer → Prop}

/-- The task of a reachable state obeys what its handler does, with the trace it has as its
history. -/
theorem Traced.obeys (traced : service.Traced state) {task : Task Request Command Result Answer}
    (member : task ∈ state.tasks)
    (obeys : Program.Obeys allowed admits [] (service.handler task.request)) :
    Program.Obeys allowed admits task.trace task.program := by
  simpa using obeys.follows (traced task member)

/-- A pending command is allowed by the trace before it. -/
theorem Traced.pending_allowed (traced : service.Traced state) {task : Task Request Command Result Answer}
    (member : task ∈ state.tasks)
    (obeys : Program.Obeys allowed admits [] (service.handler task.request)) {command : Command}
    {resume : Result command → Program Command Result Answer}
    (pending : task.program = .call command resume) : allowed task.trace command := by
  have remains := traced.obeys member obeys
  rw [pending] at remains
  exact remains.1

/-- An answer is admitted by the trace that has led to it. -/
theorem Traced.answer_admitted (traced : service.Traced state) {task : Task Request Command Result Answer}
    (member : task ∈ state.tasks)
    (obeys : Program.Obeys allowed admits [] (service.handler task.request)) {value : Answer}
    (answered : task.answer? = some value) : admits task.trace value := by
  have remains := traced.obeys member obeys
  rw [(task.answer_some value).mp answered] at remains
  exact remains

/-- Where a task of the next state comes from: it was there, has just been
accepted, or has just executed its command. -/
theorem step_task (action : Action Request Choice) {index : Nat}
    {task : Task Request Command Result Answer}
    (present : (service.step state action).tasks[index]? = some task) :
    state.tasks[index]? = some task ∨
      (∃ request, action = .start request ∧ index = state.tasks.length ∧
        task = service.accept request) ∨
      ∃ choice before command resume, action = .proceed index choice ∧
        state.tasks[index]? = some before ∧ before.program = .call command resume ∧
        task = before.advance command resume (service.perform command choice state.store).1 := by
  generalize after : service.step state action = next at present
  have transition : service.Transition state action next := after ▸ service.step_transition state action
  cases transition with
  | idle other choice nothing => exact Or.inl present
  | started request =>
    cases Nat.lt_or_ge index state.tasks.length with
    | inl inside =>
      rw [List.getElem?_append_left inside] at present
      exact Or.inl present
    | inr outside =>
      rw [List.getElem?_append_right outside, List.getElem?_singleton] at present
      split at present
      · refine Or.inr (Or.inl ⟨request, rfl, by omega, (Option.some.inj present).symm⟩)
      · simp at present
  | proceeded other choice before command resume found pending =>
    rcases set_lookup present with ⟨rfl, rfl⟩ | ⟨-, earlier⟩
    · exact Or.inr (Or.inr ⟨choice, before, command, resume, rfl, found, pending, rfl⟩)
    · exact Or.inl earlier

/-- A task keeps its place and its request, and its trace only grows. -/
theorem step_extends (action : Action Request Choice) {index : Nat}
    {task : Task Request Command Result Answer} (present : state.tasks[index]? = some task) :
    ∃ next, (service.step state action).tasks[index]? = some next ∧ next.request = task.request ∧
      ∃ later, next.trace = task.trace ++ later := by
  generalize after : service.step state action = next
  have transition : service.Transition state action next := after ▸ service.step_transition state action
  obtain ⟨inside, -⟩ := List.getElem?_eq_some_iff.mp present
  cases transition with
  | idle other choice nothing => exact ⟨task, present, rfl, [], by simp⟩
  | started request =>
    exact ⟨task, by rw [List.getElem?_append_left inside, present], rfl, [], by simp⟩
  | proceeded other choice before command resume found pending =>
    by_cases same : other = index
    · subst same
      obtain rfl : before = task := Option.some.inj (found.symm.trans present)
      exact ⟨_, List.getElem?_set_self inside, rfl, _, rfl⟩
    · exact ⟨task, by rw [List.getElem?_set_ne same, present], rfl, [], by simp⟩

/-- Over a whole run, too, a task keeps its request and extends its trace. -/
theorem run_extends (actions : List (Action Request Choice)) {index : Nat}
    {task : Task Request Command Result Answer} (present : state.tasks[index]? = some task) :
    ∃ next, (service.run state actions).tasks[index]? = some next ∧ next.request = task.request ∧
      ∃ later, next.trace = task.trace ++ later := by
  induction actions generalizing state task with
  | nil => exact ⟨task, present, rfl, [], by simp⟩
  | cons action actions inductionHypothesis =>
    obtain ⟨middle, there, asked, later, grown⟩ := step_extends action present
    obtain ⟨next, last, asked', later', grown'⟩ := inductionHypothesis there
    exact ⟨next, last, asked'.trans asked, later ++ later', by rw [grown', grown, List.append_assoc]⟩

/-- A task that has answered stays as it is through every step. -/
theorem step_keeps_answer (action : Action Request Choice) {index : Nat}
    {task : Task Request Command Result Answer} (present : state.tasks[index]? = some task)
    (answered : task.answer?.isSome) : (service.step state action).tasks[index]? = some task := by
  generalize after : service.step state action = next
  have transition : service.Transition state action next := after ▸ service.step_transition state action
  cases transition with
  | started request =>
    obtain ⟨inside, -⟩ := List.getElem?_eq_some_iff.mp present
    rw [List.getElem?_append_left inside, present]
  | idle other choice nothing => exact present
  | proceeded other choice scheduled command resume found pending =>
    have different : other ≠ index := by
      rintro rfl
      obtain rfl : scheduled = task := Option.some.inj (found.symm.trans present)
      simp [Task.pending_unanswered scheduled pending] at answered
    rw [List.getElem?_set_ne different, present]

/-- A task that has answered stays as it is over a whole run. -/
theorem run_keeps_answer (actions : List (Action Request Choice)) {index : Nat}
    {task : Task Request Command Result Answer} (present : state.tasks[index]? = some task)
    (answered : task.answer?.isSome) : (service.run state actions).tasks[index]? = some task := by
  induction actions generalizing state with
  | nil => exact present
  | cons action actions inductionHypothesis =>
    exact inductionHypothesis (step_keeps_answer action present answered)

/-- A step of a task with a pending command executes it. -/
theorem step_executes {index : Nat} {task : Task Request Command Result Answer} {command : Command}
    {resume : Result command → Program Command Result Answer}
    (present : state.tasks[index]? = some task) (pending : task.program = .call command resume)
    (choice : Choice) :
    (service.step state (.proceed index choice)).tasks[index]? =
        some (task.advance command resume (service.perform command choice state.store).1) ∧
      (service.step state (.proceed index choice)).store =
        (service.perform command choice state.store).2 := by
  have inside := (List.getElem?_eq_some_iff.mp present).1
  have executed : service.step state (.proceed index choice) =
      { store := (service.perform command choice state.store).2
        tasks := state.tasks.set index
          (task.advance command resume (service.perform command choice state.store).1) } := by
    simp only [step, present, pending]
  rw [executed]
  exact ⟨List.getElem?_set_self inside, rfl⟩

/-- Every event in a trace was executed at some moment of the run, by the task as it
was then, on the store of that moment. -/
theorem run_executed {store : Store} {actions : List (Action Request Choice)} {index : Nat}
    {task : Task Request Command Result Answer} {before after : List (Event Command Result)}
    {event : Event Command Result}
    (present : (service.run (idleState store) actions).tasks[index]? = some task)
    (split : task.trace = before ++ event :: after) :
    ∃ early choice late earlier resume, actions = early ++ .proceed index choice :: late ∧
      (service.run (idleState store) early).tasks[index]? = some earlier ∧
      earlier.request = task.request ∧ earlier.trace = before ∧
      earlier.program = .call event.command resume ∧
      event.result =
        (service.perform event.command choice (service.run (idleState store) early).store).1 := by
  induction actions using List.reverseRecOn generalizing task after with
  | nil => simp at present
  | append_singleton actions action inductionHypothesis =>
    have extended {task' : Task Request Command Result Answer} {after' : List (Event Command Result)}
        (there : (service.run (idleState store) actions).tasks[index]? = some task')
        (asked : task'.request = task.request) (split' : task'.trace = before ++ event :: after') :
        ∃ early choice late earlier resume,
          actions ++ [action] = early ++ .proceed index choice :: late ∧
          (service.run (idleState store) early).tasks[index]? = some earlier ∧
          earlier.request = task.request ∧ earlier.trace = before ∧
          earlier.program = .call event.command resume ∧ event.result =
            (service.perform event.command choice (service.run (idleState store) early).store).1 := by
      obtain ⟨early, choice, late, earlier, resume, rfl, found, same, rest⟩ :=
        inductionHypothesis there split'
      exact ⟨early, choice, late ++ [action], earlier, resume, by simp, found, same.trans asked, rest⟩
    rw [run_append] at present
    rcases step_task action present with
      there | ⟨request, -, -, rfl⟩ | ⟨choice, earlier, command, resume, rfl, found, pending, rfl⟩
    · exact extended there rfl split
    · simp [accept] at split
    · rw [Task.advance_trace] at split
      rcases List.eq_nil_or_concat after with rfl | ⟨after', last, rfl⟩
      · obtain ⟨rfl, same⟩ := List.append_inj' split rfl
        obtain rfl := (List.cons.inj same).1
        exact ⟨actions, choice, [], earlier, resume, rfl, found, rfl, rfl, pending, rfl⟩
      · have reached : earlier.trace ++ [⟨command, (service.perform command choice
            (service.run (idleState store) actions).store).1⟩] =
            (before ++ event :: after') ++ [last] := by
          rw [split]
          simp
        exact extended found rfl (List.append_inj' reached rfl).1

/-- A request whose program does not halt answers after some steps of its own. -/
theorem run_completes {index : Nat} {task : Task Request Command Result Answer}
    (present : state.tasks[index]? = some task) (finishes : task.program.Finishes)
    (choice : Choice) :
    ∃ count last, (service.run state (List.replicate count (.proceed index choice))).tasks[index]? =
      some last ∧ last.request = task.request ∧ last.answer?.isSome := by
  generalize program : task.program = rest at finishes
  induction rest generalizing state task with
  | answer value => exact ⟨0, task, present, rfl, by simp [Task.answer?, program]⟩
  | halt => exact finishes.elim
  | call command resume inductionHypothesis =>
    obtain ⟨there, -⟩ := step_executes present program choice
    obtain ⟨count, last, found, asked, answered⟩ :=
      inductionHypothesis _ there (by rfl) (finishes _)
    exact ⟨count + 1, last, found, asked, answered⟩

end Service

end Interleaving
