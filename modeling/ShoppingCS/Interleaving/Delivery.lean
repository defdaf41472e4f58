import ShoppingCS.Interleaving.Histories

/-!
# Programs that deliver

What a program answers when its commands go well, and after how many of them. The
results that count as good may depend on the command; all others are left open. A
program that delivers never halts as long as its results are good.

A task of a service delivers if the results it gets are good: each of its own steps
takes one of the commands that are left, and whoever does not move keeps what is
promised.
-/

namespace Interleaving

variable {Command : Type} {Result : Command → Type} {α β : Type}

namespace Program

/-- With good results, some commands at most lead to a wanted answer. -/
def Delivers (good : (command : Command) → Result command → Prop) (wanted : α → Prop) :
    Program Command Result α → (left : Nat) → Prop
  | .answer value, _ => wanted value
  | .halt, _ => False
  | .call command resume, left => ∃ fewer, left = fewer + 1 ∧
      ∀ result, good command result → (resume result).Delivers good wanted fewer

variable {good : (command : Command) → Result command → Prop} {wanted : α → Prop}

/-- One command is followed by what delivers after every good result. -/
theorem delivers_call {command : Command} {resume : Result command → Program Command Result α}
    {left : Nat} (rest : ∀ result, good command result → (resume result).Delivers good wanted left) :
    (Program.call command resume).Delivers good wanted (left + 1) :=
  ⟨left, rfl, rest⟩

/-- A program that delivers within some commands delivers within more, by induction on the
program. -/
theorem Delivers.spare {program : Program Command Result α} {left : Nat}
    (delivers : program.Delivers good wanted left) (spare : Nat) :
    program.Delivers good wanted (left + spare) := by
  induction program generalizing left with
  | answer value => exact delivers
  | halt => exact delivers.elim
  | call command resume inductionHypothesis =>
    obtain ⟨fewer, rfl, rest⟩ := delivers
    exact ⟨fewer + spare, by omega, fun result fine => inductionHypothesis result (rest result fine)⟩

/-- A composition delivers in as many commands as its two parts. -/
theorem Delivers.bind {ends : β → Prop} {program : Program Command Result α}
    {next : α → Program Command Result β} {left : Nat}
    (first : program.Delivers good wanted left) (more : Nat)
    (second : ∀ value, wanted value → (next value).Delivers good ends more) :
    (program >>= next).Delivers good ends (left + more) := by
  induction program generalizing left with
  | answer value =>
    rw [Nat.add_comm]
    exact (second value first).spare left
  | halt => exact first.elim
  | call command resume inductionHypothesis =>
    obtain ⟨fewer, rfl, rest⟩ := first
    refine ⟨fewer + more, by omega, fun result fine => ?_⟩
    exact inductionHypothesis result (rest result fine)

end Program

namespace Service

variable {Request Answer Store Choice : Type}

/-- A task that delivers within a number of commands, those it has executed
included. -/
def OnTime (good : (command : Command) → Result command → Prop) (wanted : Answer → Prop)
    (bound : Nat) (task : Task Request Command Result Answer) : Prop :=
  ∃ left, task.program.Delivers good wanted left ∧ task.trace.length + left = bound

variable {good : (command : Command) → Result command → Prop} {wanted : Answer → Prop} {bound : Nat}

/-- It has answered as wanted, or goes on within the bound. -/
theorem OnTime.outcome {task : Task Request Command Result Answer}
    (onTime : OnTime good wanted bound task) :
    (∃ value, task.answer? = some value ∧ wanted value) ∨
      (task.answer? = none ∧ task.program.pending? ≠ none ∧ task.trace.length < bound) := by
  obtain ⟨left, delivers, sum⟩ := onTime
  cases program : task.program with
  | answer value =>
    rw [program] at delivers
    exact Or.inl ⟨value, (task.answer_some value).mpr program, delivers⟩
  | halt =>
    rw [program] at delivers
    exact delivers.elim
  | call command resume =>
    rw [program] at delivers
    obtain ⟨fewer, rfl, -⟩ := delivers
    exact Or.inr ⟨task.pending_unanswered program, by simp, by omega⟩

/-- A step keeps a task on time if the result it gets is good. -/
theorem step_onTime {service : Service Request Command Result Answer Store Choice}
    {state : State Request Command Result Answer Store} (action : Action Request Choice) {place : Nat}
    {task : Task Request Command Result Answer} (present : state.tasks[place]? = some task)
    (onTime : OnTime good wanted bound task)
    (fine : ∀ choice command resume, action = .proceed place choice →
      task.program = .call command resume → good command (service.perform command choice state.store).1) :
    ∃ next, (service.step state action).tasks[place]? = some next ∧ next.request = task.request ∧
      OnTime good wanted bound next := by
  obtain ⟨next, there, asked, -⟩ := service.step_extends action present
  refine ⟨next, there, asked, ?_⟩
  rcases step_task action there with
    same | ⟨_, -, outside, -⟩ | ⟨choice, before, command, resume, same, found, pending, rfl⟩
  · obtain rfl := Option.some.inj (present.symm.trans same)
    exact onTime
  · obtain ⟨inside, -⟩ := List.getElem?_eq_some_iff.mp present
    omega
  · obtain rfl := Option.some.inj (present.symm.trans found)
    obtain ⟨left, delivers, sum⟩ := onTime
    rw [pending] at delivers
    obtain ⟨fewer, rfl, rest⟩ := delivers
    refine ⟨fewer, rest _ (fine choice command resume same pending), ?_⟩
    rw [Task.advance_trace, List.length_append, List.length_singleton]
    omega

end Service

end Interleaving
