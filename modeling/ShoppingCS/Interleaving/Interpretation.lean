import ShoppingCS.Interleaving.Exceptions

/-!
# Programs in terms of other commands

A program is interpreted in other commands by saying what each of its own commands is a
program of, with a state that is passed along. The interpretation of a composition is
the composition of the interpretations, and an exception is what it is.
-/

namespace Interleaving

variable {Command Other : Type} {Result : Command → Type} {Returned : Other → Type}
  {Exception State α β : Type}

namespace Program

/-- Replace every command of a program by a program of other commands, with a state that is
handed from one to the next. -/
def interpret
    (meaning : (command : Command) → State → Program Other Returned (Result command × State)) :
    Program Command Result α → State → Program Other Returned (α × State)
  | .answer value, state => .answer (value, state)
  | .halt, _ => .halt
  | .call command resume, state =>
    (meaning command state).bind (fun outcome => (resume outcome.1).interpret meaning outcome.2)

/-- Composition is associative, by induction on the first program. -/
theorem bind_bind {γ : Type} (program : Program Command Result α)
    (next : α → Program Command Result β) (last : β → Program Command Result γ) :
    ((program >>= next) >>= last) = (program >>= fun value => next value >>= last) := by
  induction program with
  | answer value => rfl
  | halt => rfl
  | call command resume inductionHypothesis =>
    exact congrArg (call command) (funext inductionHypothesis)

/-- A composition with the answer alone is the program itself. -/
theorem bind_answer (program : Program Command Result α) : (program >>= Program.answer) = program := by
  induction program with
  | answer value => rfl
  | halt => rfl
  | call command resume inductionHypothesis =>
    exact congrArg (call command) (funext inductionHypothesis)

variable (meaning : (command : Command) → State → Program Other Returned (Result command × State))

/-- The interpretation of a composition is that of its first part, followed by that of the
second from the state it has left. -/
theorem interpret_bind (program : Program Command Result α) (next : α → Program Command Result β)
    (state : State) :
    (program >>= next).interpret meaning state =
      (program.interpret meaning state >>= fun outcome =>
        (next outcome.1).interpret meaning outcome.2) := by
  induction program generalizing state with
  | answer value => rfl
  | halt => rfl
  | call command resume inductionHypothesis =>
    have continued : (fun outcome : Result command × State =>
        (resume outcome.1 >>= next).interpret meaning outcome.2) = fun outcome =>
          (resume outcome.1).interpret meaning outcome.2 >>= fun result =>
            (next result.1).interpret meaning result.2 :=
      funext fun outcome => inductionHypothesis outcome.1 outcome.2
    calc ((call command resume) >>= next).interpret meaning state
      _ = (meaning command state >>= fun outcome =>
            (resume outcome.1 >>= next).interpret meaning outcome.2) := rfl
      _ = (meaning command state >>= fun outcome =>
            (resume outcome.1).interpret meaning outcome.2 >>= fun result =>
              (next result.1).interpret meaning result.2) := by rw [continued]
      _ = _ := (bind_bind _ _ _).symm

/-- What is issued in the end is what the commands mean. -/
theorem Issues.interpret {allowed : Command → Prop} {permitted : Other → Prop}
    {program : Program Command Result α} (issues : program.Issues allowed)
    (means : ∀ command state, allowed command → (meaning command state).Issues permitted)
    (state : State) : (program.interpret meaning state).Issues permitted := by
  induction program generalizing state with
  | answer value => trivial
  | halt => trivial
  | call command resume inductionHypothesis =>
    apply (means command state issues.1).bind
    intro outcome
    exact inductionHypothesis outcome.1 (issues.2 outcome.1) outcome.2

end Program

namespace Throwing

variable (meaning : (command : Command) → State → Program Other Returned (Result command × State))

/-- Composition is associative with exceptions as well, since an exception ends both sides at
once. -/
theorem bind_bind {γ : Type} (program : Throwing Command Result Exception α)
    (next : α → Throwing Command Result Exception β)
    (last : β → Throwing Command Result Exception γ) :
    ((program >>= next) >>= last) = (program >>= fun value => next value >>= last) := by
  refine (Program.bind_bind program.run _ _).trans (congrArg (program.run >>= ·) (funext ?_))
  intro outcome
  cases outcome <;> rfl

/-- A composition with `pure` is the program itself, also where it throws. -/
theorem bind_pure (program : Throwing Command Result Exception α) : (program >>= pure) = program := by
  refine Eq.trans (congrArg (program.run >>= ·) (funext ?_)) (Program.bind_answer program.run)
  intro outcome
  cases outcome <;> rfl

/-- The interpretation of a composition that may throw: an exception of the first part stays
one, with the state it has left. -/
theorem interpret_bind (program : Throwing Command Result Exception α)
    (next : α → Throwing Command Result Exception β) (state : State) :
    (program >>= next).run.interpret meaning state =
      (program.run.interpret meaning state >>= fun outcome =>
        match outcome.1 with
        | .ok value => (next value).run.interpret meaning outcome.2
        | .error exception => .answer (.error exception, outcome.2)) := by
  refine (Program.interpret_bind meaning program.run _ state).trans
    (congrArg (program.run.interpret meaning state >>= ·) (funext ?_))
  rintro ⟨outcome, last⟩
  cases outcome <;> rfl

/-- An exception of the body is left to the `catch`. -/
theorem interpret_tryCatch (program : Throwing Command Result Exception α)
    (recover : Exception → Throwing Command Result Exception α) (state : State) :
    (tryCatch program recover).run.interpret meaning state =
      (program.run.interpret meaning state >>= fun outcome =>
        match outcome.1 with
        | .ok value => .answer (.ok value, outcome.2)
        | .error exception => (recover exception).run.interpret meaning outcome.2) := by
  refine (Program.interpret_bind meaning program.run _ state).trans
    (congrArg (program.run.interpret meaning state >>= ·) (funext ?_))
  rintro ⟨outcome, last⟩
  cases outcome <;> rfl

section Issues

variable {allowed : Command → Prop} {program : Throwing Command Result Exception α}

theorem issues_attempt {command : Command} {throws : Result command → Except Exception α}
    (met : allowed command) : (attempt command throws).run.Issues allowed :=
  ⟨met, fun _ => trivial⟩

/-- A composition issues what its two parts issue, the second only where the first has not
thrown. -/
theorem issues_bind {next : α → Throwing Command Result Exception β}
    (first : program.run.Issues allowed) (second : ∀ value, (next value).run.Issues allowed) :
    (program >>= next).run.Issues allowed := by
  apply Program.Issues.bind first
  intro outcome
  cases outcome with
  | ok value => exact second value
  | error exception => trivial

/-- A `catch` issues what its body issues and what it issues itself. -/
theorem issues_tryCatch {recover : Exception → Throwing Command Result Exception α}
    (body : program.run.Issues allowed) (caught : ∀ exception, (recover exception).run.Issues allowed) :
    (tryCatch program recover).run.Issues allowed := by
  apply Program.Issues.bind body
  intro outcome
  cases outcome with
  | ok value => trivial
  | error exception => exact caught exception

/-- Programs that are all run to their ends issue what each of them issues. -/
theorem issues_all {programs : List (Throwing Command Result Exception α)}
    (each : ∀ program ∈ programs, program.run.Issues allowed) :
    (all programs).run.Issues allowed := by
  induction programs with
  | nil => trivial
  | cons program programs inductionHypothesis =>
    apply Program.Issues.bind (each program List.mem_cons_self)
    intro first
    apply (inductionHypothesis (fun other member => each other (List.mem_cons_of_mem _ member))).bind
    intro others
    trivial

end Issues

end Throwing

end Interleaving
