import Mathlib.Logic.Basic

/-!
# Programs that issue commands to a shared store

A program either answers, halts without an answer, or issues one command and
resumes with that command's result. Everything between two commands is pure, so
a command is the unit of interleaving. The tree is inductive: every path through
a program is finite, whatever the results are.

`Follows` relates a program to the program that remains after a trace of
results. `Issues` bounds the commands a program can issue on any path. Both are
closed under sequential composition, so facts about a called program are proved
once and used by every caller.
-/

namespace Interleaving

variable {Command : Type} {Result : Command → Type} {α β Store Choice : Type}

/-- A finite tree of commands. The continuation receives the command's own
result type, so no result can be mistaken for that of another command. -/
inductive Program (Command : Type) (Result : Command → Type) (α : Type) where
  | answer (value : α)
  | halt
  | call (command : Command) (resume : Result command → Program Command Result α)

/-- One executed command together with the result it returned, as a trace records it. -/
structure Event (Command : Type) (Result : Command → Type) where
  command : Command
  result : Result command

namespace Program

/-- Sequential composition. A halted program never reaches its continuation. -/
def bind : Program Command Result α → (α → Program Command Result β) →
    Program Command Result β
  | .answer value, next => next value
  | .halt, _ => .halt
  | .call command resume, next => .call command (fun result => (resume result).bind next)

instance : Monad (Program Command Result) where
  pure := .answer
  bind := bind

/-- Issue one command and answer with its result unchanged. -/
def issue (command : Command) : Program Command Result (Result command) :=
  .call command .answer

@[simp] theorem pure_eq (value : α) :
    (pure value : Program Command Result α) = .answer value := rfl

@[simp] theorem answer_bind (value : α) (next : α → Program Command Result β) :
    (Program.answer value >>= next) = next value := rfl

@[simp] theorem halt_bind (next : α → Program Command Result β) :
    ((Program.halt : Program Command Result α) >>= next) = .halt := rfl

@[simp] theorem call_bind (command : Command) (resume : Result command → Program Command Result α)
    (next : α → Program Command Result β) :
    (Program.call command resume >>= next) =
      .call command (fun result => resume result >>= next) := rfl

@[simp] theorem issue_bind (command : Command)
    (next : Result command → Program Command Result β) :
    (issue command >>= next) = .call command next := rfl

/-- The command a program waits for, if it has neither answered nor halted. -/
def pending? : Program Command Result α → Option Command
  | .call command _ => some command
  | _ => none

@[simp] theorem pending?_answer (value : α) :
    (Program.answer value : Program Command Result α).pending? = none := rfl

@[simp] theorem pending?_halt : (Program.halt : Program Command Result α).pending? = none := rfl

@[simp] theorem pending?_call (command : Command)
    (resume : Result command → Program Command Result α) :
    (Program.call command resume).pending? = some command := rfl

/-- A program that waits for a command is a call of it. -/
theorem pending?_eq_some {program : Program Command Result α} {command : Command} :
    program.pending? = some command ↔ ∃ resume, program = .call command resume := by
  cases program with
  | answer value => simp
  | halt => simp
  | call other resume =>
    constructor
    · intro same
      obtain rfl := Option.some.inj same
      exact ⟨resume, rfl⟩
    · rintro ⟨_, same⟩
      rw [same, pending?_call]

/-- `Follows program trace rest`: the commands and results of `trace` lead from
`program` to `rest`. The results are arbitrary; no store is consulted. -/
inductive Follows : Program Command Result α → List (Event Command Result) →
    Program Command Result α → Prop where
  | here (program : Program Command Result α) : Follows program [] program
  | called (command : Command) (resume : Result command → Program Command Result α)
      (result : Result command) (trace : List (Event Command Result))
      (rest : Program Command Result α) (tail : Follows (resume result) trace rest) :
      Follows (.call command resume) (⟨command, result⟩ :: trace) rest

/-- Only the empty trace leads on from an answer, and it stays there. -/
@[simp] theorem follows_answer (value : α) (trace : List (Event Command Result))
    (rest : Program Command Result α) :
    Follows (.answer value) trace rest ↔ trace = [] ∧ rest = .answer value := by
  constructor
  · intro follows
    cases follows
    exact ⟨rfl, rfl⟩
  · rintro ⟨rfl, rfl⟩
    exact .here _

/-- Only the empty trace leads on from a halted program. -/
@[simp] theorem follows_halt (trace : List (Event Command Result))
    (rest : Program Command Result α) :
    Follows .halt trace rest ↔ trace = [] ∧ rest = .halt := by
  constructor
  · intro follows
    cases follows
    exact ⟨rfl, rfl⟩
  · rintro ⟨rfl, rfl⟩
    exact .here _

/-- A trace from a pending command is empty, or starts with that command. -/
theorem follows_call (command : Command) (resume : Result command → Program Command Result α)
    (trace : List (Event Command Result)) (rest : Program Command Result α) :
    Follows (.call command resume) trace rest ↔
      (trace = [] ∧ rest = .call command resume) ∨
      ∃ result later, trace = ⟨command, result⟩ :: later ∧ Follows (resume result) later rest := by
  constructor
  · intro follows
    cases follows with
    | here => exact Or.inl ⟨rfl, rfl⟩
    | called _ _ result later _ tail => exact Or.inr ⟨result, later, rfl, tail⟩
  · rintro (⟨rfl, rfl⟩ | ⟨result, later, rfl, tail⟩)
    · exact .here _
    · exact .called command resume result later rest tail

/-- Traces compose: what leads from one program to a second and from there to a third leads
from the first to the third. -/
theorem Follows.append {program middle rest : Program Command Result α}
    {first second : List (Event Command Result)}
    (before : Follows program first middle) (after : Follows middle second rest) :
    Follows program (first ++ second) rest := by
  induction before with
  | here => exact after
  | called command resume result trace rest tail inductionHypothesis =>
    exact .called command resume result _ _ (inductionHypothesis after)

/-- Executing the pending command extends the trace by one event. -/
theorem Follows.extend {program : Program Command Result α}
    {trace : List (Event Command Result)} {command : Command}
    {resume : Result command → Program Command Result α}
    (follows : Follows program trace (.call command resume)) (result : Result command) :
    Follows program (trace ++ [⟨command, result⟩]) (resume result) :=
  follows.append (.called command resume result [] _ (.here _))

/-- Every command the program can issue, on any path, satisfies `allowed`. -/
def Issues (allowed : Command → Prop) : Program Command Result α → Prop
  | .answer _ => True
  | .halt => True
  | .call command resume => allowed command ∧ ∀ result, (resume result).Issues allowed

@[simp] theorem issues_answer (allowed : Command → Prop) (value : α) :
    (Program.answer value : Program Command Result α).Issues allowed := trivial

@[simp] theorem issues_halt (allowed : Command → Prop) :
    (Program.halt : Program Command Result α).Issues allowed := trivial

@[simp] theorem issues_call (allowed : Command → Prop) (command : Command)
    (resume : Result command → Program Command Result α) :
    (Program.call command resume).Issues allowed ↔
      allowed command ∧ ∀ result, (resume result).Issues allowed := Iff.rfl

/-- A composition issues only what its two parts issue, by induction on the first. -/
theorem Issues.bind {allowed : Command → Prop} {program : Program Command Result α}
    {next : α → Program Command Result β} (first : program.Issues allowed)
    (second : ∀ value, (next value).Issues allowed) : (program >>= next).Issues allowed := by
  induction program with
  | answer value => exact second value
  | halt => trivial
  | call command resume inductionHypothesis =>
    exact ⟨first.1, fun result => inductionHypothesis result (first.2 result)⟩

/-- A weaker bound on the commands holds whenever a stronger one does. -/
theorem Issues.mono {allowed permitted : Command → Prop} {program : Program Command Result α}
    (issues : program.Issues allowed) (weaker : ∀ command, allowed command → permitted command) :
    program.Issues permitted := by
  induction program with
  | answer value => trivial
  | halt => trivial
  | call command resume inductionHypothesis =>
    exact ⟨weaker command issues.1, fun result => inductionHypothesis result (issues.2 result)⟩

/-- The bound applies to every executed command and to what remains. -/
theorem Issues.follows {allowed : Command → Prop} {program rest : Program Command Result α}
    {trace : List (Event Command Result)} (issues : program.Issues allowed)
    (follows : Follows program trace rest) :
    (∀ event ∈ trace, allowed event.command) ∧ rest.Issues allowed := by
  induction follows with
  | here => exact ⟨by simp, issues⟩
  | called command resume result trace rest tail inductionHypothesis =>
    obtain ⟨executed, remaining⟩ := inductionHypothesis (issues.2 result)
    refine ⟨?_, remaining⟩
    intro event member
    rcases List.mem_cons.mp member with rfl | member
    · exact issues.1
    · exact executed event member

/-- No path through the program halts, whatever its commands return. -/
def Finishes : Program Command Result α → Prop
  | .answer _ => True
  | .halt => False
  | .call _ resume => ∀ result, (resume result).Finishes

@[simp] theorem finishes_answer (value : α) :
    (Program.answer value : Program Command Result α).Finishes := trivial

/-- A composition of programs that do not halt does not halt. -/
theorem Finishes.bind {program : Program Command Result α} {next : α → Program Command Result β}
    (first : program.Finishes) (second : ∀ value, (next value).Finishes) :
    (program >>= next).Finishes := by
  induction program with
  | answer value => exact second value
  | halt => exact absurd first id
  | call command resume inductionHypothesis =>
    exact fun result => inductionHypothesis result (first result)

/-- What remains of a program that does not halt does not halt. -/
theorem Finishes.follows {program rest : Program Command Result α}
    {trace : List (Event Command Result)} (finishes : program.Finishes)
    (follows : Follows program trace rest) : rest.Finishes := by
  induction follows with
  | here => exact finishes
  | called command resume result trace rest tail inductionHypothesis =>
    exact inductionHypothesis (finishes result)

/-- The choices that are left after some commands have used theirs. -/
def after (count : Nat) (choices : Nat → Choice) : Nat → Choice :=
  fun index => choices (index + count)

/-- Run a program by itself. The `n`-th command is resolved by the `n`-th
choice; the choices not consumed are returned, so that runs compose. A halted
program has no outcome. -/
def alone (perform : (command : Command) → Choice → Store → Result command × Store) :
    Program Command Result α → (Nat → Choice) → Store → Option (α × Store × (Nat → Choice))
  | .answer value, choices, store => some (value, store, choices)
  | .halt, _, _ => none
  | .call command resume, choices, store =>
      alone perform (resume (perform command (choices 0) store).1) (after 1 choices)
        (perform command (choices 0) store).2

section Alone

variable (perform : (command : Command) → Choice → Store → Result command × Store)

@[simp] theorem alone_answer (value : α) (choices : Nat → Choice) (store : Store) :
    alone perform (.answer value : Program Command Result α) choices store =
      some (value, store, choices) := rfl

@[simp] theorem alone_halt (choices : Nat → Choice) (store : Store) :
    alone perform (.halt : Program Command Result α) choices store = none := rfl

/-- One command is resolved by the first choice, and what follows by the rest. -/
theorem alone_call (command : Command) (resume : Result command → Program Command Result α)
    (choices : Nat → Choice) (store : Store) :
    alone perform (.call command resume) choices store =
      alone perform (resume (perform command (choices 0) store).1) (after 1 choices)
        (perform command (choices 0) store).2 := rfl

theorem after_apply (count index : Nat) (choices : Nat → Choice) :
    after count choices index = choices (index + count) := rfl

/-- Dropping choices twice drops as many as the two numbers together. -/
theorem after_after (first second : Nat) (choices : Nat → Choice) :
    after second (after first choices) = after (first + second) choices := by
  funext index
  simp only [after_apply]
  congr 1
  omega

/-- A program that does not halt has an outcome from every store, by induction on the program.
-/
theorem Finishes.alone {program : Program Command Result α} (finishes : program.Finishes)
    (choices : Nat → Choice) (store : Store) : (program.alone perform choices store).isSome := by
  induction program generalizing choices store with
  | answer value => rfl
  | halt => exact absurd finishes id
  | call command resume inductionHypothesis => exact inductionHypothesis _ (finishes _) _ _

/-- Running a composition runs its parts one after the other, on the store and
the choices the first one left. -/
theorem alone_bind (program : Program Command Result α) (next : α → Program Command Result β)
    (choices : Nat → Choice) (store : Store) :
    alone perform (program >>= next) choices store =
      (alone perform program choices store).bind (fun outcome =>
        alone perform (next outcome.1) outcome.2.2 outcome.2.1) := by
  induction program generalizing choices store with
  | answer value => rfl
  | halt => rfl
  | call command resume inductionHypothesis => exact inductionHypothesis _ _ _

end Alone

end Program

end Interleaving
