import ShoppingCS.Interleaving.Program

/-!
# Programs that halt early

A recursion that is cut off at some depth is a program with halts in it, and a greater
depth gives a program that halts later or not at all. One program approximates another if
the two differ only where the first one halts. A run that ends is then a run of the other
program as well, so a recursive program that ends at some depth ends at every greater one,
with the same outcome.
-/

namespace Interleaving

namespace Program

variable {Command : Type} {Result : Command → Type} {α β Store Choice : Type}

/-- Composition is associative, by induction on the first program. -/
theorem bind_assoc {γ : Type} (program : Program Command Result α)
    (next : α → Program Command Result β) (last : β → Program Command Result γ) :
    (program >>= next >>= last) = (program >>= fun value => next value >>= last) := by
  induction program with
  | answer value => rfl
  | halt => rfl
  | call command resume inductionHypothesis =>
    exact congrArg (Program.call command) (funext inductionHypothesis)

/-- The second program differs from the first only where the first halts. -/
def Approximates : Program Command Result α → Program Command Result α → Prop
  | .answer value, other => other = .answer value
  | .halt, _ => True
  | .call command resume, other =>
    ∃ resume', other = .call command resume' ∧ ∀ result, (resume result).Approximates (resume' result)

theorem Approximates.refl (program : Program Command Result α) : program.Approximates program := by
  induction program with
  | answer value => rfl
  | halt => trivial
  | call command resume inductionHypothesis => exact ⟨resume, rfl, inductionHypothesis⟩

/-- Approximation is transitive: a program may be replaced by one that goes on further, step
by step. -/
theorem Approximates.trans {first second third : Program Command Result α}
    (before : first.Approximates second) (after : second.Approximates third) :
    first.Approximates third := by
  induction first generalizing second third with
  | answer value =>
    obtain rfl : second = .answer value := before
    exact after
  | halt => trivial
  | call command resume inductionHypothesis =>
    obtain ⟨resume', rfl, below⟩ := before
    obtain ⟨resume'', rfl, above⟩ := after
    exact ⟨resume'', rfl, fun result => inductionHypothesis result (below result) (above result)⟩

/-- Composition preserves approximation, in its first part as in what follows each of its
values. -/
theorem Approximates.bind {program other : Program Command Result α}
    {next next' : α → Program Command Result β} (first : program.Approximates other)
    (second : ∀ value, (next value).Approximates (next' value)) :
    (program >>= next).Approximates (other >>= next') := by
  induction program generalizing other with
  | answer value =>
    obtain rfl : other = .answer value := first
    exact second value
  | halt => trivial
  | call command resume inductionHypothesis =>
    obtain ⟨resume', rfl, below⟩ := first
    exact ⟨_, rfl, fun result => inductionHypothesis result (below result)⟩

/-- A recursive program, cut off at each depth: each cut approximates the next. -/
def Grows (programs : Nat → Program Command Result α) : Prop :=
  ∀ depth, (programs depth).Approximates (programs (depth + 1))

/-- A cut of a recursive program approximates all deeper ones, by induction on the difference.
-/
theorem Grows.mono {programs : Nat → Program Command Result α} (grows : Grows programs)
    {first second : Nat} (order : first ≤ second) :
    (programs first).Approximates (programs second) := by
  induction order with
  | refl => exact Approximates.refl _
  | step _ inductionHypothesis => exact inductionHypothesis.trans (grows _)

/-- A program that is not recursive is the same at every depth. -/
theorem Grows.const (program : Program Command Result α) :
    Grows (fun _ => program) :=
  fun _ => Approximates.refl program

/-- A composition of two recursive programs, cut at one depth, is recursive again. -/
theorem Grows.bind {programs : Nat → Program Command Result α}
    {next : Nat → α → Program Command Result β} (first : Grows programs)
    (second : ∀ value, Grows (next · value)) : Grows (fun depth => programs depth >>= next depth) :=
  fun depth => (first depth).bind (fun value => second value depth)

/-- A store and the choices that are left, which together decide where a program leads. -/
abbrev Situation (Store Choice : Type) := Store × (Nat → Choice)

/-- Run a program by itself in a situation, which it leaves in another. -/
def outcome (perform : (command : Command) → Choice → Store → Result command × Store)
    (program : Program Command Result α) (situation : Situation Store Choice) :
    Option (α × Situation Store Choice) :=
  program.alone perform situation.2 situation.1

section Outcome

variable (perform : (command : Command) → Choice → Store → Result command × Store)

@[simp] theorem outcome_answer (value : α) (situation : Situation Store Choice) :
    outcome perform (.answer value : Program Command Result α) situation =
      some (value, situation) := rfl

@[simp] theorem outcome_halt (situation : Situation Store Choice) :
    outcome perform (.halt : Program Command Result α) situation = none := rfl

/-- One command is resolved by the first choice, and the rest runs with those that are left.
-/
theorem outcome_call (command : Command) (resume : Result command → Program Command Result α)
    (situation : Situation Store Choice) :
    outcome perform (.call command resume) situation =
      outcome perform (resume (perform command (situation.2 0) situation.1).1)
        ((perform command (situation.2 0) situation.1).2, after 1 situation.2) := rfl

/-- The parts of a composition run one after the other. -/
theorem outcome_bind (program : Program Command Result α) (next : α → Program Command Result β)
    (situation : Situation Store Choice) :
    outcome perform (program >>= next) situation =
      (outcome perform program situation).bind (fun ended =>
        outcome perform (next ended.1) ended.2) :=
  alone_bind perform program next situation.2 situation.1

/-- A composition that has ended has ended in both parts. -/
theorem outcome_bind_eq_some {program : Program Command Result α}
    {next : α → Program Command Result β} {situation : Situation Store Choice}
    {ended : β × Situation Store Choice} :
    outcome perform (program >>= next) situation = some ended ↔
      ∃ value middle, outcome perform program situation = some (value, middle) ∧
        outcome perform (next value) middle = some ended := by
  rw [outcome_bind, Option.bind_eq_some_iff]
  exact Prod.exists

/-- A program without halts ends, whatever the store and the choices are. -/
theorem Finishes.outcome {program : Program Command Result α} (finishes : program.Finishes)
    (situation : Situation Store Choice) :
    ∃ value left, program.outcome perform situation = some (value, left) := by
  obtain ⟨ended, found⟩ := Option.isSome_iff_exists.mp
    (finishes.alone perform situation.2 situation.1)
  exact ⟨ended.1, ended.2, found⟩

/-- A run of an approximation is a run of the program. -/
theorem Approximates.outcome {program other : Program Command Result α}
    (approximates : program.Approximates other) {situation : Situation Store Choice}
    {ended : α × Situation Store Choice} (found : program.outcome perform situation = some ended) :
    other.outcome perform situation = some ended := by
  induction program generalizing other situation with
  | answer value =>
    obtain rfl : other = .answer value := approximates
    exact found
  | halt => exact absurd found (by simp)
  | call command resume inductionHypothesis =>
    obtain ⟨resume', rfl, below⟩ := approximates
    rw [outcome_call] at found ⊢
    exact inductionHypothesis _ (below _) found

/-- The recursive program ends at some depth in this way. By growth it then does so at every
greater depth. -/
def EndsWith (programs : Nat → Program Command Result α) (situation : Situation Store Choice)
    (ended : α × Situation Store Choice) : Prop :=
  ∃ depth, (programs depth).outcome perform situation = some ended

section EndsWith

variable {programs : Nat → Program Command Result α} {situation : Situation Store Choice}

/-- It ends in the same way at all greater depths. -/
theorem EndsWith.later (grows : Grows programs) {ended : α × Situation Store Choice}
    (ends : EndsWith perform programs situation ended) :
    ∃ enough, ∀ depth, enough ≤ depth → (programs depth).outcome perform situation = some ended := by
  obtain ⟨enough, found⟩ := ends
  exact ⟨enough, fun depth deeper => (grows.mono deeper).outcome perform found⟩

/-- A recursive program ends in one way only, since two depths have a common one above them.
-/
theorem EndsWith.unique (grows : Grows programs) {first second : α × Situation Store Choice}
    (one : EndsWith perform programs situation first)
    (other : EndsWith perform programs situation second) : first = second := by
  obtain ⟨enough, found⟩ := one.later perform grows
  obtain ⟨enough', found'⟩ := other.later perform grows
  have same := (found _ (Nat.le_max_left enough enough')).symm.trans
    (found' _ (Nat.le_max_right enough enough'))
  exact Option.some.inj same

/-- A program that is not recursive ends as it does. -/
theorem endsWith_const {program : Program Command Result α} {ended : α × Situation Store Choice} :
    EndsWith perform (fun _ => program) situation ended ↔
      program.outcome perform situation = some ended :=
  exists_const Nat

/-- The first cut does not count: what ends at some depth ends at the next one too. -/
theorem endsWith_succ (grows : Grows programs) {ended : α × Situation Store Choice} :
    EndsWith perform (fun depth => programs (depth + 1)) situation ended ↔
      EndsWith perform programs situation ended := by
  constructor
  · intro ends
    obtain ⟨depth, found⟩ := ends
    exact ⟨depth + 1, found⟩
  · intro ends
    obtain ⟨depth, found⟩ := ends
    exact ⟨depth, (grows depth).outcome perform found⟩

/-- A composition ends when its parts end one after the other, at whatever depths. -/
theorem endsWith_bind {next : Nat → α → Program Command Result β} (first : Grows programs)
    (second : ∀ value, Grows (next · value)) {ended : β × Situation Store Choice} :
    EndsWith perform (fun depth => programs depth >>= next depth) situation ended ↔
      ∃ value middle, EndsWith perform programs situation (value, middle) ∧
        EndsWith perform (next · value) middle ended := by
  constructor
  · intro ends
    obtain ⟨depth, found⟩ := ends
    obtain ⟨value, middle, before, after⟩ := (outcome_bind_eq_some perform).mp found
    exact ⟨value, middle, ⟨depth, before⟩, depth, after⟩
  · intro parts
    obtain ⟨value, middle, before, after⟩ := parts
    obtain ⟨enough, found⟩ := before.later perform first
    obtain ⟨enough', found'⟩ := after.later perform (second value)
    exact ⟨max enough enough', (outcome_bind_eq_some perform).mpr
      ⟨value, middle, found _ (Nat.le_max_left _ _), found' _ (Nat.le_max_right _ _)⟩⟩

/-- The recursive program ends, in whatever way, from this situation. -/
def Ends (programs : Nat → Program Command Result α) (situation : Situation Store Choice) : Prop :=
  ∃ ended, EndsWith perform programs situation ended

/-- A composition ends when its first part does and then its second. -/
theorem ends_bind {next : Nat → α → Program Command Result β} (first : Grows programs)
    (second : ∀ value, Grows (next · value)) :
    Ends perform (fun depth => programs depth >>= next depth) situation ↔
      ∃ value middle, EndsWith perform programs situation (value, middle) ∧
        Ends perform (next · value) middle := by
  constructor
  · intro ends
    obtain ⟨ended, found⟩ := ends
    obtain ⟨value, middle, before, after⟩ := (endsWith_bind perform first second).mp found
    exact ⟨value, middle, before, ended, after⟩
  · intro parts
    obtain ⟨value, middle, before, ended, after⟩ := parts
    exact ⟨ended, (endsWith_bind perform first second).mpr ⟨value, middle, before, after⟩⟩

/-- What always ends does not matter behind a recursion: the whole ends exactly when the
recursion does. -/
theorem ends_bind_finishes {next : α → Program Command Result β} (first : Grows programs)
    (finishes : ∀ value, (next value).Finishes) :
    Ends perform (fun depth => programs depth >>= next) situation ↔
      Ends perform programs situation := by
  rw [@ends_bind _ _ _ _ _ _ perform programs situation (fun _ => next) first
    (fun value => Grows.const (next value))]
  constructor
  · intro parts
    obtain ⟨value, middle, before, -⟩ := parts
    exact ⟨(value, middle), before⟩
  · intro ends
    obtain ⟨⟨value, middle⟩, before⟩ := ends
    obtain ⟨final, left, found⟩ := (finishes value).outcome perform middle
    exact ⟨value, middle, before, (final, left), 0, found⟩

end EndsWith

end Outcome

end Program

end Interleaving
