import Mathlib.Data.List.Induction
import Mathlib.Logic.Basic

/-!
# Runs of a system

A system is a function from a state and a move to the next state. A run makes moves
one after the other. Restrictions on runs are predicates on a move and the state it
is made in; an invariant needs to be preserved by such moves only. A run without an end
is a sequence of moves whose first parts are all runs.
-/

namespace Interleaving.Runs

variable {State Move : Type} (step : State → Move → State)

/-- The state after some moves, made one after the other. -/
def run (state : State) (moves : List Move) : State := moves.foldl step state

/-- Every move meets a condition in the state it is made in. -/
def Along (meets : State → Move → Prop) : State → List Move → Prop
  | _, [] => True
  | state, move :: moves => meets state move ∧ Along meets (step state move) moves

instance decidableAlong {meets : State → Move → Prop} [∀ state, DecidablePred (meets state)] :
    ∀ (state : State) (moves : List Move), Decidable (Along step meets state moves)
  | _, [] => isTrue trivial
  | state, move :: moves =>
    @instDecidableAnd _ _ _ (decidableAlong (step state move) moves)

/-- A run in two parts is the run of the second from where the first has led. -/
theorem run_append (state : State) (before later : List Move) :
    run step state (before ++ later) = run step (run step state before) later := by
  rw [run, List.foldl_append, run, run]

/-- A condition holds along two parts if it holds along the first, and along the second from
where the first has led. -/
theorem along_append (meets : State → Move → Prop) (state : State) (before later : List Move) :
    Along step meets state (before ++ later) ↔
      Along step meets state before ∧ Along step meets (run step state before) later := by
  induction before generalizing state with
  | nil => simp [Along, run]
  | cons move before inductionHypothesis =>
    rw [List.cons_append, Along, inductionHypothesis, Along, and_assoc]
    rfl

variable {step}

/-- A condition that follows from one met along a run is met along it as well. -/
theorem Along.mono {meets weaker : State → Move → Prop} {state : State} {moves : List Move}
    (along : Along step meets state moves)
    (implies : ∀ state move, meets state move → weaker state move) :
    Along step weaker state moves := by
  induction moves generalizing state with
  | nil => trivial
  | cons move moves inductionHypothesis =>
    exact ⟨implies state move along.1, inductionHypothesis along.2⟩

/-- An invariant holds after every run whose moves all meet the condition it needs. -/
theorem run_invariant {meets : State → Move → Prop} (invariant : State → Prop)
    (preserved : ∀ state move, invariant state → meets state move → invariant (step state move))
    (state : State) (moves : List Move) (initially : invariant state)
    (along : Along step meets state moves) : invariant (run step state moves) := by
  induction moves generalizing state with
  | nil => exact initially
  | cons move moves inductionHypothesis =>
    exact inductionHypothesis _ (preserved state move initially along.1) along.2

/-- What every move preserves holds after every run, if it holds at its beginning. -/
theorem run_always (invariant : State → Prop)
    (preserved : ∀ state move, invariant state → invariant (step state move)) (state : State)
    (moves : List Move) (initially : invariant state) : invariant (run step state moves) := by
  induction moves generalizing state with
  | nil => exact initially
  | cons move moves inductionHypothesis =>
    exact inductionHypothesis _ (preserved state move initially)

/-- What holds at the end of a run and not at its start has begun to hold at a move, and has
held ever since. The induction looks at the last move: either it already held before that
one, or this is where it began. -/
theorem began (holds : State → Prop) (state : State) (moves : List Move)
    (atStart : ¬ holds state) (atEnd : holds (run step state moves)) :
    ∃ before move after, moves = before ++ move :: after ∧ ¬ holds (run step state before) ∧
      ∀ more, more <+: after → holds (run step (step (run step state before) move) more) := by
  induction moves using List.reverseRecOn with
  | nil => exact absurd atEnd atStart
  | append_singleton moves last inductionHypothesis =>
    by_cases earlier : holds (run step state moves)
    · obtain ⟨before, move, after, rfl, absent, since⟩ := inductionHypothesis earlier
      refine ⟨before, move, after ++ [last], by simp, absent, ?_⟩
      intro more part
      rcases List.prefix_concat_iff.mp part with rfl | inside
      · rwa [List.append_assoc, run_append] at atEnd
      · exact since more inside
    · refine ⟨moves, last, [], rfl, earlier, ?_⟩
      intro more part
      obtain rfl := List.prefix_nil.mp part
      rw [run_append] at atEnd
      exact atEnd

section Endless

variable (step)

/-- The first moves of a sequence without an end, as a list. -/
def firstMoves (moves : Nat → Move) (count : Nat) : List Move := (List.range count).map moves

/-- A run that never ends: every move meets a condition. -/
def Endless (meets : State → Move → Prop) (state : State) (moves : Nat → Move) : Prop :=
  ∀ count, Along step meets state (firstMoves moves count)

/-- The states of the run that always makes the move a function chooses. -/
def chosen (choose : State → Move) (state : State) : Nat → State
  | 0 => state
  | count + 1 => step (chosen choose state count) (choose (chosen choose state count))

variable {step}

theorem firstMoves_succ (moves : Nat → Move) (count : Nat) :
    firstMoves moves (count + 1) = firstMoves moves count ++ [moves count] := by
  simp [firstMoves, List.range_succ]

/-- The run that makes the chosen moves goes through the chosen states. -/
theorem run_chosen (choose : State → Move) (state : State) (count : Nat) :
    run step state (firstMoves (fun index => choose (chosen step choose state index)) count) =
      chosen step choose state count := by
  induction count with
  | zero => rfl
  | succ count inductionHypothesis =>
    rw [firstMoves_succ, run_append, inductionHypothesis]
    rfl

/-- Where an invariant offers a move that keeps it, there is a run without an end. -/
theorem endless_chosen {meets : State → Move → Prop} (invariant : State → Prop)
    (preserved : ∀ state move, invariant state → meets state move → invariant (step state move))
    (choose : State → Move) (offered : ∀ state, invariant state → meets state (choose state))
    (state : State) (initially : invariant state) :
    Endless step meets state (fun index => choose (chosen step choose state index)) := by
  intro count
  induction count with
  | zero => trivial
  | succ count inductionHypothesis =>
    rw [firstMoves_succ, along_append]
    have kept := run_invariant invariant preserved state _ initially inductionHypothesis
    rw [run_chosen] at kept ⊢
    exact ⟨inductionHypothesis, offered _ kept, trivial⟩

/-- A potential that every move lowers, except for a price paid for each unit of a
count, limits the moves of a run by the count. -/
theorem length_le_count {meets : State → Move → Prop} (invariant : State → Prop)
    (preserved : ∀ state move, invariant state → meets state move → invariant (step state move))
    (potential count : State → Nat) (price : Nat)
    (lowers : ∀ state move, invariant state → meets state move →
      potential (step state move) + price * count state + 1 ≤
        potential state + price * count (step state move))
    (state : State) (moves : List Move) (initially : invariant state)
    (along : Along step meets state moves) :
    potential (run step state moves) + price * count state + moves.length ≤
      potential state + price * count (run step state moves) := by
  induction moves generalizing state with
  | nil => exact Nat.le_refl _
  | cons move moves inductionHypothesis =>
    have first := lowers state move initially along.1
    have rest := inductionHypothesis _ (preserved state move initially along.1) along.2
    change potential (run step (step state move) moves) + price * count state + (moves.length + 1) ≤
      potential state + price * count (run step (step state move) moves)
    omega

/-- So in a run without an end such a count exceeds every bound. -/
theorem endless_unbounded {meets : State → Move → Prop} (invariant : State → Prop)
    (preserved : ∀ state move, invariant state → meets state move → invariant (step state move))
    (potential count : State → Nat) (price : Nat)
    (lowers : ∀ state move, invariant state → meets state move →
      potential (step state move) + price * count state + 1 ≤
        potential state + price * count (step state move))
    (state : State) (initially : invariant state) (moves : Nat → Move)
    (endless : Endless step meets state moves) (bound : Nat) :
    ∃ length, bound < count (run step state (firstMoves moves length)) := by
  refine ⟨potential state + price * bound + 1, ?_⟩
  have limited := length_le_count invariant preserved potential count price lowers state _ initially
    (endless (potential state + price * bound + 1))
  rw [firstMoves, List.length_map, List.length_range, ← firstMoves] at limited
  apply Nat.lt_of_not_le
  intro small
  have paid := Nat.mul_le_mul_left price small
  omega

end Endless

end Interleaving.Runs
