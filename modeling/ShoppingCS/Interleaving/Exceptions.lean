import ShoppingCS.Interleaving.Preconditions

/-!
# Programs that throw

A program that throws answers with an exception in the place of a value. `Meets` is
its weakest precondition with one postcondition for the values and one for the
exceptions. Nothing escapes from a program whose exceptions all violate theirs.
-/

namespace Interleaving

/-- A program whose commands and whose composition may throw: a program with an outcome that
may be an exception. -/
abbrev Throwing (Command : Type) (Result : Command → Type) (Exception α : Type) : Type :=
  ExceptT Exception (Program Command Result) α

namespace Throwing

variable {Command : Type} {Result : Command → Type} {Exception α β Store Choice : Type}

/-- Issue one command that may throw, as its result says. -/
def attempt (command : Command) (throws : Result command → Except Exception α) :
    Throwing Command Result Exception α :=
  ExceptT.mk (.call command (fun result => .answer (throws result)))

/-- Run all programs, and return all values or the first exception. No program is
stopped by the exception of another one. -/
def all : List (Throwing Command Result Exception α) → Throwing Command Result Exception (List α)
  | [] => pure []
  | program :: programs => ExceptT.mk (do
      let first ← program.run
      let others ← (all programs).run
      pure (do
        let value ← first
        let values ← others
        pure (value :: values)))

section Rules

variable (perform : (command : Command) → Choice → Store → Result command × Store)
  (allowed : Choice → Prop)

/-- The program returns a value with the first postcondition, or throws an exception
with the second one. -/
def Meets (returns : α → Store → Prop) (throws : Exception → Store → Prop)
    (program : Throwing Command Result Exception α) (store : Store) : Prop :=
  program.run.Ensures perform allowed (fun outcome last =>
    match outcome with
    | .ok value => returns value last
    | .error exception => throws exception last) store

variable {perform} {allowed} {returns : α → Store → Prop} {throws : Exception → Store → Prop}
  {store : Store}

/-- A value meets the postcondition for values, with the store as it is. -/
theorem meets_pure {value : α} (met : returns value store) :
    Meets perform allowed returns throws (pure value : Throwing Command Result Exception α) store :=
  met

/-- An exception meets the postcondition for exceptions, with the store as it is. -/
theorem meets_throw {exception : Exception} (met : throws exception store) :
    Meets perform allowed returns throws
      (throw exception : Throwing Command Result Exception α) store :=
  met

/-- A command meets the postconditions if each of its outcomes does, for every allowed choice.
-/
theorem meets_attempt {command : Command} {outcome : Result command → Except Exception α}
    (met : ∀ choice, allowed choice →
      match outcome (perform command choice store).1 with
      | .ok value => returns value (perform command choice store).2
      | .error exception => throws exception (perform command choice store).2) :
    Meets perform allowed returns throws (attempt command outcome) store :=
  met

/-- Both postconditions may be weakened, that for values and that for exceptions. -/
theorem Meets.mono {program : Throwing Command Result Exception α}
    {later : α → Store → Prop} {raises : Exception → Store → Prop}
    (meets : Meets perform allowed returns throws program store)
    (values : ∀ value last, returns value last → later value last)
    (exceptions : ∀ exception last, throws exception last → raises exception last) :
    Meets perform allowed later raises program store :=
  Program.Ensures.mono meets (fun outcome last met => by
    cases outcome with
    | ok value => exact values value last met
    | error exception => exact exceptions exception last met)

/-- An exception of the first part is the exception of the composition. -/
theorem Meets.bind {program : Throwing Command Result Exception α}
    {next : α → Throwing Command Result Exception β} {later : β → Store → Prop}
    (meets : Meets perform allowed
      (fun value last => Meets perform allowed later throws (next value) last) throws program store) :
    Meets perform allowed later throws (program >>= next) store :=
  Program.Ensures.bind (Program.Ensures.mono meets (fun outcome last met => by
    cases outcome with
    | ok value => exact met
    | error exception => exact met))

/-- An exception of the body is not one of the whole. -/
theorem Meets.tryCatch {program : Throwing Command Result Exception α}
    {recover : Exception → Throwing Command Result Exception α}
    (meets : Meets perform allowed returns
      (fun exception last => Meets perform allowed returns throws (recover exception) last)
      program store) :
    Meets perform allowed returns throws (tryCatch program recover) store :=
  Program.Ensures.bind (Program.Ensures.mono meets (fun outcome last met => by
    cases outcome with
    | ok value => exact met
    | error exception => exact met))

/-- All programs of a list are run to their ends, even after one has thrown, so an invariant
of each is one of all. -/
theorem meets_all {invariant : Store → Prop}
    {programs : List (Throwing Command Result Exception α)}
    (each : ∀ program ∈ programs, ∀ store, invariant store →
      Meets perform allowed (fun _ last => invariant last) (fun _ last => invariant last) program store)
    (initially : invariant store) :
    Meets perform allowed (fun _ last => invariant last) (fun _ last => invariant last)
      (all programs) store := by
  induction programs generalizing store with
  | nil => exact initially
  | cons program programs inductionHypothesis =>
    refine Program.Ensures.bind (Program.Ensures.mono
      (each program (List.mem_cons_self ..) store initially) ?_)
    intro first last met
    have kept : invariant last := by cases first <;> exact met
    refine Program.Ensures.bind (Program.Ensures.mono
      (inductionHypothesis (fun other member => each other (List.mem_cons_of_mem _ member)) kept)
      ?_)
    intro others final met
    have ends : invariant final := by cases others <;> exact met
    cases first <;> cases others <;> exact ends

end Rules

end Throwing

end Interleaving
