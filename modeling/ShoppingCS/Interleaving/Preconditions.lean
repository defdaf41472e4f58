import ShoppingCS.Interleaving.Program

/-!
# What a program guarantees alone

`Ensures` is the weakest precondition of a program that runs by itself: from the
given store, whatever the allowed choices, the program answers, and the answer and
the final store satisfy the postcondition. It is a recursion over the program, so a
guarantee is proved command by command and needs no run.
-/

namespace Interleaving.Program

variable {Command : Type} {Result : Command → Type} {α β Store Choice : Type}
  {perform : (command : Command) → Choice → Store → Result command × Store} {allowed : Choice → Prop}

/-- Whatever allowed choices the commands are resolved by, the program answers, and the answer
and the last store are as the postcondition says. -/
def Ensures (perform : (command : Command) → Choice → Store → Result command × Store)
    (allowed : Choice → Prop) (post : α → Store → Prop) : Program Command Result α → Store → Prop
  | .answer value, store => post value store
  | .halt, _ => False
  | .call command resume, store => ∀ choice, allowed choice →
      (resume (perform command choice store).1).Ensures perform allowed post
        (perform command choice store).2

@[simp] theorem ensures_answer (post : α → Store → Prop) (value : α) (store : Store) :
    (Program.answer value : Program Command Result α).Ensures perform allowed post store ↔
      post value store := Iff.rfl

/-- A weaker postcondition is ensured as well, by induction on the program. -/
theorem Ensures.mono {post weaker : α → Store → Prop} {program : Program Command Result α}
    {store : Store} (ensures : program.Ensures perform allowed post store)
    (implies : ∀ value last, post value last → weaker value last) :
    program.Ensures perform allowed weaker store := by
  induction program generalizing store with
  | answer value => exact implies value store ensures
  | halt => exact ensures.elim
  | call command resume inductionHypothesis =>
    exact fun choice permitted => inductionHypothesis _ (ensures choice permitted)

/-- A composition ensures what its second part does from where the first one ends. -/
theorem Ensures.bind {post : β → Store → Prop} {program : Program Command Result α}
    {next : α → Program Command Result β} {store : Store}
    (ensures : program.Ensures perform allowed
      (fun value last => (next value).Ensures perform allowed post last) store) :
    (program >>= next).Ensures perform allowed post store := by
  induction program generalizing store with
  | answer value => exact ensures
  | halt => exact ensures.elim
  | call command resume inductionHypothesis =>
    exact fun choice permitted => inductionHypothesis _ (ensures choice permitted)

/-- A run with allowed choices from this store ends, with an answer and a store as ensured. -/
theorem Ensures.alone {post : α → Store → Prop} {program : Program Command Result α} {store : Store}
    (ensures : program.Ensures perform allowed post store) (choices : Nat → Choice)
    (permitted : ∀ index, allowed (choices index)) :
    ∃ value last rest, program.alone perform choices store = some (value, last, rest) ∧
      post value last := by
  induction program generalizing store choices with
  | answer value => exact ⟨value, store, choices, rfl, ensures⟩
  | halt => exact ensures.elim
  | call command resume inductionHypothesis =>
    exact inductionHypothesis _ (ensures (choices 0) (permitted 0)) (after 1 choices)
      (fun index => permitted (index + 1))

end Interleaving.Program
