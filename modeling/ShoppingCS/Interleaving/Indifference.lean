import ShoppingCS.Interleaving.Comparison
import ShoppingCS.Interleaving.Erasure
import ShoppingCS.Interleaving.Runs

/-!
# Commands nobody listens to

A program may go on in the same way whatever some of its commands return. If the other
commands do not depend on what these ones leave behind either, it makes no difference
how they are performed, nor what else happens there: two services that differ in
nothing else take every run through the same programs, and give the same answers.
-/

namespace Interleaving

variable {Request Command : Type} {Result : Command → Type} {Answer Store Choice : Type}

namespace Program

variable {α β : Type}

/-- Every command of the program is heard, or goes unheard: what follows does not depend
on its result. -/
def Indifferent (heard unheard : Command → Prop) : Program Command Result α → Prop
  | .answer _ => True
  | .halt => True
  | .call command resume =>
    (heard command ∨ (unheard command ∧ ∀ left right, resume left = resume right)) ∧
      ∀ result, (resume result).Indifferent heard unheard

section Rules

variable {heard unheard : Command → Prop}

@[simp] theorem indifferent_answer (value : α) :
    (Program.answer value : Program Command Result α).Indifferent heard unheard := trivial

@[simp] theorem indifferent_halt :
    (Program.halt : Program Command Result α).Indifferent heard unheard := trivial

/-- A composition is indifferent to what goes unheard if both its parts are. -/
theorem Indifferent.bind {program : Program Command Result α}
    {next : α → Program Command Result β} (first : program.Indifferent heard unheard)
    (second : ∀ value, (next value).Indifferent heard unheard) :
    (program >>= next).Indifferent heard unheard := by
  induction program with
  | answer value => exact second value
  | halt => trivial
  | call command resume inductionHypothesis =>
    obtain ⟨listens, later⟩ := first
    constructor
    · cases listens with
      | inl listens => exact Or.inl listens
      | inr deaf =>
        refine Or.inr ⟨deaf.1, ?_⟩
        intro left right
        exact congrArg (· >>= next) (deaf.2 left right)
    · exact fun result => inductionHypothesis result (later result)

/-- A program all of whose commands are heard has nothing to be indifferent to. -/
theorem Issues.indifferent {program : Program Command Result α} (issues : program.Issues heard) :
    program.Indifferent heard unheard := by
  induction program with
  | answer value => trivial
  | halt => trivial
  | call command resume inductionHypothesis =>
    exact ⟨Or.inl issues.1, fun result => inductionHypothesis result (issues.2 result)⟩

end Rules

end Program

namespace Service

/-- Two services with the same handlers. On stores with the same view, what is heard
returns the same and keeps the view, and what goes unheard keeps it. -/
structure Interchange (first second : Service Request Command Result Answer Store Choice) where
  heard : Command → Prop
  unheard : Command → Prop
  sameView : Store → Store → Prop
  handlers : ∀ request, second.handler request = first.handler request
  indifferent : ∀ request, (first.handler request).Indifferent heard unheard
  results : ∀ command choice left right, heard command → sameView left right →
    (first.perform command choice left).1 = (second.perform command choice right).1
  keeps : ∀ command choice left right, heard command → sameView left right →
    sameView (first.perform command choice left).2 (second.perform command choice right).2
  ignores : ∀ command choice left right, unheard command → sameView left right →
    sameView (first.perform command choice left).2 (second.perform command choice right).2

/-- One step of a service whose store also changes between two commands. -/
def disturbedStep {Change : Type} (service : Service Request Command Result Answer Store Choice)
    (apply : Change → Store → Store) (state : State Request Command Result Answer Store) :
    Change ⊕ Action Request Choice → State Request Command Result Answer Store
  | .inl change => { state with store := apply change state.store }
  | .inr action => service.step state action

namespace Interchange

variable {first second : Service Request Command Result Answer Store Choice}
  (interchange : first.Interchange second)

/-- Tasks at the same point of the same request. What their unheard commands have
returned may differ. -/
structure SameTask (left right : Task Request Command Result Answer) : Prop where
  request : left.request = right.request
  program : left.program = right.program

/-- The two runs are at the same point: their stores have the same view, and their tasks go on
alike. -/
structure Interchanged (left right : State Request Command Result Answer Store) : Prop where
  view : interchange.sameView left.store right.store
  tasks : List.Forall₂ SameTask left.tasks right.tasks
  indifferent : ∀ task ∈ left.tasks,
    task.program.Indifferent interchange.heard interchange.unheard

variable {interchange} {left right : State Request Command Result Answer Store}
  (same : interchange.Interchanged left right)

include same

/-- Both services accept a request, whose handler is the same in both. -/
theorem Interchanged.start (request : Request) :
    interchange.Interchanged (first.step left (.start request))
      (second.step right (.start request)) where
  view := same.view
  tasks := List.rel_append same.tasks (.cons ⟨rfl, (interchange.handlers request).symm⟩ .nil)
  indifferent := by
    intro task member
    cases List.mem_append.mp member with
    | inl member => exact same.indifferent task member
    | inr member =>
      obtain rfl := List.mem_singleton.mp member
      exact interchange.indifferent request

/-- Both services schedule the same task. Its command is heard, with the same result, or goes
unheard and does not matter. -/
theorem Interchanged.proceed (index : Nat) (choice : Choice) :
    interchange.Interchanged (first.step left (.proceed index choice))
      (second.step right (.proceed index choice)) := by
  have lengths := same.tasks.length_eq
  cases present : left.tasks[index]? with
  | none =>
    have absent : right.tasks[index]? = none := by
      rw [List.getElem?_eq_none_iff] at present ⊢
      omega
    rw [step_absent first left index choice present, step_absent second right index choice absent]
    exact same
  | some task =>
    obtain ⟨inside, located⟩ := List.getElem?_eq_some_iff.mp present
    obtain ⟨partner, there⟩ : ∃ partner, right.tasks[index]? = some partner :=
      ⟨_, List.getElem?_eq_getElem (lengths ▸ inside)⟩
    have twin : SameTask task partner := by
      have paired := same.tasks.get inside (lengths ▸ inside)
      obtain ⟨_, found⟩ := List.getElem?_eq_some_iff.mp there
      rw [List.get_eq_getElem, List.get_eq_getElem, located, found] at paired
      exact paired
    have known := same.indifferent task (List.mem_of_getElem? present)
    rw [step_turn first left index choice present, step_turn second right index choice there]
    have next : interchange.sameView (first.turn choice left.store task).1
          (second.turn choice right.store partner).1 ∧
        (first.turn choice left.store task).2.program =
          (second.turn choice right.store partner).2.program ∧
        (first.turn choice left.store task).2.program.Indifferent interchange.heard
          interchange.unheard := by
      cases pending : task.program.pending? with
      | none =>
        have idle : partner.program.pending? = none := twin.program ▸ pending
        rw [turn_idle first choice _ task pending, turn_idle second choice _ partner idle]
        exact ⟨same.view, twin.program, known⟩
      | some command =>
        obtain ⟨resume, waiting⟩ := Program.pending?_eq_some.mp pending
        have follows : partner.program = .call command resume := twin.program ▸ waiting
        rw [turn_call first choice _ task waiting, turn_call second choice _ partner follows]
        rw [waiting] at known
        obtain ⟨listens, later⟩ := known
        cases listens with
        | inl listens =>
          have results := interchange.results command choice _ _ listens same.view
          refine ⟨interchange.keeps command choice _ _ listens same.view, ?_, later _⟩
          rw [Task.advance_program, Task.advance_program, results]
        | inr deaf =>
          exact ⟨interchange.ignores command choice _ _ deaf.1 same.view, deaf.2 _ _, later _⟩
    refine ⟨next.1, ?_, ?_⟩
    · refine forall₂_set same.tasks index ⟨?_, next.2.1⟩
      rw [turn_request, turn_request, twin.request]
    · intro other member
      rcases List.mem_or_eq_of_mem_set member with member | rfl
      · exact same.indifferent other member
      · exact next.2.2

/-- Whole runs, when changes that keep the view happen in one of them. -/
theorem Interchanged.run {Change : Type} (apply : Change → Store → Store)
    (unseen : ∀ change left right, interchange.sameView left right →
      interchange.sameView (apply change left) right)
    (moves : List (Change ⊕ Action Request Choice)) :
    interchange.Interchanged (Runs.run (first.disturbedStep apply) left moves)
      (second.run right (moves.filterMap Sum.getRight?)) := by
  induction moves generalizing left right with
  | nil => exact same
  | cons move moves inductionHypothesis =>
    cases move with
    | inl change =>
      exact inductionHypothesis ⟨unseen change _ _ same.view, same.tasks, same.indifferent⟩
    | inr action =>
      cases action with
      | start request => exact inductionHypothesis (same.start request)
      | proceed index choice => exact inductionHypothesis (same.proceed index choice)

/-- The same requests are answered in the same way in both runs. -/
theorem Interchanged.answers :
    left.tasks.map (fun task => (task.request, task.answer?)) =
      right.tasks.map (fun task => (task.request, task.answer?)) := by
  have related := same.tasks
  generalize left.tasks = tasks, right.tasks = others at related
  induction related with
  | nil => rfl
  | cons twin rest inductionHypothesis =>
    rw [List.map_cons, List.map_cons, inductionHypothesis]
    rw [Task.answer?, Task.answer?, twin.request, twin.program]

end Interchange

end Service

end Interleaving
