import ShoppingCS.Interleaving.Comparison
import ShoppingCS.Interleaving.Histories

/-!
# Requests that leave the store as it is

Some tasks of a run may have left the store as they found it, step by step. Without
them, the run goes on in the same way: the store and all other tasks end as they did.
Which tasks these are is known only afterwards, so they are named by their places.
-/

namespace Interleaving

variable {Request Command : Type} {Result : Command → Type} {Answer Store Choice : Type}

section Places

variable {α : Type}

/-- The items that do not stand at a dropped place. -/
def keepPlaces : (dropped : Nat → Bool) → List α → List α
  | _, [] => []
  | dropped, item :: items =>
    if dropped 0 then keepPlaces (fun place => dropped (place + 1)) items
    else item :: keepPlaces (fun place => dropped (place + 1)) items

/-- The place at which an item is found among those that are kept. -/
def placeLeft : (dropped : Nat → Bool) → (index : Nat) → Nat
  | _, 0 => 0
  | dropped, index + 1 =>
    if dropped 0 then placeLeft (fun place => dropped (place + 1)) index
    else placeLeft (fun place => dropped (place + 1)) index + 1

/-- An item that is not at a dropped place is kept. -/
theorem keepPlaces_getElem? (dropped : Nat → Bool) (items : List α) {index : Nat}
    (kept : dropped index = false) :
    (keepPlaces dropped items)[placeLeft dropped index]? = items[index]? := by
  induction items generalizing dropped index with
  | nil => simp [keepPlaces]
  | cons item items inductionHypothesis =>
    cases index with
    | zero => simp [keepPlaces, placeLeft, kept]
    | succ index =>
      have later := inductionHypothesis (fun place => dropped (place + 1)) kept
      cases first : dropped 0 with
      | true => simpa [keepPlaces, placeLeft, first] using later
      | false => simpa [keepPlaces, placeLeft, first] using later

/-- Replacing a kept item replaces it where it is found. -/
theorem keepPlaces_set_kept (dropped : Nat → Bool) (items : List α) {index : Nat} (new : α)
    (kept : dropped index = false) :
    keepPlaces dropped (items.set index new) =
      (keepPlaces dropped items).set (placeLeft dropped index) new := by
  induction items generalizing dropped index with
  | nil => simp [keepPlaces]
  | cons item items inductionHypothesis =>
    cases index with
    | zero => simp [keepPlaces, placeLeft, kept]
    | succ index =>
      have later := inductionHypothesis (fun place => dropped (place + 1)) kept
      cases first : dropped 0 with
      | true => simpa [keepPlaces, placeLeft, first] using later
      | false => simpa [keepPlaces, placeLeft, first] using later

/-- Replacing an item that is dropped is not seen among those that are kept. -/
theorem keepPlaces_set_dropped (dropped : Nat → Bool) (items : List α) {index : Nat} (new : α)
    (gone : dropped index = true) :
    keepPlaces dropped (items.set index new) = keepPlaces dropped items := by
  induction items generalizing dropped index with
  | nil => simp [keepPlaces]
  | cons item items inductionHypothesis =>
    cases index with
    | zero => simp [keepPlaces, gone]
    | succ index =>
      simp only [List.set_cons_succ, keepPlaces,
        inductionHypothesis (fun place => dropped (place + 1)) gone]

/-- An item added at the end is kept or dropped by its place. -/
theorem keepPlaces_concat (dropped : Nat → Bool) (items : List α) (new : α) :
    keepPlaces dropped (items ++ [new]) =
      keepPlaces dropped items ++ if dropped items.length then [] else [new] := by
  induction items generalizing dropped with
  | nil => cases first : dropped 0 <;> simp [keepPlaces, first]
  | cons item items inductionHypothesis =>
    have later := inductionHypothesis (fun place => dropped (place + 1))
    cases first : dropped 0 <;> simp [keepPlaces, first, later]

/-- What is kept stands at a place that is not dropped. -/
theorem mem_keepPlaces {dropped : Nat → Bool} {items : List α} {item : α}
    (member : item ∈ keepPlaces dropped items) :
    ∃ index, dropped index = false ∧ items[index]? = some item := by
  induction items generalizing dropped with
  | nil => exact absurd member (by simp [keepPlaces])
  | cons first items inductionHypothesis =>
    have later (member : item ∈ keepPlaces (fun place => dropped (place + 1)) items) :
        ∃ index, dropped index = false ∧ (first :: items)[index]? = some item := by
      obtain ⟨index, kept, present⟩ := inductionHypothesis member
      exact ⟨index + 1, kept, present⟩
    cases gone : dropped 0 with
    | true =>
      rw [keepPlaces, if_pos gone] at member
      exact later member
    | false =>
      rw [keepPlaces, if_neg (by simp [gone])] at member
      cases List.mem_cons.mp member with
      | inl same => exact ⟨0, gone, by rw [same]; rfl⟩
      | inr member => exact later member

end Places

/-- The actions without those of the dropped tasks, when some number of requests has
been accepted before. -/
def without (dropped : Nat → Bool) : (accepted : Nat) → List (Action Request Choice) →
    List (Action Request Choice)
  | _, [] => []
  | accepted, .start request :: actions =>
    if dropped accepted then without dropped (accepted + 1) actions
    else .start request :: without dropped (accepted + 1) actions
  | accepted, .proceed index choice :: actions =>
    if dropped index then without dropped accepted actions
    else .proceed (placeLeft dropped index) choice :: without dropped accepted actions

/-- The state without the dropped tasks, and with the same store. -/
def State.without (state : State Request Command Result Answer Store) (dropped : Nat → Bool) :
    State Request Command Result Answer Store :=
  { store := state.store, tasks := keepPlaces dropped state.tasks }

namespace Service

variable (service : Service Request Command Result Answer Store Choice) (dropped : Nat → Bool)

/-- A step of a dropped task leaves the store as it is. -/
def Silent (state : State Request Command Result Answer Store) :
    Action Request Choice → Prop
  | .start _ => True
  | .proceed index choice =>
    dropped index = true → (service.step state (.proceed index choice)).store = state.store

/-- A request that is accepted joins the tasks that are kept, unless its place is a dropped
one. -/
theorem start_without (state : State Request Command Result Answer Store) (request : Request) :
    (service.step state (.start request)).without dropped =
      if dropped state.tasks.length then state.without dropped
      else service.step (state.without dropped) (.start request) := by
  cases gone : dropped state.tasks.length <;>
    simp [step, State.without, keepPlaces_concat, gone]

/-- A step of a task that is kept is a step of the state without the others, at the place it
has there. -/
theorem proceed_without (state : State Request Command Result Answer Store) {index : Nat}
    (choice : Choice) (kept : dropped index = false) :
    (service.step state (.proceed index choice)).without dropped =
      service.step (state.without dropped) (.proceed (placeLeft dropped index) choice) := by
  have found := keepPlaces_getElem? dropped state.tasks kept
  cases present : state.tasks[index]? with
  | none =>
    rw [present] at found
    rw [step_absent service state index choice present, step_absent service _ _ choice found]
  | some task =>
    rw [present] at found
    rw [step_turn service state index choice present, step_turn service _ _ choice found]
    simp only [State.without, keepPlaces_set_kept dropped state.tasks _ kept]

/-- A step of a task that is dropped, and that leaves the store alone, is no step of the state
without it. -/
theorem silent_without (state : State Request Command Result Answer Store) {index : Nat}
    (choice : Choice) (gone : dropped index = true)
    (silent : (service.step state (.proceed index choice)).store = state.store) :
    (service.step state (.proceed index choice)).without dropped = state.without dropped := by
  cases present : state.tasks[index]? with
  | none => rw [step_absent service state index choice present]
  | some task =>
    rw [step_turn service state index choice present] at silent ⊢
    have store : (service.turn choice state.store task).1 = state.store := silent
    simp only [State.without, keepPlaces_set_dropped dropped state.tasks _ gone, store]

/-- Nothing else changes when silent tasks are taken out of a run. -/
theorem run_without (state : State Request Command Result Answer Store)
    (actions : List (Action Request Choice))
    (silent : service.Along (service.Silent dropped) state actions) :
    service.run (state.without dropped) (without dropped state.tasks.length actions) =
      (service.run state actions).without dropped := by
  induction actions generalizing state with
  | nil => rfl
  | cons action actions inductionHypothesis =>
    have later := inductionHypothesis _ silent.2
    rw [run_cons, ← later]
    cases action with
    | start request =>
      have counted : (service.step state (.start request)).tasks.length =
          state.tasks.length + 1 := by simp [step]
      rw [counted, start_without]
      cases gone : dropped state.tasks.length <;> simp [Interleaving.without, gone]
    | proceed index choice =>
      have counted : (service.step state (.proceed index choice)).tasks.length =
          state.tasks.length := by
        cases present : state.tasks[index]? with
        | none => rw [step_absent service state index choice present]
        | some task => rw [step_turn service state index choice present, List.length_set]
      rw [counted]
      cases gone : dropped index with
      | true =>
        rw [silent_without service dropped state choice gone (silent.1 gone)]
        simp [Interleaving.without, gone]
      | false =>
        rw [proceed_without service dropped state choice gone]
        simp [Interleaving.without, gone]

/-- Tasks are silent if all that they have executed in the end leaves the store alone. -/
theorem silent_of_traces (quiet : Event Command Result → Prop)
    (leaves : ∀ command choice store, quiet ⟨command, (service.perform command choice store).1⟩ →
      (service.perform command choice store).2 = store)
    (state : State Request Command Result Answer Store) (actions : List (Action Request Choice))
    (ends : ∀ (index : Nat) (task : Task Request Command Result Answer),
      (service.run state actions).tasks[index]? = some task → dropped index = true →
        ∀ event ∈ task.trace, quiet event) :
    service.Along (service.Silent dropped) state actions := by
  induction actions generalizing state with
  | nil => trivial
  | cons action actions inductionHypothesis =>
    refine ⟨?_, inductionHypothesis _ ends⟩
    cases action with
    | start request => trivial
    | proceed index choice =>
      intro gone
      cases present : state.tasks[index]? with
      | none => rw [step_absent service state index choice present]
      | some task =>
        cases pending : task.program.pending? with
        | none =>
          rw [step_turn service state index choice present,
            turn_idle service choice state.store task pending]
        | some command =>
          obtain ⟨resume, waiting⟩ := Program.pending?_eq_some.mp pending
          have executed : (service.step state (.proceed index choice)).tasks[index]? = _ ∧ _ :=
            step_executes present waiting choice
          obtain ⟨there, store⟩ := executed
          have goesOn : ∃ last, (service.run (service.step state (.proceed index choice))
              actions).tasks[index]? = some last ∧ _ := run_extends actions there
          obtain ⟨last, found, -, later, grown⟩ := goesOn
          rw [store]
          apply leaves command choice state.store
          apply ends index last found gone
          rw [grown]
          simp

end Service

end Interleaving
