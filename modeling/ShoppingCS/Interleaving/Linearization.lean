import Mathlib.Data.List.Nodup
import ShoppingCS.Interleaving.Service

/-!
# Linearizations of a run

A run is linearizable when its requests could have taken effect one after the
other, each at one moment of its own life. A moment is a step number: the number
of actions taken before it. A request can take effect during a step when it has
been accepted before that step and has not answered before it.

The effects are given in order, so several of them may share a step. A new
effect is appended in the step that shows it, or inserted before an earlier one
that hides it. The second is what a request needs that finds, when it acts, that
another one has been faster.
-/

namespace Interleaving

variable {Request Command : Type} {Result : Command → Type} {Answer Store Choice Model : Type}

/-- The effect of a request: the step in which it takes place, the task, and what
was asked for. -/
structure Effect (Request : Type) where
  moment : Nat
  index : Nat
  request : Request
deriving DecidableEq

/-- The model after the effects, in the order in which they are listed. -/
def replay (meaning : Request → Model → Model) (effects : List (Effect Request))
    (model : Model) : Model :=
  effects.foldl (fun current effect => meaning effect.request current) model

@[simp] theorem replay_nil (meaning : Request → Model → Model) (model : Model) :
    replay meaning [] model = model := rfl

@[simp] theorem replay_cons (meaning : Request → Model → Model) (effect : Effect Request)
    (effects : List (Effect Request)) (model : Model) :
    replay meaning (effect :: effects) model =
      replay meaning effects (meaning effect.request model) := rfl

/-- Effects are replayed one after the other, so the replay of two lists is that of the second
after the first. -/
theorem replay_append (meaning : Request → Model → Model) (first second : List (Effect Request))
    (model : Model) :
    replay meaning (first ++ second) model = replay meaning second (replay meaning first model) :=
  List.foldl_append ..

/-- The task has been accepted and has not answered yet, so its effect may still take place.
-/
def State.Running (state : State Request Command Result Answer Store) (index : Nat) : Prop :=
  ∃ task, state.tasks[index]? = some task ∧ task.answer? = none

namespace Service

variable (service : Service Request Command Result Answer Store Choice)

/-- The effects are a sequential execution of requests of the run: they are in
the order of their moments, every request takes effect at most once and while it
is running, and replaying what was asked for leads from one model to the other. -/
structure Linearizes (meaning : Request → Model → Model)
    (initial : State Request Command Result Answer Store) (actions : List (Action Request Choice))
    (effects : List (Effect Request)) (before after : Model) : Prop where
  ordered : effects.Pairwise (fun earlier later => earlier.moment ≤ later.moment)
  during : ∀ effect ∈ effects, effect.moment < actions.length ∧
    (service.run initial (actions.take effect.moment)).Running effect.index
  once : (effects.map (·.index)).Nodup
  asked : ∀ effect ∈ effects,
    ((service.run initial actions).tasks.map (·.request))[effect.index]? = some effect.request
  replays : replay meaning effects before = after

/-- In a run without steps nothing has taken effect, and the model is as it was. -/
theorem linearizes_nil (meaning : Request → Model → Model)
    (initial : State Request Command Result Answer Store) (model : Model) :
    service.Linearizes meaning initial [] [] model model where
  ordered := List.Pairwise.nil
  during := fun effect member => absurd member (by simp)
  once := List.nodup_nil
  asked := fun effect member => absurd member (by simp)
  replays := rfl

/-- A request keeps its place among the tasks when the run continues. -/
theorem run_request_stays (initial : State Request Command Result Answer Store)
    (actions later : List (Action Request Choice)) {index : Nat} {request : Request}
    (asked : ((service.run initial actions).tasks.map (·.request))[index]? = some request) :
    ((service.run initial (actions ++ later)).tasks.map (·.request))[index]? = some request := by
  rw [run_append, run_requests]
  rw [List.getElem?_append_left (List.getElem?_eq_some_iff.mp asked).1]
  exact asked

namespace Linearizes

variable {service : Service Request Command Result Answer Store Choice}
  {meaning : Request → Model → Model} {initial : State Request Command Result Answer Store}
  {actions : List (Action Request Choice)} {effects : List (Effect Request)}
  {before after : Model}

/-- What lies before the moment of an effect does not change when the run continues. -/
theorem past (linearizes : service.Linearizes meaning initial actions effects before after)
    (action : Action Request Choice) {effect : Effect Request} (member : effect ∈ effects) :
    (actions ++ [action]).take effect.moment = actions.take effect.moment :=
  List.take_append_of_le_length (Nat.le_of_lt (linearizes.during effect member).1)

/-- A step in which nothing takes effect leaves the effects a linearization. -/
theorem idle (linearizes : service.Linearizes meaning initial actions effects before after)
    (action : Action Request Choice) :
    service.Linearizes meaning initial (actions ++ [action]) effects before after where
  ordered := linearizes.ordered
  during := by
    intro effect member
    obtain ⟨earlier, running⟩ := linearizes.during effect member
    rw [linearizes.past action member, List.length_append]
    exact ⟨Nat.lt_add_right _ earlier, running⟩
  once := linearizes.once
  asked := fun effect member =>
    service.run_request_stays initial actions [action] (linearizes.asked effect member)
  replays := linearizes.replays

/-- A running request takes effect in the step taken now. -/
theorem now (linearizes : service.Linearizes meaning initial actions effects before after)
    (action : Action Request Choice) {index : Nat} {request : Request}
    (running : (service.run initial actions).Running index)
    (asked : ((service.run initial actions).tasks.map (·.request))[index]? = some request)
    (fresh : index ∉ effects.map (·.index)) :
    service.Linearizes meaning initial (actions ++ [action])
      (effects ++ [⟨actions.length, index, request⟩]) before (meaning request after) := by
  have kept := linearizes.idle action
  refine ⟨?_, ?_, ?_, ?_, ?_⟩
  · rw [List.pairwise_append]
    refine ⟨kept.ordered, List.pairwise_singleton _ _, ?_⟩
    intro earlier member later last
    obtain rfl := List.mem_singleton.mp last
    exact Nat.le_of_lt (linearizes.during earlier member).1
  · intro effect member
    cases List.mem_append.mp member with
    | inl member => exact kept.during effect member
    | inr last =>
      obtain rfl := List.mem_singleton.mp last
      simpa using running
  · rw [List.map_append, List.map_singleton, ← List.concat_eq_append]
    exact List.Nodup.concat fresh kept.once
  · intro effect member
    cases List.mem_append.mp member with
    | inl member => exact kept.asked effect member
    | inr last =>
      obtain rfl := List.mem_singleton.mp last
      exact service.run_request_stays initial actions [action] asked
  · rw [replay_append, linearizes.replays, replay_cons, replay_nil]

/-- A request takes effect just before an effect that hides it, provided it was
running then. The model of the present is the same. -/
theorem earlier (linearizes : service.Linearizes meaning initial actions effects before after)
    (action : Action Request Choice) {index : Nat} {request : Request} {cover : Effect Request}
    (member : cover ∈ effects)
    (running : (service.run initial (actions.take cover.moment)).Running index)
    (asked : ((service.run initial actions).tasks.map (·.request))[index]? = some request)
    (fresh : index ∉ effects.map (·.index))
    (hides : ∀ model, meaning cover.request (meaning request model) = meaning cover.request model) :
    ∃ extended : List (Effect Request),
      extended.Perm (⟨cover.moment, index, request⟩ :: effects) ∧
        service.Linearizes meaning initial (actions ++ [action]) extended before after := by
  have kept := linearizes.idle action
  obtain ⟨first, last, rfl⟩ := List.append_of_mem member
  have permuted : (first ++ ⟨cover.moment, index, request⟩ :: cover :: last).Perm
      (⟨cover.moment, index, request⟩ :: (first ++ cover :: last)) := List.perm_middle
  refine ⟨first ++ ⟨cover.moment, index, request⟩ :: cover :: last, permuted, ?_, ?_, ?_, ?_, ?_⟩
  · have ordered := kept.ordered
    simp only [List.pairwise_append, List.pairwise_cons, List.mem_cons, forall_eq_or_imp] at ordered ⊢
    obtain ⟨firstOrdered, ⟨coverFirst, lastOrdered⟩, across⟩ := ordered
    exact ⟨firstOrdered, ⟨⟨Nat.le_refl _, coverFirst⟩, coverFirst, lastOrdered⟩,
      fun effect present => ⟨(across effect present).1, across effect present⟩⟩
  · intro effect present
    rcases List.mem_cons.mp (permuted.mem_iff.mp present) with rfl | present
    · refine ⟨(kept.during cover member).1, ?_⟩
      rw [linearizes.past action member]
      exact running
    · exact kept.during effect present
  · rw [(permuted.map _).nodup_iff, List.map_cons, List.nodup_cons]
    exact ⟨fresh, kept.once⟩
  · intro effect present
    rcases List.mem_cons.mp (permuted.mem_iff.mp present) with rfl | present
    · exact service.run_request_stays initial actions [action] asked
    · exact kept.asked effect present
  · have replays := linearizes.replays
    rw [replay_append, replay_cons] at replays ⊢
    rw [replay_cons, hides]
    exact replays

end Linearizes

end Service

end Interleaving
