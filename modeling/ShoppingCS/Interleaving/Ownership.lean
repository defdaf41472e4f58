import ShoppingCS.Interleaving.Histories

/-!
# Places that only one task writes

Each request owns a place of the store. A task writes to no other place, so as long as no
two requests own the same place, what is stored there can be read off the trace of its
owner: the events, one after the other, applied to what was there when nothing ran.
-/

namespace Interleaving.Service

variable {Request Command : Type} {Result : Command → Type} {Answer Store Choice : Type}
  {Place Value : Type}

/-- Who owns which place, what a store holds there, and what an event of its owner makes of
it. -/
structure Ownership (service : Service Request Command Result Answer Store Choice)
    (Place Value : Type) where
  owned : Request → Place
  view : Store → Place → Value
  note : Place → Value → Event Command Result → Value
  issued : Place → Command → Prop
  issues : ∀ request, (service.handler request).Issues (issued (owned request))
  own : ∀ place command choice store, issued place command →
    view (service.perform command choice store).2 place =
      note place (view store place) ⟨command, (service.perform command choice store).1⟩
  other : ∀ place command choice store elsewhere, issued place command → elsewhere ≠ place →
    view (service.perform command choice store).2 elsewhere = view store elsewhere

namespace Ownership

variable {service : Service Request Command Result Answer Store Choice}
  (ownership : service.Ownership Place Value)

/-- What the events of a trace make of a place, one after the other from its initial value. -/
def noted (place : Place) (initial : Value) (trace : List (Event Command Result)) : Value :=
  trace.foldl (ownership.note place) initial

/-- Places of the tasks hold what their traces make of them, other places what they held. -/
structure Kept (initial : Store) (state : State Request Command Result Answer Store) : Prop where
  traced : service.Traced state
  written : ∀ task ∈ state.tasks,
    ownership.view state.store (ownership.owned task.request) =
      ownership.noted (ownership.owned task.request)
        (ownership.view initial (ownership.owned task.request)) task.trace
  unwritten : ∀ place, (∀ task ∈ state.tasks, ownership.owned task.request ≠ place) →
    ownership.view state.store place = ownership.view initial place

variable {ownership} {initial : Store} {state : State Request Command Result Answer Store}

/-- At the beginning nothing has been written, and every place has its initial value. -/
theorem kept_idle (initial : Store) : ownership.Kept initial (idleState initial) where
  traced := service.idleState_traced initial
  written := fun task member => absurd member (by simp)
  unwritten := fun _ _ => rfl

/-- A request is accepted that owns a place of its own. -/
theorem Kept.start (kept : ownership.Kept initial state) {request : Request}
    (fresh : ∀ task ∈ state.tasks, ownership.owned task.request ≠ ownership.owned request) :
    ownership.Kept initial { state with tasks := state.tasks ++ [service.accept request] } where
  traced := by
    intro task member
    cases List.mem_append.mp member with
    | inl member => exact kept.traced task member
    | inr member =>
      obtain rfl := List.mem_singleton.mp member
      exact .here _
  written := by
    intro task member
    cases List.mem_append.mp member with
    | inl member => exact kept.written task member
    | inr member =>
      obtain rfl := List.mem_singleton.mp member
      exact kept.unwritten _ fresh
  unwritten := by
    intro place strange
    apply kept.unwritten
    intro task member
    exact strange task (List.mem_append_left _ member)

/-- A task executes a command: its own place changes as noted, all others stay. -/
theorem Kept.proceed (kept : ownership.Kept initial state)
    (different : (state.tasks.map (fun task => ownership.owned task.request)).Nodup)
    {index : Nat} {choice : Choice} {task : Task Request Command Result Answer} {command : Command}
    {resume : Result command → Program Command Result Answer}
    (present : state.tasks[index]? = some task) (pending : task.program = .call command resume) :
    ownership.Kept initial
      { store := (service.perform command choice state.store).2
        tasks := state.tasks.set index
          (task.advance command resume (service.perform command choice state.store).1) } := by
  have member := List.mem_of_getElem? present
  have follows := kept.traced task member
  rw [pending] at follows
  have issued : ownership.issued (ownership.owned task.request) command :=
    ((ownership.issues task.request).follows follows).2.1
  constructor
  · intro later among
    cases List.mem_or_eq_of_mem_set among with
    | inl among => exact kept.traced later among
    | inr same =>
      subst same
      exact follows.extend _
  · intro later among
    obtain ⟨position, found⟩ := List.mem_iff_getElem?.mp among
    rcases set_lookup found with ⟨-, rfl⟩ | ⟨apart, found⟩
    · rw [Task.advance_request, Task.advance_trace, noted, List.foldl_append,
        ownership.own _ _ _ _ issued, kept.written task member]
      rfl
    · have strange : ownership.owned later.request ≠ ownership.owned task.request := by
        intro same
        have inside := (List.getElem?_eq_some_iff.mp found).1
        apply apart
        apply (List.getElem?_inj (by simpa using inside) different).mp
        rw [List.getElem?_map, List.getElem?_map, found, present, Option.map_some,
          Option.map_some, same]
      rw [ownership.other _ _ _ _ _ issued strange]
      exact kept.written later (List.mem_of_getElem? found)
  · intro place strange
    have elsewhere : place ≠ ownership.owned task.request := by
      intro same
      have here := List.mem_of_getElem? (List.getElem?_set_self
        (a := task.advance command resume (service.perform command choice state.store).1)
        (List.getElem?_eq_some_iff.mp present).1)
      exact strange _ here same.symm
    rw [ownership.other _ _ _ _ _ issued elsewhere]
    apply kept.unwritten
    intro other among same
    obtain ⟨position, found⟩ := List.mem_iff_getElem?.mp among
    by_cases here : position = index
    · subst here
      obtain rfl : task = other := Option.some.inj (present.symm.trans found)
      exact elsewhere same.symm
    · apply strange other _ same
      exact List.mem_of_getElem? ((List.getElem?_set_ne (Ne.symm here)).trans found)

/-- In every run that accepts no two requests with the same place, places hold what the
traces of their owners make of them. -/
theorem Kept.run (kept : ownership.Kept initial state) (actions : List (Action Request Choice))
    (different : ((state.tasks.map (·.request) ++ requests actions).map ownership.owned).Nodup) :
    ownership.Kept initial (service.run state actions) := by
  induction actions generalizing state with
  | nil => exact kept
  | cons action actions inductionHypothesis =>
    have asked : (service.step state action).tasks.map (·.request) ++ requests actions =
        state.tasks.map (·.request) ++ requests (action :: actions) := by
      have once := service.run_requests state [action]
      rw [run_cons, run_nil] at once
      rw [once]
      cases action <;> simp [requests]
    rw [run_cons]
    refine inductionHypothesis ?_ (by rw [asked]; exact different)
    rw [List.map_append] at different
    obtain ⟨present, -, apart⟩ := List.nodup_append.mp different
    generalize after : service.step state action = next
    have transition : service.Transition state action next :=
      after ▸ service.step_transition state action
    cases transition with
    | idle index choice nothing => exact kept
    | started request =>
      apply kept.start
      intro task member
      exact apart _ (List.mem_map_of_mem (List.mem_map_of_mem member)) _ List.mem_cons_self
    | proceeded index choice task command resume found pending =>
      rw [List.map_map] at present
      exact kept.proceed present found pending

end Ownership

end Interleaving.Service
