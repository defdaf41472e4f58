import Mathlib.Data.Option.Basic
import ShoppingCS.Interleaving.Service

/-!
# Erasing some requests from a run

`erase` takes the steps of all requests but the own ones out of a run. The places
of the remaining requests change, so their later steps are renumbered.

Own requests notice nothing when two conditions hold of a view on two stores:
commands of other requests keep it, and own commands return alike results on
stores with the same view and keep it as well. A run and what is left of it then
stay related step by step, also when the choices that resolve the own commands
are not the same but only alike.
-/

namespace Interleaving

variable {Request Command : Type} {Result : Command → Type} {Answer Store Choice : Type}

namespace Program

/-- Two programs that issue the same allowed commands as long as the results are
alike, and end with alike answers. -/
inductive Alike (allowed : Command → Prop)
    (sameResult : (command : Command) → Result command → Result command → Prop)
    (sameAnswer : Answer → Answer → Prop) :
    Program Command Result Answer → Program Command Result Answer → Prop where
  | answer (first second : Answer) (same : sameAnswer first second) :
      Alike allowed sameResult sameAnswer (.answer first) (.answer second)
  | call (command : Command) (first second : Result command → Program Command Result Answer)
      (permitted : allowed command)
      (later : ∀ left right, sameResult command left right →
        Alike allowed sameResult sameAnswer (first left) (second right)) :
      Alike allowed sameResult sameAnswer (.call command first) (.call command second)

end Program

/-- The same action, up to choices that are alike for the view. -/
inductive Action.Alike (sameChoice : Choice → Choice → Prop) :
    Action Request Choice → Action Request Choice → Prop where
  | start (request : Request) : Alike sameChoice (.start request) (.start request)
  | proceed (index : Nat) (first second : Choice) (same : sameChoice first second) :
      Alike sameChoice (.proceed index first) (.proceed index second)

section Rank

variable {α β : Type}

/-- The place among those that pass a test of what stands at a place of a list. -/
def rank (test : α → Bool) (items : List α) (index : Nat) : Nat :=
  (items.take index).countP test

/-- An item that passes the test is found at its rank among those that do. -/
theorem filter_rank (test : α → Bool) {items : List α} {index : Nat} {item : α}
    (present : items[index]? = some item) (passes : test item = true) :
    (items.filter test)[rank test items index]? = some item := by
  induction items generalizing index with
  | nil => simp at present
  | cons first items inductionHypothesis =>
    cases index with
    | zero =>
      obtain rfl : first = item := by simpa using present
      simp [rank, passes]
    | succ index =>
      have found := inductionHypothesis (by simpa using present)
      cases tested : test first with
      | true => simpa [rank, tested] using found
      | false => simpa [rank, tested] using found

/-- Replacing what passes by something that passes replaces it at its rank. -/
theorem filter_set_rank (test : α → Bool) {items : List α} {index : Nat} {item : α}
    (present : items[index]? = some item) (passes : test item = true) (new : α)
    (still : test new = true) :
    (items.set index new).filter test = (items.filter test).set (rank test items index) new := by
  induction items generalizing index with
  | nil => simp at present
  | cons first items inductionHypothesis =>
    cases index with
    | zero =>
      obtain rfl : first = item := by simpa using present
      simp [rank, passes, still]
    | succ index =>
      have replaced := inductionHypothesis (by simpa using present)
      cases tested : test first with
      | true => simpa [rank, tested] using replaced
      | false => simpa [rank, tested] using replaced

/-- Replacing what fails by something that fails is not seen. -/
theorem filter_set_other (test : α → Bool) {items : List α} {index : Nat} {item : α}
    (present : items[index]? = some item) (fails : test item = false) (new : α)
    (still : test new = false) : (items.set index new).filter test = items.filter test := by
  induction items generalizing index with
  | nil => simp at present
  | cons first items inductionHypothesis =>
    cases index with
    | zero =>
      obtain rfl : first = item := by simpa using present
      simp [fails, still]
    | succ index =>
      have replaced := inductionHypothesis (by simpa using present)
      simp [List.filter_cons, replaced]

/-- The rank depends on the outcomes of the tests only. -/
theorem rank_map (test : α → Bool) (items : List α) (index : Nat) :
    rank id (items.map test) index = rank test items index := by
  simp [rank, ← List.map_take, List.countP_map]

end Rank

/-- What is left of a run without the steps of other requests. The flags say which
of the requests accepted so far are own. -/
def erase (own : Request → Bool) : List Bool → List (Action Request Choice) →
    List (Action Request Choice)
  | _, [] => []
  | known, .start request :: actions =>
    if own request then .start request :: erase own (known ++ [true]) actions
    else erase own (known ++ [false]) actions
  | known, .proceed index choice :: actions =>
    if known[index]? = some true then .proceed (rank id known index) choice :: erase own known actions
    else erase own known actions

section Related

variable {α β : Type} {related : α → β → Prop}

/-- Lists related item by item have related items in the same places. -/
theorem forall₂_partner {first : List α} {second : List β} (all : List.Forall₂ related first second)
    {index : Nat} {item : α} (present : first[index]? = some item) :
    ∃ partner, second[index]? = some partner ∧ related item partner := by
  induction all generalizing index with
  | nil => simp at present
  | cons head tail inductionHypothesis =>
    cases index with
    | zero =>
      obtain rfl := Option.some.inj present
      exact ⟨_, rfl, head⟩
    | succ index => exact inductionHypothesis (by simpa using present)

/-- Lists stay related when related elements are put in the same place. -/
theorem forall₂_set {first : List α} {second : List β} (all : List.Forall₂ related first second)
    (index : Nat) {left : α} {right : β} (same : related left right) :
    List.Forall₂ related (first.set index left) (second.set index right) := by
  induction all generalizing index with
  | nil => exact .nil
  | cons head tail inductionHypothesis =>
    cases index with
    | zero => exact .cons same tail
    | succ index => exact .cons head (inductionHypothesis index)

end Related

namespace Service

/-- When own requests notice nothing of others. Own and other requests issue own and
foreign commands; own ones depend on the view of the store only, and foreign ones
keep it. -/
structure Separation (service : Service Request Command Result Answer Store Choice) where
  own : Request → Bool
  permitted : Request → Prop
  allowed : Command → Prop
  foreign : Command → Prop
  sameResult : (command : Command) → Result command → Result command → Prop
  sameAnswer : Answer → Answer → Prop
  sameChoice : Choice → Choice → Prop
  sameView : Store → Store → Prop
  ownHandlers : ∀ request, own request = true → permitted request →
    Program.Alike allowed sameResult sameAnswer (service.handler request) (service.handler request)
  otherHandlers : ∀ request, own request = false → (service.handler request).Issues foreign
  results : ∀ command first second left right, allowed command → sameChoice first second →
    sameView left right → sameResult command (service.perform command first left).1
      (service.perform command second right).1
  keeps : ∀ command first second left right, allowed command → sameChoice first second →
    sameView left right → sameView (service.perform command first left).2
      (service.perform command second right).2
  ignores : ∀ command choice left right, foreign command → sameView left right →
    sameView (service.perform command choice left).2 right

namespace Separation

variable {service : Service Request Command Result Answer Store Choice}
  (separation : service.Separation)

/-- The task is an own one if its request is. -/
def ownTask (task : Task Request Command Result Answer) : Bool := separation.own task.request

/-- Tasks with the same request, at the same point of alike programs. -/
structure AlikeTasks (first second : Task Request Command Result Answer) : Prop where
  request : first.request = second.request
  program : Program.Alike separation.allowed separation.sameResult separation.sameAnswer
    first.program second.program

/-- A run and what is left of it, after some steps. -/
structure Erased (first second : State Request Command Result Answer Store) : Prop where
  view : separation.sameView first.store second.store
  tasks : List.Forall₂ separation.AlikeTasks (first.tasks.filter separation.ownTask) second.tasks
  others : ∀ task ∈ first.tasks, separation.ownTask task = false →
    task.program.Issues separation.foreign

/-- A step of a task does not change whose the requests are. -/
theorem step_flags (state : State Request Command Result Answer Store) (index : Nat)
    (choice : Choice) :
    (service.step state (.proceed index choice)).tasks.map separation.ownTask =
      state.tasks.map separation.ownTask := by
  have kept := service.run_requests state [.proceed index choice]
  have flags := congrArg (List.map separation.own) kept
  rw [List.map_append, List.map_map, List.map_map] at flags
  rw [requests, requests, List.map_nil, List.append_nil] at flags
  exact flags

section Steps

variable {separation} {first second : State Request Command Result Answer Store}
  (erased : separation.Erased first second)

include erased

/-- An own request is accepted on both sides, at the end of the tasks of both. -/
theorem Erased.start_own {request : Request} (mine : separation.own request = true)
    (may : separation.permitted request) :
    separation.Erased (service.step first (.start request)) (service.step second (.start request)) where
  view := erased.view
  tasks := by
    have accepted : separation.ownTask (service.accept request) = true := mine
    simp only [step, List.filter_append, List.filter_cons, accepted, if_true, List.filter_nil]
    exact List.rel_append erased.tasks (.cons ⟨rfl, separation.ownHandlers request mine may⟩ .nil)
  others := by
    intro task member other
    cases List.mem_append.mp member with
    | inl member => exact erased.others task member other
    | inr member =>
      obtain rfl := List.mem_singleton.mp member
      exact absurd (mine.symm.trans other) (by simp)

/-- A request of others is accepted on the first side only, where it adds a task that is
erased. -/
theorem Erased.start_other {request : Request} (other : separation.own request = false) :
    separation.Erased (service.step first (.start request)) second where
  view := erased.view
  tasks := by
    have accepted : separation.ownTask (service.accept request) = false := other
    simpa [step, List.filter_append, accepted] using erased.tasks
  others := by
    intro task member unowned
    cases List.mem_append.mp member with
    | inl member => exact erased.others task member unowned
    | inr member =>
      obtain rfl := List.mem_singleton.mp member
      exact separation.otherHandlers request other

/-- A step of another request on the first side leaves the view as it is, and the own tasks
with it. -/
theorem Erased.proceed_other {index : Nat} (choice : Choice)
    (other : ∀ task, first.tasks[index]? = some task → separation.ownTask task = false) :
    separation.Erased (service.step first (.proceed index choice)) second := by
  generalize after : service.step first (.proceed index choice) = next
  have transition : service.Transition first (.proceed index choice) next :=
    after ▸ service.step_transition first _
  cases transition with
  | proceeded _ _ task command resume present pending =>
    have unowned := other task present
    have issues := erased.others task (List.mem_of_getElem? present) unowned
    rw [pending] at issues
    refine ⟨separation.ignores command choice _ _ issues.1 erased.view, ?_, ?_⟩
    · have unseen := filter_set_other separation.ownTask present unowned
        (task.advance command resume (service.perform command choice first.store).1) unowned
      rw [unseen]
      exact erased.tasks
    · intro now member still
      rcases List.mem_or_eq_of_mem_set member with member | rfl
      · exact erased.others now member still
      · exact issues.2 _
  | idle _ _ nothing => exact erased

/-- A step of an own request is taken on both sides, at the place its task has in each. -/
theorem Erased.proceed_own {index : Nat} {choice other : Choice}
    (same : separation.sameChoice choice other) {task : Task Request Command Result Answer}
    (present : first.tasks[index]? = some task) (mine : separation.ownTask task = true) :
    separation.Erased (service.step first (.proceed index choice))
      (service.step second (.proceed (rank separation.ownTask first.tasks index) other)) := by
  obtain ⟨partner, there, asked, alike⟩ := forall₂_partner erased.tasks
    (filter_rank separation.ownTask present mine)
  generalize ours : task.program = program at alike
  generalize theirs : partner.program = twin at alike
  cases alike with
  | answer left right agree =>
    have here : service.step first (.proceed index choice) = first := by simp [step, present, ours]
    have stays : service.step second
        (.proceed (rank separation.ownTask first.tasks index) other) = second := by
      simp [step, there, theirs]
    rw [here, stays]
    exact erased
  | call command left right permitted later =>
    have results := separation.results command choice other first.store second.store permitted same
      erased.view
    have here : service.step first (.proceed index choice) =
        { store := (service.perform command choice first.store).2
          tasks := first.tasks.set index
            (task.advance command left (service.perform command choice first.store).1) } := by
      simp [step, present, ours]
    have goes : service.step second (.proceed (rank separation.ownTask first.tasks index) other) =
        { store := (service.perform command other second.store).2
          tasks := second.tasks.set (rank separation.ownTask first.tasks index)
            (partner.advance command right (service.perform command other second.store).1) } := by
      simp [step, there, theirs]
    rw [here, goes]
    refine ⟨separation.keeps command choice other _ _ permitted same erased.view, ?_, ?_⟩
    · have replaced := filter_set_rank separation.ownTask present mine
        (task.advance command left (service.perform command choice first.store).1) mine
      rw [replaced]
      exact forall₂_set erased.tasks _ ⟨asked, later _ _ results⟩
    · intro now member unowned
      rcases List.mem_or_eq_of_mem_set member with member | rfl
      · exact erased.others now member unowned
      · exact absurd (mine.symm.trans unowned) (by simp)

/-- A whole run and what is left of it, with choices that are alike. -/
theorem Erased.run (actions left : List (Action Request Choice))
    (may : ∀ request ∈ requests actions, separation.own request = true →
      separation.permitted request)
    (resolved : List.Forall₂ (Action.Alike separation.sameChoice)
      (erase separation.own (first.tasks.map separation.ownTask) actions) left) :
    separation.Erased (service.run first actions) (service.run second left) := by
  induction actions generalizing first second left with
  | nil =>
    obtain rfl := List.forall₂_nil_left_iff.mp resolved
    exact erased
  | cons action actions inductionHypothesis =>
    cases action with
    | start request =>
      have later : ∀ other ∈ requests actions, separation.own other = true →
          separation.permitted other := fun other member => may other (List.mem_cons_of_mem _ member)
      have known : (service.step first (.start request)).tasks.map separation.ownTask =
          first.tasks.map separation.ownTask ++ [separation.own request] := by
        simp [step, accept, ownTask]
      cases mine : separation.own request with
      | true =>
        simp only [erase, mine, if_true] at resolved
        obtain ⟨other, rest, same, remaining, rfl⟩ := List.forall₂_cons_left_iff.mp resolved
        cases same
        refine inductionHypothesis (erased.start_own mine (may request List.mem_cons_self mine)) rest
          later ?_
        rw [known, mine]
        exact remaining
      | false =>
        refine inductionHypothesis (erased.start_other mine) left later ?_
        rw [known, mine]
        simpa [erase, mine] using resolved
    | proceed index choice =>
      have known : (service.step first (.proceed index choice)).tasks.map separation.ownTask =
          first.tasks.map separation.ownTask := step_flags separation first index choice
      by_cases mine : (first.tasks.map separation.ownTask)[index]? = some true
      · obtain ⟨task, present, owned⟩ : ∃ task, first.tasks[index]? = some task ∧
            separation.ownTask task = true := by simpa using mine
        simp only [erase, mine, if_true, rank_map] at resolved
        obtain ⟨other, rest, same, remaining, rfl⟩ := List.forall₂_cons_left_iff.mp resolved
        cases same with
        | proceed _ _ second same =>
          refine inductionHypothesis (erased.proceed_own same present owned) rest may ?_
          rw [known]
          exact remaining
      · have unowned (task) (present : first.tasks[index]? = some task) :
            separation.ownTask task = false := by
          refine Bool.eq_false_iff.mpr (fun owned => mine ?_)
          simp [present, owned]
        refine inductionHypothesis (erased.proceed_other choice unowned) left may ?_
        rw [known]
        simpa only [erase, mine, if_false] using resolved

end Steps

end Separation

end Service

end Interleaving
