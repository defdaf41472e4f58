import Mathlib.Algebra.BigOperators.Group.List.Basic
import Mathlib.Algebra.Order.BigOperators.Group.List
import Mathlib.Data.List.Basic
import Mathlib.Data.Int.Basic
import Mathlib.Tactic.Abel
import ShoppingCS.Interleaving.Program

/-!
# Services whose requests interleave command by command

A service starts one program per request. Any number of tasks share one store;
a scheduler picks, at every step, a new request to accept or one task whose
pending command is executed. Step order is real time. A task answers in the
same step as its last command, since nothing is left to wait for.

The scheduler is unrestricted. Restrictions on runs are predicates on the state
before a step and the action taken there, collected by `Along`. An invariant
needs to be preserved by one such step only; `run_invariant` carries it through
every run.
-/

namespace Interleaving

variable {Request Command : Type} {Result : Command → Type} {Answer Store Choice : Type}

/-- A service maps requests to programs and executes one command atomically. A
choice resolves whatever the command leaves open, such as a failure. -/
structure Service (Request Command : Type) (Result : Command → Type)
    (Answer Store Choice : Type) where
  handler : Request → Program Command Result Answer
  perform : (command : Command) → Choice → Store → Result command × Store

/-- An accepted request, the commands it has executed, and what remains of it. -/
structure Task (Request Command : Type) (Result : Command → Type) (Answer : Type) where
  request : Request
  trace : List (Event Command Result)
  program : Program Command Result Answer

/-- Tasks are listed in the order in which their requests were accepted, so a
task keeps its position for ever. -/
structure State (Request Command : Type) (Result : Command → Type) (Answer Store : Type) where
  store : Store
  tasks : List (Task Request Command Result Answer)

/-- The scheduler accepts a request or lets one task execute a command. -/
inductive Action (Request Choice : Type) where
  | start (request : Request)
  | proceed (index : Nat) (choice : Choice)
deriving DecidableEq

namespace Task

/-- The task after its pending command has returned, with the event recorded at the end of its
trace. -/
def advance (task : Task Request Command Result Answer) (command : Command)
    (resume : Result command → Program Command Result Answer) (result : Result command) :
    Task Request Command Result Answer :=
  { request := task.request
    trace := task.trace ++ [⟨command, result⟩]
    program := resume result }

/-- The answer of a task, once there is one. -/
def answer? (task : Task Request Command Result Answer) : Option Answer :=
  match task.program with
  | .answer value => some value
  | _ => none

@[simp] theorem advance_request (task : Task Request Command Result Answer) (command : Command)
    (resume : Result command → Program Command Result Answer) (result : Result command) :
    (task.advance command resume result).request = task.request := rfl

@[simp] theorem advance_trace (task : Task Request Command Result Answer) (command : Command)
    (resume : Result command → Program Command Result Answer) (result : Result command) :
    (task.advance command resume result).trace = task.trace ++ [⟨command, result⟩] := rfl

@[simp] theorem advance_program (task : Task Request Command Result Answer) (command : Command)
    (resume : Result command → Program Command Result Answer) (result : Result command) :
    (task.advance command resume result).program = resume result := rfl

/-- A task that has answered has nothing left but its answer. -/
theorem answer_some (task : Task Request Command Result Answer) (value : Answer) :
    task.answer? = some value ↔ task.program = .answer value := by
  unfold answer?
  cases task.program <;> simp

/-- A task with a pending command has not answered yet. -/
theorem pending_unanswered (task : Task Request Command Result Answer) {command : Command}
    {resume : Result command → Program Command Result Answer}
    (pending : task.program = .call command resume) : task.answer? = none := by
  simp [answer?, pending]

end Task

namespace Service

variable (service : Service Request Command Result Answer Store Choice)

/-- A newly accepted request has executed nothing yet, and has its handler's program before
it. -/
def accept (request : Request) : Task Request Command Result Answer :=
  { request := request, trace := [], program := service.handler request }

/-- One scheduler step. Scheduling a task with no pending command, or an index
without a task, changes nothing. -/
def step (state : State Request Command Result Answer Store) :
    Action Request Choice → State Request Command Result Answer Store
  | .start request => { state with tasks := state.tasks ++ [service.accept request] }
  | .proceed index choice =>
    match state.tasks[index]? with
    | none => state
    | some task =>
      match task.program with
      | .answer _ => state
      | .halt => state
      | .call command resume =>
        let outcome := service.perform command choice state.store
        { store := outcome.2
          tasks := state.tasks.set index (task.advance command resume outcome.1) }

/-- A run takes the scheduler's actions in order, from any state. -/
def run (state : State Request Command Result Answer Store)
    (actions : List (Action Request Choice)) : State Request Command Result Answer Store :=
  actions.foldl service.step state

/-- Everything a step can do: accept a request, execute the pending command of
one task, or nothing. -/
inductive Transition (state : State Request Command Result Answer Store) :
    Action Request Choice → State Request Command Result Answer Store → Prop where
  | started (request : Request) :
      Transition state (.start request)
        { store := state.store, tasks := state.tasks ++ [service.accept request] }
  | proceeded (index : Nat) (choice : Choice) (task : Task Request Command Result Answer)
      (command : Command) (resume : Result command → Program Command Result Answer)
      (present : state.tasks[index]? = some task) (pending : task.program = .call command resume) :
      Transition state (.proceed index choice)
        { store := (service.perform command choice state.store).2
          tasks := state.tasks.set index
            (task.advance command resume (service.perform command choice state.store).1) }
  | idle (index : Nat) (choice : Choice)
      (nothing : ∀ task, state.tasks[index]? = some task →
        ∀ command resume, task.program ≠ .call command resume) :
      Transition state (.proceed index choice) state

/-- The executable step is one of these transitions, which is the inversion that the
invariants use. -/
theorem step_transition (state : State Request Command Result Answer Store)
    (action : Action Request Choice) :
    service.Transition state action (service.step state action) := by
  cases action with
  | start request => exact .started request
  | proceed index choice =>
    cases present : state.tasks[index]? with
    | none =>
      have same : service.step state (.proceed index choice) = state := by simp [step, present]
      rw [same]
      exact .idle index choice (by simp [present])
    | some task =>
      cases pending : task.program with
      | answer value =>
        have same : service.step state (.proceed index choice) = state := by
          simp [step, present, pending]
        rw [same]
        exact .idle index choice (by simp [present, pending])
      | halt =>
        have same : service.step state (.proceed index choice) = state := by
          simp [step, present, pending]
        rw [same]
        exact .idle index choice (by simp [present, pending])
      | call command resume =>
        have executed : service.step state (.proceed index choice) =
            { store := (service.perform command choice state.store).2
              tasks := state.tasks.set index
                (task.advance command resume (service.perform command choice state.store).1) } := by
          simp [step, present, pending]
        rw [executed]
        exact .proceeded index choice task command resume present pending

@[simp] theorem run_nil (state : State Request Command Result Answer Store) :
    service.run state [] = state := rfl

@[simp] theorem run_cons (state : State Request Command Result Answer Store)
    (action : Action Request Choice) (actions : List (Action Request Choice)) :
    service.run state (action :: actions) = service.run (service.step state action) actions := rfl

/-- A run can be cut anywhere, and goes on from the state it has reached there. -/
theorem run_append (state : State Request Command Result Answer Store)
    (before after : List (Action Request Choice)) :
    service.run state (before ++ after) = service.run (service.run state before) after :=
  List.foldl_append ..

/-- Every step of the run meets a condition on the state before it. -/
def Along (meets : State Request Command Result Answer Store → Action Request Choice → Prop) :
    State Request Command Result Answer Store → List (Action Request Choice) → Prop
  | _, [] => True
  | state, action :: actions => meets state action ∧ Along meets (service.step state action) actions

/-- A condition that can be checked at every step can be checked along a run. -/
instance decidableAlong
    (meets : State Request Command Result Answer Store → Action Request Choice → Prop)
    [decide : ∀ state action, Decidable (meets state action)] :
    ∀ state actions, Decidable (service.Along meets state actions)
  | _, [] => isTrue trivial
  | state, action :: actions =>
    have : Decidable (service.Along meets (service.step state action) actions) :=
      decidableAlong meets (service.step state action) actions
    inferInstanceAs (Decidable (meets state action ∧
      service.Along meets (service.step state action) actions))

/-- A condition along a run holds along both parts of a cut. -/
theorem along_append
    (meets : State Request Command Result Answer Store → Action Request Choice → Prop)
    (state : State Request Command Result Answer Store) (before after : List (Action Request Choice)) :
    service.Along meets state (before ++ after) ↔
      service.Along meets state before ∧ service.Along meets (service.run state before) after := by
  induction before generalizing state with
  | nil => simp [Along]
  | cons action before inductionHypothesis =>
    simp only [List.cons_append, Along, run_cons, inductionHypothesis, and_assoc]

/-- A weaker condition holds along every run along which a stronger one does. -/
theorem Along.mono {service : Service Request Command Result Answer Store Choice}
    {meets permits : State Request Command Result Answer Store → Action Request Choice → Prop}
    {state : State Request Command Result Answer Store} {actions : List (Action Request Choice)}
    (along : service.Along meets state actions)
    (weaker : ∀ current action, meets current action → permits current action) :
    service.Along permits state actions := by
  induction actions generalizing state with
  | nil => trivial
  | cons action actions inductionHypothesis =>
    exact ⟨weaker state action along.1, inductionHypothesis along.2⟩

/-- Two conditions that each hold along a run hold together along it. -/
theorem Along.and {service : Service Request Command Result Answer Store Choice}
    {meets permits : State Request Command Result Answer Store → Action Request Choice → Prop}
    {state : State Request Command Result Answer Store} {actions : List (Action Request Choice)}
    (first : service.Along meets state actions) (second : service.Along permits state actions) :
    service.Along (fun current action => meets current action ∧ permits current action)
      state actions := by
  induction actions generalizing state with
  | nil => trivial
  | cons action actions inductionHypothesis =>
    exact ⟨⟨first.1, second.1⟩, inductionHypothesis first.2 second.2⟩

/-- A condition on the actions alone is a condition along every run. -/
theorem along_of_forall {allowed : Action Request Choice → Prop}
    (state : State Request Command Result Answer Store) (actions : List (Action Request Choice))
    (every : ∀ action ∈ actions, allowed action) :
    service.Along (fun _ action => allowed action) state actions := by
  induction actions generalizing state with
  | nil => trivial
  | cons action actions inductionHypothesis =>
    exact ⟨every action List.mem_cons_self, inductionHypothesis _ (fun later member =>
      every later (List.mem_cons_of_mem action member))⟩

/-- An invariant preserved by one step that meets the condition holds after
every run whose steps all meet it. -/
theorem run_invariant
    {meets : State Request Command Result Answer Store → Action Request Choice → Prop}
    (invariant : State Request Command Result Answer Store → Prop)
    (preserved : ∀ state action, invariant state → meets state action →
      invariant (service.step state action))
    (state : State Request Command Result Answer Store) (actions : List (Action Request Choice))
    (initially : invariant state) (along : service.Along meets state actions) :
    invariant (service.run state actions) := by
  induction actions generalizing state with
  | nil => exact initially
  | cons action actions inductionHypothesis =>
    exact inductionHypothesis _ (preserved state action initially along.1) along.2

/-- An invariant preserved by every step holds after every run. -/
theorem run_always (invariant : State Request Command Result Answer Store → Prop)
    (preserved : ∀ state action, invariant state → invariant (service.step state action))
    (state : State Request Command Result Answer Store) (actions : List (Action Request Choice))
    (initially : invariant state) : invariant (service.run state actions) := by
  induction actions generalizing state with
  | nil => exact initially
  | cons action actions inductionHypothesis =>
    exact inductionHypothesis _ (preserved state action initially)

/-- An invariant holds before every step of a run that keeps it, so a later
invariant may be proved with its help. -/
theorem Along.with_invariant {service : Service Request Command Result Answer Store Choice}
    {meets : State Request Command Result Answer Store → Action Request Choice → Prop}
    {state : State Request Command Result Answer Store} {actions : List (Action Request Choice)}
    (along : service.Along meets state actions)
    (invariant : State Request Command Result Answer Store → Prop)
    (preserved : ∀ current action, invariant current → meets current action →
      invariant (service.step current action))
    (initially : invariant state) :
    service.Along (fun current action => meets current action ∧ invariant current)
      state actions := by
  induction actions generalizing state with
  | nil => trivial
  | cons action actions inductionHypothesis =>
    exact ⟨⟨along.1, initially⟩,
      inductionHypothesis along.2 (preserved state action initially along.1)⟩

/-- A quantity that no step lowers is at least its initial value after a run. -/
theorem run_rises
    {meets : State Request Command Result Answer Store → Action Request Choice → Prop}
    (measure : State Request Command Result Answer Store → Int)
    (rises : ∀ state action, meets state action → measure state ≤ measure (service.step state action))
    (state : State Request Command Result Answer Store) (actions : List (Action Request Choice))
    (along : service.Along meets state actions) :
    measure state ≤ measure (service.run state actions) :=
  service.run_invariant (fun current => measure state ≤ measure current)
    (fun current action above met => Int.le_trans above (rises current action met))
    state actions (Int.le_refl _) along

/-- Such a quantity is bounded after every step by any bound on its final value. -/
theorem Along.bounded {service : Service Request Command Result Answer Store Choice}
    {meets : State Request Command Result Answer Store → Action Request Choice → Prop}
    {state : State Request Command Result Answer Store} {actions : List (Action Request Choice)}
    (along : service.Along meets state actions)
    (measure : State Request Command Result Answer Store → Int)
    (rises : ∀ state action, meets state action → measure state ≤ measure (service.step state action))
    (bound : Int) (eventually : measure (service.run state actions) ≤ bound) :
    service.Along (fun current action =>
      meets current action ∧ measure (service.step current action) ≤ bound) state actions := by
  induction actions generalizing state with
  | nil => trivial
  | cons action actions inductionHypothesis =>
    have later := service.run_rises measure rises _ actions along.2
    exact ⟨⟨along.1, Int.le_trans later eventually⟩, inductionHypothesis along.2 eventually⟩

/-- Every task stands where its trace leads from its handler. -/
def Traced (state : State Request Command Result Answer Store) : Prop :=
  ∀ task ∈ state.tasks, Program.Follows (service.handler task.request) task.trace task.program

/-- Accepting or executing keeps every task on a path of its handler. -/
theorem step_traced (state : State Request Command Result Answer Store)
    (action : Action Request Choice) (traced : service.Traced state) :
    service.Traced (service.step state action) := by
  generalize after : service.step state action = next
  have transition : service.Transition state action next := after ▸ service.step_transition state action
  cases transition with
  | started request =>
    intro task member
    cases List.mem_append.mp member with
    | inl member => exact traced task member
    | inr member =>
      obtain rfl := List.mem_singleton.mp member
      exact .here _
  | proceeded index choice task command resume present pending =>
    intro other member
    rcases List.mem_or_eq_of_mem_set member with member | rfl
    · exact traced other member
    · have follows := traced task (List.mem_of_getElem? present)
      rw [pending] at follows
      exact follows.extend _
  | idle index choice nothing => exact traced

/-- In every state of a run the traces of the tasks lead from their handlers to what is left
of them. -/
theorem run_traced (state : State Request Command Result Answer Store)
    (actions : List (Action Request Choice)) (traced : service.Traced state) :
    service.Traced (service.run state actions) :=
  service.run_always service.Traced service.step_traced state actions traced

/-- What holds of every result when it is returned holds of all results in the
traces of the requests concerned. -/
theorem run_events
    {meets : State Request Command Result Answer Store → Action Request Choice → Prop}
    (concerns : Request → Prop) (sound : Event Command Result → Prop)
    (executed : ∀ state index choice task command resume,
      meets state (.proceed index choice) → state.tasks[index]? = some task →
      task.program = .call command resume → concerns task.request →
      sound ⟨command, (service.perform command choice state.store).1⟩)
    (state : State Request Command Result Answer Store) (actions : List (Action Request Choice))
    (initially : ∀ task ∈ state.tasks, concerns task.request → ∀ event ∈ task.trace, sound event)
    (along : service.Along meets state actions) :
    ∀ task ∈ (service.run state actions).tasks, concerns task.request →
      ∀ event ∈ task.trace, sound event := by
  refine service.run_invariant (fun current => ∀ task ∈ current.tasks, concerns task.request →
    ∀ event ∈ task.trace, sound event) ?_ state actions initially along
  intro current action holds met
  generalize after : service.step current action = next
  have transition : service.Transition current action next :=
    after ▸ service.step_transition current action
  cases transition with
  | started request =>
    intro task member concerned
    cases List.mem_append.mp member with
    | inl member => exact holds task member concerned
    | inr member =>
      obtain rfl := List.mem_singleton.mp member
      exact fun event recorded => absurd recorded (by simp [accept])
  | proceeded index choice task command resume present pending =>
    intro other member concerned event recorded
    rcases List.mem_or_eq_of_mem_set member with member | rfl
    · exact holds other member concerned event recorded
    · rw [Task.advance_trace] at recorded
      cases List.mem_append.mp recorded with
      | inl recorded => exact holds task (List.mem_of_getElem? present) concerned event recorded
      | inr recorded =>
        obtain rfl := List.mem_singleton.mp recorded
        exact executed current index choice task command resume met present pending concerned
  | idle index choice nothing => exact holds

/-- The requests that a run accepts, in the order of their acceptance. -/
def requests : List (Action Request Choice) → List Request
  | [] => []
  | .start request :: actions => request :: requests actions
  | .proceed _ _ :: actions => requests actions

/-- Tasks are exactly the accepted requests, and keep their places. -/
theorem run_requests (state : State Request Command Result Answer Store)
    (actions : List (Action Request Choice)) :
    (service.run state actions).tasks.map (·.request) =
      state.tasks.map (·.request) ++ requests actions := by
  induction actions generalizing state with
  | nil => simp [requests]
  | cons action actions inductionHypothesis =>
    rw [run_cons, inductionHypothesis]
    generalize after : service.step state action = next
    have transition : service.Transition state action next :=
      after ▸ service.step_transition state action
    cases transition with
    | started request => simp [requests, accept]
    | proceeded index choice task command resume present pending =>
      have kept : (state.tasks.set index (task.advance command resume
          (service.perform command choice state.store).1)).map (·.request) =
          state.tasks.map (·.request) := by
        rw [List.map_set, Task.advance_request]
        refine List.ext_getElem? ?_
        intro position
        rw [List.getElem?_set]
        split
        · rename_i same
          subst same
          obtain ⟨inside, located⟩ := List.getElem?_eq_some_iff.mp present
          simp [inside, located]
        · rfl
      rw [requests, kept]
    | idle index choice nothing => rw [requests]

/-- A state in which no request has been accepted yet. -/
def idleState (store : Store) : State Request Command Result Answer Store :=
  { store := store, tasks := [] }

@[simp] theorem idleState_store (store : Store) :
    (idleState store : State Request Command Result Answer Store).store = store := rfl

@[simp] theorem idleState_tasks (store : Store) :
    (idleState store : State Request Command Result Answer Store).tasks = [] := rfl

/-- Nothing has been accepted, so nothing is off its path. -/
theorem idleState_traced (store : Store) : service.Traced (idleState store) := by
  intro task member
  exact absurd member (by simp)

/-- A request that a run accepts is started in it. -/
theorem start_of_mem_requests {request : Request} {actions : List (Action Request Choice)}
    (member : request ∈ requests actions) : .start request ∈ actions := by
  induction actions with
  | nil => exact absurd member (by simp [requests])
  | cons action actions inductionHypothesis =>
    cases action with
    | start other =>
      cases List.mem_cons.mp member with
      | inl same => exact same ▸ List.mem_cons_self
      | inr later => exact List.mem_cons_of_mem _ (inductionHypothesis later)
    | proceed index choice => exact List.mem_cons_of_mem _ (inductionHypothesis member)

/-- So every task of a run has been started in it. -/
theorem started_of_mem_tasks {store : Store} {actions : List (Action Request Choice)}
    {task : Task Request Command Result Answer}
    (member : task ∈ (service.run (idleState store) actions).tasks) :
    .start task.request ∈ actions := by
  have accepted := service.run_requests (idleState store) actions
  rw [idleState_tasks, List.map_nil, List.nil_append] at accepted
  exact start_of_mem_requests (accepted ▸ List.mem_map_of_mem member)

end Service

/-- A list with one element replaced has the new one there and the old ones
elsewhere. -/
theorem set_lookup {α : Type} {items : List α} {index position : Nat} {new found : α}
    (looked : (items.set index new)[position]? = some found) :
    (position = index ∧ found = new) ∨ (position ≠ index ∧ items[position]? = some found) := by
  rw [List.getElem?_set] at looked
  split at looked
  · rename_i same
    split at looked
    · exact Or.inl ⟨same.symm, (Option.some.inj looked).symm⟩
    · simp at looked
  · rename_i different
    exact Or.inr ⟨fun same => different same.symm, looked⟩

/-- The sum of a quantity over all items, tasks in most cases. -/
def total {Item : Type} (measure : Item → Int) (items : List Item) : Int :=
  (items.map measure).sum

section Total

variable {Item : Type} (measure : Item → Int)

@[simp] theorem total_nil : total measure [] = 0 := rfl

@[simp] theorem total_cons (item : Item) (items : List Item) :
    total measure (item :: items) = measure item + total measure items := by
  simp [total]

/-- A total splits over concatenation, as the sum of a list does. -/
theorem total_append (first second : List Item) :
    total measure (first ++ second) = total measure first + total measure second := by
  simp [total]

/-- Replacing one element changes the total by the difference of the two. -/
theorem total_set (items : List Item) (index : Nat) (old new : Item)
    (present : items[index]? = some old) :
    total measure (items.set index new) = total measure items - measure old + measure new := by
  induction items generalizing index with
  | nil => simp at present
  | cons item items inductionHypothesis =>
    cases index with
    | zero =>
      obtain rfl : item = old := by simpa using present
      simp only [List.set_cons_zero, total_cons]
      omega
    | succ index =>
      have later : items[index]? = some old := by simpa using present
      simp only [List.set_cons_succ, total_cons, inductionHypothesis index later]
      omega

/-- Totals of measures that agree on every element are equal. -/
theorem total_congr {other : Item → Int} (items : List Item)
    (agree : ∀ item ∈ items, measure item = other item) :
    total measure items = total other items := by
  unfold total
  rw [List.map_congr_left agree]

/-- A measure that is the sum of two others at every element has the sum of their totals. -/
theorem total_add (items : List Item) (whole other : Item → Int)
    (sums : ∀ item ∈ items, whole item = measure item + other item) :
    total whole items = total measure items + total other items := by
  rw [total_congr whole items sums]
  exact List.sum_map_add

/-- When one measure is below another everywhere, the totals differ at least by
the difference at any one element. -/
theorem total_gap {other : Item → Int} (items : List Item) (index : Nat) (item : Item)
    (present : items[index]? = some item) (below : ∀ item ∈ items, measure item ≤ other item) :
    total measure items + (other item - measure item) ≤ total other items := by
  induction items generalizing index with
  | nil => simp at present
  | cons first items inductionHypothesis =>
    have belowRest : ∀ item ∈ items, measure item ≤ other item :=
      fun later member => below later (List.mem_cons_of_mem _ member)
    simp only [total_cons]
    cases index with
    | zero =>
      obtain rfl : first = item := by simpa using present
      have rest : total measure items ≤ total other items := List.sum_le_sum belowRest
      omega
    | succ index =>
      have head := below first List.mem_cons_self
      have rest := inductionHypothesis index (by simpa using present) belowRest
      omega

/-- A total of measures none of which is negative is at least every one of them. -/
theorem le_total (items : List Item) (index : Nat) (item : Item)
    (present : items[index]? = some item) (nonneg : ∀ item ∈ items, 0 ≤ measure item) :
    measure item ≤ total measure items := by
  have gap := total_gap (fun _ => 0) items index item present nonneg
  have zero : total (fun _ => 0) items = 0 := by simp [total]
  omega

/-- A total to which a single item contributes is that contribution. -/
theorem total_single (items : List Item) (index : Nat) (item : Item)
    (present : items[index]? = some item)
    (others : ∀ position other, items[position]? = some other → position ≠ index →
      measure other = 0) : total measure items = measure item := by
  induction items generalizing index with
  | nil => simp at present
  | cons first items inductionHypothesis =>
    rw [total_cons]
    cases index with
    | zero =>
      obtain rfl : first = item := by simpa using present
      have rest : total measure items = total (fun _ => 0) items := by
        refine total_congr measure items (fun other member => ?_)
        obtain ⟨position, found⟩ := List.mem_iff_getElem?.mp member
        exact others (position + 1) other (by simpa using found) (by omega)
      have zero : total (fun _ : Item => 0) items = 0 := by simp [total]
      omega
    | succ index =>
      have silent := others 0 first rfl (by omega)
      have later := inductionHypothesis index (by simpa using present)
        (fun position other found different =>
          others (position + 1) other (by simpa using found) (by omega))
      omega

end Total

namespace Service

variable (service : Service Request Command Result Answer Store Choice)

/-- Bookkeeping. If an executed command changes a quantity of the store by what it
adds to the entry of its own task, then the store stays balanced with the entries
of all tasks. -/
theorem step_balanced (quantity : Store → Int)
    (entry : Task Request Command Result Answer → Int)
    (opened : ∀ request, entry (service.accept request) = 0)
    (state : State Request Command Result Answer Store) (action : Action Request Choice)
    (booked : ∀ index choice task command resume, action = .proceed index choice →
      state.tasks[index]? = some task → task.program = .call command resume →
      quantity (service.perform command choice state.store).2 - quantity state.store =
        entry (task.advance command resume (service.perform command choice state.store).1) -
          entry task) :
    quantity (service.step state action).store - total entry (service.step state action).tasks =
      quantity state.store - total entry state.tasks := by
  generalize after : service.step state action = next
  have transition : service.Transition state action next :=
    after ▸ service.step_transition state action
  cases transition with
  | started request =>
    have empty := opened request
    simp only [total_append, total_cons, total_nil]
    omega
  | proceeded index choice task command resume present pending =>
    have change := booked index choice task command resume rfl present pending
    simp only [total_set entry state.tasks index task _ present]
    omega
  | idle index choice nothing => rfl

/-- Bookkeeping over a run: if every step changes a quantity by what it enters, the quantity
has changed by the total of the entries. -/
theorem run_balanced
    {meets : State Request Command Result Answer Store → Action Request Choice → Prop}
    (quantity : Store → Int) (entry : Task Request Command Result Answer → Int)
    (opened : ∀ request, entry (service.accept request) = 0)
    (booked : ∀ state index choice task command resume,
      meets state (.proceed index choice) → state.tasks[index]? = some task →
      task.program = .call command resume →
      quantity (service.perform command choice state.store).2 - quantity state.store =
        entry (task.advance command resume (service.perform command choice state.store).1) -
          entry task)
    (state : State Request Command Result Answer Store) (actions : List (Action Request Choice))
    (along : service.Along meets state actions) :
    quantity (service.run state actions).store - total entry (service.run state actions).tasks =
      quantity state.store - total entry state.tasks := by
  refine service.run_invariant
    (fun current => quantity current.store - total entry current.tasks =
      quantity state.store - total entry state.tasks) ?_ state actions rfl along
  intro current action balanced met
  refine (service.step_balanced quantity entry opened current action ?_).trans balanced
  rintro index choice task command resume rfl present pending
  exact booked current index choice task command resume met present pending

end Service

end Interleaving
