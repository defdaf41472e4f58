import Mathlib.Data.List.Induction
import Mathlib.Data.List.Nodup
import ShoppingCS.Interleaving.Forwarding

/-!
# Clients that make one request after another

A conversation is a request of the outer service: a list of requests of the inner one, the
next of which is made when the one before it has been answered. What any number of
conversations do, command by command, is what their requests do by themselves, when each
is accepted at the moment its turn has come.
-/

namespace Interleaving

variable {Client Request Command : Type} {Result : Command → Type}
  {Answer Output Store Choice : Type}

namespace Program

variable (handler : Request → Program Command Result Answer)

/-- The programs of some requests one after the other, and all of their answers. -/
def inTurn : List Request → Program Command Result (List Answer)
  | [] => .answer []
  | request :: requests =>
    handler request >>= fun answer => inTurn requests >>= fun answers => .answer (answer :: answers)

/-- What is left of them in the middle of one. -/
def goesOn (answers : List Answer) (program : Program Command Result Answer)
    (rest : List Request) : Program Command Result (List Answer) :=
  program >>= fun answer => inTurn handler rest >>= fun later => .answer (answers ++ answer :: later)

theorem inTurn_cons (request : Request) (requests : List Request) :
    inTurn handler (request :: requests) = goesOn handler [] (handler request) requests := rfl

/-- When one is answered, it is the turn of the next. -/
theorem goesOn_answer (answers : List Answer) (answer : Answer) (request : Request)
    (rest : List Request) : goesOn handler answers (.answer answer) (request :: rest) =
      goesOn handler (answers ++ [answer]) (handler request) rest := by
  change (inTurn handler (request :: rest) >>= fun later => .answer (answers ++ answer :: later)) = _
  rw [inTurn, bind_bind, goesOn]
  refine congrArg (handler request >>= ·) (funext ?_)
  intro next
  rw [bind_bind]
  refine congrArg (inTurn handler rest >>= ·) (funext ?_)
  intro later
  rw [answer_bind, List.append_assoc]
  rfl

/-- When the last request of a conversation is answered, all of them are. -/
theorem goesOn_last (answers : List Answer) (answer : Answer) :
    goesOn handler answers (.answer answer) [] = .answer (answers ++ [answer]) := rfl

/-- A command of the request in the middle is the next one of the conversation. -/
theorem goesOn_call (answers : List Answer) (command : Command)
    (resume : Result command → Program Command Result Answer) (rest : List Request) :
    goesOn handler answers (.call command resume) rest =
      .call command (fun result => goesOn handler answers (resume result) rest) := rfl

end Program

namespace Service

open Program

/-- The outer service makes the requests of a script in turn, and says what it makes of the
answers. -/
structure Sequences (outer : Service Client Command Result Output Store Choice)
    (inner : Service Request Command Result Answer Store Choice) where
  script : Client → List Request
  form : Client → List Answer → Output
  handler : ∀ client,
    outer.handler client = (inTurn inner.handler (script client)).render (form client)
  perform : outer.perform = inner.perform
  spoken : ∀ client, script client ≠ []

variable {outer : Service Client Command Result Output Store Choice}
  {inner : Service Request Command Result Answer Store Choice}

/-- Where a conversation is: the requests at some places have been made, of which all but the
last have been answered, and the rest will be. -/
structure Sequences.Stands (sequences : outer.Sequences inner)
    (tasks : List (Task Request Command Result Answer)) (places : List Nat)
    (task : Task Client Command Result Output)
    (done : List (Task Request Command Result Answer)) (last : Task Request Command Result Answer)
    (rest : List Request) (answers : List Answer) : Prop where
  made : places.map (fun place => tasks[place]?) = (done ++ [last]).map some
  script : sequences.script task.request = (done ++ [last]).map (·.request) ++ rest
  trace : task.trace = ((done ++ [last]).map (·.trace)).flatten
  answered : done.map (·.answer?) = answers.map some
  program : task.program =
    (goesOn inner.handler answers last.program rest).render (sequences.form task.request)

/-- A conversation with its requests at some places: the one whose turn it is has not been
answered, unless it is the last. -/
def Sequences.Converses (sequences : outer.Sequences inner)
    (tasks : List (Task Request Command Result Answer)) (places : List Nat)
    (task : Task Client Command Result Output) : Prop :=
  ∃ done last rest answers, sequences.Stands tasks places task done last rest answers ∧
    (last.answer?.isSome → rest = [])

section Steps

variable {sequences : outer.Sequences inner}
  {tasks after : List (Task Request Command Result Answer)} {places : List Nat}
  {task : Task Client Command Result Output}
  {done : List (Task Request Command Result Answer)} {last : Task Request Command Result Answer}
  {rest : List Request} {answers : List Answer}

/-- How far a conversation stands depends on the tasks at its own places alone. -/
theorem Sequences.Stands.elsewhere
    (stands : sequences.Stands tasks places task done last rest answers)
    (same : ∀ place ∈ places, after[place]? = tasks[place]?) :
    sequences.Stands after places task done last rest answers :=
  { stands with made := (List.map_congr_left same).trans stands.made }

/-- A conversation converses by the tasks at its own places, so it is unaffected by others. -/
theorem Sequences.Converses.elsewhere (converses : sequences.Converses tasks places task)
    (same : ∀ place ∈ places, after[place]? = tasks[place]?) :
    sequences.Converses after places task := by
  obtain ⟨done, last, rest, answers, stands, finished⟩ := converses
  exact ⟨done, last, rest, answers, stands.elsewhere same, finished⟩

/-- The requests a conversation has made are among the tasks. -/
theorem Sequences.Stands.inside
    (stands : sequences.Stands tasks places task done last rest answers) {place : Nat}
    (member : place ∈ places) : place < tasks.length := by
  have made : tasks[place]? ∈ (done ++ [last]).map some := by
    rw [← stands.made]
    exact List.mem_map_of_mem member
  obtain ⟨found, -, same⟩ := List.mem_map.mp made
  exact (List.getElem?_eq_some_iff.mp same.symm).1

/-- Tasks that are accepted later come behind the places of a conversation, and change nothing
for it. -/
theorem Sequences.Converses.later (converses : sequences.Converses tasks places task)
    (fresh : List (Task Request Command Result Answer)) :
    sequences.Converses (tasks ++ fresh) places task := by
  apply converses.elsewhere
  intro place member
  obtain ⟨done, last, rest, answers, stands, -⟩ := converses
  exact List.getElem?_append_left (stands.inside member)

/-- When its last request has been answered, a conversation makes the next one, at the end of
the tasks. -/
theorem Sequences.Stands.next {answer : Answer} {request : Request}
    (stands : sequences.Stands tasks places task done last (request :: rest) answers)
    (answered : last.program = .answer answer) :
    sequences.Stands (tasks ++ [inner.accept request]) (places ++ [tasks.length]) task
      (done ++ [last]) (inner.accept request) rest (answers ++ [answer]) where
  made := by
    have earlier : places.map (fun place => (tasks ++ [inner.accept request])[place]?) =
        (done ++ [last]).map some :=
      (stands.elsewhere (fun place member =>
        List.getElem?_append_left (stands.inside member))).made
    rw [List.map_append, earlier]
    simp
  script := by
    rw [stands.script]
    simp [accept]
  trace := by
    rw [stands.trace]
    simp [accept]
  answered := by
    rw [List.map_append, stands.answered]
    simp [Task.answer?, answered]
  program := by
    rw [stands.program, answered, goesOn_answer]
    rfl

/-- Requests are made up to the first that has something to do. -/
theorem Sequences.Stands.settle
    (state : State Request Command Result Answer Store)
    (stands : sequences.Stands state.tasks places task done last rest answers) :
    ∃ actions fresh, inner.run state actions = { state with tasks := state.tasks ++ fresh } ∧
      sequences.Converses (state.tasks ++ fresh)
        (places ++ List.range' state.tasks.length fresh.length) task := by
  induction rest generalizing state places done last answers with
  | nil =>
    refine ⟨[], [], by simp, ?_⟩
    rw [List.append_nil]
    exact ⟨done, last, [], answers, by simpa using stands, fun _ => rfl⟩
  | cons request rest inductionHypothesis =>
    cases answered : last.answer? with
    | none =>
      refine ⟨[], [], by simp, ?_⟩
      rw [List.append_nil]
      exact ⟨done, last, request :: rest, answers, by simpa using stands,
        fun some => absurd some (by simp [answered])⟩
    | some answer =>
      have next := stands.next ((last.answer_some answer).mp answered)
      obtain ⟨actions, fresh, ran, converses⟩ := inductionHypothesis
        { state with tasks := state.tasks ++ [inner.accept request] } next
      refine ⟨.start request :: actions, inner.accept request :: fresh, ?_, ?_⟩
      · rw [run_cons]
        change inner.run { state with tasks := state.tasks ++ [inner.accept request] } actions = _
        rw [ran]
        simp
      · simpa [List.range'_succ, List.append_assoc] using converses

/-- A command of a conversation is one of the request whose turn it is. -/
theorem Sequences.Stands.advance {command : Command} {resume : Result command → Program Command Result Output}
    (stands : sequences.Stands tasks places task done last rest answers)
    (finished : last.answer?.isSome → rest = []) (pending : task.program = .call command resume) :
    ∃ init place further, places = init ++ [place] ∧ tasks[place]? = some last ∧
      last.program = .call command further ∧ (place ∉ init → ∀ result,
        sequences.Stands (tasks.set place (last.advance command further result)) places
          (task.advance command resume result) done (last.advance command further result) rest
          answers) := by
  obtain ⟨init, ends, split, initial, final⟩ := List.map_eq_append_iff.mp
    (stands.made.trans (List.map_append ..))
  obtain ⟨place, rfl, there⟩ : ∃ place, ends = [place] ∧ tasks[place]? = some last := by
    obtain ⟨place, nothing, rfl, there, none⟩ := List.map_eq_cons_iff.mp final
    obtain rfl := List.map_eq_nil_iff.mp none
    exact ⟨place, rfl, there⟩
  have program := stands.program
  rw [pending] at program
  cases same : last.program with
  | answer value =>
    have none := finished (by simp [Task.answer?, same])
    rw [same, none] at program
    exact absurd program (by simp [goesOn_last, Program.render])
  | halt =>
    rw [same] at program
    exact absurd program (by simp [goesOn, Program.render])
  | call other further =>
    rw [same, goesOn_call] at program
    injection program with equal resumes
    subst equal
    refine ⟨init, place, further, split, there, rfl, ?_⟩
    intro apart result
    constructor
    · rw [split, List.map_append, List.map_append]
      refine congr (congrArg _ ?_) ?_
      · refine (List.map_congr_left ?_).trans initial
        intro index member
        apply List.getElem?_set_ne
        rintro rfl
        exact apart member
      · simp [List.getElem?_set_self (List.getElem?_eq_some_iff.mp there).1]
    · rw [Task.advance_request, stands.script]
      simp
    · rw [Task.advance, stands.trace]
      simp [Task.advance]
    · exact stands.answered
    · exact congrFun (eq_of_heq resumes) result

end Steps

/-- Conversations side by side with their requests: each request made is one of exactly one
conversation. -/
structure Sequences.Related (sequences : outer.Sequences inner)
    (first : State Client Command Result Output Store)
    (second : State Request Command Result Answer Store) (own : List (List Nat)) : Prop where
  store : first.store = second.store
  spread : own.length = first.tasks.length
  converses : ∀ (index : Nat) task places, first.tasks[index]? = some task →
    own[index]? = some places → sequences.Converses second.tasks places task
  covers : own.flatten.Perm (List.range second.tasks.length)

section Related

variable {sequences : outer.Sequences inner} {first : State Client Command Result Output Store}
  {second : State Request Command Result Answer Store} {own : List (List Nat)}

/-- Places that are added at the end continue those that were there, without a gap. -/
theorem range_grows {before count : Nat} {all more : List Nat}
    (covers : all.Perm (List.range before)) (added : more = List.range' before count) :
    (all ++ more).Perm (List.range (before + count)) := by
  rw [added, List.range_eq_range', ← List.range'_append_1, Nat.zero_add, ← List.range_eq_range']
  exact covers.append_right _

/-- Another list in the place of one that it continues. -/
theorem flatten_set {lists : List (List Nat)} {index : Nat} {list : List Nat}
    (there : lists[index]? = some list) (more : List Nat) :
    (lists.set index (list ++ more)).flatten.Perm (lists.flatten ++ more) := by
  induction lists generalizing index with
  | nil => exact absurd there (by simp)
  | cons first lists inductionHypothesis =>
    cases index with
    | zero =>
      obtain rfl := Option.some.inj there
      rw [List.set_cons_zero, List.flatten_cons, List.flatten_cons, List.append_assoc,
        List.append_assoc]
      exact List.Perm.append_left _ List.perm_append_comm
    | succ index =>
      rw [List.set_cons_succ, List.flatten_cons, List.flatten_cons, List.append_assoc]
      exact (inductionHypothesis there).append_left _

/-- No request belongs to two conversations, since every place is counted once. -/
theorem Sequences.Related.apart (related : sequences.Related first second own) {index other : Nat}
    {places others : List Nat} (here : own[index]? = some places) (there : own[other]? = some others)
    (different : index ≠ other) {place : Nat} (member : place ∈ places) : place ∉ others := by
  have unique : own.flatten.Nodup := related.covers.nodup_iff.mpr List.nodup_range
  obtain ⟨-, disjoint⟩ := List.nodup_flatten.mp unique
  rw [List.pairwise_iff_getElem] at disjoint
  obtain ⟨inside, rfl⟩ := List.getElem?_eq_some_iff.mp here
  obtain ⟨within, rfl⟩ := List.getElem?_eq_some_iff.mp there
  intro both
  cases Nat.lt_or_gt_of_ne different with
  | inl before => exact disjoint index other inside within before member both
  | inr after => exact disjoint other index within inside after both member

/-- No request belongs to one conversation twice, for the same reason. -/
theorem Sequences.Related.unique (related : sequences.Related first second own) {index : Nat}
    {places : List Nat} (here : own[index]? = some places) : places.Nodup := by
  have unique : own.flatten.Nodup := related.covers.nodup_iff.mpr List.nodup_range
  exact (List.nodup_flatten.mp unique).1 places (List.mem_of_getElem? here)

/-- A conversation begins with its first request, which is accepted at the end of the tasks.
-/
theorem Sequences.Related.start (related : sequences.Related first second own) (client : Client) :
    ∃ actions own', sequences.Related (outer.step first (.start client)) (inner.run second actions)
      own' := by
  obtain ⟨request, rest, script⟩ := List.exists_cons_of_ne_nil (sequences.spoken client)
  let accepted : State Request Command Result Answer Store :=
    inner.step second (.start request)
  have stands : sequences.Stands accepted.tasks [second.tasks.length] (outer.accept client) []
      (inner.accept request) rest [] := by
    constructor
    · simp [accepted, step]
    · simpa [accept] using script
    · simp [accept]
    · rfl
    · change outer.handler client = _
      rw [sequences.handler, script, inTurn_cons]
      rfl
  obtain ⟨actions, fresh, ran, converses⟩ := stands.settle accepted
  have grown : accepted.tasks.length = second.tasks.length + 1 := by simp [accepted, step]
  refine ⟨.start request :: actions,
    own ++ [second.tasks.length :: List.range' accepted.tasks.length fresh.length], ?_⟩
  rw [run_cons]
  change sequences.Related _ (inner.run accepted actions) _
  rw [ran]
  constructor
  · exact related.store
  · simp [step, related.spread]
  · intro index task places present found
    change (first.tasks ++ [outer.accept client])[index]? = some task at present
    by_cases earlier : index < first.tasks.length
    · rw [List.getElem?_append_left earlier] at present
      rw [List.getElem?_append_left (related.spread ▸ earlier)] at found
      have before := related.converses index task places present found
      change sequences.Converses ((second.tasks ++ [inner.accept request]) ++ fresh) places task
      exact (before.later _).later fresh
    · have inside := (List.getElem?_eq_some_iff.mp present).1
      obtain rfl : index = first.tasks.length := by
        rw [List.length_append, List.length_singleton] at inside
        omega
      rw [List.getElem?_concat_length] at present
      rw [← related.spread, List.getElem?_concat_length] at found
      obtain rfl := Option.some.inj present
      obtain rfl := Option.some.inj found
      exact converses
  · rw [List.flatten_append, List.flatten_singleton]
    have more : second.tasks.length :: List.range' accepted.tasks.length fresh.length =
        List.range' second.tasks.length (fresh.length + 1) := by
      rw [grown, List.range'_succ]
    have covers := range_grows related.covers more
    have total : (accepted.tasks ++ fresh).length = second.tasks.length + (fresh.length + 1) := by
      rw [List.length_append, grown]
      omega
    rw [total]
    exact covers

/-- Where nothing happens in the conversations, nothing needs to happen among the requests. -/
theorem Sequences.Related.idle (related : sequences.Related first second own)
    {next : State Client Command Result Output Store} (same : next = first) :
    ∃ actions own', sequences.Related next (inner.run second actions) own' :=
  ⟨[], own, same ▸ related⟩

/-- A conversation goes on by a command of its last request; if that answers, the next one is
accepted too. -/
theorem Sequences.Related.proceed (related : sequences.Related first second own) (index : Nat)
    (choice : Choice) :
    ∃ actions own', sequences.Related (outer.step first (.proceed index choice))
      (inner.run second actions) own' := by
  cases present : first.tasks[index]? with
  | none => exact related.idle (step_absent outer first index choice present)
  | some task =>
    cases pending : task.program with
    | answer value => exact related.idle (by simp [step, present, pending])
    | halt => exact related.idle (by simp [step, present, pending])
    | call command resume =>
      obtain ⟨inside, -⟩ := List.getElem?_eq_some_iff.mp present
      obtain ⟨places, here⟩ : ∃ places, own[index]? = some places :=
        ⟨_, List.getElem?_eq_getElem (related.spread ▸ inside)⟩
      obtain ⟨done, last, rest, answers, stands, finished⟩ :=
        related.converses index task places present here
      obtain ⟨init, place, further, split, there, same, moved⟩ := stands.advance finished pending
      have unique := related.unique here
      have apart : place ∉ init := by
        rw [split] at unique
        intro member
        exact (List.nodup_append.mp unique).2.2 place member place (List.mem_singleton_self place) rfl
      let result := (inner.perform command choice second.store).1
      let middle : State Request Command Result Answer Store :=
        { store := (inner.perform command choice second.store).2
          tasks := second.tasks.set place (last.advance command further result) }
      have executed : inner.step second (.proceed place choice) = middle := by
        simp [step, there, same, middle, result]
      have outside : outer.step first (.proceed index choice) =
          { store := middle.store
            tasks := first.tasks.set index (task.advance command resume result) } := by
        simp [step, present, pending, middle, result, sequences.perform, related.store]
      obtain ⟨actions, fresh, ran, converses⟩ := (moved apart result).settle middle
      have counted : middle.tasks.length = second.tasks.length := List.length_set
      refine ⟨.proceed place choice :: actions,
        own.set index (places ++ List.range' middle.tasks.length fresh.length), ?_⟩
      rw [run_cons, executed, ran, outside]
      constructor
      · rfl
      · rw [List.length_set, List.length_set, related.spread]
      · intro other client others found made
        by_cases own : index = other
        · subst own
          rw [List.getElem?_set_self inside] at found
          rw [List.getElem?_set_self (related.spread ▸ inside)] at made
          obtain rfl := Option.some.inj found
          obtain rfl := Option.some.inj made
          exact converses
        · rw [List.getElem?_set_ne own] at found made
          apply Converses.later
          apply (related.converses other client others found made).elsewhere
          intro position member
          apply List.getElem?_set_ne
          rintro rfl
          exact related.apart made here (Ne.symm own) member (by simp [split])
      · refine (flatten_set here _).trans ?_
        change (own.flatten ++ _).Perm (List.range (middle.tasks ++ fresh).length)
        rw [List.length_append, counted]
        exact range_grows related.covers rfl

/-- For every run of the conversations there is a run of the requests, action by action. -/
theorem Sequences.run (sequences : outer.Sequences inner) (store : Store)
    (actions : List (Action Client Choice)) :
    ∃ turns : List (List (Action Request Choice)), turns.length = actions.length ∧
      ∀ count ≤ actions.length, ∃ own,
        sequences.Related (outer.run (idleState store) (actions.take count))
          (inner.run (idleState store) (turns.take count).flatten) own := by
  induction actions using List.reverseRecOn with
  | nil =>
    refine ⟨[], rfl, fun count none => ⟨[], ?_⟩⟩
    rw [List.take_nil, List.take_nil]
    constructor
    · rfl
    · rfl
    · exact fun index task places present => absurd present (by simp)
    · rfl
  | append_singleton actions action inductionHypothesis =>
    obtain ⟨turns, lengths, earlier⟩ := inductionHypothesis
    obtain ⟨own, related⟩ := earlier actions.length (Nat.le_refl _)
    rw [List.take_length, ← lengths, List.take_length] at related
    have stepped : ∃ turn own', sequences.Related
        (outer.step (outer.run (idleState store) actions) action)
        (inner.run (inner.run (idleState store) turns.flatten) turn) own' := by
      cases action with
      | start client => exact related.start client
      | proceed index choice => exact related.proceed index choice
    obtain ⟨turn, own', last⟩ := stepped
    refine ⟨turns ++ [turn], by simp [lengths], ?_⟩
    intro count within
    by_cases before : count ≤ actions.length
    · rw [List.take_append_of_le_length before, List.take_append_of_le_length (lengths ▸ before)]
      exact earlier count before
    · rw [List.length_append, List.length_singleton] at within
      rw [List.take_of_length_le (by simp; omega), List.take_of_length_le (by simp [lengths]; omega),
        List.flatten_append, List.flatten_singleton, run_append, run_append]
      exact ⟨own', last⟩

/-- What a conversation consists of: requests from the front of its script, each of which was
answered before the next was made. Once it has ended, it has made them all, and says what
it makes of their answers. -/
structure Sequences.Consists (sequences : outer.Sequences inner)
    (tasks : List (Task Request Command Result Answer)) (places : List Nat)
    (task : Task Client Command Result Output)
    (served : List (Task Request Command Result Answer)) : Prop where
  made : places.map (fun place => tasks[place]?) = served.map some
  script : served.map (·.request) <+: sequences.script task.request
  trace : task.trace = (served.map (·.trace)).flatten
  answered : ∀ earlier ∈ served.dropLast, earlier.answer?.isSome
  ended : ∀ said, task.answer? = some said →
    served.map (·.request) = sequences.script task.request ∧ ∃ answers,
      served.map (·.answer?) = answers.map some ∧ said = sequences.form task.request answers

/-- A conversation that has ended consists of the requests it has made, with their answers in
their order. -/
theorem Sequences.Converses.consists {tasks : List (Task Request Command Result Answer)}
    {places : List Nat} {task : Task Client Command Result Output}
    (converses : sequences.Converses tasks places task) :
    ∃ served, sequences.Consists tasks places task served := by
  obtain ⟨done, last, rest, answers, stands, finished⟩ := converses
  refine ⟨done ++ [last], stands.made, ⟨rest, stands.script.symm⟩, stands.trace, ?_, ?_⟩
  · intro earlier member
    rw [List.dropLast_concat] at member
    have some : earlier.answer? ∈ answers.map some := by
      rw [← stands.answered]
      exact List.mem_map_of_mem member
    obtain ⟨answer, -, same⟩ := List.mem_map.mp some
    rw [← same]
    rfl
  · intro said ends
    have program := stands.program
    rw [(task.answer_some said).mp ends] at program
    cases same : last.program with
    | answer value =>
      have none := finished (by simp [Task.answer?, same])
      rw [same, none] at program
      refine ⟨?_, answers ++ [value], ?_, Program.answer.inj program⟩
      · rw [stands.script, none, List.append_nil]
      · rw [List.map_append, stands.answered]
        simp [Task.answer?, same]
    | halt =>
      rw [same] at program
      exact absurd program (by simp [goesOn, Program.render])
    | call command resume =>
      rw [same, goesOn_call] at program
      exact absurd program (by simp [Program.render])

end Related

end Service

end Interleaving
