import ShoppingCS.Auth.Tokens

/-!
# One command of a running service

Several services run over the same stores: the authentication server, and the
calls of its session service by themselves. A move of such a service executes the
pending command of one of its requests. What has been drawn and stored is read
off the traces, so it only grows, and it grows by what the command draws or
stores.
-/

namespace ShoppingCS.Auth

open Interleaving Program Storage

variable {Asked Said : Type}

/-- The requests of a service over the two stores. The server itself and the session service
by itself are two such services. -/
abbrev Running (Asked Said : Type) := State Asked Command Command.Result Said Store

/-- The request at a place has drawn a token, at some time in its trace and whatever it has
done with it since. -/
def Drew (state : Running Asked Said) (index : Nat) (token : String) : Prop :=
  ∃ task, state.tasks[index]? = some task ∧ token ∈ drawn task.trace

/-- The request at a place has stored a session. The session may have been deleted in the
meantime. -/
def Kept (state : Running Asked Said) (index : Nat) (session : Session) : Prop :=
  ∃ task, state.tasks[index]? = some task ∧ session ∈ stored task.trace

/-- A request has deleted the key of a token, whether or not there was anything under it. -/
def Deleted (state : Running Asked Said) (token : String) : Prop :=
  ∃ task ∈ state.tasks, ∃ event ∈ task.trace, event.command.use = .deletes token

section Persistence

variable (service : Service Asked Command Command.Result Said Store Choice)
  {state : Running Asked Said} (action : Action Asked Choice)

/-- A drawn token stays drawn, since traces only grow and every request keeps its place. -/
theorem drew_step {index : Nat} {token : String} (drew : Drew state index token) :
    Drew (service.step state action) index token := by
  obtain ⟨task, present, member⟩ := drew
  obtain ⟨next, there, -, later, grown⟩ := Service.step_extends action present
  refine ⟨next, there, ?_⟩
  rw [grown, drawn_append]
  exact List.mem_append_left _ member

/-- A stored session stays stored, in the sense that the trace of its request goes on to tell
so. -/
theorem kept_step {index : Nat} {session : Session} (kept : Kept state index session) :
    Kept (service.step state action) index session := by
  obtain ⟨task, present, member⟩ := kept
  obtain ⟨next, there, -, later, grown⟩ := Service.step_extends action present
  refine ⟨next, there, ?_⟩
  rw [grown, stored_append]
  exact List.mem_append_left _ member

/-- Over a whole run, too, by induction on its actions. -/
theorem kept_run (actions : List (Action Asked Choice)) {index : Nat} {session : Session}
    (kept : Kept state index session) : Kept (service.run state actions) index session :=
  service.run_always (fun current => Kept current index session)
    (fun _ action kept => kept_step service action kept) state actions kept

/-- A deletion that has been executed stays executed, whatever the other requests do later. -/
theorem deleted_step {token : String} (deleted : Deleted state token) :
    Deleted (service.step state action) token := by
  obtain ⟨task, member, event, recorded, deletes⟩ := deleted
  obtain ⟨index, present⟩ := List.mem_iff_getElem?.mp member
  obtain ⟨next, there, -, later, grown⟩ := Service.step_extends action present
  refine ⟨next, List.mem_of_getElem? there, event, ?_, deletes⟩
  rw [grown]
  exact List.mem_append_left _ recorded

end Persistence

section Accepted

variable {service : Service Asked Command Command.Result Said Store Choice}
  {state : Running Asked Said} {request : Asked}

/-- A request that has just been accepted has drawn and stored nothing; its trace is empty. -/
theorem accepted_idle (service : Service Asked Command Command.Result Said Store Choice)
    (request : Asked) : (service.accept request).trace = [] := rfl

/-- Whoever has executed something was there before a request was accepted, since the new one
has executed nothing. -/
theorem accepted_recorded {task : Task Asked Command Command.Result Said}
    (member : task ∈ (service.step state (.start request)).tasks)
    {event : Event Command Command.Result} (recorded : event ∈ task.trace) : task ∈ state.tasks := by
  cases List.mem_append.mp member with
  | inl member => exact member
  | inr member =>
    obtain rfl := List.mem_singleton.mp member
    simp [accepted_idle] at recorded

/-- Accepting a request adds no drawn token. Who has drawn it was there before, at the same
place. -/
theorem drew_accepted {index : Nat} {token : String}
    (drew : Drew (service.step state (.start request)) index token) : Drew state index token := by
  obtain ⟨task, present, member⟩ := drew
  rcases Service.step_task _ present with before | ⟨_, -, -, rfl⟩ | ⟨_, _, _, _, other, -⟩
  · exact ⟨task, before, member⟩
  · simp [accepted_idle] at member
  · simp at other

/-- Nor a stored session, for the same reason. -/
theorem kept_accepted {index : Nat} {session : Session}
    (kept : Kept (service.step state (.start request)) index session) :
    Kept state index session := by
  obtain ⟨task, present, member⟩ := kept
  rcases Service.step_task _ present with before | ⟨_, -, -, rfl⟩ | ⟨_, _, _, _, other, -⟩
  · exact ⟨task, before, member⟩
  · simp [accepted_idle] at member
  · simp at other

end Accepted

/-- A request executes its pending command, and no store fails. All that the proofs about
sessions use of such a step stands here, so that they need not unfold the service. -/
structure Move (bcrypt : Bcrypt) (service : Service Asked Command Command.Result Said Store Choice)
    (state next : Running Asked Said) (index : Nat) (choice : Choice)
    (task : Task Asked Command Command.Result Said) (command : Command) : Prop where
  steps : next = service.step state (.proceed index choice)
  present : state.tasks[index]? = some task
  unanswered : task.answer? = none
  disciplined : command.use ≠ .foreign
  works : choice.failure = none
  store : next.store = (perform bcrypt command choice state.store).2
  scheduled : ∃ after : Task Asked Command Command.Result Said,
    next.tasks = state.tasks.set index after ∧ after.request = task.request ∧
      after.trace = task.trace ++ [⟨command, (perform bcrypt command choice state.store).1⟩]

namespace Move

variable {bcrypt : Bcrypt} {service : Service Asked Command Command.Result Said Store Choice}
  {state next : Running Asked Said} {index : Nat} {choice : Choice}
  {task : Task Asked Command Command.Result Said} {command : Command}

/-- The request that moves is one of the requests of the state. -/
theorem member (move : Move bcrypt service state next index choice task command) :
    task ∈ state.tasks := List.mem_of_getElem? move.present

/-- The place after the move holds the same request, with the new event at the end of its
trace. -/
theorem moved (move : Move bcrypt service state next index choice task command) :
    ∃ after, next.tasks[index]? = some after ∧ after.request = task.request ∧
      after.trace = task.trace ++ [⟨command, (perform bcrypt command choice state.store).1⟩] := by
  obtain ⟨after, tasks, asked, trace⟩ := move.scheduled
  obtain ⟨inside, -⟩ := List.getElem?_eq_some_iff.mp move.present
  exact ⟨after, by rw [tasks, List.getElem?_set_self inside], asked, trace⟩

/-- The new event is recorded in the trace of a request of the next state. -/
theorem recorded (move : Move bcrypt service state next index choice task command) :
    ∃ after ∈ next.tasks,
      ⟨command, (perform bcrypt command choice state.store).1⟩ ∈ after.trace := by
  obtain ⟨after, there, -, trace⟩ := move.moved
  exact ⟨after, List.mem_of_getElem? there, by simp [trace]⟩

/-- Every event is an old one of the same request, or the new one. -/
theorem events (move : Move bcrypt service state next index choice task command)
    {other : Task Asked Command Command.Result Said} (member : other ∈ next.tasks)
    {event : Event Command Command.Result} (recorded : event ∈ other.trace) :
    (∃ before ∈ state.tasks, before.request = other.request ∧ event ∈ before.trace) ∨
      (event = ⟨command, (perform bcrypt command choice state.store).1⟩ ∧
        other.request = task.request) := by
  obtain ⟨after, tasks, asked, trace⟩ := move.scheduled
  rw [tasks] at member
  rcases List.mem_or_eq_of_mem_set member with old | rfl
  · exact Or.inl ⟨other, old, rfl, recorded⟩
  · rw [trace] at recorded
    cases List.mem_append.mp recorded with
    | inl recorded => exact Or.inl ⟨task, move.member, asked.symm, recorded⟩
    | inr recorded => exact Or.inr ⟨List.mem_singleton.mp recorded, asked⟩

/-- Nobody asks for anything new: a request after the move was there before it and has asked
for the same. -/
theorem requests (move : Move bcrypt service state next index choice task command)
    {other : Task Asked Command Command.Result Said} (member : other ∈ next.tasks) :
    ∃ before ∈ state.tasks, before.request = other.request := by
  obtain ⟨after, tasks, asked, -⟩ := move.scheduled
  rw [tasks] at member
  rcases List.mem_or_eq_of_mem_set member with old | rfl
  · exact ⟨other, old, rfl⟩
  · exact ⟨task, move.member, asked.symm⟩

/-- A token was drawn before, or is drawn now by the request that moves, and then it is the
one that the choice gives. -/
theorem drew (move : Move bcrypt service state next index choice task command)
    {place : Nat} {token : String} (drew : Drew next place token) :
    Drew state place token ∨ (place = index ∧ command = .generateToken ∧
      ∃ drawn : GeneratedToken, choice.token = .ok drawn ∧ drawn.val = token) := by
  obtain ⟨other, present, member⟩ := drew
  obtain ⟨after, tasks, asked, trace⟩ := move.scheduled
  rw [tasks] at present
  rcases set_lookup present with ⟨rfl, rfl⟩ | ⟨-, earlier⟩
  · rw [trace, drawn_append] at member
    cases List.mem_append.mp member with
    | inl member => exact Or.inl ⟨task, move.present, member⟩
    | inr member =>
      obtain ⟨event, recorded, draws⟩ := List.mem_filterMap.mp member
      obtain rfl := List.mem_singleton.mp recorded
      obtain ⟨token', same, value⟩ := drawnBy_some draws
      obtain ⟨rfl, result⟩ := Event.mk.inj same
      exact Or.inr ⟨rfl, rfl, token', eq_of_heq result, value⟩
  · exact Or.inl ⟨other, earlier, member⟩

/-- A session was stored before, or is stored now by the command of the request that moves. -/
theorem kept (move : Move bcrypt service state next index choice task command)
    {place : Nat} {session : Session} (kept : Kept next place session) :
    Kept state place session ∨ (place = index ∧ command.use = .stores session) := by
  obtain ⟨other, present, member⟩ := kept
  obtain ⟨after, tasks, asked, trace⟩ := move.scheduled
  rw [tasks] at present
  rcases set_lookup present with ⟨rfl, rfl⟩ | ⟨-, earlier⟩
  · rw [trace, stored_append] at member
    cases List.mem_append.mp member with
    | inl member => exact Or.inl ⟨task, move.present, member⟩
    | inr member =>
      obtain ⟨event, recorded, stores⟩ := List.mem_filterMap.mp member
      obtain rfl := List.mem_singleton.mp recorded
      exact Or.inr ⟨rfl, storedBy_some stores move.disciplined⟩
  · exact Or.inl ⟨other, earlier, member⟩

/-- Stored sessions stay stored, by the lemma about steps in general. -/
theorem kept_mono (move : Move bcrypt service state next index choice task command)
    {place : Nat} {session : Session} (kept : Kept state place session) : Kept next place session := by
  rw [move.steps]
  exact kept_step service _ kept

/-- A session that is stored now is stored by the request that moves. -/
theorem keeps (move : Move bcrypt service state next index choice task command)
    {session : Session} (stores : command.use = .stores session) : Kept next index session := by
  obtain ⟨expiration, rfl⟩ := stores_command stores
  obtain ⟨after, there, -, trace⟩ := move.moved
  refine ⟨after, there, ?_⟩
  rw [trace, stored_append]
  apply List.mem_append_right _
  simp [stored, storedBy, perform, move.works, Redis.execute]

/-- The deleted keys are the old ones, and the one that is deleted now. -/
theorem deleted (move : Move bcrypt service state next index choice task command)
    {token : String} : Deleted next token ↔ Deleted state token ∨ command.use = .deletes token := by
  constructor
  · rintro ⟨other, member, event, recorded, deletes⟩
    rcases move.events member recorded with ⟨before, old, -, earlier⟩ | ⟨rfl, -⟩
    · exact Or.inl ⟨before, old, event, earlier, deletes⟩
    · exact Or.inr deletes
  · rintro (earlier | deletes)
    · rw [move.steps]
      exact deleted_step service _ earlier
    · obtain ⟨after, inside, recorded⟩ := move.recorded
      exact ⟨after, inside, _, recorded, deletes⟩

/-- No token is drawn twice, if the moving request draws one that nobody has drawn. -/
theorem drawnOnce_moved (move : Move bcrypt service state next index choice task command)
    (once : ∀ first second token, Drew state first token → Drew state second token →
      first = second)
    (new : command = .generateToken → ∀ token, choice.token = .ok token →
      ∀ other ∈ state.tasks, token.val ∉ drawn other.trace)
    (first second : Nat) (token : String) (drew : Drew next first token)
    (again : Drew next second token) : first = second := by
  have conflict {place : Nat} {drawn' : GeneratedToken} (earlier : Drew state place token)
      (draws : command = .generateToken) (fresh : choice.token = .ok drawn')
      (same : drawn'.val = token) : False := by
    obtain ⟨other, present, member⟩ := earlier
    exact new draws drawn' fresh other (List.mem_of_getElem? present) (same ▸ member)
  rcases move.drew drew with earlier | ⟨rfl, draws, token', fresh, same⟩
  · rcases move.drew again with other | ⟨rfl, draws, token', fresh, same⟩
    · exact once first second token earlier other
    · exact (conflict earlier draws fresh same).elim
  · rcases move.drew again with other | ⟨rfl, -⟩
    · exact (conflict other draws fresh same).elim
    · rfl

/-- An entry under a session key is an old one, or the one that is stored now. -/
theorem entry_moved (move : Move bcrypt service state next index choice task command)
    {token : String} {entry : Entry Key Value}
    (present : next.store.redis.table.get? (.session token) = some entry) :
    state.store.redis.table.get? (.session token) = some entry ∨
      ∃ session, command.use = .stores session ∧ session.token = token ∧
        entry.value = .string (.session session) := by
  rw [move.store] at present
  rcases (perform_session bcrypt choice state.store token command
      move.disciplined).equations with same | ⟨session, deadline, uses, rfl, stored⟩ | ⟨-, none⟩
  · exact Or.inl (same ▸ present)
  · rw [stored] at present
    obtain rfl := Option.some.inj present
    exact Or.inr ⟨session, uses, rfl, rfl⟩
  · rw [none] at present
    simp at present

/-- Whatever a request reads under the key of a token is a stored session of that
token, if the keys hold no others. -/
theorem saw_moved (move : Move bcrypt service state next index choice task command)
    (entries : ∀ token entry, state.store.redis.table.get? (.session token) = some entry →
      ∃ place session, Kept state place session ∧ session.token = token ∧
        entry.value = .string (.session session))
    (seen : ∀ other ∈ state.tasks, ∀ token session, Saw other.trace token session →
      session.token = token ∧ ∃ place, Kept state place session)
    (other : Task Asked Command Command.Result Said) (member : other ∈ next.tasks)
    (token : String) (session : Session) (saw : Saw other.trace token session) :
    session.token = token ∧ ∃ place, Kept next place session := by
  obtain ⟨text, recorded, decoded⟩ := saw
  rcases move.events member recorded with ⟨before, old, -, earlier⟩ | ⟨same, -⟩
  · obtain ⟨named, place, kept⟩ := seen before old token session ⟨text, earlier, decoded⟩
    exact ⟨named, place, move.kept_mono kept⟩
  · obtain ⟨rfl, result⟩ := Event.mk.inj same
    have read : ((state.store.wait choice).redis.execute (.get (.session token))).1 =
        .ok (some text) := by
      have read := (eq_of_heq result).symm
      simpa only [perform, move.works] using read
    obtain ⟨entry, found, value⟩ := (Redis.execute_get_text _ _ _).mp read
    obtain ⟨place, kept', kept, named, held⟩ :=
      entries token entry (ExpiringTable.find?_eq_some.mp found).1
    obtain rfl : text = .session kept' := Value.string.inj (value.symm.trans held)
    obtain rfl : kept' = session := Except.ok.inj decoded
    exact ⟨named, place, move.kept_mono kept⟩

end Move

/-- A pending command that is executed while the stores work is a move. -/
theorem move_of_pending {bcrypt : Bcrypt}
    {service : Service Asked Command Command.Result Said Store Choice}
    (performs : service.perform = perform bcrypt) {state : Running Asked Said} {index : Nat}
    {choice : Choice} {task : Task Asked Command Command.Result Said} {command : Command}
    {resume : command.Result → Handler Said} (present : state.tasks[index]? = some task)
    (pending : task.program = .call command resume) (disciplined : command.use ≠ .foreign)
    (works : choice.failure = none) :
    Move bcrypt service state
      { store := (perform bcrypt command choice state.store).2
        tasks := state.tasks.set index
          (task.advance command resume (perform bcrypt command choice state.store).1) }
      index choice task command where
  steps := by simp [Service.step, present, pending, performs]
  present := present
  unanswered := task.pending_unanswered pending
  disciplined := disciplined
  works := works
  store := rfl
  scheduled := ⟨_, rfl, rfl, rfl⟩

/-- So it is for the authentication server: the step of a request whose command is pending is
a move if the stores work. Its commands are never foreign because its handler permits none
that is. -/
theorem move_of_working {bcrypt : Bcrypt} {sessionTTL : SessionTTL} {stack : Nat} {state : AuthState}
    (traced : (authServer bcrypt sessionTTL stack).Traced state) {index : Nat} {choice : Choice}
    {task : AuthTask} {command : Command} {resume : command.Result → Handler Response}
    (present : state.tasks[index]? = some task) (pending : task.program = .call command resume)
    (works : choice.failure = none) :
    Move bcrypt (authServer bcrypt sessionTTL stack) state
      { store := (perform bcrypt command choice state.store).2
        tasks := state.tasks.set index
          (task.advance command resume (perform bcrypt command choice state.store).1) }
      index choice task command :=
  move_of_pending rfl present pending (pending_permits bcrypt sessionTTL stack traced
    (List.mem_of_getElem? present) pending).disciplined works

end ShoppingCS.Auth
