import ShoppingCS.Auth.SessionIndex

/-!
# Revoking all sessions of a user

A revocation reads the list of a user, deletes the session of every token in it,
and then deletes the list. A session that is created in between is in a list that
nobody will ever read. As long as no list is deleted that holds a session that is
still there, a revocation finds every session whose creation had returned before,
and nobody else's.

Nothing elapses meanwhile, so a session is there from the command that stores it to
the first command that deletes its key, and is accepted for as long.
-/

namespace ShoppingCS.Auth

open Interleaving Program Storage

/-- The session of a value, if it is a string that holds one. -/
def Value.session? : Value → Option Session
  | .string (.session session) => some session
  | _ => none

/-- Nothing has elapsed: every entry is live, and every session in time. The claim is about
runs of this kind only. -/
def Lasting (store : Store) : Prop :=
  ∀ entry ∈ store.redis.table.rows, entry.LiveAt store.redis.now ∧
    ∀ session ∈ entry.value.session?, store.clock ≤ session.expiresAt

instance (store : Store) : Decidable (Lasting store) :=
  inferInstanceAs (Decidable (∀ entry ∈ store.redis.table.rows, entry.LiveAt store.redis.now ∧
    ∀ session ∈ entry.value.session?, _))

/-- Whether a call only looks a session up. Such calls are not part of the runs considered
here. -/
def SessionCall.looks : SessionCall → Bool
  | .getSession _ => true
  | _ => false

/-- Nobody looks sessions up, no store fails, drawn tokens are new, no list is deleted
that holds a session that is still there, and nothing elapses. -/
def RevokesListed (bcrypt : Bcrypt) (sessionTTL : SessionTTL) (stack : Nat) (state : SessionState) :
    Action SessionCall Choice → Prop
  | .start asked => asked.looks = false
  | .proceed index choice => choice.failure = none ∧ DrawsNew state index choice ∧
      ClearsIdle state index (state.store.wait choice).redis ∧
      Lasting (state.store.wait choice) ∧
      Lasting ((sessionServer bcrypt sessionTTL stack).step state (.proceed index choice)).store

instance (bcrypt : Bcrypt) (sessionTTL : SessionTTL) (stack : Nat) (state : SessionState) :
    (action : Action SessionCall Choice) →
      Decidable (RevokesListed bcrypt sessionTTL stack state action)
  | .start asked => inferInstanceAs (Decidable (asked.looks = false))
  | .proceed index choice => inferInstanceAs (Decidable (choice.failure = none ∧
      DrawsNew state index choice ∧ ClearsIdle state index (state.store.wait choice).redis ∧
      Lasting (state.store.wait choice) ∧
      Lasting ((sessionServer bcrypt sessionTTL stack).step state (.proceed index choice)).store))

/-- The calls that mean to delete a session: those that present its token, and a revocation of
all sessions of its user. -/
def Revoking (asked : SessionCall) (session : Session) : Prop :=
  asked = .deleteSession session.token ∨ asked = .refreshSession session.token ∨
    asked = .deleteUserSessions session.userId

/-- The session is not deleted by this action: whoever means to delete it and deletes
its key finds nothing there. -/
def Spares (session : Session) (state : SessionState) : Action SessionCall Choice → Prop
  | .start _ => True
  | .proceed index _ => ∀ task ∈ state.tasks[index]?, Revoking task.request session →
      task.program.pending? = some (.redis (.delete (.session session.token))) →
        state.store.redis.table.get? (.session session.token) = none

/-- No time passes, and the stores work, which is the choice with which a session is looked up
to see whether it is accepted. -/
def instant : Choice :=
  { elapsed := 0, redisElapsed := 0, failure := none, token := .error "", userId := firstId
    salt := "" }

/-- `GetSession` returns the session of a token when it runs by itself, in no time and on
stores that work. -/
def Accepts (bcrypt : Bcrypt) (stack : Nat) (store : Store) (token : String) : Prop :=
  ∃ session later, (getSession (stack + 1) token).alone (perform bcrypt) (fun _ => instant) store =
    some (.ok session, later)

/-- The requests read only tokens of the user whose list they read, besides what complete
lists provide. -/
structure Guarded (bcrypt : Bcrypt) (sessionTTL : SessionTTL) (stack : Nat)
    (state : SessionState) : Prop where
  indexed : Indexed bcrypt sessionTTL stack state
  lookless : ∀ task ∈ state.tasks, task.request.looks = false
  read : ∀ task ∈ state.tasks, ∀ userId tokens,
    ⟨.redis (.sMembers (.userSessions userId)), .ok tokens⟩ ∈ task.trace → ∀ token ∈ tokens,
      ∃ place session, Kept state place session ∧ session.token = token ∧ session.userId = userId

section Acceptance

variable (bcrypt : Bcrypt) {store : Store} {token : String}

/-- An instant is no time, so it leaves the stores as they are. -/
@[simp] theorem wait_instant (store : Store) : store.wait instant = store := by
  simp [Store.wait, Redis.wait, instant]

/-- A lookup accepts a session that is there and in time, and no other. No nested call takes
part in an acceptance, so the room for them does not matter. -/
theorem accepts_iff (stack : Nat) :
    Accepts bcrypt stack store token ↔
      ∃ session, store.redis.lookup token = some session ∧ store.clock ≤ session.expiresAt := by
  have seen : store.seen instant token = store.redis.lookup token := by
    simp [Store.seen, instant, Store.wait, Redis.wait]
  have checked : (store.checked (fun _ => instant)) = store := by simp [Store.checked]
  unfold Accepts
  cases found : store.redis.lookup token with
  | none =>
    rw [alone_getSession_unseen bcrypt stack (seen.trans found)]
    simp
  | some session =>
    by_cases inTime : store.clock ≤ session.expiresAt
    · rw [alone_getSession_current bcrypt stack (seen.trans found) (by rwa [checked])]
      simp [inTime]
    · rw [alone_getSession_expired bcrypt stack (seen.trans found) (by rw [checked]; omega)]
      refine iff_of_false ?_ (by simp [inTime])
      rintro ⟨other, later, same⟩
      obtain ⟨outcome, -, same⟩ := Option.bind_eq_some_iff.mp same
      simp at same

variable {sessionTTL : SessionTTL} {stack : Nat} {state : SessionState}

/-- A stored session is accepted as long as its key is there, since nothing has elapsed and
the key holds that session. -/
theorem Indexed.accepts (indexed : Indexed bcrypt sessionTTL stack state)
    (lasting : Lasting state.store) {place : Nat} {session : Session}
    (kept : Kept state place session) (room : Nat) :
    Accepts bcrypt room state.store session.token ↔
      state.store.redis.table.get? (.session session.token) ≠ none := by
  rw [accepts_iff]
  constructor
  · rintro ⟨other, found, -⟩ none
    simp [Redis.lookup, Redis.find?, ExpiringTable.find?_absent none] at found
  · intro there
    obtain ⟨entry, present⟩ := Option.ne_none_iff_exists'.mp there
    obtain ⟨live, inTime⟩ := lasting entry (KeyedTable.get?_sound present).1
    obtain ⟨⟨place', other, kept', named, value⟩, -⟩ := indexed.entries _ entry present
    obtain ⟨-, rfl⟩ := indexed.keptOnce kept' kept named
    have found : state.store.redis.find? (.session other.token) = some entry :=
      Redis.find?_eq_some.mpr ⟨present, live⟩
    obtain ⟨key, _, deadline⟩ := entry
    obtain rfl := value
    exact ⟨other, by simp [Redis.lookup, found, Text.decode, Except.toOption], inTime other rfl⟩

end Acceptance

section Steps

variable {bcrypt : Bcrypt} {sessionTTL : SessionTTL} {stack : Nat} {state : SessionState}

/-- What is in the table is found while nothing has elapsed; the table may in general still
hold what is not found any more. -/
theorem Lasting.found {store : Store} (lasting : Lasting store) {key : Key} {entry : Entry Key Value}
    (present : store.redis.table.get? key = some entry) : store.redis.find? key = some entry :=
  Redis.find?_eq_some.mpr ⟨present, (lasting entry (KeyedTable.get?_sound present).1).1⟩

/-- While nothing elapses, no list is lost before it is renewed, so these runs keep the lists
complete. -/
theorem Indexed.keeps (indexed : Indexed bcrypt sessionTTL stack state)
    {action : Action SessionCall Choice}
    (revokes : RevokesListed bcrypt sessionTTL stack state action) : KeepsIndex state action := by
  cases action with
  | start asked => trivial
  | proceed index choice =>
    obtain ⟨works, new, idle, lasting, -⟩ := revokes
    refine ⟨works, new, ?_, idle⟩
    intro task member session stores added _ there
    obtain ⟨entry, found⟩ := Option.isSome_iff_exists.mp there
    obtain ⟨present, live⟩ := Redis.find?_eq_some.mp found
    have later : state.store.redis.now ≤ (state.store.wait choice).redis.now := by
      simp only [Redis.now, Store.wait, Redis.wait]
      omega
    obtain ⟨deadline, ⟨tokens, listed, -⟩, -⟩ := indexed.index task member session stores added entry
      (Redis.find?_eq_some.mpr ⟨present, live.mono later⟩)
    have kept : (state.store.wait choice).redis.table.get? (.userSessions session.userId) = some _ :=
      (Redis.find?_eq_some.mp listed).1
    simp [lasting.found kept]

/-- A list that is read is the list there is, as the store works and the key holds a list. -/
theorem Filing.reads {next : SessionState} {index : Nat} {choice : Choice} {task : SessionTask}
    {command : Command}
    (filing : Filing bcrypt sessionTTL stack state next index choice task command)
    (indexed : Indexed bcrypt sessionTTL stack state) {userId : String}
    {result : (Command.redis (.sMembers (.userSessions userId))).Result}
    (same : (⟨.redis (.sMembers (.userSessions userId)), result⟩ : Event Command Command.Result) =
      ⟨command, (perform bcrypt command choice state.store).1⟩) :
    result = .ok ((state.store.wait choice).redis.membersOf userId) := by
  obtain ⟨rfl, same⟩ := Event.mk.inj same
  have waited : Listed (state.store.wait choice).redis := indexed.listed
  rw [eq_of_heq same]
  simp only [perform, filing.works]
  exact Redis.execute_sMembers_listed waited userId

/-- Before the first call, nobody has read anything, and there are no lists to be incomplete.
-/
theorem Vacant.guarded {store : Store} (vacant : Vacant store.redis) (bcrypt : Bcrypt)
    (sessionTTL : SessionTTL) (stack : Nat) :
    Guarded bcrypt sessionTTL stack (Service.idleState store) where
  indexed := vacant.indexed bcrypt sessionTTL stack
  lookless := fun task member => absurd member (by simp)
  read := fun task member => absurd member (by simp)

/-- A step of such a run keeps all of it. What a call reads from a list is what the list
holds, which are tokens of sessions of its user. -/
theorem Guarded.step (guarded : Guarded bcrypt sessionTTL stack state)
    (positive : 0 < sessionTTL.val) (action : Action SessionCall Choice)
    (revokes : RevokesListed bcrypt sessionTTL stack state action) :
    Guarded bcrypt sessionTTL stack ((sessionServer bcrypt sessionTTL stack).step state action) where
  indexed := guarded.indexed.step positive action (guarded.indexed.keeps revokes)
  lookless := by
    intro task inside
    obtain ⟨place, present⟩ := List.mem_iff_getElem?.mp inside
    rcases Service.step_task action present with
      before | ⟨asked, rfl, -, rfl⟩ | ⟨_, before, _, _, -, there, -, rfl⟩
    · exact guarded.lookless task (List.mem_of_getElem? before)
    · exact revokes
    · exact guarded.lookless before (List.mem_of_getElem? there)
  read := by
    intro task inside userId tokens recorded token member
    have keeps := guarded.indexed.keeps revokes
    have kept {place : Nat} {session : Session} (kept : Kept state place session) :=
      kept_step (sessionServer bcrypt sessionTTL stack) action kept
    have earlier {before : SessionTask} (old : before ∈ state.tasks)
        (recorded : ⟨.redis (.sMembers (.userSessions userId)), .ok tokens⟩ ∈ before.trace) :
        ∃ place session, Kept ((sessionServer bcrypt sessionTTL stack).step state action) place session ∧
          session.token = token ∧ session.userId = userId := by
      obtain ⟨place, session, before, same⟩ :=
        guarded.read before old userId tokens recorded token member
      exact ⟨place, session, kept before, same⟩
    obtain ⟨place, present⟩ := List.mem_iff_getElem?.mp inside
    rcases Service.step_task action present with
      before | ⟨asked, rfl, -, rfl⟩ | ⟨choice, before, command, resume, rfl, there, pending, rfl⟩
    · exact earlier (List.mem_of_getElem? before) recorded
    · simp [accepted_idle] at recorded
    · rw [Task.advance_trace] at recorded
      cases List.mem_append.mp recorded with
      | inl recorded => exact earlier (List.mem_of_getElem? there) recorded
      | inr recorded =>
        have filing := filing_of_keeps guarded.indexed.traced there pending keeps
        have read := filing.reads guarded.indexed (List.mem_singleton.mp recorded)
        obtain rfl := Except.ok.inj read
        obtain ⟨list, tokens, found, value, inside⟩ := Redis.mem_membersOf member
        obtain ⟨place, session, before, same⟩ := guarded.indexed.members userId list tokens
          (Redis.find?_eq_some.mp found).1 value token inside
        exact ⟨place, session, kept before, same⟩

/-- So does a run, with the condition met by each of its steps. -/
theorem Guarded.run (guarded : Guarded bcrypt sessionTTL stack state)
    (positive : 0 < sessionTTL.val) (actions : List (Action SessionCall Choice))
    (revokes : (sessionServer bcrypt sessionTTL stack).Along (RevokesListed bcrypt sessionTTL stack)
      state actions) :
    Guarded bcrypt sessionTTL stack ((sessionServer bcrypt sessionTTL stack).run state actions) :=
  (sessionServer bcrypt sessionTTL stack).run_invariant (Guarded bcrypt sessionTTL stack)
    (fun _ action guarded revokes => guarded.step positive action revokes) state actions guarded
    revokes

/-- The key of a stored session that is gone stays gone: its token is not drawn again, so
nobody stores a session under it. -/
theorem Indexed.gone_step (indexed : Indexed bcrypt sessionTTL stack state)
    {action : Action SessionCall Choice} (keeps : KeepsIndex state action) {place : Nat}
    {session : Session} (kept : Kept state place session)
    (gone : state.store.redis.table.get? (.session session.token) = none) :
    ((sessionServer bcrypt sessionTTL stack).step state action).store.redis.table.get?
      (.session session.token) = none := by
  generalize after : (sessionServer bcrypt sessionTTL stack).step state action = next
  have transition : (sessionServer bcrypt sessionTTL stack).Transition state action next :=
    after ▸ (sessionServer bcrypt sessionTTL stack).step_transition state action
  cases transition with
  | started asked => exact gone
  | idle index choice nothing => exact gone
  | proceeded index choice task command resume present pending =>
    have filing := filing_of_keeps indexed.traced present pending keeps
    rcases filing.key_kept indexed kept with same | ⟨-, none⟩
    · exact same.trans gone
    · exact none

end Steps

section Revocation

variable {bcrypt : Bcrypt} {sessionTTL : SessionTTL} {stack : Nat} {state : SessionState}

/-- A revocation in progress will find the session: if it has read the list, the
session was in it or is gone, and if it has deleted its key, it is gone. -/
structure Finds (state : SessionState) (place : Nat) (session : Session) : Prop where
  created : ∃ task ∈ state.tasks, session ∈ stored task.trace ∧ Added task.trace session
  asked : ∃ task, state.tasks[place]? = some task ∧
    task.request = .deleteUserSessions session.userId
  listed : ∀ task ∈ state.tasks[place]?,
    ∀ reply : (Command.redis (.sMembers (.userSessions session.userId))).Result,
      ⟨.redis (.sMembers (.userSessions session.userId)), reply⟩ ∈ task.trace →
        state.store.redis.table.get? (.session session.token) = none ∨
          ∃ tokens, reply = .ok tokens ∧ session.token ∈ tokens
  deleted : ∀ task ∈ state.tasks[place]?, ∀ event ∈ task.trace,
    event.command.use = .deletes session.token →
      state.store.redis.table.get? (.session session.token) = none

/-- What has been created stays created, in the trace of the call that has created it. -/
theorem Finds.kept {place : Nat} {session : Session} (finds : Finds state place session) :
    ∃ index, Kept state index session := by
  obtain ⟨task, member, stores, -⟩ := finds.created
  obtain ⟨index, present⟩ := List.mem_iff_getElem?.mp member
  exact ⟨index, task, present, stores⟩

/-- Every step keeps what the revocation will find. When it reads the list, the list is
complete; when it deletes a key, that key is gone and stays so. -/
theorem Finds.step {place : Nat} {session : Session} (finds : Finds state place session)
    (guarded : Guarded bcrypt sessionTTL stack state) {action : Action SessionCall Choice}
    (revokes : RevokesListed bcrypt sessionTTL stack state action) :
    Finds ((sessionServer bcrypt sessionTTL stack).step state action) place session where
  created := by
    obtain ⟨task, member, stores, added⟩ := finds.created
    obtain ⟨index, present⟩ := List.mem_iff_getElem?.mp member
    obtain ⟨next, there, -, later, grown⟩ := Service.step_extends action present
    refine ⟨next, List.mem_of_getElem? there, ?_, grown ▸ added.append later⟩
    rw [grown, stored_append]
    exact List.mem_append_left _ stores
  asked := by
    obtain ⟨revoker, present, asked⟩ := finds.asked
    obtain ⟨next, there, same, -⟩ := Service.step_extends action present
    exact ⟨next, there, same.trans asked⟩
  listed := by
    intro task present reply recorded
    have keeps := guarded.indexed.keeps revokes
    obtain ⟨index, kept⟩ := finds.kept
    have gone := guarded.indexed.gone_step keeps kept
    rcases Service.step_task action present with
      before | ⟨asked, rfl, -, rfl⟩ | ⟨choice, before, command, resume, rfl, there, pending, rfl⟩
    · exact (finds.listed task before reply recorded).imp gone id
    · simp [accepted_idle] at recorded
    rw [Task.advance_trace] at recorded
    rcases List.mem_append.mp recorded with recorded | recorded
    · exact (finds.listed before there reply recorded).imp gone id
    have filing := filing_of_keeps guarded.indexed.traced there pending keeps
    have read := filing.reads guarded.indexed (List.mem_singleton.mp recorded)
    cases held : state.store.redis.table.get? (.session session.token) with
    | none => exact Or.inl (gone held)
    | some entry =>
      have waiting : (state.store.wait choice).redis.table.get? (.session session.token) =
          some entry := held
      obtain ⟨creator, member, stores, added⟩ := finds.created
      obtain ⟨deadline, lists, -⟩ := filing.index_waited guarded.indexed creator member session stores
        added entry (revokes.2.2.2.1.found waiting)
      exact Or.inr ⟨_, read, lists.mem⟩
  deleted := by
    intro task present event recorded deletes
    have keeps := guarded.indexed.keeps revokes
    obtain ⟨index, kept⟩ := finds.kept
    have gone := guarded.indexed.gone_step keeps kept
    rcases Service.step_task action present with
      before | ⟨asked, rfl, -, rfl⟩ | ⟨choice, before, command, resume, rfl, there, pending, rfl⟩
    · exact gone (finds.deleted task before event recorded deletes)
    · simp [accepted_idle] at recorded
    rw [Task.advance_trace] at recorded
    cases List.mem_append.mp recorded with
    | inl recorded => exact gone (finds.deleted before there event recorded deletes)
    | inr recorded =>
      obtain rfl := List.mem_singleton.mp recorded
      have filing := filing_of_keeps guarded.indexed.traced there pending keeps
      have uses : command.use = .deletes session.token := deletes
      rw [← filing.steps, filing.store, deletes_command uses]
      exact perform_delete bcrypt choice state.store session.token filing.works

/-- So does every run, together with the invariant that the step needs. -/
theorem Finds.run {place : Nat} {session : Session} (finds : Finds state place session)
    (guarded : Guarded bcrypt sessionTTL stack state) (positive : 0 < sessionTTL.val)
    (actions : List (Action SessionCall Choice))
    (revokes : (sessionServer bcrypt sessionTTL stack).Along (RevokesListed bcrypt sessionTTL stack)
      state actions) :
    Finds ((sessionServer bcrypt sessionTTL stack).run state actions) place session :=
  ((sessionServer bcrypt sessionTTL stack).run_invariant
    (fun current => Guarded bcrypt sessionTTL stack current ∧ Finds current place session)
    (fun _ action both revokes => ⟨both.1.step positive action revokes, both.2.step both.1 revokes⟩)
    state actions ⟨guarded, finds⟩ revokes).2

/-- A revocation that begins after a creation has returned will find its session, since the
session is in the list by then and the revocation has read nothing yet. -/
theorem Guarded.finds (guarded : Guarded bcrypt sessionTTL stack state) {task : SessionTask}
    (member : task ∈ state.tasks) {session : Session} (created : Created task session) :
    Finds ((sessionServer bcrypt sessionTTL stack).step state
      (.start (.deleteUserSessions session.userId))) state.tasks.length session := by
  have begun : ((sessionServer bcrypt sessionTTL stack).step state
      (.start (.deleteUserSessions session.userId))).tasks[state.tasks.length]? =
      some ((sessionServer bcrypt sessionTTL stack).accept (.deleteUserSessions session.userId)) :=
    List.getElem?_concat_length
  obtain ⟨stores, added, -⟩ := (guarded.indexed.traced.answer_admitted member
    (callSession_called sessionTTL stack task.request) created.2).created created.1 session rfl
  refine ⟨⟨task, List.mem_append_left _ member, stores, added⟩, ⟨_, begun, rfl⟩, ?_, ?_⟩
  · intro revoker present reply recorded
    obtain rfl := Option.some.inj (begun.symm.trans present)
    simp [accepted_idle] at recorded
  · intro revoker present event recorded
    obtain rfl := Option.some.inj (begun.symm.trans present)
    simp [accepted_idle] at recorded

/-- When the revocation has returned, the session is gone: it was gone when the list was read,
or its token was in the list and its key has been deleted. -/
theorem Finds.revoked {place : Nat} {session : Session} (finds : Finds state place session)
    (traced : (sessionServer bcrypt sessionTTL stack).Traced state) {revoker : SessionTask}
    (present : state.tasks[place]? = some revoker) (returned : revoker.answer?.isSome) :
    state.store.redis.table.get? (.session session.token) = none := by
  obtain ⟨task, there, asked⟩ := finds.asked
  obtain rfl : revoker = task := Option.some.inj (present.symm.trans there)
  obtain ⟨value, answered⟩ := Option.isSome_iff_exists.mp returned
  obtain ⟨reply, recorded, all⟩ := (traced.answer_admitted (List.mem_of_getElem? present)
    (callSession_called sessionTTL stack revoker.request) answered).revoked _ asked
  rcases finds.listed revoker present reply recorded with gone | ⟨tokens, read, inside⟩
  · exact gone
  · obtain ⟨event, executed, deletes⟩ := all tokens read session.token inside
    exact finds.deleted revoker present event executed deletes

end Revocation

section Deletion

variable {bcrypt : Bcrypt} {sessionTTL : SessionTTL} {stack : Nat} {state : SessionState}
  {session : Session}

/-- Nobody has stored a session of the token yet, and its key is empty. -/
def Unborn (state : SessionState) (token : String) : Prop :=
  (∀ place other, Kept state place other → other.token ≠ token) ∧
    state.store.redis.table.get? (.session token) = none

/-- Whoever deletes the key of a session that is there means to: it presents the token, or has
read it from the list of the user it revokes. -/
theorem Guarded.revoking (guarded : Guarded bcrypt sessionTTL stack state) {place : Nat}
    (kept : Kept state place session) {task : SessionTask} (member : task ∈ state.tasks)
    {command : Command} (allowed : CallAllowed sessionTTL task.request task.trace command)
    (deletes : command.use = .deletes session.token) : Revoking task.request session := by
  rcases allowed.deletes session.token deletes with presents | ⟨userId, tokens, asked, inside, read⟩
  · have lookless := guarded.lookless task member
    cases asked : task.request with
    | getSession token => simp [asked, SessionCall.looks] at lookless
    | deleteSession token =>
      obtain rfl : token = session.token := by simpa [asked, SessionCall.token?] using presents
      exact Or.inl rfl
    | refreshSession token =>
      obtain rfl : token = session.token := by simpa [asked, SessionCall.token?] using presents
      exact Or.inr (Or.inl rfl)
    | createSession user => simp [asked, SessionCall.token?] at presents
    | deleteUserSessions userId => simp [asked, SessionCall.token?] at presents
  · obtain ⟨other, owned, kept', same, owner⟩ :=
      guarded.read task member userId tokens read session.token inside
    obtain ⟨-, rfl⟩ := guarded.indexed.keptOnce kept' kept same
    rw [asked, ← owner]
    exact Or.inr (Or.inr rfl)

/-- A session that is there stays there, or a call that means to delete it does. -/
theorem Guarded.present_step (guarded : Guarded bcrypt sessionTTL stack state)
    {action : Action SessionCall Choice}
    (revokes : RevokesListed bcrypt sessionTTL stack state action) {place : Nat}
    (kept : Kept state place session)
    (there : state.store.redis.table.get? (.session session.token) ≠ none) :
    ((sessionServer bcrypt sessionTTL stack).step state action).store.redis.table.get?
      (.session session.token) ≠ none ↔ Spares session state action := by
  have keeps := guarded.indexed.keeps revokes
  generalize after : (sessionServer bcrypt sessionTTL stack).step state action = next
  have transition : (sessionServer bcrypt sessionTTL stack).Transition state action next :=
    after ▸ (sessionServer bcrypt sessionTTL stack).step_transition state action
  cases transition with
  | started asked => exact iff_of_true there trivial
  | idle index choice nothing =>
    apply iff_of_true there
    intro task present _ pending
    obtain ⟨resume, waits⟩ := Program.pending?_eq_some.mp pending
    exact absurd waits (nothing task present _ resume)
  | proceeded index choice task command resume present pending =>
    have filing := filing_of_keeps guarded.indexed.traced present pending keeps
    rcases filing.key_kept guarded.indexed kept with same | ⟨deletes, none⟩
    · refine iff_of_true (fun gone => there (same.symm.trans gone)) ?_
      intro other found _ waits
      obtain rfl : task = other := Option.some.inj (present.symm.trans found)
      obtain rfl : command = .redis (.delete (.session session.token)) := by
        simpa [pending] using waits
      have gone := perform_delete bcrypt choice state.store session.token filing.works
      exact absurd (same.symm.trans gone) there
    · refine iff_of_false (fun still => still none) (fun spares => there ?_)
      obtain rfl := deletes_command deletes
      exact spares task present (guarded.revoking kept filing.member filing.allowed deletes)
        (by simp [pending])

/-- An unborn session is stored, or stays unborn; nothing else makes its key hold anything. -/
theorem Guarded.unborn_step (guarded : Guarded bcrypt sessionTTL stack state)
    {action : Action SessionCall Choice}
    (revokes : RevokesListed bcrypt sessionTTL stack state action) {token : String}
    (unborn : Unborn state token) :
    Unborn ((sessionServer bcrypt sessionTTL stack).step state action) token ∨
      (((sessionServer bcrypt sessionTTL stack).step state action).store.redis.table.get?
          (.session token) ≠ none ∧
        ∃ place other, Kept ((sessionServer bcrypt sessionTTL stack).step state action) place other ∧
          other.token = token) := by
  have keeps := guarded.indexed.keeps revokes
  cases action with
  | start asked =>
    exact Or.inl ⟨fun place other kept => unborn.1 place other (kept_accepted kept), unborn.2⟩
  | proceed index choice =>
    generalize after : (sessionServer bcrypt sessionTTL stack).step state (.proceed index choice) = next
    have transition : (sessionServer bcrypt sessionTTL stack).Transition state _ next :=
      after ▸ (sessionServer bcrypt sessionTTL stack).step_transition state _
    cases transition with
    | idle index choice nothing => exact Or.inl unborn
    | proceeded index choice task command resume present pending =>
      have filing := filing_of_keeps guarded.indexed.traced present pending keeps
      by_cases stores : ∃ other, command.use = .stores other ∧ other.token = token
      · obtain ⟨other, uses, rfl⟩ := stores
        obtain ⟨expiration, rfl⟩ := stores_command uses
        refine Or.inr ⟨?_, index, other, filing.keeps uses, rfl⟩
        change (perform bcrypt _ choice state.store).2.redis.table.get? _ ≠ none
        simp [perform, filing.works, Redis.execute, Redis.get?_put]
      · refine Or.inl ⟨?_, ?_⟩
        · intro place other kept same
          rcases filing.kept kept with earlier | ⟨-, uses⟩
          · exact unborn.1 place other earlier same
          · exact stores ⟨other, uses, same⟩
        · rcases (perform_session bcrypt choice state.store token command
              filing.disciplined).equations with same | ⟨other, -, uses, named, -⟩ | ⟨-, none⟩
          · exact same.trans unborn.2
          · exact absurd ⟨other, uses, named⟩ stores
          · exact none

/-- A session that is there is there after a run exactly if the run spares it. -/
theorem Guarded.present_run (guarded : Guarded bcrypt sessionTTL stack state)
    (positive : 0 < sessionTTL.val) (actions : List (Action SessionCall Choice))
    (revokes : (sessionServer bcrypt sessionTTL stack).Along (RevokesListed bcrypt sessionTTL stack)
      state actions) {place : Nat} (kept : Kept state place session)
    (there : state.store.redis.table.get? (.session session.token) ≠ none) :
    ((sessionServer bcrypt sessionTTL stack).run state actions).store.redis.table.get?
      (.session session.token) ≠ none ↔
        (sessionServer bcrypt sessionTTL stack).Along (Spares session) state actions := by
  induction actions generalizing state with
  | nil => exact iff_of_true there trivial
  | cons action actions inductionHypothesis =>
    have next := guarded.step positive action revokes.1
    have still := kept_step (sessionServer bcrypt sessionTTL stack) action kept
    have one := guarded.present_step revokes.1 kept there
    by_cases lives : ((sessionServer bcrypt sessionTTL stack).step state action).store.redis.table.get?
        (.session session.token) = none
    · -- once it is gone it stays gone
      refine iff_of_false (fun back => back ?_) (fun spares => one.mpr spares.1 lives)
      exact ((sessionServer bcrypt sessionTTL stack).run_invariant
        (fun current => Guarded bcrypt sessionTTL stack current ∧ Kept current place session ∧
          current.store.redis.table.get? (.session session.token) = none)
        (fun current action both revokes => ⟨both.1.step positive action revokes,
          kept_step (sessionServer bcrypt sessionTTL stack) action both.2.1,
          both.1.indexed.gone_step (both.1.indexed.keeps revokes) both.2.1 both.2.2⟩)
        _ actions ⟨next, still, lives⟩ revokes.2).2.2
    · refine (inductionHypothesis next revokes.2 still lives).trans ?_
      exact ⟨fun rest => ⟨one.mp lives, rest⟩, fun both => both.2⟩

/-- So is one that a run stores, by following the run up to the step that stores it. -/
theorem Guarded.born_run (guarded : Guarded bcrypt sessionTTL stack state)
    (positive : 0 < sessionTTL.val) (actions : List (Action SessionCall Choice))
    (revokes : (sessionServer bcrypt sessionTTL stack).Along (RevokesListed bcrypt sessionTTL stack)
      state actions) (unborn : Unborn state session.token) {place : Nat}
    (kept : Kept ((sessionServer bcrypt sessionTTL stack).run state actions) place session) :
    ((sessionServer bcrypt sessionTTL stack).run state actions).store.redis.table.get?
      (.session session.token) ≠ none ↔
        (sessionServer bcrypt sessionTTL stack).Along (Spares session) state actions := by
  induction actions generalizing state with
  | nil => exact absurd rfl (unborn.1 place session kept)
  | cons action actions inductionHypothesis =>
    have next := guarded.step positive action revokes.1
    have spared : Spares session state action := by
      cases action with
      | start asked => trivial
      | proceed index choice => exact fun _ _ _ _ => unborn.2
    have rest : ((sessionServer bcrypt sessionTTL stack).run state (action :: actions)).store.redis.table.get?
        (.session session.token) ≠ none ↔ (sessionServer bcrypt sessionTTL stack).Along (Spares session)
          ((sessionServer bcrypt sessionTTL stack).step state action) actions := by
      rcases guarded.unborn_step revokes.1 unborn with still | ⟨there, index, other, stored, same⟩
      · exact inductionHypothesis next revokes.2 still kept
      · have later := kept_run (sessionServer bcrypt sessionTTL stack) actions stored
        obtain ⟨-, rfl⟩ := (next.run positive actions revokes.2).indexed.keptOnce later kept same
        exact next.present_run positive actions revokes.2 stored there
    exact rest.trans ⟨fun rest => ⟨spared, rest⟩, fun both => both.2⟩

end Deletion

/-- Nothing has elapsed after such a run, because nothing has after its last step. -/
theorem lasting_run (bcrypt : Bcrypt) (sessionTTL : SessionTTL) (stack : Nat) {state : SessionState}
    (actions : List (Action SessionCall Choice))
    (revokes : (sessionServer bcrypt sessionTTL stack).Along (RevokesListed bcrypt sessionTTL stack)
      state actions) (lasting : Lasting state.store) :
    Lasting ((sessionServer bcrypt sessionTTL stack).run state actions).store := by
  refine (sessionServer bcrypt sessionTTL stack).run_invariant (fun current => Lasting current.store)
    ?_ state actions lasting revokes
  intro current action lasting revokes
  cases action with
  | start asked => exact lasting
  | proceed index choice => exact revokes.2.2.2.2

/-- Revoking all sessions of a user revokes all. In every run in which no list is lost
and nothing elapses, when a revocation has returned, no session of the user is
accepted whose creation had returned before the revocation began; and a session
whose creation has returned is accepted exactly if no call that means to delete it
has deleted it, whatever happens to other users. -/
theorem revoke_all_revokes_all (bcrypt : Bcrypt) (sessionTTL : SessionTTL) (stack : Nat)
    (positive : 0 < sessionTTL.val) (store : Store) (vacant : Vacant store.redis)
    (lasting : Lasting store) (before after : List (Action SessionCall Choice)) (userId : String)
    (revokes : (sessionServer bcrypt sessionTTL stack).Along (RevokesListed bcrypt sessionTTL stack)
      (Service.idleState store) (before ++ .start (.deleteUserSessions userId) :: after)) :
    (∀ revoker ∈ ((sessionServer bcrypt sessionTTL stack).run (Service.idleState store)
        (before ++ .start (.deleteUserSessions userId) :: after)).tasks[
          ((sessionServer bcrypt sessionTTL stack).run (Service.idleState store) before).tasks.length]?,
      revoker.answer?.isSome →
      ∀ task ∈ ((sessionServer bcrypt sessionTTL stack).run (Service.idleState store) before).tasks,
      ∀ session, Created task session → session.userId = userId →
      ∀ room, ¬ Accepts bcrypt room ((sessionServer bcrypt sessionTTL stack).run
        (Service.idleState store) (before ++ .start (.deleteUserSessions userId) :: after)).store
        session.token) ∧
    ∀ task ∈ ((sessionServer bcrypt sessionTTL stack).run (Service.idleState store)
        (before ++ .start (.deleteUserSessions userId) :: after)).tasks,
      ∀ session, Created task session →
      ∀ room, Accepts bcrypt room ((sessionServer bcrypt sessionTTL stack).run
          (Service.idleState store) (before ++ .start (.deleteUserSessions userId) :: after)).store
          session.token ↔
        (sessionServer bcrypt sessionTTL stack).Along (Spares session) (Service.idleState store)
          (before ++ .start (.deleteUserSessions userId) :: after) := by
  have initially := vacant.guarded bcrypt sessionTTL stack
  have last := initially.run positive _ revokes
  have alive := lasting_run bcrypt sessionTTL stack _ revokes lasting
  have cut := ((sessionServer bcrypt sessionTTL stack).along_append _ _ before _).mp revokes
  have middle := initially.run positive before cut.1
  constructor
  · rintro revoker present returned task member session created rfl room accepts
    have begun := middle.step positive _ cut.2.1
    have finds := (middle.finds member created).run begun positive after cut.2.2
    have joined := (sessionServer bcrypt sessionTTL stack).run_append (Service.idleState store) before
      (.start (.deleteUserSessions session.userId) :: after)
    rw [joined] at present accepts last alive
    have gone := finds.revoked last.indexed.traced present returned
    obtain ⟨index, kept⟩ := finds.kept
    exact (last.indexed.accepts bcrypt alive kept room).mp accepts gone
  · intro task member session created room
    obtain ⟨stores, -⟩ := (last.indexed.traced.answer_admitted member
      (callSession_called sessionTTL stack task.request) created.2).created created.1 session rfl
    obtain ⟨index, present⟩ := List.mem_iff_getElem?.mp member
    have kept : Kept _ index session := ⟨task, present, stores⟩
    refine (last.indexed.accepts bcrypt alive kept room).trans ?_
    refine initially.born_run positive _ revokes ⟨?_, ?_⟩ kept
    · intro place other early
      simp [Kept] at early
    · exact vacant.sessions session.token

/-- A revocation of Alice's sessions, when she has one and it has been created before the
revocation begins. -/
def revokeAlice : List (Action SessionCall Choice) :=
  createForAlice 0 firstToken ++
    .start (.deleteUserSessions "u1") :: List.replicate 5 (.proceed 1 (tick firstToken))

/-- It revokes the session, and nothing in this run deletes a list with a session in it. -/
theorem revocation_revokes :
    ¬ Accepts plainBcrypt 0 ((sessionServer plainBcrypt defaultTTL 3).run
      (Service.idleState aliceOnly) revokeAlice).store firstToken.val :=
  (revoke_all_revokes_all plainBcrypt defaultTTL 3 (by decide) aliceOnly
    ⟨fun _ => rfl, fun _ => rfl⟩ (by decide) (createForAlice 0 firstToken)
    (List.replicate 5 (.proceed 1 (tick firstToken))) "u1" (by decide)).1 _ rfl rfl _
    List.mem_cons_self
    { token := firstToken.val, userId := "u1", username := "alice", email := "alice@example.com"
      expiresAt := 86400000000002, createdAt := 3 }
    ⟨rfl, rfl⟩ rfl 0

/-- A revocation has read an empty list; a session is created; then the revocation
deletes the list. -/
def listDeleted : List (Action SessionCall Choice) :=
  [.start (.deleteUserSessions "u1"), .proceed 0 (tick firstToken)] ++
    createForAlice 1 firstToken ++ List.replicate 2 (.proceed 0 (tick firstToken))

/-- Another revocation begins after all this, and runs to its end with three commands, having
found an empty list. -/
def revokedAgain : List (Action SessionCall Choice) :=
  listDeleted ++ .start (.deleteUserSessions "u1") :: List.replicate 3 (.proceed 2 (tick firstToken))

/-- It has not found the session, which is still accepted although its creation had returned
before the revocation began. -/
theorem deleted_list_saves_session :
    (∃ task session, ((sessionServer plainBcrypt defaultTTL 3).run (Service.idleState aliceOnly)
        listDeleted).tasks[1]? = some task ∧ Created task session ∧
      session.token = firstToken.val ∧ session.userId = "u1") ∧
    (∃ revoker, ((sessionServer plainBcrypt defaultTTL 3).run (Service.idleState aliceOnly)
        revokedAgain).tasks[2]? = some revoker ∧
      revoker.request = .deleteUserSessions "u1" ∧ revoker.answer?.isSome) ∧
    Accepts plainBcrypt 0 ((sessionServer plainBcrypt defaultTTL 3).run
      (Service.idleState aliceOnly) revokedAgain).store firstToken.val :=
  ⟨⟨_, _, rfl, ⟨rfl, rfl⟩, rfl, rfl⟩, ⟨_, rfl, rfl, rfl⟩, _, _, rfl⟩

end ShoppingCS.Auth
