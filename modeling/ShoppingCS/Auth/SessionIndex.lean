import ShoppingCS.Auth.SessionCalls

/-!
# The list of a user's sessions is complete

A list must outlive every session in it. A creation lists its session under
whatever deadline the list has, and renews the deadline with its next command; in
between the list may elapse, and then the renewal renews nothing. As long as no
list elapses while a creation is about to renew it, and no list is deleted while
one of its sessions is there, every session that has been listed and is still
there is in its list.

Deadlines carry the argument: a session elapses its time to live after it was
stored, so a list that has just been renewed outlives all sessions there are.
-/

namespace ShoppingCS.Auth

open Interleaving Program Storage

/-- A token that is drawn now has not been drawn before. It is a condition on the random
source and not on the program. -/
def DrawsNew (state : SessionState) (index : Nat) (choice : Choice) : Prop :=
  ∀ task ∈ state.tasks[index]?, task.program.pending? = some .generateToken →
    ∀ token ∈ choice.token.toOption, ∀ other ∈ state.tasks, token.val ∉ drawn other.trace

instance (state : SessionState) (index : Nat) (choice : Choice) :
    Decidable (DrawsNew state index choice) :=
  inferInstanceAs (Decidable (∀ task ∈ state.tasks[index]?, _ → ∀ token ∈ choice.token.toOption,
    ∀ other ∈ state.tasks, _))

/-- While a session that has been listed waits for its list to be renewed, the list
is there if the session is. -/
def ListLasts (redis : Redis) (task : SessionTask) : Prop :=
  ∀ session ∈ stored task.trace, Added task.trace session → ¬ Renewed task.trace session →
    (redis.find? (.session session.token)).isSome →
      (redis.find? (.userSessions session.userId)).isSome

instance (redis : Redis) (task : SessionTask) : Decidable (ListLasts redis task) :=
  inferInstanceAs (Decidable (∀ session ∈ stored task.trace, _ → _ → _ → _))

/-- The user whose list a command deletes as a whole, which only `DeleteUserSessions` does. -/
def Command.cleared? : Command → Option String
  | .redis (.delete (.userSessions userId)) => some userId
  | _ => none

/-- Only a deletion of the list clears it. An `SREM` that empties a list is not counted here.
-/
theorem cleared_command {command : Command} {userId : String}
    (clears : command.cleared? = some userId) : command = .redis (.delete (.userSessions userId)) := by
  unfold Command.cleared? at clears
  split at clears
  · obtain rfl := Option.some.inj clears
    rfl
  · simp at clears

/-- A list that is deleted now holds no session that is still there. This is enough for the
lists to stay complete, and it is more than a single run may need: a session that loses its
place here does harm only when a later revocation of all of the user's sessions would have
had to find it. -/
def ClearsIdle (state : SessionState) (index : Nat) (redis : Redis) : Prop :=
  ∀ task ∈ state.tasks[index]?, ∀ command ∈ task.program.pending?, ∀ userId ∈ command.cleared?,
    ∀ token ∈ redis.membersOf userId, redis.find? (.session token) = none

instance (state : SessionState) (index : Nat) (redis : Redis) :
    Decidable (ClearsIdle state index redis) :=
  inferInstanceAs (Decidable (∀ task ∈ state.tasks[index]?, ∀ command ∈ task.program.pending?,
    ∀ userId ∈ command.cleared?, ∀ token ∈ redis.membersOf userId, _))

/-- The list goes on at least as long as the session: it has no deadline, or one that is not
before the session's. -/
def Covers (deadline : Option Int) (entry : Entry Key Value) : Prop :=
  ∀ instant ∈ deadline, ∃ last ∈ entry.deadline, last ≤ instant

/-- What every run keeps that does not lose a list. The last field is the one that matters: a
session that has been listed and is still there is in a list that lives as long as it does
once renewed. -/
structure Indexed (bcrypt : Bcrypt) (sessionTTL : SessionTTL) (stack : Nat)
    (state : SessionState) : Prop where
  traced : (sessionServer bcrypt sessionTTL stack).Traced state
  listed : Listed state.store.redis
  drawnOnce : ∀ first second token, Drew state first token → Drew state second token →
    first = second
  entries : ∀ token entry, state.store.redis.table.get? (.session token) = some entry →
    (∃ index session, Kept state index session ∧ session.token = token ∧
      entry.value = .string (.session session)) ∧
    ∃ last ∈ entry.deadline, last ≤ state.store.redis.now + sessionTTL.val * 1000
  saw : ∀ task ∈ state.tasks, ∀ token session, Saw task.trace token session →
    session.token = token ∧ ∃ index, Kept state index session
  erased : ∀ task ∈ state.tasks, ∀ token, Erased task.trace token →
    state.store.redis.table.get? (.session token) = none
  members : ∀ userId list tokens, state.store.redis.table.get? (.userSessions userId) = some list →
    list.value = .members tokens → ∀ token ∈ tokens,
      ∃ index session, Kept state index session ∧ session.token = token ∧ session.userId = userId
  index : ∀ task ∈ state.tasks, ∀ session ∈ stored task.trace, Added task.trace session →
    ∀ entry, state.store.redis.find? (.session session.token) = some entry →
      ∃ deadline, state.store.redis.ListsUntil session.userId session.token deadline ∧
        (Renewed task.trace session → Covers deadline entry)

section Indexed

variable {bcrypt : Bcrypt} {sessionTTL : SessionTTL} {stack : Nat} {state : SessionState}

/-- Who stores a session has drawn its token, as the trace of the call shows. -/
theorem Indexed.drew (indexed : Indexed bcrypt sessionTTL stack state) {place : Nat}
    {session : Session} (kept : Kept state place session) : Drew state place session.token := by
  obtain ⟨task, present, member⟩ := kept
  obtain ⟨draw, -⟩ := (traced_filed indexed.traced (List.mem_of_getElem? present)).once session member
  exact ⟨task, present, by simp [draw]⟩

/-- One token has one session, because a token is drawn once and its call stores one session
with it. -/
theorem Indexed.keptOnce (indexed : Indexed bcrypt sessionTTL stack state) {first second : Nat}
    {session other : Session} (kept : Kept state first session) (again : Kept state second other)
    (same : session.token = other.token) : first = second ∧ session = other := by
  obtain rfl := indexed.drawnOnce first second session.token (indexed.drew kept)
    (same ▸ indexed.drew again)
  obtain ⟨task, present, member⟩ := kept
  obtain ⟨task', present', member'⟩ := again
  obtain rfl : task = task' := Option.some.inj (present.symm.trans present')
  obtain ⟨-, single⟩ := (traced_filed indexed.traced (List.mem_of_getElem? present)).once session member
  have only : other ∈ [session] := single ▸ member'
  exact ⟨rfl, (List.mem_singleton.mp only).symm⟩

end Indexed

/-- A call executes its pending command, and no list is lost by it: drawn tokens are new,
lists last until they are renewed, and no list is deleted that holds a session. -/
structure Filing (bcrypt : Bcrypt) (sessionTTL : SessionTTL) (stack : Nat)
    (state next : SessionState) (index : Nat) (choice : Choice) (task : SessionTask)
    (command : Command) : Prop
    extends Move bcrypt (sessionServer bcrypt sessionTTL stack) state next index choice task command where
  allowed : CallAllowed sessionTTL task.request task.trace command
  new : command = .generateToken → ∀ token, choice.token = .ok token →
    ∀ other ∈ state.tasks, token.val ∉ drawn other.trace
  lasts : ∀ other ∈ state.tasks, ListLasts (state.store.wait choice).redis other
  idle : ∀ userId, command = .redis (.delete (.userSessions userId)) →
    ∀ token ∈ (state.store.wait choice).redis.membersOf userId,
      (state.store.wait choice).redis.find? (.session token) = none

namespace Filing

variable {bcrypt : Bcrypt} {sessionTTL : SessionTTL} {stack : Nat} {state next : SessionState}
  {index : Nat} {choice : Choice} {task : SessionTask} {command : Command}
  (filing : Filing bcrypt sessionTTL stack state next index choice task command)

include filing

/-- Redis after the command: time has passed, and the command has been executed on what was
there. -/
theorem redis : next.store.redis = (state.store.wait choice).redis.advance command := by
  rw [filing.store]
  exact perform_advance bcrypt command filing.works state.store

/-- The time after the command is the one at which it was executed. -/
theorem now_eq : next.store.redis.now = (state.store.wait choice).redis.now := by
  rw [filing.redis, Redis.advance_now]

/-- Time does not go back, so an entry that is live after the command was live before it. -/
theorem now_le : state.store.redis.now ≤ next.store.redis.now := by
  rw [filing.now_eq]
  simp only [Redis.now, Store.wait, Redis.wait]
  omega

variable (indexed : Indexed bcrypt sessionTTL stack state)

include indexed

/-- A token is drawn once, as a draw of the command is of a new token. -/
theorem drawnOnce_kept (first second : Nat) (token : String) (drew : Drew next first token)
    (again : Drew next second token) : first = second :=
  filing.drawnOnce_moved indexed.drawnOnce filing.new first second token drew again

/-- A session is stored for a token that nobody has stored a session for. -/
theorem stores_first {session : Session} (stores : command.use = .stores session) {place : Nat}
    {other : Session} (kept : Kept state place other) : other.token ≠ session.token := by
  intro same
  obtain ⟨-, draw, unstored⟩ := filing.allowed.stores session stores
  obtain rfl := indexed.drawnOnce place index other.token (indexed.drew kept)
    ⟨task, filing.present, by simp [draw, same]⟩
  obtain ⟨task', present, member⟩ := kept
  obtain rfl : task = task' := Option.some.inj (filing.present.symm.trans present)
  simp [unstored] at member

/-- Once a session has been stored, its key stays as it is or is deleted. -/
theorem key_kept {place : Nat} {session : Session} (kept : Kept state place session) :
    next.store.redis.table.get? (.session session.token) =
        state.store.redis.table.get? (.session session.token) ∨
      (command.use = .deletes session.token ∧
        next.store.redis.table.get? (.session session.token) = none) := by
  rw [filing.store]
  rcases (perform_session bcrypt choice state.store session.token command
      filing.disciplined).equations with same | ⟨other, -, stores, named, -⟩ | deleted
  · exact Or.inl same
  · exact absurd named.symm (filing.stores_first indexed stores kept)
  · exact Or.inr deleted

/-- Every entry under a session key holds a stored session, and elapses in time. -/
theorem entries_kept (positive : 0 < sessionTTL.val) (token : String) (entry : Entry Key Value)
    (present : next.store.redis.table.get? (.session token) = some entry) :
    (∃ place session, Kept next place session ∧ session.token = token ∧
      entry.value = .string (.session session)) ∧
    ∃ last ∈ entry.deadline, last ≤ next.store.redis.now + sessionTTL.val * 1000 := by
  by_cases stores : ∃ session, command.use = .stores session ∧ session.token = token
  · obtain ⟨session, uses, rfl⟩ := stores
    obtain ⟨rfl, -⟩ := filing.allowed.stores session uses
    have now := filing.now_eq
    rw [filing.redis, Redis.advance, Redis.execute, Redis.get?_put, if_pos rfl] at present
    obtain rfl := Option.some.inj present
    refine ⟨⟨index, session, filing.keeps uses, rfl, rfl⟩, ?_⟩
    simp only [Redis.deadlineOf, positive, if_true, Option.mem_some_iff, exists_eq_left', now]
    exact Int.le_refl _
  · rw [filing.store] at present
    rcases (perform_session bcrypt choice state.store token command
        filing.disciplined).equations with same | ⟨session, -, uses, named, -⟩ | ⟨-, none⟩
    · rw [same] at present
      obtain ⟨⟨place, session, kept, named, value⟩, last, held, early⟩ :=
        indexed.entries token entry present
      have later := filing.now_le
      exact ⟨⟨place, session, filing.kept_mono kept, named, value⟩, last, held, by omega⟩
    · exact absurd ⟨session, uses, named⟩ stores
    · rw [none] at present
      simp at present

/-- Whatever a call reads under the key of a token is a stored session of that
token. -/
theorem saw_kept (other : SessionTask) (member : other ∈ next.tasks) (token : String)
    (session : Session) (saw : Saw other.trace token session) :
    session.token = token ∧ ∃ place, Kept next place session :=
  filing.saw_moved (fun token entry present => (indexed.entries token entry present).1)
    indexed.saw other member token session saw

/-- A key that was deleted after its session had been read is not written again. -/
theorem erased_kept (other : SessionTask) (member : other ∈ next.tasks) (token : String)
    (erased : Erased other.trace token) :
    next.store.redis.table.get? (.session token) = none := by
  have absent (before : SessionTask) (old : before ∈ state.tasks) (session : Session)
      (saw : Saw before.trace token session)
      (gone : state.store.redis.table.get? (.session token) = none ∨ command.use = .deletes token) :
      next.store.redis.table.get? (.session token) = none := by
    obtain ⟨rfl, place, kept⟩ := indexed.saw before old token session saw
    cases gone with
    | inl gone =>
      rcases filing.key_kept indexed kept with same | ⟨-, none⟩
      · rw [same, gone]
      · exact none
    | inr deletes =>
      rw [filing.store, deletes_command deletes]
      exact perform_delete bcrypt choice state.store session.token filing.works
  obtain ⟨after, tasks, -, trace⟩ := filing.scheduled
  obtain ⟨earlier, event, later, split, deletes, session, saw⟩ := erased
  have before {other : SessionTask} (old : other ∈ state.tasks)
      (split : other.trace = earlier ++ event :: later) :
      next.store.redis.table.get? (.session token) = none :=
    absent other old session (split ▸ saw.append _)
      (Or.inl (indexed.erased other old token ⟨earlier, event, later, split, deletes, session, saw⟩))
  rw [tasks] at member
  rcases List.mem_or_eq_of_mem_set member with old | rfl
  · exact before old split
  · rw [trace] at split
    rcases List.eq_nil_or_concat later with rfl | ⟨later, last, rfl⟩
    · obtain ⟨rfl, same⟩ := List.append_inj' split rfl
      obtain rfl := List.singleton_inj.mp same
      exact absent task filing.member session saw (Or.inr deletes)
    · rw [List.concat_eq_append, ← List.cons_append, ← List.append_assoc] at split
      have same := (List.append_inj' split rfl).1
      exact absent task filing.member session (same ▸ saw.append _)
        (Or.inl (indexed.erased task filing.member token
          ⟨earlier, event, later, same, deletes, session, saw⟩))

/-- Every listed token is that of a session of the user, who was named when the token was
listed. -/
theorem members_kept (userId : String) (list : Entry Key Value) (tokens : List String)
    (present : next.store.redis.table.get? (.userSessions userId) = some list)
    (value : list.value = .members tokens) (token : String) (inside : token ∈ tokens) :
    ∃ place session, Kept next place session ∧ session.token = token ∧ session.userId = userId := by
  rw [filing.redis] at present
  rcases Redis.advance_member_from filing.allowed.keeps present value inside with
    ⟨earlier, before, found, held, member⟩ | adds
  · obtain ⟨place, session, kept, same⟩ := indexed.members userId earlier before found held token member
    exact ⟨place, session, filing.kept_mono kept, same⟩
  · obtain ⟨session, member, owner, named⟩ := filing.allowed.lists userId token adds
    exact ⟨index, session, filing.kept_mono ⟨task, filing.present, member⟩, named, owner⟩

/-- When the command is executed, the lists are still complete. Time has passed since the last
command, but a list that waits for its renewal has not elapsed, by the condition on the step.
-/
theorem index_waited (other : SessionTask) (member : other ∈ state.tasks) (session : Session)
    (stores : session ∈ stored other.trace) (added : Added other.trace session)
    (entry : Entry Key Value)
    (found : (state.store.wait choice).redis.find? (.session session.token) = some entry) :
    ∃ deadline, (state.store.wait choice).redis.ListsUntil session.userId session.token deadline ∧
      (Renewed other.trace session → Covers deadline entry) := by
  obtain ⟨present, live⟩ := Redis.find?_eq_some.mp found
  have later : state.store.redis.now ≤ (state.store.wait choice).redis.now := by
    simp only [Redis.now, Store.wait, Redis.wait]
    omega
  have before : state.store.redis.find? (.session session.token) = some entry :=
    Redis.find?_eq_some.mpr ⟨present, live.mono later⟩
  obtain ⟨deadline, ⟨tokens, listed, inside⟩, covers⟩ :=
    indexed.index other member session stores added entry before
  have there := (Redis.find?_eq_some.mp listed).1
  refine ⟨deadline, ⟨tokens, Redis.find?_eq_some.mpr ⟨there, ?_⟩, inside⟩, covers⟩
  by_cases renewed : Renewed other.trace session
  · intro instant held
    obtain ⟨last, ends, early⟩ := covers renewed instant held
    exact Int.le_trans (live last ends) early
  · have lasts := filing.lasts other member session stores added renewed (by simp [found])
    obtain ⟨list, found⟩ := Option.isSome_iff_exists.mp lasts
    obtain ⟨same, alive⟩ := Redis.find?_eq_some.mp found
    obtain rfl := Option.some.inj (there.symm.trans same)
    exact alive

/-- A session that has been listed and is still there stays in its list. -/
theorem listed_kept (positive : 0 < sessionTTL.val) (other : SessionTask)
    (member : other ∈ state.tasks) (session : Session) (stores : session ∈ stored other.trace)
    (added : Added other.trace session) (entry : Entry Key Value)
    (found : next.store.redis.find? (.session session.token) = some entry) :
    ∃ deadline, next.store.redis.ListsUntil session.userId session.token deadline ∧
      (Renewed other.trace session ∨ command.renewed? = some session.userId →
        Covers deadline entry) := by
  obtain ⟨place, located⟩ := List.mem_iff_getElem?.mp member
  obtain ⟨present, live⟩ := Redis.find?_eq_some.mp found
  have same : state.store.redis.table.get? (.session session.token) = some entry := by
    rcases filing.key_kept indexed ⟨other, located, stores⟩ with same | ⟨-, none⟩
    · rw [← same, present]
    · simp [none] at present
  have before : (state.store.wait choice).redis.find? (.session session.token) = some entry :=
    Redis.find?_eq_some.mpr ⟨same, by rwa [filing.now_eq] at live⟩
  obtain ⟨deadline, lists, covers⟩ :=
    filing.index_waited indexed other member session stores added entry before
  have unlisted : command ≠ .redis (.sRem (.userSessions session.userId) session.token) := by
    intro removes
    have gone := indexed.erased task filing.member _ (filing.allowed.unlists _ _ removes)
    simp [same] at gone
  have cleared : command ≠ .redis (.delete (.userSessions session.userId)) := by
    intro clears
    have gone := filing.idle _ clears session.token lists.mem
    simp [before] at gone
  have renews (seconds : Int)
      (expires : command = .redis (.expire (.userSessions session.userId) seconds)) :
      seconds = sessionTTL.val := (filing.allowed.renews _ _ expires).1
  refine ⟨_, filing.redis ▸ lists.advance filing.allowed.keeps unlisted cleared
    (fun seconds expires => renews seconds expires ▸ positive), ?_⟩
  by_cases expires : command.renewed? = some session.userId
  · intro _ instant held
    obtain ⟨seconds, rfl⟩ := renewed_command expires
    obtain rfl := renews seconds rfl
    simp only [Redis.renewal, if_true, Option.mem_some_iff] at held
    obtain ⟨-, last, ends, early⟩ := filing.entries_kept indexed positive session.token entry present
    rw [filing.now_eq] at early
    exact ⟨last, ends, by omega⟩
  · rintro (renewed | now)
    · have kept : (state.store.wait choice).redis.renewal session.userId deadline command = deadline := by
        unfold Redis.renewal
        split
        · rename_i user seconds
          have different : user ≠ session.userId := fun equal => expires (by simp [Command.renewed?, equal])
          simp [different]
        · rfl
      rw [kept]
      exact covers renewed
    · exact absurd now expires

/-- The lists stay complete. A list changes by a renewal, by its deletion, or by a token that
is added or taken out, and each of these is one case. -/
theorem index_kept (positive : 0 < sessionTTL.val) (other : SessionTask) (member : other ∈ next.tasks)
    (session : Session) (stores : session ∈ stored other.trace) (added : Added other.trace session)
    (entry : Entry Key Value)
    (found : next.store.redis.find? (.session session.token) = some entry) :
    ∃ deadline, next.store.redis.ListsUntil session.userId session.token deadline ∧
      (Renewed other.trace session → Covers deadline entry) := by
  obtain ⟨after, tasks, -, trace⟩ := filing.scheduled
  rw [tasks] at member
  rcases List.mem_or_eq_of_mem_set member with old | rfl
  · obtain ⟨deadline, lists, covers⟩ :=
      filing.listed_kept indexed positive other old session stores added entry found
    exact ⟨deadline, lists, fun renewed => covers (Or.inl renewed)⟩
  · have filed := traced_filed indexed.traced filing.member
    have single : stored other.trace = [session] := by
      have grown := filed.extend (perform bcrypt command choice state.store).1 filing.allowed
      rw [← trace] at grown
      exact (grown.once session stores).2
    have only {kept : Session} (inside : kept ∈ stored task.trace) : kept = session := by
      have later : kept ∈ stored other.trace := by
        rw [trace, stored_append]
        exact List.mem_append_left _ inside
      rw [single] at later
      exact List.mem_singleton.mp later
    by_cases earlier : session ∈ stored task.trace ∧ Added task.trace session
    · obtain ⟨deadline, lists, covers⟩ := filing.listed_kept indexed positive task filing.member
        session earlier.1 earlier.2 entry found
      refine ⟨deadline, lists, fun renewed => covers ?_⟩
      obtain ⟨event, recorded, renews⟩ := renewed
      rw [trace] at recorded
      cases List.mem_append.mp recorded with
      | inl recorded => exact Or.inl ⟨event, recorded, renews⟩
      | inr recorded =>
        obtain rfl := List.mem_singleton.mp recorded
        exact Or.inr renews
    · -- the session is listed by this very command, so nothing has been renewed for it
      have adds : command = .redis (.sAdd (.userSessions session.userId) session.token) := by
        obtain ⟨event, recorded, adds⟩ := added
        rw [trace] at recorded
        cases List.mem_append.mp recorded with
        | inl recorded =>
          have before : Added task.trace session := ⟨event, recorded, adds⟩
          obtain ⟨kept, inside, -⟩ := filed.added session before
          exact absurd ⟨only inside ▸ inside, before⟩ earlier
        | inr recorded =>
          obtain rfl := List.mem_singleton.mp recorded
          exact adds
      have waited : Listed (state.store.wait choice).redis := indexed.listed
      obtain ⟨deadline, lists⟩ := Redis.listsUntil_sAdd waited session.userId session.token
      refine ⟨deadline, by rw [filing.redis, adds]; exact lists, fun renewed => ?_⟩
      obtain ⟨event, recorded, renews⟩ := renewed
      rw [trace] at recorded
      cases List.mem_append.mp recorded with
      | inl recorded =>
        obtain ⟨kept, inside, -, before⟩ := filed.renewed session ⟨event, recorded, renews⟩
        obtain rfl := only inside
        exact absurd ⟨inside, before⟩ earlier
      | inr recorded =>
        obtain rfl := List.mem_singleton.mp recorded
        simp [adds, Command.renewed?] at renews

/-- All of it is kept, field by field, with the lemma of the same name for each of them. -/
theorem indexed_kept (positive : 0 < sessionTTL.val) : Indexed bcrypt sessionTTL stack next where
  traced := by
    rw [filing.steps]
    exact (sessionServer bcrypt sessionTTL stack).step_traced state _ indexed.traced
  listed := by
    rw [filing.store]
    exact perform_listed bcrypt filing.allowed.keeps choice indexed.listed
  drawnOnce := filing.drawnOnce_kept indexed
  entries := filing.entries_kept indexed positive
  saw := filing.saw_kept indexed
  erased := filing.erased_kept indexed
  members := filing.members_kept indexed
  index := filing.index_kept indexed positive

end Filing

/-- No store fails, drawn tokens are new, a list does not elapse before it is renewed
for a session that is there, and no list is deleted that holds one. -/
def KeepsIndex (state : SessionState) : Action SessionCall Choice → Prop
  | .start _ => True
  | .proceed index choice => choice.failure = none ∧ DrawsNew state index choice ∧
      (∀ task ∈ state.tasks, ListLasts (state.store.wait choice).redis task) ∧
      ClearsIdle state index (state.store.wait choice).redis

section Runs

variable {bcrypt : Bcrypt} {sessionTTL : SessionTTL} {stack : Nat} {state : SessionState}

/-- A command of a step that keeps the index is such a command. That it is allowed follows
from the program of its call. -/
theorem filing_of_keeps (traced : (sessionServer bcrypt sessionTTL stack).Traced state) {index : Nat}
    {choice : Choice} {task : SessionTask} {command : Command}
    {resume : command.Result → Handler Returned} (present : state.tasks[index]? = some task)
    (pending : task.program = .call command resume)
    (keeps : KeepsIndex state (.proceed index choice)) :
    Filing bcrypt sessionTTL stack state
      { store := (perform bcrypt command choice state.store).2
        tasks := state.tasks.set index
          (task.advance command resume (perform bcrypt command choice state.store).1) }
      index choice task command := by
  have allowed := traced.pending_allowed (List.mem_of_getElem? present)
    (callSession_called sessionTTL stack task.request) pending
  exact
    { toMove := move_of_pending rfl present pending allowed.disciplined keeps.1
      allowed := allowed
      new := by
        rintro rfl token fresh
        exact keeps.2.1 task present (by simp [pending]) token (by simp [fresh, Except.toOption])
      lasts := keeps.2.2.1
      idle := by
        rintro userId rfl
        exact keeps.2.2.2 task present (.redis (.delete (.userSessions userId))) (by simp [pending])
          userId rfl }

/-- Accepting a call changes nothing: the call has executed nothing, and the stores stay as
they are. -/
theorem Indexed.accepted (indexed : Indexed bcrypt sessionTTL stack state) (call : SessionCall) :
    Indexed bcrypt sessionTTL stack
      ((sessionServer bcrypt sessionTTL stack).step state (.start call)) where
  traced := (sessionServer bcrypt sessionTTL stack).step_traced state _ indexed.traced
  listed := indexed.listed
  drawnOnce := fun first second token drew again =>
    indexed.drawnOnce first second token (drew_accepted drew) (drew_accepted again)
  entries := by
    intro token entry present
    obtain ⟨⟨place, session, kept, holds⟩, elapses⟩ := indexed.entries token entry present
    exact ⟨⟨place, session, kept_step (sessionServer bcrypt sessionTTL stack) _ kept, holds⟩, elapses⟩
  saw := by
    rintro task member token session ⟨text, event, decoded⟩
    obtain ⟨named, place, kept⟩ :=
      indexed.saw task (accepted_recorded member event) token session ⟨text, event, decoded⟩
    exact ⟨named, place, kept_step (sessionServer bcrypt sessionTTL stack) _ kept⟩
  erased := by
    intro task member token erased
    have old : task ∈ state.tasks := by
      obtain ⟨earlier, event, later, split, -⟩ := erased
      have recorded : event ∈ task.trace := by simp [split]
      exact accepted_recorded member recorded
    exact indexed.erased task old token erased
  members := by
    intro userId list tokens present value token inside
    obtain ⟨place, session, kept, same⟩ :=
      indexed.members userId list tokens present value token inside
    exact ⟨place, session, kept_step (sessionServer bcrypt sessionTTL stack) _ kept, same⟩
  index := by
    rintro task member session stores ⟨event, recorded, adds⟩
    exact indexed.index task (accepted_recorded member recorded) session stores
      ⟨event, recorded, adds⟩

/-- A step that loses no list keeps the lists complete, whether it accepts a call or executes
a command of one. -/
theorem Indexed.step (indexed : Indexed bcrypt sessionTTL stack state) (positive : 0 < sessionTTL.val)
    (action : Action SessionCall Choice) (keeps : KeepsIndex state action) :
    Indexed bcrypt sessionTTL stack ((sessionServer bcrypt sessionTTL stack).step state action) := by
  cases action with
  | start call => exact indexed.accepted call
  | proceed index choice =>
    generalize after : (sessionServer bcrypt sessionTTL stack).step state (.proceed index choice) = next
    have transition : (sessionServer bcrypt sessionTTL stack).Transition state _ next :=
      after ▸ (sessionServer bcrypt sessionTTL stack).step_transition state _
    cases transition with
    | idle index choice nothing => exact indexed
    | proceeded index choice task command resume present pending =>
      exact (filing_of_keeps indexed.traced present pending keeps).indexed_kept indexed positive

/-- So does a run, if each of its steps loses no list in the state in which it is taken. -/
theorem Indexed.run (indexed : Indexed bcrypt sessionTTL stack state) (positive : 0 < sessionTTL.val)
    (actions : List (Action SessionCall Choice))
    (keeps : (sessionServer bcrypt sessionTTL stack).Along KeepsIndex state actions) :
    Indexed bcrypt sessionTTL stack ((sessionServer bcrypt sessionTTL stack).run state actions) :=
  (sessionServer bcrypt sessionTTL stack).run_invariant (Indexed bcrypt sessionTTL stack)
    (fun _ action indexed keeps => indexed.step positive action keeps) state actions indexed keeps

/-- Redis holds neither sessions nor lists, which is how runs begin; there may be other keys.
-/
structure Vacant (redis : Redis) : Prop where
  sessions : ∀ token, redis.table.get? (.session token) = none
  lists : ∀ userId, redis.table.get? (.userSessions userId) = none

/-- Nothing is missing from no lists, so all of it holds before the first call. -/
theorem Vacant.indexed {store : Store} (vacant : Vacant store.redis) (bcrypt : Bcrypt)
    (sessionTTL : SessionTTL) (stack : Nat) :
    Indexed bcrypt sessionTTL stack (Service.idleState store) where
  traced := (sessionServer bcrypt sessionTTL stack).idleState_traced store
  listed := fun userId entry present => by simp [vacant.lists userId] at present
  drawnOnce := fun first second token drew => by simp [Drew] at drew
  entries := fun token entry present => by simp [vacant.sessions token] at present
  saw := fun task member => absurd member (by simp)
  erased := fun task member => absurd member (by simp)
  members := fun userId list tokens present => by simp [vacant.lists userId] at present
  index := fun task member => absurd member (by simp)

/-- A session whose creation has returned is in its list as long as it is there. -/
theorem Indexed.complete (indexed : Indexed bcrypt sessionTTL stack state) {task : SessionTask}
    (member : task ∈ state.tasks) {session : Session} (created : Created task session)
    (there : (state.store.redis.find? (.session session.token)).isSome) :
    session.token ∈ state.store.redis.membersOf session.userId := by
  obtain ⟨entry, found⟩ := Option.isSome_iff_exists.mp there
  obtain ⟨stores, added, -⟩ := (indexed.traced.answer_admitted member
    (callSession_called sessionTTL stack task.request) created.2).created created.1 session rfl
  obtain ⟨deadline, lists, -⟩ := indexed.index task member session stores added entry found
  exact lists.mem

end Runs

/-- The user whose sessions a call revokes, when it is one that revokes them all. -/
def SessionCall.revoked? : SessionCall → Option String
  | .deleteUserSessions userId => some userId
  | _ => none

/-- Nobody revokes all sessions of a user, no store fails, drawn tokens are new, and a
list does not elapse before it is renewed for a session that is there. -/
def RenewsInTime (state : SessionState) : Action SessionCall Choice → Prop
  | .start asked => asked.revoked? = none
  | .proceed index choice => choice.failure = none ∧ DrawsNew state index choice ∧
      ∀ task ∈ state.tasks, ListLasts (state.store.wait choice).redis task

instance (state : SessionState) :
    (action : Action SessionCall Choice) → Decidable (RenewsInTime state action)
  | .start asked => inferInstanceAs (Decidable (asked.revoked? = none))
  | .proceed index choice => inferInstanceAs (Decidable (choice.failure = none ∧
      DrawsNew state index choice ∧
      ∀ task ∈ state.tasks, ListLasts (state.store.wait choice).redis task))

/-- The index of a user's sessions is complete. In every run in which lists are
renewed in time, a session whose creation has returned and whose key is still there
is in its user's list. -/
theorem index_complete (bcrypt : Bcrypt) (sessionTTL : SessionTTL) (stack : Nat)
    (positive : 0 < sessionTTL.val) (store : Store) (vacant : Vacant store.redis)
    (actions : List (Action SessionCall Choice))
    (renews : (sessionServer bcrypt sessionTTL stack).Along RenewsInTime (Service.idleState store)
      actions)
    (task : SessionTask)
    (member : task ∈ ((sessionServer bcrypt sessionTTL stack).run (Service.idleState store)
      actions).tasks)
    (session : Session) (created : Created task session)
    (there : (((sessionServer bcrypt sessionTTL stack).run (Service.idleState store)
      actions).store.redis.find? (.session session.token)).isSome) :
    session.token ∈ ((sessionServer bcrypt sessionTTL stack).run (Service.idleState store)
      actions).store.redis.membersOf session.userId := by
  have kept := (sessionServer bcrypt sessionTTL stack).run_invariant
    (fun state => Indexed bcrypt sessionTTL stack state ∧
      ∀ task ∈ state.tasks, task.request.revoked? = none) ?_
    (Service.idleState store) actions ⟨vacant.indexed bcrypt sessionTTL stack, by simp⟩ renews
  · exact kept.1.complete member created there
  · rintro state action ⟨indexed, unrevoked⟩ renews
    have keeps : KeepsIndex state action := by
      cases action with
      | start asked => trivial
      | proceed index choice =>
        refine ⟨renews.1, renews.2.1, renews.2.2, ?_⟩
        intro task present command pending userId clears
        have inside := List.mem_of_getElem? present
        obtain ⟨resume, waits⟩ := Program.pending?_eq_some.mp pending
        have allowed := indexed.traced.pending_allowed inside
          (callSession_called sessionTTL stack task.request) waits
        have revokes := allowed.clears userId (cleared_command clears)
        have revoked := unrevoked task inside
        simp [revokes, SessionCall.revoked?] at revoked
    refine ⟨indexed.step positive action keeps, ?_⟩
    intro task inside
    obtain ⟨place, present⟩ := List.mem_iff_getElem?.mp inside
    rcases Service.step_task action present with
      before | ⟨asked, rfl, -, rfl⟩ | ⟨_, before, _, _, -, there, -, rfl⟩
    · exact unrevoked task (List.mem_of_getElem? before)
    · exact renews
    · exact unrevoked before (List.mem_of_getElem? there)

/-- Alice, whose session is created by a call at the given place with the given token; seven
commands are all it takes. -/
def createForAlice (place : Nat) (token : GeneratedToken) : List (Action SessionCall Choice) :=
  .start (.createSession alice) :: List.replicate 7 (.proceed place (tick token))

/-- Her session is listed when the call has returned. No list can elapse in so short a run,
and none is deleted. -/
theorem first_session_listed :
    firstToken.val ∈ ((sessionServer plainBcrypt defaultTTL 3).run (Service.idleState aliceOnly)
      (createForAlice 0 firstToken)).store.redis.membersOf "u1" :=
  index_complete plainBcrypt defaultTTL 3 (by decide) aliceOnly ⟨fun _ => rfl, fun _ => rfl⟩
    (createForAlice 0 firstToken) (by decide) _ List.mem_cons_self
    { token := firstToken.val, userId := "u1", username := "alice", email := "alice@example.com"
      expiresAt := 86400000000002, createdAt := 3 }
    ⟨rfl, rfl⟩ (by decide)

/-- A second creation begins shortly before the list elapses, and renews it too
late. -/
def listElapses : List (Action SessionCall Choice) :=
  createForAlice 0 firstToken ++
    .start (.createSession alice) ::
    .proceed 1 { tick secondToken with elapsed := 86399999999000, redisElapsed := 86399999999000 } ::
    List.replicate 4 (.proceed 1 (tick secondToken)) ++
    .proceed 1 { tick secondToken with elapsed := 2000000, redisElapsed := 2000000 } ::
    [.proceed 1 (tick secondToken)]

/-- The second session is there, its creation has returned, and it is in no list. -/
theorem elapsed_list_loses_session :
    (∃ task session, ((sessionServer plainBcrypt defaultTTL 3).run (Service.idleState aliceOnly)
        listElapses).tasks[1]? = some task ∧ Created task session ∧
      session.token = secondToken.val ∧ session.userId = "u1") ∧
    (((sessionServer plainBcrypt defaultTTL 3).run (Service.idleState aliceOnly)
        listElapses).store.redis.find? (.session secondToken.val)).isSome ∧
    ((sessionServer plainBcrypt defaultTTL 3).run (Service.idleState aliceOnly)
        listElapses).store.redis.membersOf "u1" = [] :=
  ⟨⟨_, _, rfl, ⟨rfl, rfl⟩, rfl, rfl⟩, by decide, by decide⟩

end ShoppingCS.Auth
