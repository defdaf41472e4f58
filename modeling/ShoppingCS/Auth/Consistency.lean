import ShoppingCS.Auth.Moves

/-!
# What orderly runs keep

Requests interleave command by command; both clocks are one clock, the stores
work, drawn tokens are new, and nobody presents a drawn token before it has been
answered.

Three facts carry the rest. A deleted key is never written again, since only the
request that has drawn a token writes its key, and nobody presents the token
before that request has answered. A stored record is there until somebody
deletes it, and until then only its age hides it. And a session names the user of
the login that its chain of refreshes began with.
-/

namespace ShoppingCS.Auth

open Interleaving Program Storage

/-- The token a request has answered with. Logins and refreshes answer with one, and only when
they succeed. -/
def issued? (task : AuthTask) : Option String :=
  match task.answer? with
  | some (.success (.login data)) => some data.token
  | _ => none

/-- The request has answered with success and a token, which is then known to a client. -/
def Issued (task : AuthTask) (token : String) : Prop := issued? task = some token

instance (task : AuthTask) (token : String) : Decidable (Issued task token) :=
  inferInstanceAs (Decidable (issued? task = some token))

/-- An issued token stands in the answer, in the data of a login, which a refresh uses as
well. -/
theorem issued_iff {task : AuthTask} {token : String} :
    Issued task token ↔ ∃ data, task.answer? = some (.success (.login data)) ∧ data.token = token := by
  unfold Issued issued?
  split
  · rename_i data answered
    simp [answered]
  · rename_i other
    refine iff_of_false (by simp) ?_
    rintro ⟨data, answered, -⟩
    exact other data answered

/-- The request that accepts a presented token comes after an answer with that
token, if the token was ever drawn. No store fails, both clocks move alike, and a
drawn token is new: no request has drawn or presented it. -/
def Orderly (state : AuthState) : Action Request Choice → Prop
  | .start request => ∀ token ∈ request.operation.token?,
      (∃ task ∈ state.tasks, token ∈ drawn task.trace) → ∃ task ∈ state.tasks, Issued task token
  | .proceed index choice => choice.failure = none ∧ choice.redisElapsed = choice.elapsed ∧
      ∀ task ∈ state.tasks[index]?, task.program.pending? = some .generateToken →
        ∀ token ∈ choice.token.toOption, ∀ other ∈ state.tasks,
          token.val ∉ drawn other.trace ∧ other.request.operation.token? ≠ some token.val

instance (state : AuthState) : (action : Action Request Choice) → Decidable (Orderly state action)
  | .start request => inferInstanceAs (Decidable (∀ token ∈ request.operation.token?,
      (∃ task ∈ state.tasks, token ∈ drawn task.trace) → ∃ task ∈ state.tasks, Issued task token))
  | .proceed index choice => inferInstanceAs (Decidable (choice.failure = none ∧
      choice.redisElapsed = choice.elapsed ∧
      ∀ task ∈ state.tasks[index]?, task.program.pending? = some .generateToken →
        ∀ token ∈ choice.token.toOption, ∀ other ∈ state.tasks,
          token.val ∉ drawn other.trace ∧ other.request.operation.token? ≠ some token.val))

/-- No session is stored yet, and the clocks agree. Runs start on such a store; its users are
arbitrary. -/
structure Fresh (store : Store) : Prop where
  empty : ∀ token, store.redis.table.get? (.session token) = none
  clocks : store.redis.clock = store.clock

/-- The login with which the chain of refreshes began that leads to a token. -/
inductive Origin (tasks : List AuthTask) (root : AuthTask) : String → Prop where
  | login (username password token : String) (member : root ∈ tasks)
      (asked : root.request.operation = .login username password) (issued : Issued root token) :
      Origin tasks root token
  | refresh (old token : String) (task : AuthTask) (origin : Origin tasks root old)
      (member : task ∈ tasks) (asked : task.request.operation = .refresh old)
      (issued : Issued task token) : Origin tasks root token

/-- The login was for the user of the session, and its answer says so. -/
def Names (root : AuthTask) (session : Session) : Prop :=
  (∃ password, root.request.operation = .login session.username password) ∧
    ∃ data, root.answer? = some (.success (.login data)) ∧ data.userId = session.userId ∧
      data.username = session.username ∧ data.email = session.email

/-- The entry holds the session, and is live at least as long as it. -/
structure Holds (entry : Entry Key Value) (session : Session) : Prop where
  value : entry.value = .string (.session session)
  covers : ∀ deadline ∈ entry.deadline, session.expiresAt / 1000000 ≤ deadline

/-- Everything the run keeps. The fields tie what Redis holds to the requests that have stored
it, and their sessions to the tokens they have drawn and the users they have found. -/
structure Consistent (bcrypt : Bcrypt) (sessionTTL : SessionTTL) (stack : Nat)
    (state : AuthState) : Prop where
  traced : (authServer bcrypt sessionTTL stack).Traced state
  clocks : state.store.redis.clock = state.store.clock
  drawnOnce : ∀ first second token, Drew state first token → Drew state second token →
    first = second
  received : ∀ index token, Drew state index token → ∀ task ∈ state.tasks,
    task.request.operation.token? = some token →
    ∃ owner, state.tasks[index]? = some owner ∧ Issued owner token
  entries : ∀ token entry, state.store.redis.table.get? (.session token) = some entry →
    ∃ index session, Kept state index session ∧ session.token = token ∧ Holds entry session
  saw : ∀ task ∈ state.tasks, ∀ token session, Saw task.trace token session →
    session.token = token ∧ ∃ index, Kept state index session
  read : ∀ task ∈ state.tasks, ∀ now ∈ readings task.trace, now ≤ state.store.clock
  byId : ∀ task ∈ state.tasks, ∀ id user,
    ⟨.postgres (.selectUserById id), .ok (some user)⟩ ∈ task.trace →
    user.id = id ∧ state.store.postgres.users.get? user.id = some user
  byName : ∀ task ∈ state.tasks, ∀ username user,
    ⟨.postgres (.selectUserByUsername username), .ok (some user)⟩ ∈ task.trace →
    user.username = username ∧ state.store.postgres.users.get? user.id = some user
  deleted : ∀ task ∈ state.tasks, ∀ event ∈ task.trace, ∀ token,
    event.command.use = .deletes token → state.store.redis.table.get? (.session token) = none
  survives : ∀ index session, Kept state index session →
    state.store.redis.table.get? (.session session.token) ≠ none ∨
      (∃ task ∈ state.tasks, task.request.operation = .logout session.token ∨
        task.request.operation = .refresh session.token) ∨
      session.expiresAt < state.store.clock
  rooted : ∀ index session, Kept state index session →
    (∃ owner, state.tasks[index]? = some owner ∧ Issued owner session.token) →
    ∃ root, Origin state.tasks root session.token ∧ Names root session

section Consistent

variable {bcrypt : Bcrypt} {sessionTTL : SessionTTL} {stack : Nat} {state : AuthState}

/-- One token has one session, stored by one request, because a token is drawn once and a
request stores one session at most. -/
theorem Consistent.keptOnce (consistent : Consistent bcrypt sessionTTL stack state)
    {first second : Nat} {session other : Session} (kept : Kept state first session)
    (again : Kept state second other) (same : session.token = other.token) :
    first = second ∧ session = other := by
  obtain ⟨task, present, member⟩ := kept
  obtain ⟨task', present', member'⟩ := again
  obtain ⟨draw, single, -⟩ := (traced_minted bcrypt sessionTTL stack consistent.traced
    (List.mem_of_getElem? present)).sessions session member
  obtain ⟨draw', single', -⟩ := (traced_minted bcrypt sessionTTL stack consistent.traced
    (List.mem_of_getElem? present')).sessions other member'
  obtain rfl := consistent.drawnOnce first second session.token ⟨task, present, by simp [draw]⟩
    ⟨task', present', by simp [draw', same]⟩
  obtain rfl : task = task' := Option.some.inj (present.symm.trans present')
  exact ⟨rfl, by simpa [single] using single'⟩

/-- The user of a stored session is known under the session's names. The trace that has stored
it has found the user, and users are neither removed nor changed. -/
theorem Consistent.owner (consistent : Consistent bcrypt sessionTTL stack state) {index : Nat}
    {session : Session} (kept : Kept state index session) :
    ∃ user, state.store.postgres.users.get? session.userId = some user ∧ session.For user := by
  obtain ⟨task, present, member⟩ := kept
  have inside := List.mem_of_getElem? present
  obtain ⟨-, -, owner, -⟩ :=
    (traced_minted bcrypt sessionTTL stack consistent.traced inside).sessions session member
  rcases owner with ⟨username, password, user, -, found, owns⟩ |
    ⟨token, old, user, -, -, found, owns⟩
  · exact ⟨user, by rw [owns.1]; exact (consistent.byName task inside username user found).2, owns⟩
  · exact ⟨user, by rw [owns.1]; exact (consistent.byId task inside old.userId user found).2, owns⟩

end Consistent

section Persistence

variable (bcrypt : Bcrypt) (sessionTTL : SessionTTL) (stack : Nat) {state : AuthState}
  (action : Action Request Choice)

/-- An answer with a token is an answer, so the request does not move any more. -/
theorem Issued.answered {task : AuthTask} {token : String} (issued : Issued task token) :
    task.answer?.isSome := by
  obtain ⟨data, answered, -⟩ := issued_iff.mp issued
  simp [answered]

/-- A request that has issued a token stays where and what it is, in every later state. -/
theorem issued_step {task : AuthTask} {token : String} (member : task ∈ state.tasks)
    (issued : Issued task token) :
    task ∈ ((authServer bcrypt sessionTTL stack).step state action).tasks := by
  obtain ⟨index, present⟩ := List.mem_iff_getElem?.mp member
  exact List.mem_of_getElem? (Service.step_keeps_answer action present issued.answered)

/-- Where a token comes from does not change: the chain of refreshes back to its login is made
of answers, and answers stay. -/
theorem origin_step {root : AuthTask} {token : String} (origin : Origin state.tasks root token) :
    Origin ((authServer bcrypt sessionTTL stack).step state action).tasks root token := by
  induction origin with
  | login username password token member asked issued =>
    exact .login username password token (issued_step _ _ _ action member issued) asked issued
  | refresh old token task origin member asked issued inductionHypothesis =>
    exact .refresh old token task inductionHypothesis (issued_step _ _ _ action member issued) asked
      issued

end Persistence

section Consistent

variable {bcrypt : Bcrypt} {sessionTTL : SessionTTL} {stack : Nat} {state : AuthState}

/-- Who stores a session has drawn its token, as the trace of its request shows. -/
theorem Kept.drew (traced : (authServer bcrypt sessionTTL stack).Traced state) {index : Nat}
    {session : Session} (kept : Kept state index session) : Drew state index session.token := by
  obtain ⟨task, present, member⟩ := kept
  obtain ⟨draw, -⟩ := (traced_minted bcrypt sessionTTL stack traced
    (List.mem_of_getElem? present)).sessions session member
  exact ⟨task, present, by simp [draw]⟩

/-- Who issues a token has stored its session, and answers with what that session
says. -/
theorem Issued.kept (traced : (authServer bcrypt sessionTTL stack).Traced state) {index : Nat}
    {task : AuthTask} {token : String} (present : state.tasks[index]? = some task)
    (issued : Issued task token) :
    task.request.operation.opens = true ∧ ∃ session, Kept state index session ∧
      session.token = token ∧ task.answer? = some (.success (.login session.response)) := by
  obtain ⟨data, answered, same⟩ := issued_iff.mp issued
  have admits := traced.answer_admitted (List.mem_of_getElem? present)
    (handleConnection_obeys bcrypt sessionTTL stack task.request) answered
  obtain ⟨opens, session, stores, rfl⟩ := admits.opens data rfl
  exact ⟨opens, session, ⟨task, present, by simp [stores]⟩, same, answered⟩

end Consistent

/-- A request executes its pending command in an orderly way: besides being a move, the
command is allowed to it, drawn tokens are new, and both clocks advance alike. -/
structure Turn (bcrypt : Bcrypt) (sessionTTL : SessionTTL) (stack : Nat) (state next : AuthState)
    (index : Nat) (choice : Choice) (task : AuthTask) (command : Command) : Prop
    extends Move bcrypt (authServer bcrypt sessionTTL stack) state next index choice task command where
  allowed : Allowed sessionTTL task.request.operation task.trace command
  clocks : choice.redisElapsed = choice.elapsed
  new : command = .generateToken → ∀ token, choice.token = .ok token →
    ∀ other ∈ state.tasks, token.val ∉ drawn other.trace ∧
      other.request.operation.token? ≠ some token.val

namespace Turn

variable {bcrypt : Bcrypt} {sessionTTL : SessionTTL} {stack : Nat} {state next : AuthState}
  {index : Nat} {choice : Choice} {task : AuthTask} {command : Command}

section Fields

variable (turn : Turn bcrypt sessionTTL stack state next index choice task command)
  (consistent : Consistent bcrypt sessionTTL stack state)

include turn consistent

/-- The clocks move alike, since the choice of an orderly step lets the same time pass on
both. -/
theorem clocks_kept : next.store.redis.clock = next.store.clock := by
  rw [turn.store, perform_redisClock, perform_clock, turn.clocks, consistent.clocks]

/-- A token is drawn once. A draw of the turn is of a token that nobody has drawn before. -/
theorem drawnOnce_kept (first second : Nat) (token : String) (drew : Drew next first token)
    (again : Drew next second token) : first = second :=
  turn.drawnOnce_moved consistent.drawnOnce
    (fun draws token fresh other member => (turn.new draws token fresh other member).1)
    first second token drew again

/-- A presented token that was drawn has been issued by the request that has drawn
it. -/
theorem received_kept (place : Nat) (token : String) (drew : Drew next place token)
    (other : AuthTask) (member : other ∈ next.tasks)
    (presents : other.request.operation.token? = some token) :
    ∃ owner, next.tasks[place]? = some owner ∧ Issued owner token := by
  obtain ⟨before, old, asked⟩ := turn.requests member
  rw [← asked] at presents
  rcases turn.drew drew with earlier | ⟨rfl, draws, token', fresh, same⟩
  · obtain ⟨owner, present, issued⟩ := consistent.received place token earlier before old presents
    refine ⟨owner, ?_, issued⟩
    rw [turn.steps]
    exact Service.step_keeps_answer _ present issued.answered
  · exact absurd presents (same ▸ (turn.new draws token' fresh before old).2)

/-- The request that stores a session has not answered, so nobody has presented its
token. -/
theorem unpresented {session : Session} (stores : command.use = .stores session)
    (other : AuthTask) (member : other ∈ state.tasks) :
    other.request.operation.token? ≠ some session.token := by
  intro presents
  obtain ⟨-, draw, -⟩ := turn.allowed.stores session stores
  obtain ⟨owner, present, issued⟩ := consistent.received index session.token
    ⟨task, turn.present, by simp [draw]⟩ other member presents
  obtain rfl : task = owner := Option.some.inj (turn.present.symm.trans present)
  have answered := issued.answered
  simp [turn.unanswered] at answered

/-- The entry of a session that is stored now lives as long as the session: its deadline is
the TTL from now on, and the expiry was computed from an earlier reading. -/
theorem stores_entry {session : Session} (stores : command.use = .stores session) :
    ∃ entry, next.store.redis.table.get? (.session session.token) = some entry ∧
      Holds entry session := by
  obtain ⟨rfl, -, -, -, started, read, expires⟩ := turn.allowed.stores session stores
  have waited : (state.store.wait choice).redis.clock = state.store.clock + choice.elapsed := by
    rw [Store.wait, Redis.wait]
    dsimp only
    rw [consistent.clocks, turn.clocks]
  have past := consistent.read task turn.member started read
  refine ⟨session.entry ((state.store.wait choice).redis.deadlineOf sessionTTL.val), ?_, rfl, ?_⟩
  · rw [turn.store]
    simp only [perform, turn.works, Redis.execute, Redis.get?_put, if_true]
    rfl
  · intro deadline held
    unfold Redis.deadlineOf at held
    split at held
    · obtain rfl := Option.some.inj held
      rw [Redis.now, waited, expires]
      omega
    · exact absurd held (by simp [Session.entry])

/-- Every entry under a session key holds a stored session. Either it was there before the
turn, or the turn has stored it. -/
theorem entries_kept (token : String) (entry : Entry Key Value)
    (present : next.store.redis.table.get? (.session token) = some entry) :
    ∃ place session, Kept next place session ∧ session.token = token ∧ Holds entry session := by
  rcases turn.entry_moved present with earlier | ⟨session, uses, rfl, -⟩
  · obtain ⟨place, session, kept, named, holds⟩ := consistent.entries token entry earlier
    exact ⟨place, session, turn.kept_mono kept, named, holds⟩
  · obtain ⟨other, found, holds⟩ := turn.stores_entry consistent uses
    obtain rfl : other = entry := Option.some.inj (found.symm.trans present)
    exact ⟨index, session, turn.keeps uses, rfl, holds⟩

/-- Whatever a request reads under the key of a token is the stored session of that
token. -/
theorem saw_kept (other : AuthTask) (member : other ∈ next.tasks) (token : String)
    (session : Session) (saw : Saw other.trace token session) :
    session.token = token ∧ ∃ place, Kept next place session := by
  refine turn.saw_moved ?_ consistent.saw other member token session saw
  intro token entry present
  obtain ⟨place, session, kept, named, holds⟩ := consistent.entries token entry present
  exact ⟨place, session, kept, named, holds.value⟩

/-- Every reading is in the past, as the clock of the server does not go back. -/
theorem read_kept (other : AuthTask) (member : other ∈ next.tasks) (now : Int)
    (read : now ∈ readings other.trace) : now ≤ next.store.clock := by
  rw [turn.store, perform_clock]
  obtain ⟨event, recorded, reads⟩ := List.mem_filterMap.mp read
  rcases turn.events member recorded with ⟨before, old, -, earlier⟩ | ⟨rfl, -⟩
  · have past := consistent.read before old now (List.mem_filterMap.mpr ⟨event, earlier, reads⟩)
    omega
  · unfold readBy at reads
    split at reads
    · rename_i reading same
      obtain ⟨rfl, result⟩ := Event.mk.inj same
      obtain rfl := Option.some.inj reads
      exact Int.le_of_eq (eq_of_heq result).symm
    · simp at reads

/-- A user who was found by id is known, and found under the same id by any later lookup. -/
theorem byId_kept (other : AuthTask) (member : other ∈ next.tasks) (id : String) (user : User)
    (recorded : ⟨.postgres (.selectUserById id), .ok (some user)⟩ ∈ other.trace) :
    user.id = id ∧ next.store.postgres.users.get? user.id = some user := by
  rcases turn.events member recorded with ⟨before, old, -, earlier⟩ | ⟨same, -⟩
  · obtain ⟨named, known⟩ := consistent.byId before old id user earlier
    exact ⟨named, by rw [turn.store]; exact perform_keeps_user bcrypt command choice state.store known⟩
  · obtain ⟨rfl, result⟩ := Event.mk.inj same
    have found : state.store.postgres.users.get? id = some user := by
      have found := (eq_of_heq result).symm
      apply Postgres.selectUserById_eq_some.mp
      simpa [perform, turn.works, Store.wait] using found
    obtain ⟨-, rfl⟩ := KeyedTable.get?_sound found
    exact ⟨rfl, by rw [turn.store]; exact perform_keeps_user bcrypt _ choice state.store found⟩

/-- A user who was found by name has that name and is known, since names are never changed. -/
theorem byName_kept (other : AuthTask) (member : other ∈ next.tasks) (username : String)
    (user : User)
    (recorded : ⟨.postgres (.selectUserByUsername username), .ok (some user)⟩ ∈ other.trace) :
    user.username = username ∧ next.store.postgres.users.get? user.id = some user := by
  rw [turn.store]
  rcases turn.events member recorded with ⟨before, old, -, earlier⟩ | ⟨same, -⟩
  · obtain ⟨named, known⟩ := consistent.byName before old username user earlier
    exact ⟨named, perform_keeps_user bcrypt command choice state.store known⟩
  · obtain ⟨rfl, result⟩ := Event.mk.inj same
    have found : state.store.postgres.users.rows.find? (fun row => row.username = username) =
        some user := by
      have found := (eq_of_heq result).symm
      apply Postgres.selectUserByUsername_eq_some.mp
      simpa [perform, turn.works, Store.wait] using found
    exact ⟨by simpa using List.find?_some found, perform_keeps_user bcrypt _ choice state.store
      (KeyedTable.get?_complete (List.mem_of_find?_eq_some found))⟩

/-- A deleted key stays empty: nobody stores a session whose token has been
presented. -/
theorem deleted_kept (other : AuthTask) (member : other ∈ next.tasks)
    (event : Event Command Command.Result) (recorded : event ∈ other.trace) (token : String)
    (deletes : event.command.use = .deletes token) :
    next.store.redis.table.get? (.session token) = none := by
  rw [turn.store]
  rcases turn.events member recorded with ⟨before, old, -, earlier⟩ | ⟨rfl, -⟩
  · have gone := consistent.deleted before old event earlier token deletes
    rcases (perform_session bcrypt choice state.store token command
        turn.disciplined).equations with same | ⟨session, deadline, uses, rfl, -⟩ | ⟨-, none⟩
    · rw [same, gone]
    · have presented : before.request.operation.token? = some session.token := by
        have executed := ((issues_handleConnection bcrypt sessionTTL stack before.request).follows
          (consistent.traced before old)).1 event earlier
        rcases executed with same | ⟨named, presents, same | same⟩ | ⟨-, same | ⟨stored, same⟩⟩
        · simp [same] at deletes
        · simp [same] at deletes
        · rw [same] at deletes
          rw [presents, SessionUse.deletes.inj deletes]
        · simp [same] at deletes
        · simp [same] at deletes
      exact absurd presented (turn.unpresented consistent uses before old)
    · exact none
  · obtain rfl : command = .redis (.delete (.session token)) := deletes_command deletes
    exact perform_delete bcrypt choice state.store token turn.works

/-- A stored session is there until its token is revoked or expires. The turn removes its key
only by a deletion, and a validation deletes only what has expired. -/
theorem survives_kept (place : Nat) (session : Session) (kept : Kept next place session) :
    next.store.redis.table.get? (.session session.token) ≠ none ∨
      (∃ other ∈ next.tasks, other.request.operation = .logout session.token ∨
        other.request.operation = .refresh session.token) ∨
      session.expiresAt < next.store.clock := by
  have clock : next.store.clock = state.store.clock + choice.elapsed := by
    rw [turn.store, perform_clock]
  have asked {other : AuthTask} (member : other ∈ state.tasks)
      (revokes : other.request.operation = .logout session.token ∨
        other.request.operation = .refresh session.token) :
      ∃ other ∈ next.tasks, other.request.operation = .logout session.token ∨
        other.request.operation = .refresh session.token := by
    obtain ⟨position, present⟩ := List.mem_iff_getElem?.mp member
    obtain ⟨after, there, same, -⟩ := Service.step_extends (.proceed index choice) present
    refine ⟨after, ?_, same ▸ revokes⟩
    rw [turn.steps]
    exact List.mem_of_getElem? there
  rcases turn.kept kept with earlier | ⟨-, stores⟩
  · rcases consistent.survives place session earlier with there | ⟨other, member, revokes⟩ | expired
    · rcases (perform_session bcrypt choice state.store session.token command
          turn.disciplined).equations with same | ⟨stored, deadline, -, -, same⟩ | ⟨uses, -⟩
      · rw [turn.store, same]
        exact Or.inl there
      · rw [turn.store, same]
        exact Or.inl (by simp)
      · rcases turn.allowed.permits with other | ⟨token, presents, other | other⟩ | ⟨-, other | ⟨stored, other⟩⟩
        · simp [other] at uses
        · simp [other] at uses
        · obtain rfl : token = session.token := SessionUse.deletes.inj (other.symm.trans uses)
          cases operation : task.request.operation with
          | logout token =>
            rw [operation] at presents
            obtain rfl : token = session.token := Option.some.inj presents
            exact Or.inr (Or.inl (asked turn.member (Or.inl operation)))
          | refresh token =>
            rw [operation] at presents
            obtain rfl : token = session.token := Option.some.inj presents
            exact Or.inr (Or.inl (asked turn.member (Or.inr operation)))
          | validate token =>
            rw [operation] at presents
            obtain rfl : token = session.token := Option.some.inj presents
            obtain ⟨found, saw, now, read, late⟩ := turn.allowed.deletes session.token operation uses
            obtain ⟨named, position, kept'⟩ := consistent.saw task turn.member _ found saw
            obtain ⟨-, rfl⟩ := consistent.keptOnce earlier kept' named.symm
            have past := consistent.read task turn.member now read
            exact Or.inr (Or.inr (by omega))
          | register username email password => simp [operation, Operation.token?] at presents
          | login username password => simp [operation, Operation.token?] at presents
          | unknown type => simp [operation, Operation.token?] at presents
        · simp [other] at uses
        · simp [other] at uses
    · exact Or.inr (Or.inl (asked member revokes))
    · exact Or.inr (Or.inr (by omega))
  · obtain ⟨entry, found, -⟩ := turn.stores_entry consistent stores
    exact Or.inl (by simp [found])

/-- A request does not draw the token it presents: what is presented was drawn before, and
draws are new. -/
theorem distinct {token : String} (drew : Drew next index token) :
    task.request.operation.token? ≠ some token := by
  intro presents
  rcases turn.drew drew with earlier | ⟨-, draws, token', fresh, same⟩
  · obtain ⟨owner, present, issued⟩ :=
      consistent.received index token earlier task turn.member presents
    obtain rfl : task = owner := Option.some.inj (turn.present.symm.trans present)
    have answered := issued.answered
    simp [turn.unanswered] at answered
  · exact (turn.new draws token' fresh task turn.member).2 (same ▸ presents)

/-- The old session of a refresh was stored by another request, and names the same
user. -/
theorem rotated (traced : (authServer bcrypt sessionTTL stack).Traced next) {after : AuthTask}
    (present : next.tasks[index]? = some after) {token : String}
    (asked : after.request.operation = .refresh token) {old session : Session} {user : User}
    (saw : Saw after.trace token old)
    (found : ⟨.postgres (.selectUserById old.userId), .ok (some user)⟩ ∈ after.trace)
    (owns : session.For user) :
    ∃ root, Origin next.tasks root token ∧ Names root old ∧ old.userId = session.userId ∧
      old.username = session.username ∧ old.email = session.email := by
  have member := List.mem_of_getElem? present
  obtain ⟨named, place, kept⟩ := turn.saw_kept consistent after member token old saw
  have drew := kept.drew traced
  rw [named] at drew
  obtain ⟨after', tasks, same, -⟩ := turn.scheduled
  obtain ⟨inside, -⟩ := List.getElem?_eq_some_iff.mp turn.present
  obtain rfl : after' = after := by
    rw [tasks, List.getElem?_set_self inside] at present
    exact Option.some.inj present
  have other : place ≠ index := by
    rintro rfl
    exact turn.distinct consistent drew (by rw [← same, asked]; rfl)
  obtain ⟨owner, there, issued⟩ := turn.received_kept consistent place token drew after' member
    (by rw [asked]; rfl)
  have before : state.tasks[place]? = some owner := by
    rwa [tasks, List.getElem?_set_ne (Ne.symm other)] at there
  have earlier : Kept state place old := by
    rcases turn.kept kept with earlier | ⟨here, -⟩
    · exact earlier
    · exact absurd here other
  obtain ⟨root, origin, names⟩ := consistent.rooted place old earlier
    ⟨owner, before, by rw [named]; exact issued⟩
  rw [named] at origin
  refine ⟨root, ?_, names, ?_⟩
  · rw [turn.steps]
    exact origin_step bcrypt sessionTTL stack _ origin
  · obtain ⟨first, known, belongs⟩ := consistent.owner earlier
    obtain ⟨id, known'⟩ := turn.byId_kept consistent after' member old.userId user found
    have still := perform_keeps_user bcrypt command choice state.store known
    rw [← turn.store] at still
    rw [id] at known'
    obtain rfl : first = user := Option.some.inj (still.symm.trans known')
    exact ⟨belongs.1.trans owns.1.symm, belongs.2.1.trans owns.2.1.symm,
      belongs.2.2.trans owns.2.2.symm⟩

/-- Every issued token has an origin, and its session names the user of that
login. -/
theorem rooted_kept (traced : (authServer bcrypt sessionTTL stack).Traced next) (place : Nat)
    (session : Session) (kept : Kept next place session)
    (issues : ∃ owner, next.tasks[place]? = some owner ∧ Issued owner session.token) :
    ∃ root, Origin next.tasks root session.token ∧ Names root session := by
  obtain ⟨owner, there, issued⟩ := issues
  by_cases before : state.tasks[place]? = some owner
  · have earlier : Kept state place session := by
      obtain ⟨other, found, member⟩ := kept
      obtain rfl : owner = other := Option.some.inj (there.symm.trans found)
      exact ⟨owner, before, member⟩
    obtain ⟨root, origin, names⟩ := consistent.rooted place session earlier ⟨owner, before, issued⟩
    refine ⟨root, ?_, names⟩
    rw [turn.steps]
    exact origin_step bcrypt sessionTTL stack _ origin
  · obtain rfl : place = index := by
      by_contra other
      obtain ⟨after, tasks, -⟩ := turn.scheduled
      rw [tasks, List.getElem?_set_ne (Ne.symm other)] at there
      exact before there
    have member := List.mem_of_getElem? there
    obtain ⟨opens, answered, kept', same, response⟩ := Issued.kept traced there issued
    have minted := traced_minted bcrypt sessionTTL stack traced member
    have stores (other : Session) (stored' : Kept next place other) : other ∈ stored owner.trace := by
      obtain ⟨other', found, recorded⟩ := stored'
      obtain rfl : owner = other' := Option.some.inj (there.symm.trans found)
      exact recorded
    obtain ⟨-, single, owned, -⟩ := minted.sessions session (stores session kept)
    obtain rfl : answered = session := by
      have recorded := stores answered kept'
      rw [single] at recorded
      exact List.mem_singleton.mp recorded
    rcases owned with ⟨username, password, user, asked, found, owns⟩ |
      ⟨token, old, user, asked, saw, found, owns⟩
    · have name : answered.username = username :=
        owns.2.1.trans (turn.byName_kept consistent owner member username user found).1
      exact ⟨owner, .login username password answered.token member asked issued,
        ⟨password, by rw [asked, name]⟩, answered.response, response, rfl, rfl, rfl⟩
    · obtain ⟨root, origin, ⟨⟨password, asked'⟩, data, said, id, name, address⟩, sameId, sameName,
        sameAddress⟩ := turn.rotated consistent traced there asked saw found owns
      exact ⟨root, .refresh token answered.token owner origin member asked issued,
        ⟨password, by rw [asked', sameName]⟩, data, said, id.trans sameId, name.trans sameName,
        address.trans sameAddress⟩

/-- A turn keeps the state consistent; each field is kept by the lemma that is named after it.
-/
theorem consistent_kept : Consistent bcrypt sessionTTL stack next := by
  have traced : (authServer bcrypt sessionTTL stack).Traced next := by
    rw [turn.steps]
    exact (authServer bcrypt sessionTTL stack).step_traced state _ consistent.traced
  exact
    { traced := traced
      clocks := turn.clocks_kept consistent
      drawnOnce := turn.drawnOnce_kept consistent
      received := turn.received_kept consistent
      entries := turn.entries_kept consistent
      saw := turn.saw_kept consistent
      read := turn.read_kept consistent
      byId := turn.byId_kept consistent
      byName := turn.byName_kept consistent
      deleted := turn.deleted_kept consistent
      survives := turn.survives_kept consistent
      rooted := turn.rooted_kept consistent traced }

end Fields

end Turn

section Runs

variable {bcrypt : Bcrypt} {sessionTTL : SessionTTL} {stack : Nat} {state : AuthState}

/-- An orderly command is a turn of its request. That it is allowed follows from the handler,
by the trace that the request has left. -/
theorem turn_of_orderly (traced : (authServer bcrypt sessionTTL stack).Traced state) {index : Nat}
    {choice : Choice} {task : AuthTask} {command : Command}
    {resume : command.Result → Handler Response} (present : state.tasks[index]? = some task)
    (pending : task.program = .call command resume)
    (orderly : Orderly state (.proceed index choice)) :
    Turn bcrypt sessionTTL stack state
      { store := (perform bcrypt command choice state.store).2
        tasks := state.tasks.set index
          (task.advance command resume (perform bcrypt command choice state.store).1) }
      index choice task command where
  toMove := move_of_working traced present pending orderly.1
  allowed := traced.pending_allowed (List.mem_of_getElem? present)
    (handleConnection_obeys bcrypt sessionTTL stack task.request) pending
  clocks := orderly.2.1
  new := by
    rintro rfl token fresh other member
    exact orderly.2.2 task (by simp [present]) (by simp [pending]) token
      (by simp [fresh, Except.toOption]) other member

/-- Accepting a request that presents no token before its answer keeps the state
consistent. -/
theorem Consistent.accepted (consistent : Consistent bcrypt sessionTTL stack state)
    {request : Request} (orderly : Orderly state (.start request)) :
    Consistent bcrypt sessionTTL stack
      ((authServer bcrypt sessionTTL stack).step state (.start request)) := by
  have earlier {task : AuthTask}
      (member : task ∈ ((authServer bcrypt sessionTTL stack).step state (.start request)).tasks) :
      task ∈ state.tasks ∨ task = (authServer bcrypt sessionTTL stack).accept request := by
    cases List.mem_append.mp member with
    | inl member => exact Or.inl member
    | inr member => exact Or.inr (List.mem_singleton.mp member)
  exact
    { traced := (authServer bcrypt sessionTTL stack).step_traced state _ consistent.traced
      clocks := consistent.clocks
      drawnOnce := fun first second token drew again =>
        consistent.drawnOnce first second token (drew_accepted drew) (drew_accepted again)
      received := by
        intro index token drew task member presents
        rcases earlier member with member | rfl
        · obtain ⟨owner, present, issued⟩ :=
            consistent.received index token (drew_accepted drew) task member presents
          exact ⟨owner, Service.step_keeps_answer _ present issued.answered, issued⟩
        · obtain ⟨drawer, found, draws⟩ := drew_accepted drew
          obtain ⟨owner, inside, issued⟩ :=
            orderly token (Option.mem_def.mpr presents) ⟨drawer, List.mem_of_getElem? found, draws⟩
          obtain ⟨place, present⟩ := List.mem_iff_getElem?.mp inside
          obtain ⟨-, session, kept, named, -⟩ := issued.kept consistent.traced present
          obtain rfl := consistent.drawnOnce index place token ⟨drawer, found, draws⟩
            (named ▸ kept.drew consistent.traced)
          exact ⟨owner, Service.step_keeps_answer _ present issued.answered, issued⟩
      entries := by
        intro token entry present
        obtain ⟨index, session, kept, holds⟩ := consistent.entries token entry present
        exact ⟨index, session, kept_step (authServer bcrypt sessionTTL stack) _ kept, holds⟩
      saw := by
        rintro task member token session ⟨text, event, decoded⟩
        obtain ⟨named, index, kept⟩ :=
          consistent.saw task (accepted_recorded member event) token session ⟨text, event, decoded⟩
        exact ⟨named, index, kept_step (authServer bcrypt sessionTTL stack) _ kept⟩
      read := by
        intro task member now read
        obtain ⟨event, inside, reads⟩ := List.mem_filterMap.mp read
        exact consistent.read task (accepted_recorded member inside) now
          (List.mem_filterMap.mpr ⟨event, inside, reads⟩)
      byId := fun task member id user event =>
        consistent.byId task (accepted_recorded member event) id user event
      byName := fun task member username user event =>
        consistent.byName task (accepted_recorded member event) username user event
      deleted := fun task member event inside token deletes =>
        consistent.deleted task (accepted_recorded member inside) event inside token deletes
      survives := by
        intro index session kept
        rcases consistent.survives index session (kept_accepted kept) with
          there | ⟨task, member, revokes⟩ | expired
        · exact Or.inl there
        · exact Or.inr (Or.inl ⟨task, List.mem_append_left _ member, revokes⟩)
        · exact Or.inr (Or.inr expired)
      rooted := by
        rintro index session kept ⟨owner, present, issued⟩
        obtain ⟨keeper, found, member⟩ := kept_accepted kept
        obtain ⟨inside, -⟩ := List.getElem?_eq_some_iff.mp found
        have before : state.tasks[index]? = some owner := by
          rw [← present]
          exact (List.getElem?_append_left inside).symm
        obtain ⟨root, origin, names⟩ :=
          consistent.rooted index session ⟨keeper, found, member⟩ ⟨owner, before, issued⟩
        exact ⟨root, origin_step bcrypt sessionTTL stack _ origin, names⟩ }

/-- An orderly step keeps the state consistent, whether it accepts a request or lets one
execute its command. -/
theorem Consistent.step (consistent : Consistent bcrypt sessionTTL stack state)
    (action : Action Request Choice) (orderly : Orderly state action) :
    Consistent bcrypt sessionTTL stack ((authServer bcrypt sessionTTL stack).step state action) := by
  cases action with
  | start request => exact consistent.accepted orderly
  | proceed index choice =>
    generalize after : (authServer bcrypt sessionTTL stack).step state (.proceed index choice) = next
    have transition : (authServer bcrypt sessionTTL stack).Transition state _ next :=
      after ▸ (authServer bcrypt sessionTTL stack).step_transition state _
    cases transition with
    | idle index choice nothing => exact consistent
    | proceeded index choice task command resume present pending =>
      exact (turn_of_orderly consistent.traced present pending orderly).consistent_kept consistent

/-- So does an orderly run, in which every step is orderly in the state in which it is taken;
the induction is that of the service. -/
theorem Consistent.run (consistent : Consistent bcrypt sessionTTL stack state)
    (actions : List (Action Request Choice))
    (orderly : (authServer bcrypt sessionTTL stack).Along Orderly state actions) :
    Consistent bcrypt sessionTTL stack ((authServer bcrypt sessionTTL stack).run state actions) :=
  (authServer bcrypt sessionTTL stack).run_invariant (Consistent bcrypt sessionTTL stack)
    (fun _ action consistent orderly => consistent.step action orderly) state actions consistent
    orderly

/-- Before the first request, a fresh store is consistent: there is no session, and no trace
that would have to be accounted for. -/
theorem Fresh.consistent (bcrypt : Bcrypt) (sessionTTL : SessionTTL) (stack : Nat) {store : Store}
    (fresh : Fresh store) :
    Consistent bcrypt sessionTTL stack (Service.idleState store) where
  traced := (authServer bcrypt sessionTTL stack).idleState_traced store
  clocks := fresh.clocks
  drawnOnce := fun first second token drew => by simp [Drew] at drew
  received := fun index token drew => by simp [Drew] at drew
  entries := fun token entry present => by simp [fresh.empty token] at present
  saw := fun task member => absurd member (by simp)
  read := fun task member => absurd member (by simp)
  byId := fun task member => absurd member (by simp)
  byName := fun task member => absurd member (by simp)
  deleted := fun task member => absurd member (by simp)
  survives := fun index session kept => by simp [Kept] at kept
  rooted := fun index session kept => by simp [Kept] at kept

end Runs

end ShoppingCS.Auth
