import ShoppingCS.Interleaving.Indifference
import ShoppingCS.Auth.Logout

/-!
# Stores that are written and never read

The server keeps its sessions twice and notes the logins of its connections in Redis. No
answer depends on the second copy or on the notes: a server that never reaches the table
`user_sessions`, nor the keys of connections, gives the same answers, also when expired
rows are cleaned up at any time.
-/

namespace ShoppingCS.Auth

open Interleaving Program Storage

/-- `SessionRepository.CleanExpiredSessions`, when `NOW()` is this instant. Nothing calls it,
but it may be run. -/
def Postgres.cleanExpiredSessions (postgres : Postgres) (now : Int) : Postgres :=
  postgres.keepSessions (fun row => !decide (row.expiresAt < now))

/-- The store when the expired rows have been cleaned up, with Redis as it was. -/
def Store.cleanExpiredSessions (now : Int) (store : Store) : Store :=
  { store with postgres := store.postgres.cleanExpiredSessions now }

/-- The commands of a connection's key and of the table `user_sessions`. -/
def Command.unheard : Command → Bool
  | .redis command =>
    match command.key with
    | .connection _ => true
    | _ => false
  | .postgres (.insertSession _) => true
  | .postgres (.deleteSession _) => true
  | .postgres (.deleteUserSessions _) => true
  | _ => false

/-- The server without the table and without these keys: all of their commands fail. -/
def unplugged (bcrypt : Bcrypt) (sessionTTL : SessionTTL) (stack : Nat) :
    Service Request Command Command.Result Response Store Choice where
  handler := handleConnection bcrypt sessionTTL stack
  perform command choice store :=
    perform bcrypt command
      (if command.unheard then { choice with failure := some "unplugged" } else choice) store

/-- The stores differ in session rows and in keys of connections only. -/
structure SameSessions (left right : Store) : Prop extends Agrees left right where
  entries : ∀ key, (∀ connId, key ≠ .connection connId) →
    left.redis.table.get? key = right.redis.table.get? key

section Commands

/-- A command does to its key what the entry says. -/
theorem Redis.execute_congr {left right : Redis} (command : RedisCommand)
    (clock : left.clock = right.clock)
    (entry : left.table.get? command.key = right.table.get? command.key) :
    (left.execute command).1 = (right.execute command).1 ∧
      (left.execute command).2.table.get? command.key =
        (right.execute command).2.table.get? command.key := by
  have now : left.now = right.now := by rw [Redis.now, Redis.now, clock]
  have found : left.find? command.key = right.find? command.key := by
    simp only [Redis.find?, ExpiringTable.find?, entry, now]
  have deadline (expiration : Int) : left.deadlineOf expiration = right.deadlineOf expiration := by
    simp only [Redis.deadlineOf, now]
  have put (value : Value) (deadline : Option Int) :
      (left.put command.key value deadline).table.get? command.key =
        (right.put command.key value deadline).table.get? command.key := by
    rw [Redis.get?_put, Redis.get?_put, if_pos rfl, if_pos rfl]
  have removed : (left.remove command.key).table.get? command.key =
      (right.remove command.key).table.get? command.key := by
    rw [Redis.get?_remove, Redis.get?_remove, if_pos rfl, if_pos rfl]
  cases command with
  | set key text expiration => exact ⟨rfl, by rw [Redis.execute, Redis.execute, deadline]; exact put _ _⟩
  | delete key => exact ⟨rfl, removed⟩
  | get key =>
    simp only [RedisCommand.key] at found entry
    simp only [Redis.execute, found]
    split <;> exact ⟨rfl, entry⟩
  | sAdd key member =>
    simp only [RedisCommand.key] at found entry put
    simp only [Redis.execute, found]
    split
    · exact ⟨rfl, put _ _⟩
    · exact ⟨rfl, entry⟩
    · exact ⟨rfl, put _ _⟩
  | sMembers key =>
    simp only [RedisCommand.key] at found entry
    simp only [Redis.execute, found]
    split <;> exact ⟨rfl, entry⟩
  | sRem key member =>
    simp only [RedisCommand.key] at found entry put removed
    simp only [Redis.execute, found]
    split
    · exact ⟨rfl, entry⟩
    · exact ⟨rfl, entry⟩
    · split
      · exact ⟨rfl, removed⟩
      · exact ⟨rfl, put _ _⟩
  | expire key expiration =>
    simp only [RedisCommand.key] at found entry put removed
    simp only [Redis.execute, found, deadline]
    split
    · exact ⟨rfl, entry⟩
    · split
      · exact ⟨rfl, put _ _⟩
      · exact ⟨rfl, removed⟩

/-- A statement on users depends on the users only, and changes them alike. -/
theorem Postgres.execute_congr {left right : Postgres} {statement : Statement}
    (heard : (Command.postgres statement).unheard = false) (users : left.users = right.users) :
    (left.execute statement).1 = (right.execute statement).1 ∧
      (left.execute statement).2.users = (right.execute statement).2.users := by
  have carried : (left.carryOut statement).1 = (right.carryOut statement).1 ∧
      (left.carryOut statement).2.users = (right.carryOut statement).2.users := by
    cases statement with
    | userExists username email => simp only [Postgres.carryOut, users, and_self]
    | insertUser user =>
      simp only [Postgres.carryOut]
      split
      · obtain ⟨users', sessions, usernames, emails, refers, texts, tokens⟩ := left
        obtain ⟨others, sessions', usernames', emails', refers', texts', tokens'⟩ := right
        obtain rfl : users' = others := users
        unfold Postgres.insertUser
        split_ifs <;> exact ⟨rfl, rfl⟩
      · exact ⟨rfl, users⟩
    | selectUserByUsername username => simp only [Postgres.carryOut, users, and_self]
    | selectUserById id => simp only [Postgres.carryOut, users, and_self]
    | insertSession row => simp [Command.unheard] at heard
    | deleteSession token => simp [Command.unheard] at heard
    | deleteUserSessions userId => simp [Command.unheard] at heard
  unfold Postgres.execute
  split
  · exact ⟨rfl, users⟩
  · exact carried

/-- A statement on user_sessions leaves the users alone, so what the handlers read of
PostgreSQL stays as it is. -/
theorem Postgres.execute_unheard {statement : Statement}
    (unheard : (Command.postgres statement).unheard = true) (postgres : Postgres) :
    (postgres.execute statement).2.users = postgres.users := by
  apply postgres.execute_users
  rintro user rfl
  simp [Command.unheard] at unheard

variable (bcrypt : Bcrypt) {left right : Store}

/-- Time passes alike in both stores, on the clocks and on the keys Redis drops. -/
theorem SameSessions.wait (same : SameSessions left right) (choice : Choice) :
    SameSessions (left.wait choice) (right.wait choice) where
  clock := by simp [Store.wait, same.clock]
  redisClock := by simp [Store.wait, Redis.wait, same.redisClock]
  users := same.users
  entries := same.entries

/-- A command that is heard sees no difference and makes none. -/
theorem perform_heard (command : Command) (choice : Choice) (heard : command.unheard = false)
    (same : SameSessions left right) :
    (perform bcrypt command choice left).1 = (perform bcrypt command choice right).1 ∧
      SameSessions (perform bcrypt command choice left).2 (perform bcrypt command choice right).2 := by
  have waited := same.wait choice
  cases command with
  | redis command =>
    have plain : ∀ connId, command.key ≠ .connection connId := by
      intro connId about
      simp [Command.unheard, about] at heard
    cases failing : choice.failure with
    | some error =>
      simp only [perform, failing]
      exact ⟨trivial, waited⟩
    | none =>
      have alike := Redis.execute_congr command waited.redisClock (waited.entries _ plain)
      simp only [perform, failing]
      refine ⟨alike.1, ⟨waited.clock, ?_, waited.users⟩, ?_⟩
      · rw [Redis.execute_clock, Redis.execute_clock]
        exact waited.redisClock
      · intro key other
        by_cases own : command.key = key
        · rw [← own]
          exact alike.2
        · rw [Redis.execute_other _ _ own, Redis.execute_other _ _ own]
          exact waited.entries key other
  | postgres statement =>
    cases failing : choice.failure with
    | some error =>
      simp only [perform, failing]
      exact ⟨trivial, waited⟩
    | none =>
      have alike := Postgres.execute_congr heard waited.users
      simp only [perform, failing]
      exact ⟨alike.1, ⟨waited.clock, waited.redisClock, alike.2⟩, waited.entries⟩
  | timeNow => exact ⟨waited.clock, waited⟩
  | _ => exact ⟨rfl, waited⟩

/-- A command that goes unheard takes its time and makes no difference that matters. -/
theorem perform_unheard (command : Command) (choice : Choice) (unheard : command.unheard = true)
    (store : Store) : SameSessions (perform bcrypt command choice store).2 (store.wait choice) := by
  have here : SameSessions (store.wait choice) (store.wait choice) :=
    ⟨⟨rfl, rfl, rfl⟩, fun _ _ => rfl⟩
  cases command with
  | redis command =>
    cases failing : choice.failure with
    | some error =>
      simp only [perform, failing]
      exact here
    | none =>
      simp only [perform, failing]
      refine ⟨⟨rfl, Redis.execute_clock _ _, rfl⟩, ?_⟩
      intro key other
      apply Redis.execute_other
      intro own
      cases key with
      | connection connId => exact other connId rfl
      | session token => simp [Command.unheard, own] at unheard
      | userSessions userId => simp [Command.unheard, own] at unheard
  | postgres statement =>
    cases failing : choice.failure with
    | some error =>
      simp only [perform, failing]
      exact here
    | none =>
      simp only [perform, failing]
      exact ⟨⟨rfl, rfl, Postgres.execute_unheard unheard _⟩, fun _ _ => rfl⟩
  | _ => simp [Command.unheard] at unheard

theorem SameSessions.trans {middle : Store} (first : SameSessions left middle)
    (second : SameSessions middle right) : SameSessions left right where
  clock := first.clock.trans second.clock
  redisClock := first.redisClock.trans second.redisClock
  users := first.users.trans second.users
  entries := fun key other => (first.entries key other).trans (second.entries key other)

theorem SameSessions.symm (same : SameSessions left right) : SameSessions right left where
  clock := same.clock.symm
  redisClock := same.redisClock.symm
  users := same.users.symm
  entries := fun key other => (same.entries key other).symm

end Commands

section Handlers

/-- The command is heard: its result can make a difference to what the handler does next. -/
def Heard (command : Command) : Prop := command.unheard = false

/-- The command goes unheard: it is on a connection's key or on the table `user_sessions`, and
no handler uses its result. -/
def Unheard (command : Command) : Prop := command.unheard = true

/-- A handler listens to no session row and to no key of a connection. -/
def Deaf {α : Type} (handler : Handler α) : Prop := handler.Indifferent Heard Unheard

variable (bcrypt : Bcrypt) (sessionTTL : SessionTTL) (stack : Nat)

/-- A lookup of a user issues one command, which is heard. -/
theorem deaf_getUserById (userId : String) : Deaf (getUserById userId) :=
  Issues.indifferent ((getUserById_calls userId).mono (fun _ same => same ▸ rfl))

/-- The deletions behind a lookup go on alike whatever the deletion of the row returns. -/
theorem deaf_clearSession (token : String) (found : Except String Session) :
    Deaf (clearSession token found) := by
  cases found with
  | error error =>
    exact ⟨Or.inl rfl, fun _ => ⟨Or.inr ⟨rfl, fun _ _ => rfl⟩, fun _ => trivial⟩⟩
  | ok session =>
    exact ⟨Or.inl rfl, fun _ => ⟨Or.inl rfl, fun _ => ⟨Or.inr ⟨rfl, fun _ _ => rfl⟩, fun _ => trivial⟩⟩⟩

/-- Lookups and deletions call each other, so both are deaf by one induction on the depth. -/
theorem deaf_sessionCalls (token : String) :
    Deaf (getSession stack token) ∧ Deaf (deleteSession stack token) := by
  induction stack with
  | zero => exact ⟨trivial, trivial⟩
  | succ stack inductionHypothesis =>
    obtain ⟨lookup, deletion⟩ := inductionHypothesis
    constructor
    · rw [getSession_succ]
      have reads : Deaf (redisGet (.session token)) :=
        Issues.indifferent ((redisGet_calls (.session token)).mono (fun _ same => same ▸ rfl))
      apply Indifferent.bind reads
      intro found
      cases found with
      | error error => trivial
      | ok session =>
        refine ⟨Or.inl rfl, ?_⟩
        intro now
        change (judgeSession stack token session now).Indifferent Heard Unheard
        unfold judgeSession
        split
        · exact Indifferent.bind deletion (fun _ => trivial)
        · trivial
    · rw [deleteSession_succ]
      exact Indifferent.bind lookup (deaf_clearSession token)

/-- The creation of a session logs the error of its insertion and returns the session all the
same. -/
theorem deaf_createSession (user : User) : Deaf (createSession sessionTTL user) := by
  refine Indifferent.bind ⟨Or.inl rfl, ?_⟩ ?_
  · intro drawn
    cases drawn <;> trivial
  · intro drawn
    cases drawn with
    | error error => trivial
    | ok token =>
      refine ⟨Or.inl rfl, fun started => ⟨Or.inl rfl, fun createdAt => ⟨Or.inl rfl, ?_⟩⟩⟩
      intro stored
      cases stored with
      | error error => trivial
      | ok _ =>
        refine ⟨Or.inl rfl, ?_⟩
        intro added
        cases added with
        | error error => trivial
        | ok _ => exact ⟨Or.inl rfl, fun _ => ⟨Or.inr ⟨rfl, fun _ _ => rfl⟩, fun _ => trivial⟩⟩

/-- The check of a token reads a session and a user, and any deletion on the way is deaf
already. -/
theorem deaf_validateToken (token : String) : Deaf (validateToken stack token) := by
  unfold validateToken
  split
  · trivial
  · apply Indifferent.bind (deaf_sessionCalls stack token).1
    intro found
    cases found with
    | error error => trivial
    | ok session =>
      apply Indifferent.bind (deaf_getUserById session.userId)
      intro user
      cases user <;> trivial

/-- A rotation is a lookup, a deletion and a creation, which are deaf each. -/
theorem deaf_refreshSession (token : String) : Deaf (refreshSession sessionTTL stack token) := by
  apply Indifferent.bind (deaf_sessionCalls stack token).1
  intro found
  cases found with
  | error error => trivial
  | ok session =>
    apply Indifferent.bind (deaf_getUserById session.userId)
    intro user
    cases user with
    | error error => trivial
    | ok user =>
      exact Indifferent.bind (deaf_sessionCalls stack token).2
        (fun _ => deaf_createSession sessionTTL user)

/-- A registration issues heard commands only, so there is nothing to be deaf to. -/
theorem deaf_register (username email password : String) : Deaf (register username email password) := by
  apply Issues.indifferent
  apply (register_calls username email password).mono
  intro command calls
  cases calls <;> rfl

/-- A login issues heard commands up to the creation of its session, which is deaf. -/
theorem deaf_login (username password : String) :
    Deaf (login bcrypt sessionTTL username password) := by
  unfold login
  split_ifs
  · trivial
  · trivial
  · have asks : Deaf (getUserByUsername username) :=
      Issues.indifferent ((getUserByUsername_calls username).mono (fun _ same => same ▸ rfl))
    apply Indifferent.bind asks
    intro user
    cases user with
    | error error => trivial
    | ok user =>
      dsimp only
      split
      · trivial
      · apply Indifferent.bind (deaf_createSession sessionTTL user)
        intro session
        cases session <;> trivial

/-- Every request is deaf to the statements on sessions. The cases are the five operations. -/
theorem deaf_handleConnection (request : Request) :
    Deaf (handleConnection bcrypt sessionTTL stack request) := by
  obtain ⟨connId, operation⟩ := request
  cases operation with
  | register username email password =>
    change Deaf (handleRegister username email password)
    unfold handleRegister
    split_ifs
    · trivial
    · apply Indifferent.bind (deaf_register username email password)
      intro user
      cases user <;> trivial
  | login username password =>
    apply Indifferent.bind
    · unfold handleLogin
      split_ifs
      · trivial
      · apply Indifferent.bind (deaf_login bcrypt sessionTTL username password)
        intro session
        cases session <;> trivial
    · intro response
      unfold rememberLogin
      split
      · exact ⟨Or.inr ⟨rfl, fun _ _ => rfl⟩, fun _ => trivial⟩
      · trivial
  | logout token =>
    change Deaf (handleLogout stack token)
    unfold handleLogout logout
    split_ifs
    · trivial
    · apply Indifferent.bind
      · exact Indifferent.bind (deaf_sessionCalls stack token).2 (fun _ => trivial)
      · intro result
        cases result <;> trivial
  | validate token =>
    change Deaf (handleValidate stack token)
    unfold handleValidate
    split_ifs
    · trivial
    · apply Indifferent.bind (deaf_validateToken stack token)
      intro user
      cases user <;> trivial
  | refresh token =>
    change Deaf (handleRefresh sessionTTL stack token)
    unfold handleRefresh
    split_ifs
    · trivial
    · apply Indifferent.bind (deaf_validateToken stack token)
      intro user
      cases user with
      | error error => trivial
      | ok user =>
        apply Indifferent.bind (deaf_refreshSession sessionTTL stack token)
        intro session
        cases session <;> trivial
  | unknown type => trivial

/-- The unplugged server performs what is heard exactly as the server does. -/
theorem unplugged_heard {command : Command} (heard : Heard command) (choice : Choice) (store : Store) :
    (unplugged bcrypt sessionTTL stack).perform command choice store =
      perform bcrypt command choice store := by
  change command.unheard = false at heard
  simp only [unplugged, heard, Bool.false_eq_true, if_false]

/-- Where nobody listens the unplugged server fails, as the server would if the store failed
there. -/
theorem unplugged_unheard {command : Command} (unheard : Unheard command) (choice : Choice)
    (store : Store) :
    (unplugged bcrypt sessionTTL stack).perform command choice store =
      perform bcrypt command { choice with failure := some "unplugged" } store := by
  change command.unheard = true at unheard
  simp only [unplugged, unheard, if_true]

/-- The server and the unplugged one are interchangeable: a run of one is a run of the other,
with the same answers and the same sessions. -/
def interchange : (authServer bcrypt sessionTTL stack).Interchange
    (unplugged bcrypt sessionTTL stack) where
  heard := Heard
  unheard := Unheard
  sameView := SameSessions
  handlers := fun _ => rfl
  indifferent := deaf_handleConnection bcrypt sessionTTL stack
  results := by
    intro command choice left right heard same
    rw [unplugged_heard bcrypt sessionTTL stack heard]
    exact (perform_heard bcrypt command choice heard same).1
  keeps := by
    intro command choice left right heard same
    rw [unplugged_heard bcrypt sessionTTL stack heard]
    exact (perform_heard bcrypt command choice heard same).2
  ignores := by
    intro command choice left right unheard same
    rw [unplugged_unheard bcrypt sessionTTL stack unheard]
    have there := perform_unheard bcrypt command { choice with failure := some "unplugged" } unheard right
    exact (perform_unheard bcrypt command choice unheard left).trans
      ((same.wait choice).trans there.symm)

end Handlers

/-- In every run, whatever fails in it and whenever expired rows are cleaned up, the
requests are answered as by the server that has neither the table of session rows nor
the keys of connections, and the rest of the stores is the same. -/
theorem backup_never_consulted (bcrypt : Bcrypt) (sessionTTL : SessionTTL) (stack : Nat)
    (initial : Store) (moves : List (Int ⊕ Action Request Choice)) :
    let reached := Runs.run
      ((authServer bcrypt sessionTTL stack).disturbedStep Store.cleanExpiredSessions)
      (Service.idleState initial) moves
    let other := (unplugged bcrypt sessionTTL stack).run (Service.idleState initial)
      (moves.filterMap Sum.getRight?)
    reached.tasks.map (fun task => (task.request, task.answer?)) =
        other.tasks.map (fun task => (task.request, task.answer?)) ∧
      SameSessions reached.store other.store := by
  have initially : (interchange bcrypt sessionTTL stack).Interchanged (Service.idleState initial)
      (Service.idleState initial) :=
    ⟨⟨⟨rfl, rfl, rfl⟩, fun _ _ => rfl⟩, .nil, fun task member => absurd member (by simp)⟩
  have cleaned (now : Int) (left right : Store) (same : SameSessions left right) :
      SameSessions (left.cleanExpiredSessions now) right :=
    ⟨⟨same.clock, same.redisClock, same.users⟩, same.entries⟩
  have ended := initially.run Store.cleanExpiredSessions cleaned moves
  exact ⟨ended.answers, ended.view⟩

end ShoppingCS.Auth
