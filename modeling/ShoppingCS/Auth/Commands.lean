import ShoppingCS.Auth.Server

/-!
# What the commands of a request can do

A command changes one key of Redis at most, never changes a user, and moves the
clocks forward. The handlers use the session keys with discipline: they are read,
deleted, and written with a session of that token only.
-/

namespace ShoppingCS.Auth

open Interleaving Program Storage

/-- `GetSession` after its reading of the clock: an expired session is deleted and reported as
such, any other one is returned. -/
def judgeSession (stack : Nat) (token : String) (session : Session) (now : Int) :
    Handler (Except String Session) :=
  if session.expiresAt < now then do
    deleteSession stack token
    pure (.error "session expired")
  else pure (.ok session)

/-- `GetSession` after its read. Every error of the read gives the same answer, and a session
is judged at the time that the clock then shows. -/
def checkSession (stack : Nat) (token : String) :
    Except String Session → Handler (Except String Session)
  | .error _ => pure (.error "session not found or expired")
  | .ok session => timeNow >>= judgeSession stack token session

/-- A lookup is a read and what follows it. The two parts are named so that proofs can stop
between the two commands. -/
theorem getSession_succ (stack : Nat) (token : String) :
    getSession (stack + 1) token = (redisGet (.session token) >>= checkSession stack token) := rfl

/-- `DeleteSession` after its lookup. The key and the backup row are deleted either way, and
the list only when the lookup has said whose it is. -/
def clearSession (token : String) : Except String Session → Handler Unit
  | .error _ => do
    let _ ← askRedis (.delete (.session token))
    let _ ← query (.deleteSession token)
    pure ()
  | .ok session => do
    let _ ← askRedis (.delete (.session token))
    let _ ← askRedis (.sRem (.userSessions session.userId) token)
    let _ ← query (.deleteSession token)
    pure ()

/-- A deletion is a lookup and what follows it, so that its `DEL` always comes after the
commands of a whole `GetSession`. -/
theorem deleteSession_succ (stack : Nat) (token : String) :
    deleteSession (stack + 1) token = (getSession stack token >>= clearSession token) := rfl

/-- `Login` after its comparison of the password: a session is created only if the comparison
has succeeded. -/
def finishLogin (sessionTTL : SessionTTL) (user : User) :
    Except String Unit → Handler (Except String Session)
  | .error _ => pure (.error "invalid username or password")
  | .ok _ => do
    match ← createSession sessionTTL user with
    | .error error => pure (.error ("failed to create session: " ++ error))
    | .ok session => pure (.ok session)

/-- The answer to a refresh that has ended: the data of the new session, or the error of the
service as it is. -/
def sendRefreshed : Except String Session → Handler Response
  | .error error => pure (.error error)
  | .ok session => pure (.success (.login session.response))

/-- The key a Redis command is about; each command of the client names exactly one. -/
def RedisCommand.key : RedisCommand → Key
  | .set key _ _ => key
  | .get key => key
  | .delete key => key
  | .sAdd key _ => key
  | .sMembers key => key
  | .sRem key _ => key
  | .expire key _ => key

namespace Redis

@[simp] theorem put_clock (redis : Redis) (key : Key) (value : Value) (deadline : Option Int) :
    (redis.put key value deadline).clock = redis.clock := rfl

@[simp] theorem remove_clock (redis : Redis) (key : Key) :
    (redis.remove key).clock = redis.clock := rfl

/-- A stored value is found under its key, and the other keys are as they were. -/
theorem get?_put (redis : Redis) (key : Key) (value : Value) (deadline : Option Int)
    (wanted : Key) :
    (redis.put key value deadline).table.get? wanted =
      if key = wanted then some ⟨key, value, deadline⟩ else redis.table.get? wanted :=
  KeyedTable.get?_put redis.table ⟨key, value, deadline⟩ wanted

/-- A removed key is gone, and the other keys are as they were. -/
theorem get?_remove (redis : Redis) (key wanted : Key) :
    (redis.remove key).table.get? wanted =
      if key = wanted then none else redis.table.get? wanted :=
  KeyedTable.get?_remove redis.table key wanted

/-- A command takes no time of its own. Time passes before it, by the choice of the
environment. -/
@[simp] theorem execute_clock (redis : Redis) (command : RedisCommand) :
    (redis.execute command).2.clock = redis.clock := by
  cases command with
  | set key text expiration => rfl
  | delete key => rfl
  | get key => rw [execute]; split <;> rfl
  | sAdd key member => rw [execute]; split <;> rfl
  | sMembers key => rw [execute]; split <;> rfl
  | sRem key member =>
    rw [execute]
    split
    · rfl
    · rfl
    · split <;> rfl
  | expire key expiration =>
    rw [execute]
    split
    · rfl
    · split <;> rfl

/-- A command leaves the other keys alone. What it does under its own key depends on the
command, and is said by its definition. -/
theorem execute_other (redis : Redis) (command : RedisCommand) {wanted : Key}
    (other : command.key ≠ wanted) :
    (redis.execute command).2.table.get? wanted = redis.table.get? wanted := by
  have put (value : Value) (deadline : Option Int) :
      (redis.put command.key value deadline).table.get? wanted = redis.table.get? wanted := by
    rw [get?_put, if_neg other]
  have removed : (redis.remove command.key).table.get? wanted = redis.table.get? wanted := by
    rw [get?_remove, if_neg other]
  cases command with
  | set key text expiration => exact put _ _
  | delete key => exact removed
  | get key => rw [execute]; split <;> rfl
  | sAdd key member =>
    rw [execute]
    split
    · exact put _ _
    · rfl
    · exact put _ _
  | sMembers key => rw [execute]; split <;> rfl
  | sRem key member =>
    rw [execute]
    split
    · rfl
    · rfl
    · split
      · exact removed
      · exact put _ _
  | expire key expiration =>
    rw [execute]
    split
    · rfl
    · split
      · exact put _ _
      · exact removed

/-- A read changes nothing, not even when it finds a value of the wrong kind. -/
theorem execute_get (redis : Redis) (key : Key) : (redis.execute (.get key)).2 = redis := by
  rw [execute]
  split <;> rfl

/-- A read returns the text of the entry it finds, and an entry is found only while it is
live. -/
theorem execute_get_text (redis : Redis) (key : Key) (text : Text) :
    (redis.execute (.get key)).1 = .ok (some text) ↔
      ∃ entry, redis.find? key = some entry ∧ entry.value = .string text := by
  rw [execute]
  split
  · rename_i absent
    simp [absent]
  · rename_i found text' deadline present
    simp [present]
  · rename_i found tokens deadline present
    simp [present]

/-- A read of a key without an entry finds nothing, whatever the clock says. -/
theorem execute_get_absent (redis : Redis) (key : Key) (absent : redis.table.get? key = none) :
    (redis.execute (.get key)).1 = .ok none := by
  have unseen : redis.find? key = none := ExpiringTable.find?_absent absent redis.now
  rw [execute, unseen]

end Redis

section Perform

variable (bcrypt : Bcrypt) (command : Command) (choice : Choice) (store : Store)

/-- The server's clock moves by the time that passes, whatever the command is and however it
ends. -/
@[simp] theorem perform_clock :
    (perform bcrypt command choice store).2.clock = store.clock + choice.elapsed := by
  cases command with
  | redis command => cases failing : choice.failure <;> simp [perform, failing, Store.wait]
  | postgres statement => cases failing : choice.failure <;> simp [perform, failing, Store.wait]
  | _ => rfl

/-- So does that of Redis, by the time that passes there. The two amounts are chosen
independently of each other. -/
@[simp] theorem perform_redisClock :
    (perform bcrypt command choice store).2.redis.clock =
      store.redis.clock + choice.redisElapsed := by
  cases command with
  | redis command =>
    cases failing : choice.failure <;> simp [perform, failing, Store.wait, Redis.wait]
  | postgres statement =>
    cases failing : choice.failure <;> simp [perform, failing, Store.wait, Redis.wait]
  | _ => rfl

/-- A user who is known stays known, unchanged, after any command with any choice, since no
statement removes a user or changes one. -/
theorem perform_keeps_user {id : String} {user : User}
    (known : store.postgres.users.get? id = some user) :
    (perform bcrypt command choice store).2.postgres.users.get? id = some user := by
  cases command with
  | redis command => cases failing : choice.failure <;> simpa [perform, failing, Store.wait] using known
  | postgres statement =>
    cases failing : choice.failure with
    | some error => simpa [perform, failing, Store.wait] using known
    | none =>
      have kept := Postgres.execute_keeps_user known statement
      simpa [perform, failing, Store.wait] using kept
  | _ => exact known

end Perform

/-- What a command does with tokens and the keys of their sessions, which is all that the
proofs about sessions need to know of it. -/
inductive SessionUse where
  | elsewhere
  | draws
  | reads (token : String)
  | stores (session : Session)
  | deletes (token : String)
  | foreign
deriving DecidableEq

/-- The use a command makes of tokens. Whatever is neither a read nor a
deletion nor the storing of a session under its own token is foreign. -/
def Command.use : Command → SessionUse
  | .generateToken => .draws
  | .redis (.set (.session token) (.session session) _) =>
    if session.token = token then .stores session else .foreign
  | .redis (.get (.session token)) => .reads token
  | .redis (.delete (.session token)) => .deletes token
  | .redis command =>
    match command.key with
    | .session _ => .foreign
    | _ => .elsewhere
  | _ => .elsewhere

/-- Only the random source draws. Other commands neither return a token nor choose one. -/
theorem draws_command {command : Command} (uses : command.use = .draws) :
    command = .generateToken := by
  unfold Command.use at uses
  split at uses
  · rfl
  · split at uses <;> simp at uses
  · simp at uses
  · simp at uses
  · split at uses <;> simp at uses
  · simp at uses

/-- Only a deletion deletes: of all commands the `DEL` of its key is the one that removes a
session. -/
theorem deletes_command {command : Command} {token : String} (uses : command.use = .deletes token) :
    command = .redis (.delete (.session token)) := by
  unfold Command.use at uses
  split at uses
  · simp at uses
  · split at uses <;> simp at uses
  · simp at uses
  · rw [SessionUse.deletes.inj uses]
  · split at uses <;> simp at uses
  · simp at uses

/-- Only storing a session under its key stores it. A `SET` of another text under the key of a
session is foreign, and no handler issues one. -/
theorem stores_command {command : Command} {session : Session}
    (uses : command.use = .stores session) : ∃ expiration,
      command = .redis (.set (.session session.token) (.session session) expiration) := by
  unfold Command.use at uses
  split at uses
  · simp at uses
  · split at uses
    · rename_i own
      obtain rfl := SessionUse.stores.inj uses
      exact ⟨_, by rw [own]⟩
    · simp at uses
  · simp at uses
  · simp at uses
  · split at uses <;> simp at uses
  · simp at uses

/-- The entry of a stored session, under the key of its own token. -/
def Session.entry (session : Session) (deadline : Option Int) : Entry Key Value :=
  { key := .session session.token, value := .string (.session session), deadline := deadline }

/-- What a command that is not foreign can do to the key of a token. -/
inductive SessionChange (command : Command) (choice : Choice) (token : String)
    (before : Option (Entry Key Value)) : Option (Entry Key Value) → Prop where
  | kept : SessionChange command choice token before before
  | stored (session : Session) (deadline : Option Int) (uses : command.use = .stores session)
      (works : choice.failure = none) (same : session.token = token) :
      SessionChange command choice token before (some (session.entry deadline))
  | deleted (uses : command.use = .deletes token) (works : choice.failure = none) :
      SessionChange command choice token before none

/-- The three changes as equations, for proofs that go on by rewriting and need no more than
what is under the key afterwards. -/
theorem SessionChange.equations {command : Command} {choice : Choice} {token : String}
    {before after : Option (Entry Key Value)} (change : SessionChange command choice token before after) :
    after = before ∨
      (∃ session deadline, command.use = .stores session ∧ session.token = token ∧
        after = some (session.entry deadline)) ∨
      (command.use = .deletes token ∧ after = none) := by
  cases change with
  | kept => exact Or.inl rfl
  | stored session deadline uses works same => exact Or.inr (Or.inl ⟨session, deadline, uses, same, rfl⟩)
  | deleted uses works => exact Or.inr (Or.inr ⟨uses, rfl⟩)

section Session

variable (bcrypt : Bcrypt) (choice : Choice) (store : Store) (token : String)

/-- Only storing and deleting change the key of a token. The other commands are about other
keys, or only read. -/
theorem perform_session (command : Command) (disciplined : command.use ≠ .foreign) :
    SessionChange command choice token (store.redis.table.get? (.session token))
      ((perform bcrypt command choice store).2.redis.table.get? (.session token)) := by
  cases command with
  | postgres statement =>
    cases failing : choice.failure <;> simp only [perform, failing] <;> exact .kept
  | redis command =>
    cases failing : choice.failure with
    | some error =>
      simp only [perform, failing]
      exact .kept
    | none =>
      simp only [perform, failing]
      by_cases about : command.key = .session token
      · cases command with
        | set key text expiration =>
          obtain rfl : key = .session token := about
          cases text with
          | session session =>
            by_cases own : session.token = token
            · subst own
              rw [Redis.execute, Redis.get?_put, if_pos rfl]
              exact .stored session _ (by simp [Command.use]) failing rfl
            · simp [Command.use, own] at disciplined
          | connection userId other => simp [Command.use, RedisCommand.key] at disciplined
          | malformed error => simp [Command.use, RedisCommand.key] at disciplined
        | get key =>
          rw [Redis.execute_get]
          exact .kept
        | delete key =>
          obtain rfl : key = .session token := about
          rw [Redis.execute, Redis.get?_remove, if_pos rfl]
          exact .deleted rfl failing
        | sAdd key member => simp [Command.use, about] at disciplined
        | sMembers key => simp [Command.use, about] at disciplined
        | sRem key member => simp [Command.use, about] at disciplined
        | expire key expiration => simp [Command.use, about] at disciplined
      · rw [Redis.execute_other _ _ about]
        exact .kept
  | _ => exact .kept

/-- A command that does not store a session leaves the key as it is or empty. -/
theorem perform_unstored (command : Command) (disciplined : command.use ≠ .foreign)
    (unstored : ∀ session, command.use ≠ .stores session) :
    (perform bcrypt command choice store).2.redis.table.get? (.session token) =
        store.redis.table.get? (.session token) ∨
      (perform bcrypt command choice store).2.redis.table.get? (.session token) = none := by
  generalize outcome : (perform bcrypt command choice store).2.redis.table.get? (.session token) =
    next
  have change : SessionChange command choice token _ next :=
    outcome ▸ perform_session bcrypt choice store token command disciplined
  cases change with
  | kept => exact Or.inl rfl
  | stored session deadline uses works same => exact absurd uses (unstored session)
  | deleted uses works => exact Or.inr rfl

/-- A command elsewhere leaves the key as it is, whether or not its store works. -/
theorem perform_elsewhere (command : Command) (elsewhere : command.use = .elsewhere) :
    (perform bcrypt command choice store).2.redis.table.get? (.session token) =
      store.redis.table.get? (.session token) := by
  generalize outcome : (perform bcrypt command choice store).2.redis.table.get? (.session token) =
    next
  have change : SessionChange command choice token _ next :=
    outcome ▸ perform_session bcrypt choice store token command (by simp [elsewhere])
  cases change with
  | kept => rfl
  | stored session deadline uses works same => simp [elsewhere] at uses
  | deleted uses works => simp [elsewhere] at uses

/-- A deletion that works leaves nothing under the key. Whether there was a session does not
matter. -/
theorem perform_delete (works : choice.failure = none) :
    (perform bcrypt (.redis (.delete (.session token))) choice store).2.redis.table.get?
      (.session token) = none := by
  simp only [perform, works, Redis.execute, Redis.get?_remove, if_true]

end Session

/-- The commands that leave the session keys alone and draw no token either. -/
def Elsewhere (command : Command) : Prop := command.use = .elsewhere

/-- The commands of a request that presents a token, apart from creating a session. -/
def Presents (token : String) (command : Command) : Prop :=
  command.use = .elsewhere ∨ command.use = .reads token ∨ command.use = .deletes token

/-- The commands that create a session, as far as sessions are concerned: they draw its token,
store it, or do something elsewhere. -/
def Creates (command : Command) : Prop :=
  command.use = .elsewhere ∨ command.use = .draws ∨ ∃ session, command.use = .stores session

/-- The commands of session lookups and deletions. A lookup issues deletions as well, because
it deletes a session that has expired. -/
inductive CallsSession (token : String) : Command → Prop where
  | read : CallsSession token (.redis (.get (.session token)))
  | clock : CallsSession token .timeNow
  | delete : CallsSession token (.redis (.delete (.session token)))
  | unlist (userId : String) : CallsSession token (.redis (.sRem (.userSessions userId) token))
  | deleteRow : CallsSession token (.postgres (.deleteSession token))

/-- The commands of a registration. The user it inserts is made from what the hashing and the
source of ids return, so any user may occur. -/
inductive CallsRegistration : Command → Prop where
  | ask (username email : String) : CallsRegistration (.postgres (.userExists username email))
  | hash (password : String) : CallsRegistration (.generateFromPassword password)
  | draw : CallsRegistration .newUserId
  | insert (user : User) : CallsRegistration (.postgres (.insertUser user))

/-- The commands of the creation of a session for a user. The `SET` stores the session under
its own token, with the configured time to live. -/
inductive CallsCreation (sessionTTL : SessionTTL) (user : User) : Command → Prop where
  | draw : CallsCreation sessionTTL user .generateToken
  | clock : CallsCreation sessionTTL user .timeNow
  | store (session : Session) : CallsCreation sessionTTL user
      (.redis (.set (.session session.token) (.session session) sessionTTL.val))
  | list (token : String) : CallsCreation sessionTTL user
      (.redis (.sAdd (.userSessions user.id) token))
  | renew : CallsCreation sessionTTL user
      (.redis (.expire (.userSessions user.id) sessionTTL.val))
  | insertRow (row : SessionRow) : CallsCreation sessionTTL user (.postgres (.insertSession row))

/-- The commands of a login: it looks for the user by name, and for one who is found and whose
password fits it creates a session. -/
inductive CallsLogin (sessionTTL : SessionTTL) (username : String) : Command → Prop where
  | find : CallsLogin sessionTTL username (.postgres (.selectUserByUsername username))
  | create {user : User} {command : Command} (calls : CallsCreation sessionTTL user command) :
      CallsLogin sessionTTL username command

/-- The commands of the check of a token: it looks the session up, which deletes a session
that is too old, and then the user that the session names. -/
inductive CallsCheck (token : String) : Command → Prop where
  | session {command : Command} (calls : CallsSession token command) : CallsCheck token command
  | owner (userId : String) : CallsCheck token (.postgres (.selectUserById userId))

/-- The commands of a refresh: the checks of the old token, its deletion and the creation of
the session that replaces it. -/
inductive CallsRefresh (sessionTTL : SessionTTL) (token : String) : Command → Prop where
  | check {command : Command} (calls : CallsCheck token command) :
      CallsRefresh sessionTTL token command
  | create {user : User} {command : Command} (calls : CallsCreation sessionTTL user command) :
      CallsRefresh sessionTTL token command

/-- The commands that a request may issue before it is answered. What a login then notes under
the key of its connection is not among them. -/
def Operation.Calls (sessionTTL : SessionTTL) : Operation → Command → Prop
  | .register _ _ _ => CallsRegistration
  | .login username _ => CallsLogin sessionTTL username
  | .logout token => CallsSession token
  | .validate token => CallsCheck token
  | .refresh token => CallsRefresh sessionTTL token
  | .unknown _ => fun _ => False

section Footprints

/-- The lookup of a user is one statement, after which it answers whatever the database has
returned. -/
theorem getUserById_calls (userId : String) :
    (getUserById userId).Issues (· = .postgres (.selectUserById userId)) := by
  refine ⟨rfl, ?_⟩
  intro result
  cases result with
  | error error => trivial
  | ok found => cases found <;> trivial

/-- The lookup by name is one statement too; the two differ in their condition only. -/
theorem getUserByUsername_calls (username : String) :
    (getUserByUsername username).Issues (· = .postgres (.selectUserByUsername username)) := by
  refine ⟨rfl, ?_⟩
  intro result
  cases result with
  | error error => trivial
  | ok found => cases found <;> trivial

/-- A read of a key is one command. Decoding what it returns issues nothing. -/
theorem redisGet_calls (key : Key) : (redisGet key).Issues (· = .redis (.get key)) := by
  refine ⟨rfl, ?_⟩
  intro result
  cases result with
  | error error => trivial
  | ok found =>
    cases found with
    | none => trivial
    | some text => cases text.decode <;> trivial

/-- What follows the lookup of a deletion is one of the commands of a deletion. -/
theorem callsSession_clearSession (token : String) (found : Except String Session) :
    (clearSession token found).Issues (CallsSession token) := by
  cases found with
  | error error => exact ⟨.delete, fun _ => ⟨.deleteRow, fun _ => trivial⟩⟩
  | ok session => exact ⟨.delete, fun _ => ⟨.unlist _, fun _ => ⟨.deleteRow, fun _ => trivial⟩⟩⟩

/-- Lookups and deletions issue nothing else. The two call each other, so they are bounded
together by induction on the room that is left for nested calls. -/
theorem callsSession_issues (stack : Nat) (token : String) :
    (getSession stack token).Issues (CallsSession token) ∧
      (deleteSession stack token).Issues (CallsSession token) := by
  induction stack with
  | zero => exact ⟨trivial, trivial⟩
  | succ stack inductionHypothesis =>
    obtain ⟨lookup, deletion⟩ := inductionHypothesis
    constructor
    · rw [getSession_succ]
      have reads : (redisGet (.session token)).Issues (CallsSession token) :=
        (redisGet_calls (.session token)).mono (fun _ same => same ▸ .read)
      apply reads.bind
      intro found
      cases found with
      | error error => trivial
      | ok session =>
        refine ⟨.clock, ?_⟩
        intro now
        change (judgeSession stack token session now).Issues _
        unfold judgeSession
        split
        · exact deletion.bind (fun _ => trivial)
        · trivial
    · rw [deleteSession_succ]
      exact lookup.bind (callsSession_clearSession token)

/-- A creation draws a token, reads the clock, and writes the session to four places. -/
theorem createSession_calls (sessionTTL : SessionTTL) (user : User) :
    (createSession sessionTTL user).Issues (CallsCreation sessionTTL user) := by
  refine Issues.bind ⟨.draw, ?_⟩ ?_
  · intro drawn
    cases drawn <;> trivial
  · intro drawn
    cases drawn with
    | error error => trivial
    | ok token =>
      refine ⟨.clock, fun started => ⟨.clock, fun createdAt => ⟨.store
        { token := token, userId := user.id, username := user.username, email := user.email
          expiresAt := started + sessionTTL.val * 1000000000, createdAt := createdAt }, ?_⟩⟩⟩
      intro stored
      cases stored with
      | error error => trivial
      | ok _ =>
        refine ⟨.list token, ?_⟩
        intro added
        cases added with
        | error error => trivial
        | ok _ => exact ⟨.renew, fun _ => ⟨.insertRow _, fun _ => trivial⟩⟩

/-- A registration asks for the user, hashes the password and inserts a row. -/
theorem register_calls (username email password : String) :
    (register username email password).Issues CallsRegistration := by
  unfold register
  split_ifs
  · trivial
  · trivial
  · trivial
  · trivial
  · refine ⟨.ask _ _, ?_⟩
    intro found
    cases found with
    | error error => trivial
    | ok taken =>
      cases taken with
      | true => trivial
      | false =>
        change (hashPassword password >>= _).Issues _
        refine Issues.bind ⟨.hash _, ?_⟩ ?_
        · intro hashed
          cases hashed <;> trivial
        · intro hashed
          cases hashed with
          | error error => trivial
          | ok hash =>
            refine ⟨.draw, fun id => ⟨.insert _, ?_⟩⟩
            intro inserted
            cases inserted <;> trivial

/-- A login looks for the user, compares the password and creates a session. Whichever of the
three fails, nothing else is issued. -/
theorem login_calls (bcrypt : Bcrypt) (sessionTTL : SessionTTL) (username password : String) :
    (login bcrypt sessionTTL username password).Issues (CallsLogin sessionTTL username) := by
  unfold login
  split_ifs
  · trivial
  · trivial
  · apply ((getUserByUsername_calls username).mono (fun _ same => same ▸ .find)).bind
    intro found
    cases found with
    | error error => trivial
    | ok user =>
      change (finishLogin sessionTTL user (bcrypt.compareHashAndPassword user.passwordHash
        password)).Issues (CallsLogin sessionTTL username)
      cases bcrypt.compareHashAndPassword user.passwordHash password with
      | error error => trivial
      | ok _ =>
        apply ((createSession_calls sessionTTL user).mono (fun _ => .create)).bind
        intro created
        cases created <;> trivial

/-- A logout deletes the session of its token, and answers alike whether there was one. -/
theorem logout_calls (stack : Nat) (token : String) :
    (logout stack token).Issues (CallsSession token) := by
  unfold logout
  split_ifs
  · trivial
  · apply (callsSession_issues stack token).2.bind
    intro deleted
    trivial

/-- A check of a token looks the session up, and its user when there is one. -/
theorem validateToken_calls (stack : Nat) (token : String) :
    (validateToken stack token).Issues (CallsCheck token) := by
  unfold validateToken
  split_ifs
  · trivial
  · apply ((callsSession_issues stack token).1.mono (fun _ => .session)).bind
    intro found
    cases found with
    | error error => trivial
    | ok session =>
      apply ((getUserById_calls session.userId).mono (fun _ same => same ▸ .owner _)).bind
      intro user
      cases user <;> trivial

/-- `RefreshSession` looks the session and its user up again, deletes the session whether or
not somebody else has, and creates another one for the user. -/
theorem refreshSession_calls (sessionTTL : SessionTTL) (stack : Nat) (token : String) :
    (refreshSession sessionTTL stack token).Issues (CallsRefresh sessionTTL token) := by
  apply ((callsSession_issues stack token).1.mono (fun _ calls => .check (.session calls))).bind
  intro found
  cases found with
  | error error => trivial
  | ok session =>
    have owner : (getUserById session.userId).Issues (CallsRefresh sessionTTL token) :=
      (getUserById_calls session.userId).mono (fun _ same => same ▸ .check (.owner _))
    apply owner.bind
    intro user
    cases user with
    | error error => trivial
    | ok user =>
      apply ((callsSession_issues stack token).2.mono (fun _ calls => .check (.session calls))).bind
      intro deleted
      exact (createSession_calls sessionTTL user).mono (fun _ => .create)

/-- No request issues a command that is not listed for its kind. A handler that refuses its
fields issues none, and otherwise it issues what the service it calls does. -/
theorem handleRequest_calls (bcrypt : Bcrypt) (sessionTTL : SessionTTL) (stack : Nat)
    (operation : Operation) :
    (handleRequest bcrypt sessionTTL stack operation).Issues (operation.Calls sessionTTL) := by
  cases operation with
  | register username email password =>
    change (handleRegister username email password).Issues CallsRegistration
    unfold handleRegister
    split_ifs
    · trivial
    · apply (register_calls username email password).bind
      intro user
      cases user <;> trivial
  | login username password =>
    change (handleLogin bcrypt sessionTTL username password).Issues (CallsLogin sessionTTL username)
    unfold handleLogin
    split_ifs
    · trivial
    · apply (login_calls bcrypt sessionTTL username password).bind
      intro session
      cases session <;> trivial
  | logout token =>
    change (handleLogout stack token).Issues (CallsSession token)
    unfold handleLogout
    split_ifs
    · trivial
    · apply (logout_calls stack token).bind
      intro result
      cases result <;> trivial
  | validate token =>
    change (handleValidate stack token).Issues (CallsCheck token)
    unfold handleValidate
    split_ifs
    · trivial
    · apply (validateToken_calls stack token).bind
      intro user
      cases user <;> trivial
  | refresh token =>
    change (handleRefresh sessionTTL stack token).Issues (CallsRefresh sessionTTL token)
    unfold handleRefresh
    split_ifs
    · trivial
    · apply ((validateToken_calls stack token).mono (fun _ => .check)).bind
      intro user
      cases user with
      | error error => trivial
      | ok user =>
        apply (refreshSession_calls sessionTTL stack token).bind
        intro session
        cases session <;> trivial
  | unknown type => trivial

end Footprints

section Issues

variable (sessionTTL : SessionTTL) (stack : Nat)

/-- The commands of lookups and deletions present the token: they read or delete its key, or
leave the sessions alone. -/
theorem CallsSession.presents {token : String} {command : Command}
    (calls : CallsSession token command) : Presents token command := by
  cases calls with
  | read => exact Or.inr (Or.inl rfl)
  | clock => exact Or.inl rfl
  | delete => exact Or.inr (Or.inr rfl)
  | unlist userId => exact Or.inl rfl
  | deleteRow => exact Or.inl rfl

/-- What follows the lookup of a deletion presents the token, also when it deletes nothing. -/
theorem issues_clearSession (token : String) (found : Except String Session) :
    (clearSession token found).Issues (Presents token) :=
  (callsSession_clearSession token found).mono (fun _ calls => calls.presents)

/-- The two calls present their token and do nothing else to sessions. Their commands are
listed above, and each of them presents the token. -/
theorem issues_sessionCalls (token : String) :
    (getSession stack token).Issues (Presents token) ∧
      (deleteSession stack token).Issues (Presents token) := by
  obtain ⟨lookup, deletion⟩ := callsSession_issues stack token
  constructor
  · exact lookup.mono (fun _ calls => calls.presents)
  · exact deletion.mono (fun _ calls => calls.presents)

/-- The commands of a creation draw a token, store the session or leave the sessions alone. -/
theorem CallsCreation.creates {user : User} {command : Command}
    (calls : CallsCreation sessionTTL user command) : Creates command := by
  cases calls with
  | draw => exact Or.inr (Or.inl rfl)
  | store session => exact Or.inr (Or.inr ⟨session, if_pos rfl⟩)
  | _ => exact Or.inl rfl

/-- The commands of a check present its token or leave the sessions alone. -/
theorem CallsCheck.presents {token : String} {command : Command}
    (calls : CallsCheck token command) : Presents token command := by
  cases calls with
  | session calls => exact calls.presents
  | owner userId => exact Or.inl rfl

/-- A registration leaves the sessions alone; it only talks to the table of users. -/
theorem issues_register (username email password : String) :
    (register username email password).Issues Elsewhere := by
  apply (register_calls username email password).mono
  intro command calls
  cases calls <;> rfl

end Issues

/-- The token a request presents. Logins and registrations present none. -/
def Operation.token? : Operation → Option String
  | .logout token => some token
  | .validate token => some token
  | .refresh token => some token
  | _ => none

/-- The requests that create sessions: a login for the user it names, and a refresh for the
user of the session it replaces. -/
def Operation.opens : Operation → Bool
  | .login _ _ => true
  | .refresh _ => true
  | _ => false

/-- What a request may do to the sessions: it may present its own token, and if it opens a
session, draw a token and store a session. -/
def Operation.Permits (operation : Operation) (command : Command) : Prop :=
  command.use = .elsewhere ∨
    (∃ token, operation.token? = some token ∧
      (command.use = .reads token ∨ command.use = .deletes token)) ∨
    (operation.opens = true ∧ (command.use = .draws ∨ ∃ session, command.use = .stores session))

/-- What a request issues before it is answered is permitted to it, since lookups, deletions
and checks present its token and creations belong to the requests that open sessions. -/
theorem Operation.Calls.permits {sessionTTL : SessionTTL} {operation : Operation} {command : Command}
    (calls : operation.Calls sessionTTL command) : operation.Permits command := by
  have presents {token : String} (named : operation.token? = some token)
      (presented : Presents token command) : operation.Permits command :=
    presented.elim Or.inl (fun uses => Or.inr (Or.inl ⟨token, named, uses⟩))
  have creates (opens : operation.opens = true) (created : Creates command) :
      operation.Permits command :=
    created.elim Or.inl (fun uses => Or.inr (Or.inr ⟨opens, uses⟩))
  cases operation with
  | register username email password =>
    have registers : CallsRegistration command := calls
    cases registers <;> exact Or.inl rfl
  | login username password =>
    have logs : CallsLogin sessionTTL username command := calls
    cases logs with
    | find => exact Or.inl rfl
    | create calls => exact creates rfl calls.creates
  | logout token => exact presents rfl (CallsSession.presents calls)
  | validate token => exact presents rfl (CallsCheck.presents calls)
  | refresh token =>
    have refreshes : CallsRefresh sessionTTL token command := calls
    cases refreshes with
    | check calls => exact presents rfl calls.presents
    | create calls => exact creates rfl calls.creates
  | unknown type => exact absurd calls id

/-- No request does anything else to the sessions. What a login notes under the key of its
connection, after its answer is known, leaves them alone. -/
theorem issues_handleConnection (bcrypt : Bcrypt) (sessionTTL : SessionTTL) (stack : Nat)
    (request : Request) :
    (handleConnection bcrypt sessionTTL stack request).Issues request.operation.Permits := by
  obtain ⟨connId, operation⟩ := request
  have permitted : (handleRequest bcrypt sessionTTL stack operation).Issues operation.Permits :=
    (handleRequest_calls bcrypt sessionTTL stack operation).mono (fun _ calls => calls.permits)
  cases operation with
  | login username password =>
    apply permitted.bind
    intro response
    unfold rememberLogin
    split
    · exact ⟨Or.inl rfl, fun _ => trivial⟩
    · trivial
  | register username email password => exact permitted
  | logout token => exact permitted
  | validate token => exact permitted
  | refresh token => exact permitted
  | unknown type => exact permitted

/-- A pending command is one its request permits. The trace of the task has followed the
handler, and no path through the handler leaves what is permitted. -/
theorem pending_permits (bcrypt : Bcrypt) (sessionTTL : SessionTTL) (stack : Nat) {state : AuthState}
    (traced : (authServer bcrypt sessionTTL stack).Traced state) {task : AuthTask}
    (member : task ∈ state.tasks) {command : Command} {resume : command.Result → Handler Response}
    (pending : task.program = .call command resume) :
    task.request.operation.Permits command := by
  have issues := ((issues_handleConnection bcrypt sessionTTL stack task.request).follows
    (traced task member)).2
  rw [pending] at issues
  exact issues.1

/-- A permitted command is not foreign, so the key of a session is only ever written by the
commands that are meant to. -/
theorem Operation.Permits.disciplined {operation : Operation} {command : Command}
    (permits : operation.Permits command) : command.use ≠ .foreign := by
  rcases permits with uses | ⟨token, -, uses | uses⟩ | ⟨-, uses | ⟨session, uses⟩⟩ <;> simp [uses]

end ShoppingCS.Auth
