import ShoppingCS.Interleaving.Seclusion
import ShoppingCS.Auth.UnheardStores

/-!
# Users do not notice each other

Requests about some user names and some tokens do not notice the requests about all others:
when these are taken out and only the time they have taken remains, every request that is left
issues the same commands and gets the same results and the same answer. Tokens tell the two
groups apart if each group draws its own.
-/

namespace ShoppingCS.Auth

open Interleaving Program Storage

/-- A party is some user names and some tokens, together with the say whether registrations
belong to it. What it is about is decided by the text of a request alone. -/
structure Party where
  names : String → Bool
  tokens : String → Bool
  registers : Bool

namespace Party

/-- The complement, so that every request is of the party or of the others, and of only one of
them. -/
def others (party : Party) : Party :=
  { names := fun username => !party.names username
    tokens := fun token => !party.tokens token
    registers := !party.registers }

/-- The request is about a name or a token of the party. -/
def concerns (party : Party) : Operation → Bool
  | .login username _ => party.names username
  | .logout token => party.tokens token
  | .validate token => party.tokens token
  | .refresh token => party.tokens token
  | .register _ _ _ => party.registers
  | .unknown _ => party.registers

/-- The id is that of a user with a name of the party. -/
def Has (party : Party) (postgres : Postgres) (id : String) : Prop :=
  ∃ user, postgres.users.get? id = some user ∧ party.names user.username = true

/-- What a request of the party may see: its draws are tokens of the party, and what it reads
under them are sessions of its users. -/
def Possible (party : Party) (ids : String → Prop) : Event Command Command.Result → Prop
  | ⟨.generateToken, .ok token⟩ => party.tokens token.val = true
  | ⟨.redis (.get (.session token)), .ok (some text)⟩ =>
    ∀ session, party.tokens token = true → text.decode = .ok session → ids session.userId
  | ⟨.postgres (.selectUserByUsername username), .ok (some user)⟩ =>
    party.names username = true → ids user.id
  | ⟨.postgres (.selectUserById id), .ok (some user)⟩ => user.id = id
  | _ => True

/-- The commands a handler may issue for a party: on keys and rows of its tokens, on users
with its names or ids, and those on no store. -/
inductive Uses (party : Party) (ids : String → Prop) : Command → Prop where
  | clock : Uses party ids .timeNow
  | draw : Uses party ids .generateToken
  | drawId : Uses party ids .newUserId
  | hash (password : String) : Uses party ids (.generateFromPassword password)
  | read (token : String) (mine : party.tokens token = true) :
    Uses party ids (.redis (.get (.session token)))
  | delete (token : String) (mine : party.tokens token = true) :
    Uses party ids (.redis (.delete (.session token)))
  | store (session : Session) (expiration : Int) (mine : party.tokens session.token = true)
    (ours : ids session.userId) :
    Uses party ids (.redis (.set (.session session.token) (.session session) expiration))
  | list (id member : String) (ours : ids id) :
    Uses party ids (.redis (.sAdd (.userSessions id) member))
  | unlist (id member : String) (ours : ids id) :
    Uses party ids (.redis (.sRem (.userSessions id) member))
  | renew (id : String) (expiration : Int) (ours : ids id) :
    Uses party ids (.redis (.expire (.userSessions id) expiration))
  | connect (connId : String) (text : Text) (expiration : Int) :
    Uses party ids (.redis (.set (.connection connId) text expiration))
  | exists (username email : String) : Uses party ids (.postgres (.userExists username email))
  | insertUser (user : User) (registers : party.registers = true) :
    Uses party ids (.postgres (.insertUser user))
  | byName (username : String) : Uses party ids (.postgres (.selectUserByUsername username))
  | byId (id : String) : Uses party ids (.postgres (.selectUserById id))
  | insertRow (row : SessionRow) (mine : party.tokens row.sessionToken = true)
    (short : row.sessionToken.length ≤ 255) : Uses party ids (.postgres (.insertSession row))
  | deleteRow (token : String) (mine : party.tokens token = true) :
    Uses party ids (.postgres (.deleteSession token))

/-- The handler issues only commands of the party, as long as the answers it gets are possible
ones, and its result keeps a promise. The parts of a handler are composed by the rule for a
bind. -/
abbrev Stays {α : Type} (party : Party) (ids : String → Prop) (promised : α → Prop)
    (handler : Handler α) : Prop :=
  handler.Relies (party.Possible ids) (party.Uses ids) promised

section Handlers

variable {party : Party} {ids : String → Prop}

/-- The read under a token of the party returns one of its sessions, if any, since its keys
hold nothing else. -/
theorem stays_redisGet {token : String} (mine : party.tokens token = true) :
    party.Stays ids (fun found => ∀ session, found = .ok session → ids session.userId)
      (redisGet (.session token)) := by
  refine ⟨.read token mine, ?_⟩
  intro result may
  rcases result with error | _ | text
  · exact fun session same => absurd same (by simp)
  · exact fun session same => absurd same (by simp)
  · exact fun session decoded => may session mine decoded

/-- The deletions after a lookup are on the key of the token, on its row, and on the list of
the user whom the session found belongs to. -/
theorem stays_clearSession {token : String} (mine : party.tokens token = true)
    {found : Except String Session} (ours : ∀ session, found = .ok session → ids session.userId) :
    party.Stays ids (fun _ => True) (clearSession token found) := by
  cases found with
  | error error => exact ⟨.delete token mine, fun _ _ => ⟨.deleteRow token mine, fun _ _ => trivial⟩⟩
  | ok session =>
    exact ⟨.delete token mine, fun _ _ => ⟨.unlist _ _ (ours session rfl), fun _ _ =>
      ⟨.deleteRow token mine, fun _ _ => trivial⟩⟩⟩

/-- Lookups and deletions call each other, so both are treated at once, by induction on the
depth the stack allows. -/
theorem stays_sessionCalls (stack : Nat) {token : String} (mine : party.tokens token = true) :
    party.Stays ids (fun found => ∀ session, found = .ok session → ids session.userId)
        (getSession stack token) ∧
      party.Stays ids (fun _ => True) (deleteSession stack token) := by
  induction stack with
  | zero => exact ⟨trivial, trivial⟩
  | succ stack inductionHypothesis =>
    obtain ⟨lookup, deletion⟩ := inductionHypothesis
    constructor
    · rw [getSession_succ]
      apply Relies.bind (stays_redisGet mine)
      intro found ours
      cases found with
      | error error => exact fun session same => absurd same (by simp)
      | ok session =>
        refine ⟨.clock, fun now _ => ?_⟩
        change party.Stays ids _ (judgeSession stack token session now)
        unfold judgeSession
        split
        · exact Relies.bind deletion (fun _ _ session same => absurd same (by simp))
        · exact ours
    · rw [deleteSession_succ]
      exact Relies.bind lookup (fun found ours => stays_clearSession mine ours)

/-- A token that has been drawn is one of the party, and fits its column. -/
theorem stays_generateToken :
    party.Stays ids (fun drawn => ∀ token, drawn = .ok token →
      party.tokens token = true ∧ token.length ≤ 255) generateToken := by
  refine ⟨.draw, ?_⟩
  intro drawn may
  cases drawn with
  | error error => exact fun token same => absurd same (by simp)
  | ok token =>
    intro text same
    obtain rfl := Except.ok.inj same
    exact ⟨may, by rw [token.property.1]; decide⟩

/-- A creation for a user of the party draws a token, which is of the party by the condition
on draws, and writes under it and in the lists of that user. -/
theorem stays_createSession (sessionTTL : SessionTTL) {user : User} (ours : ids user.id) :
    party.Stays ids (fun _ => True) (createSession sessionTTL user) := by
  apply Relies.bind stays_generateToken
  intro drawn mine
  cases drawn with
  | error error => trivial
  | ok token =>
    obtain ⟨mine, short⟩ := mine token rfl
    refine ⟨.clock, fun started _ => ⟨.clock, fun createdAt _ => ⟨?_, fun stored _ => ?_⟩⟩⟩
    · exact .store ⟨token, user.id, user.username, user.email, _, createdAt⟩ _ mine ours
    · cases stored with
      | error error => trivial
      | ok _ =>
        refine ⟨.list user.id token ours, fun added _ => ?_⟩
        cases added with
        | error error => trivial
        | ok _ =>
          exact ⟨.renew user.id _ ours, fun _ _ => ⟨.insertRow _ mine short, fun _ _ => trivial⟩⟩

/-- The row found under an id of the party is that of a user of the party. -/
theorem stays_getUserById {id : String} (ours : ids id) :
    party.Stays ids (fun found => ∀ user, found = .ok user → ids user.id) (getUserById id) := by
  refine ⟨.byId id, ?_⟩
  intro result may
  rcases result with error | _ | user
  · exact fun user same => absurd same (by simp)
  · exact fun user same => absurd same (by simp)
  · intro other same
    obtain rfl := Except.ok.inj same
    have located : user.id = id := may
    rw [located]
    exact ours

/-- The row found under a name of the party is a user of it, so the id in it may be used from
then on. -/
theorem stays_getUserByUsername {username : String} (named : party.names username = true) :
    party.Stays ids (fun found => ∀ user, found = .ok user → ids user.id)
      (getUserByUsername username) := by
  refine ⟨.byName username, ?_⟩
  intro result may
  rcases result with error | _ | user
  · exact fun user same => absurd same (by simp)
  · exact fun user same => absurd same (by simp)
  · intro other same
    obtain rfl := Except.ok.inj same
    exact may named

/-- A login with a name of the party finds a user of the party, if any, and creates the
session for that user. -/
theorem stays_login (bcrypt : Bcrypt) (sessionTTL : SessionTTL) {username : String} (password : String)
    (named : party.names username = true) :
    party.Stays ids (fun _ => True) (login bcrypt sessionTTL username password) := by
  unfold login
  split_ifs
  · trivial
  · trivial
  · apply Relies.bind (stays_getUserByUsername named)
    intro found ours
    cases found with
    | error error => trivial
    | ok user =>
      change party.Stays ids _
        (finishLogin sessionTTL user (bcrypt.compareHashAndPassword user.passwordHash password))
      cases bcrypt.compareHashAndPassword user.passwordHash password with
      | error error => trivial
      | ok _ =>
        apply Relies.bind (stays_createSession sessionTTL (ours user rfl))
        intro made _
        cases made <;> trivial

/-- The handler of a login issues no command of its own around the service's, so it stays with
the party for the same reason. -/
theorem stays_handleLogin (bcrypt : Bcrypt) (sessionTTL : SessionTTL) {username : String}
    (password : String) (named : party.names username = true) :
    party.Stays ids (fun _ => True) (handleLogin bcrypt sessionTTL username password) := by
  unfold handleLogin
  split
  · trivial
  · apply Relies.bind (stays_login bcrypt sessionTTL password named)
    intro session _
    cases session <;> trivial

/-- A validation looks the session up and then its user, whose id is of the party because the
session found is. -/
theorem stays_validateToken (stack : Nat) {token : String} (mine : party.tokens token = true) :
    party.Stays ids (fun _ => True) (validateToken stack token) := by
  unfold validateToken
  split
  · trivial
  · apply Relies.bind (stays_sessionCalls stack mine).1
    intro found ours
    cases found with
    | error error => trivial
    | ok session =>
      apply Relies.bind (stays_getUserById (ours session rfl))
      intro user _
      cases user <;> trivial

/-- A logout is a deletion by a token of the party, after the check that the token is not
empty. -/
theorem stays_logout (stack : Nat) {token : String} (mine : party.tokens token = true) :
    party.Stays ids (fun _ => True) (logout stack token) := by
  unfold logout
  split
  · trivial
  · exact Relies.bind (stays_sessionCalls stack mine).2 (fun _ _ => trivial)

/-- A rotation looks up, deletes and creates, in this order. The lookup promises that the
session's user is of the party, which the other two need. -/
theorem stays_refreshSession (sessionTTL : SessionTTL) (stack : Nat) {token : String}
    (mine : party.tokens token = true) :
    party.Stays ids (fun _ => True) (refreshSession sessionTTL stack token) := by
  apply Relies.bind (stays_sessionCalls stack mine).1
  intro found ours
  cases found with
  | error error => trivial
  | ok session =>
    apply Relies.bind (stays_getUserById (ours session rfl))
    intro found ours
    cases found with
    | error error => trivial
    | ok user =>
      apply Relies.bind (stays_sessionCalls stack mine).2
      exact fun _ _ => stays_createSession sessionTTL (ours user rfl)

/-- Hashing is a command on neither store, and what it returns cannot be wrong for the party.
-/
theorem stays_hashPassword {password : String} :
    party.Stays ids (fun _ => True) (hashPassword password) := by
  refine ⟨.hash password, fun hashed _ => ?_⟩
  cases hashed <;> trivial

/-- A registration is of the side that registrations belong to. It looks names and addresses
up across all users, which is why only one side may make it. -/
theorem stays_register (registers : party.registers = true) (username email password : String) :
    party.Stays ids (fun _ => True) (register username email password) := by
  unfold register
  split_ifs
  · trivial
  · trivial
  · trivial
  · trivial
  · refine ⟨.exists username email, fun result _ => ?_⟩
    rcases result with error | _ | _
    · trivial
    · apply Relies.bind stays_hashPassword
      intro hashed _
      cases hashed with
      | error error => trivial
      | ok hash =>
        refine ⟨.drawId, fun id _ => ⟨.insertUser _ registers, fun inserted _ => ?_⟩⟩
        cases inserted <;> trivial
    · trivial

/-- Whatever the request is, its handler stays with the party if the party is concerned; the
cases are the five operations. -/
theorem stays_handleConnection (bcrypt : Bcrypt) (sessionTTL : SessionTTL) (stack : Nat)
    {request : Request} (about : party.concerns request.operation = true) :
    party.Stays ids (fun _ => True) (handleConnection bcrypt sessionTTL stack request) := by
  obtain ⟨connId, operation⟩ := request
  cases operation with
  | register username email password =>
    change party.Stays ids _ (handleRegister username email password)
    unfold handleRegister
    split
    · trivial
    · apply Relies.bind (stays_register about username email password)
      intro user _
      cases user <;> trivial
  | login username password =>
    apply Relies.bind (stays_handleLogin bcrypt sessionTTL password about)
    intro response _
    cases response with
    | error message => trivial
    | success data =>
      cases data with
      | login data => exact ⟨.connect _ _ _, fun _ _ => trivial⟩
      | _ => trivial
  | logout token =>
    change party.Stays ids _ (handleLogout stack token)
    unfold handleLogout
    split
    · trivial
    · apply Relies.bind (stays_logout stack about)
      intro ended _
      cases ended <;> trivial
  | validate token =>
    change party.Stays ids _ (handleValidate stack token)
    unfold handleValidate
    split
    · trivial
    · apply Relies.bind (stays_validateToken stack about)
      intro user _
      cases user <;> trivial
  | refresh token =>
    change party.Stays ids _ (handleRefresh sessionTTL stack token)
    unfold handleRefresh
    split
    · trivial
    · apply Relies.bind (stays_validateToken stack about)
      intro user _
      cases user with
      | error error => trivial
      | ok user =>
        apply Relies.bind (stays_refreshSession sessionTTL stack about)
        intro session _
        cases session <;> trivial
  | unknown type => trivial

end Handlers

/-- The keys that others leave alone: those of tokens of the party, and of ids that are not
those of other users. -/
def Mine (party : Party) (postgres : Postgres) : Key → Prop
  | .session token => party.tokens token = true
  | .userSessions id => ¬ party.others.Has postgres id
  | .connection _ => False

/-- The stores have the same time, users, and sessions of the party. -/
structure SameView (party : Party) (left right : Store) : Prop extends Agrees left right where
  keys : ∀ key, party.Mine left.postgres key →
    left.redis.table.get? key = right.redis.table.get? key
  rows : ∀ token, party.tokens token = true →
    left.postgres.userSessions.get? token = right.postgres.userSessions.get? token

/-- Under the tokens of the party lie sessions of its users. A read promises what this
invariant says. -/
def Keeps (party : Party) (store : Store) : Prop :=
  ∀ token entry text session, party.tokens token = true →
    store.redis.table.get? (.session token) = some entry → entry.value = .string text →
    text.decode = .ok session → party.Has store.postgres session.userId

section Stores

variable {party : Party} {left right : Store} {bcrypt : Bcrypt} {choice : Choice} {command : Command}

/-- No command of any handler deletes or renames a user, so an id of the party stays one. -/
theorem Has.later {id : String} (has : party.Has left.postgres id) :
    party.Has (perform bcrypt command choice left).2.postgres id := by
  obtain ⟨user, known, named⟩ := has
  exact ⟨user, perform_keeps_user bcrypt command choice left known, named⟩

/-- An id names at most one row, whose name is of one side only, so no id is of both sides. -/
theorem Has.apart {postgres : Postgres} {id : String} (has : party.Has postgres id) :
    ¬ party.others.Has postgres id := by
  rintro ⟨other, there, foreign⟩
  obtain ⟨user, known, named⟩ := has
  obtain rfl := Option.some.inj (known.symm.trans there)
  simp [others, named] at foreign

/-- A key the party leaves alone after a command was one to leave alone before it, because
users of the others are not lost either. -/
theorem Mine.before {key : Key} (mine : party.Mine (perform bcrypt command choice left).2.postgres key) :
    party.Mine left.postgres key := by
  cases key with
  | session token => exact mine
  | userSessions id => exact fun has => mine has.later
  | connection connId => exact mine

/-- The commands of a party use the keys of tokens with discipline. -/
theorem Uses.disciplined {ids : String → Prop} (uses : party.Uses ids command) :
    command.use ≠ .foreign := by
  cases uses <;> simp [Command.use, RedisCommand.key]

/-- Sessions that are stored under tokens of the party are its own. -/
theorem Keeps.perform (keeps : party.Keeps left) (disciplined : command.use ≠ .foreign)
    (stores : ∀ session, command.use = .stores session → party.tokens session.token = true →
      party.Has left.postgres session.userId) :
    party.Keeps (perform bcrypt command choice left).2 := by
  intro token entry text session mine found value decoded
  rcases (perform_session bcrypt choice left token command disciplined).equations with
    same | ⟨stored, deadline, uses, named, same⟩ | ⟨-, same⟩
  · exact (keeps token entry text session mine (same ▸ found) value decoded).later
  · obtain rfl := Option.some.inj (found.symm.trans same)
    obtain rfl := Value.string.inj value
    obtain rfl := Except.ok.inj decoded
    exact (stores stored uses (named ▸ mine)).later
  · exact absurd (found.symm.trans same) (by simp)

/-- What a command of the party returns from a store that keeps its promise is possible for
it. Draws are the exception, about which the choice is asked. -/
theorem Uses.possible (uses : party.Uses (party.Has left.postgres) command) (keeps : party.Keeps left)
    (draws : command = .generateToken → ∀ token, choice.token = .ok token →
      party.tokens token.val = true) :
    party.Possible (party.Has (Auth.perform bcrypt command choice left).2.postgres)
      ⟨command, (Auth.perform bcrypt command choice left).1⟩ := by
  cases uses with
  | draw =>
    change party.Possible _ ⟨.generateToken, choice.token⟩
    cases drawn : choice.token with
    | error error => trivial
    | ok token => exact draws rfl token drawn
  | read token mine =>
    cases failing : choice.failure with
    | some error =>
      simp only [Auth.perform, failing]
      trivial
    | none =>
      simp only [Auth.perform, failing]
      cases returned : ((left.wait choice).redis.execute (.get (.session token))).1 with
      | error error => trivial
      | ok found =>
        cases found with
        | none => trivial
        | some text =>
          intro session _ decoded
          obtain ⟨entry, found, value⟩ := (Redis.execute_get_text _ _ _).mp returned
          exact keeps token entry text session mine (ExpiringTable.find?_eq_some.mp found).1 value decoded
  | byName username =>
    cases failing : choice.failure with
    | some error =>
      simp only [Auth.perform, failing]
      trivial
    | none =>
      simp only [Auth.perform, failing, Store.wait, Postgres.selectUserByUsername_store]
      cases returned : (left.postgres.execute (.selectUserByUsername username)).1 with
      | error error => trivial
      | ok result =>
        cases result with
        | none => trivial
        | some user =>
          intro named
          have found := Postgres.selectUserByUsername_eq_some.mp returned
          have same : user.username = username := by simpa using List.find?_some found
          exact ⟨user, KeyedTable.get?_complete (List.mem_of_find?_eq_some found), same ▸ named⟩
  | byId id =>
    cases failing : choice.failure with
    | some error =>
      simp only [Auth.perform, failing]
      trivial
    | none =>
      simp only [Auth.perform, failing, Store.wait, Postgres.selectUserById_store]
      cases returned : (left.postgres.execute (.selectUserById id)).1 with
      | error error => trivial
      | ok result =>
        cases result with
        | none => trivial
        | some user =>
          exact (KeyedTable.get?_sound (Postgres.selectUserById_eq_some.mp returned)).2
  | _ => trivial

end Stores

section Rows

variable {left right : Postgres} {row : SessionRow} (clean : holdsNul row.sessionToken = false)

/-- A token of at most 255 characters goes into its column unchanged, so the row is found
under the token again. -/
theorem sessionRow_token {stored : SessionRow} (short : row.sessionToken.length ≤ 255)
    (stores : Postgres.sessionRow row = .ok stored) : stored.sessionToken = row.sessionToken := by
  have token := (Postgres.sessionRow_eq_ok.mp stores).2.1
  exact varchar_short short (Postgres.column_eq_ok.mp token)

/-- A row is accepted if there is one with its token, or else if its user is known. -/
theorem insertSession_result (postgres : Postgres) :
    (postgres.insertSession row clean).1 =
      if (postgres.userSessions.get? row.sessionToken).isSome ∨ (postgres.users.get? row.userId).isSome
      then .ok () else .error Postgres.unknownUser := by
  unfold Postgres.insertSession
  split
  · rename_i stored found
    rw [if_pos (Or.inl (by rw [found]; rfl))]
  · rename_i absent
    split_ifs with known either either
    · rfl
    · exact absurd (Or.inr known) either
    · exact absurd either (by simp [absent, known])
    · rfl

/-- After the insertion the row under the token has the given expiry: an old row keeps its
other columns, and a new one is stored if its user exists. -/
theorem insertSession_row (postgres : Postgres) :
    (postgres.insertSession row clean).2.userSessions.get? row.sessionToken =
      ((postgres.userSessions.get? row.sessionToken).map (·.withExpiry row.expiresAt)).or
        (if (postgres.users.get? row.userId).isSome then some row else none) := by
  unfold Postgres.insertSession
  split
  · rename_i stored found
    have changed := KeyedTable.get?_rewrite postgres.userSessions
      (fun stored => if stored.sessionToken = row.sessionToken then
        stored.withExpiry row.expiresAt else stored)
      (fun stored => by split <;> rfl) row.sessionToken
    have same : stored.sessionToken = row.sessionToken := (KeyedTable.get?_sound found).2
    apply changed.trans
    rw [found, Option.map_some, if_pos same]
    rfl
  · rename_i absent
    rw [absent]
    split_ifs
    · exact (KeyedTable.get?_put postgres.userSessions row row.sessionToken).trans (if_pos rfl)
    · exact absent

/-- The insertion of a session depends on its row and on the users. -/
theorem insertSession_congr (users : left.users = right.users)
    (rows : left.userSessions.get? row.sessionToken = right.userSessions.get? row.sessionToken) :
    (left.insertSession row clean).1 = (right.insertSession row clean).1 ∧
      (left.insertSession row clean).2.userSessions.get? row.sessionToken =
        (right.insertSession row clean).2.userSessions.get? row.sessionToken := by
  constructor
  · rw [insertSession_result, insertSession_result, users, rows]
  · rw [insertSession_row, insertSession_row, users, rows]

/-- An insertion changes the row under its own token only, also where it overwrites one. -/
theorem insertSession_other (postgres : Postgres) {wanted : String} (other : row.sessionToken ≠ wanted) :
    (postgres.insertSession row clean).2.userSessions.get? wanted = postgres.userSessions.get? wanted := by
  unfold Postgres.insertSession
  split
  · have changed := KeyedTable.get?_rewrite postgres.userSessions
      (fun stored => if stored.sessionToken = row.sessionToken then
        stored.withExpiry row.expiresAt else stored)
      (fun stored => by split <;> rfl) wanted
    apply changed.trans
    cases found : postgres.userSessions.get? wanted with
    | none => rfl
    | some stored =>
      have same : stored.sessionToken = wanted := (KeyedTable.get?_sound found).2
      rw [Option.map_some, if_neg (fun equal => other (equal.symm.trans same))]
  · split_ifs
    · exact (KeyedTable.get?_put postgres.userSessions row wanted).trans (if_neg other)
    · rfl

end Rows

section Views

variable {party : Party} {left right : Store} {bcrypt : Bcrypt} {choice : Choice}

/-- The clocks of both stores advance alike, and what has expired is dropped alike on the keys
both views share. -/
theorem SameView.wait (same : party.SameView left right) (choice : Choice) :
    party.SameView (left.wait choice) (right.wait choice) where
  clock := by simp [Store.wait, same.clock]
  redisClock := by simp [Store.wait, Redis.wait, same.redisClock]
  users := same.users
  keys := same.keys
  rows := same.rows

/-- A command on one of the party's own keys returns the same on both stores, and their views
agree after it. -/
theorem SameView.own_redis (same : party.SameView left right) {command : RedisCommand}
    (mine : party.Mine left.postgres command.key) :
    (perform bcrypt (.redis command) choice left).1 = (perform bcrypt (.redis command) choice right).1 ∧
      party.SameView (perform bcrypt (.redis command) choice left).2
        (perform bcrypt (.redis command) choice right).2 := by
  have waited := same.wait choice
  cases failing : choice.failure with
  | some error =>
    simp only [perform, failing]
    exact ⟨trivial, waited⟩
  | none =>
    have alike := Redis.execute_congr command waited.redisClock (waited.keys command.key mine)
    simp only [perform, failing]
    refine ⟨alike.1, ⟨waited.clock, ?_, waited.users⟩, ?_, waited.rows⟩
    · rw [Redis.execute_clock, Redis.execute_clock]
      exact waited.redisClock
    · intro key about
      by_cases own : command.key = key
      · rw [← own]
        exact alike.2
      · rw [Redis.execute_other _ _ own, Redis.execute_other _ _ own]
        exact waited.keys key about

/-- The note of a connection is written to a key that neither side ever reads, so it returns
the same everywhere. -/
theorem SameView.own_connect (same : party.SameView left right) (connId : String) (text : Text)
    (expiration : Int) :
    (perform bcrypt (.redis (.set (.connection connId) text expiration)) choice left).1 =
        (perform bcrypt (.redis (.set (.connection connId) text expiration)) choice right).1 ∧
      party.SameView
        (perform bcrypt (.redis (.set (.connection connId) text expiration)) choice left).2
        (perform bcrypt (.redis (.set (.connection connId) text expiration)) choice right).2 := by
  have waited := same.wait choice
  cases failing : choice.failure with
  | some error =>
    simp only [perform, failing]
    exact ⟨trivial, waited⟩
  | none =>
    simp only [perform, failing]
    refine ⟨rfl, ⟨waited.clock, waited.redisClock, waited.users⟩, ?_, waited.rows⟩
    intro key about
    have elsewhere : Key.connection connId ≠ key := by
      rintro rfl
      exact about
    rw [Redis.execute_other _ (.set (.connection connId) text expiration) elsewhere,
      Redis.execute_other _ (.set (.connection connId) text expiration) elsewhere]
    exact waited.keys key about

/-- A statement on the users finds the same users in both stores, since both hold all of them.
-/
theorem SameView.own_users (same : party.SameView left right) {statement : Statement}
    (heard : (Command.postgres statement).unheard = false) :
    (perform bcrypt (.postgres statement) choice left).1 =
        (perform bcrypt (.postgres statement) choice right).1 ∧
      party.SameView (perform bcrypt (.postgres statement) choice left).2
        (perform bcrypt (.postgres statement) choice right).2 := by
  have waited := same.wait choice
  have later (key : Key)
      (mine : party.Mine (perform bcrypt (.postgres statement) choice left).2.postgres key) :
      party.Mine left.postgres key := mine.before
  cases failing : choice.failure with
  | some error =>
    simp only [perform, failing]
    exact ⟨trivial, waited⟩
  | none =>
    have alike := Postgres.execute_congr heard waited.users
    have unsaid (postgres : Postgres) :
        (postgres.execute statement).2.userSessions = postgres.userSessions := by
      apply Postgres.execute_userSessions
      · rintro row rfl
        exact absurd heard (by simp [Command.unheard])
      · rintro token rfl
        exact absurd heard (by simp [Command.unheard])
      · rintro userId rfl
        exact absurd heard (by simp [Command.unheard])
    simp only [perform, failing] at later ⊢
    refine ⟨alike.1, ⟨waited.clock, waited.redisClock, alike.2⟩, ?_, ?_⟩
    · exact fun key mine => waited.keys key (later key mine)
    · intro token mine
      rw [unsaid, unsaid]
      exact waited.rows token mine

/-- The insertion of a row under a token of the party has the same outcome in both stores.
That the token fits its column keeps the row under it. -/
theorem SameView.own_insertRow (same : party.SameView left right) {row : SessionRow}
    (mine : party.tokens row.sessionToken = true) (short : row.sessionToken.length ≤ 255) :
    (perform bcrypt (.postgres (.insertSession row)) choice left).1 =
        (perform bcrypt (.postgres (.insertSession row)) choice right).1 ∧
      party.SameView (perform bcrypt (.postgres (.insertSession row)) choice left).2
        (perform bcrypt (.postgres (.insertSession row)) choice right).2 := by
  have waited := same.wait choice
  have later (key : Key)
      (kept : party.Mine (perform bcrypt (.postgres (.insertSession row)) choice left).2.postgres key) :
      party.Mine left.postgres key := kept.before
  cases failing : choice.failure with
  | some error =>
    simp only [perform, failing]
    exact ⟨trivial, waited⟩
  | none =>
    simp only [perform, failing] at later ⊢
    cases stores : Postgres.sessionRow row with
    | error error =>
      simp only [Postgres.execute_insertSession_error _ stores]
      exact ⟨trivial, waited⟩
    | ok stored =>
      simp only [Postgres.execute_insertSession_ok _ stores] at later ⊢
      have token := sessionRow_token short stores
      have alike := insertSession_congr (Postgres.sessionRow_clean stores) waited.users
        (waited.rows stored.sessionToken (token ▸ mine))
      refine ⟨alike.1, ⟨waited.clock, waited.redisClock, ?_⟩, ?_, ?_⟩
      · rw [Postgres.insertSession_users, Postgres.insertSession_users]
        exact waited.users
      · exact fun key kept => waited.keys key (later key kept)
      · intro wanted ours
        by_cases own : stored.sessionToken = wanted
        · rw [← own]
          exact alike.2
        · rw [insertSession_other _ _ own, insertSession_other _ _ own]
          exact waited.rows wanted ours

/-- The deletion of a row succeeds in any store, and the rows the party sees are deleted
alike. -/
theorem SameView.own_deleteRow (same : party.SameView left right) (token : String) :
    (perform bcrypt (.postgres (.deleteSession token)) choice left).1 =
        (perform bcrypt (.postgres (.deleteSession token)) choice right).1 ∧
      party.SameView (perform bcrypt (.postgres (.deleteSession token)) choice left).2
        (perform bcrypt (.postgres (.deleteSession token)) choice right).2 := by
  have waited := same.wait choice
  have later (key : Key)
      (kept : party.Mine (perform bcrypt (.postgres (.deleteSession token)) choice left).2.postgres key) :
      party.Mine left.postgres key := kept.before
  cases failing : choice.failure with
  | some error =>
    simp only [perform, failing]
    exact ⟨trivial, waited⟩
  | none =>
    have plain : ∀ user, Statement.deleteSession token ≠ .insertUser user := by simp
    have alike : ∀ postgres other : Postgres,
        (postgres.execute (.deleteSession token)).1 = (other.execute (.deleteSession token)).1 := by
      intro postgres other
      unfold Postgres.execute
      split <;> rfl
    simp only [perform, failing] at later ⊢
    refine ⟨alike _ _, ⟨waited.clock, waited.redisClock, ?_⟩, ?_, ?_⟩
    · rw [Postgres.execute_users _ plain, Postgres.execute_users _ plain]
      exact waited.users
    · exact fun key kept => waited.keys key (later key kept)
    intro wanted ours
    rw [Postgres.execute_deleteSession, Postgres.execute_deleteSession, waited.rows wanted ours]

/-- Commands of the party return the same on stores with the same view, and keep it. -/
theorem SameView.own (same : party.SameView left right) {command : Command}
    (uses : party.Uses (party.Has left.postgres) command) :
    (perform bcrypt command choice left).1 = (perform bcrypt command choice right).1 ∧
      party.SameView (perform bcrypt command choice left).2 (perform bcrypt command choice right).2 := by
  have waited := same.wait choice
  cases uses with
  | clock => exact ⟨waited.clock, waited⟩
  | draw => exact ⟨rfl, waited⟩
  | drawId => exact ⟨rfl, waited⟩
  | hash password => exact ⟨rfl, waited⟩
  | read token mine => exact same.own_redis mine
  | delete token mine => exact same.own_redis mine
  | store session expiration mine ours => exact same.own_redis mine
  | list id member ours => exact same.own_redis ours.apart
  | unlist id member ours => exact same.own_redis ours.apart
  | renew id expiration ours => exact same.own_redis ours.apart
  | connect connId text expiration => exact same.own_connect connId text expiration
  | «exists» username email => exact same.own_users rfl
  | insertUser user registers => exact same.own_users rfl
  | byName username => exact same.own_users rfl
  | byId id => exact same.own_users rfl
  | insertRow row mine short => exact same.own_insertRow mine short
  | deleteRow token mine => exact same.own_deleteRow token

/-- A command on a key of the others changes nothing the party sees, beyond the time that
passes. -/
theorem SameView.other_redis (same : party.SameView left right) {command : RedisCommand}
    (elsewhere : ¬ party.Mine left.postgres command.key) :
    party.SameView (perform bcrypt (.redis command) choice left).2 (right.wait choice) := by
  have waited := same.wait choice
  cases failing : choice.failure with
  | some error =>
    simp only [perform, failing]
    exact waited
  | none =>
    simp only [perform, failing]
    refine ⟨⟨waited.clock, ?_, waited.users⟩, ?_, waited.rows⟩
    · rw [Redis.execute_clock]
      exact waited.redisClock
    · intro key about
      rw [Redis.execute_other _ command (fun same => elsewhere (same ▸ about))]
      exact waited.keys key about

/-- A statement that leaves the users and the rows of the party alone. -/
theorem SameView.other_postgres (same : party.SameView left right) {statement : Statement}
    (users : ∀ postgres : Postgres, (postgres.execute statement).2.users = postgres.users)
    (rows : ∀ (postgres : Postgres) (token : String), party.tokens token = true →
      (postgres.execute statement).2.userSessions.get? token = postgres.userSessions.get? token) :
    party.SameView (perform bcrypt (.postgres statement) choice left).2 (right.wait choice) := by
  have waited := same.wait choice
  have later (key : Key)
      (mine : party.Mine (perform bcrypt (.postgres statement) choice left).2.postgres key) :
      party.Mine left.postgres key := mine.before
  cases failing : choice.failure with
  | some error =>
    simp only [perform, failing]
    exact waited
  | none =>
    simp only [perform, failing] at later ⊢
    refine ⟨⟨waited.clock, waited.redisClock, ?_⟩, ?_, ?_⟩
    · exact (users _).trans waited.users
    · exact fun key mine => waited.keys key (later key mine)
    · exact fun token mine => (rows _ token mine).trans (waited.rows token mine)

/-- Of a command of the others only the time it takes is seen. -/
theorem SameView.other (same : party.SameView left right) (registers : party.registers = true)
    {command : Command} (uses : party.others.Uses (party.others.Has left.postgres) command) :
    party.SameView (perform bcrypt command choice left).2 (right.wait choice) := by
  have waited := same.wait choice
  have foreign {token : String} (mine : party.others.tokens token = true) :
      ¬ party.tokens token = true := by
    intro ours
    simp [others, ours] at mine
  cases uses with
  | clock => exact waited
  | draw => exact waited
  | drawId => exact waited
  | hash password => exact waited
  | read token mine => exact same.other_redis (foreign mine)
  | delete token mine => exact same.other_redis (foreign mine)
  | store session expiration mine ours => exact same.other_redis (foreign mine)
  | list id member ours => exact same.other_redis (not_not.mpr ours)
  | unlist id member ours => exact same.other_redis (not_not.mpr ours)
  | renew id expiration ours => exact same.other_redis (not_not.mpr ours)
  | connect connId text expiration => exact same.other_redis not_false
  | «exists» username email =>
    exact same.other_postgres (fun postgres => postgres.execute_users (by simp))
      (fun postgres _ _ => by rw [postgres.execute_userSessions (by simp) (by simp) (by simp)])
  | insertUser user inserts =>
    simp [others, registers] at inserts
  | byName username =>
    exact same.other_postgres (fun postgres => postgres.execute_users (by simp))
      (fun postgres _ _ => by rw [postgres.execute_userSessions (by simp) (by simp) (by simp)])
  | byId id =>
    exact same.other_postgres (fun postgres => postgres.execute_users (by simp))
      (fun postgres _ _ => by rw [postgres.execute_userSessions (by simp) (by simp) (by simp)])
  | insertRow row mine short =>
    apply same.other_postgres
    · intro postgres
      exact Postgres.execute_unheard rfl postgres
    · intro postgres token ours
      cases stores : Postgres.sessionRow row with
      | error error => rw [Postgres.execute_insertSession_error _ stores]
      | ok stored =>
        rw [Postgres.execute_insertSession_ok _ stores]
        apply insertSession_other
        rw [sessionRow_token short stores]
        rintro rfl
        exact foreign mine ours
  | deleteRow token mine =>
    apply same.other_postgres
    · exact fun postgres => postgres.execute_users (by simp)
    · intro postgres wanted ours
      rw [Postgres.execute_deleteSession, if_neg]
      rintro rfl
      exact foreign mine ours

end Views

/-- The two sides by a flag, so that a statement about both is proved once. -/
def side (party : Party) : Bool → Party
  | true => party
  | false => party.others

/-- Every request is about the side its flag says, by the definition of the complement. -/
theorem side_concerns (party : Party) (operation : Operation) :
    (party.side (party.concerns operation)).concerns operation = true := by
  cases about : party.concerns operation with
  | true => exact about
  | false =>
    change party.others.concerns operation = true
    cases operation with
    | _ => simpa [concerns, others] using about

/-- No token is on both sides, so a token decides whose session lies under it. -/
theorem side_tokens {party : Party} {own other : Bool} {token : String}
    (here : (party.side own).tokens token = true) (there : (party.side other).tokens token = true) :
    own = other := by
  cases own <;> cases other <;> simp_all [side, others]

/-- A session that is stored is one of the side that stores it. -/
theorem Uses.stores {party : Party} {ids : String → Prop} {command : Command}
    (uses : party.Uses ids command) {session : Session} (stores : command.use = .stores session) :
    party.tokens session.token = true ∧ ids session.userId := by
  cases uses with
  | store stored expiration mine ours =>
    obtain rfl : stored = session := by simpa [Command.use] using stores
    exact ⟨mine, ours⟩
  | _ => exact absurd stores (by simp [Command.use, RedisCommand.key])

/-- What is possible for a party stays so when more ids become its own, as when a user is
registered. -/
theorem Possible.mono {party : Party} {ids more : String → Prop} {event : Event Command Command.Result}
    (possible : party.Possible ids event) (implies : ∀ id, ids id → more id) :
    party.Possible more event := by
  obtain ⟨command, result⟩ := event
  cases command with
  | generateToken => cases result <;> exact possible
  | redis command =>
    cases command with
    | get key =>
      cases key with
      | session token =>
        rcases result with error | _ | text
        · trivial
        · trivial
        · exact fun session mine decoded => implies _ (possible session mine decoded)
      | _ => trivial
    | _ => trivial
  | postgres statement =>
    cases statement with
    | selectUserByUsername username =>
      rcases result with error | _ | user
      · trivial
      · trivial
      · exact fun named => implies _ (possible named)
    | selectUserById id => rcases result with error | _ | user <;> exact possible
    | _ => trivial
  | _ => trivial

/-- A token that is drawn is one of the side that draws it. -/
def Draws (party : Party) (state : AuthState) : Action Request Choice → Prop
  | .start _ => True
  | .proceed index choice => ∀ task ∈ state.tasks[index]?,
      task.program.pending? = some .generateToken → ∀ token ∈ choice.token.toOption,
        party.tokens token.val = party.concerns task.request.operation

instance (party : Party) (state : AuthState) : DecidablePred (party.Draws state)
  | .start _ => isTrue trivial
  | .proceed index choice => inferInstanceAs (Decidable (∀ task ∈ state.tasks[index]?,
      task.program.pending? = some .generateToken → ∀ token ∈ choice.token.toOption,
        party.tokens token.val = party.concerns task.request.operation))

section Runs

variable (bcrypt : Bcrypt) (sessionTTL : SessionTTL) (stack : Nat) (party : Party)

/-- What holds in every run whose draws keep the sides apart: each side's tokens hold sessions
of its users, and each request has seen only what is possible for its side. -/
structure Apart (state : AuthState) : Prop where
  traced : (authServer bcrypt sessionTTL stack).Traced state
  keeps : ∀ own, (party.side own).Keeps state.store
  seen : ∀ task ∈ state.tasks, ∀ event ∈ task.trace,
    (party.side (party.concerns task.request.operation)).Possible
      ((party.side (party.concerns task.request.operation)).Has state.store.postgres) event

variable {bcrypt sessionTTL stack party} {state : AuthState}

/-- The next command of a request is one of its own side, because its handler stays with that
side and has only seen possible answers. -/
theorem Apart.uses (apart : Apart bcrypt sessionTTL stack party state) {task : AuthTask}
    (member : task ∈ state.tasks) {command : Command} {resume : command.Result → Handler Response}
    (pending : task.program = .call command resume) :
    (party.side (party.concerns task.request.operation)).Uses
      ((party.side (party.concerns task.request.operation)).Has state.store.postgres) command := by
  have stays := (stays_handleConnection bcrypt sessionTTL stack
    (side_concerns party task.request.operation)).follows (apart.traced task member)
    (apart.seen task member)
  rw [pending] at stays
  exact stays.1

/-- A token drawn by a request is on the side of the request. This is the condition on the
run, read off for one draw. -/
theorem Draws.side {index : Nat} {choice : Choice} (draws : party.Draws state (.proceed index choice))
    {task : AuthTask} (present : state.tasks[index]? = some task) {command : Command}
    {resume : command.Result → Handler Response} (pending : task.program = .call command resume)
    (generates : command = .generateToken) {token : GeneratedToken} (drawn : choice.token = .ok token) :
    (party.side (party.concerns task.request.operation)).tokens token.val = true := by
  subst generates
  have told := draws task present (by rw [pending]; rfl) token (by rw [drawn]; rfl)
  cases about : party.concerns task.request.operation with
  | true => exact told.trans about
  | false =>
    change (!party.tokens token.val) = true
    rw [told, about]
    rfl

/-- Every step keeps the sides apart. The side that issues the command keeps its promise by
the lemma for its own commands, and the other one because nothing of it is touched. -/
theorem Apart.step (apart : Apart bcrypt sessionTTL stack party state) {action : Action Request Choice}
    (draws : party.Draws state action) :
    Apart bcrypt sessionTTL stack party ((authServer bcrypt sessionTTL stack).step state action) := by
  have traced := (authServer bcrypt sessionTTL stack).step_traced state action apart.traced
  generalize after : (authServer bcrypt sessionTTL stack).step state action = next at traced ⊢
  have transition : (authServer bcrypt sessionTTL stack).Transition state action next :=
    after ▸ (authServer bcrypt sessionTTL stack).step_transition state action
  cases transition with
  | idle index choice nothing => exact apart
  | started request =>
    refine ⟨traced, apart.keeps, ?_⟩
    intro task member event recorded
    cases List.mem_append.mp member with
    | inl old => exact apart.seen task old event recorded
    | inr new =>
      obtain rfl := List.mem_singleton.mp new
      exact absurd recorded (by simp [Service.accept])
  | proceeded index choice task command resume present pending =>
    have inside := List.mem_of_getElem? present
    have uses := apart.uses inside pending
    have draw : command = .generateToken → ∀ token, choice.token = .ok token →
        (party.side (party.concerns task.request.operation)).tokens token.val = true :=
      fun generates token drawn => draws.side present pending generates drawn
    refine ⟨traced, ?_, ?_⟩
    · intro own
      apply (apart.keeps own).perform uses.disciplined
      intro session stores mine
      obtain ⟨theirs, ours⟩ := uses.stores stores
      obtain rfl := side_tokens mine theirs
      exact ours
    · intro other member event recorded
      have still (event : Event Command Command.Result) (about : Bool)
          (possible : (party.side about).Possible ((party.side about).Has state.store.postgres) event) :
          (party.side about).Possible ((party.side about).Has
            (perform bcrypt command choice state.store).2.postgres) event :=
        possible.mono (fun id has => has.later)
      rcases List.mem_or_eq_of_mem_set member with old | rfl
      · exact still event _ (apart.seen other old event recorded)
      · rw [Task.advance_trace] at recorded
        cases List.mem_append.mp recorded with
        | inl before => exact still event _ (apart.seen task inside event before)
        | inr now =>
          obtain rfl := List.mem_singleton.mp now
          exact uses.possible (apart.keeps _) draw

variable (bcrypt sessionTTL stack)

/-- In runs whose draws keep the sides apart, the requests of a party with the registrations do
not notice the others. -/
def seclusion (registers : party.registers = true) : (authServer bcrypt sessionTTL stack).Seclusion where
  own request := party.concerns request.operation
  pass choice store := store.wait choice
  meets := party.Draws
  invariant := Apart bcrypt sessionTTL stack party
  sameView := party.SameView
  kept _ _ apart draws := apart.step draws
  own_turns := by
    intro state index choice task command resume other apart present pending about same
    have uses := apart.uses (List.mem_of_getElem? present) pending
    rw [about] at uses
    exact same.own uses
  other_turns := by
    intro state index choice task command resume other apart present pending about same
    have uses := apart.uses (List.mem_of_getElem? present) pending
    rw [about] at uses
    exact same.other registers uses

end Runs

/-- Requests about some names and tokens do not notice those about other ones, however they are
interleaved and whatever fails: if Redis has under their tokens sessions of their users and under
other tokens sessions of other users only, and each side draws its own tokens, then in what is
left of the run without the other requests, where only the time these have taken passes, they are
all as they are in the run, with every command, every result and every answer, and they leave the
users, their sessions, the lists of their sessions and the rows of their tokens as in the run. -/
theorem users_do_not_notice_each_other (bcrypt : Bcrypt) (sessionTTL : SessionTTL) (stack : Nat)
    (party : Party) (registers : party.registers = true) (initial : Store)
    (keeps : ∀ own, (party.side own).Keeps initial) (actions : List (Action Request Choice))
    (draws : (authServer bcrypt sessionTTL stack).Along party.Draws (Service.idleState initial) actions) :
    let server := authServer bcrypt sessionTTL stack
    let own (request : Request) : Bool := party.concerns request.operation
    let together := server.run (Service.idleState initial) actions
    let alone := Runs.run (server.disturbedStep (fun (choice : Choice) store => store.wait choice))
      (Service.idleState initial) (server.residue own (Service.idleState initial) actions)
    alone.tasks = together.tasks.filter (fun task => own task.request) ∧
      party.SameView together.store alone.store := by
  intro server own together alone
  have apart : Apart bcrypt sessionTTL stack party (Service.idleState initial) :=
    ⟨server.idleState_traced initial, keeps, fun task member => absurd member (by simp)⟩
  have before : (seclusion bcrypt sessionTTL stack registers).Secluded (Service.idleState initial)
      (Service.idleState initial) := ⟨⟨⟨rfl, rfl, rfl⟩, fun _ _ => rfl, fun _ _ => rfl⟩, rfl⟩
  have after := before.run apart actions draws
  exact ⟨after.tasks, after.view⟩

/-- Alice's name, the first token, and all registrations make up the party of the witness. -/
def withAlice : Party :=
  { names := fun username => decide (username = "alice")
    tokens := fun token => decide (token = firstToken.val)
    registers := true }

/-- Bob registers and logs in while Alice does, and Alice shows her token. -/
def bobBeside : List (Action Request Choice) :=
  .start ⟨"c1", .register "bob" "bob@example.com" "secret2"⟩ ::
    List.replicate 4 (.proceed 0 (tick thirdToken)) ++
  [.start ⟨"c1", .login "bob" "secret2"⟩, .start ⟨"c2", .login "alice" "secret"⟩] ++
    List.replicate 5 (.proceed 1 (tick secondToken)) ++
    List.replicate 9 (.proceed 2 (tick firstToken)) ++
    List.replicate 4 (.proceed 1 (tick secondToken)) ++
  .start ⟨"c2", .validate firstToken.val⟩ :: List.replicate 3 (.proceed 3 (tick firstToken))

set_option maxRecDepth 8000 in
/-- Without Bob's login Alice's requests, and his registration, are as with it. -/
theorem alice_does_not_notice_bob :
    let server := authServer plainBcrypt defaultTTL 3
    let own (request : Request) : Bool := withAlice.concerns request.operation
    let together := server.run (Service.idleState aliceOnly) bobBeside
    let alone := Runs.run (server.disturbedStep (fun (choice : Choice) store => store.wait choice))
      (Service.idleState aliceOnly) (server.residue own (Service.idleState aliceOnly) bobBeside)
    alone.tasks = together.tasks.filter (fun task => own task.request) ∧
      withAlice.SameView together.store alone.store := by
  apply users_do_not_notice_each_other plainBcrypt defaultTTL 3 withAlice rfl aliceOnly
  · intro own token entry text session _ found
    exact absurd found (by simp [aliceOnly, KeyedTable.get?, KeyedTable.empty])
  · decide

end Party

end ShoppingCS.Auth
