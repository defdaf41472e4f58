import ShoppingCS.Interleaving.Service
import ShoppingCS.Auth.Postgres
import ShoppingCS.Auth.Redis

/-!
# The request handlers of the authentication server

Each request is a program over Redis commands, SQL statements, readings of the
clock and random draws; between two of these nothing is shared. A choice says how
much time passes before a command, whether the store it goes to fails, and what
is drawn. The clock of Redis runs separately from that of the server.

`GetSession` and `DeleteSession` call each other. A goroutine's stack holds some
number of such calls; a request that needs more never answers.
-/

namespace ShoppingCS.Auth

open Interleaving Program

/-- The values of `SESSION_TTL` that a `time.Duration` can hold, in seconds. A Go duration
counts nanoseconds in 64 bits, which is where the two bounds come from. -/
abbrev SessionTTL := {seconds : Int // -9223372036 ≤ seconds ∧ seconds ≤ 9223372036}

/-- `base64.URLEncoding` makes 44 characters of the 32 random bytes, all of them letters,
digits and three signs. -/
abbrev GeneratedToken := {text : String // text.length = 44 ∧ Storage.holdsNul text = false}

/-- `uuid.New().String()` has 36 characters, hexadecimal digits and dashes. The columns that
store it need its length, and that it holds no U+0000; nothing else is used of it. -/
abbrev UUID := {text : String // text.length = 36 ∧ Storage.holdsNul text = false}

/-- The password hashing of `golang.org/x/crypto/bcrypt`, which is not part of the repository.
Its salt is random, so it is an argument here and each hashing is given another one. -/
structure Bcrypt where
  generateFromPassword : (password salt : String) → Except String String
  compareHashAndPassword : (hashedPassword password : String) → Except String Unit

/-- Everything a handler does that is not computation of its own: it reads the clock, asks a
source of randomness, or sends a command to one of the two stores. -/
inductive Command where
  | timeNow
  | generateToken
  | newUserId
  | generateFromPassword (password : String)
  | redis (command : RedisCommand)
  | postgres (statement : Statement)
deriving DecidableEq

/-- What a command returns to the handler that has issued it. A command that can fail returns
an error in its place, and the clock and the ids cannot fail. -/
@[reducible] def Command.Result : Command → Type
  | .timeNow => Int
  | .generateToken => Except String GeneratedToken
  | .newUserId => UUID
  | .generateFromPassword _ => Except String String
  | .redis command => Except String command.Reply
  | .postgres statement => Except String statement.Rows

/-- What one command leaves open: the time that passes before it on both clocks,
the error if the store fails, and what is drawn: a token if the random source
works, a user id, a salt. -/
structure Choice where
  elapsed : Nat
  redisElapsed : Nat
  failure : Option String
  token : Except String GeneratedToken
  userId : UUID
  salt : String

/-- Both stores and the clock of the server. Redis keeps a clock of its own for its
expirations, and the two clocks need not agree. -/
structure Store where
  redis : Redis
  postgres : Postgres
  clock : Int

/-- Time passes on both clocks, by amounts that the environment chooses for each command. -/
def Store.wait (store : Store) (choice : Choice) : Store :=
  { store with
    redis := store.redis.wait choice.redisElapsed
    clock := store.clock + choice.elapsed }

/-- Execute one command, after the time has passed that the choice gives it. A store that
fails is left as it is, so an error is never the trace of a write that took place. -/
def perform (bcrypt : Bcrypt) (command : Command) (choice : Choice) (store : Store) :
    command.Result × Store :=
  let waited := store.wait choice
  match command with
  | .timeNow => (waited.clock, waited)
  | .generateToken => (choice.token, waited)
  | .newUserId => (choice.userId, waited)
  | .generateFromPassword password => (bcrypt.generateFromPassword password choice.salt, waited)
  | .redis command =>
    match choice.failure with
    | some error => (.error error, waited)
    | none =>
      ((waited.redis.execute command).1, { waited with redis := (waited.redis.execute command).2 })
  | .postgres statement =>
    match choice.failure with
    | some error => (.error error, waited)
    | none =>
      ((waited.postgres.execute statement).1,
        { waited with postgres := (waited.postgres.execute statement).2 })

/-- A piece of a handler: the commands it issues one after the other, with everything that is
computed between two of them taken into the second one. -/
abbrev Handler (α : Type) := Program Command Command.Result α

/-- `time.Now()`, as a command, since what it returns depends on when the scheduler lets it
run. -/
def timeNow : Handler Int := issue Command.timeNow

/-- A command to Redis, answered by an error when the connection or the server fails. -/
def askRedis (command : RedisCommand) : Handler (Except String command.Reply) :=
  issue (Command.redis command)

/-- A statement to PostgreSQL, answered by its rows or by the error of the driver. -/
def query (statement : Statement) : Handler (Except String statement.Rows) :=
  issue (Command.postgres statement)

/-- `Client.Get`, into a session. A key that is missing and a text that is no session are
errors alike for the caller, who cannot tell them apart. -/
def redisGet (key : Key) : Handler (Except String Session) := do
  match ← askRedis (.get key) with
  | .error error => pure (.error error)
  | .ok none => pure (.error "key not found")
  | .ok (some text) => pure text.decode

/-- `UserRepository.GetUserByUsername`, with the error of the driver wrapped as the source
does it and a missing row reported as an error of its own. -/
def getUserByUsername (username : String) : Handler (Except String User) := do
  match ← query (.selectUserByUsername username) with
  | .error error => pure (.error ("failed to get user: " ++ error))
  | .ok none => pure (.error "user not found")
  | .ok (some user) => pure (.ok user)

/-- `UserRepository.GetUserByID`, which differs from the lookup by name only in the column of
its condition. -/
def getUserById (userId : String) : Handler (Except String User) := do
  match ← query (.selectUserById userId) with
  | .error error => pure (.error ("failed to get user: " ++ error))
  | .ok none => pure (.error "user not found")
  | .ok (some user) => pure (.ok user)

/-- `UserRepository.CreateUser`. The id is drawn before the insertion, and the row that is
returned is the one that PostgreSQL has returned, without its hash. -/
def createUser (username email passwordHash : String) : Handler (Except String User) := do
  let userId : UUID ← issue Command.newUserId
  let user : User :=
    { id := userId.val, username := username, email := email, passwordHash := passwordHash }
  match ← query (.insertUser user) with
  | .error error => pure (.error ("failed to create user: " ++ error))
  | .ok user => pure (.ok user)

section SessionService

/-- `SessionService.GenerateToken`: one draw of 32 bytes from the random source, in the
alphabet of URL-safe base64. The source can fail, and then nothing has been stored. -/
def generateToken : Handler (Except String String) := do
  let drawn : Except String GeneratedToken ← issue Command.generateToken
  match drawn with
  | .error error => pure (.error ("failed to generate token: " ++ error))
  | .ok token => pure (.ok token.val)

/-- `SessionService.CreateSession`. The expiry is computed from a first reading of the clock
and the time of creation is a second one. A failing `SET` or `SADD` ends it with an error, the
`EXPIRE` and the insertion of the backup row are tried and their errors dropped. -/
def createSession (sessionTTL : SessionTTL) (user : User) : Handler (Except String Session) := do
  match ← generateToken with
  | .error error => pure (.error error)
  | .ok token => do
    let started ← timeNow
    let expiresAt := started + sessionTTL.val * 1000000000
    let createdAt ← timeNow
    let session : Session :=
      { token := token, userId := user.id, username := user.username, email := user.email
        expiresAt := expiresAt, createdAt := createdAt }
    match ← askRedis (.set (.session token) (.session session) sessionTTL.val) with
    | .error error => pure (.error ("failed to store session in Redis: " ++ error))
    | .ok _ => do
      match ← askRedis (.sAdd (.userSessions user.id) token) with
      | .error error => pure (.error ("failed to add session to user set: " ++ error))
      | .ok _ => do
        let _ ← askRedis (.expire (.userSessions user.id) sessionTTL.val)
        let _ ← query (.insertSession
          { userId := user.id, sessionToken := token, expiresAt := expiresAt })
        pure (.ok session)

mutual

/-- `SessionService.GetSession`, with room for some nested calls. An expired session is
deleted by `DeleteSession`, which calls this function again; where the source would overflow
its stack, the program halts. -/
def getSession : (stack : Nat) → (token : String) → Handler (Except String Session)
  | 0, _ => .halt
  | stack + 1, token => do
    match ← redisGet (.session token) with
    | .error _ => pure (.error "session not found or expired")
    | .ok session => do
      let now ← timeNow
      if session.expiresAt < now then do
        deleteSession stack token
        pure (.error "session expired")
      else pure (.ok session)

/-- `SessionService.DeleteSession`. It looks the session up to find the list it is on, and
deletes the key and the backup row either way. It reports no error, whatever happens. -/
def deleteSession : (stack : Nat) → (token : String) → Handler Unit
  | 0, _ => .halt
  | stack + 1, token => do
    match ← getSession stack token with
    | .error _ => do
      let _ ← askRedis (.delete (.session token))
      let _ ← query (.deleteSession token)
      pure ()
    | .ok session => do
      let _ ← askRedis (.delete (.session token))
      let _ ← askRedis (.sRem (.userSessions session.userId) token)
      let _ ← query (.deleteSession token)
      pure ()

end

/-- `SessionService.RefreshSession`. The old session is deleted and a new one with a token of
its own takes its place; nothing tells whether the deletion has found anything. -/
def refreshSession (sessionTTL : SessionTTL) (stack : Nat) (token : String) :
    Handler (Except String Session) := do
  match ← getSession stack token with
  | .error error => pure (.error error)
  | .ok session => do
    match ← getUserById session.userId with
    | .error error => pure (.error ("user not found: " ++ error))
    | .ok user => do
      deleteSession stack token
      createSession sessionTTL user

/-- The loop of `DeleteUserSessions` over the tokens that `SMEMBERS` has returned. Errors of
its commands are ignored, so it always goes on to the next token. -/
def deleteTokens : List String → Handler Unit
  | [] => pure ()
  | token :: tokens => do
    let _ ← askRedis (.delete (.session token))
    let _ ← query (.deleteSession token)
    deleteTokens tokens

/-- `SessionService.DeleteUserSessions`. A set that cannot be read is taken for an empty one,
and the set itself is deleted by a command of its own after the keys. -/
def deleteUserSessions (userId : String) : Handler Unit := do
  let tokens ← askRedis (.sMembers (.userSessions userId))
  deleteTokens (tokens.toOption.getD [])
  let _ ← askRedis (.delete (.userSessions userId))
  let _ ← query (.deleteUserSessions userId)
  pure ()

end SessionService

section AuthService

variable (bcrypt : Bcrypt) (sessionTTL : SessionTTL) (stack : Nat)

/-- `AuthService.HashPassword`, with the error of the package wrapped. Which passwords the
package refuses is left to the parameter that stands for it. -/
def hashPassword (password : String) : Handler (Except String String) := do
  let hashed : Except String String ← issue (Command.generateFromPassword password)
  match hashed with
  | .error error => pure (.error ("failed to hash password: " ++ error))
  | .ok hash => pure (.ok hash)

/-- `AuthService.Register`. The fields are checked in the order of the source, then the
database is asked for the name and the address, and only then is the password hashed. -/
def register (username email password : String) : Handler (Except String User) :=
  if username = "" then pure (.error "username is required")
  else if email = "" then pure (.error "email is required")
  else if password = "" then pure (.error "password is required")
  else if password.utf8ByteSize < 6 then pure (.error "password must be at least 6 characters")
  else do
    match ← query (.userExists username email) with
    | .error error =>
      pure (.error ("failed to check user existence: failed to check user existence: " ++ error))
    | .ok true => pure (.error "username or email already exists")
    | .ok false => do
      match ← hashPassword password with
      | .error error => pure (.error error)
      | .ok passwordHash => createUser username email passwordHash

/-- `AuthService.Login`. An unknown name and a wrong password give the same error, so that the
answer does not tell which of the two it was. -/
def login (username password : String) : Handler (Except String Session) :=
  if username = "" then pure (.error "username is required")
  else if password = "" then pure (.error "password is required")
  else do
    match ← getUserByUsername username with
    | .error _ => pure (.error "invalid username or password")
    | .ok user =>
      match bcrypt.compareHashAndPassword user.passwordHash password with
      | .error _ => pure (.error "invalid username or password")
      | .ok _ => do
        match ← createSession sessionTTL user with
        | .error error => pure (.error ("failed to create session: " ++ error))
        | .ok session => pure (.ok session)

/-- `AuthService.Logout`, which deletes the session of the token and succeeds also when there
was none. -/
def logout (token : String) : Handler (Except String Unit) :=
  if token = "" then pure (.error "token is required")
  else do
    deleteSession stack token
    pure (.ok ())

/-- `AuthService.ValidateToken`. The session has to be there and in time, and the user it
names has to be in the database; the user is what is returned. -/
def validateToken (token : String) : Handler (Except String User) :=
  if token = "" then pure (.error "token is required")
  else do
    match ← getSession stack token with
    | .error _ => pure (.error "invalid or expired token")
    | .ok session => do
      match ← getUserById session.userId with
      | .error error => pure (.error ("user not found: " ++ error))
      | .ok user => pure (.ok user)

end AuthService

/-- `RegisterResponseData`: what a client is told about the user it has registered. -/
structure RegisterResponseData where
  userId : String
  username : String
  email : String
deriving DecidableEq

/-- `LoginResponseData`, which a refresh returns as well. The expiry is in seconds, while
sessions keep it in nanoseconds. -/
structure LoginResponseData where
  token : String
  userId : String
  username : String
  email : String
  expiresAt : Int
deriving DecidableEq

/-- `ValidateResponseData`. For an invalid token its fields other than the first are empty,
and the encoding leaves them out. -/
structure ValidateResponseData where
  valid : Bool
  userId : String
  username : String
  email : String
deriving DecidableEq

/-- The `data` of a response with status `success`, by the kind of request that it answers; a
logout is answered by a text. -/
inductive Data where
  | register (data : RegisterResponseData)
  | login (data : LoginResponseData)
  | validate (data : ValidateResponseData)
  | message (text : String)
deriving DecidableEq

/-- `protocol.Response`. A response with status `error` has a message and no data, and the
other way round for a success. -/
inductive Response where
  | success (data : Data)
  | error (message : String)
deriving DecidableEq

/-- The response data of a session, with its expiry cut down to whole seconds as `Unix()` does
it. -/
def Session.response (session : Session) : LoginResponseData :=
  { token := session.token, userId := session.userId, username := session.username
    email := session.email, expiresAt := session.expiresAt / 1000000000 }

/-- The response data of a user whose token is valid, with the user's name and address as the
database has them. -/
def User.validated (user : User) : ValidateResponseData :=
  { valid := true, userId := user.id, username := user.username, email := user.email }

/-- `ValidateResponseData{Valid: false}`, the answer to every token that is not accepted,
whatever the reason. -/
def invalid : ValidateResponseData := { valid := false, userId := "", username := "", email := "" }

/-- The request types and the fields their handlers read; a missing field is empty. -/
inductive Operation where
  | register (username email password : String)
  | login (username password : String)
  | logout (token : String)
  | validate (token : String)
  | refresh (token : String)
  | unknown (type : String)
deriving DecidableEq

/-- A request and the connection it came on. The connection matters only to a login, which is
remembered under its id. -/
structure Request where
  connId : String
  operation : Operation
deriving DecidableEq

section AuthHandler

variable (bcrypt : Bcrypt) (sessionTTL : SessionTTL) (stack : Nat)

/-- `handleRegister`. It refuses a request with an empty field before it calls the service,
with one message for all three of them. -/
def handleRegister (username email password : String) : Handler Response :=
  if username = "" ∨ email = "" ∨ password = "" then
    pure (.error "username, email, and password are required")
  else do
    match ← register username email password with
    | .error error => pure (.error error)
    | .ok user =>
      pure (.success (.register
        { userId := user.id, username := user.username, email := user.email }))

/-- `handleLogin`. It answers with the data of the session that the service has created. -/
def handleLogin (username password : String) : Handler Response :=
  if username = "" ∨ password = "" then pure (.error "username and password are required")
  else do
    match ← login bcrypt sessionTTL username password with
    | .error error => pure (.error error)
    | .ok session => pure (.success (.login session.response))

/-- `handleLogout`, which answers alike whether there was a session to delete. -/
def handleLogout (token : String) : Handler Response :=
  if token = "" then pure (.error "token is required")
  else do
    match ← logout stack token with
    | .error error => pure (.error error)
    | .ok _ => pure (.success (.message "logged out successfully"))

/-- `handleValidate`. Every failure of the service is answered as a success that says the
token is invalid, so a store that fails looks like a token that is not accepted. -/
def handleValidate (token : String) : Handler Response :=
  if token = "" then pure (.error "token is required")
  else do
    match ← validateToken stack token with
    | .error _ => pure (.success (.validate invalid))
    | .ok user => pure (.success (.validate user.validated))

/-- `handleRefresh`. The token is validated first and `RefreshSession` then checks it again,
so each refresh looks its session and its user up twice. -/
def handleRefresh (token : String) : Handler Response :=
  if token = "" then pure (.error "token is required")
  else do
    match ← validateToken stack token with
    | .error _ => pure (.error "invalid or expired token")
    | .ok _ => do
      match ← refreshSession sessionTTL stack token with
      | .error error => pure (.error error)
      | .ok session => pure (.success (.login session.response))

/-- `HandleRequest`: the handler of the type of the request, or an error that quotes the type
when there is none. -/
def handleRequest : Operation → Handler Response
  | .register username email password => handleRegister username email password
  | .login username password => handleLogin bcrypt sessionTTL username password
  | .logout token => handleLogout stack token
  | .validate token => handleValidate stack token
  | .refresh token => handleRefresh sessionTTL stack token
  | .unknown type => pure (.error ("unknown request type: " ++ type))

/-- The part of `handleConnection` that remembers a successful login under the
connection, for thirty minutes. -/
def rememberLogin (connId : String) : Response → Handler Response
  | .success (.login data) => do
    let _ ← askRedis (.set (.connection connId) (.connection data.userId data.token) 1800)
    pure (.success (.login data))
  | response => pure response

/-- One request of `handleConnection`. After a login has been answered with success, its
session is remembered under the connection it came on. -/
def handleConnection (request : Request) : Handler Response :=
  match request.operation with
  | .login username password => do
    let response ← handleLogin bcrypt sessionTTL username password
    rememberLogin request.connId response
  | operation => handleRequest bcrypt sessionTTL stack operation

/-- The authentication server: any number of connections, each with a request in progress,
over the two stores. Commands of different requests interleave in any order. -/
def authServer : Service Request Command Command.Result Response Store Choice where
  handler := handleConnection bcrypt sessionTTL stack
  perform := perform bcrypt

end AuthHandler

/-- A request in progress or answered, with the trace of the commands that it has executed and
their results. -/
abbrev AuthTask := Task Request Command Command.Result Response

/-- The stores and all requests that have been accepted so far, in the order in which they
came. -/
abbrev AuthState := State Request Command Command.Result Response Store

/-- The default of `SESSION_TTL`, one day, which the server takes when the variable is not
set. -/
def defaultTTL : SessionTTL := ⟨86400, by decide⟩

/-- Hashing that keeps the password in the open, so that runs on fixed inputs can be
evaluated. -/
def plainBcrypt : Bcrypt where
  generateFromPassword password _ := .ok password
  compareHashAndPassword hashedPassword password :=
    if hashedPassword = password then .ok ()
    else .error "crypto/bcrypt: hashedPassword is not the hash of the given password"

/-- A registered user whose hash fits the password `secret` under that hashing. -/
def alice : User :=
  { id := "u1", username := "alice", email := "alice@example.com", passwordHash := "secret" }

/-- One user, and nothing in Redis: the store on which the runs of the examples start. -/
def aliceOnly : Store where
  redis := { table := .empty, clock := 0 }
  postgres := (Postgres.empty.insertUser alice ⟨by decide, by decide, by decide⟩).2
  clock := 0

/-- A token the random source may draw, of the length that 32 bytes have in base64. -/
def firstToken : GeneratedToken :=
  ⟨"AAAAAAAAAAAAAAAAAAAAAAAAAAAAAAAAAAAAAAAAAAA=", by decide⟩

/-- A second token, for runs in which a session is exchanged for another one. -/
def secondToken : GeneratedToken :=
  ⟨"BBBBBBBBBBBBBBBBBBBBBBBBBBBBBBBBBBBBBBBBBBB=", by decide⟩

/-- A third token, for runs in which two refreshes draw one each. -/
def thirdToken : GeneratedToken :=
  ⟨"CCCCCCCCCCCCCCCCCCCCCCCCCCCCCCCCCCCCCCCCCCC=", by decide⟩

/-- A user id that may be drawn; no run of the examples registers a second user with it. -/
def firstId : UUID := ⟨"00000000-0000-4000-8000-000000000001", by decide⟩

/-- Both clocks advance by one, the stores work, and the given token is what is drawn if this
command draws one. -/
def tick (token : GeneratedToken) : Choice :=
  { elapsed := 1, redisElapsed := 1, failure := none, token := .ok token, userId := firstId
    salt := "" }

end ShoppingCS.Auth
