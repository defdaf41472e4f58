import ShoppingCS.Interleaving.Ownership
import ShoppingCS.Auth.Accounts
import ShoppingCS.Auth.FailedRefresh
import ShoppingCS.Auth.RequestLines
import ShoppingCS.Auth.SessionCalls

/-!
# What Redis knows about connections

A connection notes its last login under a key of its own, for thirty minutes, and deletes
the key when its stream ends. Here whole connections run against each other, each with
everything its client will ever send.
-/

namespace ShoppingCS.Auth

open Interleaving Program Storage Web

/-- A connection: its id, and the bytes that arrive on it. -/
structure ClientStream where
  connId : String
  bytes : List UInt8

/-- The server, connection by connection: a request here is the whole stream of bytes a client
sends, and its answer the bytes written back. -/
def wireServer (bcrypt : Bcrypt) (sessionTTL : SessionTTL) (stack : Nat) :
    Service ClientStream Command Command.Result (List UInt8) Store Choice where
  handler client := Wire.handleConnection goJson bcrypt sessionTTL client.connId client.bytes stack
  perform := perform bcrypt

/-- The commands that do not concern the key of a connection. -/
def Unnoted (command : Command) : Prop :=
  ∀ asked connId, command = .redis asked → asked.key ≠ .connection connId

/-- What an event makes of the value under the key of a connection. -/
def note (connId : String) (value : Option Value) :
    Event Command Command.Result → Option Value
  | ⟨.redis (.set key text _), .ok _⟩ => if key = .connection connId then some (.string text) else value
  | ⟨.redis (.delete key), .ok _⟩ => if key = .connection connId then none else value
  | _ => value

/-- What a trace has left under the key of its connection. -/
def noted (connId : String) (trace : Trace) : Option Value := trace.foldl (note connId) none

/-- The trace has found the user of this name, whose password is this one, and has stored a
session for the user. -/
def Proven (bcrypt : Bcrypt) (username password : String) (trace : Trace) (userId token : String) :
    Prop :=
  ∃ session ∈ stored trace, session.userId = userId ∧ session.token = token ∧ ∃ user,
    ⟨.postgres (.selectUserByUsername username), .ok (some user)⟩ ∈ trace ∧
      bcrypt.compareHashAndPassword user.passwordHash password = .ok () ∧ session.For user

/-- The client has sent a login, which the trace has proven. -/
def LoggedIn (bcrypt : Bcrypt) (bytes : List UInt8) (trace : Trace) (userId token : String) : Prop :=
  ∃ line ∈ scanAll bytes, ∃ request, goJson.unmarshalRequest line RequestMessage.zero = some request ∧
    request.type = "login" ∧ Proven bcrypt request.username request.password trace userId token

/-- What a connection may do to the keys of connections. -/
inductive Notes (bcrypt : Bcrypt) (client : ClientStream) (trace : Trace) : Command → Prop where
  | elsewhere {command : Command} (unnoted : Unnoted command) : Notes bcrypt client trace command
  | login {userId token : String} (proven : LoggedIn bcrypt client.bytes trace userId token) :
      Notes bcrypt client trace
        (.redis (.set (.connection client.connId) (.connection userId token) 1800))
  | close : Notes bcrypt client trace (.redis (.delete (.connection client.connId)))

/-- What a part of a trace proves, the whole does. -/
theorem Proven.within {bcrypt : Bcrypt} {username password userId token : String} {trace : Trace}
    (proven : Proven bcrypt username password trace userId token) (before later : Trace) :
    Proven bcrypt username password (before ++ trace ++ later) userId token := by
  obtain ⟨session, member, own, named, user, found, compared, owned⟩ := proven
  refine ⟨session, ?_, own, named, user, ?_, compared, owned⟩
  · rw [stored_append, stored_append]
    exact List.mem_append_left _ (List.mem_append_right _ member)
  · exact List.mem_append_left _ (List.mem_append_right _ found)

/-- What a trace has proven about a login it still proves after more events, since the login
is in the part that was there. -/
theorem LoggedIn.append {bcrypt : Bcrypt} {bytes : List UInt8} {trace : Trace}
    {userId token : String} (login : LoggedIn bcrypt bytes trace userId token) (later : Trace) :
    LoggedIn bcrypt bytes (trace ++ later) userId token := by
  obtain ⟨line, sent, request, decoded, about, proven⟩ := login
  exact ⟨line, sent, request, decoded, about, proven.within [] later⟩

section Requests

variable (bcrypt : Bcrypt) (sessionTTL : SessionTTL) (stack : Nat)

/-- The lookup of a user names no key of Redis. -/
theorem unnoted_statement (statement : Statement) : Unnoted (.postgres statement) :=
  fun _ _ same => absurd same (by simp)

/-- Lookups and deletions of sessions name the keys of sessions and lists. -/
theorem CallsSession.unnoted {token : String} {command : Command}
    (calls : CallsSession token command) : Unnoted command := by
  intro asked connId same
  cases calls <;> simp at same <;> subst same <;> simp [RedisCommand.key]

/-- A creation issues no command on the key of any connection, only on those of the session
and the user. -/
theorem CallsCreation.unnoted {user : User} {command : Command}
    (calls : CallsCreation sessionTTL user command) : Unnoted command := by
  intro asked connId same
  cases calls <;> simp at same <;> subst same <;> simp [RedisCommand.key]

/-- A registration issues nothing to Redis at all, so it names no such key. -/
theorem CallsRegistration.unnoted {command : Command} (calls : CallsRegistration command) :
    Unnoted command := by
  intro asked connId same
  cases calls <;> simp at same

/-- Nothing that a request issues before it is answered names the key of a connection: its
statements name no key at all, and its Redis commands those of sessions and lists. -/
theorem Operation.Calls.unnoted {operation : Operation} {command : Command}
    (calls : operation.Calls sessionTTL command) : Unnoted command := by
  have checked {token : String} (calls : CallsCheck token command) : Unnoted command := by
    cases calls with
    | session calls => exact calls.unnoted
    | owner userId => exact unnoted_statement _
  cases operation with
  | register username email password => exact CallsRegistration.unnoted calls
  | login username password =>
    have logs : CallsLogin sessionTTL username command := calls
    cases logs with
    | find => exact unnoted_statement _
    | create calls => exact calls.unnoted
  | logout token => exact CallsSession.unnoted calls
  | validate token => exact checked calls
  | refresh token =>
    have refreshes : CallsRefresh sessionTTL token command := calls
    cases refreshes with
    | check calls => exact checked calls
    | create calls => exact calls.unnoted
  | unknown type => exact absurd calls id

/-- No request names the key of a connection while it is handled. -/
theorem handleRequest_unnoted (operation : Operation) :
    (handleRequest bcrypt sessionTTL stack operation).Issues Unnoted :=
  (handleRequest_calls bcrypt sessionTTL stack operation).mono (fun _ calls => calls.unnoted)

/-- A login that returns a session has found the user, compared the password and stored the
session. -/
theorem login_proven (username password : String) :
    Obeys (fun _ command => Unnoted command)
      (fun after result => ∀ session : Session, result = .ok session →
        Proven bcrypt username password after session.userId session.token)
      [] (login bcrypt sessionTTL username password) := by
  unfold login
  split_ifs
  · exact fun session same => absurd same (by simp)
  · exact fun session same => absurd same (by simp)
  refine ⟨unnoted_statement _, fun found => ?_⟩
  rcases found with error | _ | user
  · exact fun session same => absurd same (by simp)
  · exact fun session same => absurd same (by simp)
  change Obeys _ _ _
    (finishLogin sessionTTL user (bcrypt.compareHashAndPassword user.passwordHash password))
  cases compared : bcrypt.compareHashAndPassword user.passwordHash password with
  | error error => exact fun session same => absurd same (by simp)
  | ok _ =>
    have unnoted : (createSession sessionTTL user).Issues Unnoted :=
      (createSession_calls sessionTTL user).mono (fun _ calls => calls.unnoted)
    let history : Trace := [⟨.postgres (.selectUserByUsername username), .ok (some user)⟩]
    have called : Obeys (CallAllowed sessionTTL (.createSession user)) _ history
        (createSession sessionTTL user) :=
      createSession_called user rfl rfl
    have free : Obeys (fun _ command => Unnoted command) _ history
        (createSession sessionTTL user) :=
      unnoted.obeys (fun _ _ _ free => free)
    refine ((free.and (called.and (createSession_for sessionTTL user _))).mono
      (fun _ _ both => both.1) (fun _ _ both => both)).bind ?_
    intro after result proven
    cases result with
    | error error => exact fun session same => absurd same (by simp)
    | ok session =>
      intro other same
      obtain rfl := Except.ok.inj same
      obtain ⟨⟨later, rfl, -⟩, created, owned⟩ := proven
      exact ⟨session, (created session rfl).1, rfl, rfl, user, by simp [history], compared,
        owned session rfl⟩

/-- It is answered with login data that has been proven, or with an error. -/
theorem handleLogin_proven (username password : String) :
    Obeys (fun _ command => Unnoted command)
      (fun after response => (∃ error, response = .error error) ∨
        ∃ data, response = .success (.login data) ∧
          Proven bcrypt username password after data.userId data.token)
      [] (handleLogin bcrypt sessionTTL username password) := by
  unfold handleLogin
  split_ifs
  · exact Or.inl ⟨_, rfl⟩
  · apply (login_proven bcrypt sessionTTL username password).bind
    intro after result proven
    cases result with
    | error error => exact Or.inl ⟨error, rfl⟩
    | ok session => exact Or.inr ⟨session.response, rfl, proven session rfl⟩

end Requests

namespace Wire

/-- Login data that can be decoded is the data that has been marshalled. -/
theorem goJson_unmarshals {data login : LoginResponseData} {text : List UInt8}
    (marshalled : goJson.marshalData (.login data) = some text)
    (decoded : goJson.unmarshalLogin text = some login) : login = data := by
  by_cases fits : -0x8000000000000000 ≤ data.expiresAt ∧ data.expiresAt < 0x8000000000000000
  · obtain ⟨text', marshalled', decoded'⟩ := goJson_login data fits.1 fits.2
    obtain rfl := Option.some.inj (marshalled.symm.trans marshalled')
    exact Option.some.inj (decoded.symm.trans decoded')
  · have late (login : LoginResponseData) :
        setLogin login ("expires_at".toList, .number (.ofInt data.expiresAt)) = none := by
      change setInteger (.number (.ofInt data.expiresAt)) login
        (fun number => { login with expiresAt := number }) = none
      simp only [setInteger, NumberLiteral.int?_ofInt]
      rw [if_neg fits]
    have text : goJson.marshalData (.login data) = some (textOf (Data.login data).toJson) := rfl
    obtain rfl := Option.some.inj (marshalled.symm.trans text)
    change decodeMembers setLogin (textOf (Data.login data).toJson) _ = _ at decoded
    rw [Data.toJson, decodeMembers_textOf] at decoded
    simp only [List.foldlM_cons, List.foldlM_nil, late, Option.bind_eq_bind, Option.bind_none,
      Option.bind_fun_none, reduceCtorEq] at decoded

variable (bcrypt : Bcrypt) (sessionTTL : SessionTTL) (stack : Nat)

/-- The answer to a login proves what the connection is about to note. -/
theorem respond_notes (client : ClientStream) (history : Trace) (request : RequestMessage) :
    Obeys (Notes bcrypt client)
      (fun after message => request.type = "login" → message.status = "success" →
        ∀ login, goJson.unmarshalLogin message.data = some login →
          Proven bcrypt request.username request.password after login.userId login.token)
      history (respond goJson bcrypt sessionTTL stack request) := by
  by_cases about : request.type = "login"
  · have operation : request.operation = .login request.username request.password := by
      simp [RequestMessage.operation, about]
    have proven : Obeys (Notes bcrypt client) _ (history ++ []) _ :=
      ((handleLogin_proven bcrypt sessionTTL request.username request.password).behind
        history).mono (fun _ _ free => .elsewhere free.choose_spec.2) (fun _ _ both => both)
    rw [List.append_nil] at proven
    rw [respond, operation]
    apply proven.bind
    intro after response later asked accepted login decoded
    obtain ⟨own, rfl, refused | proven⟩ := later
    · obtain ⟨error, rfl⟩ := refused
      exact absurd accepted (by simp [Response.toMessage, errorResponse])
    · obtain ⟨data, rfl, proven⟩ := proven
      cases marshalled : goJson.marshalData (.login data) with
      | none =>
        simp [Response.toMessage, successResponse, marshalled, errorResponse] at accepted
      | some text =>
        simp only [Response.toMessage, successResponse, marshalled, Option.map_some,
          Option.getD_some] at decoded
        obtain rfl := goJson_unmarshals marshalled decoded
        simpa using proven.within history []
  · have free : Obeys (Notes bcrypt client) _ history _ :=
      (handleRequest_unnoted bcrypt sessionTTL stack request.operation).obeys
        (fun _ _ _ free => .elsewhere free)
    apply free.bind
    intro after response later asked
    exact absurd asked about

/-- The loop notes a user and a token only after an answer that proves the login. By induction
on the lines, from whatever trace lies before. -/
theorem serveLines_notes (client : ClientStream) {connection : Connection}
    (own : connection.id = client.connId) {lines : List (List UInt8)}
    (sent : ∀ line ∈ lines, line ∈ scanAll client.bytes) (history : Trace) :
    Obeys (Notes bcrypt client) (fun _ _ => True) history
      (serveLines goJson bcrypt sessionTTL stack connection lines) := by
  induction lines generalizing connection history with
  | nil => trivial
  | cons line lines inductionHypothesis =>
    obtain ⟨here, later⟩ := List.forall_mem_cons.mp sent
    rw [serveLines]
    split_ifs
    · exact inductionHypothesis own later history
    · split
      · exact (inductionHypothesis own later history).bind (fun _ _ _ => trivial)
      · rename_i request decoded
        apply (respond_notes bcrypt sessionTTL stack client history request).bind
        intro after message proven
        have remembers : Obeys (Notes bcrypt client) (fun _ kept => kept.id = client.connId) after
            (rememberLogin goJson connection request message) := by
          unfold rememberLogin
          split_ifs with accepted
          · split
            · exact own
            · rename_i login found
              refine ⟨?_, fun _ => own⟩
              rw [own]
              exact .login ⟨line, here, request, decoded, accepted.1,
                proven accepted.1 accepted.2 login found⟩
          · exact own
        apply remembers.bind
        intro last kept same
        split
        · trivial
        · exact (inductionHypothesis same later last).bind (fun _ _ _ => trivial)

/-- So does the whole connection, which deletes its key at the end. -/
theorem handleConnection_notes (client : ClientStream) :
    Obeys (Notes bcrypt client)
      (fun after _ => ∃ before result,
        after = before ++ [⟨.redis (.delete (.connection client.connId)), result⟩])
      [] (handleConnection goJson bcrypt sessionTTL client.connId client.bytes stack) := by
  have served : Obeys (Notes bcrypt client) _ []
      (serveLines goJson bcrypt sessionTTL stack (.new client.connId) (scanAll client.bytes)) :=
    serveLines_notes bcrypt sessionTTL stack client rfl (fun _ sent => sent) []
  apply served.bind
  intro before written _
  exact ⟨.close, fun result => ⟨before, result, rfl⟩⟩

end Wire

section Keys

variable {bcrypt : Bcrypt} {client : ClientStream}

/-- Only a successful write or deletion of the key itself makes a difference to what is noted
under it. -/
theorem note_elsewhere {connId : String} (value : Option Value) (event : Event Command Command.Result)
    (elsewhere : ∀ asked, event.command = .redis asked → asked.key ≠ .connection connId) :
    note connId value event = value := by
  unfold note
  split
  · rename_i key text expiration result
    exact if_neg (elsewhere _ rfl)
  · rename_i key result
    exact if_neg (elsewhere _ rfl)
  · rfl

/-- What a connection has noted is a login it has proven. -/
theorem Notes.proven {trace : Trace} {command : Command} (notes : Notes bcrypt client trace command)
    (result : command.Result)
    (before : ∀ value, noted client.connId trace = some value → ∃ userId token,
      value = .string (.connection userId token) ∧ LoggedIn bcrypt client.bytes trace userId token) :
    ∀ value, noted client.connId (trace ++ [⟨command, result⟩]) = some value → ∃ userId token,
      value = .string (.connection userId token) ∧
        LoggedIn bcrypt client.bytes (trace ++ [⟨command, result⟩]) userId token := by
  have kept : ∀ value, noted client.connId trace = some value → ∃ userId token,
      value = .string (.connection userId token) ∧
        LoggedIn bcrypt client.bytes (trace ++ [⟨command, result⟩]) userId token := by
    intro value same
    obtain ⟨userId, token, text, proven⟩ := before value same
    exact ⟨userId, token, text, proven.append _⟩
  intro value same
  rw [noted, List.foldl_append] at same
  change note client.connId (noted client.connId trace) ⟨command, result⟩ = some value at same
  cases notes with
  | elsewhere unnoted =>
    rw [note_elsewhere _ _ (fun asked about => unnoted asked client.connId about)] at same
    exact kept value same
  | @login userId token proven =>
    cases result with
    | error error => exact kept value same
    | ok _ =>
      simp only [note, if_pos] at same
      obtain rfl := Option.some.inj same
      exact ⟨userId, token, rfl, proven.append _⟩
  | close =>
    cases result with
    | error error => exact kept value same
    | ok _ => simp [note] at same

/-- The value under the key of a connection, whether or not it has expired, so that time alone
changes nothing. -/
def Store.noted (store : Store) (connId : String) : Option Value :=
  (store.redis.table.get? (.connection connId)).map Entry.value

/-- A command on another key, or on no key, leaves the key alone. -/
theorem perform_elsewhere_key {connId : String} (command : Command) (choice : Choice) (store : Store)
    (elsewhere : ∀ asked, command = .redis asked → asked.key ≠ .connection connId) :
    (perform bcrypt command choice store).2.redis.table.get? (.connection connId) =
      store.redis.table.get? (.connection connId) := by
  cases command with
  | redis asked => exact perform_redis_other bcrypt asked (elsewhere asked rfl)
  | postgres statement => rw [perform_postgres_redis]
  | _ => rfl

/-- A connection names no key of a connection but its own, so the commands on other keys are
not its. -/
theorem Notes.other {trace : Trace} {command : Command} (notes : Notes bcrypt client trace command)
    {other : String} (apart : other ≠ client.connId) (asked : RedisCommand)
    (same : command = .redis asked) : asked.key ≠ .connection other := by
  cases notes with
  | elsewhere unnoted => exact unnoted asked other same
  | login proven =>
    obtain rfl := Command.redis.inj same
    simpa [RedisCommand.key] using apart.symm
  | close =>
    obtain rfl := Command.redis.inj same
    simpa [RedisCommand.key] using apart.symm

/-- What a connection does to its own key is noted. -/
theorem Notes.own {trace : Trace} {command : Command} (notes : Notes bcrypt client trace command)
    (choice : Choice) (store : Store) :
    (perform bcrypt command choice store).2.noted client.connId =
      note client.connId (store.noted client.connId) ⟨command, (perform bcrypt command choice store).1⟩ := by
  cases notes with
  | elsewhere unnoted =>
    have elsewhere := fun asked about => unnoted asked client.connId about
    rw [note_elsewhere _ _ elsewhere, Store.noted, perform_elsewhere_key _ _ _ elsewhere]
    rfl
  | login proven =>
    cases failing : choice.failure with
    | some error => simp [perform, failing, note, Store.noted, Store.wait, Redis.wait]
    | none => simp [perform, failing, note, Store.noted, Redis.execute, Redis.get?_put]
  | close =>
    cases failing : choice.failure with
    | some error => simp [perform, failing, note, Store.noted, Store.wait, Redis.wait]
    | none => simp [perform, failing, note, Store.noted, Redis.execute, Redis.get?_remove]

/-- Every connection owns its key: the value there is what its own successful writes and
deletions make of it, in the order of its trace. -/
def connectionKeys (bcrypt : Bcrypt) (sessionTTL : SessionTTL) (stack : Nat) :
    (wireServer bcrypt sessionTTL stack).Ownership String (Option Value) where
  owned := ClientStream.connId
  view := Store.noted
  note := note
  issued connId command := ∃ bytes trace, Notes bcrypt ⟨connId, bytes⟩ trace command
  issues client := (Wire.handleConnection_notes bcrypt sessionTTL stack client).issues.mono
    (fun _ issued => ⟨client.bytes, issued⟩)
  own connId command choice store issued := by
    obtain ⟨bytes, trace, notes⟩ := issued
    exact notes.own choice store
  other connId command choice store other issued apart := by
    obtain ⟨bytes, trace, notes⟩ := issued
    exact congrArg (Option.map Entry.value)
      (perform_elsewhere_key command choice store (notes.other apart))

/-- Keys of connections last for thirty minutes at most, the lifetime the handler writes them
with. -/
def Store.Leased (store : Store) : Prop :=
  ∀ connId entry, store.redis.table.get? (.connection connId) = some entry →
    ∃ deadline, entry.deadline = some deadline ∧ deadline ≤ store.redis.now + 1800000

/-- A command of a connection keeps that so, since it writes the key with thirty minutes and
renews none. -/
theorem Notes.leased {trace : Trace} {command : Command} (notes : Notes bcrypt client trace command)
    (choice : Choice) {store : Store} (leased : store.Leased) :
    (perform bcrypt command choice store).2.Leased := by
  have later : store.redis.now ≤ (perform bcrypt command choice store).2.redis.now := by
    rw [Redis.now, Redis.now, perform_redisClock]
    exact Int.ediv_le_ediv (by decide) (by omega)
  have kept (other : String) (entry : Entry Key Value)
      (found : store.redis.table.get? (.connection other) = some entry) :
      ∃ deadline, entry.deadline = some deadline ∧
        deadline ≤ (perform bcrypt command choice store).2.redis.now + 1800000 := by
    obtain ⟨deadline, same, soon⟩ := leased other entry found
    exact ⟨deadline, same, by omega⟩
  intro other entry found
  cases notes with
  | elsewhere unnoted =>
    rw [perform_elsewhere_key _ _ _ (fun asked about => unnoted asked other about)] at found
    exact kept other entry found
  | login proven =>
    cases failing : choice.failure with
    | some error =>
      exact kept other entry (by simpa [perform, failing, Store.wait, Redis.wait] using found)
    | none =>
      simp only [perform, failing, Redis.execute, Redis.get?_put] at found
      split_ifs at found with own
      · obtain rfl := Option.some.inj found
        refine ⟨(store.wait choice).redis.now + 1800 * 1000, by simp [Redis.deadlineOf], ?_⟩
        simp only [perform, failing, Redis.execute]
        exact Int.le_refl _
      · exact kept other entry found
  | close =>
    cases failing : choice.failure with
    | some error =>
      exact kept other entry (by simpa [perform, failing, Store.wait, Redis.wait] using found)
    | none =>
      simp only [perform, failing, Redis.execute, Redis.get?_remove] at found
      split_ifs at found with own
      exact kept other entry found

end Keys

variable {bcrypt : Bcrypt} {sessionTTL : SessionTTL} {stack : Nat}

/-- In every run keys last for thirty minutes at most. -/
theorem wireServer_leased {initial : Store} (leased : initial.Leased)
    (actions : List (Action ClientStream Choice)) :
    ((wireServer bcrypt sessionTTL stack).run (Service.idleState initial) actions).store.Leased := by
  have both := (wireServer bcrypt sessionTTL stack).run_always
    (fun state => (wireServer bcrypt sessionTTL stack).Traced state ∧ state.store.Leased) ?_
    (Service.idleState initial) actions ⟨Service.idleState_traced _ _, leased⟩
  · exact both.2
  intro state action held
  refine ⟨Service.step_traced _ _ _ held.1, ?_⟩
  generalize after : (wireServer bcrypt sessionTTL stack).step state action = next
  have transition : (wireServer bcrypt sessionTTL stack).Transition state action next :=
    after ▸ Service.step_transition _ state action
  cases transition with
  | started request => exact held.2
  | idle index choice nothing => exact held.2
  | proceeded index choice task command resume present pending =>
    have notes := held.1.pending_allowed (List.mem_of_getElem? present)
      (Wire.handleConnection_notes bcrypt sessionTTL stack task.request) pending
    exact notes.leased choice held.2

/-- In every run of connections with different ids, the key of a connection holds what the
connection itself has noted: the last login it has proven, for thirty minutes at most. When
the connection has ended, its key is gone unless the deletion failed. -/
theorem connection_keys_name_logins (bcrypt : Bcrypt) (sessionTTL : SessionTTL) (stack : Nat)
    (initial : Store)
    (fresh : ∀ connId, initial.redis.table.get? (.connection connId) = none)
    (actions : List (Action ClientStream Choice))
    (different : ((Service.requests actions).map ClientStream.connId).Nodup) :
    let reached := (wireServer bcrypt sessionTTL stack).run (Service.idleState initial) actions
    (∀ connId, (∀ task ∈ reached.tasks, task.request.connId ≠ connId) →
        reached.store.noted connId = none) ∧
      ∀ task ∈ reached.tasks,
        reached.store.noted task.request.connId = noted task.request.connId task.trace ∧
          (∀ value, noted task.request.connId task.trace = some value → ∃ userId token,
            value = .string (.connection userId token) ∧
              LoggedIn bcrypt task.request.bytes task.trace userId token) ∧
          (∀ entry, reached.store.redis.table.get? (.connection task.request.connId) = some entry →
            ∃ deadline, entry.deadline = some deadline ∧
              deadline ≤ reached.store.redis.now + 1800000) ∧
          (task.answer?.isSome → reached.store.noted task.request.connId = none ∨
            ∃ error, ⟨.redis (.delete (.connection task.request.connId)), .error error⟩ ∈
              task.trace) := by
  intro reached
  have kept : (connectionKeys bcrypt sessionTTL stack).Kept initial reached :=
    ((connectionKeys bcrypt sessionTTL stack).kept_idle initial).run actions
      (by simpa [connectionKeys] using different)
  have nothing (connId : String) : initial.noted connId = none := by
    rw [Store.noted, fresh, Option.map_none]
  have leased : reached.store.Leased := by
    apply wireServer_leased
    intro connId entry found
    exact absurd (found.symm.trans (fresh connId)) (by simp)
  constructor
  · intro connId strange
    exact (kept.unwritten connId strange).trans (nothing connId)
  · intro task member
    have obeys := Wire.handleConnection_notes bcrypt sessionTTL stack task.request
    have written : reached.store.noted task.request.connId =
        noted task.request.connId task.trace := by
      have same := kept.written task member
      simp only [connectionKeys, Service.Ownership.noted] at same
      rw [same, nothing]
      rfl
    refine ⟨written, ?_, leased _, ?_⟩
    · have proven := obeys.keeps (kept.traced task member)
        (fun trace => ∀ value, noted task.request.connId trace = some value →
          ∃ userId token, value = .string (.connection userId token) ∧
            LoggedIn bcrypt task.request.bytes trace userId token)
        (fun _ _ result before notes => notes.proven result before)
        (fun value same => absurd same (by simp [noted]))
      simpa using proven
    · intro answered
      obtain ⟨output, answered⟩ := Option.isSome_iff_exists.mp answered
      obtain ⟨before, result, ended⟩ := kept.traced.answer_admitted member obeys answered
      cases result with
      | error error =>
        right
        exact ⟨error, by rw [ended]; exact List.mem_append_right _ List.mem_cons_self⟩
      | ok _ =>
        left
        rw [written, ended, noted, List.foldl_append]
        simp [note]

/-- A client has logged in as alice; another one has connected. -/
def aliceConnected : List (Action ClientStream Choice) :=
  .start ⟨"c1", frame Wire.loginLine⟩ :: .start ⟨"c2", []⟩ ::
    List.replicate 9 (.proceed 0 (tick firstToken))

set_option maxRecDepth 4000 in
/-- On the run of the witness Alice's connection has noted her user and her token, and the
login they belong to is in its trace. -/
theorem alice_noted :
    ∃ task ∈ ((wireServer plainBcrypt defaultTTL 4).run (Service.idleState aliceOnly)
        aliceConnected).tasks,
      noted "c1" task.trace = some (.string (.connection "u1" firstToken.val)) ∧
        LoggedIn plainBcrypt (frame Wire.loginLine) task.trace "u1" firstToken.val := by
  obtain ⟨-, each⟩ := connection_keys_name_logins plainBcrypt defaultTTL 4 aliceOnly
    (fun _ => rfl) aliceConnected (by decide)
  have stored : ((wireServer plainBcrypt defaultTTL 4).run (Service.idleState aliceOnly)
      aliceConnected).store.noted "c1" =
        some (.string (.connection "u1" firstToken.val)) := by
    decide
  have asked : ((wireServer plainBcrypt defaultTTL 4).run (Service.idleState aliceOnly)
      aliceConnected).tasks[0]?.map (·.request) = some ⟨"c1", frame Wire.loginLine⟩ := by
    rfl
  obtain ⟨task, found, own⟩ := Option.map_eq_some_iff.mp asked
  have member := List.mem_of_getElem? found
  obtain ⟨written, proven, -⟩ := each task member
  rw [own, stored] at written
  rw [own] at proven
  obtain ⟨userId, token, same, login⟩ := proven _ written.symm
  obtain ⟨rfl, rfl⟩ : "u1" = userId ∧ firstToken.val = token := by simpa using same
  exact ⟨task, member, written.symm, login⟩

end ShoppingCS.Auth
