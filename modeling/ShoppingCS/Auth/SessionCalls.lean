import ShoppingCS.Auth.Lists
import ShoppingCS.Auth.Lookup
import ShoppingCS.Auth.Moves

/-!
# The session service by itself

The methods of the session service, called by anybody in any order. The service
runs over the same commands as the authentication server, which calls some of them
on behalf of its requests.

The Redis set of a user is an index of the user's sessions. A creation writes the
session first, then lists it, then renews the life of the list; a deletion removes
the session before it unlists it.
-/

namespace ShoppingCS.Auth

open Interleaving Program Storage

/-- The methods of the session service, each with its arguments. `ValidateSession` is left out
because it is `GetSession` under another name. -/
inductive SessionCall where
  | createSession (user : User)
  | getSession (token : String)
  | deleteSession (token : String)
  | refreshSession (token : String)
  | deleteUserSessions (userId : String)
deriving DecidableEq

/-- What they return: a session or an error, or nothing for the methods whose errors are
dropped. -/
inductive Returned where
  | session (result : Except String Session)
  | done

/-- The token a call presents, which is the one that its caller wants to be looked up,
exchanged or deleted. -/
def SessionCall.token? : SessionCall → Option String
  | .getSession token => some token
  | .deleteSession token => some token
  | .refreshSession token => some token
  | _ => none

/-- Whether a call creates a session. A refresh does, once it has deleted the old one. -/
def SessionCall.creates : SessionCall → Bool
  | .createSession _ => true
  | .refreshSession _ => true
  | _ => false

/-- The program of a call, which is the method of the source with its result made one of
`Returned`. -/
def callSession (sessionTTL : SessionTTL) (stack : Nat) : SessionCall → Handler Returned
  | .createSession user => do return .session (← createSession sessionTTL user)
  | .getSession token => do return .session (← getSession stack token)
  | .deleteSession token => do
    deleteSession stack token
    return .done
  | .refreshSession token => do return .session (← refreshSession sessionTTL stack token)
  | .deleteUserSessions userId => do
    deleteUserSessions userId
    return .done

/-- The session service on its own: any number of calls over the two stores, without the
connections and the requests that make them. -/
def sessionServer (bcrypt : Bcrypt) (sessionTTL : SessionTTL) (stack : Nat) :
    Service SessionCall Command Command.Result Returned Store Choice where
  handler := callSession sessionTTL stack
  perform := perform bcrypt

/-- A call in progress or returned, with the trace of its commands. -/
abbrev SessionTask := Task SessionCall Command Command.Result Returned

/-- The stores and all calls made so far, in the order in which they were made. -/
abbrev SessionState := Running SessionCall Returned

/-- The call has returned a session it has created, so its caller knows the token. -/
def Created (task : SessionTask) (session : Session) : Prop :=
  task.request.creates = true ∧ task.answer? = some (.session (.ok session))

/-- The trace has listed the session: it has executed the `SADD` of the token to the list of
the user. -/
def Added (trace : Trace) (session : Session) : Prop :=
  ∃ event ∈ trace, event.command = .redis (.sAdd (.userSessions session.userId) session.token)

instance (trace : Trace) (session : Session) : Decidable (Added trace session) :=
  inferInstanceAs (Decidable (∃ event ∈ trace, _))

/-- The user whose list a command renews, by setting the deadline of that list. -/
def Command.renewed? : Command → Option String
  | .redis (.expire (.userSessions userId) _) => some userId
  | _ => none

/-- The trace has renewed the list the session is in, after or before listing the session; the
order is said by other conditions. -/
def Renewed (trace : Trace) (session : Session) : Prop :=
  ∃ event ∈ trace, event.command.renewed? = some session.userId

instance (trace : Trace) (session : Session) : Decidable (Renewed trace session) :=
  inferInstanceAs (Decidable (∃ event ∈ trace, _))

/-- The trace has read a session of the token and deleted its key afterwards. -/
def Erased (trace : Trace) (token : String) : Prop :=
  ∃ earlier event later, trace = earlier ++ event :: later ∧ event.command.use = .deletes token ∧
    ∃ session, Saw earlier token session

/-- What must have happened before a command of a call. The order of a creation stands here:
it draws, stores the session, lists it, and then renews the list. -/
structure CallAllowed (sessionTTL : SessionTTL) (call : SessionCall) (trace : Trace)
    (command : Command) : Prop where
  disciplined : command.use ≠ .foreign
  keeps : command.KeepsLists
  draws : command.use = .draws → drawn trace = []
  stores : ∀ session, command.use = .stores session →
    command = .redis (.set (.session session.token) (.session session) sessionTTL.val) ∧
      drawn trace = [session.token] ∧ stored trace = []
  lists : ∀ userId token, command = .redis (.sAdd (.userSessions userId) token) →
    ∃ session ∈ stored trace, session.userId = userId ∧ session.token = token
  renews : ∀ userId seconds, command = .redis (.expire (.userSessions userId) seconds) →
    seconds = sessionTTL.val ∧ ∃ session ∈ stored trace, session.userId = userId ∧
      Added trace session
  unlists : ∀ userId token, command = .redis (.sRem (.userSessions userId) token) →
    Erased trace token
  clears : ∀ userId, command = .redis (.delete (.userSessions userId)) →
    call = .deleteUserSessions userId
  deletes : ∀ token, command.use = .deletes token → call.token? = some token ∨
    ∃ userId tokens, call = .deleteUserSessions userId ∧ token ∈ tokens ∧
      ⟨.redis (.sMembers (.userSessions userId)), .ok tokens⟩ ∈ trace

/-- What has been erased stays erased, as the read and the deletion stay in the trace. -/
theorem Erased.append {trace : Trace} {token : String} (erased : Erased trace token) (more : Trace) :
    Erased (trace ++ more) token := by
  obtain ⟨earlier, event, later, rfl, deletes, saw⟩ := erased
  exact ⟨earlier, event, later ++ more, by simp, deletes, saw⟩

/-- What is listed stays listed, in the sense of the trace; a deletion of the list does not
undo it. -/
theorem Added.append {trace : Trace} {session : Session} (added : Added trace session) (more : Trace) :
    Added (trace ++ more) session := by
  obtain ⟨event, member, same⟩ := added
  exact ⟨event, List.mem_append_left _ member, same⟩

/-- What is renewed stays renewed, in the same sense. -/
theorem Renewed.append {trace : Trace} {session : Session} (renewed : Renewed trace session)
    (more : Trace) : Renewed (trace ++ more) session := by
  obtain ⟨event, member, same⟩ := renewed
  exact ⟨event, List.mem_append_left _ member, same⟩

section Allowed

variable {sessionTTL : SessionTTL} {call : SessionCall} {trace : Trace} {command : Command}

/-- A command that leaves the session keys alone is allowed if what it does to a list
is. -/
theorem callAllowed_elsewhere (elsewhere : command.use = .elsewhere) (keeps : command.KeepsLists)
    (lists : ∀ userId token, command = .redis (.sAdd (.userSessions userId) token) →
      ∃ session ∈ stored trace, session.userId = userId ∧ session.token = token)
    (renews : ∀ userId seconds, command = .redis (.expire (.userSessions userId) seconds) →
      seconds = sessionTTL.val ∧ ∃ session ∈ stored trace, session.userId = userId ∧
        Added trace session)
    (unlists : ∀ userId token, command = .redis (.sRem (.userSessions userId) token) →
      Erased trace token)
    (clears : ∀ userId, command = .redis (.delete (.userSessions userId)) →
      call = .deleteUserSessions userId) : CallAllowed sessionTTL call trace command where
  disciplined := by simp [elsewhere]
  keeps := keeps
  draws := fun uses => by simp [elsewhere] at uses
  stores := fun session uses => by simp [elsewhere] at uses
  lists := lists
  renews := renews
  unlists := unlists
  clears := clears
  deletes := fun token uses => by simp [elsewhere] at uses

/-- A command on the key of a session is allowed if storing or deleting it is. -/
theorem callAllowed_session {asked : RedisCommand} {token : String}
    (key : asked.key = .session token) (disciplined : (Command.redis asked).use ≠ .foreign)
    (stores : ∀ session, (Command.redis asked).use = .stores session →
      Command.redis asked =
        .redis (.set (.session session.token) (.session session) sessionTTL.val) ∧
        drawn trace = [session.token] ∧ stored trace = [])
    (deletes : ∀ token, (Command.redis asked).use = .deletes token → call.token? = some token ∨
      ∃ userId tokens, call = .deleteUserSessions userId ∧ token ∈ tokens ∧
        ⟨.redis (.sMembers (.userSessions userId)), .ok tokens⟩ ∈ trace) :
    CallAllowed sessionTTL call trace (.redis asked) := by
  have apart {other : RedisCommand} {userId : String} (listed : other.key = .userSessions userId) :
      Command.redis asked ≠ .redis other := by
    intro same
    obtain rfl := Command.redis.inj same
    simp [key] at listed
  exact
    { disciplined := disciplined
      keeps := fun userId text expiration => apart rfl
      draws := fun uses => absurd (draws_command uses) (by simp)
      stores := stores
      lists := fun userId token same => absurd same (apart rfl)
      renews := fun userId seconds same => absurd same (apart rfl)
      unlists := fun userId token same => absurd same (apart rfl)
      clears := fun userId same => absurd same (apart rfl)
      deletes := deletes }

/-- A statement and a reading of the clock are allowed at any time, since they are no commands
to Redis at all. -/
theorem callAllowed_local (trace : Trace) (elsewhere : command.use = .elsewhere)
    (local' : ∀ redis, command ≠ .redis redis) : CallAllowed sessionTTL call trace command :=
  callAllowed_elsewhere elsewhere (fun _ _ _ => local' _) (fun _ _ same => absurd same (local' _))
    (fun _ _ same => absurd same (local' _)) (fun _ _ same => absurd same (local' _))
    (fun _ same => absurd same (local' _))

end Allowed

section Lookups

variable {sessionTTL : SessionTTL} {call : SessionCall} {token : String}
  (presents : call.token? = some token)

/-- A command on the key of a token that neither stores nor deletes it is allowed. -/
theorem callAllowed_read (history : Trace) :
    CallAllowed sessionTTL call history (.redis (.get (.session token))) :=
  callAllowed_session rfl (by simp [Command.use]) (by simp [Command.use]) (by simp [Command.use])

include presents

/-- The key of a presented token may be deleted at any time by the call that presents it. -/
theorem callAllowed_delete (history : Trace) :
    CallAllowed sessionTTL call history (.redis (.delete (.session token))) := by
  apply callAllowed_session rfl (by simp [Command.use]) (by simp [Command.use])
  intro other uses
  obtain rfl : token = other := by simpa [Command.use] using uses
  exact Or.inl presents

/-- A deletion deletes the key before it unlists the token. So a token that is unlisted by it
has no session under its key any more. -/
theorem clearSession_called {history : Trace} (found : Except String Session)
    (saw : ∀ session, found = .ok session → Saw history token session) :
    Obeys (CallAllowed sessionTTL call) (fun _ _ => True) history (clearSession token found) := by
  have row (trace : Trace) : CallAllowed sessionTTL call trace (.postgres (.deleteSession token)) :=
    callAllowed_local trace rfl (by simp)
  cases found with
  | error error => exact ⟨callAllowed_delete presents _, fun _ => ⟨row _, fun _ => trivial⟩⟩
  | ok session =>
    refine ⟨callAllowed_delete presents _, fun first => ⟨?_, fun _ => ⟨row _, fun _ => trivial⟩⟩⟩
    apply callAllowed_elsewhere rfl (by simp [Command.KeepsLists]) (by simp) (by simp) ?_ (by simp)
    intro userId other same
    obtain ⟨-, rfl⟩ : session.userId = userId ∧ token = other := by simpa using same
    exact ⟨history, _, [], rfl, rfl, session, saw session rfl⟩

/-- A lookup that returns a session has read it, and a deletion obeys its conditions. The two
call each other, so both are proved together by induction on the room for nested calls. -/
theorem lookup_called (stack : Nat) :
    (∀ history, Obeys (CallAllowed sessionTTL call)
      (fun after found => ∀ session, found = .ok session → Saw after token session) history
      (getSession stack token)) ∧
    ∀ history, Obeys (CallAllowed sessionTTL call) (fun _ _ => True) history
      (deleteSession stack token) := by
  induction stack with
  | zero => exact ⟨fun _ => trivial, fun _ => trivial⟩
  | succ stack inductionHypothesis =>
    have looks (history : Trace) : Obeys (CallAllowed sessionTTL call)
        (fun after found => ∀ session, found = .ok session → Saw after token session) history
        (getSession (stack + 1) token) := by
      rw [getSession_succ]
      refine Obeys.through (fun after found => ∀ session, found = .ok session →
        Saw after token session) ⟨callAllowed_read _, ?_⟩ ?_
      · intro result
        rcases result with error | _ | text
        · exact fun session same => absurd same (by simp)
        · exact fun session same => absurd same (by simp)
        · exact fun session decoded => ⟨text, by simp, decoded⟩
      · intro after found saw
        cases found with
        | error error => exact fun session same => absurd same (by simp)
        | ok session =>
          refine ⟨callAllowed_local _ rfl (by simp), fun now => ?_⟩
          change Obeys _ _ _ (judgeSession stack token session now)
          unfold judgeSession
          split
          · exact (inductionHypothesis.2 _).bind
              (fun _ _ _ session same => absurd same (by simp))
          · intro other same
            obtain rfl := Except.ok.inj same
            exact (saw session rfl).append _
    refine ⟨looks, ?_⟩
    intro history
    rw [deleteSession_succ]
    exact (inductionHypothesis.1 history).bind
      (fun after found saw => clearSession_called presents found saw)

/-- A lookup or deletion neither draws nor stores, because each of its commands presents the
token or is elsewhere. -/
theorem lookup_idle (stack : Nat) (history : Trace) :
    Obeys (CallAllowed sessionTTL call)
      (fun after found => (drawn after = drawn history ∧ stored after = stored history) ∧
        ∀ session, found = .ok session → Saw after token session) history
      (getSession stack token) ∧
    Obeys (CallAllowed sessionTTL call)
      (fun after _ => drawn after = drawn history ∧ stored after = stored history) history
      (deleteSession stack token) := by
  have idle {after : Trace} (presented : ∃ later, after = history ++ later ∧
      ∀ event ∈ later, Presents token event.command) :
      drawn after = drawn history ∧ stored after = stored history := by
    obtain ⟨later, rfl, commands⟩ := presented
    obtain ⟨silent, bare⟩ := presents_idle commands
    simp [drawn_append, stored_append, silent, bare]
  have lookup : Obeys (fun _ _ => True) _ history (getSession stack token) :=
    (issues_sessionCalls stack token).1.obeys (fun _ _ _ _ => trivial)
  have deletion : Obeys (fun _ _ => True) _ history (deleteSession stack token) :=
    (issues_sessionCalls stack token).2.obeys (fun _ _ _ _ => trivial)
  constructor
  · exact (((lookup_called presents stack).1 history).and lookup).mono (fun _ _ both => both.1)
      (fun after found both => ⟨idle both.2, both.1⟩)
  · exact (((lookup_called presents stack).2 history).and deletion).mono (fun _ _ both => both.1)
      (fun after found both => idle both.2)

end Lookups

section Creation

variable {sessionTTL : SessionTTL} {call : SessionCall} {history : Trace}

/-- A creation draws, stores, lists and renews in this order, and returns the session
it has stored. -/
theorem createSession_called (user : User) (undrawn : drawn history = [])
    (unstored : stored history = []) :
    Obeys (CallAllowed sessionTTL call)
      (fun after result => ∀ session, result = .ok session → session ∈ stored after ∧
        Added after session ∧ Renewed after session)
      history (createSession sessionTTL user) := by
  refine Obeys.through (fun after result => ∀ token, result = .ok token →
    drawn after = [token] ∧ stored after = []) ⟨?_, ?_⟩ ?_
  · exact
      { disciplined := by simp [Command.use]
        keeps := fun userId text expiration => by simp
        draws := fun _ => undrawn
        stores := by simp [Command.use]
        lists := by simp
        renews := by simp
        unlists := by simp
        clears := by simp
        deletes := by simp [Command.use] }
  · intro result
    cases result with
    | error error => exact fun token same => absurd same (by simp)
    | ok token =>
      intro other same
      obtain rfl : token.val = other := by simpa using same
      constructor
      · rw [drawn_append, undrawn]
        rfl
      · rw [stored_append, unstored]
        rfl
  · intro after result drew
    cases result with
    | error error => exact fun session same => absurd same (by simp)
    | ok token =>
      obtain ⟨draw, bare⟩ := drew token rfl
      refine ⟨callAllowed_local _ rfl (by simp), fun started =>
        ⟨callAllowed_local _ rfl (by simp), fun createdAt => ?_⟩⟩
      let session : Session :=
        { token := token, userId := user.id, username := user.username, email := user.email
          expiresAt := started + sessionTTL.val * 1000000000, createdAt := createdAt }
      constructor
      · apply callAllowed_session rfl (by simp [Command.use]) ?_ (by simp [Command.use])
        intro other uses
        obtain rfl : session = other := by simpa [Command.use] using uses
        refine ⟨rfl, ?_, ?_⟩
        · rw [List.append_assoc, drawn_append, draw]
          rfl
        · rw [List.append_assoc, stored_append, bare]
          rfl
      intro result
      rcases result with error | done
      · exact fun other same => absurd same (by simp)
      change Obeys _ _ _ (askRedis (.sAdd (.userSessions user.id) token) >>= _)
      constructor
      · apply callAllowed_elsewhere rfl (by simp [Command.KeepsLists]) ?_ (by simp) (by simp) (by simp)
        intro userId other same
        obtain ⟨rfl, rfl⟩ : user.id = userId ∧ token = other := by simpa using same
        exact ⟨session, by simp [stored, storedBy, session], rfl, rfl⟩
      intro result
      rcases result with error | done
      · exact fun other same => absurd same (by simp)
      change Obeys _ _ _ (askRedis (.expire (.userSessions user.id) sessionTTL.val) >>= _)
      refine ⟨?_, fun renewed => ⟨callAllowed_local _ rfl (by simp), fun inserted => ?_⟩⟩
      · apply callAllowed_elsewhere rfl (by simp [Command.KeepsLists]) (by simp) ?_ (by simp) (by simp)
        intro userId seconds same
        obtain ⟨rfl, rfl⟩ : user.id = userId ∧ sessionTTL.val = seconds := by simpa using same
        refine ⟨rfl, session, ?_, rfl, ?_⟩
        · simp [stored, storedBy, session]
        · exact ⟨⟨.redis (.sAdd (.userSessions user.id) token), .ok ()⟩, by simp, rfl⟩
      · intro other same
        obtain rfl : session = other := by simpa using same
        refine ⟨?_, ?_, ?_⟩
        · simp [stored, storedBy, session]
        · exact ⟨⟨.redis (.sAdd (.userSessions user.id) token), .ok ()⟩, by simp, rfl⟩
        · exact ⟨⟨.redis (.expire (.userSessions user.id) sessionTTL.val), renewed⟩, by simp, rfl⟩

/-- A refresh that returns a session has created it. Its lookup and its deletion leave the
trace without a draw, as the creation expects it. -/
theorem refreshSession_called (stack : Nat) (token : String) (presents : call.token? = some token) :
    Obeys (CallAllowed sessionTTL call)
      (fun after result => ∀ session, result = .ok session → session ∈ stored after ∧
        Added after session ∧ Renewed after session)
      [] (refreshSession sessionTTL stack token) := by
  refine (lookup_idle presents stack []).1.bind ?_
  intro after found looked
  cases found with
  | error error => exact fun session same => absurd same (by simp)
  | ok session =>
    obtain ⟨⟨silent, bare⟩, -⟩ := looked
    refine Obeys.through (fun after _ => drawn after = [] ∧ stored after = [])
      ⟨callAllowed_local _ rfl (by simp), fun result => ?_⟩ (fun after found idle => ?_)
    · have idle : drawn (after ++ [⟨.postgres (.selectUserById session.userId), result⟩]) = [] ∧
          stored (after ++ [⟨.postgres (.selectUserById session.userId), result⟩]) = [] := by
        rw [drawn_append, stored_append, silent, bare]
        exact ⟨rfl, rfl⟩
      rcases result with error | _ | user <;> exact idle
    · cases found with
      | error error => exact fun session same => absurd same (by simp)
      | ok user =>
        refine (lookup_idle presents stack after).2.bind ?_
        intro last _ deleted
        exact createSession_called user (deleted.1.trans idle.1) (deleted.2.trans idle.2)

end Creation

section Revocation

variable {sessionTTL : SessionTTL} {userId : String} {history : Trace}

/-- The loop of a revocation deletes the key of every token it is given. -/
theorem deleteTokens_called (tokens listed : List String) (inside : ∀ token ∈ tokens, token ∈ listed)
    (read : ⟨.redis (.sMembers (.userSessions userId)), .ok listed⟩ ∈ history) :
    Obeys (CallAllowed sessionTTL (.deleteUserSessions userId))
      (fun after _ => ∃ later, after = history ++ later ∧
        ∀ token ∈ tokens, ∃ event ∈ later, event.command.use = .deletes token)
      history (deleteTokens tokens) := by
  induction tokens generalizing history with
  | nil => exact ⟨[], by simp, by simp⟩
  | cons token tokens inductionHypothesis =>
    refine ⟨?_, fun deleted => ⟨callAllowed_local _ rfl (by simp), fun row => ?_⟩⟩
    · apply callAllowed_session rfl (by simp [Command.use]) (by simp [Command.use])
      intro other uses
      obtain rfl : token = other := by simpa [Command.use] using uses
      exact Or.inr ⟨userId, listed, rfl, inside token List.mem_cons_self, read⟩
    · refine (inductionHypothesis (fun other member => inside other (List.mem_cons_of_mem _ member))
        (by simp [read])).mono (fun _ _ allowed => allowed) ?_
      rintro after - ⟨later, rfl, all⟩
      refine ⟨_, by rw [List.append_assoc, List.append_assoc], ?_⟩
      intro other member
      rcases List.mem_cons.mp member with rfl | member
      · exact ⟨⟨.redis (.delete (.session other)), deleted⟩, by simp, rfl⟩
      · obtain ⟨event, recorded, deletes⟩ := all other member
        exact ⟨event, by simp [recorded], deletes⟩

/-- A revocation reads the list, and has deleted the key of every token it found
there when it returns. -/
theorem deleteUserSessions_called :
    Obeys (CallAllowed sessionTTL (.deleteUserSessions userId))
      (fun after _ => ∃ reply : (Command.redis (.sMembers (.userSessions userId))).Result,
        ⟨.redis (.sMembers (.userSessions userId)), reply⟩ ∈ after ∧
          ∀ tokens, reply = .ok tokens → ∀ token ∈ tokens,
            ∃ event ∈ after, event.command.use = .deletes token)
      history (deleteUserSessions userId) := by
  constructor
  · exact callAllowed_elsewhere rfl (by simp [Command.KeepsLists]) (by simp) (by simp) (by simp)
      (by simp)
  intro reply
  have clears (trace : Trace) : CallAllowed sessionTTL (.deleteUserSessions userId) trace
      (.redis (.delete (.userSessions userId))) :=
    callAllowed_elsewhere rfl (by simp [Command.KeepsLists]) (by simp) (by simp) (by simp) (by simp)
  have finish (after : Trace)
      (seen : ⟨.redis (.sMembers (.userSessions userId)), reply⟩ ∈ after)
      (all : ∀ found, reply = .ok found → ∀ token ∈ found, ∃ event ∈ after,
        event.command.use = .deletes token) :
      Obeys (CallAllowed sessionTTL (.deleteUserSessions userId))
        (fun after _ => ∃ reply : (Command.redis (.sMembers (.userSessions userId))).Result,
          ⟨.redis (.sMembers (.userSessions userId)), reply⟩ ∈ after ∧
            ∀ tokens, reply = .ok tokens → ∀ token ∈ tokens,
              ∃ event ∈ after, event.command.use = .deletes token)
        after (do
          let _ ← askRedis (.delete (.userSessions userId))
          let _ ← query (.deleteUserSessions userId)
          pure ()) := by
    refine ⟨clears _, fun cleared => ⟨callAllowed_local _ rfl (by simp), fun rows => ?_⟩⟩
    refine ⟨reply, by simp [seen], fun found same token member => ?_⟩
    obtain ⟨event, recorded, deletes⟩ := all found same token member
    exact ⟨event, by simp [recorded], deletes⟩
  cases reply with
  | error error => exact finish _ (by simp) (fun found same => absurd same (by simp))
  | ok tokens =>
    refine (deleteTokens_called tokens tokens (fun _ member => member) (by simp)).bind ?_
    rintro after - ⟨later, rfl, all⟩
    refine finish _ (by simp) (fun found same token member => ?_)
    obtain rfl := Except.ok.inj same
    obtain ⟨event, recorded, deletes⟩ := all token member
    exact ⟨event, List.mem_append_right _ recorded, deletes⟩

end Revocation

/-- What a call that has returned has done: a creation has stored, listed and renewed
its session, and a revocation has deleted what its list held. -/
structure CallAdmits (call : SessionCall) (trace : Trace) (returned : Returned) : Prop where
  created : call.creates = true → ∀ session, returned = .session (.ok session) →
    session ∈ stored trace ∧ Added trace session ∧ Renewed trace session
  revoked : ∀ userId, call = .deleteUserSessions userId →
    ∃ reply : (Command.redis (.sMembers (.userSessions userId))).Result,
      ⟨.redis (.sMembers (.userSessions userId)), reply⟩ ∈ trace ∧
        ∀ tokens, reply = .ok tokens → ∀ token ∈ tokens,
          ∃ event ∈ trace, event.command.use = .deletes token

/-- Every call acts on what it has seen, and returns accordingly; the cases are those of the
five methods. -/
theorem callSession_called (sessionTTL : SessionTTL) (stack : Nat) (call : SessionCall) :
    Obeys (CallAllowed sessionTTL call) (CallAdmits call) [] (callSession sessionTTL stack call) := by
  cases call with
  | createSession user =>
    refine (createSession_called user rfl rfl).bind (fun after result made => ⟨?_, by simp⟩)
    intro _ session same
    exact made session (by simpa using same)
  | getSession token =>
    refine ((lookup_called rfl stack).1 []).bind (fun after found saw => ⟨?_, by simp⟩)
    simp [SessionCall.creates]
  | deleteSession token =>
    refine ((lookup_called rfl stack).2 []).bind (fun after found saw => ⟨?_, by simp⟩)
    simp
  | refreshSession token =>
    refine (refreshSession_called stack token rfl).bind (fun after result made => ⟨?_, by simp⟩)
    intro _ session same
    exact made session (by simpa using same)
  | deleteUserSessions userId =>
    refine deleteUserSessions_called.bind (fun after _ done => ⟨by simp, ?_⟩)
    intro other same
    obtain rfl := SessionCall.deleteUserSessions.inj same
    exact done

/-- A trace that stores at most one session, under the token it has drawn, and lists
and renews only for that session. -/
structure Filed (trace : Trace) : Prop where
  once : ∀ session ∈ stored trace, drawn trace = [session.token] ∧ stored trace = [session]
  added : ∀ session, Added trace session → ∃ kept ∈ stored trace, kept.userId = session.userId ∧
    kept.token = session.token
  renewed : ∀ session, Renewed trace session → ∃ kept ∈ stored trace,
    kept.userId = session.userId ∧ Added trace kept

/-- Only renewals renew: the command is the `EXPIRE` of the list of that user. -/
theorem renewed_command {command : Command} {userId : String}
    (renews : command.renewed? = some userId) : ∃ seconds,
      command = .redis (.expire (.userSessions userId) seconds) := by
  unfold Command.renewed? at renews
  split at renews
  · obtain rfl := Option.some.inj renews
    exact ⟨_, rfl⟩
  · simp at renews

/-- Every allowed command keeps the trace filed. Storing, listing and renewing come in this
order by their conditions, and nothing else touches the three facts. -/
theorem Filed.extend {sessionTTL : SessionTTL} {call : SessionCall} {trace : Trace}
    (filed : Filed trace) {command : Command} (result : command.Result)
    (allowed : CallAllowed sessionTTL call trace command) :
    Filed (trace ++ [⟨command, result⟩]) := by
  refine ⟨?_, ?_, ?_⟩
  · intro session member
    rw [stored_append] at member ⊢
    rw [drawn_append]
    cases List.mem_append.mp member with
    | inl earlier =>
      obtain ⟨draw, single⟩ := filed.once session earlier
      have silent : drawn [⟨command, result⟩] = [] := by
        apply List.filterMap_eq_nil_iff.mpr
        intro event recorded
        obtain rfl := List.mem_singleton.mp recorded
        cases draws : drawnBy ⟨command, result⟩ with
        | none => rfl
        | some token =>
          obtain ⟨token', same, -⟩ := drawnBy_some draws
          obtain ⟨rfl, -⟩ := Event.mk.inj same
          have undrawn := allowed.draws rfl
          simp [draw] at undrawn
      have bare : stored [⟨command, result⟩] = [] := by
        apply List.filterMap_eq_nil_iff.mpr
        intro event recorded
        obtain rfl := List.mem_singleton.mp recorded
        cases stores : storedBy ⟨command, result⟩ with
        | none => rfl
        | some other =>
          obtain ⟨-, -, unstored⟩ := allowed.stores other (storedBy_some stores allowed.disciplined)
          simp [single] at unstored
      simp [silent, bare, draw, single]
    | inr now =>
      obtain ⟨event, recorded, stores⟩ := List.mem_filterMap.mp now
      obtain rfl := List.mem_singleton.mp recorded
      obtain ⟨rfl, draw, unstored⟩ :=
        allowed.stores session (storedBy_some stores allowed.disciplined)
      have kept : stored [⟨.redis (.set (.session session.token) (.session session) sessionTTL.val),
          result⟩] = [session] := by
        simp [stored, stores]
      rw [draw, unstored, kept]
      exact ⟨rfl, rfl⟩
  · rintro session ⟨event, member, adds⟩
    rw [stored_append]
    cases List.mem_append.mp member with
    | inl earlier =>
      obtain ⟨kept, inside, same⟩ := filed.added session ⟨event, earlier, adds⟩
      exact ⟨kept, List.mem_append_left _ inside, same⟩
    | inr now =>
      obtain rfl := List.mem_singleton.mp now
      obtain ⟨kept, inside, same⟩ := allowed.lists _ _ adds
      exact ⟨kept, List.mem_append_left _ inside, same⟩
  · rintro session ⟨event, member, renews⟩
    rw [stored_append]
    cases List.mem_append.mp member with
    | inl earlier =>
      obtain ⟨kept, inside, same, added⟩ := filed.renewed session ⟨event, earlier, renews⟩
      exact ⟨kept, List.mem_append_left _ inside, same, added.append _⟩
    | inr now =>
      obtain rfl := List.mem_singleton.mp now
      obtain ⟨seconds, expires⟩ := renewed_command renews
      obtain ⟨-, kept, inside, same, added⟩ := allowed.renews _ _ expires
      exact ⟨kept, List.mem_append_left _ inside, same, added.append _⟩

/-- The trace of every call is filed, by induction along the trace with the conditions of its
program. -/
theorem traced_filed {bcrypt : Bcrypt} {sessionTTL : SessionTTL} {stack : Nat} {state : SessionState}
    (traced : (sessionServer bcrypt sessionTTL stack).Traced state) {task : SessionTask}
    (member : task ∈ state.tasks) : Filed task.trace := by
  have kept := (callSession_called sessionTTL stack task.request).keeps (traced task member) Filed
    (fun _ _ result filed allowed => filed.extend result allowed)
    ⟨by simp, by simp [Added], by simp [Renewed]⟩
  simpa using kept

end ShoppingCS.Auth
