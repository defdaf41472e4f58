import ShoppingCS.Auth.Commands
import ShoppingCS.Interleaving.Histories

/-!
# What a request has seen when it acts

The commands and results of a request determine what it may do next: a token is
drawn once, a session is stored once and for the drawn token, a validation
deletes only what it has found expired. These conditions are proved once, by
following the handlers; an invariant over runs then looks at the pending command
and the trace, and never unfolds a handler again.

The results in a trace are arbitrary here. What the stores can return is added
by the invariants.
-/

namespace ShoppingCS.Auth

open Interleaving Program

/-- The commands a request has executed, with their results. It is all that is known of a
request besides what it asks for and what it has answered. -/
abbrev Trace := List (Event Command Command.Result)

/-- The token an event has drawn. A draw that fails has drawn none. -/
def drawnBy : Event Command Command.Result → Option String
  | ⟨.generateToken, .ok token⟩ => some token.val
  | _ => none

/-- The session an event has stored under the key of a session. A `SET` that fails has stored
none. -/
def storedBy : Event Command Command.Result → Option Session
  | ⟨.redis (.set (.session _) (.session session) _), .ok _⟩ => some session
  | _ => none

/-- The reading of the clock an event has made, in nanoseconds. -/
def readBy : Event Command Command.Result → Option Int
  | ⟨.timeNow, now⟩ => some now
  | _ => none

/-- The tokens a trace has drawn, in the order of the draws; no request draws more than one.
-/
def drawn (trace : Trace) : List String := trace.filterMap drawnBy

/-- The sessions a trace has stored, whether or not they are still there. -/
def stored (trace : Trace) : List Session := trace.filterMap storedBy

/-- The readings of the clock in a trace. A lookup makes one, and a creation makes two. -/
def readings (trace : Trace) : List Int := trace.filterMap readBy

@[simp] theorem drawn_nil : drawn [] = [] := rfl

@[simp] theorem stored_nil : stored [] = [] := rfl

@[simp] theorem readings_nil : readings [] = [] := rfl

@[simp] theorem drawn_append (first second : Trace) :
    drawn (first ++ second) = drawn first ++ drawn second := List.filterMap_append

@[simp] theorem stored_append (first second : Trace) :
    stored (first ++ second) = stored first ++ stored second := List.filterMap_append

@[simp] theorem readings_append (first second : Trace) :
    readings (first ++ second) = readings first ++ readings second := List.filterMap_append

/-- An event that neither draws a token nor stores a session adds nothing to what its trace
has drawn and stored. -/
theorem idle_event {event : Event Command Command.Result} (undrawn : event.command.use ≠ .draws)
    (unstored : ∀ session, event.command.use ≠ .stores session)
    (disciplined : event.command.use ≠ .foreign) : drawnBy event = none ∧ storedBy event = none := by
  constructor
  · unfold drawnBy
    split
    · exact absurd rfl undrawn
    · rfl
  · unfold storedBy
    split
    · rename_i token session expiration result
      by_cases own : session.token = token
      · exact absurd (if_pos own) (unstored session)
      · exact absurd (if_neg own) disciplined
    · rfl

/-- Presenting a token neither draws one nor stores a session. So checks and deletions leave
both lists empty. -/
theorem presents_idle {token : String} {trace : Trace}
    (presents : ∀ event ∈ trace, Presents token event.command) :
    drawn trace = [] ∧ stored trace = [] := by
  have idle (event) (member : event ∈ trace) : drawnBy event = none ∧ storedBy event = none := by
    refine idle_event ?_ (fun session => ?_) ?_
    all_goals rcases presents event member with uses | uses | uses <;> simp [uses]
  exact ⟨List.filterMap_eq_nil_iff.mpr (fun event member => (idle event member).1),
    List.filterMap_eq_nil_iff.mpr (fun event member => (idle event member).2)⟩

/-- The trace has read a session under the key of a token. Whether the session was still in
time is not asked here. -/
def Saw (trace : Trace) (token : String) (session : Session) : Prop :=
  ∃ text, ⟨.redis (.get (.session token)), .ok (some text)⟩ ∈ trace ∧ text.decode = .ok session

/-- The session is one of the user: it carries the user's id, name and address. -/
def Session.For (session : Session) (user : User) : Prop :=
  session.userId = user.id ∧ session.username = user.username ∧ session.email = user.email

/-- The request has found the user of a session it stores: by name for a login, by
the id in the old session for a refresh. -/
def Owner (operation : Operation) (trace : Trace) (session : Session) : Prop :=
  (∃ username password user, operation = .login username password ∧
      ⟨.postgres (.selectUserByUsername username), .ok (some user)⟩ ∈ trace ∧ session.For user) ∨
    ∃ token old user, operation = .refresh token ∧ Saw trace token old ∧
      ⟨.postgres (.selectUserById old.userId), .ok (some user)⟩ ∈ trace ∧ session.For user

/-- What must have happened before a command of a request. A draw is the first one; a session
is stored once, under the token that was drawn and for a user whom the trace has found, and
expires a TTL after a reading of the clock; a validation deletes a session only after it has
read that the session has expired. -/
structure Allowed (sessionTTL : SessionTTL) (operation : Operation) (trace : Trace)
    (command : Command) : Prop where
  permits : operation.Permits command
  draws : command.use = .draws → drawn trace = []
  stores : ∀ session, command.use = .stores session →
    command = .redis (.set (.session session.token) (.session session) sessionTTL.val) ∧
      drawn trace = [session.token] ∧ stored trace = [] ∧ Owner operation trace session ∧
      ∃ started ∈ readings trace, session.expiresAt = started + sessionTTL.val * 1000000000
  deletes : ∀ token, operation = .validate token → command.use = .deletes token →
    ∃ session, Saw trace token session ∧ ∃ now ∈ readings trace, session.expiresAt < now

/-- What a longer trace has seen includes what a part of it has. -/
theorem Saw.append {trace : Trace} {token : String} {session : Session}
    (saw : Saw trace token session) (later : Trace) : Saw (trace ++ later) token session := by
  obtain ⟨text, member, decoded⟩ := saw
  exact ⟨text, List.mem_append_left later member, decoded⟩

/-- The owner of a session stays known when the trace grows, since it is known by an event of
the trace. -/
theorem Owner.append {operation : Operation} {trace : Trace} {session : Session}
    (owner : Owner operation trace session) (later : Trace) :
    Owner operation (trace ++ later) session := by
  rcases owner with ⟨username, password, user, asked, member, owns⟩ |
    ⟨token, old, user, asked, saw, member, owns⟩
  · exact Or.inl ⟨username, password, user, asked, List.mem_append_left later member, owns⟩
  · exact Or.inr ⟨token, old, user, asked, saw.append later, List.mem_append_left later member, owns⟩

section Conditions

variable {sessionTTL : SessionTTL} {operation : Operation} {token : String}

/-- A command that leaves tokens alone needs nothing before it. -/
theorem allowed_elsewhere (history : Trace) {command : Command}
    (elsewhere : command.use = .elsewhere) : Allowed sessionTTL operation history command where
  permits := Or.inl elsewhere
  draws uses := absurd uses (by simp [elsewhere])
  stores session uses := absurd uses (by simp [elsewhere])
  deletes token asked uses := absurd uses (by simp [elsewhere])

/-- Nor does the read of the token that is presented, at any point of the trace. -/
theorem allowed_read (named : operation.token? = some token) (history : Trace) :
    Allowed sessionTTL operation history (.redis (.get (.session token))) where
  permits := Or.inr (Or.inl ⟨token, named, Or.inl rfl⟩)
  draws uses := absurd uses (by simp [Command.use])
  stores session uses := absurd uses (by simp [Command.use])
  deletes other asked uses := absurd uses (by simp [Command.use])

/-- A validation may delete its token once it has found it expired, and the other
requests at any time. -/
theorem allowed_presents (named : operation.token? = some token) {history : Trace}
    (evidence : ∀ asked, operation = .validate asked → ∃ session, Saw history asked session ∧
      ∃ now ∈ readings history, session.expiresAt < now) (later : Trace) {command : Command}
    (presents : Presents token command) :
    Allowed sessionTTL operation (history ++ later) command where
  permits := presents.elim Or.inl (fun uses => Or.inr (Or.inl ⟨token, named, uses⟩))
  draws uses := by rcases presents with same | same | same <;> simp [same] at uses
  stores session uses := by rcases presents with same | same | same <;> simp [same] at uses
  deletes asked validates uses := by
    obtain ⟨session, saw, now, read, late⟩ := evidence asked validates
    refine ⟨session, saw.append later, now, ?_, late⟩
    rw [readings_append]
    exact List.mem_append_left _ read

/-- What a lookup adds to the history, and what it returns: it has read nothing, or a session
that has expired and is then deleted, or one that is in time. -/
inductive Looked (history : Trace) (token : String) : Trace → Except String Session → Prop where
  | absent (result : (Command.redis (.get (.session token))).Result) (error : String)
      (unread : ∀ text session, result = .ok (some text) → text.decode ≠ .ok session) :
      Looked history token (history ++ [⟨.redis (.get (.session token)), result⟩]) (.error error)
  | expired (text : Text) (session : Session) (now : Int) (later : Trace) (error : String)
      (decoded : text.decode = .ok session) (late : session.expiresAt < now)
      (presents : ∀ event ∈ later, Presents token event.command) :
      Looked history token
        (history ++ ([⟨.redis (.get (.session token)), .ok (some text)⟩, ⟨.timeNow, now⟩] ++ later))
        (.error error)
  | current (text : Text) (session : Session) (now : Int) (decoded : text.decode = .ok session)
      (inTime : now ≤ session.expiresAt) :
      Looked history token
        (history ++ [⟨.redis (.get (.session token)), .ok (some text)⟩, ⟨.timeNow, now⟩])
        (.ok session)

/-- A read returns what its result decodes to, so that it is known afterwards which session it
has seen. -/
theorem redisGet_obeys (named : operation.token? = some token) (history : Trace) :
    Obeys (Allowed sessionTTL operation)
      (fun after found => ∃ result : (Command.redis (.get (.session token))).Result,
        after = history ++ [⟨.redis (.get (.session token)), result⟩] ∧
          ∀ session, found = .ok session ↔ ∃ text, result = .ok (some text) ∧ text.decode = .ok session)
      history (redisGet (.session token)) := by
  refine ⟨allowed_read named history, ?_⟩
  intro result
  rcases result with error | _ | text
  · exact ⟨_, rfl, by simp⟩
  · exact ⟨_, rfl, by simp⟩
  · exact ⟨_, rfl, by simp⟩

/-- Every lookup of the presented token is one of these. The nested calls of an expired one
only present the token, which is all that is said of them. -/
theorem getSession_obeys (named : operation.token? = some token) (history : Trace) (stack : Nat) :
    Obeys (Allowed sessionTTL operation) (Looked history token) history (getSession stack token) := by
  cases stack with
  | zero => trivial
  | succ stack =>
    rw [getSession_succ]
    refine (redisGet_obeys named history).bind ?_
    rintro after found ⟨result, rfl, decodes⟩
    cases found with
    | error error =>
      refine .absent result _ (fun text session same decoded => ?_)
      exact absurd ((decodes session).mpr ⟨text, same, decoded⟩) (by simp)
    | ok session =>
      obtain ⟨text, rfl, decoded⟩ := (decodes session).mp rfl
      refine ⟨allowed_elsewhere _ rfl, fun now => ?_⟩
      change Obeys _ _ _ (judgeSession stack token session now)
      rw [List.append_assoc, List.singleton_append]
      unfold judgeSession
      split
      · rename_i late
        refine ((issues_sessionCalls stack token).2.obeys (fun later sound command presents => ?_)).bind
          (fun after _ reached => ?_)
        · refine allowed_presents named (fun asked validates => ?_) later presents
          obtain rfl : token = asked := by
            rw [validates] at named
            exact (Option.some.inj named).symm
          exact ⟨session, ⟨text, by simp, decoded⟩, now, by simp [readings, readBy], late⟩
        · obtain ⟨later, rfl, presents⟩ := reached
          rw [List.append_assoc]
          exact .expired text session now later _ decoded late presents
      · exact .current text session now decoded (by omega)

/-- A deletion adds commands that present the token, the deletion of its key among
them. -/
theorem deleteSession_obeys (named : operation.token? = some token)
    (checks : ∀ asked, operation ≠ .validate asked) (history : Trace) (stack : Nat) :
    Obeys (Allowed sessionTTL operation)
      (fun after _ => ∃ later, after = history ++ later ∧
        (∀ event ∈ later, Presents token event.command) ∧
        ∃ event ∈ later, event.command.use = .deletes token)
      history (deleteSession stack token) := by
  have permitted (before later : Trace) (_ : ∀ event ∈ later, Presents token event.command)
      (command : Command) (presents : Presents token command) :
      Allowed sessionTTL operation (before ++ later) command :=
    allowed_presents named (fun asked validates => absurd validates (checks asked)) later presents
  cases stack with
  | zero => trivial
  | succ stack =>
    rw [deleteSession_succ]
    refine ((issues_sessionCalls stack token).1.obeys (permitted history)).bind ?_
    rintro after found ⟨before, rfl, presented⟩
    have deletes : Presents token (.redis (.delete (.session token))) := Or.inr (Or.inr rfl)
    cases found with
    | error error =>
      refine ⟨permitted history before presented _ deletes, fun first =>
        ⟨allowed_elsewhere _ rfl, ?_⟩⟩
      intro second
      refine ⟨before ++ [⟨.redis (.delete (.session token)), first⟩,
        ⟨.postgres (.deleteSession token), second⟩], by simp, ?_, ?_⟩
      · intro event member
        cases List.mem_append.mp member with
        | inl member => exact presented event member
        | inr member =>
          simp only [List.mem_cons, List.not_mem_nil, or_false] at member
          rcases member with rfl | rfl
          · exact deletes
          · exact Or.inl rfl
      · exact ⟨⟨.redis (.delete (.session token)), first⟩, by simp, rfl⟩
    | ok session =>
      refine ⟨permitted history before presented _ deletes, fun first =>
        ⟨allowed_elsewhere _ rfl, fun second => ⟨allowed_elsewhere _ rfl, ?_⟩⟩⟩
      intro third
      refine ⟨before ++ [⟨.redis (.delete (.session token)), first⟩,
        ⟨.redis (.sRem (.userSessions session.userId) token), second⟩,
        ⟨.postgres (.deleteSession token), third⟩], by simp, ?_, ?_⟩
      · intro event member
        cases List.mem_append.mp member with
        | inl member => exact presented event member
        | inr member =>
          simp only [List.mem_cons, List.not_mem_nil, or_false] at member
          rcases member with rfl | rfl | rfl
          · exact deletes
          · exact Or.inl rfl
          · exact Or.inl rfl
      · exact ⟨⟨.redis (.delete (.session token)), first⟩, by simp, rfl⟩

/-- The lookup of a user adds one statement, and returns what it has found. -/
theorem getUserById_obeys (userId : String) (history : Trace) :
    Obeys (Allowed sessionTTL operation)
      (fun after found => ∃ result : (Command.postgres (.selectUserById userId)).Result,
        after = history ++ [⟨.postgres (.selectUserById userId), result⟩] ∧
          ∀ user, found = .ok user ↔ result = .ok (some user))
      history (getUserById userId) := by
  refine ⟨allowed_elsewhere history rfl, ?_⟩
  intro result
  rcases result with error | _ | user
  · exact ⟨_, rfl, by simp⟩
  · exact ⟨_, rfl, by simp⟩
  · exact ⟨_, rfl, by simp⟩

/-- So does the lookup by name, whose result tells whether the user was found. -/
theorem getUserByUsername_obeys (username : String) (history : Trace) :
    Obeys (Allowed sessionTTL operation)
      (fun after found => ∃ result : (Command.postgres (.selectUserByUsername username)).Result,
        after = history ++ [⟨.postgres (.selectUserByUsername username), result⟩] ∧
          ∀ user, found = .ok user ↔ result = .ok (some user))
      history (getUserByUsername username) := by
  refine ⟨allowed_elsewhere history rfl, ?_⟩
  intro result
  rcases result with error | _ | user
  · exact ⟨_, rfl, by simp⟩
  · exact ⟨_, rfl, by simp⟩
  · exact ⟨_, rfl, by simp⟩

/-- A creation draws its token first and stores one session of its user, and
returns that session. -/
theorem createSession_obeys (user : User) (history : Trace) (opens : operation.opens = true)
    (undrawn : drawn history = []) (unstored : stored history = [])
    (owner : ∀ session : Session, session.For user → Owner operation history session) :
    Obeys (Allowed sessionTTL operation)
      (fun after result => ∀ session, result = .ok session → stored after = [session])
      history (createSession sessionTTL user) := by
  have draws : Allowed sessionTTL operation history .generateToken :=
    { permits := Or.inr (Or.inr ⟨opens, Or.inl rfl⟩)
      draws := fun _ => undrawn
      stores := fun session uses => absurd uses (by simp [Command.use])
      deletes := fun token asked uses => absurd uses (by simp [Command.use]) }
  refine Obeys.through (fun after result => ∀ token, result = .ok token →
    drawn after = [token] ∧ stored after = [] ∧
      ∀ session : Session, session.For user → Owner operation after session) ?_ ?_
  · refine ⟨draws, ?_⟩
    intro result
    cases result with
    | error error => exact fun token same => absurd same (by simp)
    | ok token =>
      intro other same
      obtain rfl : token.val = other := by simpa using same
      refine ⟨?_, ?_, fun session owns => (owner session owns).append _⟩
      · rw [drawn_append, undrawn]
        rfl
      · rw [stored_append, unstored]
        rfl
  · intro after result minted
    cases result with
    | error error => exact fun session same => absurd same (by simp)
    | ok token =>
      obtain ⟨draw, empty, owned⟩ := minted token rfl
      refine ⟨allowed_elsewhere _ rfl, fun started => ⟨allowed_elsewhere _ rfl, ?_⟩⟩
      intro createdAt
      rw [List.append_assoc, List.singleton_append]
      constructor
      · refine ⟨Or.inr (Or.inr ⟨opens, Or.inr ⟨_, if_pos rfl⟩⟩), ?_, ?_, ?_⟩
        · intro uses
          simp [Command.use] at uses
        · intro session uses
          simp only [Command.use, if_true, SessionUse.stores.injEq] at uses
          subst uses
          refine ⟨rfl, ?_, ?_, (owned _ ⟨rfl, rfl, rfl⟩).append _, started, ?_, rfl⟩
          · rw [drawn_append, draw]
            rfl
          · rw [stored_append, empty]
            rfl
          · rw [readings_append]
            exact List.mem_append_right _ (.head _)
        · intro other asked uses
          simp [Command.use] at uses
      · intro result
        rcases result with error | _
        · exact fun session same => absurd same (by simp)
        · refine ⟨allowed_elsewhere _ rfl, ?_⟩
          intro result
          rcases result with error | _
          · exact fun session same => absurd same (by simp)
          · refine ⟨allowed_elsewhere _ rfl, fun expired => ⟨allowed_elsewhere _ rfl, ?_⟩⟩
            intro backed session same
            obtain rfl := Except.ok.inj same
            simp only [stored_append, empty]
            rfl

/-- What the check of a token adds to the history, and what it returns. -/
inductive Checked (history : Trace) (token : String) : Trace → Except String User → Prop where
  | unnamed (error : String) (empty : token = "") : Checked history token history (.error error)
  | refused (after : Trace) (reason error : String)
      (looked : Looked history token after (.error reason)) :
      Checked history token after (.error error)
  | unknown (text : Text) (session : Session) (now : Int)
      (result : (Command.postgres (.selectUserById session.userId)).Result) (error : String)
      (decoded : text.decode = .ok session) (inTime : now ≤ session.expiresAt)
      (nobody : ∀ user, result ≠ .ok (some user)) :
      Checked history token
        (history ++ [⟨.redis (.get (.session token)), .ok (some text)⟩, ⟨.timeNow, now⟩,
          ⟨.postgres (.selectUserById session.userId), result⟩]) (.error error)
  | valid (text : Text) (session : Session) (now : Int) (user : User)
      (decoded : text.decode = .ok session) (inTime : now ≤ session.expiresAt) :
      Checked history token
        (history ++ [⟨.redis (.get (.session token)), .ok (some text)⟩, ⟨.timeNow, now⟩,
          ⟨.postgres (.selectUserById session.userId), .ok (some user)⟩]) (.ok user)

/-- Every check of the presented token is one of these. The lookup of the session comes first,
and only a session in time leads to the lookup of its user. -/
theorem validateToken_obeys (named : operation.token? = some token) (history : Trace)
    (stack : Nat) :
    Obeys (Allowed sessionTTL operation) (Checked history token) history
      (validateToken stack token) := by
  unfold validateToken
  split
  · rename_i empty
    exact .unnamed _ empty
  · refine (getSession_obeys named history stack).bind (fun after found looked => ?_)
    cases looked with
    | absent result error unread => exact .refused _ _ _ (.absent result error unread)
    | expired text session now later error decoded late presents =>
      exact .refused _ _ _ (.expired text session now later error decoded late presents)
    | current text session now decoded inTime =>
      refine (getUserById_obeys session.userId _).bind ?_
      rintro after found ⟨result, rfl, finds⟩
      rw [List.append_assoc]
      cases found with
      | error error =>
        refine .unknown text session now result _ decoded inTime (fun user same => ?_)
        exact absurd ((finds user).mpr same) (by simp)
      | ok user =>
        obtain rfl := (finds user).mp rfl
        exact .valid text session now user decoded inTime

/-- A check neither draws a token nor stores a session. Each of its events presents the token
or is elsewhere, by cases on how the check has come out. -/
theorem Checked.presents {history after : Trace} {found : Except String User}
    (checked : Checked history token after found) :
    ∃ later, after = history ++ later ∧ ∀ event ∈ later, Presents token event.command := by
  have read (result : (Command.redis (.get (.session token))).Result) :
      Presents token (⟨.redis (.get (.session token)), result⟩ :
        Event Command Command.Result).command := Or.inr (Or.inl rfl)
  cases checked with
  | unnamed error empty => exact ⟨[], by simp, by simp⟩
  | refused after reason error looked =>
    cases looked with
    | absent result error unread =>
      refine ⟨_, rfl, ?_⟩
      intro event member
      obtain rfl := List.mem_singleton.mp member
      exact read result
    | expired text session now later error decoded late presents =>
      refine ⟨_, rfl, ?_⟩
      intro event member
      cases List.mem_append.mp member with
      | inl member =>
        simp only [List.mem_cons, List.not_mem_nil, or_false] at member
        rcases member with rfl | rfl
        · exact read _
        · exact Or.inl rfl
      | inr member => exact presents event member
  | unknown text session now result error decoded inTime nobody =>
    refine ⟨_, rfl, ?_⟩
    intro event member
    simp only [List.mem_cons, List.not_mem_nil, or_false] at member
    rcases member with rfl | rfl | rfl
    · exact read _
    · exact Or.inl rfl
    · exact Or.inl rfl
  | valid text session now user decoded inTime =>
    refine ⟨_, rfl, ?_⟩
    intro event member
    simp only [List.mem_cons, List.not_mem_nil, or_false] at member
    rcases member with rfl | rfl | rfl
    · exact read _
    · exact Or.inl rfl
    · exact Or.inl rfl

end Conditions

/-- How a validation answers, given what it has seen: with an error for no token, and
otherwise with the user or with `invalid`. -/
inductive Judged (token : String) (trace : Trace) : Response → Prop where
  | unnamed (empty : token = "") : Judged token trace (.error "token is required")
  | refused (error : String) (checked : Checked [] token trace (.error error)) :
      Judged token trace (.success (.validate invalid))
  | accepted (user : User) (checked : Checked [] token trace (.ok user)) :
      Judged token trace (.success (.validate user.validated))

/-- What the answer of a request says about its trace: login data come from the one session it
has stored, a success of a logout or refresh from a deletion, and the answer of a validation
from a check. -/
structure Admits (operation : Operation) (trace : Trace) (response : Response) : Prop where
  opens : ∀ data, response = .success (.login data) →
    operation.opens = true ∧ ∃ session, stored trace = [session] ∧ data = session.response
  deletes : ∀ token data, operation = .logout token ∨ operation = .refresh token →
    response = .success data → ∃ event ∈ trace, event.command.use = .deletes token
  validates : ∀ token, operation = .validate token → Judged token trace response

/-- An error of a request that is no validation says nothing; validations report errors as
answers of their own. -/
theorem admits_error (operation : Operation) (trace : Trace) (message : String)
    (checks : ∀ token, operation ≠ .validate token) :
    Admits operation trace (.error message) where
  opens data same := by simp at same
  deletes token data asked same := by simp at same
  validates token asked := absurd asked (checks token)

section Handlers

variable (bcrypt : Bcrypt) (sessionTTL : SessionTTL) (stack : Nat)

/-- A login finds its user by name and stores a session for that user. -/
theorem login_obeys (username password : String) :
    Obeys (Allowed sessionTTL (.login username password))
      (fun after result => ∀ session, result = .ok session → stored after = [session]) []
      (login bcrypt sessionTTL username password) := by
  unfold login
  split_ifs
  · exact fun session same => absurd same (by simp)
  · exact fun session same => absurd same (by simp)
  · refine (getUserByUsername_obeys username []).bind ?_
    rintro after found ⟨result, rfl, finds⟩
    cases found with
    | error error => exact fun session same => absurd same (by simp)
    | ok user =>
      obtain rfl := (finds user).mp rfl
      dsimp only
      split
      · exact fun session same => absurd same (by simp)
      · refine (createSession_obeys user _ rfl rfl rfl ?_).bind ?_
        · intro session owns
          exact Or.inl ⟨username, password, user, rfl, by simp, owns⟩
        · intro after result created
          cases result with
          | error error => exact fun session same => absurd same (by simp)
          | ok session => exact created

/-- A rotation finds its user by the old session, deletes that session, and stores a
session for the user. -/
theorem refreshSession_obeys (token : String) (history : Trace) (undrawn : drawn history = [])
    (unstored : stored history = []) :
    Obeys (Allowed sessionTTL (.refresh token))
      (fun after result => ∀ session, result = .ok session → stored after = [session] ∧
        ∃ event ∈ after, event.command.use = .deletes token) history
      (refreshSession sessionTTL stack token) := by
  refine (getSession_obeys rfl history stack).bind ?_
  intro after found looked
  cases looked with
  | absent result error unread => exact fun session same => absurd same (by simp)
  | expired text session now later error decoded late presents =>
    exact fun session same => absurd same (by simp)
  | current text old now decoded inTime =>
    refine (getUserById_obeys old.userId _).bind ?_
    rintro after found ⟨result, rfl, finds⟩
    cases found with
    | error error => exact fun session same => absurd same (by simp)
    | ok user =>
      obtain rfl := (finds user).mp rfl
      refine (deleteSession_obeys rfl (by simp) _ stack).bind ?_
      rintro after - ⟨later, rfl, presents, event, deleted, deletes⟩
      obtain ⟨silent, bare⟩ := presents_idle presents
      refine (createSession_obeys user _ rfl ?_ ?_ ?_).extends.mono
        (fun _ _ permitted => permitted) ?_
      · simp only [drawn_append, undrawn, silent]
        rfl
      · simp only [stored_append, unstored, bare]
        rfl
      · intro session owns
        exact Or.inr ⟨token, old, user, rfl, ⟨text, by simp, decoded⟩, by simp, owns⟩
      · rintro after result ⟨created, rest, rfl⟩ session same
        exact ⟨created session same, event, by simp [deleted], deletes⟩

/-- A registration leaves the sessions alone, and its answer is no login data. -/
theorem handleRegister_obeys (username email password : String) :
    Obeys (Allowed sessionTTL (.register username email password))
      (Admits (.register username email password)) [] (handleRegister username email password) := by
  unfold handleRegister
  split_ifs
  · exact admits_error _ _ _ (by simp)
  · apply ((issues_register username email password).obeys
      (fun later sound command elsewhere => allowed_elsewhere _ elsewhere)).bind
    intro after found _
    cases found with
    | error error => exact admits_error _ _ _ (by simp)
    | ok user =>
      exact ⟨fun data same => by simp at same, fun token data asked => by simp at asked,
        fun token asked => by simp at asked⟩

/-- A login that succeeds answers with the data of the one session that it has stored. -/
theorem handleLogin_obeys (username password : String) :
    Obeys (Allowed sessionTTL (.login username password))
      (fun after response => ∀ data, response = .success data →
        ∃ session : Session, data = .login session.response ∧ stored after = [session]) []
      (handleLogin bcrypt sessionTTL username password) := by
  unfold handleLogin
  split_ifs
  · exact fun data same => absurd same (by simp)
  · apply (login_obeys bcrypt sessionTTL username password).bind
    intro after result logged
    cases result with
    | error error => exact fun data same => absurd same (by simp)
    | ok session =>
      intro data same
      obtain rfl := Response.success.inj same
      exact ⟨session, rfl, logged session rfl⟩

/-- What is noted under the connection of a login leaves its session the only one. -/
theorem rememberLogin_obeys (connId username password : String) {after : Trace}
    {response : Response} (logged : ∀ data, response = .success data →
      ∃ session : Session, data = .login session.response ∧ stored after = [session]) :
    Obeys (Allowed sessionTTL (.login username password)) (Admits (.login username password)) after
      (rememberLogin connId response) := by
  cases response with
  | error message => exact admits_error _ _ _ (by simp)
  | success data =>
    obtain ⟨session, rfl, kept⟩ := logged data rfl
    refine ⟨allowed_elsewhere _ rfl, fun result => ⟨fun data same => ?_,
      fun token data asked => by simp at asked, fun token asked => by simp at asked⟩⟩
    obtain rfl := Data.login.inj (Response.success.inj same)
    refine ⟨rfl, session, ?_, rfl⟩
    rw [stored_append, kept]
    rfl

/-- A logout that succeeds has deleted the key of its token. The `DEL` may have failed, since
the source drops its error; what is known is that it was executed. -/
theorem handleLogout_obeys (token : String) :
    Obeys (Allowed sessionTTL (.logout token)) (Admits (.logout token)) []
      (handleLogout stack token) := by
  unfold handleLogout logout
  split_ifs
  · exact admits_error _ _ _ (by simp)
  · apply Obeys.through (fun after _ => ∃ event ∈ after, event.command.use = .deletes token)
    · apply (deleteSession_obeys rfl (by simp) [] stack).bind
      intro after result deletion
      obtain ⟨later, rfl, presents, event, deleted, deletes⟩ := deletion
      exact ⟨event, deleted, deletes⟩
    · intro after result deleted
      cases result with
      | error error => exact admits_error _ _ _ (by simp)
      | ok done =>
        refine ⟨fun data same => by simp at same, fun other data asked same => ?_,
          fun other asked => by simp at asked⟩
        obtain rfl : token = other := by simpa using asked
        exact deleted

/-- A validation answers as the check of its token has come out, which is the only thing it
does. -/
theorem handleValidate_obeys (token : String) :
    Obeys (Allowed sessionTTL (.validate token)) (Admits (.validate token)) []
      (handleValidate stack token) := by
  have judged {after : Trace} {response : Response} (judged : Judged token after response) :
      Admits (.validate token) after response := by
    refine ⟨fun data same => ?_, fun other data asked => by simp at asked, fun other asked => ?_⟩
    · subst same
      cases judged
    · obtain rfl := Operation.validate.inj asked
      exact judged
  unfold handleValidate
  split_ifs with empty
  · exact judged (.unnamed empty)
  · apply (validateToken_obeys rfl [] stack).bind
    intro after found checked
    cases found with
    | error error => exact judged (.refused error checked)
    | ok user => exact judged (.accepted user checked)

/-- A refresh that succeeds has deleted the key of its token, and answers with the data of the
one session that it has stored. The check before neither draws a token nor stores a
session, so the session of the rotation is the only one. -/
theorem handleRefresh_obeys (token : String) :
    Obeys (Allowed sessionTTL (.refresh token)) (Admits (.refresh token)) []
      (handleRefresh sessionTTL stack token) := by
  unfold handleRefresh
  split_ifs
  · exact admits_error _ _ _ (by simp)
  · apply (validateToken_obeys rfl [] stack).bind
    intro after found checked
    cases found with
    | error error => exact admits_error _ _ _ (by simp)
    | ok user =>
      obtain ⟨later, rfl, presents⟩ := checked.presents
      obtain ⟨silent, bare⟩ := presents_idle presents
      apply (refreshSession_obeys sessionTTL stack token _ silent bare).bind
      intro after result rotated
      cases result with
      | error error => exact admits_error _ _ _ (by simp)
      | ok session =>
        obtain ⟨kept, deleted⟩ := rotated session rfl
        refine ⟨fun data same => ?_, fun other data asked same => ?_,
          fun other asked => by simp at asked⟩
        · obtain rfl := Data.login.inj (Response.success.inj same)
          exact ⟨rfl, session, kept, rfl⟩
        · obtain rfl : token = other := by simpa using asked
          exact deleted

/-- Every request acts on what it has seen, and answers accordingly. The cases are those of
the handlers, one lemma for each of them. -/
theorem handleConnection_obeys (request : Request) :
    Obeys (Allowed sessionTTL request.operation) (Admits request.operation) []
      (handleConnection bcrypt sessionTTL stack request) := by
  obtain ⟨connId, operation⟩ := request
  cases operation with
  | register username email password => exact handleRegister_obeys sessionTTL username email password
  | login username password =>
    apply Obeys.through _ (handleLogin_obeys bcrypt sessionTTL username password)
    intro after response logged
    exact rememberLogin_obeys sessionTTL connId username password logged
  | logout token => exact handleLogout_obeys sessionTTL stack token
  | validate token => exact handleValidate_obeys sessionTTL stack token
  | refresh token => exact handleRefresh_obeys sessionTTL stack token
  | unknown type => exact admits_error _ _ _ (by simp)

end Handlers

/-- Only a draw has drawn a token, and the token is the one it has returned. -/
theorem drawnBy_some {event : Event Command Command.Result} {token : String}
    (draws : drawnBy event = some token) :
    ∃ drawn : GeneratedToken, event = ⟨.generateToken, .ok drawn⟩ ∧ drawn.val = token := by
  unfold drawnBy at draws
  split at draws
  · exact ⟨_, rfl, Option.some.inj draws⟩
  · simp at draws

/-- Only a command that stores a session has stored it. A `SET` of a session under another
token would be foreign, which is excluded here. -/
theorem storedBy_some {event : Event Command Command.Result} {session : Session}
    (stores : storedBy event = some session) (disciplined : event.command.use ≠ .foreign) :
    event.command.use = .stores session := by
  unfold storedBy at stores
  split at stores
  · rename_i token kept expiration result
    obtain rfl := Option.some.inj stores
    by_cases own : kept.token = token
    · exact if_pos own
    · exact absurd (if_neg own) disciplined
  · simp at stores

/-- A trace that has drawn at most one token, and has stored at most one session,
made for that token by its owner. -/
structure Minted (sessionTTL : SessionTTL) (operation : Operation) (trace : Trace) : Prop where
  once : drawn trace = [] ∨ ∃ token, drawn trace = [token]
  sessions : ∀ session ∈ stored trace, drawn trace = [session.token] ∧ stored trace = [session] ∧
    Owner operation trace session ∧
    ∃ started ∈ readings trace, session.expiresAt = started + sessionTTL.val * 1000000000

/-- Without a drawn token there is no session, since each stored session carries the token
that was drawn for it. -/
theorem Minted.bare {sessionTTL : SessionTTL} {operation : Operation} {trace : Trace}
    (minted : Minted sessionTTL operation trace) (undrawn : drawn trace = []) :
    stored trace = [] := by
  apply List.eq_nil_iff_forall_not_mem.mpr
  intro session member
  obtain ⟨draw, -⟩ := minted.sessions session member
  simp [undrawn] at draw

/-- Every allowed command keeps the trace minted. A draw or a storing command adds to it what
its condition provides for, and the others add nothing. -/
theorem Minted.extend {sessionTTL : SessionTTL} {operation : Operation} {trace : Trace}
    (minted : Minted sessionTTL operation trace) {command : Command} (result : command.Result)
    (allowed : Allowed sessionTTL operation trace command) :
    Minted sessionTTL operation (trace ++ [⟨command, result⟩]) := by
  have draws : drawn (trace ++ [⟨command, result⟩]) =
      drawn trace ++ (drawnBy ⟨command, result⟩).toList := by
    rw [drawn_append]
    cases event : drawnBy ⟨command, result⟩ <;> simp [drawn, event]
  have stores : stored (trace ++ [⟨command, result⟩]) =
      stored trace ++ (storedBy ⟨command, result⟩).toList := by
    rw [stored_append]
    cases event : storedBy ⟨command, result⟩ <;> simp [stored, event]
  cases event : drawnBy ⟨command, result⟩ with
  | some token =>
    obtain ⟨token', same, -⟩ := drawnBy_some event
    obtain ⟨rfl, sameResult⟩ := Event.mk.inj same
    have undrawn := allowed.draws rfl
    have bare := minted.bare undrawn
    have silent : storedBy ⟨.generateToken, result⟩ = none := rfl
    refine ⟨Or.inr ⟨token, by simp [draws, undrawn, event]⟩, fun session member => ?_⟩
    simp [stores, bare, silent] at member
  | none =>
    rw [event, Option.toList_none, List.append_nil] at draws
    cases kept : storedBy ⟨command, result⟩ with
    | none =>
      rw [kept, Option.toList_none, List.append_nil] at stores
      refine ⟨by rw [draws]; exact minted.once, fun session member => ?_⟩
      obtain ⟨draw, single, owner, started, read, expires⟩ :=
        minted.sessions session (stores ▸ member)
      refine ⟨by rw [draws, draw], by rw [stores, single], owner.append _, started, ?_, expires⟩
      rw [readings_append]
      exact List.mem_append_left _ read
    | some session =>
      have uses := storedBy_some kept allowed.permits.disciplined
      obtain ⟨-, draw, empty, owner, started, read, expires⟩ := allowed.stores session uses
      rw [kept, empty] at stores
      refine ⟨Or.inr ⟨session.token, by rw [draws, draw]⟩, fun other member => ?_⟩
      obtain rfl : other = session := by simpa [stores] using member
      refine ⟨by rw [draws, draw], by rw [stores]; rfl, owner.append _, started, ?_, expires⟩
      rw [readings_append]
      exact List.mem_append_left _ read

/-- The traces of all requests are minted. The handlers obey their conditions, and each
allowed command keeps it, so it holds by induction along the trace. -/
theorem traced_minted (bcrypt : Bcrypt) (sessionTTL : SessionTTL) (stack : Nat) {state : AuthState}
    (traced : (authServer bcrypt sessionTTL stack).Traced state) {task : AuthTask}
    (member : task ∈ state.tasks) : Minted sessionTTL task.request.operation task.trace := by
  have obeys := handleConnection_obeys bcrypt sessionTTL stack task.request
  have kept := obeys.keeps (traced task member) (Minted sessionTTL task.request.operation)
    (fun _ _ result minted allowed => minted.extend result allowed)
    ⟨Or.inl rfl, fun session member => absurd member (by simp)⟩
  simpa using kept

end ShoppingCS.Auth
