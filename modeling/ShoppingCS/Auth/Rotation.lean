import ShoppingCS.Auth.Moves

/-!
# Refreshing exchanges one token for one

A refresh checks its token twice, looking up the user each time, then deletes the
old session and creates a new one. The deletion does not say whether there was
anything to delete, so two refreshes that have both passed their checks both go
on. This module counts what follows from that: for each token and user, what Redis
holds and what has been exchanged together never exceed what has been stored, in
every run in which a token that is about to be exchanged has not been exchanged yet.

That this is so is not assumed of the runs in the end. The next module derives it
from the times at which the refreshes of a token make their second checks.
-/

namespace ShoppingCS.Auth

open Interleaving Program Storage

/-- The id under which an event has found a user. A lookup that fails or finds nobody has
found none. -/
def lookedUp : Event Command Command.Result → Option String
  | ⟨.postgres (.selectUserById id), .ok (some _)⟩ => some id
  | _ => none

/-- The ids under which a trace has found users, which for a refresh tells how many of its
checks have passed. -/
def owners (trace : Trace) : List String := trace.filterMap lookedUp

@[simp] theorem owners_nil : owners [] = [] := rfl

@[simp] theorem owners_append (first second : Trace) :
    owners (first ++ second) = owners first ++ owners second := List.filterMap_append

/-- Lookups and deletions of sessions find no users, since none of their statements selects
one. -/
theorem owners_calls {token : String} {trace : Trace}
    (calls : ∀ event ∈ trace, CallsSession token event.command) : owners trace = [] := by
  apply List.filterMap_eq_nil_iff.mpr
  intro event member
  obtain ⟨command, result⟩ := event
  have call := calls _ member
  cases call <;> rfl

/-- The trace of a refresh that has passed both its checks, the second one for a
user, and has executed a deletion of its token. -/
def Rotated (token user : String) (trace : Trace) : Prop :=
  (owners trace).length = 2 ∧ (owners trace)[1]? = some user ∧
    ∃ event ∈ trace, event.command.use = .deletes token

instance (token user : String) (trace : Trace) : Decidable (Rotated token user trace) :=
  inferInstanceAs (Decidable (_ ∧ _ ∧ _))

/-- What must have happened before a command of a refresh: users are looked up by the
session that was read, twice at most and before anything is deleted, and a session
is stored for the second user after the deletion. -/
structure RotationAllowed (token : String) (trace : Trace) (command : Command) : Prop where
  looks : ∀ id, command = .postgres (.selectUserById id) →
    (∃ session, Saw trace token session ∧ session.userId = id) ∧ (owners trace).length < 2 ∧
      ∀ event ∈ trace, ∀ other, event.command.use ≠ .deletes other
  stores : ∀ session, command.use = .stores session → ∃ id user, Rotated token id trace ∧
    ⟨.postgres (.selectUserById id), .ok (some user)⟩ ∈ trace ∧ session.userId = user.id

/-- Lookups and deletions of sessions are allowed at any time of a refresh; the conditions are
about its other commands. -/
theorem CallsSession.rotationAllowed {token other : String} {command : Command}
    (calls : CallsSession other command) (trace : Trace) : RotationAllowed token trace command := by
  cases calls <;> exact ⟨by simp, by simp [Command.use, RedisCommand.key]⟩

/-- So is whatever neither looks up a user nor stores a session, such as the draw of the new
token. -/
theorem rotationAllowed_free {token : String} (trace : Trace) {command : Command}
    (looks : ∀ id, command ≠ .postgres (.selectUserById id))
    (stores : ∀ session, command.use ≠ .stores session) : RotationAllowed token trace command :=
  ⟨fun id same => absurd same (looks id), fun session uses => absurd uses (stores session)⟩

/-- Nothing has been deleted yet, which is how the first check leaves the trace when it
passes. -/
def Undeleted (trace : Trace) : Prop := ∀ event ∈ trace, ∀ token, event.command.use ≠ .deletes token

/-- Adding events that delete nothing leaves nothing deleted. -/
theorem Undeleted.append {trace later : Trace} (undeleted : Undeleted trace)
    (more : Undeleted later) : Undeleted (trace ++ later) := by
  intro event member token
  cases List.mem_append.mp member with
  | inl member => exact undeleted event member token
  | inr member => exact more event member token

/-- A rotation stays one, whatever follows without finding users. The creation that comes
after the deletion is of this kind. -/
theorem Rotated.append {token user : String} {trace : Trace} (rotated : Rotated token user trace)
    {later : Trace} (nobody : owners later = []) : Rotated token user (trace ++ later) := by
  obtain ⟨twice, second, event, member, deletes⟩ := rotated
  refine ⟨?_, ?_, event, List.mem_append_left _ member, deletes⟩
  · rw [owners_append, nobody, List.append_nil, twice]
  · rw [owners_append, nobody, List.append_nil, second]

section Refresh

variable {token : String} {history : Trace}

/-- A lookup that returns a session has seen it, and has neither found a user nor
deleted anything. -/
theorem getSession_rotates (undeleted : Undeleted history) (stack : Nat) :
    Obeys (RotationAllowed token)
      (fun after found => ∀ session, found = .ok session →
        Saw after token session ∧ owners after = owners history ∧ Undeleted after)
      history (getSession stack token) := by
  have looked : Obeys (Allowed defaultTTL (.refresh token)) (Looked history token) history
      (getSession stack token) := getSession_obeys rfl history stack
  have calls : Obeys (RotationAllowed token) _ history (getSession stack token) :=
    (callsSession_issues stack token).1.obeys (fun _ _ _ calls => calls.rotationAllowed _)
  refine (looked.and calls).mono (fun _ _ both => both.2) ?_
  rintro after found ⟨looked, -⟩ session rfl
  cases looked with
  | current text session now decoded inTime =>
    refine ⟨⟨text, by simp, decoded⟩, ?_, undeleted.append ?_⟩
    · rw [owners_append]
      exact List.append_nil _
    · simp [Undeleted, Command.use]

/-- The lookup of the user of a session that was read. If it finds the user, there is one more
id in the trace, and still nothing is deleted. -/
theorem getUserById_rotates {id : String}
    (saw : ∃ session, Saw history token session ∧ session.userId = id)
    (few : (owners history).length < 2) (undeleted : Undeleted history) :
    Obeys (RotationAllowed token)
      (fun after found => ∀ user, found = .ok user → owners after = owners history ++ [id] ∧
        ⟨.postgres (.selectUserById id), .ok (some user)⟩ ∈ after ∧ Undeleted after)
      history (getUserById id) := by
  refine ⟨⟨fun other same => ?_, by simp [Command.use]⟩, fun result => ?_⟩
  · obtain rfl : id = other := by simpa using same
    exact ⟨saw, few, undeleted⟩
  · rcases result with error | _ | user
    · exact fun user same => absurd same (by simp)
    · exact fun user same => absurd same (by simp)
    · intro other same
      obtain rfl := Except.ok.inj same
      refine ⟨?_, by simp, undeleted.append (by simp [Undeleted, Command.use])⟩
      rw [owners_append]
      rfl

/-- A check that passes has found one user, and has deleted nothing, because it deletes only a
session that has expired and then it does not pass. -/
theorem validateToken_rotates (few : (owners history).length < 2) (undeleted : Undeleted history)
    (stack : Nat) :
    Obeys (RotationAllowed token)
      (fun after found => ∀ user, found = .ok user →
        (∃ id, owners after = owners history ++ [id]) ∧ Undeleted after)
      history (validateToken stack token) := by
  unfold validateToken
  split
  · exact fun user same => absurd same (by simp)
  · refine (getSession_rotates undeleted stack).bind ?_
    intro after found seen
    cases found with
    | error error => exact fun user same => absurd same (by simp)
    | ok session =>
      obtain ⟨saw, same, kept⟩ := seen session rfl
      refine (getUserById_rotates ⟨session, saw, rfl⟩ (by rwa [same]) kept).bind
        (fun after found known => ?_)
      cases found with
      | error error => exact fun user same => absurd same (by simp)
      | ok user =>
        obtain ⟨owned, -, kept⟩ := known user rfl
        exact fun _ _ => ⟨⟨_, by rw [owned, same]⟩, kept⟩

/-- A deletion deletes, and finds no user. Both are read off the commands that a deletion
issues. -/
theorem deleteSession_rotates (stack : Nat) :
    Obeys (RotationAllowed token)
      (fun after _ => ∃ later, after = history ++ later ∧ owners later = [] ∧
        ∃ event ∈ later, event.command.use = .deletes token)
      history (deleteSession stack token) := by
  have deletes : Obeys (Allowed defaultTTL (.refresh token)) _ history
      (deleteSession stack token) := deleteSession_obeys rfl (by simp) history stack
  have calls : Obeys (RotationAllowed token) _ history (deleteSession stack token) :=
    (callsSession_issues stack token).2.obeys (fun _ _ _ calls => calls.rotationAllowed _)
  refine (deletes.and calls).mono (fun _ _ both => both.2) ?_
  rintro after - ⟨⟨later, rfl, -, event, member, deleted⟩, other, same, calls⟩
  obtain rfl := List.append_cancel_left same
  exact ⟨later, rfl, owners_calls calls, event, member, deleted⟩

/-- A creation stores a session for the user of the rotation, whom the second check has found,
and looks nobody up itself. -/
theorem createSession_rotates (sessionTTL : SessionTTL) (id : String) {user : User}
    (rotated : Rotated token id history)
    (found : ⟨.postgres (.selectUserById id), .ok (some user)⟩ ∈ history) :
    Obeys (RotationAllowed token) (fun _ _ => True) history (createSession sessionTTL user) := by
  refine Obeys.through (fun after _ => Rotated token id after ∧
    ⟨.postgres (.selectUserById id), .ok (some user)⟩ ∈ after) ?_ ?_
  · refine ⟨rotationAllowed_free _ (by simp) (by simp [Command.use]), fun result => ?_⟩
    have later : Rotated token id (history ++ [⟨.generateToken, result⟩]) := rotated.append rfl
    cases result <;> exact ⟨later, by simp [found]⟩
  · rintro after drawn ⟨rotated, found⟩
    cases drawn with
    | error error => trivial
    | ok token' =>
      refine ⟨rotationAllowed_free _ (by simp) (by simp [Command.use]), fun started =>
        ⟨rotationAllowed_free _ (by simp) (by simp [Command.use]), fun createdAt => ?_⟩⟩
      rw [List.append_assoc]
      refine ⟨⟨by simp, fun session uses => ?_⟩, fun stored => ?_⟩
      · simp only [Command.use, if_true, SessionUse.stores.injEq] at uses
        subst uses
        exact ⟨id, user, rotated.append rfl, by simp [found], rfl⟩
      · cases stored with
        | error error => trivial
        | ok _ =>
          refine ⟨rotationAllowed_free _ (by simp) (by simp [Command.use, RedisCommand.key]),
            fun added => ?_⟩
          cases added with
          | error error => trivial
          | ok _ =>
            exact ⟨rotationAllowed_free _ (by simp) (by simp [Command.use, RedisCommand.key]), fun _ =>
              ⟨rotationAllowed_free _ (by simp) (by simp [Command.use]), fun _ => trivial⟩⟩

/-- A refresh looks up, deletes and stores in this order, and answers with a new
token when it succeeds. -/
theorem handleRefresh_rotates (sessionTTL : SessionTTL) (stack : Nat) (token : String) :
    Obeys (RotationAllowed token) (fun _ response => ∀ data, response = .success data →
      ∃ said, data = .login said) [] (handleRefresh sessionTTL stack token) := by
  unfold handleRefresh
  split
  · simp
  · refine (validateToken_rotates (by simp) (by simp [Undeleted]) stack).bind
      (fun after found checked => ?_)
    cases found with
    | error error => simp
    | ok user =>
      obtain ⟨⟨first, one⟩, undeleted⟩ := checked user rfl
      refine Obeys.through (fun _ _ => True) ?_ (fun after result _ => by cases result <;> simp)
      refine (getSession_rotates undeleted stack).bind ?_
      intro after found seen
      cases found with
      | error error => trivial
      | ok session =>
        obtain ⟨saw, same, undeleted⟩ := seen session rfl
        refine (getUserById_rotates ⟨session, saw, rfl⟩ (by simp [same, one]) undeleted).bind
          (fun after found known => ?_)
        cases found with
        | error error => trivial
        | ok user =>
          obtain ⟨two, found, -⟩ := known user rfl
          refine (deleteSession_rotates stack).bind ?_
          rintro after - ⟨later, rfl, nobody, event, member, deletes⟩
          refine createSession_rotates sessionTTL session.userId
            ⟨?_, ?_, event, List.mem_append_right _ member, deletes⟩ (List.mem_append_left _ found)
          · rw [owners_append, nobody, two, same, one]
            rfl
          · rw [owners_append, nobody, two, same, one]
            rfl

end Refresh

/-- What the trace of a refresh keeps: it finds at most two users, each by a session that it
has read, and stores a session only for the second one and after the deletion. -/
structure Refreshing (token : String) (trace : Trace) : Prop where
  few : (owners trace).length ≤ 2
  saw : ∀ id ∈ owners trace, ∃ session, Saw trace token session ∧ session.userId = id
  stores : ∀ session ∈ stored trace, ∃ id user, Rotated token id trace ∧
    ⟨.postgres (.selectUserById id), .ok (some user)⟩ ∈ trace ∧ session.userId = user.id

/-- Only a lookup that finds a user has found one, and it was asked for the id that is noted.
-/
theorem lookedUp_some {event : Event Command Command.Result} {id : String}
    (finds : lookedUp event = some id) :
    ∃ user, event = ⟨.postgres (.selectUserById id), .ok (some user)⟩ := by
  unfold lookedUp at finds
  split at finds
  · obtain rfl := Option.some.inj finds
    exact ⟨_, rfl⟩
  · simp at finds

/-- A command that may not look up users finds none, whatever it returns. -/
theorem lookedUp_free {event : Event Command Command.Result}
    (free : ∀ id, event.command ≠ .postgres (.selectUserById id)) : lookedUp event = none := by
  cases finds : lookedUp event with
  | none => rfl
  | some id =>
    obtain ⟨user, rfl⟩ := lookedUp_some finds
    exact absurd rfl (free id)

/-- Every allowed command keeps what the trace of a refresh keeps. The command may add a user
or a session, and its condition says what has to be there for that. -/
theorem Refreshing.extend {token : String} {trace : Trace} (refreshing : Refreshing token trace)
    {command : Command} (result : command.Result) (allowed : RotationAllowed token trace command)
    (disciplined : command.use ≠ .foreign) :
    Refreshing token (trace ++ [⟨command, result⟩]) := by
  have stores : ∀ session ∈ stored (trace ++ [⟨command, result⟩]), session ∈ stored trace ∨
      command.use = .stores session := by
    intro session member
    rw [stored_append] at member
    cases List.mem_append.mp member with
    | inl earlier => exact Or.inl earlier
    | inr now =>
      obtain ⟨event, recorded, stores⟩ := List.mem_filterMap.mp now
      obtain rfl := List.mem_singleton.mp recorded
      exact Or.inr (storedBy_some stores disciplined)
  by_cases looks : ∃ id, command = .postgres (.selectUserById id)
  · obtain ⟨id, rfl⟩ := looks
    obtain ⟨⟨session, saw, same⟩, few, undeleted⟩ := allowed.looks id rfl
    refine ⟨?_, ?_, ?_⟩
    · have one : (owners [⟨.postgres (.selectUserById id), result⟩]).length ≤ 1 :=
        List.length_filterMap_le _ _
      rw [owners_append, List.length_append]
      omega
    · intro other member
      rw [owners_append] at member
      cases List.mem_append.mp member with
      | inl earlier =>
        obtain ⟨session, saw, same⟩ := refreshing.saw other earlier
        exact ⟨session, saw.append _, same⟩
      | inr now =>
        obtain ⟨event, recorded, finds⟩ := List.mem_filterMap.mp now
        obtain rfl := List.mem_singleton.mp recorded
        obtain ⟨user, same'⟩ := lookedUp_some finds
        obtain ⟨named, -⟩ := Event.mk.inj same'
        obtain rfl : id = other := by simpa using named
        exact ⟨session, saw.append _, same⟩
    · intro session member
      cases stores session member with
      | inl earlier =>
        obtain ⟨other, user, ⟨-, -, event, recorded, deletes⟩, -⟩ :=
          refreshing.stores session earlier
        exact absurd deletes (undeleted event recorded token)
      | inr now => simp [Command.use] at now
  · have free : lookedUp ⟨command, result⟩ = none := lookedUp_free (fun id same => looks ⟨id, same⟩)
    have nobody : owners [⟨command, result⟩] = [] := by simp [owners, free]
    have same : owners (trace ++ [⟨command, result⟩]) = owners trace := by
      rw [owners_append, nobody, List.append_nil]
    refine ⟨by rw [same]; exact refreshing.few, ?_, ?_⟩
    · intro id member
      rw [same] at member
      obtain ⟨session, saw, owns⟩ := refreshing.saw id member
      exact ⟨session, saw.append _, owns⟩
    · intro session member
      cases stores session member with
      | inl earlier =>
        obtain ⟨id, user, rotated, found, owns⟩ := refreshing.stores session earlier
        exact ⟨id, user, rotated.append nobody, List.mem_append_left _ found, owns⟩
      | inr now =>
        obtain ⟨id, user, rotated, found, owns⟩ := allowed.stores session now
        exact ⟨id, user, rotated.append nobody, List.mem_append_left _ found, owns⟩

section Traces

variable {bcrypt : Bcrypt} {sessionTTL : SessionTTL} {stack : Nat} {state : AuthState}
  (traced : (authServer bcrypt sessionTTL stack).Traced state) {task : AuthTask}
  (member : task ∈ state.tasks) {token : String}
  (asked : task.request.operation = .refresh token)

include asked

/-- The handler of a refresh obeys these conditions, and a success of it is login data. -/
theorem refresh_obeys :
    Obeys (RotationAllowed token) (fun _ response => ∀ data, response = .success data →
      ∃ said, data = .login said) [] (handleConnection bcrypt sessionTTL stack task.request) := by
  unfold handleConnection
  rw [asked]
  exact handleRefresh_rotates sessionTTL stack token

include traced member

/-- The trace of a refresh, in any state of any run, keeps all of this; the proof is an
induction along the trace, with the handler as the bound on its commands. -/
theorem traced_refreshing : Refreshing token task.trace := by
  have disciplined : Obeys (fun _ command => command.use ≠ .foreign) _ []
      (handleConnection bcrypt sessionTTL stack task.request) :=
    (issues_handleConnection bcrypt sessionTTL stack task.request).obeys
      (fun _ _ command permits => permits.disciplined)
  have kept := (disciplined.and (refresh_obeys asked)).keeps (traced task member) (Refreshing token)
    (fun _ _ result refreshing both => refreshing.extend result both.2 both.1)
    ⟨by simp, by simp, by simp⟩
  simpa using kept

end Traces

/-- A refresh that has passed both its checks waits to delete the key of its token. -/
def AboutToExchange (task : AuthTask) (token : String) : Prop :=
  task.request.operation = .refresh token ∧ (owners task.trace).length = 2 ∧
    task.program.pending? = some (.redis (.delete (.session token)))

instance (task : AuthTask) (token : String) : Decidable (AboutToExchange task token) :=
  inferInstanceAs (Decidable (_ ∧ _ ∧ _))

/-- A refresh that has passed both its checks has executed its deletion. The answer of the
store is not asked for, so an exchange counts also when there was nothing left to delete. -/
def Exchanged (task : AuthTask) (token : String) : Prop :=
  task.request.operation = .refresh token ∧ (owners task.trace).length = 2 ∧
    ∃ event ∈ task.trace, event.command.use = .deletes token

instance (task : AuthTask) (token : String) : Decidable (Exchanged task token) :=
  inferInstanceAs (Decidable (_ ∧ _ ∧ _))

/-- No store fails, and whenever a refresh that has passed its checks deletes the key
of its token, no other refresh of the token that has passed its checks has done so. It is
what the count of this module needs of a step, and what the second checks of the refreshes
give. -/
def RotatesAlone (state : AuthState) : Action Request Choice → Prop
  | .start _ => True
  | .proceed index choice => choice.failure = none ∧ ∀ task ∈ state.tasks[index]?,
      ∀ token ∈ task.request.operation.token?, AboutToExchange task token →
        ∀ other ∈ state.tasks.eraseIdx index, ¬ Exchanged other token

/-- Whether Redis holds a session of the user under the key of a token, expired or
not. -/
def holdsFor (redis : Redis) (token user : String) : Int :=
  match redis.table.get? (.session token) with
  | some ⟨_, .string (.session session), _⟩ => if session.userId = user then 1 else 0
  | _ => 0

/-- How often a request has stored a session of the user for the token. -/
def storedFor (token user : String) (task : AuthTask) : Int :=
  (task.trace.filterMap storedBy).countP (fun session =>
    session.token = token && session.userId = user)

/-- Whether a request has exchanged the token for the user, as a number, so that it can be
counted over all requests. -/
def rotatedFor (token user : String) (task : AuthTask) : Int :=
  if Exchanged task token ∧ (owners task.trace)[1]? = some user then 1 else 0

/-- What every run keeps whose refreshes rotate alone. The balance is the last field: for each
token and user, what Redis holds and what was exchanged do not exceed what was stored. -/
structure Balanced (bcrypt : Bcrypt) (sessionTTL : SessionTTL) (stack : Nat)
    (state : AuthState) : Prop where
  traced : (authServer bcrypt sessionTTL stack).Traced state
  entries : ∀ token entry, state.store.redis.table.get? (.session token) = some entry →
    ∃ index session, Kept state index session ∧ session.token = token ∧
      entry.value = .string (.session session)
  saw : ∀ task ∈ state.tasks, ∀ token session, Saw task.trace token session →
    session.token = token ∧ ∃ index, Kept state index session
  found : ∀ task ∈ state.tasks, ∀ id user,
    ⟨.postgres (.selectUserById id), .ok (some user)⟩ ∈ task.trace → user.id = id
  once : ∀ (first second : Nat) (token : String), ∀ left ∈ state.tasks[first]?, ∀ right ∈ state.tasks[second]?,
    Exchanged left token → Exchanged right token → first = second
  balance : ∀ token user, holdsFor state.store.redis token user +
    total (rotatedFor token user) state.tasks ≤ total (storedFor token user) state.tasks

/-- Redis holds a session or it does not, so the count for one token is between zero and one.
-/
theorem holdsFor_bounds (redis : Redis) (token user : String) :
    0 ≤ holdsFor redis token user ∧ holdsFor redis token user ≤ 1 := by
  unfold holdsFor
  split
  · split <;> simp
  · simp

/-- An empty key holds nothing, for any user. -/
theorem holdsFor_absent {redis : Redis} {token : String}
    (absent : redis.table.get? (.session token) = none) (user : String) :
    holdsFor redis token user = 0 := by
  simp [holdsFor, absent]

/-- What a key holds depends on its entry only, and neither on the other keys nor on the time.
-/
theorem holdsFor_congr {redis later : Redis} {token : String}
    (same : later.table.get? (.session token) = redis.table.get? (.session token)) (user : String) :
    holdsFor later token user = holdsFor redis token user := by
  simp [holdsFor, same]

section Balanced

variable {bcrypt : Bcrypt} {sessionTTL : SessionTTL} {stack : Nat} {state next : AuthState}
  {index : Nat} {choice : Choice} {task : AuthTask} {command : Command}

/-- A request counts for what it has stored, so each stored session contributes one to the
total of its token and user. -/
theorem Kept.storedFor {place : Nat} {session : Session} (kept : Kept state place session) :
    1 ≤ total (storedFor session.token session.userId) state.tasks := by
  obtain ⟨keeper, present, member⟩ := kept
  have one : 1 ≤ Auth.storedFor session.token session.userId keeper := by
    have positive : 0 < (keeper.trace.filterMap storedBy).countP (fun other =>
        other.token = session.token && other.userId = session.userId) :=
      List.countP_pos_iff.mpr ⟨session, member, by simp⟩
    unfold Auth.storedFor
    omega
  exact Int.le_trans one (le_total _ state.tasks place keeper present
    (fun item _ => by unfold Auth.storedFor; omega))

/-- What the requests have stored grows by what the command stores, and only for the token and
the user of that session. -/
theorem Move.storedFor_stores
    (move : Move bcrypt (authServer bcrypt sessionTTL stack) state next index choice task command)
    {session : Session} (stores : command.use = .stores session) (token user : String) :
    total (Auth.storedFor token user) next.tasks = total (Auth.storedFor token user) state.tasks +
      if session.token = token ∧ session.userId = user then 1 else 0 := by
  obtain ⟨expiration, rfl⟩ := stores_command stores
  obtain ⟨after, tasks, -, trace⟩ := move.scheduled
  have kept : (after.trace.filterMap storedBy) = task.trace.filterMap storedBy ++ [session] := by
    rw [trace, List.filterMap_append]
    simp [storedBy, perform, move.works, Redis.execute]
  have grown : Auth.storedFor token user after = Auth.storedFor token user task +
      if session.token = token ∧ session.userId = user then 1 else 0 := by
    unfold Auth.storedFor
    rw [kept, List.countP_append]
    by_cases same : session.token = token ∧ session.userId = user
    · simp [same]
    · have other : (session.token = token && session.userId = user) = false := by simpa using same
      simp [same, other]
  rw [tasks, total_set _ _ _ _ _ move.present, grown]
  omega

/-- Whatever stores no session leaves that as it is, for every token and user. -/
theorem Move.storedFor_unstored
    (move : Move bcrypt (authServer bcrypt sessionTTL stack) state next index choice task command)
    (unstored : ∀ session, command.use ≠ .stores session) (token user : String) :
    total (Auth.storedFor token user) next.tasks = total (Auth.storedFor token user) state.tasks := by
  obtain ⟨after, tasks, -, trace⟩ := move.scheduled
  have nothing : storedBy ⟨command, (perform bcrypt command choice state.store).1⟩ = none := by
    cases stores : storedBy ⟨command, (perform bcrypt command choice state.store).1⟩ with
    | none => rfl
    | some session => exact absurd (storedBy_some stores move.disciplined) (unstored session)
  have same : Auth.storedFor token user after = Auth.storedFor token user task := by
    unfold Auth.storedFor
    rw [trace, List.filterMap_append]
    simp [nothing]
  rw [tasks, total_set _ _ _ _ _ move.present, same]
  omega

/-- Nobody has found another user after the second one: a refresh that has passed both checks
is not allowed to look up a third one. -/
theorem owners_moved {token : String} {result : command.Result}
    (allowed : RotationAllowed token task.trace command) (twice : 2 ≤ (owners task.trace).length) :
    owners (task.trace ++ [⟨command, result⟩]) = owners task.trace := by
  have free : lookedUp ⟨command, result⟩ = none := by
    apply lookedUp_free
    intro id same
    have few := (allowed.looks id same).2.1
    omega
  rw [owners_append]
  simp [owners, free]

/-- A token is exchanged by the deletion, and by nothing else. It takes a refresh that has
found two users and executes a `DEL` of the token now. -/
theorem exchanged_moved {token : String} {after : AuthTask} {result : command.Result}
    (asked : after.request = task.request) (trace : after.trace = task.trace ++ [⟨command, result⟩])
    (allowed : task.request.operation = .refresh token → RotationAllowed token task.trace command) :
    Exchanged after token ↔ Exchanged task token ∨
      (task.request.operation = .refresh token ∧ (owners task.trace).length = 2 ∧
        command.use = .deletes token) := by
  constructor
  · rintro ⟨refreshes, twice, event, member, deletes⟩
    rw [asked] at refreshes
    have permitted := allowed refreshes
    by_cases looks : ∃ id, command = .postgres (.selectUserById id)
    · obtain ⟨id, rfl⟩ := looks
      rw [trace] at member
      cases List.mem_append.mp member with
      | inl earlier => exact absurd deletes ((permitted.looks id rfl).2.2 event earlier token)
      | inr now =>
        obtain rfl := List.mem_singleton.mp now
        simp [Command.use] at deletes
    · have free : lookedUp ⟨command, result⟩ = none :=
        lookedUp_free (fun id same => looks ⟨id, same⟩)
      have same : owners after.trace = owners task.trace := by
        rw [trace, owners_append]
        simp [owners, free]
      rw [same] at twice
      rw [trace] at member
      cases List.mem_append.mp member with
      | inl earlier => exact Or.inl ⟨refreshes, twice, event, earlier, deletes⟩
      | inr now =>
        obtain rfl := List.mem_singleton.mp now
        exact Or.inr ⟨refreshes, twice, deletes⟩
  · rintro (⟨refreshes, twice, event, member, deletes⟩ | ⟨refreshes, twice, deletes⟩)
    · have same : owners after.trace = owners task.trace :=
        trace ▸ owners_moved (allowed refreshes) (by omega)
      exact ⟨by rw [asked, refreshes], by rw [same, twice], event, by simp [trace, member], deletes⟩
    · have same : owners after.trace = owners task.trace :=
        trace ▸ owners_moved (allowed refreshes) (by omega)
      exact ⟨by rw [asked, refreshes], by rw [same, twice], ⟨command, result⟩, by simp [trace], deletes⟩

/-- The count of exchanges changes with the deletion only, from nothing to at most one for the
user of the second check. -/
theorem rotatedFor_moved {after : AuthTask} {result : command.Result}
    (asked : after.request = task.request) (trace : after.trace = task.trace ++ [⟨command, result⟩])
    {token : String}
    (allowed : task.request.operation = .refresh token → RotationAllowed token task.trace command)
    (user : String) :
    rotatedFor token user after = rotatedFor token user task ∨
      (rotatedFor token user task = 0 ∧ task.request.operation = .refresh token ∧
        (owners task.trace).length = 2 ∧ command.use = .deletes token ∧
        (rotatedFor token user after = 1 → user ∈ owners task.trace)) := by
  have moved := exchanged_moved asked trace allowed
  unfold rotatedFor
  by_cases before : Exchanged task token
  · have permitted := allowed before.1
    have same : owners after.trace = owners task.trace :=
      trace ▸ owners_moved permitted (by have twice := before.2.1; omega)
    rw [same]
    simp [before, moved.mpr (Or.inl before)]
  · by_cases about : task.request.operation = .refresh token ∧ (owners task.trace).length = 2 ∧
      command.use = .deletes token
    · have same : owners after.trace = owners task.trace :=
        trace ▸ owners_moved (allowed about.1) (by have twice := about.2.1; omega)
      refine Or.inr ⟨by simp [before], about.1, about.2.1, about.2.2, fun one => ?_⟩
      split at one
      · rename_i both
        rw [same] at both
        exact List.mem_of_getElem? both.2
      · simp at one
    · have not : ¬ Exchanged after token := fun now => (moved.mp now).elim before about
      simp [before, not]

section Step

variable
  (move : Move bcrypt (authServer bcrypt sessionTTL stack) state next index choice task command)
  (balanced : Balanced bcrypt sessionTTL stack state)
  (allowed : ∀ token, task.request.operation = .refresh token →
    RotationAllowed token task.trace command)
  (alone : ∀ token, task.request.operation = .refresh token → (owners task.trace).length = 2 →
    command.use = .deletes token → ∀ other ∈ state.tasks.eraseIdx index, ¬ Exchanged other token)

include move balanced

/-- Every entry under a session key holds a stored session. It was there before the move, or
the move has stored it. -/
theorem Move.entries_kept (token : String) (entry : Entry Key Value)
    (present : next.store.redis.table.get? (.session token) = some entry) :
    ∃ place session, Kept next place session ∧ session.token = token ∧
      entry.value = .string (.session session) := by
  rcases move.entry_moved present with earlier | ⟨session, uses, named, value⟩
  · obtain ⟨place, session, kept, named, value⟩ := balanced.entries token entry earlier
    exact ⟨place, session, move.kept_mono kept, named, value⟩
  · exact ⟨index, session, move.keeps uses, named, value⟩

/-- A user who was found by id has that id. The statement selects by it, and no two rows share
one. -/
theorem Move.found_kept (other : AuthTask) (member : other ∈ next.tasks) (id : String) (user : User)
    (recorded : ⟨.postgres (.selectUserById id), .ok (some user)⟩ ∈ other.trace) :
    user.id = id := by
  rcases move.events member recorded with ⟨before, old, -, earlier⟩ | ⟨same, -⟩
  · exact balanced.found before old id user earlier
  · obtain ⟨rfl, result⟩ := Event.mk.inj same
    have found : state.store.postgres.users.get? id = some user := by
      have found := (eq_of_heq result).symm
      apply Postgres.selectUserById_eq_some.mp
      simpa [perform, move.works, Store.wait] using found
    exact (KeyedTable.get?_sound found).2

include allowed alone

/-- A token is exchanged once. An exchange of the move itself would be a second one only if
another refresh had exchanged the token before, which is what its condition excludes. -/
theorem Move.once_kept (first second : Nat) (token : String) (left : AuthTask)
    (here : left ∈ next.tasks[first]?) (right : AuthTask) (there : right ∈ next.tasks[second]?)
    (exchanged : Exchanged left token) (again : Exchanged right token) : first = second := by
  obtain ⟨after, tasks, asked, trace⟩ := move.scheduled
  have moved := exchanged_moved asked trace (allowed token)
  have before {place : Nat} {other : AuthTask} (located : next.tasks[place]? = some other)
      (exchanged : Exchanged other token) : place = index ∨
        (place ≠ index ∧ state.tasks[place]? = some other) := by
    rw [tasks] at located
    rcases set_lookup located with ⟨rfl, -⟩ | ⟨different, earlier⟩
    · exact Or.inl rfl
    · exact Or.inr ⟨different, earlier⟩
  have conflict {place : Nat} {other now : AuthTask} (located : next.tasks[place]? = some other)
      (different : place ≠ index) (exchanged : Exchanged other token)
      (current : next.tasks[index]? = some now) (again : Exchanged now token) : False := by
    rw [tasks] at located current
    rcases set_lookup located with ⟨same, -⟩ | ⟨-, earlier⟩
    · exact different same
    rcases set_lookup current with ⟨-, rfl⟩ | ⟨other, -⟩
    · rcases moved.mp again with earlier' | ⟨refreshes, twice, deletes⟩
      · exact different (balanced.once place index token other earlier task move.present exchanged
          earlier')
      · exact alone token refreshes twice deletes other
          (List.mem_eraseIdx_iff_getElem?.mpr ⟨place, different, earlier⟩) exchanged
    · exact other rfl
  rcases before here exchanged with rfl | ⟨different, earlier⟩
  · rcases before there again with rfl | ⟨different', -⟩
    · rfl
    · exact (conflict there different' again here exchanged).elim
  · rcases before there again with rfl | ⟨-, earlier'⟩
    · exact (conflict here different exchanged there again).elim
    · exact balanced.once first second token left earlier right earlier' exchanged again

omit balanced allowed in
/-- Before the first exchange of a token, none is counted: no other request has exchanged it,
and the one that moves has not done so yet. -/
theorem Move.unrotated {token : String} (refreshes : task.request.operation = .refresh token)
    (twice : (owners task.trace).length = 2) (deletes : command.use = .deletes token) (user : String)
    (unrotated : rotatedFor token user task = 0) : total (rotatedFor token user) state.tasks = 0 := by
  have zero (other : AuthTask) (member : other ∈ state.tasks) : rotatedFor token user other = 0 := by
    obtain ⟨place, located⟩ := List.mem_iff_getElem?.mp member
    by_cases same : place = index
    · subst same
      obtain rfl : task = other := Option.some.inj (move.present.symm.trans located)
      exact unrotated
    · have absent := alone token refreshes twice deletes other
        (List.mem_eraseIdx_iff_getElem?.mpr ⟨place, same, located⟩)
      simp [rotatedFor, absent]
  rw [total_congr _ _ zero]
  simp [total]

/-- The balance of every token and user. Storing adds one on both sides at most, and an
exchange empties the key that it counts for, by the deletion that makes it one. -/
theorem Move.balance_kept (token user : String) :
    holdsFor next.store.redis token user + total (rotatedFor token user) next.tasks ≤
      total (Auth.storedFor token user) next.tasks := by
  have before := balanced.balance token user
  have bounds := holdsFor_bounds state.store.redis token user
  obtain ⟨after, tasks, asked, trace⟩ := move.scheduled
  have rotations : total (rotatedFor token user) next.tasks =
      total (rotatedFor token user) state.tasks - rotatedFor token user task +
        rotatedFor token user after := by
    rw [tasks, total_set _ _ _ _ _ move.present]
  have grows : total (Auth.storedFor token user) state.tasks ≤
      total (Auth.storedFor token user) next.tasks := by
    by_cases stores : ∃ session, command.use = .stores session
    · obtain ⟨session, uses⟩ := stores
      rw [move.storedFor_stores uses]
      split <;> omega
    · exact Int.le_of_eq (move.storedFor_unstored (fun session uses => stores ⟨session, uses⟩) _ _).symm
  have change := (perform_session bcrypt choice state.store token command
    move.disciplined).equations
  rw [← move.store] at change
  rcases rotatedFor_moved asked trace (allowed token) user with
    same | ⟨none, refreshes, twice, deletes, owns⟩
  · rcases change with kept | ⟨session, deadline, uses, rfl, stored⟩ | ⟨-, gone⟩
    · rw [holdsFor_congr kept]
      omega
    · have held : holdsFor next.store.redis session.token user =
          if session.userId = user then 1 else 0 := by
        simp [holdsFor, stored, Session.entry]
      have added := move.storedFor_stores uses session.token user
      by_cases own : session.userId = user <;> simp [own] at held added <;> omega
    · rw [holdsFor_absent gone]
      omega
  · -- the deletion of a refresh: nobody has exchanged the token, and somebody has stored it
    have gone : next.store.redis.table.get? (.session token) = Option.none := by
      rw [move.store, deletes_command deletes]
      exact perform_delete bcrypt choice state.store token move.works
    have nobody := move.unrotated alone refreshes twice deletes user none
    rw [holdsFor_absent gone]
    have few : rotatedFor token user after ≤ 1 := by
      unfold rotatedFor
      split <;> omega
    by_cases one : rotatedFor token user after = 1
    · obtain ⟨session, saw, rfl⟩ := (traced_refreshing balanced.traced move.member refreshes).saw user
        (owns one)
      obtain ⟨rfl, place, kept⟩ := balanced.saw task move.member token session saw
      have stored := kept.storedFor
      omega
    · have stored : 0 ≤ total (Auth.storedFor token user) state.tasks := by omega
      omega

end Step

/-- Accepting a request changes no balance, since it has executed nothing and the stores are
what they were. -/
theorem Balanced.accepted (balanced : Balanced bcrypt sessionTTL stack state) (request : Request) :
    Balanced bcrypt sessionTTL stack
      ((authServer bcrypt sessionTTL stack).step state (.start request)) where
  traced := (authServer bcrypt sessionTTL stack).step_traced state _ balanced.traced
  entries := by
    intro token entry present
    obtain ⟨place, session, kept, named, value⟩ := balanced.entries token entry present
    exact ⟨place, session, kept_step (authServer bcrypt sessionTTL stack) _ kept, named, value⟩
  saw := by
    rintro task member token session ⟨text, event, decoded⟩
    obtain ⟨named, place, kept⟩ :=
      balanced.saw task (accepted_recorded member event) token session ⟨text, event, decoded⟩
    exact ⟨named, place, kept_step (authServer bcrypt sessionTTL stack) _ kept⟩
  found := fun task member id user event =>
    balanced.found task (accepted_recorded member event) id user event
  once := by
    intro first second token left here right there exchanged again
    have before {place : Nat} {other : AuthTask}
        (located : ((authServer bcrypt sessionTTL stack).step state (.start request)).tasks[place]? =
          some other) (exchanged : Exchanged other token) : state.tasks[place]? = some other := by
      rcases Service.step_task _ located with earlier | ⟨_, -, -, rfl⟩ | ⟨_, _, _, _, other, -⟩
      · exact earlier
      · obtain ⟨-, -, event, recorded, -⟩ := exchanged
        simp [accepted_idle] at recorded
      · simp at other
    exact balanced.once first second token left (before here exchanged) right (before there again)
      exchanged again
  balance := by
    intro token user
    have before := balanced.balance token user
    change holdsFor state.store.redis token user + total (rotatedFor token user)
      (state.tasks ++ [(authServer bcrypt sessionTTL stack).accept request]) ≤
        total (storedFor token user) (state.tasks ++ [_])
    have unrotated : rotatedFor token user ((authServer bcrypt sessionTTL stack).accept request) = 0 := by
      simp [rotatedFor, Exchanged, accepted_idle]
    have unstored : storedFor token user ((authServer bcrypt sessionTTL stack).accept request) = 0 := by
      simp [storedFor, accepted_idle]
    simp only [total_append, total_cons, total_nil, unrotated, unstored]
    omega

/-- A step in which refreshes rotate alone keeps the balance. It is a move, and each field is
kept by the lemma of its name. -/
theorem Balanced.step (balanced : Balanced bcrypt sessionTTL stack state)
    (action : Action Request Choice) (rotates : RotatesAlone state action) :
    Balanced bcrypt sessionTTL stack ((authServer bcrypt sessionTTL stack).step state action) := by
  cases action with
  | start request => exact balanced.accepted request
  | proceed index choice =>
    have traced := (authServer bcrypt sessionTTL stack).step_traced state (.proceed index choice)
      balanced.traced
    generalize after : (authServer bcrypt sessionTTL stack).step state (.proceed index choice) = next
      at traced
    have transition : (authServer bcrypt sessionTTL stack).Transition state _ next :=
      after ▸ (authServer bcrypt sessionTTL stack).step_transition state _
    cases transition with
    | idle index choice nothing => exact balanced
    | proceeded index choice task command resume present pending =>
      have move := move_of_working balanced.traced present pending rotates.1
      have allowed : ∀ token, task.request.operation = .refresh token →
          RotationAllowed token task.trace command := fun token asked =>
        balanced.traced.pending_allowed move.member (refresh_obeys asked) pending
      have alone : ∀ token, task.request.operation = .refresh token →
          (owners task.trace).length = 2 → command.use = .deletes token →
          ∀ other ∈ state.tasks.eraseIdx index, ¬ Exchanged other token := by
        intro token asked twice deletes
        obtain rfl := deletes_command deletes
        exact rotates.2 task present token (by simp [asked, Operation.token?])
          ⟨asked, twice, by simp [pending]⟩
      exact
        { traced := traced
          entries := move.entries_kept balanced
          saw := move.saw_moved balanced.entries balanced.saw
          found := move.found_kept balanced
          once := move.once_kept balanced allowed alone
          balance := move.balance_kept balanced allowed alone }

/-- So does a run, if every step of it meets that condition in the state in which it is taken;
the induction is that of the service. -/
theorem Balanced.run (balanced : Balanced bcrypt sessionTTL stack state)
    (actions : List (Action Request Choice))
    (rotates : (authServer bcrypt sessionTTL stack).Along RotatesAlone state actions) :
    Balanced bcrypt sessionTTL stack ((authServer bcrypt sessionTTL stack).run state actions) :=
  (authServer bcrypt sessionTTL stack).run_invariant (Balanced bcrypt sessionTTL stack)
    (fun _ action balanced rotates => balanced.step action rotates) state actions balanced rotates

/-- Without sessions and requests, everything is balanced, because there is nothing to count
on either side. -/
theorem idle_balanced (bcrypt : Bcrypt) (sessionTTL : SessionTTL) (stack : Nat) {store : Store}
    (empty : ∀ token, store.redis.table.get? (.session token) = none) :
    Balanced bcrypt sessionTTL stack (Service.idleState store) where
  traced := (authServer bcrypt sessionTTL stack).idleState_traced store
  entries := fun token entry present => by simp [empty token] at present
  saw := fun task member => absurd member (by simp)
  found := fun task member => absurd member (by simp)
  once := fun first second token left here => by simp at here
  balance := fun token user => by simp [holdsFor_absent (empty token)]

end Balanced

end ShoppingCS.Auth
