import ShoppingCS.Auth.Lookup

/-!
# What a successful logout leaves behind

A logout reports success whatever its commands return. Only one of them matters
to a later check of the token: the deletion of the session's key in Redis. When
it fails, the record is still there and its token is accepted as before; the
deletion of the PostgreSQL row does not help, because no check reads that row.
-/

namespace ShoppingCS.Auth

open Interleaving Program Storage

variable (bcrypt : Bcrypt) (sessionTTL : SessionTTL)

/-- A later store holds nothing new under the key of a token: its clocks are not behind, and
the entry that is there was there before. -/
structure Inherits (token : String) (before later : Store) : Prop where
  clock : before.clock ≤ later.clock
  redisClock : before.redis.clock ≤ later.redis.clock
  entry : ∀ entry, later.redis.table.get? (.session token) = some entry →
    before.redis.table.get? (.session token) = some entry

theorem Inherits.refl (token : String) (store : Store) : Inherits token store store :=
  ⟨Int.le_refl _, Int.le_refl _, fun _ found => found⟩

theorem Inherits.trans {token : String} {first second third : Store}
    (left : Inherits token first second) (right : Inherits token second third) :
    Inherits token first third :=
  ⟨Int.le_trans left.clock right.clock, Int.le_trans left.redisClock right.redisClock,
    fun entry found => left.entry entry (right.entry entry found)⟩

/-- The session found later was found before: its entry was live already, since the clock of
Redis has only moved on. -/
theorem Inherits.lookup {token : String} {before later : Store}
    (inherits : Inherits token before later) {session : Session}
    (found : later.redis.lookup token = some session) :
    before.redis.lookup token = some session := by
  unfold Redis.lookup at found ⊢
  cases present : later.redis.find? (.session token) with
  | none => simp [present] at found
  | some entry =>
    rw [present] at found
    obtain ⟨stored, live⟩ := ExpiringTable.find?_eq_some.mp present
    have earlier : before.redis.find? (.session token) = some entry := by
      refine ExpiringTable.find?_eq_some.mpr ⟨inherits.entry entry stored, live.mono ?_⟩
      exact Int.ediv_le_ediv (by omega) inherits.redisClock
    rw [earlier]
    exact found

/-- Waiting adds nothing to the stores, and the clocks do not go back. -/
theorem wait_inherits (token : String) (store : Store) (choice : Choice) :
    Inherits token store (store.wait choice) := by
  refine ⟨?_, ?_, fun _ found => found⟩
  · simp only [Store.wait]
    omega
  · simp only [Store.wait, Redis.wait]
    omega

/-- A command that stores no session adds nothing under the key of a token. It may delete what
is there. -/
theorem perform_inherits (token : String) (command : Command) (choice : Choice) (store : Store)
    (disciplined : command.use ≠ .foreign) (unstored : ∀ session, command.use ≠ .stores session) :
    Inherits token store (perform bcrypt command choice store).2 := by
  refine ⟨?_, ?_, ?_⟩
  · rw [perform_clock]
    omega
  · rw [perform_redisClock]
    omega
  · intro entry found
    cases perform_unstored bcrypt choice store token command disciplined unstored with
    | inl same => rw [← same, found]
    | inr none => exact absurd found (by simp [none])

/-- Nor does a program that only presents the token, when it runs by itself; the proof goes by
induction on its commands. -/
theorem alone_inherits {α : Type} {token : String} {program : Handler α}
    (issues : program.Issues (Presents token)) {choices rest : Nat → Choice} {store settled : Store}
    {value : α} (outcome : alone (perform bcrypt) program choices store =
      some (value, settled, rest)) : Inherits token store settled := by
  induction program generalizing choices store with
  | answer other =>
    obtain ⟨-, rfl, -⟩ : other = value ∧ store = settled ∧ choices = rest := by
      simpa using outcome
    exact .refl token store
  | halt => exact absurd outcome (by simp)
  | call command resume inductionHypothesis =>
    have disciplined : command.use ≠ .foreign := by
      rcases issues.1 with uses | uses | uses <;> simp [uses]
    have unstored (session : Session) : command.use ≠ .stores session := by
      rcases issues.1 with uses | uses | uses <;> simp [uses]
    exact (perform_inherits bcrypt token command _ store disciplined unstored).trans
      (inductionHypothesis _ (issues.2 _) outcome)

/-- A validation by working stores would accept the token now: its session is found and in
time, and the user that it names is there. -/
def Store.Accepts (store : Store) (token : String) : Prop :=
  ∃ session user, store.redis.lookup token = some session ∧ store.clock ≤ session.expiresAt ∧
    store.postgres.users.get? session.userId = some user

/-- The time of some commands passes, and nothing else happens. It is the state in which
commands that change nothing leave the stores. -/
def Store.lapse (store : Store) (choices : Nat → Choice) : Nat → Store
  | 0 => store
  | count + 1 => (store.lapse choices count).wait (choices count)

/-- Time passes in one piece or in two, with the choices of the second piece being those that
come after the first one. -/
theorem lapse_after (store : Store) (choices : Nat → Choice) (first second : Nat) :
    (store.lapse choices first).lapse (after first choices) second =
      store.lapse choices (first + second) := by
  induction second with
  | zero => rfl
  | succ second inductionHypothesis =>
    rw [Store.lapse, inductionHypothesis, ← Nat.add_assoc, Store.lapse, after_apply, Nat.add_comm]

/-- Neither the contents of Redis nor those of PostgreSQL change while time passes, so only
the expiry of what is there can differ. -/
theorem lapse_contents (store : Store) (choices : Nat → Choice) (count : Nat) :
    (store.lapse choices count).redis.table = store.redis.table ∧
      (store.lapse choices count).postgres = store.postgres := by
  induction count with
  | zero => exact ⟨rfl, rfl⟩
  | succ count inductionHypothesis => exact inductionHypothesis

/-- Two stores agree on the time and on the users. What they hold under the key of a token is
then all that a validation of it can tell them apart by. -/
structure Agrees (store other : Store) : Prop where
  clock : store.clock = other.clock
  redisClock : store.redis.clock = other.redis.clock
  users : store.postgres.users = other.postgres.users

/-- The commands of a deletion only take time, as far as clocks and users go. -/
theorem perform_agrees {command : Command} {choice : Choice} {store other : Store}
    (agrees : Agrees store other)
    (deletes : (∃ asked, command = .redis asked) ∨ ∃ token, command = .postgres (.deleteSession token)) :
    Agrees (perform bcrypt command choice store).2 (other.wait choice) := by
  refine ⟨?_, ?_, ?_⟩
  · rw [perform_clock, agrees.clock]
    rfl
  · rw [perform_redisClock, agrees.redisClock]
    rfl
  · rcases deletes with ⟨asked, rfl⟩ | ⟨token, rfl⟩
    · cases failing : choice.failure <;> simp [perform, failing, Store.wait, agrees.users]
    · have kept := Postgres.execute_users store.postgres
        (show ∀ user, Statement.deleteSession token ≠ .insertUser user by simp)
      cases failing : choice.failure <;> simp [perform, failing, Store.wait, agrees.users, kept]

/-- The deletion of the key decides about the record: it is gone if the command works, and
stays as it was if it fails. -/
theorem perform_deletion (token : String) (choice : Choice) (store : Store) :
    (perform bcrypt (.redis (.delete (.session token))) choice store).2.redis.table.get?
        (.session token) =
      if choice.failure = none then none else store.redis.table.get? (.session token) := by
  by_cases works : choice.failure = none
  · rw [if_pos works, perform_delete bcrypt choice store token works]
  · rw [if_neg works]
    obtain ⟨error, failing⟩ := Option.ne_none_iff_exists'.mp works
    simp only [perform, failing]
    rfl

/-- The number of commands after the lookup of a deletion. There is one more if the lookup has
found the list to take the token from. -/
def clearLength : Except String Session → Nat
  | .error _ => 2
  | .ok _ => 3

/-- What the end of a deletion leaves: the record, if the deletion of its key
fails, and otherwise nothing under the key. -/
theorem clearSession_outcome (token : String) (found : Except String Session)
    (choices : Nat → Choice) (store : Store) :
    ∃ settled rest, alone (perform bcrypt) (clearSession token found) choices store =
        some ((), settled, rest) ∧
      Agrees settled (store.lapse choices (clearLength found)) ∧
      settled.redis.table.get? (.session token) =
        if (choices 0).failure = none then none else store.redis.table.get? (.session token) := by
  have deleted := perform_deletion bcrypt token (choices 0) store
  have first : Agrees (perform bcrypt (.redis (.delete (.session token))) (choices 0) store).2
      (store.wait (choices 0)) := perform_agrees bcrypt ⟨rfl, rfl, rfl⟩ (Or.inl ⟨_, rfl⟩)
  cases found with
  | error error =>
    refine ⟨_, _, rfl, perform_agrees bcrypt first (Or.inr ⟨_, rfl⟩), ?_⟩
    exact (perform_elsewhere bcrypt _ _ token _ rfl).trans deleted
  | ok session =>
    have second : Agrees
        (perform bcrypt (.redis (.sRem (.userSessions session.userId) token)) (choices 1)
          (perform bcrypt (.redis (.delete (.session token))) (choices 0) store).2).2
        ((store.wait (choices 0)).wait (choices 1)) :=
      perform_agrees bcrypt first (Or.inl ⟨_, rfl⟩)
    refine ⟨_, _, rfl, perform_agrees bcrypt second (Or.inr ⟨_, rfl⟩), ?_⟩
    exact (perform_elsewhere bcrypt _ _ token _ rfl).trans
      ((perform_elsewhere bcrypt _ _ token _ rfl).trans deleted)

/-- The place of the deletion of the key among the commands of a logout. -/
def deletionPlace (choices : Nat → Choice) : Nat := if (choices 0).failure = none then 2 else 1

/-- The number of commands of a logout that finds a session it can read, or
cannot read anything. -/
def logoutLength (choices : Nat → Choice) : Nat := if (choices 0).failure = none then 5 else 3

/-- The deletion of the key fails, and the token would be accepted when the logout
has answered. -/
def Leaks (token : String) (choices : Nat → Choice) (store : Store) : Prop :=
  (choices (deletionPlace choices)).failure ≠ none ∧
    (store.lapse choices (logoutLength choices)).Accepts token

/-- A store that has aged and holds the same record accepts what the other one
does. -/
theorem accepts_congr {token : String} {store other : Store} (agrees : Agrees store other)
    (entry : store.redis.table.get? (.session token) = other.redis.table.get? (.session token)) :
    store.Accepts token ↔ other.Accepts token := by
  have now : store.redis.now = other.redis.now := by rw [Redis.now, Redis.now, agrees.redisClock]
  have lookup : store.redis.lookup token = other.redis.lookup token := by
    simp only [Redis.lookup, Redis.find?, ExpiringTable.find?, entry, now]
  simp only [Store.Accepts, lookup, agrees.clock, agrees.users]

/-- A token accepted later is accepted now, if its user is known: the record was there and in
time, and nobody has removed the user. -/
theorem Inherits.accepts {token : String} {before later : Store}
    (inherits : Inherits token before later) (users : before.postgres.users = later.postgres.users)
    (accepts : later.Accepts token) : before.Accepts token := by
  obtain ⟨session, user, found, inTime, known⟩ := accepts
  exact ⟨session, user, inherits.lookup found, Int.le_trans inherits.clock inTime,
    by rw [users, known]⟩

/-- The end of a deletion leaves an acceptable token only when the deletion of its
key fails, and then it leaves the record. -/
theorem clearSession_leaves {token : String} {found : Except String Session}
    {choices rest : Nat → Choice} {store settled : Store}
    (outcome : alone (perform bcrypt) (clearSession token found) choices store =
      some ((), settled, rest)) (accepts : settled.Accepts token) :
    (choices 0).failure ≠ none ∧ (store.lapse choices (clearLength found)).Accepts token := by
  obtain ⟨left, remaining, ends, agrees, entry⟩ := clearSession_outcome bcrypt token found choices store
  obtain ⟨rfl, rfl⟩ : left = settled ∧ remaining = rest := by simpa [ends] using outcome
  have fails : (choices 0).failure ≠ none := by
    intro works
    rw [if_pos works] at entry
    obtain ⟨session, user, looked, -⟩ := accepts
    simp [Redis.lookup, Redis.find?, ExpiringTable.find?_absent entry] at looked
  rw [if_neg fails, ← (lapse_contents store choices (clearLength found)).1] at entry
  exact ⟨fails, (accepts_congr agrees entry).mp accepts⟩

/-- A deletion that leaves an acceptable token behind has leaked. The lookup has to have found
the session, and the `DEL` has to have failed, because nothing else keeps the record. -/
theorem deletion_leaks {token : String} {stack : Nat} {choices rest : Nat → Choice}
    {store settled : Store}
    (outcome : alone (perform bcrypt) (deleteSession stack token) choices store =
      some ((), settled, rest)) (accepts : settled.Accepts token) : Leaks token choices store := by
  obtain ⟨deeper, rfl⟩ : ∃ deeper, stack = deeper + 2 := by
    match stack with
    | 0 => simp [deleteSession] at outcome
    | 1 => simp [deleteSession, getSession] at outcome
    | deeper + 2 => exact ⟨deeper, rfl⟩
  rw [alone_deleteSession] at outcome
  cases seen : store.seen (choices 0) token with
  | none =>
    rw [alone_getSession_unseen bcrypt deeper seen, Option.bind_some] at outcome
    obtain ⟨fails, left⟩ := clearSession_leaves bcrypt outcome accepts
    have unread : (choices 0).failure ≠ none := by
      intro works
      obtain ⟨session, user, found, -⟩ := accepts
      have present := (alone_inherits bcrypt (issues_clearSession token _) outcome).lookup found
      simp [Store.seen, works, present] at seen
    constructor
    · rw [deletionPlace, if_neg unread]
      exact fails
    · rw [logoutLength, if_neg unread]
      exact (lapse_after store choices 1 2) ▸ left
  | some session =>
    have read : (choices 0).failure = none := by
      by_contra fails
      obtain ⟨error, failing⟩ := Option.ne_none_iff_exists'.mp fails
      simp [Store.seen, failing] at seen
    by_cases expired : session.expiresAt < (store.checked choices).clock
    · rw [alone_getSession_expired bcrypt deeper seen expired] at outcome
      cases inner : alone (perform bcrypt) (deleteSession deeper token) (after 2 choices)
          (store.checked choices) with
      | none => simp [inner] at outcome
      | some middle =>
        rw [inner, Option.bind_some, Option.bind_some] at outcome
        have kept := (alone_inherits bcrypt (issues_sessionCalls deeper token).2 inner).trans
          (alone_inherits bcrypt (issues_clearSession token _) outcome)
        obtain ⟨other, user, found, inTime, -⟩ := accepts
        have earlier := ((wait_inherits token _ (choices 1)).trans kept).lookup found
        simp only [Store.seen, read] at seen
        obtain rfl : session = other := Option.some.inj (seen.symm.trans earlier)
        have later := kept.clock
        omega
    · rw [alone_getSession_current bcrypt deeper seen (by omega), Option.bind_some] at outcome
      obtain ⟨fails, left⟩ := clearSession_leaves bcrypt outcome accepts
      constructor
      · rw [deletionPlace, if_pos read]
        exact fails
      · rw [logoutLength, if_pos read]
        exact (lapse_after store choices 2 3) ▸ left

/-- The time of more commands adds nothing, by induction on how many more there are. -/
theorem lapse_inherits (token : String) (store : Store) (choices : Nat → Choice)
    {first second : Nat} (order : first ≤ second) :
    Inherits token (store.lapse choices first) (store.lapse choices second) := by
  induction order with
  | refl => exact .refl token _
  | step _ inductionHypothesis => exact inductionHypothesis.trans (wait_inherits token _ _)

/-- When the deletion of the key fails, the end of a deletion leaves the record. -/
theorem clearSession_leaks {token : String} (found : Except String Session)
    {choices : Nat → Choice} {store : Store} (fails : (choices 0).failure ≠ none)
    (accepts : (store.lapse choices (clearLength found)).Accepts token) :
    ∃ settled rest, alone (perform bcrypt) (clearSession token found) choices store =
      some ((), settled, rest) ∧ settled.Accepts token := by
  obtain ⟨settled, rest, outcome, agrees, entry⟩ :=
    clearSession_outcome bcrypt token found choices store
  rw [if_neg fails, ← (lapse_contents store choices (clearLength found)).1] at entry
  exact ⟨settled, rest, outcome, (accepts_congr agrees entry).mpr accepts⟩

/-- A deletion that leaks ends, and leaves an acceptable token behind. Its failing commands
change nothing, so the record is what it was. -/
theorem leaking_deletion {token : String} {choices : Nat → Choice} {store : Store}
    (leaks : Leaks token choices store) :
    ∃ settled rest, alone (perform bcrypt) (deleteSession 2 token) choices store =
      some ((), settled, rest) ∧ settled.Accepts token := by
  obtain ⟨fails, accepts⟩ := leaks
  rw [alone_deleteSession]
  by_cases read : (choices 0).failure = none
  · rw [deletionPlace, if_pos read] at fails
    rw [logoutLength, if_pos read] at accepts
    obtain ⟨session, user, found, inTime, known⟩ := accepts
    have seen : store.seen (choices 0) token = some session := by
      have earlier := (lapse_inherits token store choices (by omega : 1 ≤ 5)).lookup found
      simpa [Store.seen, read, Store.lapse] using earlier
    have clock := (lapse_inherits token store choices (by omega : 2 ≤ 5)).clock
    have current : (store.checked choices).clock ≤ session.expiresAt := Int.le_trans clock inTime
    rw [alone_getSession_current bcrypt 0 seen current, Option.bind_some]
    refine clearSession_leaks bcrypt (.ok session) fails ?_
    exact (lapse_after store choices 2 3).symm ▸ ⟨session, user, found, inTime, known⟩
  · rw [deletionPlace, if_neg read] at fails
    rw [logoutLength, if_neg read] at accepts
    have unseen : store.seen (choices 0) token = none := by
      obtain ⟨error, failing⟩ := Option.ne_none_iff_exists'.mp read
      simp [Store.seen, failing]
    rw [alone_getSession_unseen bcrypt 0 unseen, Option.bind_some]
    exact clearSession_leaks bcrypt (.error _) fails ((lapse_after store choices 1 2).symm ▸ accepts)

/-- A user who is found is known: the statement has worked, and has returned the row of the
table. -/
theorem getUserById_found {userId : String} {choices rest : Nat → Choice} {store settled : Store}
    {user : User} (outcome : alone (perform bcrypt) (getUserById userId) choices store =
      some (.ok user, settled, rest)) : store.postgres.users.get? userId = some user := by
  unfold getUserById query at outcome
  simp only [issue_bind, alone_call, perform] at outcome
  cases failing : (choices 0).failure with
  | some error => simp [failing] at outcome
  | none =>
    rw [failing] at outcome
    cases found : store.postgres.users.get? userId with
    | none =>
      cases Postgres.selectUserById_missing found with
      | inl absent => simp [Store.wait, absent] at outcome
      | inr rejected => simp [Store.wait, rejected] at outcome
    | some other =>
      have returned := Postgres.selectUserById_eq_some.mpr found
      simp only [Store.wait, returned, pure_eq, alone_answer, Option.some.injEq, Prod.mk.injEq,
        Except.ok.injEq] at outcome
      rw [outcome.1]

/-- A lookup that returns a session has read it in time. Nothing has changed but the time, by
the two commands of the lookup. -/
theorem getSession_found {token : String} {stack : Nat} {choices rest : Nat → Choice}
    {store settled : Store} {session : Session}
    (outcome : alone (perform bcrypt) (getSession stack token) choices store =
      some (.ok session, settled, rest)) :
    store.seen (choices 0) token = some session ∧ settled = store.checked choices ∧
      settled.clock ≤ session.expiresAt := by
  cases stack with
  | zero => simp [getSession] at outcome
  | succ stack =>
    cases seen : store.seen (choices 0) token with
    | none =>
      rw [alone_getSession_unseen bcrypt stack seen] at outcome
      simp at outcome
    | some other =>
      by_cases expired : other.expiresAt < (store.checked choices).clock
      · rw [alone_getSession_expired bcrypt stack seen expired] at outcome
        cases inner : alone (perform bcrypt) (deleteSession stack token) (after 2 choices)
            (store.checked choices) <;> simp [inner] at outcome
      · rw [alone_getSession_current bcrypt stack seen (by omega)] at outcome
        simp only [Option.some.injEq, Prod.mk.injEq, Except.ok.injEq] at outcome
        obtain ⟨rfl, rfl, -⟩ := outcome
        exact ⟨rfl, rfl, by omega⟩

/-- A validation that accepts a token has read a session of a known user in time. -/
theorem validate_accepts {token connId : String} {stack : Nat} {choices rest : Nat → Choice}
    {store settled : Store} {data : ValidateResponseData}
    (outcome : alone (perform bcrypt) (handleConnection bcrypt sessionTTL stack
      ⟨connId, .validate token⟩) choices store = some (.success (.validate data), settled, rest))
    (valid : data.valid = true) : store.Accepts token := by
  change alone (perform bcrypt) (handleValidate stack token) choices store = _ at outcome
  unfold handleValidate validateToken at outcome
  split at outcome
  · simp at outcome
  · simp only [alone_bind] at outcome
    cases looked : alone (perform bcrypt) (getSession stack token) choices store with
    | none => simp [looked] at outcome
    | some found =>
      obtain ⟨result, middle, later⟩ := found
      rw [looked, Option.bind_some] at outcome
      cases result with
      | error error =>
        simp only [pure_eq, alone_answer, Option.bind_some, Option.some.injEq, Prod.mk.injEq,
          Response.success.injEq, Data.validate.injEq] at outcome
        rw [← outcome.1] at valid
        exact absurd valid (by decide)
      | ok session =>
        obtain ⟨seen, rfl, inTime⟩ := getSession_found bcrypt looked
        simp only [alone_bind] at outcome
        cases known : alone (perform bcrypt) (getUserById session.userId) later
            (store.checked choices) with
        | none => simp [known] at outcome
        | some found =>
          obtain ⟨result, last, remaining⟩ := found
          cases result with
          | error error =>
            simp only [known, Option.bind_some, pure_eq, alone_answer, Option.some.injEq,
              Prod.mk.injEq, Response.success.injEq, Data.validate.injEq] at outcome
            rw [← outcome.1] at valid
            exact absurd valid (by decide)
          | ok user =>
            have stored := getUserById_found bcrypt known
            have started := wait_inherits token store (choices 0)
            have passed := (started.trans (wait_inherits token _ (choices 1))).clock
            have lookup : (store.wait (choices 0)).redis.lookup token = some session := by
              unfold Store.seen at seen
              split at seen
              · simp at seen
              · exact seen
            exact ⟨session, user, started.lookup lookup, Int.le_trans passed inTime, stored⟩

/-- A store that accepts a token validates it when nothing fails and no time
passes. -/
theorem accepts_validate {token : String} (connId : String) {store : Store}
    (accepts : store.Accepts token) (named : token ≠ "") (choices : Nat → Choice)
    (still : ∀ index, store.wait (choices index) = store)
    (works : ∀ index, (choices index).failure = none) :
    ∃ user rest, alone (perform bcrypt) (handleConnection bcrypt sessionTTL 2
      ⟨connId, .validate token⟩) choices store =
        some (.success (.validate (User.validated user)), store, rest) := by
  obtain ⟨session, user, found, inTime, known⟩ := accepts
  have checked : store.checked choices = store := by rw [Store.checked, still, still]
  have seen : store.seen (choices 0) token = some session := by
    simp [Store.seen, works, still, found]
  have looked := alone_getSession_current bcrypt 1 seen (by rw [checked]; exact inTime)
  rw [checked] at looked
  refine ⟨user, after 3 choices, ?_⟩
  change alone (perform bcrypt) (handleValidate 2 token) choices store = _
  simp only [handleValidate, validateToken, if_neg named, alone_bind, looked, Option.bind_some]
  unfold getUserById query
  simp only [issue_bind, alone_call, perform, after_apply, works, still,
    Postgres.selectUserById_eq_some.mpr known, Postgres.selectUserById_store]
  rfl

section Interval

variable (stack : Nat)

/-- No login and no refresh is accepted. User ids are fresh: no registration
creates the user of a session that was there before. -/
def Quiet (settled : Store) (state : AuthState) (action : Action Request Choice) : Prop :=
  (∀ request, action = .start request → request.operation.opens = false) ∧
    ∀ token session, settled.redis.lookup token = some session →
      settled.postgres.users.get? session.userId = none →
      ((authServer bcrypt sessionTTL stack).step state action).store.postgres.users.get?
        session.userId = none

/-- What a quiet interval keeps: the token's record is no newer, a user who was unknown still
is, and no request that creates sessions has begun. -/
structure Undisturbed (settled : Store) (token : String) (state : AuthState) : Prop where
  inherits : Inherits token settled state.store
  unknown : ∀ session, settled.redis.lookup token = some session →
    settled.postgres.users.get? session.userId = none →
    state.store.postgres.users.get? session.userId = none
  traced : (authServer bcrypt sessionTTL stack).Traced state
  closed : ∀ task ∈ state.tasks, task.request.operation.opens = false

/-- Every quiet step keeps the interval undisturbed, since the requests that run in it store
no session and insert no user whom the record could name. -/
theorem step_undisturbed (settled : Store) (token : String) (state : AuthState)
    (action : Action Request Choice) (undisturbed : Undisturbed bcrypt sessionTTL stack settled token state)
    (quiet : Quiet bcrypt sessionTTL stack settled state action) :
    Undisturbed bcrypt sessionTTL stack settled token
      ((authServer bcrypt sessionTTL stack).step state action) := by
  have traced := (authServer bcrypt sessionTTL stack).step_traced state action undisturbed.traced
  have unknown := quiet.2 token
  generalize after : (authServer bcrypt sessionTTL stack).step state action = next at traced unknown ⊢
  have transition : (authServer bcrypt sessionTTL stack).Transition state action next :=
    after ▸ (authServer bcrypt sessionTTL stack).step_transition state action
  cases transition with
  | idle index choice nothing => exact undisturbed
  | started request =>
    refine ⟨undisturbed.inherits, unknown, traced, ?_⟩
    intro task member
    cases List.mem_append.mp member with
    | inl member => exact undisturbed.closed task member
    | inr member =>
      obtain rfl := List.mem_singleton.mp member
      exact quiet.1 request rfl
  | proceeded index choice task command resume present pending =>
    have member := List.mem_of_getElem? present
    have permits := pending_permits bcrypt sessionTTL stack undisturbed.traced member pending
    have closed := undisturbed.closed task member
    have unstored (session : Session) : command.use ≠ .stores session := by
      rcases permits with uses | ⟨token, -, uses | uses⟩ | ⟨opens, -⟩
      · simp [uses]
      · simp [uses]
      · simp [uses]
      · simp [closed] at opens
    refine ⟨undisturbed.inherits.trans
      (perform_inherits bcrypt token command choice state.store permits.disciplined unstored),
      unknown, traced, ?_⟩
    intro other placed
    rcases List.mem_or_eq_of_mem_set placed with old | rfl
    · exact undisturbed.closed other old
    · exact closed

/-- After a quiet interval, the token is accepted only if it was accepted before. -/
theorem quiet_accepts {settled : Store} {token : String} {actions : List (Action Request Choice)}
    (quiet : (authServer bcrypt sessionTTL stack).Along (Quiet bcrypt sessionTTL stack settled)
      (Service.idleState settled) actions)
    (accepts : ((authServer bcrypt sessionTTL stack).run (Service.idleState settled)
      actions).store.Accepts token) : settled.Accepts token := by
  have undisturbed := (authServer bcrypt sessionTTL stack).run_invariant
    (Undisturbed bcrypt sessionTTL stack settled token)
    (step_undisturbed bcrypt sessionTTL stack settled token) (Service.idleState settled) actions
    ⟨.refl token settled, fun _ _ unknown => unknown,
      (authServer bcrypt sessionTTL stack).idleState_traced settled,
      fun task member => absurd member (by simp)⟩ quiet
  obtain ⟨session, user, found, inTime, known⟩ := accepts
  have before := undisturbed.inherits.lookup found
  cases owner : settled.postgres.users.get? session.userId with
  | none => exact absurd known (by simp [undisturbed.unknown session before owner])
  | some earlier =>
    exact ⟨session, earlier, before, Int.le_trans undisturbed.inherits.clock inTime, owner⟩

end Interval

/-- Whenever the logout answers with success, no validation after a quiet interval
accepts the token, if the stores work by then. -/
def Revokes (token : String) (choices : Nat → Choice) (store : Store) : Prop :=
  ∀ stack connId data settled rest,
    alone (perform bcrypt) (handleConnection bcrypt sessionTTL stack ⟨connId, .logout token⟩)
      choices store = some (.success data, settled, rest) →
    ∀ actions, (authServer bcrypt sessionTTL stack).Along (Quiet bcrypt sessionTTL stack settled)
      (Service.idleState settled) actions →
    ∀ later : Nat → Choice, (∀ index, (later index).failure = none) →
    ∀ connId' answer final rest',
      alone (perform bcrypt) (handleConnection bcrypt sessionTTL stack ⟨connId', .validate token⟩)
        later ((authServer bcrypt sessionTTL stack).run (Service.idleState settled) actions).store =
          some (.success (.validate answer), final, rest') → answer.valid = false

/-- A logout of a token is its deletion and a success. The deletion reports no error, so the
answer is the same however it goes. -/
theorem alone_logout {token : String} (named : token ≠ "") (connId : String) (stack : Nat)
    (choices : Nat → Choice) (store : Store) :
    alone (perform bcrypt) (handleConnection bcrypt sessionTTL stack ⟨connId, .logout token⟩)
        choices store =
      (alone (perform bcrypt) (deleteSession stack token) choices store).bind (fun outcome =>
        some (.success (.message "logged out successfully"), outcome.2)) := by
  change alone (perform bcrypt) (handleLogout stack token) choices store = _
  simp only [handleLogout, logout, if_neg named, alone_bind, Option.bind_assoc]
  rfl

/-- A logout that leaks reports success and has not revoked the token: a validation that
follows it by itself accepts the token. -/
theorem leaks_not_revokes {token : String} (named : token ≠ "") {choices : Nat → Choice}
    {store : Store} (leaks : Leaks token choices store) :
    ¬ Revokes bcrypt sessionTTL token choices store := by
  intro revokes
  obtain ⟨settled, rest, deleted, accepts⟩ := leaking_deletion bcrypt leaks
  have outcome : alone (perform bcrypt) (handleConnection bcrypt sessionTTL 2
      ⟨"", .logout token⟩) choices store =
        some (.success (.message "logged out successfully"), settled, rest) := by
    rw [alone_logout bcrypt sessionTTL named, deleted, Option.bind_some]
  have still (index : Nat) : settled.wait
      { tick firstToken with elapsed := 0, redisElapsed := 0 } = settled := by
    simp [Store.wait, Redis.wait]
  obtain ⟨user, remaining, validated⟩ := accepts_validate bcrypt sessionTTL "" accepts named
    (fun _ => { tick firstToken with elapsed := 0, redisElapsed := 0 }) still (fun _ => rfl)
  have refused := revokes 2 "" _ settled rest outcome [] trivial _ (fun _ => rfl) "" _ _ _ validated
  simp [User.validated] at refused

/-- A logout that reports success has revoked the token exactly when it has not leaked it.
Revoked means that no validation accepts the token after any quiet interval, in which no
session is opened; leaked means that the deletion of the key has failed and the token would
still be accepted. -/
theorem logout_revokes_iff (token : String) (named : token ≠ "") (choices : Nat → Choice)
    (store : Store) : Revokes bcrypt sessionTTL token choices store ↔ ¬ Leaks token choices store := by
  refine ⟨fun revokes leaks => leaks_not_revokes bcrypt sessionTTL named leaks revokes, ?_⟩
  intro tight stack connId data settled rest outcome actions quiet later works connId' answer
    final rest' validated
  by_contra valid
  have accepted := validate_accepts bcrypt sessionTTL validated (by simpa using valid)
  have accepts := quiet_accepts bcrypt sessionTTL stack quiet accepted
  rw [alone_logout bcrypt sessionTTL named] at outcome
  cases deleted : alone (perform bcrypt) (deleteSession stack token) choices store with
  | none => simp [deleted] at outcome
  | some ended =>
    obtain ⟨ended, left, remaining⟩ := ended
    rw [deleted, Option.bind_some] at outcome
    simp only [Option.some.injEq, Prod.mk.injEq] at outcome
    obtain ⟨-, rfl, -⟩ := outcome
    exact tight (deletion_leaks bcrypt deleted accepts)

/-- The stores after a login of the registered user, which are the ones that the logouts of
the two examples start on. -/
def loggedIn : Store :=
  ((alone (perform plainBcrypt) (handleConnection plainBcrypt defaultTTL 0
    ⟨"c1", .login "alice" "secret"⟩) (fun _ => tick firstToken) aliceOnly).map (·.2.1)).getD aliceOnly

/-- A logout whose commands all work revokes the token of that login, because a logout can
leak only if its `DEL` fails. -/
theorem working_logout_revokes :
    Revokes plainBcrypt defaultTTL firstToken.val (fun _ => tick firstToken) loggedIn :=
  (logout_revokes_iff plainBcrypt defaultTTL firstToken.val (by decide) (fun _ => tick firstToken)
    loggedIn).mpr (fun leaks => leaks.1 rfl)

/-- The connection to Redis is lost for the third command, which is the `DEL` of a logout that
has found its session. -/
def lostDeletion (index : Nat) : Choice :=
  if index = 2 then { tick firstToken with failure := some "EOF" } else tick firstToken

/-- The logout is answered with success, the record is still there, and the token
is not revoked. -/
theorem lost_deletion_keeps_token :
    (alone (perform plainBcrypt) (handleConnection plainBcrypt defaultTTL 2
        ⟨"c1", .logout firstToken.val⟩) lostDeletion loggedIn).map (·.1) =
      some (.success (.message "logged out successfully")) ∧
      ¬ Revokes plainBcrypt defaultTTL firstToken.val lostDeletion loggedIn := by
  refine ⟨by decide, leaks_not_revokes plainBcrypt defaultTTL (by decide) ⟨by decide, ?_⟩⟩
  exact ⟨{ token := firstToken.val, userId := "u1", username := "alice"
           email := "alice@example.com", expiresAt := 86400000000003, createdAt := 4 }, alice,
    by decide, by decide, by decide⟩

end ShoppingCS.Auth
