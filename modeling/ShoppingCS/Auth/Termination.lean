import ShoppingCS.Auth.Lookup

/-!
# When session calls return

A lookup that finds an expired session deletes it, and the deletion begins with a
lookup of the same session. Nothing has been removed by then and the clock does
not run backwards, so a session that is expired at one lookup is expired at all
of them: the calls return exactly when the record is absent or still in time.
The measure that a terminating recursion would need does not exist, and Redis is
the only one to end it.
-/

namespace ShoppingCS.Auth

open Interleaving Program Storage

variable (bcrypt : Bcrypt) (sessionTTL : SessionTTL)

/-- The calls return, if the stack has room for some number of nested calls. -/
def Returns {α : Type} (calls : Nat → Handler α) (choices : Nat → Choice) (store : Store) : Prop :=
  ∃ stack, (alone (perform bcrypt) (calls stack) choices store).isSome

/-- Both stores work, and Redis drops nothing in the meantime. -/
structure Steady (choices : Nat → Choice) : Prop where
  works : ∀ index, (choices index).failure = none
  keeps : ∀ index, (choices index).redisElapsed = 0

/-- What remains of steady choices after some commands is steady, since each choice is so by
itself. -/
theorem Steady.after {choices : Nat → Choice} (steady : Steady choices) (count : Nat) :
    Steady (after count choices) :=
  ⟨fun _ => steady.works _, fun _ => steady.keeps _⟩

/-- The clock after some commands, each of which takes the time its choice says. -/
def clockAfter (choices : Nat → Choice) (clock : Int) : Nat → Int
  | 0 => clock
  | count + 1 => clockAfter choices clock count + (choices count).elapsed

/-- The clock never runs backwards, as no command takes a negative time. -/
theorem clockAfter_mono (choices : Nat → Choice) (clock : Int) {first second : Nat}
    (order : first ≤ second) : clockAfter choices clock first ≤ clockAfter choices clock second := by
  induction order with
  | refl => exact Int.le_refl _
  | step _ inductionHypothesis =>
    rw [clockAfter]
    omega

/-- Readings continue where the commands before have left the clock. -/
theorem clockAfter_after (choices : Nat → Choice) (clock : Int) (first second : Nat) :
    clockAfter (after first choices) (clockAfter choices clock first) second =
      clockAfter choices clock (first + second) := by
  induction second with
  | zero => rfl
  | succ second inductionHypothesis =>
    rw [clockAfter, inductionHypothesis, ← Nat.add_assoc, clockAfter, after_apply, Nat.add_comm]

/-- The same stores at another time. Between the commands of a lookup nothing but the clock
moves. -/
def Store.at (store : Store) (clock : Int) : Store := { store with clock := clock }

@[simp] theorem Store.at_redis (store : Store) (clock : Int) : (store.at clock).redis = store.redis :=
  rfl

@[simp] theorem Store.at_postgres (store : Store) (clock : Int) :
    (store.at clock).postgres = store.postgres := rfl

@[simp] theorem Store.at_clock (store : Store) (clock : Int) : (store.at clock).clock = clock := rfl

@[simp] theorem Store.at_at (store : Store) (first second : Int) :
    (store.at first).at second = store.at second := rfl

section Steady

variable {choices : Nat → Choice} (steady : Steady choices) (store : Store) (token : String)

include steady

/-- A command that the stores do not notice only takes time. -/
theorem Steady.wait (index : Nat) :
    store.wait (choices index) = store.at (store.clock + (choices index).elapsed) := by
  simp [Store.wait, Store.at, Redis.wait, steady.keeps index]

/-- With steady choices every read works and sees what is there, as Redis drops nothing
meanwhile. -/
theorem Steady.seen (index : Nat) :
    store.seen (choices index) token = store.redis.lookup token := by
  simp [Store.seen, steady.works index, steady.wait store index]

/-- A lookup takes two commands, so after it the store is the one before at the clock two
commands on. -/
theorem Steady.checked : store.checked choices = store.at (clockAfter choices store.clock 2) := by
  rw [Store.checked, steady.wait, steady.wait]
  rfl

end Steady

/-- The token's record is there, and is too old for the clock after some commands. -/
def ExpiredAfter (count : Nat) (token : String) (choices : Nat → Choice) (store : Store) : Prop :=
  ∃ session, store.redis.lookup token = some session ∧
    session.expiresAt < clockAfter choices store.clock count

/-- A record that is too old at one moment is too old at every later one. -/
theorem ExpiredAfter.mono {first second : Nat} {token : String} {choices : Nat → Choice}
    {store : Store} (expired : ExpiredAfter first token choices store) (order : first ≤ second) :
    ExpiredAfter second token choices store := by
  obtain ⟨session, stored, late⟩ := expired
  exact ⟨session, stored, Int.lt_of_lt_of_le late (clockAfter_mono choices store.clock order)⟩

/-- With an expired record, neither call returns: each only calls the other. -/
theorem expired_never_returns {choices : Nat → Choice} (steady : Steady choices) (store : Store)
    (token : String) (expired : ExpiredAfter 2 token choices store) (stack : Nat) :
    alone (perform bcrypt) (getSession stack token) choices store = none ∧
      alone (perform bcrypt) (deleteSession stack token) choices store = none := by
  induction stack generalizing choices store with
  | zero => exact ⟨rfl, rfl⟩
  | succ stack inductionHypothesis =>
    have below := inductionHypothesis steady store expired
    obtain ⟨session, stored, late⟩ := expired
    have seen := (steady.seen store token 0).trans stored
    have checked := steady.checked store
    constructor
    · have again : ExpiredAfter 2 token (after 2 choices) (store.checked choices) := by
        refine ⟨session, by rw [checked, Store.at_redis, stored], ?_⟩
        rw [checked, Store.at_clock, clockAfter_after]
        exact Int.lt_of_lt_of_le late (clockAfter_mono choices store.clock (by omega))
      rw [alone_getSession_expired bcrypt stack seen (by rw [checked]; exact late),
        (inductionHypothesis (steady.after 2) _ again).2, Option.bind_none]
    · rw [alone_deleteSession, below.1, Option.bind_none]

/-- What a lookup returns when it returns: that there is no session, or the one that is there
and current. It changes neither store. -/
theorem getSession_outcome {choices : Nat → Choice} (steady : Steady choices) (store : Store)
    (token : String) (current : ¬ ExpiredAfter 2 token choices store) (stack : Nat) :
    (store.redis.lookup token = none ∧ ∃ error clock,
        alone (perform bcrypt) (getSession (stack + 1) token) choices store =
          some (.error error, store.at clock, after 1 choices)) ∨
      ∃ session, store.redis.lookup token = some session ∧
        alone (perform bcrypt) (getSession (stack + 1) token) choices store =
          some (.ok session, store.at (clockAfter choices store.clock 2), after 2 choices) := by
  cases stored : store.redis.lookup token with
  | none =>
    have unseen := (steady.seen store token 0).trans stored
    refine Or.inl ⟨rfl, "session not found or expired", store.clock + (choices 0).elapsed, ?_⟩
    rw [alone_getSession_unseen bcrypt stack unseen, steady.wait]
  | some session =>
    have seen := (steady.seen store token 0).trans stored
    have inTime : clockAfter choices store.clock 2 ≤ session.expiresAt := by
      by_contra late
      exact current ⟨session, stored, by omega⟩
    refine Or.inr ⟨session, rfl, ?_⟩
    rw [alone_getSession_current bcrypt stack seen (by rw [steady.checked]; exact inTime),
      steady.checked]

/-- A lookup returns exactly when it does not find an expired record. -/
theorem getSession_returns_iff {choices : Nat → Choice} (steady : Steady choices) (store : Store)
    (token : String) :
    Returns bcrypt (getSession · token) choices store ↔ ¬ ExpiredAfter 2 token choices store := by
  constructor
  · rintro ⟨stack, returns⟩ expired
    simp [(expired_never_returns bcrypt steady store token expired stack).1] at returns
  · intro current
    refine ⟨1, ?_⟩
    rcases getSession_outcome bcrypt steady store token current 0 with
      ⟨-, error, clock, outcome⟩ | ⟨session, -, outcome⟩
    · simp [outcome]
    · simp [outcome]

/-- A deletion returns exactly when its lookup does, because what it does with the result
always ends. -/
theorem deleteSession_returns_iff {choices : Nat → Choice} (steady : Steady choices) (store : Store)
    (token : String) :
    Returns bcrypt (deleteSession · token) choices store ↔ ¬ ExpiredAfter 2 token choices store := by
  constructor
  · rintro ⟨stack, returns⟩ expired
    simp [(expired_never_returns bcrypt steady store token expired stack).2] at returns
  · intro current
    obtain ⟨stack, returns⟩ := (getSession_returns_iff bcrypt steady store token).mpr current
    refine ⟨stack + 1, ?_⟩
    obtain ⟨outcome, found⟩ := Option.isSome_iff_exists.mp returns
    rw [alone_deleteSession, found]
    exact (clearSession_finishes token outcome.1).alone _ _ _

/-- What comes behind some calls and always ends does not decide whether the whole returns. -/
theorem returns_bind {α β : Type} (calls : Nat → Handler α) (next : α → Handler β)
    (finishes : ∀ value, (next value).Finishes) (choices : Nat → Choice) (store : Store) :
    Returns bcrypt (fun stack => calls stack >>= next) choices store ↔
      Returns bcrypt calls choices store := by
  unfold Returns
  simp only [alone_bind]
  refine exists_congr (fun stack => ?_)
  cases found : alone (perform bcrypt) (calls stack) choices store with
  | none => rfl
  | some outcome =>
    simpa using (finishes outcome.1).alone (perform bcrypt) outcome.2.2 outcome.2.1

/-- What a working lookup of a user returns: the user if there is one, and otherwise an
error, whose text depends on whether the database has taken the id as a parameter. -/
theorem getUserById_outcome {choices : Nat → Choice} (steady : Steady choices) (store : Store)
    (userId : String) : ∃ error, alone (perform bcrypt) (getUserById userId) choices store =
      some ((store.postgres.users.get? userId).elim (.error error) .ok,
        store.at (clockAfter choices store.clock 1), after 1 choices) := by
  have waited := steady.wait store 0
  unfold getUserById query
  simp only [issue_bind, alone_call, perform, steady.works 0, waited, Store.at_postgres,
    Postgres.selectUserById_store]
  cases known : store.postgres.users.get? userId with
  | none =>
    cases Postgres.selectUserById_missing known with
    | inl absent =>
      rw [absent]
      exact ⟨_, rfl⟩
    | inr rejected =>
      rw [rejected]
      exact ⟨_, rfl⟩
  | some user =>
    rw [Postgres.selectUserById_eq_some.mpr known]
    exact ⟨"", rfl⟩

section Requests

variable {choices : Nat → Choice} (steady : Steady choices) (store : Store) (token : String)
  (named : token ≠ "")

include steady named

/-- The check of a token returns exactly when its lookup does. -/
theorem validateToken_returns_iff :
    Returns bcrypt (validateToken · token) choices store ↔ ¬ ExpiredAfter 2 token choices store := by
  rw [← getSession_returns_iff bcrypt steady store token]
  simp only [validateToken, if_neg named]
  refine returns_bind bcrypt _ _ ?_ choices store
  intro found
  cases found with
  | error error => trivial
  | ok session =>
    refine (getUserById_finishes session.userId).bind ?_
    intro user
    cases user <;> trivial

/-- What the check of a token returns when it returns: an error, or the user of
the record. -/
theorem validateToken_outcome (current : ¬ ExpiredAfter 2 token choices store) (stack : Nat) :
    ((∀ session, store.redis.lookup token = some session →
          store.postgres.users.get? session.userId = none) ∧
        ∃ error outcome, alone (perform bcrypt) (validateToken (stack + 1) token) choices store =
          some (.error error, outcome)) ∨
      ∃ session user, store.redis.lookup token = some session ∧
        store.postgres.users.get? session.userId = some user ∧
        alone (perform bcrypt) (validateToken (stack + 1) token) choices store =
          some (.ok user, store.at (clockAfter choices store.clock 3), after 3 choices) := by
  simp only [validateToken, if_neg named, alone_bind]
  rcases getSession_outcome bcrypt steady store token current stack with
    ⟨absent, error, clock, outcome⟩ | ⟨session, stored, outcome⟩
  · refine Or.inl ⟨by simp [absent], "invalid or expired token", (store.at clock, after 1 choices), ?_⟩
    rw [outcome]
    rfl
  · obtain ⟨error, user⟩ := getUserById_outcome bcrypt (steady.after 2)
      (store.at (clockAfter choices store.clock 2)) session.userId
    rw [Store.at_postgres, Store.at_at, Store.at_clock, clockAfter_after, after_after] at user
    cases known : store.postgres.users.get? session.userId with
    | none =>
      refine Or.inl ⟨?_, "user not found: " ++ error,
        (store.at (clockAfter choices store.clock 3), after 3 choices), ?_⟩
      · intro other same
        obtain rfl : session = other := Option.some.inj (stored.symm.trans same)
        exact known
      · rw [known] at user
        simp only [outcome, Option.bind_some, alone_bind, user]
        rfl
    | some found =>
      refine Or.inr ⟨session, found, stored, known, ?_⟩
      rw [known] at user
      simp only [outcome, Option.bind_some, alone_bind, user]
      rfl

end Requests

/-- A record that is in time at the first reading and has a user, and is too old
at a later one, or one that is too old at once. -/
def RotationExpired (token : String) (choices : Nat → Choice) (store : Store) : Prop :=
  ∃ session, store.redis.lookup token = some session ∧
    (session.expiresAt < clockAfter choices store.clock 2 ∨
      (store.postgres.users.get? session.userId ≠ none ∧
        session.expiresAt < clockAfter choices store.clock 8))

/-- A rotation returns exactly when the record is still in time at its third
lookup. -/
theorem refreshSession_returns_iff {choices : Nat → Choice} (steady : Steady choices)
    (store : Store) (token : String) {session : Session} {user : User}
    (stored : store.redis.lookup token = some session)
    (known : store.postgres.users.get? session.userId = some user) :
    Returns bcrypt (refreshSession sessionTTL · token) choices store ↔
      ¬ ExpiredAfter 5 token choices store := by
  obtain ⟨error, user'⟩ := getUserById_outcome bcrypt (steady.after 2)
    (store.at (clockAfter choices store.clock 2)) session.userId
  rw [Store.at_postgres, known, Store.at_at, Store.at_clock, clockAfter_after, after_after] at user'
  have third (stack : Nat) (current : ¬ ExpiredAfter 2 token choices store) :
      alone (perform bcrypt) (refreshSession sessionTTL (stack + 1) token) choices store =
        (alone (perform bcrypt) (deleteSession (stack + 1) token) (after 3 choices)
          (store.at (clockAfter choices store.clock 3))).bind (fun outcome =>
            alone (perform bcrypt) (createSession sessionTTL user) outcome.2.2 outcome.2.1) := by
    rcases getSession_outcome bcrypt steady store token current stack with
      ⟨absent, -⟩ | ⟨other, same, outcome⟩
    · exact absurd stored (by simp [absent])
    · obtain rfl : session = other := Option.some.inj (stored.symm.trans same)
      simp only [refreshSession, alone_bind, outcome, Option.bind_some, user', Option.elim_some]
  have later : ExpiredAfter 2 token (after 3 choices)
      (store.at (clockAfter choices store.clock 3)) ↔ ExpiredAfter 5 token choices store := by
    simp only [ExpiredAfter, Store.at_redis, Store.at_clock, clockAfter_after]
  constructor
  · rintro ⟨stack, returns⟩ expired
    cases stack with
    | zero => simp [refreshSession, getSession] at returns
    | succ stack =>
      by_cases first : ExpiredAfter 2 token choices store
      · have never := (expired_never_returns bcrypt steady store token first (stack + 1)).1
        simp [refreshSession, alone_bind, never] at returns
      · have never := (expired_never_returns bcrypt (steady.after 3) _ token
          (later.mpr expired) (stack + 1)).2
        simp [third stack first, never] at returns
  · intro current
    have first : ¬ ExpiredAfter 2 token choices store :=
      fun expired => current (expired.mono (by omega))
    obtain ⟨stack, returns⟩ := (deleteSession_returns_iff bcrypt (steady.after 3)
      (store.at (clockAfter choices store.clock 3)) token).mpr (fun expired => current (later.mp expired))
    cases stack with
    | zero => simp [deleteSession] at returns
    | succ stack =>
      refine ⟨stack + 1, ?_⟩
      obtain ⟨outcome, found⟩ := Option.isSome_iff_exists.mp returns
      rw [third stack first, found]
      exact (createSession_finishes sessionTTL user).alone _ _ _

/-- A validation returns exactly when its lookup does, or at once for an empty token. -/
theorem validate_returns_iff {choices : Nat → Choice} (steady : Steady choices) (store : Store)
    (connId token : String) :
    Returns bcrypt (handleConnection bcrypt sessionTTL · ⟨connId, .validate token⟩) choices store ↔
      token = "" ∨ ¬ ExpiredAfter 2 token choices store := by
  change Returns bcrypt (handleValidate · token) choices store ↔ _
  by_cases named : token = ""
  · refine iff_of_true ⟨0, ?_⟩ (Or.inl named)
    simp [handleValidate, named]
  · rw [or_iff_right named, ← validateToken_returns_iff bcrypt steady store token named]
    simp only [handleValidate, if_neg named]
    refine returns_bind bcrypt _ _ ?_ choices store
    intro user
    cases user <;> trivial

/-- A logout returns exactly when its lookup does, or at once for an empty token. -/
theorem logout_returns_iff {choices : Nat → Choice} (steady : Steady choices) (store : Store)
    (connId token : String) :
    Returns bcrypt (handleConnection bcrypt sessionTTL · ⟨connId, .logout token⟩) choices store ↔
      token = "" ∨ ¬ ExpiredAfter 2 token choices store := by
  change Returns bcrypt (handleLogout · token) choices store ↔ _
  by_cases named : token = ""
  · refine iff_of_true ⟨0, ?_⟩ (Or.inl named)
    simp [handleLogout, named]
  · rw [or_iff_right named, ← deleteSession_returns_iff bcrypt steady store token]
    simp only [handleLogout, logout, if_neg named]
    refine (returns_bind bcrypt _ _ ?_ choices store).trans
      (returns_bind bcrypt _ _ (fun _ => finishes_answer _) choices store)
    intro result
    cases result <;> trivial

/-- A refresh returns exactly when the record is in time at its last lookup, or
the check before it has refused the token. -/
theorem refresh_returns_iff {choices : Nat → Choice} (steady : Steady choices) (store : Store)
    (connId token : String) :
    Returns bcrypt (handleConnection bcrypt sessionTTL · ⟨connId, .refresh token⟩) choices store ↔
      token = "" ∨ ¬ RotationExpired token choices store := by
  change Returns bcrypt (handleRefresh sessionTTL · token) choices store ↔ _
  by_cases named : token = ""
  · refine iff_of_true ⟨0, ?_⟩ (Or.inl named)
    simp [handleRefresh, named]
  rw [or_iff_right named]
  by_cases first : ExpiredAfter 2 token choices store
  · apply iff_of_false
    · rintro ⟨stack, returns⟩
      have never : ¬ Returns bcrypt (validateToken · token) choices store :=
        fun checks => (validateToken_returns_iff bcrypt steady store token named).mp checks first
      refine never ⟨stack, ?_⟩
      simp only [handleRefresh, if_neg named, alone_bind] at returns
      cases found : alone (perform bcrypt) (validateToken stack token) choices store with
      | none => simp [found] at returns
      | some outcome => rfl
    · obtain ⟨session, stored, late⟩ := first
      exact fun inTime => inTime ⟨session, stored, Or.inl late⟩
  · have outcome (stack : Nat) := validateToken_outcome bcrypt steady store token named first stack
    rcases outcome 0 with ⟨unknown, error, rest, refused⟩ | ⟨session, user, stored, known, -⟩
    · refine iff_of_true ⟨1, ?_⟩ ?_
      · simp [handleRefresh, if_neg named, alone_bind, refused]
      · rintro ⟨session, stored, late | ⟨known, -⟩⟩
        · exact first ⟨session, stored, late⟩
        · exact known (unknown session stored)
    · have checked (stack : Nat) : alone (perform bcrypt) (validateToken (stack + 1) token) choices
          store = some (.ok user, store.at (clockAfter choices store.clock 3), after 3 choices) := by
        rcases outcome stack with ⟨unknown, -⟩ | ⟨other, found, same, knows, checked⟩
        · exact absurd (unknown session stored) (by simp [known])
        · obtain rfl : session = other := Option.some.inj (stored.symm.trans same)
          obtain rfl : user = found := Option.some.inj (known.symm.trans knows)
          exact checked
      have rotates := refreshSession_returns_iff bcrypt sessionTTL (steady.after 3)
        (store.at (clockAfter choices store.clock 3)) token stored known
      have later : ExpiredAfter 5 token (after 3 choices)
          (store.at (clockAfter choices store.clock 3)) ↔ RotationExpired token choices store := by
        simp only [ExpiredAfter, RotationExpired, Store.at_redis, Store.at_clock, clockAfter_after]
        refine exists_congr (fun other => and_congr_right (fun same => ?_))
        obtain rfl : session = other := Option.some.inj (stored.symm.trans same)
        have inTime : ¬ session.expiresAt < clockAfter choices store.clock 2 :=
          fun late => first ⟨session, stored, late⟩
        simp [inTime, known]
      rw [← later, ← rotates]
      have finishes (result : Except String Session) : (sendRefreshed result).Finishes := by
        cases result <;> trivial
      rw [← returns_bind bcrypt _ _ finishes]
      constructor
      · rintro ⟨stack, returns⟩
        cases stack with
        | zero =>
          simp only [handleRefresh, if_neg named] at returns
          simp [validateToken, named, getSession] at returns
        | succ stack =>
          refine ⟨stack + 1, ?_⟩
          simp only [handleRefresh, if_neg named] at returns
          rw [alone_bind, checked stack, Option.bind_some] at returns
          exact returns
      · rintro ⟨stack, returns⟩
        cases stack with
        | zero => simp [refreshSession, getSession] at returns
        | succ stack =>
          refine ⟨stack + 1, ?_⟩
          simp only [handleRefresh, if_neg named]
          rw [alone_bind, checked stack, Option.bind_some]
          exact returns

/-- The two calls and the requests built on them return exactly when the lookups they make
find no expired record. The choices are assumed to be steady, so that no store fails and Redis
keeps what it has; each part is the lemma for its call. -/
theorem session_calls_return_iff {choices : Nat → Choice} (steady : Steady choices) (store : Store)
    (connId token : String) :
    (Returns bcrypt (getSession · token) choices store ↔ ¬ ExpiredAfter 2 token choices store) ∧
      (Returns bcrypt (deleteSession · token) choices store ↔
        ¬ ExpiredAfter 2 token choices store) ∧
      (Returns bcrypt (handleConnection bcrypt sessionTTL · ⟨connId, .validate token⟩) choices store ↔
        token = "" ∨ ¬ ExpiredAfter 2 token choices store) ∧
      (Returns bcrypt (handleConnection bcrypt sessionTTL · ⟨connId, .logout token⟩) choices store ↔
        token = "" ∨ ¬ ExpiredAfter 2 token choices store) ∧
      (Returns bcrypt (handleConnection bcrypt sessionTTL · ⟨connId, .refresh token⟩) choices store ↔
        token = "" ∨ ¬ RotationExpired token choices store) :=
  ⟨getSession_returns_iff bcrypt steady store token,
    deleteSession_returns_iff bcrypt steady store token,
    validate_returns_iff bcrypt sessionTTL steady store connId token,
    logout_returns_iff bcrypt sessionTTL steady store connId token,
    refresh_returns_iff bcrypt sessionTTL steady store connId token⟩

/-- One nanosecond for each command, which the stores do not notice. -/
def steadyTicks : Nat → Choice := fun _ => { tick firstToken with redisElapsed := 0 }

theorem steadyTicks_steady : Steady steadyTicks := ⟨fun _ => rfl, fun _ => rfl⟩

/-- A server configured with `SESSION_TTL=0`, which makes sessions that have expired as soon
as the clock moves. -/
def noTTL : SessionTTL := ⟨0, by decide⟩

/-- The stores after a login at a server with the default `SESSION_TTL`. -/
def dayStore : Store :=
  ((alone (perform plainBcrypt) (handleConnection plainBcrypt defaultTTL 0
    ⟨"c1", .login "alice" "secret"⟩) steadyTicks aliceOnly).map (·.2.1)).getD aliceOnly

/-- The login has left a record that expires a day later. -/
theorem dayStore_lookup : dayStore.redis.lookup firstToken.val =
    some { token := firstToken.val, userId := "u1", username := "alice"
           email := "alice@example.com", expiresAt := 86400000000003, createdAt := 4 } := by
  decide

/-- The session of that login is live, so its token can be looked up, deleted, validated,
logged out and exchanged, and each of these calls returns. -/
theorem first_token_calls_return :
    Returns plainBcrypt (getSession · firstToken.val) steadyTicks dayStore ∧
      Returns plainBcrypt (deleteSession · firstToken.val) steadyTicks dayStore ∧
      ∀ operation ∈ [Operation.validate firstToken.val, .logout firstToken.val,
        .refresh firstToken.val], Returns plainBcrypt (handleConnection plainBcrypt defaultTTL ·
          ⟨"c1", operation⟩) steadyTicks dayStore := by
  obtain ⟨lookup, deletion, validates, logsOut, exchanges⟩ :=
    session_calls_return_iff plainBcrypt defaultTTL steadyTicks_steady dayStore "c1" firstToken.val
  have live : ¬ ExpiredAfter 2 firstToken.val steadyTicks dayStore := by
    rintro ⟨session, stored, expired⟩
    obtain rfl := Option.some.inj (dayStore_lookup.symm.trans stored)
    exact absurd expired (by decide)
  have exchangeable : ¬ RotationExpired firstToken.val steadyTicks dayStore := by
    rintro ⟨session, stored, expired⟩
    obtain rfl := Option.some.inj (dayStore_lookup.symm.trans stored)
    exact absurd expired (by decide)
  refine ⟨lookup.mpr live, deletion.mpr live, ?_⟩
  intro operation asked
  simp only [List.mem_cons, List.not_mem_nil, or_false] at asked
  rcases asked with rfl | rfl | rfl
  · exact validates.mpr (Or.inr live)
  · exact logsOut.mpr (Or.inr live)
  · exact exchanges.mpr (Or.inr exchangeable)

/-- The stores after a login at a server configured with `SESSION_TTL=0`. -/
def noTTLStore : Store :=
  ((alone (perform plainBcrypt) (handleConnection plainBcrypt noTTL 0
    ⟨"c1", .login "alice" "secret"⟩) steadyTicks aliceOnly).map (·.2.1)).getD aliceOnly

/-- The login has left a record that expired when it was created. -/
theorem noTTLStore_lookup : noTTLStore.redis.lookup firstToken.val =
    some { token := firstToken.val, userId := "u1", username := "alice"
           email := "alice@example.com", expiresAt := 3, createdAt := 4 } := by
  decide

/-- The token of that login can be neither checked nor deleted nor exchanged. -/
theorem noTTL_never_returns :
    ¬ Returns plainBcrypt (getSession · firstToken.val) steadyTicks noTTLStore ∧
      ¬ Returns plainBcrypt (deleteSession · firstToken.val) steadyTicks noTTLStore ∧
      ∀ operation ∈ [Operation.validate firstToken.val, .logout firstToken.val,
        .refresh firstToken.val], ¬ Returns plainBcrypt (handleConnection plainBcrypt noTTL ·
          ⟨"c1", operation⟩) steadyTicks noTTLStore := by
  have expired : ExpiredAfter 2 firstToken.val steadyTicks noTTLStore :=
    ⟨_, noTTLStore_lookup, by decide⟩
  have rotation : RotationExpired firstToken.val steadyTicks noTTLStore :=
    ⟨_, noTTLStore_lookup, Or.inl (by decide)⟩
  have named : firstToken.val ≠ "" := by decide
  refine ⟨?_, ?_, ?_⟩
  · rw [getSession_returns_iff plainBcrypt steadyTicks_steady, not_not]
    exact expired
  · rw [deleteSession_returns_iff plainBcrypt steadyTicks_steady, not_not]
    exact expired
  · intro operation asked
    simp only [List.mem_cons, List.not_mem_nil, or_false] at asked
    rcases asked with rfl | rfl | rfl
    · rw [validate_returns_iff plainBcrypt noTTL steadyTicks_steady]
      exact fun returns => returns.elim named (fun current => current expired)
    · rw [logout_returns_iff plainBcrypt noTTL steadyTicks_steady]
      exact fun returns => returns.elim named (fun current => current expired)
    · rw [refresh_returns_iff plainBcrypt noTTL steadyTicks_steady]
      exact fun returns => returns.elim named (fun current => current rotation)

end ShoppingCS.Auth
