import ShoppingCS.Auth.FailedRefresh

/-!
# What a creation of a session leaves behind

A creation stores the session, lists it, renews the list and writes the row. The first two
can fail it, and the first is not undone when the second fails: the session that nobody is
told about stays, and no list leads to it. The other two are only logged. Where the list is
not renewed, it may elapse before the session does, and with it the only way to revoke it.
-/

namespace ShoppingCS.Auth

open Interleaving Program Storage

/-- The clocks of the server and of Redis advance alike. -/
def Alike (choices : Nat → Choice) : Prop :=
  ∀ index, (choices index).redisElapsed = (choices index).elapsed

/-- The store some time later, when nothing has been executed in between. Both clocks have
advanced by the same time. -/
def Store.idle (store : Store) (elapsed : Nat) : Store :=
  { store with redis := store.redis.wait elapsed, clock := store.clock + elapsed }

/-- Redis and the session table hold exactly what they held. -/
structure Unchanged (before later : Store) : Prop where
  redis : ∀ key, later.redis.table.get? key = before.redis.table.get? key
  rows : later.postgres.userSessions = before.postgres.userSessions

/-- Until the session expires, a lookup accepts it and its user's list has it. -/
structure Promised (bcrypt : Bcrypt) (session : Session) (store : Store) : Prop where
  accepted : ∀ stack later, Alike later → (later 0).failure = none →
    (store.lapse later 2).clock ≤ session.expiresAt →
      ∃ last, alone (perform bcrypt) (getSession (stack + 1) session.token) later store =
        some (.ok session, last, after 2 later)
  listed : ∀ elapsed, (store.idle elapsed).clock ≤ session.expiresAt →
    session.token ∈ (store.idle elapsed).redis.membersOf session.userId

/-- What a creation leaves behind is what its result says. -/
def KeepsPromise (bcrypt : Bcrypt) (before : Store) : Except String Session → Store → Prop
  | .error _, later => Unchanged before later
  | .ok session, later => Promised bcrypt session later

section Clocks

variable {choices : Nat → Choice} (alike : Alike choices) (store : Store)

include alike

/-- Over any number of commands both clocks advance by the same time, because each choice of a
lapse is applied to both. -/
theorem Alike.lapse (count : Nat) :
    (store.lapse choices count).redis.clock - store.redis.clock =
      (store.lapse choices count).clock - store.clock := by
  induction count with
  | zero => simp [Store.lapse]
  | succ count inductionHypothesis =>
    have same := alike count
    simp only [Store.lapse, Store.wait, Redis.wait]
    omega

end Clocks

/-- The clock of the server does not run backwards, since each step adds a time that is not
negative. -/
theorem lapse_clock_mono (store : Store) (choices : Nat → Choice) {first second : Nat}
    (order : first ≤ second) : (store.lapse choices first).clock ≤ (store.lapse choices second).clock := by
  induction order with
  | refl => exact Int.le_refl _
  | step _ inductionHypothesis =>
    simp only [Store.lapse, Store.wait]
    omega

section Creation

variable (sessionTTL : SessionTTL) (user : User) (choices : Nat → Choice) (store : Store)

/-- The session that a creation makes of its token and its readings of the clock. -/
def newSession (token : String) : Session where
  token := token
  userId := user.id
  username := user.username
  email := user.email
  expiresAt := (store.lapse choices 2).clock + sessionTTL.val * 1000000000
  createdAt := (store.lapse choices 3).clock

/-- What Redis holds of a new session once it is stored: its encoding, with the deadline
counted from the fourth command on. -/
def newEntry (token : String) : Entry Key Value :=
  (newSession sessionTTL user choices store token).entry
    ((store.lapse choices 4).redis.deadlineOf sessionTTL.val)

/-- The deadline of the list that the new session is added to, if it has one. -/
def listDeadline : Option Int :=
  ((store.lapse choices 5).redis.find? (.userSessions user.id)).bind (·.deadline)

/-- The instant of the clock of Redis at which a session expires. -/
def expiryOf (session : Session) : Int :=
  (store.redis.clock + (session.expiresAt - store.clock)) / 1000000

/-- The addition to the list fails: the command does, or the key holds a text. -/
def AddFails : Prop :=
  (choices 4).failure ≠ none ∨ (store.lapse choices 5).redis.HoldsText user.id

/-- The list lasts as long as the session: it is renewed in time and for some time, or its
old deadline is late enough. Nothing is asked if the creation takes longer than that. -/
def ListOutlasts (token : String) : Prop :=
  (newSession sessionTTL user choices store token).expiresAt < (store.lapse choices 7).clock ∨
    ((choices 5).failure = none ∧ 0 < sessionTTL.val ∧
      ∀ deadline ∈ listDeadline user choices store, (store.lapse choices 6).redis.now ≤ deadline) ∨
    ((choices 5).failure ≠ none ∧
      ∀ deadline ∈ listDeadline user choices store,
        expiryOf store (newSession sessionTTL user choices store token) ≤ deadline)

/-- When a creation leaves behind what it says: there is no token, the session cannot be
stored or was there already, or it is added to a list that lasts. -/
def CreationHolds : Prop :=
  (∃ error, (choices 0).token = .error error) ∨
    ∃ drawn : GeneratedToken, (choices 0).token = .ok drawn ∧
      ((choices 3).failure ≠ none ∨
        (AddFails user choices store ∧ store.redis.table.get? (.session drawn.val) =
          some (newEntry sessionTTL user choices store drawn.val)) ∨
        (¬ AddFails user choices store ∧ ListOutlasts sessionTTL user choices store drawn.val))

end Creation

namespace Redis

/-- The members that a stored list has while it lasts. -/
theorem membersOf_of_stored {redis : Redis} {userId : String} {tokens : List String}
    {deadline : Option Int} (stored : redis.table.get? (.userSessions userId) =
      some ⟨.userSessions userId, .members tokens, deadline⟩)
    (lasts : ∀ instant ∈ deadline, redis.now ≤ instant) : redis.membersOf userId = tokens := by
  have found : redis.find? (.userSessions userId) =
      some ⟨.userSessions userId, .members tokens, deadline⟩ := find?_eq_some.mpr ⟨stored, lasts⟩
  simp [membersOf, found]

/-- A list that is not there has no members, which is how the command that reads it answers.
-/
theorem membersOf_of_absent {redis : Redis} {userId : String}
    (absent : redis.find? (.userSessions userId) = none) : redis.membersOf userId = [] := by
  simp [membersOf, absent]

/-- An addition that finds no text lists the token under the deadline of the list. -/
theorem sAdd_lists {redis : Redis} {userId : String} (untexted : ¬ redis.HoldsText userId)
    (token : String) :
    ∃ tokens, token ∈ tokens ∧
      (redis.execute (.sAdd (.userSessions userId) token)).2.table.get? (.userSessions userId) =
        some ⟨.userSessions userId, .members tokens,
          (redis.find? (.userSessions userId)).bind (·.deadline)⟩ := by
  cases found : redis.find? (.userSessions userId) with
  | none =>
    apply Exists.intro [token]
    constructor
    · simp
    · simp only [execute, found]
      rw [get?_put, if_pos rfl]
      rfl
  | some list =>
    obtain ⟨key, value, deadline⟩ := list
    cases value with
    | string text => exact absurd ⟨_, text, found, rfl⟩ untexted
    | members tokens =>
      apply Exists.intro (if token ∈ tokens then tokens else tokens ++ [token])
      constructor
      · split <;> simp [*]
      · simp only [execute, found]
        rw [get?_put, if_pos rfl]
        rfl

/-- A renewal of an entry that has elapsed does nothing. -/
theorem expire_elapsed {redis : Redis} {key : Key} {entry : Entry Key Value}
    (stored : redis.table.get? key = some entry) (elapsed : ¬ entry.LiveAt redis.now)
    (seconds : Int) : (redis.execute (.expire key seconds)).2 = redis := by
  have absent : redis.find? key = none := by
    rw [find?, ExpiringTable.find?, stored, Option.filter_some_neg]
    simpa using elapsed
  simp [execute, absent]

/-- A renewal in time gives the entry a new deadline, or removes it at once. -/
theorem expire_live {redis : Redis} {key : Key} {entry : Entry Key Value}
    (stored : redis.table.get? key = some entry) (live : entry.LiveAt redis.now) (seconds : Int) :
    (redis.execute (.expire key seconds)).2.table.get? key =
      if 0 < seconds then some ⟨key, entry.value, some (redis.now + seconds * 1000)⟩ else none := by
  have found : redis.find? key = some entry := find?_eq_some.mpr ⟨stored, live⟩
  simp only [execute, found]
  split
  · rw [get?_put, if_pos rfl, deadlineOf, if_pos (by assumption)]
  · rw [get?_remove, if_pos rfl]

end Redis

section Listing

variable {store : Store} {session : Session}

theorem idle_now (store : Store) (elapsed : Nat) :
    (store.idle elapsed).redis.now = (store.redis.clock + elapsed) / 1000000 := rfl

/-- A session that has not reached its expiry by the server's clock has not been dropped by
Redis, which counts in milliseconds and drops later. -/
theorem expiryOf_idle {elapsed : Nat} (inTime : (store.idle elapsed).clock ≤ session.expiresAt) :
    (store.idle elapsed).redis.now ≤ expiryOf store session := by
  rw [idle_now, expiryOf]
  have bounded : store.clock + elapsed ≤ session.expiresAt := inTime
  omega

/-- A session is in a stored list until it expires, if the list has no earlier deadline. -/
theorem listed_iff {tokens : List String} {deadline : Option Int}
    (stored : store.redis.table.get? (.userSessions session.userId) =
      some ⟨.userSessions session.userId, .members tokens, deadline⟩)
    (inside : session.token ∈ tokens) :
    (∀ elapsed, (store.idle elapsed).clock ≤ session.expiresAt →
        session.token ∈ (store.idle elapsed).redis.membersOf session.userId) ↔
      session.expiresAt < store.clock ∨ ∀ instant ∈ deadline, expiryOf store session ≤ instant := by
  constructor
  · intro listed
    by_cases expired : session.expiresAt < store.clock
    · exact Or.inl expired
    · right
      intro instant held
      have reached : ((session.expiresAt - store.clock).toNat : Int) = session.expiresAt - store.clock :=
        Int.toNat_of_nonneg (by omega)
      have last := listed (session.expiresAt - store.clock).toNat (by
        simp only [Store.idle]
        omega)
      obtain ⟨list, others, found, value, member⟩ := Redis.mem_membersOf last
      obtain ⟨there, live⟩ := Redis.find?_eq_some.mp found
      obtain rfl := Option.some.inj (stored.symm.trans there)
      have lasts := live instant held
      rw [idle_now, reached] at lasts
      exact lasts
  · intro lasts elapsed inTime
    have current : ∀ instant ∈ deadline, (store.idle elapsed).redis.now ≤ instant := by
      intro instant held
      cases lasts with
      | inl expired =>
        have bounded : store.clock + elapsed ≤ session.expiresAt := inTime
        omega
      | inr late => exact Int.le_trans (expiryOf_idle inTime) (late instant held)
    rw [@Redis.membersOf_of_stored (store.idle elapsed).redis _ _ _ stored current]
    exact inside

/-- It is not in a list that is not stored. -/
theorem listed_absent (absent : store.redis.table.get? (.userSessions session.userId) = none) :
    (∀ elapsed, (store.idle elapsed).clock ≤ session.expiresAt →
        session.token ∈ (store.idle elapsed).redis.membersOf session.userId) ↔
      session.expiresAt < store.clock := by
  constructor
  · intro listed
    by_contra current
    have now := listed 0 (by
      simp only [Store.idle]
      omega)
    have unfound : (store.idle 0).redis.find? (.userSessions session.userId) = none :=
      ExpiringTable.find?_absent absent _
    rw [Redis.membersOf_of_absent unfound] at now
    simp at now
  · intro expired elapsed inTime
    have bounded : store.clock + elapsed ≤ session.expiresAt := inTime
    omega

end Listing

section Commands

variable (bcrypt : Bcrypt) (sessionTTL : SessionTTL) (choices : Nat → Choice) (store : Store)
  (session : Session)

/-- The store after the first of the commands, by which the session has been written under its
key. -/
def afterSet : Store :=
  (perform bcrypt (.redis (.set (.session session.token) (.session session) sessionTTL.val))
    (choices 0) store).2

/-- The store after the second command, by which the token has been added to the list of the
user. -/
def afterAdd : Store :=
  (perform bcrypt (.redis (.sAdd (.userSessions session.userId) session.token)) (choices 1)
    (afterSet bcrypt sessionTTL choices store session)).2

/-- The store after the third command, by which the lifetime of the list has been renewed. -/
def afterExpire : Store :=
  (perform bcrypt (.redis (.expire (.userSessions session.userId) sessionTTL.val)) (choices 2)
    (afterAdd bcrypt sessionTTL choices store session)).2

/-- The store after the row has been written, or not. -/
def afterInsert : Store :=
  (perform bcrypt (.postgres (.insertSession
    { userId := session.userId, sessionToken := session.token, expiresAt := session.expiresAt }))
    (choices 3) (afterExpire bcrypt sessionTTL choices store session)).2

/-- Storing the session changes the value under its key and leaves every other key, the lists
among them. -/
theorem afterSet_table (works : (choices 0).failure = none) (key : Key) :
    (afterSet bcrypt sessionTTL choices store session).redis.table.get? key =
      if Key.session session.token = key then
        some (session.entry ((store.lapse choices 1).redis.deadlineOf sessionTTL.val))
      else store.redis.table.get? key := by
  simp only [afterSet, perform, works, Redis.execute]
  exact Redis.get?_put _ _ _ _ _

theorem afterSet_clock : (afterSet bcrypt sessionTTL choices store session).redis.clock =
    (store.lapse choices 1).redis.clock := perform_redisClock bcrypt _ _ _

/-- The addition finds the list as it was in the beginning. -/
theorem afterSet_find (works : (choices 0).failure = none) :
    ((afterSet bcrypt sessionTTL choices store session).wait (choices 1)).redis.find?
        (.userSessions session.userId) =
      (store.lapse choices 2).redis.find? (.userSessions session.userId) := by
  apply Redis.find?_congr
  · have stored := afterSet_table bcrypt sessionTTL choices store session works
      (.userSessions session.userId)
    rw [if_neg (by simp)] at stored
    exact stored
  · exact congrArg (· + ((choices 1).redisElapsed : Int))
      (afterSet_clock bcrypt sessionTTL choices store session)

/-- The addition to the list fails, because the command does or because a text lies under the
user's key. Then the creation gives up with the session already stored. -/
def Unlistable : Prop :=
  (choices 1).failure ≠ none ∨ (store.lapse choices 2).redis.HoldsText session.userId

/-- If the session cannot be stored, the creation ends there. -/
theorem keepSession_unstored (fails : (choices 0).failure ≠ none) :
    ∃ error, alone (perform bcrypt) (keepSession sessionTTL session) choices store =
      some (.error error, store.lapse choices 1, after 1 choices) := by
  obtain ⟨error, failing⟩ := Option.ne_none_iff_exists'.mp fails
  apply Exists.intro ("failed to store session in Redis: " ++ error)
  unfold keepSession askRedis
  simp only [issue_bind, alone_call, perform, failing]
  rfl

/-- The addition fails for the same reasons after the session has been stored. -/
theorem afterSet_unlistable (works : (choices 0).failure = none) :
    Unlistable choices store session ↔ (choices 1).failure ≠ none ∨
      ((afterSet bcrypt sessionTTL choices store session).wait (choices 1)).redis.HoldsText
        session.userId := by
  unfold Unlistable Redis.HoldsText
  rw [afterSet_find bcrypt sessionTTL choices store session works]

/-- `CreateSession` after the session has been stored, as a program of its own: the two
commands on the list and the row. -/
def listSession : Handler (Except String Session) := do
  match ← askRedis (.sAdd (.userSessions session.userId) session.token) with
  | .error error => pure (.error ("failed to add session to user set: " ++ error))
  | .ok _ => do
    let _ ← askRedis (.expire (.userSessions session.userId) sessionTTL.val)
    let _ ← query (.insertSession
      { userId := session.userId, sessionToken := session.token, expiresAt := session.expiresAt })
    pure (.ok session)

/-- Once the session is stored the rest runs from the store after the first command. This
peels that command off. -/
theorem keepSession_stored (works : (choices 0).failure = none) :
    alone (perform bcrypt) (keepSession sessionTTL session) choices store =
      alone (perform bcrypt) (listSession sessionTTL session) (after 1 choices)
        (afterSet bcrypt sessionTTL choices store session) := by
  have stored : (perform bcrypt (.redis (.set (.session session.token) (.session session)
      sessionTTL.val)) (choices 0) store).1 = .ok () := by
    simp [perform, works, Redis.execute]
  unfold keepSession askRedis
  rw [issue_bind, alone_call, stored]
  rfl

/-- If it cannot be listed, the creation ends with the session stored. -/
theorem keepSession_unlisted (works : (choices 0).failure = none)
    (fails : Unlistable choices store session) :
    ∃ error, alone (perform bcrypt) (keepSession sessionTTL session) choices store =
        some (.error error, (afterSet bcrypt sessionTTL choices store session).wait (choices 1),
          after 2 choices) := by
  rw [keepSession_stored bcrypt sessionTTL choices store session works]
  rw [afterSet_unlistable bcrypt sessionTTL choices store session works] at fails
  unfold listSession askRedis
  rw [issue_bind, alone_call]
  obtain ⟨done, -, reached, untexted⟩ | ⟨error, refused, -⟩ := perform_sAdd bcrypt (choices 1)
    (afterSet bcrypt sessionTTL choices store session) session.userId session.token
  · exact absurd fails (by simp [reached, untexted])
  · apply Exists.intro ("failed to add session to user set: " ++ error)
    rw [after_apply, refused]
    rfl

/-- Otherwise the creation ends with the session, whatever becomes of the renewal and of the
row, whose errors are only logged. -/
theorem keepSession_kept (works : (choices 0).failure = none)
    (listable : ¬ Unlistable choices store session) :
    alone (perform bcrypt) (keepSession sessionTTL session) choices store =
      some (.ok session, afterInsert bcrypt sessionTTL choices store session, after 4 choices) := by
  rw [keepSession_stored bcrypt sessionTTL choices store session works]
  rw [afterSet_unlistable bcrypt sessionTTL choices store session works] at listable
  unfold listSession askRedis
  rw [issue_bind, alone_call]
  obtain ⟨done, added, -⟩ | ⟨error, -, why⟩ := perform_sAdd bcrypt (choices 1)
    (afterSet bcrypt sessionTTL choices store session) session.userId session.token
  · rw [after_apply, added]
    rfl
  · exact absurd why listable

/-- In the end the key of the session holds what has been stored. -/
theorem afterInsert_session (works : (choices 0).failure = none) :
    (afterInsert bcrypt sessionTTL choices store session).redis.table.get? (.session session.token) =
      some (session.entry ((store.lapse choices 1).redis.deadlineOf sessionTTL.val)) := by
  have stored := afterSet_table bcrypt sessionTTL choices store session works (.session session.token)
  rw [if_pos rfl] at stored
  rw [afterInsert, perform_postgres_redis, afterExpire,
    perform_redis_other bcrypt _ (by simp [RedisCommand.key]), afterAdd,
    perform_redis_other bcrypt _ (by simp [RedisCommand.key]), stored]

/-- The clocks in the end are those after four lapses, because no command sets a clock. -/
theorem afterInsert_clock :
    (afterInsert bcrypt sessionTTL choices store session).clock = (store.lapse choices 4).clock ∧
      (afterInsert bcrypt sessionTTL choices store session).redis.clock =
        (store.lapse choices 4).redis.clock := by
  simp only [afterInsert, afterExpire, afterAdd, afterSet, perform_clock, perform_redisClock]
  exact ⟨rfl, rfl⟩

/-- The list is found with the deadline it has always had, if it has one. -/
def foundDeadline : Option Int :=
  ((store.lapse choices 2).redis.find? (.userSessions session.userId)).bind (·.deadline)

/-- After the addition the list of the user has the token among its members, and its deadline
is as before. -/
theorem afterAdd_list (works : (choices 0).failure = none)
    (listable : ¬ Unlistable choices store session) :
    ∃ tokens, session.token ∈ tokens ∧
      (afterAdd bcrypt sessionTTL choices store session).redis.table.get?
          (.userSessions session.userId) =
        some ⟨.userSessions session.userId, .members tokens, foundDeadline choices store session⟩ := by
  rw [afterSet_unlistable bcrypt sessionTTL choices store session works] at listable
  obtain ⟨reached, untexted⟩ := not_or.mp listable
  obtain ⟨tokens, inside, stored⟩ := Redis.sAdd_lists untexted session.token
  apply Exists.intro tokens
  constructor
  · exact inside
  · rw [afterSet_find bcrypt sessionTTL choices store session works] at stored
    simp only [afterAdd, perform, not_not.mp reached]
    exact stored

/-- A renewal that fails leaves the list as it is. -/
theorem afterInsert_unrenewed (fails : (choices 2).failure ≠ none) (key : Key) :
    (afterInsert bcrypt sessionTTL choices store session).redis.table.get? key =
      (afterAdd bcrypt sessionTTL choices store session).redis.table.get? key := by
  obtain ⟨error, failing⟩ := Option.ne_none_iff_exists'.mp fails
  rw [afterInsert, perform_postgres_redis]
  simp only [afterExpire, perform, failing]
  rfl

/-- A renewal that works meets the list at this instant. -/
theorem afterInsert_renewed (works : (choices 2).failure = none) (key : Key) :
    (afterInsert bcrypt sessionTTL choices store session).redis.table.get? key =
      (((afterAdd bcrypt sessionTTL choices store session).wait (choices 2)).redis.execute
        (.expire (.userSessions session.userId) sessionTTL.val)).2.table.get? key := by
  rw [afterInsert, perform_postgres_redis]
  simp only [afterExpire, perform, works]

/-- The instant at which the renewal counts its lifetime from, by Redis's clock in
milliseconds. -/
theorem afterAdd_now :
    ((afterAdd bcrypt sessionTTL choices store session).wait (choices 2)).redis.now =
      (store.lapse choices 3).redis.now := by
  have clock : (afterAdd bcrypt sessionTTL choices store session).redis.clock =
      (store.lapse choices 2).redis.clock := by
    simp only [afterAdd, afterSet, perform_redisClock]
    rfl
  simp only [Redis.now, Store.lapse, Store.wait, Redis.wait] at clock ⊢
  rw [clock]

/-- Where the clocks advance alike, a session expires at the same instant for both. -/
theorem expiryOf_afterInsert (alike : Alike choices) :
    expiryOf (afterInsert bcrypt sessionTTL choices store session) session =
      expiryOf store session := by
  obtain ⟨clock, redisClock⟩ := afterInsert_clock bcrypt sessionTTL choices store session
  have same := alike.lapse store 4
  unfold expiryOf
  rw [clock, redisClock]
  congr 1
  omega

/-- The clock of Redis does not run backwards either, by the same induction as for the
server's. -/
theorem lapse_redis_mono {first second : Nat} (order : first ≤ second) :
    (store.lapse choices first).redis.clock ≤ (store.lapse choices second).redis.clock := by
  induction order with
  | refl => exact Int.le_refl _
  | step _ inductionHypothesis =>
    simp only [Store.lapse, Store.wait, Redis.wait]
    omega

/-- The list lasts as long as the session: the session has expired already, or the renewal has
worked before the list's old deadline ran out, or it has failed and the old deadline is late
enough. -/
def RenewedInTime : Prop :=
  session.expiresAt < (store.lapse choices 4).clock ∨
    ((choices 2).failure = none ∧ 0 < sessionTTL.val ∧
      ∀ deadline ∈ foundDeadline choices store session,
        (store.lapse choices 3).redis.now ≤ deadline) ∨
    ((choices 2).failure ≠ none ∧
      ∀ deadline ∈ foundDeadline choices store session, expiryOf store session ≤ deadline)

/-- In the end the session is listed until it expires exactly if the list lasts. -/
theorem afterInsert_listed_iff (alike : Alike choices)
    (started : session.expiresAt ≤ store.clock + sessionTTL.val * 1000000000)
    (works : (choices 0).failure = none) (listable : ¬ Unlistable choices store session) :
    (∀ elapsed, ((afterInsert bcrypt sessionTTL choices store session).idle elapsed).clock ≤
        session.expiresAt → session.token ∈
          ((afterInsert bcrypt sessionTTL choices store session).idle elapsed).redis.membersOf
            session.userId) ↔ RenewedInTime sessionTTL choices store session := by
  obtain ⟨tokens, inside, added⟩ := afterAdd_list bcrypt sessionTTL choices store session works listable
  obtain ⟨clock, redisClock⟩ := afterInsert_clock bcrypt sessionTTL choices store session
  have expiry := expiryOf_afterInsert bcrypt sessionTTL choices store session alike
  have begun : store.redis.clock ≤ (store.lapse choices 3).redis.clock :=
    lapse_redis_mono choices store (Nat.zero_le 3)
  have order := lapse_redis_mono choices store (show 3 ≤ 4 by decide)
  have same := alike.lapse store 3
  have last := alike.lapse store 4
  unfold RenewedInTime
  by_cases renews : (choices 2).failure = none
  · have ended := afterInsert_renewed bcrypt sessionTTL choices store session renews
      (.userSessions session.userId)
    have now := afterAdd_now bcrypt sessionTTL choices store session
    have waited : ((afterAdd bcrypt sessionTTL choices store session).wait (choices 2)).redis.table.get?
        (.userSessions session.userId) = some ⟨.userSessions session.userId, .members tokens,
          foundDeadline choices store session⟩ := added
    simp only [renews, true_and, ne_eq, not_true_eq_false, false_and, or_false]
    by_cases live : ∀ deadline ∈ foundDeadline choices store session,
        (store.lapse choices 3).redis.now ≤ deadline
    · rw [Redis.expire_live waited (now.symm ▸ live), now] at ended
      by_cases positive : 0 < sessionTTL.val
      · rw [if_pos positive] at ended
        rw [listed_iff ended inside, expiry, clock]
        apply iff_of_true
        · right
          intro instant held
          obtain rfl := Option.some.inj held
          simp only [expiryOf, Redis.now]
          omega
        · exact Or.inr ⟨positive, live⟩
      · rw [if_neg positive] at ended
        rw [listed_absent ended, clock]
        simp [positive]
    · have elapsed : ¬ (⟨.userSessions session.userId, .members tokens,
          foundDeadline choices store session⟩ : Entry Key Value).LiveAt
            ((afterAdd bcrypt sessionTTL choices store session).wait (choices 2)).redis.now :=
        now.symm ▸ live
      rw [Redis.expire_elapsed waited elapsed] at ended
      rw [listed_iff (ended.trans waited) inside, expiry, clock]
      simp only [live, and_false, or_false, or_iff_left_iff_imp]
      intro late
      by_contra current
      apply live
      intro deadline held
      have passed := late deadline held
      simp only [expiryOf, Redis.now] at passed ⊢
      omega
  · have ended := afterInsert_unrenewed bcrypt sessionTTL choices store session renews
      (.userSessions session.userId)
    rw [added] at ended
    rw [listed_iff ended inside, expiry, clock]
    simp only [renews, false_and, ne_eq, not_false_eq_true, true_and, false_or]

/-- In the end every lookup accepts the session until it expires. -/
theorem afterInsert_accepted (alike : Alike choices)
    (started : session.expiresAt ≤ store.clock + sessionTTL.val * 1000000000)
    (works : (choices 0).failure = none) (stack : Nat) {later : Nat → Choice}
    (alikeLater : Alike later) (reads : (later 0).failure = none)
    (inTime : ((afterInsert bcrypt sessionTTL choices store session).lapse later 2).clock ≤
      session.expiresAt) :
    ∃ last, alone (perform bcrypt) (getSession (stack + 1) session.token) later
        (afterInsert bcrypt sessionTTL choices store session) =
      some (.ok session, last, after 2 later) := by
  obtain ⟨clock, redisClock⟩ := afterInsert_clock bcrypt sessionTTL choices store session
  have stored := afterInsert_session bcrypt sessionTTL choices store session works
  have begun : store.redis.clock ≤ (store.lapse choices 1).redis.clock :=
    lapse_redis_mono choices store (Nat.zero_le 1)
  have same := alike.lapse store 4
  have sameLater := alikeLater.lapse (afterInsert bcrypt sessionTTL choices store session) 1
  have ends := lapse_clock_mono (afterInsert bcrypt sessionTTL choices store session) later
    (show 1 ≤ 2 by decide)
  have live : (session.entry ((store.lapse choices 1).redis.deadlineOf sessionTTL.val)).LiveAt
      ((afterInsert bcrypt sessionTTL choices store session).wait (later 0)).redis.now := by
    intro deadline held
    simp only [Session.entry, Redis.deadlineOf] at held
    split at held
    · obtain rfl := Option.some.inj held
      change ((afterInsert bcrypt sessionTTL choices store session).lapse later 1).redis.now ≤ _
      simp only [Redis.now]
      omega
    · simp at held
  have found : ((afterInsert bcrypt sessionTTL choices store session).wait (later 0)).redis.find?
      (.session session.token) =
        some (session.entry ((store.lapse choices 1).redis.deadlineOf sessionTTL.val)) :=
    Redis.find?_eq_some.mpr ⟨stored, live⟩
  have seen : (afterInsert bcrypt sessionTTL choices store session).seen (later 0) session.token =
      some session := by
    simp [Store.seen, reads, Redis.lookup, found, Session.entry, Text.decode, Except.toOption]
  exact ⟨_, alone_getSession_current bcrypt stack seen inTime⟩

end Commands

/-- A creation with a token keeps the session it makes. -/
theorem creation_makes (bcrypt : Bcrypt) (sessionTTL : SessionTTL) (user : User)
    (choices : Nat → Choice) (store : Store) {drawn : GeneratedToken}
    (draws : (choices 0).token = .ok drawn) :
    alone (perform bcrypt) (createSession sessionTTL user) choices store =
      alone (perform bcrypt)
        (keepSession sessionTTL (newSession sessionTTL user choices store drawn.val))
        (after 3 choices) (store.lapse choices 3) := by
  rw [createSession_eq, alone_bind, alone_generateToken, draws]
  rfl

theorem unchanged_lapse (store : Store) (choices : Nat → Choice) (count : Nat) :
    Unchanged store (store.lapse choices count) := by
  obtain ⟨table, postgres⟩ := lapse_contents store choices count
  exact ⟨fun key => by rw [table], by rw [postgres]⟩

section Outcome

variable (bcrypt : Bcrypt) (sessionTTL : SessionTTL) (user : User) (choices : Nat → Choice)
  (store : Store) (token : String)

/-- The addition of a new session fails when it does. -/
theorem unlistable_iff : Unlistable (after 3 choices) (store.lapse choices 3)
    (newSession sessionTTL user choices store token) ↔ AddFails user choices store := by
  unfold Unlistable AddFails
  rw [lapse_after]
  rfl

/-- An error after the session has been stored is as promised only if it was there. -/
theorem unlisted_unchanged_iff (works : (choices 3).failure = none) :
    Unchanged store ((afterSet bcrypt sessionTTL (after 3 choices) (store.lapse choices 3)
        (newSession sessionTTL user choices store token)).wait (choices 4)) ↔
      store.redis.table.get? (.session token) = some (newEntry sessionTTL user choices store token) := by
  have stored := afterSet_table bcrypt sessionTTL (after 3 choices) (store.lapse choices 3)
    (newSession sessionTTL user choices store token) works
  rw [lapse_after, (lapse_contents store choices 3).1] at stored
  constructor
  · intro unchanged
    exact (unchanged.redis (.session token)).symm.trans ((stored (.session token)).trans (if_pos rfl))
  · intro there
    constructor
    · intro key
      refine (stored key).trans ?_
      split
      · rename_i same
        rw [← same]
        exact there.symm
      · rfl
    · have postgres : (afterSet bcrypt sessionTTL (after 3 choices) (store.lapse choices 3)
          (newSession sessionTTL user choices store token)).postgres = store.postgres :=
        (perform_redis_postgres bcrypt _).trans (lapse_contents store choices 3).2
      exact congrArg Postgres.userSessions postgres

/-- The list of a new session lasts when it does. -/
theorem renewedInTime_iff (alike : Alike choices) :
    RenewedInTime sessionTTL (after 3 choices) (store.lapse choices 3)
        (newSession sessionTTL user choices store token) ↔
      ListOutlasts sessionTTL user choices store token := by
  have same := alike.lapse store 3
  have expiry : expiryOf (store.lapse choices 3) (newSession sessionTTL user choices store token) =
      expiryOf store (newSession sessionTTL user choices store token) := by
    unfold expiryOf
    congr 1
    omega
  unfold RenewedInTime ListOutlasts foundDeadline
  rw [expiry, lapse_after, lapse_after, lapse_after]
  rfl

/-- What a creation leaves behind is what its result says, if and only if the condition
holds: an error leaves both stores as they were, and a session that is returned is accepted
and listed until it expires. -/
theorem creation_keeps_promise_iff (alike : Alike choices) :
    ∃ result last rest, alone (perform bcrypt) (createSession sessionTTL user) choices store =
        some (result, last, rest) ∧
      (KeepsPromise bcrypt store result last ↔ CreationHolds sessionTTL user choices store) := by
  cases draws : (choices 0).token with
  | error error =>
    refine ⟨_, _, _, creation_undrawn bcrypt sessionTTL choices store user draws, ?_⟩
    apply iff_of_true
    · exact unchanged_lapse store choices 1
    · exact Or.inl ⟨error, draws⟩
  | ok drawn =>
    rw [creation_makes bcrypt sessionTTL user choices store draws]
    have holds : CreationHolds sessionTTL user choices store ↔ (choices 3).failure ≠ none ∨
        (AddFails user choices store ∧ store.redis.table.get? (.session drawn.val) =
          some (newEntry sessionTTL user choices store drawn.val)) ∨
        (¬ AddFails user choices store ∧ ListOutlasts sessionTTL user choices store drawn.val) := by
      unfold CreationHolds
      rw [draws]
      simp
    have alikeLater : Alike (after 3 choices) := fun index => alike _
    have started : (newSession sessionTTL user choices store drawn.val).expiresAt ≤
        (store.lapse choices 3).clock + sessionTTL.val * 1000000000 := by
      have order := lapse_clock_mono store choices (show 2 ≤ 3 by decide)
      simp only [newSession]
      omega
    have same := unlistable_iff sessionTTL user choices store drawn.val
    by_cases works : (choices 3).failure = none
    · by_cases fails : AddFails user choices store
      · obtain ⟨error, ran⟩ := keepSession_unlisted bcrypt sessionTTL (after 3 choices)
          (store.lapse choices 3) _ works (same.mpr fails)
        refine ⟨_, _, _, ran, ?_⟩
        rw [holds]
        simp only [works, ne_eq, not_true_eq_false, fails, true_and, false_and, or_false, false_or]
        exact unlisted_unchanged_iff bcrypt sessionTTL user choices store drawn.val works
      · have listable := same.not.mpr fails
        refine ⟨_, _, _, keepSession_kept bcrypt sessionTTL (after 3 choices) (store.lapse choices 3) _
          works listable, ?_⟩
        rw [holds]
        simp only [works, ne_eq, not_true_eq_false, fails, not_false_eq_true, true_and, false_and,
          false_or]
        rw [← renewedInTime_iff sessionTTL user choices store drawn.val alike]
        have lists := afterInsert_listed_iff bcrypt sessionTTL (after 3 choices)
          (store.lapse choices 3) _ alikeLater started works listable
        constructor
        · intro promised
          exact lists.mp promised.listed
        · intro lasts
          constructor
          · intro stack later alikeThen reads inTime
            exact afterInsert_accepted bcrypt sessionTTL (after 3 choices) (store.lapse choices 3) _
              alikeLater started works stack alikeThen reads inTime
          · exact lists.mpr lasts
    · obtain ⟨error, ran⟩ := keepSession_unstored bcrypt sessionTTL (after 3 choices)
        (store.lapse choices 3) (newSession sessionTTL user choices store drawn.val) works
      refine ⟨_, _, _, ran, ?_⟩
      rw [holds]
      apply iff_of_true
      · rw [lapse_after]
        exact unchanged_lapse store choices 4
      · exact Or.inl works

end Outcome

/-- The connection to Redis is lost after the new session has been stored. -/
def lostListing (index : Nat) : Choice :=
  if index = 4 then { tick firstToken with failure := some "EOF" } else tick firstToken

/-- The creation reports that it has failed, and its session is there and in no list: the key
was written before the list. -/
theorem lost_listing_leaves_session :
    ∃ last rest, alone (perform plainBcrypt) (createSession defaultTTL alice) lostListing aliceOnly =
        some (.error "failed to add session to user set: EOF", last, rest) ∧
      aliceOnly.redis.table.get? (.session firstToken.val) = none ∧
      last.redis.lookup firstToken.val ≠ none ∧
      last.redis.membersOf "u1" = [] ∧
      ¬ KeepsPromise plainBcrypt aliceOnly
        (.error "failed to add session to user set: EOF" : Except String Session) last := by
  refine ⟨_, _, rfl, by decide, by decide, by decide, ?_⟩
  intro unchanged
  exact absurd (unchanged.redis (.session firstToken.val)) (by decide)

/-- With a Redis that works the creation keeps its promise. -/
theorem first_creation_keeps_promise :
    ∃ result last rest, alone (perform plainBcrypt) (createSession defaultTTL alice)
        (fun _ => tick firstToken) aliceOnly = some (result, last, rest) ∧
      KeepsPromise plainBcrypt aliceOnly result last := by
  obtain ⟨result, last, rest, ran, keeps⟩ := creation_keeps_promise_iff plainBcrypt defaultTTL alice
    (fun _ => tick firstToken) aliceOnly (fun _ => rfl)
  have holds : CreationHolds defaultTTL alice (fun _ => tick firstToken) aliceOnly := by
    refine Or.inr ⟨firstToken, rfl, Or.inr (Or.inr ⟨?_, Or.inr (Or.inl ⟨rfl, by decide, ?_⟩)⟩)⟩
    · rintro (fails | ⟨entry, text, found, -⟩)
      · exact fails rfl
      · exact absurd found (by simp [show (aliceOnly.lapse (fun _ => tick firstToken) 5).redis.find?
          (.userSessions alice.id) = none by decide])
    · decide
  exact ⟨result, last, rest, ran, keeps.mpr holds⟩

end ShoppingCS.Auth
