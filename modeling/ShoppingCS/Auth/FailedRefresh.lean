import ShoppingCS.Auth.Lists
import ShoppingCS.Auth.Logout

/-!
# What a failed refresh leaves behind

A refresh reads the token's session twice and its user twice, deletes the session, and
then creates another one. Its reads can fail without a trace. But nothing is left to
fail safely after the deletion: when the new session cannot be created, the client is
told that the refresh has failed, and the old session is gone with all that was
deleted of it.
-/

namespace ShoppingCS.Auth

open Interleaving Program Storage

namespace Redis

/-- The list of a user has a token in it, as far as the stored content goes. -/
def Lists (redis : Redis) (userId token : String) : Prop :=
  ∃ entry tokens, redis.table.get? (.userSessions userId) = some entry ∧
    entry.value = .members tokens ∧ token ∈ tokens

/-- The key of a list is found with a text in it. -/
def HoldsText (redis : Redis) (userId : String) : Prop :=
  ∃ entry text, redis.find? (.userSessions userId) = some entry ∧ entry.value = .string text

/-- What is found depends on the stored entry and on the time. -/
theorem find?_congr {redis other : Redis} {key : Key}
    (entry : redis.table.get? key = other.table.get? key) (clock : redis.clock = other.clock) :
    redis.find? key = other.find? key := by
  have now : redis.now = other.now := by rw [Redis.now, Redis.now, clock]
  rw [find?, find?, ExpiringTable.find?, ExpiringTable.find?, entry, now]

/-- The members of a list are decided by the entry under its key and the clock, so stores that
agree about both have the same. -/
theorem membersOf_congr {redis other : Redis} {userId : String}
    (entry : redis.table.get? (.userSessions userId) = other.table.get? (.userSessions userId))
    (clock : redis.clock = other.clock) : redis.membersOf userId = other.membersOf userId := by
  rw [membersOf, membersOf, find?_congr entry clock]

/-- A text is found depending on the stored texts and on the time. -/
theorem holdsText_congr {redis other : Redis} {userId : String}
    (texts : ∀ entry text, entry.value = .string text →
      (redis.table.get? (.userSessions userId) = some entry ↔
        other.table.get? (.userSessions userId) = some entry))
    (clock : redis.clock = other.clock) : redis.HoldsText userId ↔ other.HoldsText userId := by
  have now : redis.now = other.now := by rw [Redis.now, Redis.now, clock]
  refine exists_congr (fun entry => exists_congr (fun text => and_congr_left (fun value => ?_)))
  rw [find?_eq_some, find?_eq_some, texts entry text value, now]

/-- A token that is found in a list is stored there. -/
theorem lists_of_mem {redis : Redis} {userId token : String}
    (member : token ∈ redis.membersOf userId) : redis.Lists userId token := by
  obtain ⟨list, tokens, found, value, inside⟩ := mem_membersOf member
  exact ⟨list, tokens, (find?_eq_some.mp found).1, value, inside⟩

/-- Taking a token from a list changes nothing if the token is not found there, and
otherwise leaves the other tokens of the list. -/
theorem sRem_cases (redis : Redis) (userId token : String) :
    (token ∉ redis.membersOf userId ∧
        (redis.execute (.sRem (.userSessions userId) token)).2 = redis) ∨
      ∃ entry tokens, redis.table.get? (.userSessions userId) = some entry ∧
        entry.value = .members tokens ∧ redis.membersOf userId = tokens ∧
        ∀ later, (redis.execute (.sRem (.userSessions userId) token)).2.table.get?
            (.userSessions userId) = some later →
          ∃ others, later.value = .members others ∧ token ∉ others := by
  cases found : redis.find? (.userSessions userId) with
  | none => exact Or.inl ⟨by simp [membersOf, found], by simp [execute, found]⟩
  | some entry =>
    obtain ⟨key, value, deadline⟩ := entry
    cases value with
    | string text => exact Or.inl ⟨by simp [membersOf, found], by simp [execute, found]⟩
    | members tokens =>
      refine Or.inr ⟨_, tokens, (find?_eq_some.mp found).1, rfl, by simp [membersOf, found], ?_⟩
      intro later there
      simp only [execute, found] at there
      split at there
      · simp [get?_remove] at there
      · rw [get?_put, if_pos rfl] at there
        rw [← Option.some.inj there]
        exact ⟨_, rfl, by simp⟩

/-- So it takes the token from where it is found, and leaves one that has expired alone. -/
theorem lists_sRem (redis : Redis) (userId token : String) :
    (redis.execute (.sRem (.userSessions userId) token)).2.Lists userId token ↔
      redis.Lists userId token ∧ token ∉ redis.membersOf userId := by
  rcases sRem_cases redis userId token with
    ⟨outside, same⟩ | ⟨entry, tokens, stored, value, members, left⟩
  · rw [same, and_iff_left outside]
  · apply iff_of_false
    · rintro ⟨later, others, there, value, inside⟩
      obtain ⟨rest, same, outside⟩ := left later there
      obtain rfl : others = rest := Value.members.inj (value.symm.trans same)
      exact outside inside
    · rintro ⟨⟨other, others, there, same, inside⟩, outside⟩
      obtain rfl : entry = other := Option.some.inj (stored.symm.trans there)
      obtain rfl : tokens = others := Value.members.inj (value.symm.trans same)
      exact outside (members ▸ inside)

/-- It neither makes nor unmakes a text under the key of a list. -/
theorem texts_sRem (redis : Redis) (userId token : String) {entry : Entry Key Value} {text : Text}
    (value : entry.value = .string text) :
    (redis.execute (.sRem (.userSessions userId) token)).2.table.get? (.userSessions userId) =
        some entry ↔ redis.table.get? (.userSessions userId) = some entry := by
  rcases sRem_cases redis userId token with
    ⟨-, same⟩ | ⟨other, tokens, stored, members, -, left⟩
  · rw [same]
  · apply iff_of_false
    · intro there
      obtain ⟨others, listed, -⟩ := left entry there
      simp [value] at listed
    · intro there
      obtain rfl : other = entry := Option.some.inj (stored.symm.trans there)
      simp [value] at members

end Redis

section Perform

variable (bcrypt : Bcrypt) {choice : Choice} {store : Store}

/-- A command to a store that fails is not executed, so both stores are as they were, some
time later. -/
theorem perform_failing {command : Command} {error : String} (failing : choice.failure = some error)
    (asks : (∃ asked, command = .redis asked) ∨ ∃ statement, command = .postgres statement) :
    (perform bcrypt command choice store).2 = store.wait choice := by
  rcases asks with ⟨asked, rfl⟩ | ⟨statement, rfl⟩ <;> simp [perform, failing]

/-- A command to Redis leaves the other keys and PostgreSQL alone. -/
theorem perform_redis_other (asked : RedisCommand) {key : Key} (other : asked.key ≠ key) :
    (perform bcrypt (.redis asked) choice store).2.redis.table.get? key =
      store.redis.table.get? key := by
  cases failing : choice.failure with
  | some error => simp [perform, failing, Store.wait, Redis.wait]
  | none =>
    simp only [perform, failing]
    exact Redis.execute_other _ asked other

theorem perform_redis_postgres (asked : RedisCommand) :
    (perform bcrypt (.redis asked) choice store).2.postgres = store.postgres := by
  cases failing : choice.failure <;> simp [perform, failing, Store.wait]

theorem perform_postgres_redis (statement : Statement) :
    (perform bcrypt (.postgres statement) choice store).2.redis.table = store.redis.table := by
  cases failing : choice.failure <;> simp [perform, failing, Store.wait, Redis.wait]

/-- The deletion of a row leaves no row under the token, unless PostgreSQL fails at it. -/
theorem perform_deleteRow (token : String) :
    (perform bcrypt (.postgres (.deleteSession token)) choice store).2.postgres.userSessions.get? token =
      if choice.failure = none then none else store.postgres.userSessions.get? token := by
  cases failing : choice.failure with
  | some error => simp [perform, failing, Store.wait]
  | none =>
    have deleted := Postgres.execute_deleteSession store.postgres token token
    rw [if_pos rfl] at deleted
    simpa [perform, failing, Store.wait] using deleted

/-- Taking a token from a list decides about its place there, and about no text. -/
theorem perform_sRem (choice : Choice) (store : Store) (userId token : String) :
    ((perform bcrypt (.redis (.sRem (.userSessions userId) token)) choice store).2.redis.Lists userId
        token ↔ store.redis.Lists userId token ∧
          ¬ (choice.failure = none ∧ token ∈ (store.wait choice).redis.membersOf userId)) ∧
      ∀ entry text, entry.value = .string text →
        ((perform bcrypt (.redis (.sRem (.userSessions userId) token)) choice store).2.redis.table.get?
          (.userSessions userId) = some entry ↔
            store.redis.table.get? (.userSessions userId) = some entry) := by
  cases failing : choice.failure with
  | some error =>
    rw [perform_failing bcrypt failing (Or.inl ⟨_, rfl⟩)]
    refine ⟨?_, fun entry text value => Iff.rfl⟩
    simp only [reduceCtorEq, false_and, not_false_eq_true, and_true]
    rfl
  | none =>
    simp only [perform, failing, true_and]
    exact ⟨Redis.lists_sRem _ userId token, fun entry text value => Redis.texts_sRem _ userId token value⟩

end Perform

/-- What the end of a deletion leaves of a session: its key and its row if their
deletions fail, and its place in the list unless it is taken from there. -/
structure Cleared (token userId : String) (key row : Choice) (unlists : Prop) (before later : Store) :
    Prop where
  session : later.redis.table.get? (.session token) =
    if key.failure = none then none else before.redis.table.get? (.session token)
  lists : later.redis.Lists userId token ↔ before.redis.Lists userId token ∧ ¬ unlists
  texts : ∀ entry text, entry.value = .string text →
    (later.redis.table.get? (.userSessions userId) = some entry ↔
      before.redis.table.get? (.userSessions userId) = some entry)
  row : later.postgres.userSessions.get? token =
    if row.failure = none then none else before.postgres.userSessions.get? token

section Deletion

variable (bcrypt : Bcrypt) (choices : Nat → Choice) (store : Store) (token : String)

/-- After a lookup that has failed, the key and the row are deleted. -/
theorem clear_unseen (userId error : String) :
    ∃ settled, alone (perform bcrypt) (clearSession token (.error error)) choices store =
        some ((), settled, after 2 choices) ∧
      Agrees settled (store.lapse choices 2) ∧
      Cleared token userId (choices 0) (choices 1) False store settled := by
  refine ⟨_, rfl, ?_, ?_⟩
  · exact perform_agrees bcrypt (perform_agrees bcrypt ⟨rfl, rfl, rfl⟩ (Or.inl ⟨_, rfl⟩))
      (Or.inr ⟨_, rfl⟩)
  · have list : (perform bcrypt (.postgres (.deleteSession token)) (after 1 choices 0)
        (perform bcrypt (.redis (.delete (.session token))) (choices 0) store).2).2.redis.table.get?
          (.userSessions userId) = store.redis.table.get? (.userSessions userId) := by
      rw [perform_postgres_redis]
      exact perform_redis_other bcrypt _ (by simp [RedisCommand.key])
    refine ⟨?_, ?_, fun entry text value => by rw [list], ?_⟩
    · rw [perform_postgres_redis]
      exact perform_deletion bcrypt token (choices 0) store
    · rw [and_iff_left not_false, Redis.Lists, list]
      rfl
    · rw [perform_deleteRow, perform_redis_postgres]
      rfl

/-- After a lookup that has found the session, the token is taken from its list too. -/
theorem clear_seen (session : Session) :
    ∃ settled, alone (perform bcrypt) (clearSession token (.ok session)) choices store =
        some ((), settled, after 3 choices) ∧
      Agrees settled (store.lapse choices 3) ∧
      Cleared token session.userId (choices 0) (choices 2) ((choices 1).failure = none ∧
        token ∈ (store.lapse choices 2).redis.membersOf session.userId) store settled := by
  let first := (perform bcrypt (.redis (.delete (.session token))) (choices 0) store).2
  let second := (perform bcrypt (.redis (.sRem (.userSessions session.userId) token)) (choices 1)
    first).2
  let third := (perform bcrypt (.postgres (.deleteSession token)) (choices 2) second).2
  have began : Agrees first (store.wait (choices 0)) :=
    perform_agrees bcrypt ⟨rfl, rfl, rfl⟩ (Or.inl ⟨_, rfl⟩)
  have unlisted : Agrees second (store.lapse choices 2) := perform_agrees bcrypt began (Or.inl ⟨_, rfl⟩)
  have table : third.redis.table = second.redis.table := perform_postgres_redis bcrypt _
  have list : first.redis.table.get? (.userSessions session.userId) =
      store.redis.table.get? (.userSessions session.userId) :=
    perform_redis_other bcrypt _ (by simp [RedisCommand.key])
  have members : (first.wait (choices 1)).redis.membersOf session.userId =
      (store.lapse choices 2).redis.membersOf session.userId := by
    refine Redis.membersOf_congr list ?_
    have waited : (first.wait (choices 1)).redis.clock = first.redis.clock + (choices 1).redisElapsed := rfl
    rw [waited, began.redisClock]
    rfl
  have removal := perform_sRem bcrypt (choices 1) first session.userId token
  refine ⟨third, rfl, perform_agrees bcrypt unlisted (Or.inr ⟨_, rfl⟩), ?_, ?_, ?_, ?_⟩
  · have session : second.redis.table.get? (.session token) = first.redis.table.get? (.session token) :=
      perform_redis_other bcrypt _ (by simp [RedisCommand.key])
    rw [table, session]
    exact perform_deletion bcrypt token (choices 0) store
  · rw [Redis.Lists, table, ← Redis.Lists, removal.1, members, Redis.Lists, list]
    rfl
  · intro entry text value
    rw [table, removal.2 entry text value, list]
  · rw [perform_deleteRow, perform_redis_postgres, perform_redis_postgres]

/-- A deletion whose lookup either fails or finds the session in time. -/
theorem deletion_clears {session : Session} (stack : Nat)
    (found : (store.lapse choices 1).redis.lookup token = some session)
    (inTime : (store.lapse choices 2).clock ≤ session.expiresAt) :
    ∃ settled, alone (perform bcrypt) (deleteSession (stack + 2) token) choices store =
        some ((), settled, after (logoutLength choices) choices) ∧
      Agrees settled (store.lapse choices (logoutLength choices)) ∧
      Cleared token session.userId (choices (deletionPlace choices))
        (choices (logoutLength choices - 1)) ((choices 0).failure = none ∧
          (choices 3).failure = none ∧ token ∈ (store.lapse choices 4).redis.membersOf session.userId)
        store settled := by
  rw [alone_deleteSession]
  by_cases reads : (choices 0).failure = none
  · have seen : store.seen (choices 0) token = some session := by
      rw [Store.seen, reads]
      exact found
    rw [alone_getSession_current bcrypt stack seen inTime, Option.bind_some]
    obtain ⟨settled, ran, agrees, cleared⟩ :=
      clear_seen bcrypt (after 2 choices) (store.lapse choices 2) token session
    refine ⟨settled, ?_, ?_, ?_⟩
    · rw [logoutLength, if_pos reads]
      exact ran
    · rw [logoutLength, if_pos reads]
      exact lapse_after store choices 2 3 ▸ agrees
    · rw [logoutLength, deletionPlace, if_pos reads, if_pos reads]
      refine ⟨cleared.session, ?_, cleared.texts, cleared.row⟩
      rw [cleared.lists, lapse_after, and_iff_right reads]
      rfl
  · have unseen : store.seen (choices 0) token = none := by
      obtain ⟨error, failing⟩ := Option.ne_none_iff_exists'.mp reads
      simp [Store.seen, failing]
    rw [alone_getSession_unseen bcrypt stack unseen, Option.bind_some]
    obtain ⟨settled, ran, agrees, cleared⟩ :=
      clear_unseen bcrypt (after 1 choices) (store.lapse choices 1) token session.userId
        "session not found or expired"
    refine ⟨settled, ?_, ?_, ?_⟩
    · rw [logoutLength, if_neg reads]
      exact ran
    · rw [logoutLength, if_neg reads]
      exact lapse_after store choices 1 2 ▸ agrees
    · rw [logoutLength, deletionPlace, if_neg reads, if_neg reads]
      refine ⟨cleared.session, ?_, cleared.texts, cleared.row⟩
      rw [cleared.lists]
      simp only [reads, false_and]
      rfl

end Deletion

section Creation

variable (bcrypt : Bcrypt) (sessionTTL : SessionTTL) (choices : Nat → Choice) (store : Store)

/-- `CreateSession` after its token and its readings of the clock. -/
def keepSession (session : Session) : Handler (Except String Session) := do
  match ← askRedis (.set (.session session.token) (.session session) sessionTTL.val) with
  | .error error => pure (.error ("failed to store session in Redis: " ++ error))
  | .ok _ => do
    match ← askRedis (.sAdd (.userSessions session.userId) session.token) with
    | .error error => pure (.error ("failed to add session to user set: " ++ error))
    | .ok _ => do
      let _ ← askRedis (.expire (.userSessions session.userId) sessionTTL.val)
      let _ ← query (.insertSession
        { userId := session.userId, sessionToken := session.token, expiresAt := session.expiresAt })
      pure (.ok session)

/-- `CreateSession` after the draw of its token: an error ends it, and otherwise the session
is made with the token and kept. -/
def startSession (user : User) : Except String String → Handler (Except String Session)
  | .error error => pure (.error error)
  | .ok token => do
    let started ← timeNow
    let createdAt ← timeNow
    keepSession sessionTTL
      { token := token, userId := user.id, username := user.username, email := user.email
        expiresAt := started + sessionTTL.val * 1000000000, createdAt := createdAt }

/-- A creation draws a token and goes on with it. -/
theorem createSession_eq (user : User) :
    createSession sessionTTL user = (generateToken >>= startSession sessionTTL user) := by
  refine congrArg (generateToken >>= ·) (funext fun drawn => ?_)
  cases drawn with
  | error error => rfl
  | ok token =>
    refine congrArg (call Command.timeNow) (funext fun started => ?_)
    refine congrArg (call Command.timeNow) (funext fun createdAt => ?_)
    refine congrArg (call (Command.redis _)) (funext fun stored => ?_)
    cases stored with
    | error error => rfl
    | ok done =>
      refine congrArg (call (Command.redis _)) (funext fun added => ?_)
      cases added <;> rfl

/-- The drawing of a token is one command, whose result is the choice's, with the error
wrapped. -/
theorem alone_generateToken :
    alone (perform bcrypt) generateToken choices store =
      some (match (choices 0).token with
        | .error error => .error ("failed to generate token: " ++ error)
        | .ok token => .ok token.val, store.lapse choices 1, after 1 choices) := by
  unfold generateToken
  simp only [issue_bind, alone_call, perform]
  cases (choices 0).token <;> rfl

/-- Without a token a creation ends at once, and nothing but time has passed. -/
theorem creation_undrawn (user : User) {error : String} (drawn : (choices 0).token = .error error) :
    alone (perform bcrypt) (createSession sessionTTL user) choices store =
      some (.error ("failed to generate token: " ++ error), store.lapse choices 1,
        after 1 choices) := by
  rw [createSession_eq, alone_bind, alone_generateToken, drawn]
  rfl

/-- With a token, a creation keeps a session of that token for that user, after two looks at
the clock. -/
theorem creation_drawn (user : User) {drawn : GeneratedToken} (ok : (choices 0).token = .ok drawn) :
    ∃ session : Session, session.token = drawn.val ∧ session.userId = user.id ∧
      alone (perform bcrypt) (createSession sessionTTL user) choices store =
        alone (perform bcrypt) (keepSession sessionTTL session) (after 3 choices)
          (store.lapse choices 3) := by
  rw [createSession_eq, alone_bind, alone_generateToken, ok]
  exact ⟨_, rfl, rfl, rfl⟩

/-- The later store holds of the session of a token, under its key, in the list and as a row,
what the earlier one held. -/
structure SameSession (token userId : String) (before later : Store) : Prop where
  session : later.redis.table.get? (.session token) = before.redis.table.get? (.session token)
  list : later.redis.table.get? (.userSessions userId) =
    before.redis.table.get? (.userSessions userId)
  row : later.postgres.userSessions.get? token = before.postgres.userSessions.get? token

/-- Adding to a list fails when Redis does, or when it finds a text there. -/
theorem perform_sAdd (choice : Choice) (store : Store) (userId added : String) :
    (∃ done, (perform bcrypt (.redis (.sAdd (.userSessions userId) added)) choice store).1 = .ok done ∧
        choice.failure = none ∧ ¬ (store.wait choice).redis.HoldsText userId) ∨
      ∃ error, (perform bcrypt (.redis (.sAdd (.userSessions userId) added)) choice store) =
          (.error error, store.wait choice) ∧
        (choice.failure ≠ none ∨ (store.wait choice).redis.HoldsText userId) := by
  cases failing : choice.failure with
  | some error => exact Or.inr ⟨error, by simp [perform, failing], Or.inl (by simp)⟩
  | none =>
    simp only [perform, failing]
    cases found : (store.wait choice).redis.find? (.userSessions userId) with
    | none => exact Or.inl ⟨(), by simp [Redis.execute, found], trivial, by simp [Redis.HoldsText, found]⟩
    | some entry =>
      obtain ⟨key, value, deadline⟩ := entry
      cases value with
      | string text =>
        refine Or.inr ⟨Redis.wrongType, ?_, Or.inr ⟨_, text, found, rfl⟩⟩
        simp [Redis.execute, found]
      | members tokens =>
        refine Or.inl ⟨(), by simp [Redis.execute, found], trivial, ?_⟩
        simp [Redis.HoldsText, found]

/-- Storing a session and adding it to its list can fail; other sessions are left
alone then. -/
theorem keepSession_outcome (session : Session) {token : String} (other : session.token ≠ token) :
    ∃ result settled rest, alone (perform bcrypt) (keepSession sessionTTL session) choices store =
        some (result, settled, rest) ∧
      ((result = .ok session ∧ ¬ ((choices 0).failure ≠ none ∨ (choices 1).failure ≠ none ∨
          (store.lapse choices 2).redis.HoldsText session.userId)) ∨
        ∃ error count, result = .error error ∧ count ≤ 2 ∧ ((choices 0).failure ≠ none ∨
            (choices 1).failure ≠ none ∨ (store.lapse choices 2).redis.HoldsText session.userId) ∧
          Agrees settled (store.lapse choices count) ∧
          SameSession token session.userId store settled) := by
  let first := (perform bcrypt
    (.redis (.set (.session session.token) (.session session) sessionTTL.val)) (choices 0) store)
  have began : Agrees first.2 (store.wait (choices 0)) :=
    perform_agrees bcrypt ⟨rfl, rfl, rfl⟩ (Or.inl ⟨_, rfl⟩)
  have list : first.2.redis.table.get? (.userSessions session.userId) =
      store.redis.table.get? (.userSessions session.userId) :=
    perform_redis_other bcrypt _ (by simp [RedisCommand.key])
  have kept : SameSession token session.userId store first.2 :=
    ⟨perform_redis_other bcrypt _ (by simpa [RedisCommand.key] using other), list,
      by rw [perform_redis_postgres]⟩
  have clock : (first.2.wait (choices 1)).redis.clock = (store.lapse choices 2).redis.clock :=
    congrArg (· + ((choices 1).redisElapsed : Int)) began.redisClock
  have text : (first.2.wait (choices 1)).redis.HoldsText session.userId ↔
      (store.lapse choices 2).redis.HoldsText session.userId :=
    Redis.holdsText_congr (fun entry _ _ => Iff.of_eq (congrArg (· = some entry) list)) clock
  cases failing : (choices 0).failure with
  | some error =>
    refine ⟨.error ("failed to store session in Redis: " ++ error), store.lapse choices 1,
      after 1 choices, ?_, Or.inr ⟨_, 1, rfl, by decide, Or.inl (by simp), ⟨rfl, rfl, rfl⟩,
        ⟨rfl, rfl, rfl⟩⟩⟩
    unfold keepSession askRedis
    simp only [issue_bind, alone_call, perform, failing]
    rfl
  | none =>
    have stored : first.1 = .ok () := by simp [first, perform, failing, Redis.execute]
    unfold keepSession askRedis query
    simp only [issue_bind, alone_call]
    rw [show (perform bcrypt (.redis (.set (.session session.token) (.session session)
      sessionTTL.val)) (choices 0) store) = first from rfl, stored]
    rcases perform_sAdd bcrypt (choices 1) first.2 session.userId session.token with
      ⟨done, added, works, untexted⟩ | ⟨error, refused, why⟩
    · simp only [alone_call, after_apply]
      rw [added]
      refine ⟨.ok session, _, after 4 choices, rfl, Or.inl ⟨rfl, ?_⟩⟩
      simp [works, ← text, untexted]
    · refine ⟨.error ("failed to add session to user set: " ++ error), first.2.wait (choices 1),
        after 2 choices, ?_, Or.inr ⟨_, 2, rfl, le_refl _, ?_, ?_, ?_⟩⟩
      · simp only [alone_call, after_apply]
        rw [refused]
        rfl
      · cases why with
        | inl fails => exact Or.inr (Or.inl fails)
        | inr holds => exact Or.inr (Or.inr (text.mp holds))
      · exact ⟨congrArg (· + ((choices 1).elapsed : Int)) began.clock, clock, began.users⟩
      · exact ⟨kept.session, kept.list, kept.row⟩

/-- The creation of a session fails: there is no token, the session cannot be stored, or
it cannot be added to the list. -/
def CreationFails (userId : String) (choices : Nat → Choice) (store : Store) : Prop :=
  (∃ error, (choices 0).token = .error error) ∨ (choices 3).failure ≠ none ∨
    (choices 4).failure ≠ none ∨ (store.lapse choices 5).redis.HoldsText userId

/-- A creation that fails leaves the sessions of other tokens as they were, since its draw is
not the token at hand. So what was lost was lost by the deletion. -/
theorem creation_outcome (user : User) {token : String}
    (fresh : ∀ drawn, (choices 0).token = .ok drawn → drawn.val ≠ token) :
    ∃ result settled rest, alone (perform bcrypt) (createSession sessionTTL user) choices store =
        some (result, settled, rest) ∧
      ((∃ session, result = .ok session ∧ ¬ CreationFails user.id choices store) ∨
        ∃ error count, result = .error error ∧ count ≤ 5 ∧ CreationFails user.id choices store ∧
          Agrees settled (store.lapse choices count) ∧ SameSession token user.id store settled) := by
  cases draws : (choices 0).token with
  | error error =>
    refine ⟨_, _, _, creation_undrawn bcrypt sessionTTL choices store user draws,
      Or.inr ⟨_, 1, rfl, by decide, Or.inl ⟨error, draws⟩, ⟨rfl, rfl, rfl⟩, ⟨rfl, rfl, rfl⟩⟩⟩
  | ok drawn =>
    obtain ⟨session, named, owned, ran⟩ := creation_drawn bcrypt sessionTTL choices store user draws
    obtain ⟨result, settled, rest, keeps, outcome⟩ := keepSession_outcome bcrypt sessionTTL
      (after 3 choices) (store.lapse choices 3) session (named ▸ fresh drawn draws)
    have fails : CreationFails user.id choices store ↔ (after 3 choices 0).failure ≠ none ∨
        (after 3 choices 1).failure ≠ none ∨
        ((store.lapse choices 3).lapse (after 3 choices) 2).redis.HoldsText session.userId := by
      rw [CreationFails, draws, lapse_after, owned]
      simp [after_apply]
    refine ⟨result, settled, rest, ran.trans keeps, ?_⟩
    rcases outcome with ⟨kept, works⟩ | ⟨error, count, failed, few, why, agrees, same⟩
    · exact Or.inl ⟨session, kept, fails.not.mpr works⟩
    · refine Or.inr ⟨error, 3 + count, failed, by omega, fails.mpr why, ?_, ?_⟩
      · rwa [lapse_after] at agrees
      · exact owned ▸ ⟨same.session, same.list, same.row⟩

end Creation

/-- The session of a token is in both stores as before, membership of the list counting and
not the deadline of the list. -/
structure AsBefore (token userId : String) (before later : Store) : Prop where
  session : later.redis.table.get? (.session token) = before.redis.table.get? (.session token)
  listed : later.redis.Lists userId token ↔ before.redis.Lists userId token
  row : later.postgres.userSessions.get? token = before.postgres.userSessions.get? token

/-- A deletion removes nothing: its command on the key fails, and so do the other two
unless there is nothing for them to remove. When its lookup has failed, it leaves the
list alone. -/
def RemovesNothing (token userId : String) (choices : Nat → Choice) (store : Store) : Prop :=
  (choices (deletionPlace choices)).failure ≠ none ∧
    ¬ ((choices 0).failure = none ∧ (choices 3).failure = none ∧
      token ∈ (store.lapse choices 4).redis.membersOf userId) ∧
    ((choices (logoutLength choices - 1)).failure ≠ none ∨
      store.postgres.userSessions.get? token = none)

/-- A deletion leaves a session as before if and only if it removes nothing. -/
theorem Cleared.asBefore_iff {token userId : String} {key row : Choice} {unlists : Prop}
    {before later : Store} (cleared : Cleared token userId key row unlists before later)
    (stored : before.redis.table.get? (.session token) ≠ none)
    (listed : unlists → before.redis.Lists userId token) :
    AsBefore token userId before later ↔ key.failure ≠ none ∧ ¬ unlists ∧
      (row.failure ≠ none ∨ before.postgres.userSessions.get? token = none) := by
  constructor
  · intro same
    refine ⟨?_, ?_, ?_⟩
    · intro works
      have gone := cleared.session
      rw [if_pos works, same.session] at gone
      exact stored gone
    · intro removed
      exact (cleared.lists.mp (same.listed.mpr (listed removed))).2 removed
    · by_cases works : row.failure = none
      · have gone := cleared.row
        rw [if_pos works, same.row] at gone
        exact Or.inr gone
      · exact Or.inl works
  · rintro ⟨fails, kept, rowKept⟩
    refine ⟨?_, ?_, ?_⟩
    · rw [cleared.session, if_neg fails]
    · rw [cleared.lists, and_iff_left kept]
    · rw [cleared.row]
      split
      · rename_i works
        exact (rowKept.resolve_left (not_not.mpr works)).symm
      · rfl

/-- Stores that agree do so after any lapse, since the same times are added to the clocks of
both. -/
theorem Agrees.lapse {store other : Store} (agrees : Agrees store other) (choices : Nat → Choice)
    (count : Nat) : Agrees (store.lapse choices count) (other.lapse choices count) := by
  induction count with
  | zero => exact agrees
  | succ count inductionHypothesis =>
    exact ⟨congrArg (· + ((choices count).elapsed : Int)) inductionHypothesis.clock,
      congrArg (· + ((choices count).redisElapsed : Int)) inductionHypothesis.redisClock,
      inductionHypothesis.users⟩

theorem Agrees.trans {store other third : Store} (first : Agrees store other)
    (second : Agrees other third) : Agrees store third :=
  ⟨first.clock.trans second.clock, first.redisClock.trans second.redisClock,
    first.users.trans second.users⟩

/-- The session of a token and its user are there, in time, during the at most eighteen
commands of a refresh. -/
structure Throughout (token : String) (session : Session) (user : User) (choices : Nat → Choice)
    (store : Store) : Prop where
  found : ∀ count ≤ 18, (store.lapse choices count).redis.lookup token = some session
  inTime : ∀ count ≤ 18, (store.lapse choices count).clock ≤ session.expiresAt
  known : store.postgres.users.get? session.userId = some user

/-- A token that is still accepted at their end is there throughout. -/
theorem throughout_of_accepts {token : String} {session : Session} {choices : Nat → Choice}
    {store : Store} (found : store.redis.lookup token = some session)
    (valid : (store.lapse choices 18).Accepts token) :
    ∃ user, Throughout token session user choices store := by
  obtain ⟨other, user, looked, inTime, known⟩ := valid
  have earlier := (lapse_inherits token store choices (Nat.zero_le 18)).lookup looked
  obtain rfl : session = other := Option.some.inj (found.symm.trans earlier)
  rw [(lapse_contents store choices 18).2] at known
  refine ⟨user, ?_, ?_, known⟩
  · intro count few
    exact (lapse_inherits token store choices few).lookup looked
  · intro count few
    exact Int.le_trans (lapse_inherits token store choices few).clock inTime

/-- A token accepted throughout would be accepted at each of the moments a refresh has, which
are at most eighteen. -/
theorem Throughout.accepts {token : String} {session : Session} {user : User}
    {choices : Nat → Choice} {store : Store} (there : Throughout token session user choices store)
    {count : Nat} (few : count ≤ 18) : (store.lapse choices count).Accepts token :=
  ⟨session, user, there.found count few, there.inTime count few,
    (lapse_contents store choices count).2 ▸ there.known⟩

section Refresh

variable (bcrypt : Bcrypt) (sessionTTL : SessionTTL) (stack : Nat) {token : String}
  {session : Session} {user : User} {choices : Nat → Choice} {store : Store}

/-- A lookup during the refresh fails with its read, or finds the session. -/
theorem Throughout.alone_getSession (there : Throughout token session user choices store)
    {count : Nat} (few : count + 2 ≤ 18) :
    alone (perform bcrypt) (getSession (stack + 1) token) (after count choices)
        (store.lapse choices count) =
      if (choices count).failure = none then
        some (.ok session, store.lapse choices (count + 2), after (count + 2) choices)
      else some (.error "session not found or expired", store.lapse choices (count + 1),
        after (count + 1) choices) := by
  have first : after count choices 0 = choices count := congrArg choices (Nat.zero_add count)
  split
  · rename_i reads
    have seen : (store.lapse choices count).seen (after count choices 0) token = some session := by
      rw [Store.seen, first, reads]
      exact there.found (count + 1) (by omega)
    have inTime : ((store.lapse choices count).checked (after count choices)).clock ≤
        session.expiresAt := by
      have later := there.inTime (count + 2) few
      rw [← lapse_after] at later
      exact later
    rw [alone_getSession_current bcrypt stack seen inTime, after_after, ← lapse_after]
    rfl
  · rename_i fails
    obtain ⟨error, failing⟩ := Option.ne_none_iff_exists'.mp fails
    have unseen : (store.lapse choices count).seen (after count choices 0) token = none := by
      simp [Store.seen, first, failing]
    rw [alone_getSession_unseen bcrypt stack unseen, after_after, first]
    rfl

/-- The reading of the user fails or finds the user. -/
theorem Throughout.alone_getUserById (there : Throughout token session user choices store)
    (count : Nat) :
    ∃ error, alone (perform bcrypt) (getUserById session.userId) (after count choices)
        (store.lapse choices count) =
      some (if (choices count).failure = none then .ok user else .error error,
        store.lapse choices (count + 1), after (count + 1) choices) := by
  have first : after count choices 0 = choices count := congrArg choices (Nat.zero_add count)
  have known : ((store.lapse choices count).wait (choices count)).postgres.users.get? session.userId =
      some user := by
    rw [← there.known]
    exact congrArg (fun postgres : Postgres => postgres.users.get? session.userId)
      (lapse_contents store choices count).2
  unfold getUserById query
  simp only [issue_bind, alone_call, perform, first, after_after]
  cases failing : (choices count).failure with
  | some error => exact ⟨"failed to get user: " ++ error, rfl⟩
  | none =>
    refine ⟨"", ?_⟩
    simp only [Postgres.selectUserById_eq_some.mpr known, Postgres.selectUserById_store]
    rfl

/-- A read on the way to the deletion fails: the session's or the user's, of the check or of
the rotation. -/
def ReadFails (choices : Nat → Choice) : Prop :=
  (choices 0).failure ≠ none ∨ (choices 2).failure ≠ none ∨ (choices 3).failure ≠ none ∨
    (choices 5).failure ≠ none

/-- The check of the token fails with one of its reads, or finds the user. -/
theorem Throughout.alone_validateToken (there : Throughout token session user choices store)
    (named : token ≠ "") :
    (((choices 0).failure ≠ none ∨ (choices 2).failure ≠ none) ∧ ∃ error count, count ≤ 3 ∧
        alone (perform bcrypt) (validateToken (stack + 1) token) choices store =
          some (.error error, store.lapse choices count, after count choices)) ∨
      (choices 0).failure = none ∧ (choices 2).failure = none ∧
        alone (perform bcrypt) (validateToken (stack + 1) token) choices store =
          some (.ok user, store.lapse choices 3, after 3 choices) := by
  have looked : alone (perform bcrypt) (getSession (stack + 1) token) choices store = _ :=
    there.alone_getSession bcrypt stack (Nat.le_add_left (0 + 2) 16)
  obtain ⟨error, read⟩ := there.alone_getUserById bcrypt 2
  simp only [validateToken, if_neg named, alone_bind, looked]
  by_cases reads : (choices 0).failure = none
  · rw [if_pos reads]
    simp only [Option.bind_some, alone_bind, read]
    by_cases works : (choices 2).failure = none
    · rw [if_pos works]
      exact Or.inr ⟨reads, works, rfl⟩
    · rw [if_neg works]
      exact Or.inl ⟨Or.inr works, "user not found: " ++ error, 3, le_refl _, rfl⟩
  · rw [if_neg reads]
    exact Or.inl ⟨Or.inl reads, "invalid or expired token", 1, by decide, rfl⟩

/-- A rotation fails with one of its reads, or deletes the session and creates another. -/
theorem Throughout.alone_refreshSession (there : Throughout token session user choices store) :
    (((choices 3).failure ≠ none ∨ (choices 5).failure ≠ none) ∧ ∃ error count, count ≤ 6 ∧
        alone (perform bcrypt) (refreshSession sessionTTL (stack + 1) token) (after 3 choices)
            (store.lapse choices 3) =
          some (.error error, store.lapse choices count, after count choices)) ∨
      (choices 3).failure = none ∧ (choices 5).failure = none ∧
        alone (perform bcrypt) (refreshSession sessionTTL (stack + 1) token) (after 3 choices)
            (store.lapse choices 3) =
          (alone (perform bcrypt) (deleteSession (stack + 1) token) (after 6 choices)
            (store.lapse choices 6)).bind (fun outcome =>
              alone (perform bcrypt) (createSession sessionTTL user) outcome.2.2 outcome.2.1) := by
  have looked := there.alone_getSession bcrypt stack (Nat.le_add_left (3 + 2) 13)
  obtain ⟨error, read⟩ := there.alone_getUserById bcrypt 5
  simp only [refreshSession, alone_bind, looked]
  by_cases reads : (choices 3).failure = none
  · rw [if_pos reads]
    simp only [Option.bind_some, alone_bind, read]
    by_cases works : (choices 5).failure = none
    · rw [if_pos works]
      simp only [alone_bind]
      exact Or.inr ⟨reads, works, trivial⟩
    · rw [if_neg works]
      exact Or.inl ⟨Or.inr works, "user not found: " ++ error, 6, le_refl _, rfl⟩
  · rw [if_neg reads]
    exact Or.inl ⟨Or.inl reads, "session not found or expired", 4, by decide, rfl⟩

/-- The response to a rotation, by its result, in the words the handler has for it. -/
def rotated : Except String Session → Response
  | .error error => .error error
  | .ok session => .success (.login session.response)

/-- A refresh fails with one of its reads, or ends as its deletion and its creation do. -/
theorem Throughout.alone_handleRefresh (there : Throughout token session user choices store)
    (named : token ≠ "") :
    (ReadFails choices ∧ ∃ error count, count ≤ 6 ∧
        alone (perform bcrypt) (handleRefresh sessionTTL (stack + 1) token) choices store =
          some (.error error, store.lapse choices count, after count choices)) ∨
      ¬ ReadFails choices ∧
        alone (perform bcrypt) (handleRefresh sessionTTL (stack + 1) token) choices store =
          ((alone (perform bcrypt) (deleteSession (stack + 1) token) (after 6 choices)
            (store.lapse choices 6)).bind (fun outcome =>
              alone (perform bcrypt) (createSession sessionTTL user) outcome.2.2 outcome.2.1)).bind
                (fun outcome => some (rotated outcome.1, outcome.2)) := by
  have rotates (result : Except String Session) (settled : Store) (rest : Nat → Choice) :
      alone (perform bcrypt) (sendRefreshed result) rest settled =
        some (rotated result, settled, rest) := by
    cases result <;> rfl
  simp only [handleRefresh, if_neg named, alone_bind]
  rcases there.alone_validateToken bcrypt stack named with
    ⟨fails, error, count, few, refused⟩ | ⟨first, second, accepted⟩
  · refine Or.inl ⟨?_, "invalid or expired token", count, by omega, ?_⟩
    · cases fails with
      | inl fails => exact Or.inl fails
      | inr fails => exact Or.inr (Or.inl fails)
    · rw [refused]
      rfl
  · rw [accepted]
    simp only [Option.bind_some, alone_bind]
    rcases there.alone_refreshSession bcrypt sessionTTL stack with
      ⟨fails, error, count, few, refused⟩ | ⟨third, fourth, goes⟩
    · refine Or.inl ⟨Or.inr (Or.inr fails), error, count, few, ?_⟩
      rw [refused]
      rfl
    · refine Or.inr ⟨by simp [ReadFails, first, second, third, fourth], ?_⟩
      rw [goes]
      exact congrArg (Option.bind _) (funext fun outcome => rotates outcome.1 outcome.2.1 outcome.2.2)

end Refresh

/-- Where the creation begins: after the six reads and a deletion of five commands, or
of three when its lookup has failed. -/
def creationPlace (choices : Nat → Choice) : Nat := 6 + logoutLength (after 6 choices)

/-- What a failed refresh may cost: the session is as before, and still valid. -/
def CostsNothing (token userId : String) (before : Store) (response : Response) (last : Store) : Prop :=
  ∀ message, response = .error message → AsBefore token userId before last ∧ last.Accepts token

section Costs

variable {token userId : String} {choices : Nat → Choice} {store settled last : Store}

/-- The time that passes leaves a session as before, because a lapse touches no table. -/
theorem lapse_asBefore (count : Nat) : AsBefore token userId store (store.lapse choices count) := by
  obtain ⟨table, postgres⟩ := lapse_contents store choices count
  refine ⟨by rw [table], by rw [Redis.Lists, table]; rfl, by rw [postgres]⟩

/-- Before and after can be told apart as well when some time has passed in between. -/
theorem AsBefore.trans_iff {before middle later : Store} (waited : AsBefore token userId before middle) :
    AsBefore token userId middle later ↔ AsBefore token userId before later :=
  ⟨fun left => ⟨left.session.trans waited.session, left.listed.trans waited.listed,
      left.row.trans waited.row⟩,
    fun left => ⟨left.session.trans waited.session.symm, left.listed.trans waited.listed.symm,
      left.row.trans waited.row.symm⟩⟩

/-- A session that is as before is accepted as long as it would have been. -/
theorem AsBefore.accepts {count : Nat} (same : AsBefore token userId store last)
    (aged : Agrees last (store.lapse choices count))
    (valid : (store.lapse choices count).Accepts token) : last.Accepts token := by
  refine (accepts_congr aged ?_).mpr valid
  rw [same.session, (lapse_contents store choices count).1]

/-- When the answer is an error, that nothing has been lost means that the token is as before
and would still be accepted. -/
theorem costsNothing_error (before : Store) (error : String) :
    CostsNothing token userId before (.error error) last ↔
      AsBefore token userId before last ∧ last.Accepts token :=
  ⟨fun costs => costs error rfl, fun kept _ _ => kept⟩

/-- What holds of a session in one store holds in another with the same of it. -/
theorem SameSession.asBefore_iff {before : Store} (same : SameSession token userId settled last) :
    AsBefore token userId before last ↔ AsBefore token userId before settled := by
  have listed : last.redis.Lists userId token ↔ settled.redis.Lists userId token := by
    rw [Redis.Lists, same.list]
    rfl
  exact ⟨fun left => ⟨same.session ▸ left.session, listed.symm.trans left.listed, same.row ▸ left.row⟩,
    fun left => ⟨same.session ▸ left.session, listed.trans left.listed, same.row ▸ left.row⟩⟩

variable {bcrypt : Bcrypt} {sessionTTL : SessionTTL} {session : Session} {user : User}

/-- After the reads, a refresh costs nothing if the new session is created, or if the
deletion has removed nothing. -/
theorem Throughout.replacement (there : Throughout token session user choices store) (stack : Nat)
    (fresh : ∀ drawn, (choices (creationPlace choices)).token = .ok drawn → drawn.val ≠ token) :
    ∃ response last rest,
      ((alone (perform bcrypt) (deleteSession (stack + 2) token) (after 6 choices)
        (store.lapse choices 6)).bind (fun outcome =>
          alone (perform bcrypt) (createSession sessionTTL user) outcome.2.2 outcome.2.1)).bind
            (fun outcome => some (rotated outcome.1, outcome.2)) = some (response, last, rest) ∧
      (CostsNothing token session.userId store response last ↔
        ¬ CreationFails session.userId (after (creationPlace choices) choices)
          (store.lapse choices (creationPlace choices)) ∨
        RemovesNothing token session.userId (after 6 choices) (store.lapse choices 6)) := by
  obtain ⟨settled, deletes, agrees, cleared⟩ :=
    deletion_clears bcrypt (after 6 choices) (store.lapse choices 6) token stack
      (lapse_after store choices 6 1 ▸ there.found 7 (by decide))
      (lapse_after store choices 6 2 ▸ there.inTime 8 (by decide))
  have short : creationPlace choices ≤ 11 := by
    rw [creationPlace, logoutLength]
    split <;> decide
  have owner : user.id = session.userId := (KeyedTable.get?_sound there.known).2
  rw [after_after] at deletes
  rw [lapse_after] at agrees
  change alone _ _ _ _ = some ((), settled, after (creationPlace choices) choices) at deletes
  change Agrees settled (store.lapse choices (creationPlace choices)) at agrees
  obtain ⟨result, last, rest, creates, outcome⟩ := creation_outcome bcrypt sessionTTL
    (after (creationPlace choices) choices) settled user
    (fun drawn draws => fresh drawn (by simpa [after_apply] using draws))
  have texts (entry : Entry Key Value) (text : Text) (value : entry.value = .string text) :
      (settled.redis.table.get? (.userSessions session.userId) = some entry ↔
        (store.lapse choices (creationPlace choices)).redis.table.get?
          (.userSessions session.userId) = some entry) := by
    rw [cleared.texts entry text value, (lapse_contents store choices 6).1,
      (lapse_contents store choices (creationPlace choices)).1]
  have fails : CreationFails user.id (after (creationPlace choices) choices) settled ↔
      CreationFails session.userId (after (creationPlace choices) choices)
        (store.lapse choices (creationPlace choices)) := by
    have same := (agrees.lapse (after (creationPlace choices) choices) 5).redisClock
    rw [CreationFails, CreationFails, owner, Redis.holdsText_congr ?_ same]
    rw [(lapse_contents settled _ 5).1, (lapse_contents _ _ 5).1]
    exact texts
  refine ⟨rotated result, last, rest, ?_, ?_⟩
  · rw [deletes, Option.bind_some, creates, Option.bind_some]
  · rcases outcome with ⟨created, rfl, works⟩ | ⟨error, count, rfl, few, why, aged, same⟩
    · refine iff_of_true ?_ (Or.inl (fails.not.mp works))
      intro message failed
      simp [rotated] at failed
    · have stored : (store.lapse choices 6).redis.table.get? (.session token) ≠ none := by
        intro absent
        have there := there.found 6 (by decide)
        simp [Redis.lookup, Redis.find?, ExpiringTable.find?_absent absent] at there
      have listed (removed : (after 6 choices 0).failure = none ∧ (after 6 choices 3).failure = none ∧
          token ∈ ((store.lapse choices 6).lapse (after 6 choices) 4).redis.membersOf session.userId) :
          (store.lapse choices 6).redis.Lists session.userId token :=
        (lapse_asBefore 4).listed.mp (Redis.lists_of_mem removed.2.2)
      have kept : AsBefore token session.userId store last ↔
          RemovesNothing token session.userId (after 6 choices) (store.lapse choices 6) :=
        calc AsBefore token session.userId store last
          _ ↔ AsBefore token session.userId store settled :=
            SameSession.asBefore_iff (owner ▸ same)
          _ ↔ AsBefore token session.userId (store.lapse choices 6) settled :=
            (AsBefore.trans_iff (lapse_asBefore 6)).symm
          _ ↔ _ := cleared.asBefore_iff stored listed
      have moved := agrees.lapse (after (creationPlace choices) choices) count
      rw [lapse_after] at moved
      rw [or_iff_right (not_not.mpr (fails.mp why)), rotated, costsNothing_error, kept]
      exact and_iff_left_of_imp (fun removes =>
        (kept.mpr removes).accepts (aged.trans moved) (there.accepts (by omega)))

end Costs

/-- A refresh that fails costs nothing in these cases, and in no other: one of the reads
before the deletion fails, the new session is created, or the deletion has removed
nothing. -/
theorem failed_refresh_costs_nothing_iff (bcrypt : Bcrypt) (sessionTTL : SessionTTL) (stack : Nat)
    (connId token : String) (session : Session) (choices : Nat → Choice) (store : Store)
    (found : store.redis.lookup token = some session)
    (valid : (store.lapse choices 18).Accepts token)
    (fresh : ∀ drawn, (choices (creationPlace choices)).token = .ok drawn → drawn.val ≠ token) :
    ∃ response last rest,
      alone (perform bcrypt) (handleConnection bcrypt sessionTTL (stack + 2) ⟨connId, .refresh token⟩)
        choices store = some (response, last, rest) ∧
      (CostsNothing token session.userId store response last ↔
        token = "" ∨ ReadFails choices ∨
          ¬ CreationFails session.userId (after (creationPlace choices) choices)
            (store.lapse choices (creationPlace choices)) ∨
          RemovesNothing token session.userId (after 6 choices) (store.lapse choices 6)) := by
  change ∃ response last rest,
    alone (perform bcrypt) (handleRefresh sessionTTL (stack + 2) token) choices store =
      some (response, last, rest) ∧ _
  obtain ⟨user, there⟩ := throughout_of_accepts found valid
  by_cases named : token = ""
  · refine ⟨.error "token is required", store, choices, ?_, iff_of_true ?_ (Or.inl named)⟩
    · rw [handleRefresh, if_pos named]
      rfl
    · exact fun message _ => ⟨⟨rfl, Iff.rfl, rfl⟩, there.accepts (Nat.zero_le 18)⟩
  rcases there.alone_handleRefresh bcrypt sessionTTL (stack + 1) named with
    ⟨fails, error, count, few, ran⟩ | ⟨reads, ran⟩
  · refine ⟨_, _, _, ran, iff_of_true ?_ (Or.inr (Or.inl fails))⟩
    intro message _
    exact ⟨lapse_asBefore count, there.accepts (by omega)⟩
  · obtain ⟨response, last, rest, replaces, costs⟩ := there.replacement stack fresh
    refine ⟨response, last, rest, ran.trans replaces, ?_⟩
    rw [costs, or_iff_right named, or_iff_right reads]

/-- The session of the first login, with the expiry a day after it. -/
def firstSession : Session :=
  { token := firstToken.val, userId := "u1", username := "alice", email := "alice@example.com"
    expiresAt := 86400000000003, createdAt := 4 }

/-- The connection to Redis is lost when the new session is to be stored. -/
def lostCreation (index : Nat) : Choice :=
  if index = 14 then { tick secondToken with failure := some "EOF" } else tick secondToken

theorem lostCreation_token (index : Nat) : (lostCreation index).token = .ok secondToken := by
  unfold lostCreation
  split <;> rfl

/-- The client is told that the refresh has failed, and the valid session is gone. -/
theorem lost_creation_loses_session :
    loggedIn.redis.lookup firstToken.val = some firstSession ∧
      (loggedIn.lapse lostCreation 18).Accepts firstToken.val ∧
      ∃ last rest, alone (perform plainBcrypt) (handleConnection plainBcrypt defaultTTL 2
        ⟨"c1", .refresh firstToken.val⟩) lostCreation loggedIn =
          some (.error "failed to store session in Redis: EOF", last, rest) ∧
        last.redis.table.get? (.session firstToken.val) = none ∧
        ¬ CostsNothing firstToken.val firstSession.userId loggedIn
          (.error "failed to store session in Redis: EOF") last := by
  refine ⟨by decide, ⟨firstSession, alice, by decide, by decide, by decide⟩, _, _, rfl, by decide, ?_⟩
  intro costs
  exact absurd (costs _ rfl).1.session (by decide)

/-- A refresh whose first command fails costs nothing, which is the other side of the
equivalence on the same store. -/
theorem unread_refresh_costs_nothing :
    ∃ response last rest, alone (perform plainBcrypt) (handleConnection plainBcrypt defaultTTL 2
        ⟨"c1", .refresh firstToken.val⟩) (fun index => lostCreation (index + 14)) loggedIn =
          some (response, last, rest) ∧
      CostsNothing firstToken.val "u1" loggedIn response last := by
  obtain ⟨response, last, rest, ran, costs⟩ := failed_refresh_costs_nothing_iff plainBcrypt defaultTTL 0
    "c1" firstToken.val firstSession (fun index => lostCreation (index + 14)) loggedIn (by decide)
    ⟨firstSession, alice, by decide, by decide, by decide⟩ (fun drawn draws => by
      rw [← Except.ok.inj ((lostCreation_token _).symm.trans draws)]
      decide)
  exact ⟨response, last, rest, ran, costs.mpr (Or.inr (Or.inl (Or.inl (by decide))))⟩

end ShoppingCS.Auth
