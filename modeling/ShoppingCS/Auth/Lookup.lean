import ShoppingCS.Auth.Commands

/-!
# One session lookup

What `GetSession` and `DeleteSession` do when they run by themselves, one level
of calls at a time. A lookup sees a session when its read does not fail and the
key holds the text of one; whether the session counts is decided by a reading of
the clock afterwards.
-/

namespace ShoppingCS.Auth

open Interleaving Program Storage

variable (bcrypt : Bcrypt)

/-- The session that a working read of a token returns: the text under its key has to be a
string, to be live and to decode to a session. -/
def Redis.lookup (redis : Redis) (token : String) : Option Session :=
  match redis.find? (.session token) with
  | some ⟨_, .string text, _⟩ => text.decode.toOption
  | _ => none

/-- The session that a read of a token returns with this choice. A store that fails makes it
see nothing, as if the key were missing. -/
def Store.seen (store : Store) (choice : Choice) (token : String) : Option Session :=
  match choice.failure with
  | some _ => none
  | none => (store.wait choice).redis.lookup token

/-- What follows the lookup of a deletion always ends, because it calls no lookup itself. So
only the lookups can nest without bound. -/
theorem clearSession_finishes (token : String) (found : Except String Session) :
    (clearSession token found).Finishes := by
  cases found with
  | error error => exact fun _ _ => trivial
  | ok session => exact fun _ _ _ => trivial

/-- The lookup of a user always ends, after its one statement. -/
theorem getUserById_finishes (userId : String) : (getUserById userId).Finishes := by
  intro result
  cases result with
  | error error => trivial
  | ok found => cases found <;> trivial

/-- The creation of a session always ends. It looks nothing up, and each of its commands is
followed by at most five others. -/
theorem createSession_finishes (sessionTTL : SessionTTL) (user : User) :
    (createSession sessionTTL user).Finishes := by
  apply Finishes.bind
  · intro drawn
    cases drawn <;> trivial
  · intro token
    cases token with
    | error error => trivial
    | ok token =>
      intro started createdAt stored
      cases stored with
      | error error => trivial
      | ok _ =>
        intro added
        cases added with
        | error error => trivial
        | ok _ => exact fun _ _ => trivial

/-- A read of a session key ends with what it has seen: an error when it saw nothing, and
otherwise the session. What follows then runs by itself on the stores as they are one command
later. -/
theorem alone_redisGet {α : Type} (token : String) (next : Except String Session → Handler α)
    (choices : Nat → Choice) (store : Store) :
    (store.seen (choices 0) token = none ∧ ∃ error,
        alone (perform bcrypt) (redisGet (.session token) >>= next) choices store =
          alone (perform bcrypt) (next (.error error)) (after 1 choices) (store.wait (choices 0))) ∨
      ∃ session, store.seen (choices 0) token = some session ∧
        alone (perform bcrypt) (redisGet (.session token) >>= next) choices store =
          alone (perform bcrypt) (next (.ok session)) (after 1 choices)
            (store.wait (choices 0)) := by
  unfold redisGet askRedis Store.seen
  simp only [issue_bind, call_bind, alone_call, perform]
  cases (choices 0).failure with
  | some error => exact Or.inl ⟨rfl, error, rfl⟩
  | none =>
    simp only [Redis.execute, Redis.lookup]
    cases (store.wait (choices 0)).redis.find? (.session token) with
    | none => exact Or.inl ⟨rfl, _, rfl⟩
    | some entry =>
      obtain ⟨key, value, deadline⟩ := entry
      cases value with
      | members tokens => exact Or.inl ⟨rfl, _, rfl⟩
      | string text =>
        cases decoded : text.decode with
        | error error => exact Or.inl ⟨by simp [decoded, Except.toOption], error, by simp [decoded]⟩
        | ok session =>
          exact Or.inr ⟨session, by simp [decoded, Except.toOption], by simp [decoded]⟩

/-- The state after a lookup that has read the clock, two commands after it began; neither of
them changes the contents of a store. -/
def Store.checked (store : Store) (choices : Nat → Choice) : Store :=
  (store.wait (choices 0)).wait (choices 1)

section GetSession

variable {choices : Nat → Choice} {store : Store} {token : String} (stack : Nat)

/-- A lookup that sees nothing ends at once, with one error for a missing key, a text that
does not decode and a store that fails. -/
theorem alone_getSession_unseen (unseen : store.seen (choices 0) token = none) :
    alone (perform bcrypt) (getSession (stack + 1) token) choices store =
      some (.error "session not found or expired", store.wait (choices 0), after 1 choices) := by
  rcases alone_redisGet bcrypt token _ choices store with ⟨-, error, outcome⟩ | ⟨session, seen, -⟩
  · exact outcome
  · exact absurd seen (by simp [unseen])

/-- A lookup that sees a session in time returns it, after its reading of the clock. No call
is nested then, so any room for them is enough. -/
theorem alone_getSession_current {session : Session}
    (seen : store.seen (choices 0) token = some session)
    (current : (store.checked choices).clock ≤ session.expiresAt) :
    alone (perform bcrypt) (getSession (stack + 1) token) choices store =
      some (.ok session, store.checked choices, after 2 choices) := by
  rcases alone_redisGet bcrypt token _ choices store with ⟨unseen, -⟩ | ⟨other, same, outcome⟩
  · exact absurd seen (by simp [unseen])
  · obtain rfl : other = session := by simpa [seen] using same.symm
    apply outcome.trans
    have inTime : ¬ other.expiresAt < (store.checked choices).clock := by omega
    exact congrArg (alone (perform bcrypt) · _ _) (if_neg inTime)

/-- A lookup that sees a session too late deletes it, and starts again with that. -/
theorem alone_getSession_expired {session : Session}
    (seen : store.seen (choices 0) token = some session)
    (expired : session.expiresAt < (store.checked choices).clock) :
    alone (perform bcrypt) (getSession (stack + 1) token) choices store =
      (alone (perform bcrypt) (deleteSession stack token) (after 2 choices)
        (store.checked choices)).bind (fun outcome => some (.error "session expired", outcome.2)) := by
  rcases alone_redisGet bcrypt token _ choices store with ⟨unseen, -⟩ | ⟨other, same, outcome⟩
  · exact absurd seen (by simp [unseen])
  · obtain rfl : other = session := by simpa [seen] using same.symm
    apply outcome.trans
    refine (congrArg (alone (perform bcrypt) · _ _) (if_pos expired)).trans ?_
    exact alone_bind (perform bcrypt) _ _ _ _

/-- A deletion runs a lookup and then what follows it, on the stores and with the choices that
the lookup has left. -/
theorem alone_deleteSession (choices : Nat → Choice) (store : Store) (token : String) :
    alone (perform bcrypt) (deleteSession (stack + 1) token) choices store =
      (alone (perform bcrypt) (getSession stack token) choices store).bind (fun outcome =>
        alone (perform bcrypt) (clearSession token outcome.1) outcome.2.2 outcome.2.1) := by
  rw [deleteSession_succ, alone_bind]

end GetSession

end ShoppingCS.Auth
