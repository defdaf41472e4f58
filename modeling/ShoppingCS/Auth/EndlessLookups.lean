import ShoppingCS.Auth.Termination
import ShoppingCS.Interleaving.Approximation

/-!
# Session calls in any surroundings

Between two commands of a request the stores can change in any way: other requests run,
keys expire, a store fails. Whatever happens there, a lookup of a token ends unless the
lookup and every one that repeats it find an expired session; the calls that begin with a
lookup end exactly when it does, and with more room on the stack they end the same way.
-/

namespace ShoppingCS.Auth

open Interleaving Program

/-- What one lookup finds, before anything is done about it. -/
inductive Verdict where
  | absent
  | expired
  | current (session : Session)

/-- The two commands of a lookup, a read of the key and a look at the clock, with what they
say about the token. -/
def inspect (token : String) : Handler Verdict := do
  match ← redisGet (.session token) with
  | .error _ => pure .absent
  | .ok session => do
    let now ← timeNow
    pure (if session.expiresAt < now then .expired else .current session)

/-- What a lookup does about the verdict: it returns the session, reports that there is none,
or deletes the expired one, which looks it up again. -/
def answerVerdict (stack : Nat) (token : String) : Verdict → Handler (Except String Session)
  | .absent => pure (.error "session not found or expired")
  | .expired => do
    deleteSession stack token
    pure (.error "session expired")
  | .current session => pure (.ok session)

/-- A lookup is an inspection and what is done about it. -/
theorem getSession_inspect (stack : Nat) (token : String) :
    getSession (stack + 1) token = (inspect token >>= answerVerdict stack token) := by
  rw [getSession_succ, inspect, Program.bind_assoc]
  congr 1
  funext found
  cases found with
  | error error => rfl
  | ok session =>
    simp only [checkSession, timeNow, issue_bind, call_bind]
    congr 1
    funext now
    unfold judgeSession
    split <;> rfl

/-- An inspection ends in any surroundings, being two commands and no call. -/
theorem inspect_finishes (token : String) : (inspect token).Finishes := by
  apply Finishes.bind
  · intro reply
    rcases reply with error | _ | text
    · trivial
    · trivial
    · trivial
  · intro found
    cases found with
    | error error => trivial
    | ok session => exact fun now => trivial

/-- Inspections that go on while they find an expired session, one more than the given
number at most. -/
def inspections (token : String) : (repeats : Nat) → Handler Verdict
  | 0 => inspect token
  | repeats + 1 => do
    match ← inspect token with
    | .expired => inspections token repeats
    | verdict => pure verdict

/-- More room on the stack lets a lookup and a deletion go on. -/
theorem sessionCalls_grow (token : String) :
    Grows (getSession · token) ∧ Grows (deleteSession · token) := by
  have both (stack : Nat) :
      (getSession stack token).Approximates (getSession (stack + 1) token) ∧
        (deleteSession stack token).Approximates (deleteSession (stack + 1) token) := by
    induction stack with
    | zero => exact ⟨trivial, trivial⟩
    | succ stack inductionHypothesis =>
      obtain ⟨lookup, deletion⟩ := inductionHypothesis
      constructor
      · rw [getSession_inspect, getSession_inspect]
        apply (Approximates.refl (inspect token)).bind
        intro verdict
        cases verdict with
        | absent => exact Approximates.refl _
        | expired => exact deletion.bind (fun _ => Approximates.refl _)
        | current session => exact Approximates.refl _
      · rw [deleteSession_succ, deleteSession_succ]
        exact lookup.bind (fun found => Approximates.refl (clearSession token found))
  exact ⟨fun stack => (both stack).1, fun stack => (both stack).2⟩

section Surroundings

variable {World Chance : Type}
  (surroundings : (command : Command) → Chance → World → command.Result × World)

/-- Every inspection, however often it is repeated, finds an expired session. -/
def Stuck (token : String) (situation : Situation World Chance) : Prop :=
  ∀ repeats, ∃ left,
    (inspections token repeats).outcome surroundings situation = some (.expired, left)

variable {surroundings} {token : String} {situation left : Situation World Chance}

/-- Where an inspection finds an expired session, one more repetition is the same repetitions
from the situation it leaves. -/
theorem inspections_expired (repeats : Nat)
    (expired : (inspect token).outcome surroundings situation = some (.expired, left)) :
    (inspections token (repeats + 1)).outcome surroundings situation =
      (inspections token repeats).outcome surroundings left := by
  rw [inspections, outcome_bind, expired]
  rfl

/-- Behind an expired session the calls are stuck if they were before. -/
theorem stuck_iff_left
    (expired : (inspect token).outcome surroundings situation = some (.expired, left)) :
    Stuck surroundings token situation ↔ Stuck surroundings token left := by
  constructor
  · intro stuck repeats
    rw [← inspections_expired repeats expired]
    exact stuck (repeats + 1)
  · intro stuck repeats
    cases repeats with
    | zero => exact ⟨left, expired⟩
    | succ repeats =>
      rw [inspections_expired repeats expired]
      exact stuck repeats

/-- If every inspection finds the session expired, the two functions call each other at every
depth and return at none. By induction on the depth, for both at once. -/
theorem stuck_never_ends (stuck : Stuck surroundings token situation) (stack : Nat) :
    (getSession stack token).outcome surroundings situation = none ∧
      (deleteSession stack token).outcome surroundings situation = none := by
  induction stack generalizing situation with
  | zero => exact ⟨rfl, rfl⟩
  | succ stack inductionHypothesis =>
    constructor
    · obtain ⟨left, expired⟩ := stuck 0
      have below := (inductionHypothesis ((stuck_iff_left expired).mp stuck)).2
      rw [getSession_inspect, outcome_bind]
      change ((inspect token).outcome surroundings situation).bind _ = none
      rw [show (inspect token).outcome surroundings situation = some (.expired, left) from expired,
        Option.bind_some, answerVerdict, outcome_bind, below, Option.bind_none]
    · rw [deleteSession_succ, outcome_bind, (inductionHypothesis stuck).1, Option.bind_none]

/-- What a lookup does about a verdict grows as the calls do. -/
theorem answerVerdict_grows (token : String) (verdict : Verdict) :
    Grows (answerVerdict · token verdict) := by
  cases verdict with
  | absent => exact Grows.const _
  | expired => exact (sessionCalls_grow token).2.bind (fun _ => Grows.const _)
  | current session => exact Grows.const _

/-- A lookup ends as what it does about its verdict. -/
theorem getSession_endsWith {ended : Except String Session × Situation World Chance} :
    EndsWith surroundings (getSession · token) situation ended ↔
      ∃ verdict left, (inspect token).outcome surroundings situation = some (verdict, left) ∧
        EndsWith surroundings (answerVerdict · token verdict) left ended := by
  rw [← endsWith_succ surroundings (sessionCalls_grow token).1]
  simp only [getSession_inspect]
  rw [endsWith_bind surroundings (Grows.const (inspect token)) (answerVerdict_grows token)]
  simp only [endsWith_const]

/-- A deletion ends exactly when its lookup does, because the deletions behind the lookup
always end. -/
theorem deleteSession_ends :
    Ends surroundings (deleteSession · token) situation ↔
      Ends surroundings (getSession · token) situation := by
  rw [← ends_bind_finishes surroundings (sessionCalls_grow token).1 (clearSession_finishes token)]
  exact exists_congr (fun ended => (endsWith_succ surroundings (sessionCalls_grow token).2).symm)

/-- A lookup that finds no expired session ends at once. -/
theorem lookup_ends_at_once {verdict : Verdict}
    (found : (inspect token).outcome surroundings situation = some (verdict, left))
    (other : verdict ≠ .expired) : Ends surroundings (getSession · token) situation := by
  cases verdict with
  | absent => exact ⟨_, getSession_endsWith.mpr ⟨_, _, found, 0, rfl⟩⟩
  | expired => exact absurd rfl other
  | current session => exact ⟨_, getSession_endsWith.mpr ⟨_, _, found, 0, rfl⟩⟩

/-- A lookup that finds an expired session ends if it does behind it. -/
theorem lookup_ends_behind
    (expired : (inspect token).outcome surroundings situation = some (.expired, left))
    (behind : Ends surroundings (getSession · token) left) :
    Ends surroundings (getSession · token) situation := by
  have deletion : Ends surroundings (answerVerdict · token .expired) left :=
    (ends_bind_finishes surroundings (sessionCalls_grow token).2 (fun _ => finishes_answer _)).mpr
      (deleteSession_ends.mpr behind)
  obtain ⟨ended, found⟩ := deletion
  exact ⟨ended, getSession_endsWith.mpr ⟨.expired, left, expired, found⟩⟩

/-- Any number of repeated inspections ends, each being two commands. -/
theorem inspections_finishes (token : String) (repeats : Nat) :
    (inspections token repeats).Finishes := by
  induction repeats with
  | zero => exact inspect_finishes token
  | succ repeats inductionHypothesis =>
    apply (inspect_finishes token).bind
    intro verdict
    cases verdict with
    | absent => trivial
    | expired => exact inductionHypothesis
    | current session => trivial

/-- A lookup ends if some repetition finds no expired session. -/
theorem lookup_ends {repeats : Nat} {verdict : Verdict}
    (found : (inspections token repeats).outcome surroundings situation = some (verdict, left))
    (other : verdict ≠ .expired) : Ends surroundings (getSession · token) situation := by
  induction repeats generalizing situation with
  | zero => exact lookup_ends_at_once found other
  | succ repeats inductionHypothesis =>
    obtain ⟨first, middle, inspected⟩ := (inspect_finishes token).outcome surroundings situation
    cases first with
    | absent => exact lookup_ends_at_once inspected (by simp)
    | current session => exact lookup_ends_at_once inspected (by simp)
    | expired =>
      rw [inspections_expired repeats inspected] at found
      exact lookup_ends_behind inspected (inductionHypothesis found)

/-- A lookup ends exactly when it is not stuck: an inspection that finds the session gone or
current is where the calls stop. -/
theorem getSession_ends_iff :
    Ends surroundings (getSession · token) situation ↔ ¬ Stuck surroundings token situation := by
  constructor
  · intro ends stuck
    obtain ⟨ended, stack, found⟩ := ends
    rw [(stuck_never_ends stuck stack).1] at found
    exact absurd found (by simp)
  · intro free
    obtain ⟨repeats, unexpired⟩ := not_forall.mp free
    obtain ⟨verdict, left, found⟩ := (inspections_finishes token repeats).outcome surroundings situation
    apply lookup_ends found
    intro expired
    exact unexpired ⟨left, expired ▸ found⟩

/-- A lookup returns the sessions that its inspection finds to count. -/
theorem getSession_ok_iff {session : Session} :
    EndsWith surroundings (getSession · token) situation (.ok session, left) ↔
      (inspect token).outcome surroundings situation = some (.current session, left) := by
  rw [getSession_endsWith]
  constructor
  · intro parts
    obtain ⟨verdict, middle, inspected, stack, answered⟩ := parts
    cases verdict with
    | absent =>
      have same := congrArg Prod.fst (Option.some.inj answered)
      exact absurd same (by simp)
    | expired =>
      obtain ⟨_, _, -, refused⟩ := (outcome_bind_eq_some surroundings).mp answered
      have same := congrArg Prod.fst (Option.some.inj refused)
      exact absurd same (by simp)
    | current other =>
      obtain ⟨same, rfl⟩ := Prod.mk.inj (Option.some.inj answered)
      obtain rfl := Except.ok.inj same
      exact inspected
  · intro inspected
    exact ⟨.current session, left, inspected, 0, rfl⟩

/-- A token passes: the lookup finds a session that counts, and the session has a user. -/
def Passes (surroundings : (command : Command) → Chance → World → command.Result × World)
    (token : String) (situation : Situation World Chance) (user : User)
    (left : Situation World Chance) : Prop :=
  ∃ session middle,
    (inspect token).outcome surroundings situation = some (.current session, middle) ∧
      (getUserById session.userId).outcome surroundings middle = some (.ok user, left)

/-- What follows the lookup of a user, by what it has found. Both functions that look a user
up have this shape. -/
def afterUser {α : Type} (unknown : String → Handler α) (proceed : User → Handler α) :
    Except String User → Handler α
  | .error error => unknown error
  | .ok user => proceed user

/-- What follows the lookup of a session that leads to its user. -/
def afterSession {α : Type} (refuse unknown : String → Handler α) (proceed : User → Handler α) :
    Except String Session → Handler α
  | .error error => refuse error
  | .ok session => getUserById session.userId >>= afterUser unknown proceed

section WithUser

variable {α : Type} (refuse unknown : String → Handler α) {proceed : Nat → User → Handler α}
  (grows : ∀ user, Grows (proceed · user))

include grows

/-- What follows grows with the depth if the branch for a user that is found does. -/
theorem afterUser_grows (result : Except String User) :
    Grows (fun stack => afterUser unknown (proceed stack) result) := by
  cases result with
  | error error => exact Grows.const _
  | ok user => exact grows user

theorem afterSession_grows (found : Except String Session) :
    Grows (fun stack => afterSession refuse unknown (proceed stack) found) := by
  cases found with
  | error error => exact Grows.const _
  | ok session => exact (Grows.const (getUserById session.userId)).bind (afterUser_grows unknown grows)

/-- A lookup that leads to a user ends exactly when it is not stuck and, if the token
passes, what follows ends. -/
theorem withUser_ends (refuses : ∀ error, (refuse error).Finishes)
    (gives_up : ∀ error, (unknown error).Finishes) :
    Ends surroundings
        (fun stack => getSession stack token >>= afterSession refuse unknown (proceed stack))
        situation ↔
      ¬ Stuck surroundings token situation ∧
        ∀ user left, Passes surroundings token situation user left →
          Ends surroundings (proceed · user) left := by
  rw [ends_bind surroundings (sessionCalls_grow token).1 (afterSession_grows refuse unknown grows),
    ← getSession_ends_iff]
  have follows (session : Session) (middle : Situation World Chance) :
      Ends surroundings (fun stack => afterSession refuse unknown (proceed stack) (.ok session))
          middle ↔
        ∃ result left, (getUserById session.userId).outcome surroundings middle =
            some (result, left) ∧
          Ends surroundings (fun stack => afterUser unknown (proceed stack) result) left := by
    simp only [afterSession]
    rw [ends_bind surroundings (Grows.const _) (afterUser_grows unknown grows)]
    simp only [endsWith_const]
  constructor
  · intro parts
    obtain ⟨found, middle, looked, rest⟩ := parts
    refine ⟨⟨_, looked⟩, ?_⟩
    intro user left passes
    obtain ⟨session, middle', inspected, known⟩ := passes
    obtain ⟨rfl, rfl⟩ := Prod.mk.inj (looked.unique surroundings (sessionCalls_grow token).1
      (getSession_ok_iff.mpr inspected))
    obtain ⟨result, left', same, ends⟩ := (follows session middle).mp rest
    obtain ⟨rfl, rfl⟩ := Prod.mk.inj (Option.some.inj (same.symm.trans known))
    exact ends
  · intro conditions
    obtain ⟨⟨⟨found, middle⟩, looked⟩, proceeds⟩ := conditions
    refine ⟨found, middle, looked, ?_⟩
    cases found with
    | error error =>
      obtain ⟨value, left, ended⟩ := (refuses error).outcome surroundings middle
      exact ⟨(value, left), 0, ended⟩
    | ok session =>
      obtain ⟨result, left, known⟩ :=
        (getUserById_finishes session.userId).outcome surroundings middle
      refine (follows session middle).mpr ⟨result, left, known, ?_⟩
      cases result with
      | error error =>
        obtain ⟨value, left', ended⟩ := (gives_up error).outcome surroundings left
        exact ⟨(value, left'), 0, ended⟩
      | ok user => exact proceeds user left ⟨session, middle, getSession_ok_iff.mp looked, known⟩

end WithUser

end Surroundings

/-- The refusal of a check for which no session has been found, whatever the lookup has said.
-/
def refuseToken (_ : String) : Handler (Except String User) :=
  pure (.error "invalid or expired token")

/-- The answer for a session whose user has not been found, with the error of the lookup in
its text. -/
def missUser {α : Type} (error : String) : Handler (Except String α) :=
  pure (.error ("user not found: " ++ error))

def acceptUser (user : User) : Handler (Except String User) := pure (.ok user)

/-- A rotation passes the error of its lookup on as it is, unlike the check. -/
def passError {α : Type} (error : String) : Handler (Except String α) := pure (.error error)

/-- What a rotation does once the session and the user are known: it deletes the old session
and creates another. -/
def rotate (sessionTTL : SessionTTL) (token : String) (stack : Nat) (user : User) :
    Handler (Except String Session) := do
  deleteSession stack token
  createSession sessionTTL user

/-- The check of a token that is not empty, as a lookup that leads to a user. -/
theorem validateToken_eq {token : String} (named : token ≠ "") (stack : Nat) :
    validateToken stack token =
      (getSession stack token >>= afterSession refuseToken missUser acceptUser) := by
  rw [validateToken, if_neg named]
  rfl

/-- A rotation as a lookup that leads to a user. -/
theorem refreshSession_eq (sessionTTL : SessionTTL) (token : String) (stack : Nat) :
    refreshSession sessionTTL stack token =
      (getSession stack token >>=
        afterSession passError missUser (rotate sessionTTL token stack)) := rfl

section Requests

variable {World Chance : Type}
  {surroundings : (command : Command) → Chance → World → command.Result × World}
  {token : String} {situation left : Situation World Chance}

theorem check_grows (found : Except String Session) :
    Grows (fun _ => afterSession refuseToken missUser acceptUser found) :=
  Grows.const _

/-- The check of a token grows with its lookup; what comes behind the lookup has no calls. -/
theorem validateToken_grows (token : String) : Grows (validateToken · token) := by
  by_cases named : token = ""
  · intro stack
    simp only [validateToken, if_pos named]
    exact Approximates.refl _
  · simp only [validateToken_eq named]
    exact (sessionCalls_grow token).1.bind check_grows

/-- The deletion in a rotation grows, and so does what follows. -/
theorem rotate_grows (sessionTTL : SessionTTL) (token : String) (user : User) :
    Grows (rotate sessionTTL token · user) :=
  (sessionCalls_grow token).2.bind (fun _ => Grows.const _)

/-- A rotation grows with its lookup and its deletion, the two calls it makes. -/
theorem refreshSession_grows (sessionTTL : SessionTTL) (token : String) :
    Grows (refreshSession sessionTTL · token) := by
  simp only [refreshSession_eq]
  exact (sessionCalls_grow token).1.bind
    (afterSession_grows passError missUser (rotate_grows sessionTTL token))

/-- The check of a token ends exactly when its lookup is not stuck. -/
theorem validateToken_ends_iff (named : token ≠ "") :
    Ends surroundings (validateToken · token) situation ↔ ¬ Stuck surroundings token situation := by
  simp only [validateToken_eq named]
  apply (withUser_ends refuseToken missUser (fun user => Grows.const (acceptUser user))
    (fun _ => finishes_answer _) (fun _ => finishes_answer _)).trans
  apply and_iff_left
  intro user left _
  exact ⟨(.ok user, left), 0, rfl⟩

/-- The check returns a user exactly when the token passes: the lookup has returned a session
and the user of that session was found. -/
theorem validateToken_ok_iff (named : token ≠ "") {user : User} :
    EndsWith surroundings (validateToken · token) situation (.ok user, left) ↔
      Passes surroundings token situation user left := by
  simp only [validateToken_eq named]
  apply (endsWith_bind surroundings (sessionCalls_grow token).1 check_grows).trans
  constructor
  · intro parts
    obtain ⟨found, middle, looked, stack, answered⟩ := parts
    cases found with
    | error error =>
      have same := congrArg Prod.fst (Option.some.inj answered)
      exact absurd same (by simp)
    | ok session =>
      obtain ⟨result, left', known, accepted⟩ := (outcome_bind_eq_some surroundings).mp answered
      cases result with
      | error error =>
        have same := congrArg Prod.fst (Option.some.inj accepted)
        exact absurd same (by simp)
      | ok other =>
        obtain ⟨same, rfl⟩ := Prod.mk.inj (Option.some.inj accepted)
        obtain rfl := Except.ok.inj same
        exact ⟨session, middle, getSession_ok_iff.mp looked, known⟩
  · intro passes
    obtain ⟨session, middle, inspected, known⟩ := passes
    exact ⟨.ok session, middle, getSession_ok_iff.mpr inspected, 0,
      (outcome_bind_eq_some surroundings).mpr ⟨.ok user, left, known, rfl⟩⟩

/-- A rotation ends exactly when its lookup is not stuck and, if the token passes, neither
is that of the deletion. -/
theorem refreshSession_ends_iff (sessionTTL : SessionTTL) :
    Ends surroundings (refreshSession sessionTTL · token) situation ↔
      ¬ Stuck surroundings token situation ∧
        ∀ user left, Passes surroundings token situation user left →
          ¬ Stuck surroundings token left := by
  have deletion (user : User) (left : Situation World Chance) :
      Ends surroundings (rotate sessionTTL token · user) left ↔ ¬ Stuck surroundings token left := by
    unfold rotate
    rw [ends_bind_finishes surroundings (sessionCalls_grow token).2
      (fun _ => createSession_finishes sessionTTL user), deleteSession_ends, getSession_ends_iff]
  simp only [refreshSession_eq]
  apply (withUser_ends passError missUser (rotate_grows sessionTTL token)
    (fun _ => finishes_answer _) (fun _ => finishes_answer _)).trans
  simp only [deletion]

/-- The calls of a request end: an empty token is refused before any call; otherwise no
lookup that the request makes of its token is stuck. A refresh looks three times, each
time only if the token has passed before. -/
def Settles (surroundings : (command : Command) → Chance → World → command.Result × World)
    (operation : Operation) (situation : Situation World Chance) : Prop :=
  match operation with
  | .validate token | .logout token => token = "" ∨ ¬ Stuck surroundings token situation
  | .refresh token =>
    token = "" ∨
      ¬ Stuck surroundings token situation ∧
        ∀ user left, Passes surroundings token situation user left →
          ¬ Stuck surroundings token left ∧
            ∀ user' left', Passes surroundings token left user' left' →
              ¬ Stuck surroundings token left'
  | _ => True

/-- A request without a token, or with an empty one, makes no calls that could be stuck. -/
theorem settles_of_token {operation : Operation}
    (bare : operation.token? = none ∨ operation.token? = some "") :
    Settles surroundings operation situation := by
  have empty {token : String} (listed : some token = none ∨ some token = some "") : token = "" :=
    listed.elim (fun missing => absurd missing (by simp)) Option.some.inj
  cases operation with
  | register username email password => trivial
  | login username password => trivial
  | unknown type => trivial
  | logout token => exact Or.inl (empty bare)
  | validate token => exact Or.inl (empty bare)
  | refresh token => exact Or.inl (empty bare)

def logoutAnswer (_ : Unit) : Handler Response :=
  pure (.success (.message "logged out successfully"))

/-- A logout of a token that is not empty is a deletion with a fixed answer behind it, so the
deletion's errors are lost. -/
theorem handleLogout_eq (named : token ≠ "") (stack : Nat) :
    handleLogout stack token = (deleteSession stack token >>= logoutAnswer) := by
  rw [handleLogout, if_neg named, logout, if_neg named, Program.bind_assoc]
  rfl

/-- The answer of a validation, which is a success also for a token that is not valid. -/
def validateAnswer : Except String User → Handler Response
  | .error _ => pure (.success (.validate invalid))
  | .ok user => pure (.success (.validate user.validated))

theorem handleValidate_eq (named : token ≠ "") (stack : Nat) :
    handleValidate stack token = (validateToken stack token >>= validateAnswer) := by
  rw [handleValidate, if_neg named]
  rfl

/-- The answer of a rotation: the new session as a login would report it, or the error. -/
def refreshAnswer : Except String Session → Handler Response
  | .error error => pure (.error error)
  | .ok session => pure (.success (.login session.response))

/-- A refresh after its check, which asks for the user a second time within the rotation. -/
def afterCheck (sessionTTL : SessionTTL) (token : String) (stack : Nat) :
    Except String User → Handler Response
  | .error _ => pure (.error "invalid or expired token")
  | .ok _ => refreshSession sessionTTL stack token >>= refreshAnswer

theorem handleRefresh_eq (sessionTTL : SessionTTL) (named : token ≠ "") (stack : Nat) :
    handleRefresh sessionTTL stack token =
      (validateToken stack token >>= afterCheck sessionTTL token stack) := by
  rw [handleRefresh, if_neg named]
  rfl

/-- What follows the check grows with the rotation, where the check has let it begin. -/
theorem afterCheck_grows (sessionTTL : SessionTTL) (token : String) (checked : Except String User) :
    Grows (afterCheck sessionTTL token · checked) := by
  cases checked with
  | error error => exact Grows.const _
  | ok user => exact (refreshSession_grows sessionTTL token).bind (fun _ => Grows.const _)

/-- An empty token is answered by the handler itself, without a lookup, so such a request ends
at once. -/
theorem handleRequest_empty (bcrypt : Bcrypt) (sessionTTL : SessionTTL) (stack : Nat)
    {operation : Operation} (empty : operation.token? = some "") :
    handleRequest bcrypt sessionTTL stack operation = pure (.error "token is required") := by
  cases operation with
  | register username email password => exact absurd empty (by simp [Operation.token?])
  | login username password => exact absurd empty (by simp [Operation.token?])
  | unknown type => exact absurd empty (by simp [Operation.token?])
  | logout token => exact if_pos (Option.some.inj empty)
  | validate token => exact if_pos (Option.some.inj empty)
  | refresh token => exact if_pos (Option.some.inj empty)

/-- A request grows with the calls it makes, by the lemma for each of the three operations
with a token. The others make none of these calls. -/
theorem handleRequest_grows (bcrypt : Bcrypt) (sessionTTL : SessionTTL) (operation : Operation) :
    Grows (handleRequest bcrypt sessionTTL · operation) := by
  by_cases empty : operation.token? = some ""
  · simp only [handleRequest_empty bcrypt sessionTTL _ empty]
    exact Grows.const _
  · cases operation with
    | register username email password => exact Grows.const _
    | login username password => exact Grows.const _
    | unknown type => exact Grows.const _
    | logout token =>
      have named : token ≠ "" := fun same => empty (congrArg some same)
      simp only [handleRequest, handleLogout_eq named]
      exact (sessionCalls_grow token).2.bind (fun _ => Grows.const _)
    | validate token =>
      have named : token ≠ "" := fun same => empty (congrArg some same)
      simp only [handleRequest, handleValidate_eq named]
      exact (validateToken_grows token).bind (fun _ => Grows.const _)
    | refresh token =>
      have named : token ≠ "" := fun same => empty (congrArg some same)
      simp only [handleRequest, handleRefresh_eq sessionTTL named]
      exact (validateToken_grows token).bind (afterCheck_grows sessionTTL token)

/-- A registration ends in any surroundings, since it calls neither function. -/
theorem register_finishes (username email password : String) :
    (register username email password).Finishes := by
  unfold register
  split_ifs
  · trivial
  · trivial
  · trivial
  · trivial
  · intro taken
    cases taken with
    | error error => trivial
    | ok taken =>
      cases taken with
      | true => trivial
      | false =>
        change (hashPassword password >>= _).Finishes
        apply Finishes.bind
        · intro hashed
          cases hashed <;> trivial
        · intro hashed
          cases hashed with
          | error error => trivial
          | ok hash =>
            intro id inserted
            cases inserted <;> trivial

/-- A login ends in any surroundings, since it calls neither function. -/
theorem login_finishes (bcrypt : Bcrypt) (sessionTTL : SessionTTL) (username password : String) :
    (login bcrypt sessionTTL username password).Finishes := by
  unfold login
  split_ifs
  · trivial
  · trivial
  · intro found
    rcases found with error | _ | user
    · trivial
    · trivial
    · change (finishLogin sessionTTL user
        (bcrypt.compareHashAndPassword user.passwordHash password)).Finishes
      cases bcrypt.compareHashAndPassword user.passwordHash password with
      | error error => trivial
      | ok same =>
        apply (createSession_finishes sessionTTL user).bind
        intro session
        cases session <;> trivial

/-- A request without a token makes no lookup of a session, and ends whatever the stores
answer. -/
theorem handleRequest_finishes (bcrypt : Bcrypt) (sessionTTL : SessionTTL) (stack : Nat)
    {operation : Operation} (bare : operation.token? = none) :
    (handleRequest bcrypt sessionTTL stack operation).Finishes := by
  cases operation with
  | register username email password =>
    change (handleRegister username email password).Finishes
    unfold handleRegister
    split_ifs
    · trivial
    · apply (register_finishes username email password).bind
      intro user
      cases user <;> trivial
  | login username password =>
    change (handleLogin bcrypt sessionTTL username password).Finishes
    unfold handleLogin
    split_ifs
    · trivial
    · apply (login_finishes bcrypt sessionTTL username password).bind
      intro session
      cases session <;> trivial
  | unknown type => trivial
  | logout token => exact absurd bare (by simp [Operation.token?])
  | validate token => exact absurd bare (by simp [Operation.token?])
  | refresh token => exact absurd bare (by simp [Operation.token?])

/-- A refresh ends exactly when each of its lookups does. -/
theorem handleRefresh_ends_iff (sessionTTL : SessionTTL) (named : token ≠ "") :
    Ends surroundings (handleRefresh sessionTTL · token) situation ↔
      ¬ Stuck surroundings token situation ∧
        ∀ user left, Passes surroundings token situation user left →
          ¬ Stuck surroundings token left ∧
            ∀ user' left', Passes surroundings token left user' left' →
              ¬ Stuck surroundings token left' := by
  have rotation (left : Situation World Chance) (user : User) :
      Ends surroundings (afterCheck sessionTTL token · (.ok user)) left ↔
        Ends surroundings (refreshSession sessionTTL · token) left :=
    ends_bind_finishes surroundings (refreshSession_grows sessionTTL token)
      (fun result => by cases result <;> trivial)
  simp only [handleRefresh_eq sessionTTL named, ← refreshSession_ends_iff sessionTTL]
  rw [ends_bind surroundings (validateToken_grows token) (afterCheck_grows sessionTTL token),
    ← validateToken_ends_iff named]
  constructor
  · intro parts
    obtain ⟨checked, middle, validated, rest⟩ := parts
    refine ⟨⟨_, validated⟩, ?_⟩
    intro user left passes
    obtain ⟨rfl, rfl⟩ := Prod.mk.inj (validated.unique surroundings (validateToken_grows token)
      ((validateToken_ok_iff named).mpr passes))
    exact (rotation middle user).mp rest
  · intro conditions
    obtain ⟨⟨⟨checked, middle⟩, validated⟩, rotates⟩ := conditions
    refine ⟨checked, middle, validated, ?_⟩
    cases checked with
    | error error => exact ⟨_, 0, rfl⟩
    | ok user =>
      exact (rotation middle user).mpr (rotates user middle ((validateToken_ok_iff named).mp validated))

/-- A request ends exactly when the lookups on its way are not stuck. This is the condition
read off from the lemmas for the five operations. -/
theorem handleRequest_ends_iff (bcrypt : Bcrypt) (sessionTTL : SessionTTL) (operation : Operation) :
    Ends surroundings (handleRequest bcrypt sessionTTL · operation) situation ↔
      Settles surroundings operation situation := by
  have bare (tokenless : operation.token? = none) :
      Ends surroundings (handleRequest bcrypt sessionTTL · operation) situation := by
    obtain ⟨response, left, found⟩ :=
      (handleRequest_finishes bcrypt sessionTTL 0 tokenless).outcome surroundings situation
    exact ⟨(response, left), 0, found⟩
  have empty (refused : operation.token? = some "") :
      Ends surroundings (handleRequest bcrypt sessionTTL · operation) situation := by
    simp only [handleRequest_empty bcrypt sessionTTL _ refused]
    exact ⟨(.error "token is required", situation), 0, rfl⟩
  cases operation with
  | register username email password => exact iff_of_true (bare rfl) trivial
  | login username password => exact iff_of_true (bare rfl) trivial
  | unknown type => exact iff_of_true (bare rfl) trivial
  | logout token =>
    by_cases named : token = ""
    · exact iff_of_true (empty (congrArg some named)) (Or.inl named)
    · simp only [handleRequest, handleLogout_eq named, Settles]
      rw [or_iff_right named, ends_bind_finishes surroundings (sessionCalls_grow token).2
        (fun done => by cases done; trivial), deleteSession_ends, getSession_ends_iff]
  | validate token =>
    by_cases named : token = ""
    · exact iff_of_true (empty (congrArg some named)) (Or.inl named)
    · simp only [handleRequest, handleValidate_eq named, Settles]
      rw [or_iff_right named, ends_bind_finishes surroundings (validateToken_grows token)
        (fun checked => by cases checked <;> trivial), validateToken_ends_iff named]
  | refresh token =>
    by_cases named : token = ""
    · exact iff_of_true (empty (congrArg some named)) (Or.inl named)
    · simp only [handleRequest, Settles]
      rw [or_iff_right named, handleRefresh_ends_iff sessionTTL named]

end Requests

/-- By itself and with steady stores, a lookup is stuck exactly when the record is there
and too old. -/
theorem stuck_iff_expired (bcrypt : Bcrypt) {choices : Nat → Choice} (steady : Steady choices)
    (store : Store) (token : String) :
    Stuck (perform bcrypt) token (store, choices) ↔ ExpiredAfter 2 token choices store := by
  have returns : Returns bcrypt (getSession · token) choices store ↔
      Ends (perform bcrypt) (getSession · token) (store, choices) := by
    constructor
    · intro returned
      obtain ⟨stack, answered⟩ := returned
      obtain ⟨ended, found⟩ := Option.isSome_iff_exists.mp answered
      exact ⟨ended, stack, found⟩
    · intro ends
      obtain ⟨ended, stack, found⟩ := ends
      exact ⟨stack, Option.isSome_iff_exists.mpr ⟨ended, found⟩⟩
  rw [getSession_ends_iff, getSession_returns_iff bcrypt steady] at returns
  exact not_iff_not.mp returns.symm

end ShoppingCS.Auth
