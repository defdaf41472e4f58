import Mathlib.Algebra.BigOperators.Group.Finset.Piecewise
import Mathlib.Algebra.Order.BigOperators.Group.Finset
import ShoppingCS.Auth.SecondChecks
import ShoppingCS.Auth.Validation

/-!
# One session for every login

The balance of single tokens adds up to that of a user. Sum what Redis holds over
all tokens in question: every request contributes what it has stored less what it
has exchanged, which is nothing for a refresh, and one at most for a login.
-/

namespace ShoppingCS.Auth

open Interleaving Program Storage

/-- The token of an entry, if it is a session of the user that has not expired. -/
def Entry.liveToken? (user : String) (now : Int) (entry : Entry Key Value) : Option String :=
  match entry.key, entry.value with
  | .session token, .string (.session session) =>
    if session.userId = user ∧ entry.LiveAt now then some token else none
  | _, _ => none

/-- The tokens of a user whose keys are in Redis and have not expired. -/
def sessionsOf (redis : Redis) (user : String) : List String :=
  redis.table.rows.filterMap (Entry.liveToken? user redis.now)

/-- The username a login asks for, and nothing for the other operations. -/
def Operation.login? : Operation → Option String
  | .login username _ => some username
  | _ => none

/-- The id of the user an event has found by name. -/
def namedBy : Event Command Command.Result → Option String
  | ⟨.postgres (.selectUserByUsername _), .ok (some user)⟩ => some user.id
  | _ => none

/-- A login that has found the user calls `CreateSession`, whose first command draws
a token. -/
def Creating (user : String) (task : AuthTask) : Prop :=
  task.request.operation.login?.isSome ∧ user ∈ task.trace.filterMap namedBy ∧
    ∃ event ∈ task.trace, event.command = .generateToken

instance (user : String) (task : AuthTask) : Decidable (Creating user task) :=
  inferInstanceAs (Decidable (_ ∧ _ ∧ _))

/-- How many sessions logins of the user have begun to create. -/
def creations (user : String) (tasks : List AuthTask) : Nat :=
  tasks.countP (fun task => Creating user task)

/-- A refresh of the token has been answered with a new session, whatever the session is. -/
def Refreshed (task : AuthTask) (token : String) : Prop :=
  task.request.operation = .refresh token ∧ ∃ data, task.answer? = some (.success data)

section Sums

variable {Item Index : Type}

/-- A sum over places of sums over items is the sum over items of sums over places, as in any
exchange of finite sums. -/
theorem sum_total (indices : Finset Index) (measure : Index → Item → Int) (items : List Item) :
    ∑ index ∈ indices, total (measure index) items =
      total (fun item => ∑ index ∈ indices, measure index item) items := by
  induction items with
  | nil => simp
  | cons item items inductionHypothesis =>
    simp only [total_cons, Finset.sum_add_distrib, inductionHypothesis]

/-- A list is as long as the total of its indicator. -/
theorem total_indicator (chosen : Item → Prop) [DecidablePred chosen] (items : List Item) :
    total (fun item => if chosen item then 1 else 0) items =
      items.countP (fun item => chosen item) := by
  induction items with
  | nil => rfl
  | cons item items inductionHypothesis =>
    rw [total_cons, inductionHypothesis, List.countP_cons]
    by_cases here : chosen item
    · simp [here]
      omega
    · simp [here]

end Sums

section Sessions

variable {redis : Redis} {user : String}

/-- A live token leads to an entry with a session of the user. -/
theorem liveToken_some {now : Int} {entry : Entry Key Value} {token : String}
    (live : Entry.liveToken? user now entry = some token) :
    entry.key = .session token ∧
      ∃ session, entry.value = .string (.session session) ∧ session.userId = user := by
  unfold Entry.liveToken? at live
  split at live
  · rename_i own session key value
    split at live
    · rename_i both
      obtain rfl := Option.some.inj live
      exact ⟨key, session, value, both.1⟩
    · simp at live
  · simp at live

/-- No token is counted twice, because a key leads to one record only and a record names its
token by its key. -/
theorem sessionsOf_nodup (redis : Redis) (user : String) : (sessionsOf redis user).Nodup := by
  have distinct : redis.table.rows.Pairwise (fun first second => first.key ≠ second.key) :=
    List.pairwise_map.mp redis.table.unique
  refine List.Pairwise.filterMap _ ?_ distinct
  intro first second different token here other there
  rintro rfl
  exact different ((liveToken_some here).1.trans (liveToken_some there).1.symm)

/-- Redis holds a session of the user for every one of them. -/
theorem holdsFor_sessionsOf {token : String} (member : token ∈ sessionsOf redis user) :
    holdsFor redis token user = 1 := by
  obtain ⟨entry, stored, live⟩ := List.mem_filterMap.mp member
  obtain ⟨key, session, value, own⟩ := liveToken_some live
  have present : redis.table.get? (.session token) = some entry :=
    KeyedTable.get?_eq_some.mpr ⟨stored, key⟩
  obtain ⟨_, _, deadline⟩ := entry
  obtain rfl := value
  simp [holdsFor, present, own]

end Sessions

section Counting

variable {bcrypt : Bcrypt} {sessionTTL : SessionTTL} {stack : Nat} {state : AuthState}

/-- Summed over tokens, a request has stored for a user at most what it has stored. -/
theorem sum_storedFor (tokens : Finset String) (user : String) {task : AuthTask} {session : Session}
    (single : stored task.trace = [session]) :
    ∑ token ∈ tokens, storedFor token user task ≤ if session.userId = user then 1 else 0 := by
  have each (token : String) : storedFor token user task =
      if token = session.token then (if session.userId = user then 1 else 0) else 0 := by
    unfold storedFor
    change ((List.countP _ (stored task.trace) : Nat) : Int) = _
    rw [single]
    by_cases same : session.token = token
    · by_cases own : session.userId = user <;> simp [same, own]
    · have other : token ≠ session.token := fun equal => same equal.symm
      simp [same, other]
  simp only [each]
  rw [Finset.sum_ite_eq']
  split
  · exact Int.le_refl _
  · split <;> omega

/-- An exchange counts one and everything else nothing, so the count is never negative. -/
theorem rotatedFor_nonneg (token user : String) (task : AuthTask) : 0 ≤ rotatedFor token user task := by
  unfold rotatedFor
  split <;> omega

/-- A login that has stored a session of the user has begun to create one. -/
theorem creating_of_stored {task : AuthTask} {session : Session} {username password : String}
    {user : User} (asked : task.request.operation = .login username password)
    (found : ⟨.postgres (.selectUserByUsername username), .ok (some user)⟩ ∈ task.trace)
    (owns : session.For user) (draw : drawn task.trace = [session.token]) :
    Creating session.userId task := by
  refine ⟨by simp [asked, Operation.login?], List.mem_filterMap.mpr ⟨_, found, ?_⟩, ?_⟩
  · simp [namedBy, owns.1]
  · have draws : session.token ∈ drawn task.trace := by simp [draw]
    obtain ⟨event, recorded, drawn⟩ := List.mem_filterMap.mp draws
    obtain ⟨token, rfl, -⟩ := drawnBy_some drawn
    exact ⟨_, recorded, rfl⟩

/-- A refresh that has stored a session of the user has exchanged its token for one. -/
theorem Balanced.exchanged (balanced : Balanced bcrypt sessionTTL stack state) {task : AuthTask}
    (member : task ∈ state.tasks) {token : String} (asked : task.request.operation = .refresh token)
    {session : Session} (stores : session ∈ stored task.trace) :
    Exchanged task token ∧ rotatedFor token session.userId task = 1 := by
  obtain ⟨id, user, ⟨twice, second, deletes⟩, found, owns⟩ :=
    (traced_refreshing balanced.traced member asked).stores session stores
  have same := balanced.found task member id user found
  have exchanged : Exchanged task token := ⟨asked, twice, deletes⟩
  refine ⟨exchanged, ?_⟩
  rw [rotatedFor, if_pos ⟨exchanged, by rw [second, owns, same]⟩]

/-- Over all tokens in question, a request contributes nothing unless it is a login
that creates a session of the user. -/
theorem Balanced.contribution (balanced : Balanced bcrypt sessionTTL stack state) {task : AuthTask}
    (member : task ∈ state.tasks) (tokens : Finset String)
    (presented : ∀ token ∈ task.request.operation.token?, token ∈ tokens) (user : String) :
    ∑ token ∈ tokens, (storedFor token user task - rotatedFor token user task) ≤
      if Creating user task then 1 else 0 := by
  rw [Finset.sum_sub_distrib]
  have rotated : 0 ≤ ∑ token ∈ tokens, rotatedFor token user task :=
    Finset.sum_nonneg (fun token _ => rotatedFor_nonneg token user task)
  have credit : (0 : Int) ≤ if Creating user task then 1 else 0 := by split <;> omega
  have minted := traced_minted bcrypt sessionTTL stack balanced.traced member
  rcases List.eq_nil_or_concat (stored task.trace) with none | ⟨earlier, session, some⟩
  · have nothing : ∑ token ∈ tokens, storedFor token user task = 0 := by
      apply Finset.sum_eq_zero
      intro token _
      unfold storedFor
      change ((List.countP _ (stored task.trace) : Nat) : Int) = 0
      simp [none]
    omega
  · obtain ⟨draw, single, owner, -⟩ := minted.sessions session (by simp [some])
    have stores := sum_storedFor tokens user single
    by_cases own : session.userId = user
    · subst own
      rw [if_pos rfl] at stores
      have kept : session ∈ stored task.trace := by simp [single]
      rcases owner with ⟨username, password, found, asked, event, owns⟩ |
        ⟨token, old, found, asked, -⟩
      · rw [if_pos (creating_of_stored asked event owns draw)]
        omega
      · obtain ⟨-, one⟩ := balanced.exchanged member asked kept
        have inside : token ∈ tokens := presented token (by simp [asked, Operation.token?])
        have counted : 1 ≤ ∑ token ∈ tokens, rotatedFor token session.userId task := by
          rw [← one]
          exact Finset.single_le_sum (f := fun token => rotatedFor token session.userId task)
            (fun token _ => rotatedFor_nonneg token session.userId task) inside
        omega
    · rw [if_neg own] at stores
      omega

/-- No user has more sessions in Redis than logins have created. -/
theorem Balanced.sessions_le (balanced : Balanced bcrypt sessionTTL stack state) (user : String) :
    (sessionsOf state.store.redis user).length ≤ creations user state.tasks := by
  let presented := state.tasks.filterMap (fun task => task.request.operation.token?)
  let tokens : Finset String := (sessionsOf state.store.redis user ++ presented).toFinset
  have held : ((sessionsOf state.store.redis user).length : Int) ≤
      ∑ token ∈ tokens, holdsFor state.store.redis token user := by
    have inside : (sessionsOf state.store.redis user).toFinset ⊆ tokens := by
      intro token member
      simp only [tokens, List.toFinset_append, Finset.mem_union]
      exact Or.inl member
    refine le_trans (le_of_eq ?_) (Finset.sum_le_sum_of_subset_of_nonneg inside
      (fun token _ _ => (holdsFor_bounds state.store.redis token user).1))
    rw [Finset.sum_congr rfl (fun token member => holdsFor_sessionsOf (List.mem_toFinset.mp member)),
      Finset.sum_const, List.toFinset_card_of_nodup (sessionsOf_nodup _ _)]
    simp
  have balance : ∑ token ∈ tokens, holdsFor state.store.redis token user ≤
      ∑ token ∈ tokens, total (fun task => storedFor token user task - rotatedFor token user task)
        state.tasks := by
    apply Finset.sum_le_sum
    intro token _
    have before := balanced.balance token user
    have split := total_add (fun task => storedFor token user task - rotatedFor token user task)
      state.tasks (storedFor token user) (rotatedFor token user) (fun task _ => by omega)
    omega
  rw [sum_total] at balance
  have contributions : total (fun task => ∑ token ∈ tokens,
        (storedFor token user task - rotatedFor token user task)) state.tasks ≤
      total (fun task => if Creating user task then 1 else 0) state.tasks := by
    apply List.sum_le_sum
    intro task member
    apply balanced.contribution member tokens _ user
    intro token asked
    simp only [tokens, List.toFinset_append, Finset.mem_union, List.mem_toFinset]
    exact Or.inr (List.mem_filterMap.mpr ⟨task, member, asked⟩)
  have counted := total_indicator (Creating user) state.tasks
  unfold creations
  omega

/-- A refresh that has succeeded has exchanged its token: it has deleted the key and stored
another session. -/
theorem Balanced.refreshed (balanced : Balanced bcrypt sessionTTL stack state) {task : AuthTask}
    (member : task ∈ state.tasks) {token : String} (refreshed : Refreshed task token) :
    Exchanged task token := by
  obtain ⟨asked, data, answered⟩ := refreshed
  obtain ⟨said, rfl⟩ := balanced.traced.answer_admitted member (refresh_obeys asked) answered data rfl
  obtain ⟨-, session, stores, -⟩ := (balanced.traced.answer_admitted member
    (handleConnection_obeys bcrypt sessionTTL stack task.request) answered).opens said rfl
  have kept : session ∈ stored task.trace := by simp [stores]
  exact (balanced.exchanged member asked kept).1

end Counting

/-- Refreshing rotates one for one. Take a run from a store without sessions in which no
store fails, every drawn token is new, and no refresh executes the `GET` of its second
check while another one of the same token is between its own and its `DEL`. Then a token is
exchanged by one successful refresh at most, and no user has more unexpired sessions in
Redis than logins have created. -/
theorem rotates_one_for_one (bcrypt : Bcrypt) (sessionTTL : SessionTTL) (stack : Nat) (store : Store)
    (empty : ∀ token, store.redis.table.get? (.session token) = none)
    (actions : List (Action Request Choice))
    (alone : (authServer bcrypt sessionTTL stack).Along
      (fun state action => DrawsFresh state action ∧ ChecksAlone state action)
      (Service.idleState store) actions) :
    (∀ (first second : Nat) (token : String),
      ∀ left ∈ ((authServer bcrypt sessionTTL stack).run (Service.idleState store) actions).tasks[first]?,
      ∀ right ∈ ((authServer bcrypt sessionTTL stack).run (Service.idleState store) actions).tasks[second]?,
      Refreshed left token → Refreshed right token → first = second) ∧
    ∀ user, (sessionsOf ((authServer bcrypt sessionTTL stack).run (Service.idleState store)
        actions).store.redis user).length ≤
      creations user ((authServer bcrypt sessionTTL stack).run (Service.idleState store) actions).tasks := by
  have balanced := ((idle_rotating bcrypt sessionTTL stack empty).run actions alone).balanced
  refine ⟨?_, balanced.sessions_le⟩
  intro first second token left here right there refreshed again
  exact balanced.once first second token left here right there
    (balanced.refreshed (List.mem_of_getElem? here) refreshed)
    (balanced.refreshed (List.mem_of_getElem? there) again)

/-- Alice logs in, and two refreshes of her token pass their first checks together. The
second one looks the session up again when the first one has deleted it. -/
def refreshesInTurn : List (Action Request Choice) :=
  aliceLogin ++ [.start ⟨"c2", .refresh firstToken.val⟩, .start ⟨"c3", .refresh firstToken.val⟩] ++
    List.replicate 3 (.proceed 1 (tick secondToken)) ++
    List.replicate 3 (.proceed 2 (tick thirdToken)) ++
    List.replicate 15 (.proceed 1 (tick secondToken)) ++
    List.replicate 10 (.proceed 2 (tick thirdToken))

set_option maxRecDepth 4000 in
/-- Then the first one has exchanged the token, the second one has not, and Alice has one
session, for one login. -/
theorem refresh_keeps_one :
    (∃ left, ((authServer plainBcrypt defaultTTL 3).run (Service.idleState aliceOnly)
        refreshesInTurn).tasks[1]? = some left ∧ Refreshed left firstToken.val) ∧
    (∀ right ∈ ((authServer plainBcrypt defaultTTL 3).run (Service.idleState aliceOnly)
        refreshesInTurn).tasks[2]?, ¬ Refreshed right firstToken.val) ∧
    (sessionsOf ((authServer plainBcrypt defaultTTL 3).run (Service.idleState aliceOnly)
        refreshesInTurn).store.redis "u1").length ≤
      creations "u1" ((authServer plainBcrypt defaultTTL 3).run (Service.idleState aliceOnly)
        refreshesInTurn).tasks := by
  have exchanged := rotates_one_for_one plainBcrypt defaultTTL 3 aliceOnly (fun _ => rfl)
    refreshesInTurn (by decide)
  have first : ∃ left, ((authServer plainBcrypt defaultTTL 3).run (Service.idleState aliceOnly)
      refreshesInTurn).tasks[1]? = some left ∧ Refreshed left firstToken.val :=
    ⟨_, rfl, rfl, _, rfl⟩
  refine ⟨first, ?_, exchanged.2 "u1"⟩
  intro right there refreshed
  obtain ⟨left, here, done⟩ := first
  exact absurd (exchanged.1 1 2 firstToken.val left here right there done refreshed) (by decide)

/-- Alice logs in, and two refreshes check her token before either of them deletes
its session. -/
def refreshesAtOnce : List (Action Request Choice) :=
  aliceLogin ++ [.start ⟨"c2", .refresh firstToken.val⟩, .start ⟨"c3", .refresh firstToken.val⟩] ++
    List.replicate 6 (.proceed 1 (tick secondToken)) ++
    List.replicate 6 (.proceed 2 (tick thirdToken)) ++
    List.replicate 12 (.proceed 1 (tick secondToken)) ++
    List.replicate 10 (.proceed 2 (tick thirdToken))

set_option maxRecDepth 4000 in
/-- Both succeed, and one login has led to two sessions, because the second refresh has read
the record before the first one deletes it. -/
theorem refreshes_at_once_exchange_twice :
    (authServer plainBcrypt defaultTTL 3).Along Orderly (Service.idleState aliceOnly)
      refreshesAtOnce ∧
    (∃ left right,
      ((authServer plainBcrypt defaultTTL 3).run (Service.idleState aliceOnly)
        refreshesAtOnce).tasks[1]? = some left ∧
      ((authServer plainBcrypt defaultTTL 3).run (Service.idleState aliceOnly)
        refreshesAtOnce).tasks[2]? = some right ∧
      Refreshed left firstToken.val ∧ Refreshed right firstToken.val) ∧
    sessionsOf ((authServer plainBcrypt defaultTTL 3).run (Service.idleState aliceOnly)
      refreshesAtOnce).store.redis "u1" = [secondToken.val, thirdToken.val] ∧
    creations "u1" ((authServer plainBcrypt defaultTTL 3).run (Service.idleState aliceOnly)
      refreshesAtOnce).tasks = 1 :=
  ⟨by decide, ⟨_, _, rfl, rfl, ⟨rfl, _, rfl⟩, ⟨rfl, _, rfl⟩⟩, by decide, by decide⟩

end ShoppingCS.Auth
