import ShoppingCS.Auth.Consistency

/-!
# Validation is exact

A token is live from the command that stores its session to the first command
that deletes it, or until it expires, and a validation answers accordingly. It
accepts only tokens that were issued and not revoked before it began, and names
the user whose login began the chain of refreshes. It refuses an issued token only
when a logout or a refresh of it has begun, or when it had expired.
-/

namespace ShoppingCS.Auth

open Interleaving Program Storage

/-- The login that began the chain of refreshes was for the user an answer names. -/
def Identifies (root : AuthTask) (data : ValidateResponseData) : Prop :=
  (∃ password, root.request.operation = .login data.username password) ∧
    ∃ said, root.answer? = some (.success (.login said)) ∧ said.userId = data.userId ∧
      said.username = data.username ∧ said.email = data.email

/-- The two kinds of request that revoke the token they present when they succeed: a logout,
and a refresh, which exchanges it for another one. -/
def Revocation (task : AuthTask) (token : String) : Prop :=
  task.request.operation = .logout token ∨ task.request.operation = .refresh token

instance (task : AuthTask) (token : String) : Decidable (Revocation task token) :=
  inferInstanceAs (Decidable (_ ∨ _))

/-- Some request that opens sessions has drawn the token and written the given session under
it. This is the half of a validation's reason that lies in the past of the store. -/
structure IssuedSession (tasks : List AuthTask) (token : String) (session : Session) : Prop where
  issuer : ∃ issuer ∈ tasks, issuer.request.operation.opens = true ∧ Issued issuer token ∧
    session ∈ stored issuer.trace
  named : session.token = token

/-- What justifies an answer that accepts a token, given the requests that came
before the validation. -/
structure Justified (earlier : List AuthTask) (task : AuthTask) (token : String)
    (data : ValidateResponseData) : Prop where
  issued : ∃ session checked, IssuedSession earlier token session ∧
    readings task.trace = [checked] ∧ checked ≤ session.expiresAt
  unrevoked : ∀ other ∈ earlier, Revocation other token → ∀ success,
    other.answer? ≠ some (.success success)
  owner : ∃ root, Origin earlier root token ∧ Identifies root data

/-- When a validation has checked its token: at its first reading of the clock, or
with its last command when it had nothing to check. -/
def checkedAt (task : AuthTask) (clock : Int) : Int := (readings task.trace).head?.getD clock

section Steps

variable {bcrypt : Bcrypt} {sessionTTL : SessionTTL} {stack : Nat} {state : AuthState}

/-- Nobody presents a token before it has been handed out, and an orderly run draws every
token once. So a token somebody has presented is not drawn by any later step. -/
theorem drew_presented (consistent : Consistent bcrypt sessionTTL stack state)
    {action : Action Request Choice} (orderly : Orderly state action) {index : Nat}
    {token : String} {task : AuthTask} (member : task ∈ state.tasks)
    (presents : task.request.operation.token? = some token)
    (drew : Drew ((authServer bcrypt sessionTTL stack).step state action) index token) :
    Drew state index token := by
  generalize after : (authServer bcrypt sessionTTL stack).step state action = next at drew
  have transition : (authServer bcrypt sessionTTL stack).Transition state action next :=
    after ▸ (authServer bcrypt sessionTTL stack).step_transition state action
  cases transition with
  | idle place choice nothing => exact drew
  | started request => exact drew_accepted drew
  | proceeded place choice other command resume present pending =>
    have turn := turn_of_orderly consistent.traced present pending orderly
    rcases turn.drew drew with earlier | ⟨-, draws, fresh, chosen, same⟩
    · exact earlier
    · exact absurd presents (same ▸ (turn.new draws fresh chosen task member).2)

/-- A token that somebody presents is not drawn in the rest of a run. -/
theorem drew_presented_run (consistent : Consistent bcrypt sessionTTL stack state)
    (actions : List (Action Request Choice))
    (orderly : (authServer bcrypt sessionTTL stack).Along Orderly state actions) {index place : Nat}
    {token : String} {task : AuthTask} (present : state.tasks[place]? = some task)
    (presents : task.request.operation.token? = some token)
    (drew : Drew ((authServer bcrypt sessionTTL stack).run state actions) index token) :
    Drew state index token := by
  induction actions generalizing state task with
  | nil => exact drew
  | cons action actions inductionHypothesis =>
    have next := consistent.step action orderly.1
    obtain ⟨later, there, asked, -⟩ := Service.step_extends action present
    have drawn := inductionHypothesis next orderly.2 there (asked ▸ presents) drew
    exact drew_presented consistent orderly.1 (List.mem_of_getElem? present) presents drawn

/-- Once a key has been deleted no orderly step can read a session from it: the key is written
by nobody else, since its token is never drawn again. -/
theorem saw_deleted (consistent : Consistent bcrypt sessionTTL stack state)
    {action : Action Request Choice} (orderly : Orderly state action) {token : String}
    {session : Session} (deleted : Deleted state token) {index : Nat} {task : AuthTask}
    (present : ((authServer bcrypt sessionTTL stack).step state action).tasks[index]? = some task)
    (saw : Saw task.trace token session) :
    ∃ before, state.tasks[index]? = some before ∧ Saw before.trace token session := by
  rcases Service.step_task action present with
    before | ⟨request, -, -, rfl⟩ | ⟨choice, before, command, resume, rfl, there, pending, rfl⟩
  · exact ⟨task, before, saw⟩
  · obtain ⟨text, event, -⟩ := saw
    simp [accepted_idle] at event
  · have turn := turn_of_orderly consistent.traced there pending orderly
    obtain ⟨text, seen, decoded⟩ := saw
    rw [Task.advance_trace] at seen
    cases List.mem_append.mp seen with
    | inl earlier => exact ⟨before, there, text, earlier, decoded⟩
    | inr latest =>
      obtain ⟨rfl, result⟩ := Event.mk.inj (List.mem_singleton.mp latest)
      have read : ((state.store.wait choice).redis.execute (.get (.session token))).1 =
          .ok (some text) := by
        have read := (eq_of_heq result).symm
        simpa only [authServer, perform, turn.works] using read
      obtain ⟨entry, found, -⟩ := (Redis.execute_get_text _ _ _).mp read
      obtain ⟨deleter, member, event, recorded, deletes⟩ := deleted
      have gone := consistent.deleted deleter member event recorded token deletes
      have kept := (ExpiringTable.find?_eq_some.mp found).1
      exact absurd (gone.symm.trans kept) (by simp)

/-- The same over the rest of an orderly run, by induction on its actions; that the key stays
deleted carries the step. -/
theorem saw_deleted_run (consistent : Consistent bcrypt sessionTTL stack state)
    (actions : List (Action Request Choice))
    (orderly : (authServer bcrypt sessionTTL stack).Along Orderly state actions) {token : String}
    {session : Session} (deleted : Deleted state token) {index : Nat} {task : AuthTask}
    (present : ((authServer bcrypt sessionTTL stack).run state actions).tasks[index]? = some task)
    (saw : Saw task.trace token session) :
    ∃ before, state.tasks[index]? = some before ∧ Saw before.trace token session := by
  induction actions generalizing state with
  | nil => exact ⟨task, present, saw⟩
  | cons action actions inductionHypothesis =>
    obtain ⟨next, there, seen⟩ := inductionHypothesis (consistent.step action orderly.1) orderly.2
      (deleted_step (authServer bcrypt sessionTTL stack) action deleted) present
    exact saw_deleted consistent orderly.1 deleted there seen

end Steps

section Exact

variable {bcrypt : Bcrypt} {sessionTTL : SessionTTL} {stack : Nat} {state : AuthState}

/-- An issued token has a session, which the request that has issued it has stored. -/
theorem Consistent.issuedSession (consistent : Consistent bcrypt sessionTTL stack state)
    {place : Nat} {issuer : AuthTask} {token : String} (present : state.tasks[place]? = some issuer)
    (issued : Issued issuer token) : ∃ session, Kept state place session ∧
      IssuedSession state.tasks token session := by
  obtain ⟨opens, session, kept, named, -⟩ := issued.kept consistent.traced present
  refine ⟨session, kept, ⟨issuer, List.mem_of_getElem? present, opens, issued, ?_⟩, named⟩
  obtain ⟨task, there, member⟩ := kept
  obtain rfl : issuer = task := Option.some.inj (present.symm.trans there)
  exact member

/-- The requests that have just been accepted have deleted nothing, and a successful
revocation has. -/
theorem Consistent.revoked (consistent : Consistent bcrypt sessionTTL stack state) {task : AuthTask}
    (member : task ∈ state.tasks) {token : String} (revokes : Revocation task token) {success : Data}
    (answered : task.answer? = some (.success success)) : Deleted state token := by
  have admits := consistent.traced.answer_admitted member
    (handleConnection_obeys bcrypt sessionTTL stack task.request) answered
  obtain ⟨event, recorded, deletes⟩ := admits.deletes token success revokes rfl
  exact ⟨task, member, event, recorded, deletes⟩

/-- A validation answers that a token is valid only after it has read a session under that
token and found the row of the user the session names. -/
theorem Consistent.accepts (consistent : Consistent bcrypt sessionTTL stack state) {task : AuthTask}
    (member : task ∈ state.tasks) {token : String}
    (asked : task.request.operation = .validate token) {data : ValidateResponseData}
    (answered : task.answer? = some (.success (.validate data))) (valid : data.valid = true) :
    ∃ session checked user, Saw task.trace token session ∧ readings task.trace = [checked] ∧
      checked ≤ session.expiresAt ∧ data = user.validated ∧
      ⟨.postgres (.selectUserById session.userId), .ok (some user)⟩ ∈ task.trace := by
  have judged := (consistent.traced.answer_admitted member
    (handleConnection_obeys bcrypt sessionTTL stack task.request) answered).validates token asked
  generalize same : task.trace = trace at judged
  cases judged with
  | refused error checked => simp [invalid] at valid
  | accepted user checked =>
    cases checked with
    | valid text session now user decoded inTime =>
      exact ⟨session, now, user, ⟨text, by simp, decoded⟩, rfl, inTime, rfl, by simp⟩

/-- Soundness. From a consistent state, if a validation started there accepts, then some
earlier request issued the token with the session reported, and nobody's deletion of the key
came before the validation began. -/
theorem Consistent.justified (consistent : Consistent bcrypt sessionTTL stack state)
    {connId token : String} (actions : List (Action Request Choice))
    (orderly : (authServer bcrypt sessionTTL stack).Along Orderly state
      (.start ⟨connId, .validate token⟩ :: actions)) {task : AuthTask}
    (present : ((authServer bcrypt sessionTTL stack).run state
      (.start ⟨connId, .validate token⟩ :: actions)).tasks[state.tasks.length]? = some task)
    {data : ValidateResponseData} (answered : task.answer? = some (.success (.validate data)))
    (valid : data.valid = true) : Justified state.tasks task token data := by
  have started := consistent.step _ orderly.1
  have final := started.run actions orderly.2
  have accepted : ((authServer bcrypt sessionTTL stack).step state
      (.start ⟨connId, .validate token⟩)).tasks[state.tasks.length]? =
      some ((authServer bcrypt sessionTTL stack).accept ⟨connId, .validate token⟩) :=
    List.getElem?_concat_length
  have asked : task.request.operation = .validate token := by
    obtain ⟨later, there, same, -⟩ := Service.run_extends actions accepted
    obtain rfl : later = task := Option.some.inj (there.symm.trans present)
    rw [same]
    rfl
  have member := List.mem_of_getElem? present
  obtain ⟨session, checked, user, saw, read, inTime, rfl, found⟩ :=
    final.accepts member asked answered valid
  obtain ⟨named, place, kept⟩ := final.saw task member token session saw
  -- the token was drawn, and issued, before the validation presented it
  have drew : Drew state place token := by
    refine drew_accepted (drew_presented_run started actions orderly.2 accepted rfl ?_)
    exact named ▸ kept.drew final.traced
  obtain ⟨owner, there, issued⟩ := started.received place token
    (drew_step (authServer bcrypt sessionTTL stack) _ drew) _ (List.mem_of_getElem? accepted) rfl
  have before : state.tasks[place]? = some owner := by
    obtain ⟨drawer, located, -⟩ := drew
    obtain ⟨inside, -⟩ := List.getElem?_eq_some_iff.mp located
    rw [← there]
    exact (List.getElem?_append_left inside).symm
  obtain ⟨earlier, kept', issuedSession⟩ := consistent.issuedSession before issued
  obtain rfl : earlier = session := by
    have later := kept_run (authServer bcrypt sessionTTL stack) (.start ⟨connId, .validate token⟩ :: actions) kept'
    exact (final.keptOnce later kept (issuedSession.named.trans named.symm)).2
  refine ⟨⟨earlier, checked, issuedSession, read, inTime⟩, ?_, ?_⟩
  · intro other inside revokes success ends
    have deleted : Deleted ((authServer bcrypt sessionTTL stack).step state
        (.start ⟨connId, .validate token⟩)) token :=
      deleted_step _ _ (consistent.revoked inside revokes ends)
    obtain ⟨first, located, text, seen, -⟩ :=
      saw_deleted_run started actions orderly.2 deleted present saw
    obtain rfl := Option.some.inj (accepted.symm.trans located)
    simp [accepted_idle] at seen
  · obtain ⟨root, origin, ⟨password, login⟩, said, answer, id, name, address⟩ :=
      consistent.rooted place earlier kept' ⟨owner, before, by rw [named]; exact issued⟩
    obtain ⟨same, known⟩ := final.byId task member earlier.userId user found
    obtain ⟨owner', known', owns⟩ := final.owner kept
    rw [same] at known
    obtain rfl : owner' = user := Option.some.inj (known'.symm.trans known)
    rw [named] at origin
    refine ⟨root, origin, ⟨password, ?_⟩, said, answer, id.trans owns.1, name.trans owns.2.1,
      address.trans owns.2.2⟩
    rw [login, owns.2.1]
    rfl

/-- The token of a session was drawn, so it has the length and the characters of a drawn
one. -/
theorem Consistent.token_drawn (consistent : Consistent bcrypt sessionTTL stack state) {place : Nat}
    {session : Session} (kept : Kept state place session) :
    session.token.length = 44 ∧ Storage.holdsNul session.token = false := by
  obtain ⟨task, -, draws⟩ := kept.drew consistent.traced
  obtain ⟨event, -, drawn⟩ := List.mem_filterMap.mp draws
  obtain ⟨token, -, same⟩ := drawnBy_some drawn
  rw [← same]
  exact token.property

/-- Drawn tokens have forty-four characters, so the token of a session that is stored is not
the empty one, which the handler would refuse. -/
theorem Consistent.nonempty (consistent : Consistent bcrypt sessionTTL stack state) {place : Nat}
    {session : Session} (kept : Kept state place session) : session.token ≠ "" := by
  intro empty
  have long := (consistent.token_drawn kept).1
  simp [empty] at long

/-- A session that nobody has asked to revoke, read before its expiry with both clocks
advancing alike, is found: its key has neither been deleted nor dropped by Redis. -/
theorem Consistent.read_found (consistent : Consistent bcrypt sessionTTL stack state) {place : Nat}
    {session : Session} (kept : Kept state place session) {choice : Choice}
    (clocks : choice.redisElapsed = choice.elapsed)
    (unrevoked : ∀ other ∈ state.tasks, ¬ Revocation other session.token)
    (inTime : state.store.clock + choice.elapsed ≤ session.expiresAt) :
    ((state.store.wait choice).redis.execute (.get (.session session.token))).1 =
      .ok (some (.session session)) := by
  refine (Redis.execute_get_text _ _ _).mpr ?_
  have there : state.store.redis.table.get? (.session session.token) ≠ none := by
    rcases consistent.survives place session kept with there | ⟨other, member, revokes⟩ | expired
    · exact there
    · exact absurd revokes (unrevoked other member)
    · omega
  obtain ⟨entry, found⟩ := Option.ne_none_iff_exists'.mp there
  obtain ⟨place', other, kept', same, holds⟩ := consistent.entries session.token entry found
  obtain ⟨-, rfl⟩ := consistent.keptOnce kept' kept same
  refine ⟨entry, ExpiringTable.find?_eq_some.mpr ⟨found, ?_⟩, holds.value⟩
  intro deadline held
  have covered := holds.covers deadline held
  have now : (state.store.wait choice).redis.now =
      (state.store.clock + choice.elapsed) / 1000000 := by
    simp only [Redis.now, Store.wait, Redis.wait, consistent.clocks, clocks]
  rw [now]
  omega

/-- The session a request reads under the key of a stored session is that session. -/
theorem Consistent.saw_same (consistent : Consistent bcrypt sessionTTL stack state) {place : Nat}
    {session other : Session} (kept : Kept state place session) {task : AuthTask}
    (member : task ∈ state.tasks) (saw : Saw task.trace session.token other) : other = session := by
  obtain ⟨named, place', kept'⟩ := consistent.saw task member session.token other saw
  exact (consistent.keptOnce kept' kept named).2

/-- Completeness: a validation whose last command is executed now accepts a token
that was issued, is not being revoked, and had not expired. -/
theorem Consistent.complete (consistent : Consistent bcrypt sessionTTL stack state) {index : Nat}
    {choice : Choice} (orderly : Orderly state (.proceed index choice)) {before task : AuthTask}
    (there : state.tasks[index]? = some before) (unanswered : before.answer? = none)
    (present : ((authServer bcrypt sessionTTL stack).step state
      (.proceed index choice)).tasks[index]? = some task)
    {session : Session} (asked : task.request.operation = .validate session.token)
    {response : Response} (answered : task.answer? = some response) {place : Nat}
    (kept : Kept state place session)
    (unrevoked : ∀ other ∈ state.tasks, ¬ Revocation other session.token)
    (inTime : checkedAt task ((authServer bcrypt sessionTTL stack).step state
      (.proceed index choice)).store.clock ≤ session.expiresAt) :
    ∃ data, response = .success (.validate data) ∧ data.valid = true := by
  have next := consistent.step _ orderly
  have member := List.mem_of_getElem? present
  have later := kept_step (authServer bcrypt sessionTTL stack) (.proceed index choice) kept
  rcases Service.step_task _ present with
    same | ⟨request, other, -⟩ | ⟨choice', before', command, resume, same, found, pending, rfl⟩
  · obtain rfl : before = task := Option.some.inj (there.symm.trans same)
    simp [unanswered] at answered
  · simp at other
  obtain ⟨-, rfl⟩ := Action.proceed.inj same
  obtain rfl : before = before' := Option.some.inj (there.symm.trans found)
  have turn := turn_of_orderly consistent.traced found pending orderly
  have clock : ((authServer bcrypt sessionTTL stack).step state (.proceed index choice)).store.clock =
      state.store.clock + choice.elapsed := by
    rw [← turn.steps]
    exact perform_clock bcrypt command choice state.store
  rw [clock] at inTime
  have judged := (next.traced.answer_admitted member
    (handleConnection_obeys bcrypt sessionTTL stack _) answered).validates session.token asked
  generalize trace : (before.advance command resume _).trace = seen at judged
  cases judged with
  | unnamed empty => exact absurd empty (consistent.nonempty kept)
  | accepted user checked => exact ⟨user.validated, rfl, rfl⟩
  | refused error checked =>
    exfalso
    have grown : before.trace ++ [⟨command, (perform bcrypt command choice state.store).1⟩] = seen :=
      trace
    unfold checkedAt at inTime
    rw [trace] at inTime
    cases checked with
    | unnamed error empty => exact consistent.nonempty kept empty
    | refused after reason error looked =>
      cases looked with
      | absent result error unread =>
        obtain ⟨rfl, last⟩ := Event.mk.inj (List.singleton_inj.mp (List.append_inj' grown rfl).2)
        have read := consistent.read_found kept orderly.2.1 unrevoked inTime
        refine unread (.session session) session ?_ rfl
        rw [← eq_of_heq last, ← read]
        simp only [perform, turn.works]
      | expired text other now more error decoded late presents =>
        have early : now ≤ session.expiresAt := inTime
        obtain rfl := next.saw_same later member ⟨text, by rw [trace]; simp, decoded⟩
        omega
    | unknown text other now result error decoded early nobody =>
      obtain rfl := next.saw_same later member ⟨text, by rw [trace]; simp, decoded⟩
      have ends : before.trace ++ [⟨command, (perform bcrypt command choice state.store).1⟩] =
          [⟨.redis (.get (.session other.token)), .ok (some text)⟩, ⟨.timeNow, now⟩] ++
            [⟨.postgres (.selectUserById other.userId), result⟩] := grown
      obtain ⟨rfl, last⟩ := Event.mk.inj (List.singleton_inj.mp (List.append_inj' ends rfl).2)
      obtain ⟨user, known, -⟩ := consistent.owner kept
      apply nobody user
      rw [← eq_of_heq last]
      have found := Postgres.selectUserById_eq_some.mpr known
      simpa only [perform, turn.works, Store.wait] using found

end Exact

section Whole

variable (bcrypt : Bcrypt) (sessionTTL : SessionTTL) (stack : Nat) (earlier : AuthState)
  (connId token : String)

/-- The states an orderly run can reach from a fresh store. Both halves of the result about
validations are about a request that starts in such a state. -/
def Reached : Prop :=
  ∃ store actions, Fresh store ∧
    (authServer bcrypt sessionTTL stack).Along Orderly (Service.idleState store) actions ∧
    (authServer bcrypt sessionTTL stack).run (Service.idleState store) actions = earlier

/-- The state some actions after a validation of the token has begun in the earlier state. The
actions are those of anybody, the validation's own statements among them. -/
def validating (actions : List (Action Request Choice)) : AuthState :=
  (authServer bcrypt sessionTTL stack).run earlier (.start ⟨connId, .validate token⟩ :: actions)

/-- What the validation has answered by then, if it has answered; it is the task behind those
the earlier state had. -/
def validationAnswer? (actions : List (Action Request Choice)) : Option Response :=
  (validating bcrypt sessionTTL stack earlier connId token actions).tasks[earlier.tasks.length]?.bind
    Task.answer?

/-- Every reached state is consistent, by the run lemma of the invariant from the fresh store.
-/
theorem Reached.consistent {bcrypt : Bcrypt} {sessionTTL : SessionTTL} {stack : Nat}
    {earlier : AuthState} (reached : Reached bcrypt sessionTTL stack earlier) :
    Consistent bcrypt sessionTTL stack earlier := by
  obtain ⟨store, actions, fresh, orderly, rfl⟩ := reached
  exact (fresh.consistent bcrypt sessionTTL stack).run actions orderly

/-- Validation is exact over whole runs. An accepting answer is justified by what
came before the validation. And a validation accepts a token that was issued
before it began, if no revocation of it has begun before the validation's last
command and the token had not expired when it was checked. -/
theorem validation_exact (reached : Reached bcrypt sessionTTL stack earlier)
    (actions : List (Action Request Choice))
    (orderly : (authServer bcrypt sessionTTL stack).Along Orderly earlier
      (.start ⟨connId, .validate token⟩ :: actions)) (task : AuthTask) (response : Response)
    (present : (validating bcrypt sessionTTL stack earlier connId token actions).tasks[
      earlier.tasks.length]? = some task)
    (answered : task.answer? = some response) :
    (∀ data, response = .success (.validate data) → data.valid = true →
      Justified earlier.tasks task token data) ∧
    ∀ during choice rest session,
      actions = during ++ .proceed earlier.tasks.length choice :: rest →
      validationAnswer? bcrypt sessionTTL stack earlier connId token during = none →
      (validationAnswer? bcrypt sessionTTL stack earlier connId token
        (during ++ [.proceed earlier.tasks.length choice])).isSome →
      IssuedSession earlier.tasks token session →
      (∀ other ∈ (validating bcrypt sessionTTL stack earlier connId token during).tasks,
        ¬ Revocation other token) →
      checkedAt task (validating bcrypt sessionTTL stack earlier connId token
        (during ++ [.proceed earlier.tasks.length choice])).store.clock ≤ session.expiresAt →
      ∃ data, response = .success (.validate data) ∧ data.valid = true := by
  have consistent := reached.consistent
  constructor
  · rintro data rfl valid
    exact consistent.justified actions orderly present answered valid
  · rintro during choice rest session rfl unanswered finished ⟨issued, rfl⟩ unrevoked inTime
    obtain ⟨issuer, inside, -, -, stores⟩ := issued
    obtain ⟨place, located⟩ := List.mem_iff_getElem?.mp inside
    have kept := kept_run (authServer bcrypt sessionTTL stack)
      (.start ⟨connId, .validate session.token⟩ :: during) ⟨issuer, located, stores⟩
    have cut := ((authServer bcrypt sessionTTL stack).along_append Orderly earlier
      (.start ⟨connId, .validate session.token⟩ :: during) _).mp orderly
    have middle := consistent.run _ cut.1
    have last (more : List (Action Request Choice)) :
        validating bcrypt sessionTTL stack earlier connId session.token (during ++ more) =
          (authServer bcrypt sessionTTL stack).run
            (validating bcrypt sessionTTL stack earlier connId session.token during) more :=
      (authServer bcrypt sessionTTL stack).run_append earlier
        (.start ⟨connId, .validate session.token⟩ :: during) more
    unfold validationAnswer? at unanswered finished
    rw [last] at present finished inTime
    have accepted : ((authServer bcrypt sessionTTL stack).step earlier
        (.start ⟨connId, .validate session.token⟩)).tasks[earlier.tasks.length]? =
        some ((authServer bcrypt sessionTTL stack).accept ⟨connId, .validate session.token⟩) :=
      List.getElem?_concat_length
    obtain ⟨unfinished, there, asked, -⟩ := Service.run_extends during accepted
    change (validating bcrypt sessionTTL stack earlier connId session.token during).tasks[_]? = _
      at there
    rw [there] at unanswered
    obtain ⟨answer, done⟩ := Option.isSome_iff_exists.mp finished
    obtain ⟨next, found, told⟩ := Option.bind_eq_some_iff.mp done
    have lasting : ((authServer bcrypt sessionTTL stack).run (validating bcrypt sessionTTL stack
        earlier connId session.token during) (.proceed earlier.tasks.length choice :: rest)).tasks[
          earlier.tasks.length]? = some next :=
      Service.run_keeps_answer rest found (by simp [told])
    obtain rfl : next = task := Option.some.inj (lasting.symm.trans present)
    obtain ⟨next', found', same, -⟩ := Service.run_extends
      [.proceed earlier.tasks.length choice] there
    obtain rfl : next = next' := Option.some.inj (found.symm.trans found')
    refine middle.complete cut.2.1 there unanswered found ?_ answered kept unrevoked inTime
    rw [same, asked]
    rfl

end Whole

/-- Alice logs in on the first connection: the request, and one step for each of its commands,
with the first token as the one drawn. -/
def aliceLogin : List (Action Request Choice) :=
  .start ⟨"c1", .login "alice" "secret"⟩ :: List.replicate 9 (.proceed 0 (tick firstToken))

/-- The state of the server when her login has been answered, on a machine whose hashes are
the passwords themselves. -/
def aliceLoggedIn : AuthState :=
  (authServer plainBcrypt defaultTTL 3).run (Service.idleState aliceOnly) aliceLogin

/-- Her session in Redis, as the first command that stores one has written it. -/
def aliceSession : Option Session := (aliceLoggedIn.tasks.flatMap (fun task => stored task.trace))[0]?

/-- The three steps in which a validation of the token runs to its end. -/
def aliceChecked : List (Action Request Choice) :=
  List.replicate 3 (.proceed 1 (tick firstToken))

/-- A validation that follows the login has to accept the token, since the login has issued
it, nobody revokes it and it expires a day later. The answer that it then gives is
justified by the login, whose user it names. -/
theorem login_validates :
    ∃ task data, (validating plainBcrypt defaultTTL 3 aliceLoggedIn "c2" firstToken.val
        aliceChecked).tasks[1]? = some task ∧
      task.answer? = some (.success (.validate data)) ∧ data.valid = true ∧
      Justified aliceLoggedIn.tasks task firstToken.val data := by
  obtain ⟨task, present⟩ : ∃ task, (validating plainBcrypt defaultTTL 3 aliceLoggedIn "c2"
      firstToken.val aliceChecked).tasks[1]? = some task := ⟨_, rfl⟩
  obtain ⟨response, answered⟩ : ∃ response, task.answer? = some response := by
    obtain rfl := Option.some.inj present
    exact ⟨_, rfl⟩
  obtain ⟨session, held⟩ : ∃ session, aliceSession = some session := ⟨_, rfl⟩
  obtain ⟨sound, complete⟩ := validation_exact plainBcrypt defaultTTL 3 aliceLoggedIn "c2"
    firstToken.val ⟨aliceOnly, aliceLogin, ⟨fun _ => rfl, rfl⟩, by decide, rfl⟩ aliceChecked
    (by decide) task response present answered
  have issued : IssuedSession aliceLoggedIn.tasks firstToken.val session := by
    obtain rfl := Option.some.inj held
    exact ⟨⟨_, List.mem_cons_self, rfl, rfl, List.mem_cons_self⟩, rfl⟩
  have inTime : checkedAt task (validating plainBcrypt defaultTTL 3 aliceLoggedIn "c2"
      firstToken.val aliceChecked).store.clock ≤ session.expiresAt := by
    obtain rfl := Option.some.inj held
    obtain rfl := Option.some.inj present
    decide
  obtain ⟨data, rfl, valid⟩ := complete (List.replicate 2 (.proceed 1 (tick firstToken)))
    (tick firstToken) [] session rfl rfl rfl issued (by decide) inTime
  exact ⟨task, data, present, answered, valid, sound data rfl valid⟩

end ShoppingCS.Auth
