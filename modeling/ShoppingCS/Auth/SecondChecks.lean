import ShoppingCS.Auth.Consistency
import ShoppingCS.Auth.Rotation

/-!
# The second check of a refresh

A refresh looks its session up twice before it deletes it: once to validate the token,
and once more in `RefreshSession`. What decides whether two refreshes of one token
exchange it both is the second of these lookups, from its `GET` to the `DEL` that
follows.

A refresh whose second `GET` comes after another one's `DEL` finds nothing, since no new
session is ever stored under an old token, and it ends without success. So if no refresh
executes its second `GET` while another one of the same token is between its second `GET`
and its `DEL`, the refreshes that get as far as the deletion do so one after the other,
and only the first of them gets there at all.
-/

namespace ShoppingCS.Auth

open Interleaving Program Storage

/-- What a request has executed since it first found a user by id. For a refresh this is
everything after its first check. -/
def sinceChecked : Trace → Trace
  | [] => []
  | event :: later => if (lookedUp event).isSome then later else sinceChecked later

/-- Once a user has been found, whatever is executed later comes since then. -/
theorem sinceChecked_append {trace : Trace} (checked : owners trace ≠ []) (later : Trace) :
    sinceChecked (trace ++ later) = sinceChecked trace ++ later := by
  induction trace with
  | nil => exact absurd rfl checked
  | cons event trace inductionHypothesis =>
    cases finds : lookedUp event with
    | some id => simp [sinceChecked, finds]
    | none =>
      have still : owners trace ≠ [] := by simpa [owners, finds] using checked
      simp [sinceChecked, finds, inductionHypothesis still]

/-- As long as no user has been found, nothing comes after the first check. -/
theorem sinceChecked_nil {trace : Trace} (unchecked : owners trace = []) :
    sinceChecked trace = [] := by
  induction trace with
  | nil => rfl
  | cons event trace inductionHypothesis =>
    obtain ⟨here, rest⟩ : lookedUp event = none ∧ owners trace = [] := by
      simpa [owners] using unchecked
    simp [sinceChecked, here, inductionHypothesis rest]

/-- The event that finds the first user ends the first check and does not come after it. -/
theorem sinceChecked_unchecked {trace : Trace} (unchecked : owners trace = [])
    (event : Event Command Command.Result) : sinceChecked (trace ++ [event]) = [] := by
  induction trace with
  | nil => simp [sinceChecked]
  | cons first trace inductionHypothesis =>
    obtain ⟨here, rest⟩ : lookedUp first = none ∧ owners trace = [] := by
      simpa [owners] using unchecked
    simp [sinceChecked, here, inductionHypothesis rest]

/-- A second user has been found since the first one was, so something has been executed
since then. -/
theorem sinceChecked_twice {trace : Trace} (twice : (owners trace).length = 2) :
    sinceChecked trace ≠ [] := by
  induction trace with
  | nil => simp at twice
  | cons event trace inductionHypothesis =>
    cases finds : lookedUp event with
    | some id =>
      simp only [sinceChecked, finds, Option.isSome_some, if_true]
      rintro rfl
      simp [owners, finds] at twice
    | none =>
      have still : (owners trace).length = 2 := by simpa [owners, finds] using twice
      simpa [sinceChecked, finds] using inductionHypothesis still

/-- The first command since the check was the `GET` of the token, and it found something
under its key. -/
def ReadAgain (token : String) (trace : Trace) : Prop :=
  ∃ text, (sinceChecked trace).head? = some ⟨.redis (.get (.session token)), .ok (some text)⟩

/-- What has been read stays read, whatever is executed afterwards. -/
theorem ReadAgain.append {token : String} {trace : Trace} (read : ReadAgain token trace)
    (later : Trace) : ReadAgain token (trace ++ later) := by
  obtain ⟨text, first⟩ := read
  have checked : owners trace ≠ [] := by
    intro unchecked
    simp [sinceChecked_nil unchecked] at first
  refine ⟨text, ?_⟩
  rw [sinceChecked_append checked, List.head?_append, first]
  rfl

/-- What a refresh of a token may execute: anything during its first check, then the `GET`
of its second check, and after it anything only if that `GET` has found the session. -/
def RecheckAllowed (token : String) (trace : Trace) (command : Command) : Prop :=
  owners trace = [] ∨
    (sinceChecked trace = [] ∧ command = .redis (.get (.session token))) ∨ ReadAgain token trace

section Refresh

variable {token : String} {history : Trace}

/-- Once the second `GET` has found the session, every command is allowed, so no handler
has to be looked at from there on. -/
theorem readAgain_obeys {α : Type} {history : Trace} (read : ReadAgain token history)
    (program : Handler α) :
    Obeys (RecheckAllowed token) (fun after _ => ReadAgain token after) history program := by
  induction program generalizing history with
  | answer value => exact read
  | halt => trivial
  | call command resume inductionHypothesis =>
    exact ⟨Or.inr (Or.inr read), fun result => inductionHypothesis result (read.append _)⟩

/-- The lookup of the first check finds no users, so it never leaves that check. -/
theorem getSession_unchecked (unchecked : owners history = []) (stack : Nat) :
    Obeys (RecheckAllowed token) (fun after _ => owners after = []) history
      (getSession stack token) := by
  have nobody {later : Trace} (calls : ∀ event ∈ later, CallsSession token event.command) :
      owners (history ++ later) = [] := by
    rw [owners_append, unchecked, owners_calls calls]
    rfl
  refine ((callsSession_issues stack token).1.obeys (fun later calls _ _ =>
    Or.inl (nobody calls))).mono (fun _ _ allowed => allowed) ?_
  rintro after - ⟨later, rfl, calls⟩
  exact nobody calls

/-- A first check that passes ends with the lookup of a user, and nothing has been executed
since. -/
theorem validateToken_rechecks (unchecked : owners history = []) (stack : Nat) :
    Obeys (RecheckAllowed token)
      (fun after found => ∀ user, found = .ok user →
        owners after ≠ [] ∧ sinceChecked after = [])
      history (validateToken stack token) := by
  unfold validateToken
  split
  · exact fun user same => absurd same (by simp)
  · refine (getSession_unchecked unchecked stack).bind ?_
    intro after found unchecked
    cases found with
    | error error => exact fun user same => absurd same (by simp)
    | ok session =>
      refine ⟨Or.inl unchecked, fun result => ?_⟩
      rcases result with error | _ | user
      · exact fun user same => absurd same (by simp)
      · exact fun user same => absurd same (by simp)
      · intro other _
        exact ⟨by simp [owners, lookedUp], sinceChecked_unchecked unchecked _⟩

/-- The lookup of the second check begins with its `GET`, and returns a session only if
that has found one. -/
theorem getSession_rechecks (checked : owners history ≠ []) (first : sinceChecked history = [])
    (stack : Nat) :
    Obeys (RecheckAllowed token)
      (fun after found => ∀ session, found = .ok session → ReadAgain token after)
      history (getSession stack token) := by
  cases stack with
  | zero => trivial
  | succ stack =>
    rw [getSession_succ]
    refine ⟨Or.inr (Or.inl ⟨first, rfl⟩), fun result => ?_⟩
    rcases result with error | _ | text
    · exact fun session same => absurd same (by simp)
    · exact fun session same => absurd same (by simp)
    · have read : ReadAgain token
          (history ++ [⟨.redis (.get (.session token)), .ok (some text)⟩]) :=
        ⟨text, by rw [sinceChecked_append checked, first]; rfl⟩
      exact (readAgain_obeys read _).mono (fun _ _ allowed => allowed)
        (fun _ _ read _ _ => read)

/-- A refresh executes its two checks in this order, and succeeds only if the second `GET`
has found the session. -/
theorem handleRefresh_rechecks (sessionTTL : SessionTTL) (stack : Nat) (token : String) :
    Obeys (RecheckAllowed token)
      (fun after response => ∀ data, response = .success data → ReadAgain token after)
      [] (handleRefresh sessionTTL stack token) := by
  unfold handleRefresh
  split
  · exact fun data same => absurd same (by simp)
  · refine (validateToken_rechecks rfl stack).bind ?_
    intro after found passed
    cases found with
    | error error => exact fun data same => absurd same (by simp)
    | ok user =>
      obtain ⟨checked, first⟩ := passed user rfl
      refine Obeys.through (fun after found => ∀ session, found = .ok session →
        ReadAgain token after) ?_ ?_
      · refine (getSession_rechecks checked first stack).bind ?_
        intro after found passed
        cases found with
        | error error => exact fun session same => absurd same (by simp)
        | ok session =>
          exact (readAgain_obeys (passed session rfl) _).mono (fun _ _ allowed => allowed)
            (fun _ _ read _ _ => read)
      · intro after found passed
        cases found with
        | error error => exact fun data same => absurd same (by simp)
        | ok session => exact fun data _ => passed session rfl

end Refresh

/-- A refresh that has passed its first check waits to execute the `GET` of its second one. -/
def AboutToRecheck (task : AuthTask) (token : String) : Prop :=
  task.request.operation = .refresh token ∧ owners task.trace ≠ [] ∧
    sinceChecked task.trace = [] ∧ task.program.pending? = some (.redis (.get (.session token)))

instance (task : AuthTask) (token : String) : Decidable (AboutToRecheck task token) :=
  inferInstanceAs (Decidable (_ ∧ _ ∧ _ ∧ _))

/-- A refresh has executed the `GET` of its second check, has not executed its `DEL`, and
has not come to its end either. -/
def Rechecking (task : AuthTask) (token : String) : Prop :=
  task.request.operation = .refresh token ∧ sinceChecked task.trace ≠ [] ∧
    task.program.pending?.isSome ∧ ∀ event ∈ task.trace, event.command.use ≠ .deletes token

instance (task : AuthTask) (token : String) : Decidable (Rechecking task token) :=
  inferInstanceAs (Decidable (_ ∧ _ ∧ _ ∧ _))

/-- No refresh executes the `GET` of its second check while another one of the same token
is between its own and its `DEL`. -/
def ChecksAlone (state : AuthState) : Action Request Choice → Prop
  | .start _ => True
  | .proceed index _ => ∀ task ∈ state.tasks[index]?, ∀ token ∈ task.request.operation.token?,
      AboutToRecheck task token → ∀ other ∈ state.tasks.eraseIdx index, ¬ Rechecking other token

instance (state : AuthState) :
    (action : Action Request Choice) → Decidable (ChecksAlone state action)
  | .start _ => isTrue trivial
  | .proceed index _ => inferInstanceAs (Decidable (∀ task ∈ state.tasks[index]?,
      ∀ token ∈ task.request.operation.token?, AboutToRecheck task token →
        ∀ other ∈ state.tasks.eraseIdx index, ¬ Rechecking other token))

/-- No store fails, and whatever `GenerateToken` draws has not been drawn before. -/
def DrawsFresh (state : AuthState) : Action Request Choice → Prop
  | .start _ => True
  | .proceed index choice => choice.failure = none ∧ ∀ task ∈ state.tasks[index]?,
      task.program.pending? = some .generateToken → ∀ token ∈ choice.token.toOption,
        ∀ other ∈ state.tasks, token.val ∉ drawn other.trace

instance (state : AuthState) : (action : Action Request Choice) → Decidable (DrawsFresh state action)
  | .start _ => isTrue trivial
  | .proceed index choice => inferInstanceAs (Decidable (choice.failure = none ∧
      ∀ task ∈ state.tasks[index]?, task.program.pending? = some .generateToken →
        ∀ token ∈ choice.token.toOption, ∀ other ∈ state.tasks, token.val ∉ drawn other.trace))

/-- What a run keeps whose second checks are made alone: the balance, and what it takes to
show that refreshes rotate alone. An exchanged token has no key, and of the refreshes
between their second `GET` and their `DEL` there is one at most, and none once the token
has been exchanged. -/
structure Rotating (bcrypt : Bcrypt) (sessionTTL : SessionTTL) (stack : Nat)
    (state : AuthState) : Prop where
  balanced : Balanced bcrypt sessionTTL stack state
  drawnOnce : ∀ first second token, Drew state first token → Drew state second token →
    first = second
  gone : ∀ task ∈ state.tasks, ∀ token, Exchanged task token →
    state.store.redis.table.get? (.session token) = none
  single : ∀ (first second : Nat) (token : String), ∀ left ∈ state.tasks[first]?,
    ∀ right ∈ state.tasks[second]?, Rechecking left token → Rechecking right token →
      first = second
  closed : ∀ left ∈ state.tasks, ∀ right ∈ state.tasks, ∀ token, Exchanged left token →
    ¬ Rechecking right token

section Step

variable {bcrypt : Bcrypt} {sessionTTL : SessionTTL} {stack : Nat} {state next : AuthState}
  {index : Nat} {choice : Choice} {task : AuthTask} {command : Command} {token : String}

/-- The handler of a refresh makes its checks in order, whatever connection it serves. -/
theorem refresh_rechecks {request : Request} (asked : request.operation = .refresh token) :
    Obeys (RecheckAllowed token)
      (fun after response => ∀ data, response = .success data → ReadAgain token after)
      [] (handleConnection bcrypt sessionTTL stack request) := by
  unfold handleConnection
  rw [asked]
  exact handleRefresh_rechecks sessionTTL stack token

/-- A refresh whose second `GET` has found nothing is refused: nothing is left of its
handler, and it has not succeeded. The next command would not be allowed, and neither would
a success. -/
theorem refused_of_absent (traced : (authServer bcrypt sessionTTL stack).Traced state)
    (member : task ∈ state.tasks) (asked : task.request.operation = .refresh token)
    {before : Trace} (checked : owners before ≠ []) (first : sinceChecked before = [])
    (trace : task.trace = before ++ [⟨.redis (.get (.session token)), .ok none⟩]) :
    task.program.pending? = none ∧ ∀ data, task.answer? ≠ some (.success data) := by
  have since : sinceChecked task.trace = [⟨.redis (.get (.session token)), .ok none⟩] := by
    rw [trace, sinceChecked_append checked, first]
    rfl
  have unread : ¬ ReadAgain token task.trace := by
    rintro ⟨text, read⟩
    simp [since] at read
  constructor
  · cases program : task.program with
    | answer value => rfl
    | halt => rfl
    | call command resume =>
      rcases traced.pending_allowed member (refresh_rechecks asked) program with
        unchecked | ⟨early, -⟩ | read
      · rw [trace, owners_append] at unchecked
        exact absurd (List.append_eq_nil_iff.mp unchecked).1 checked
      · simp [since] at early
      · exact absurd read unread
  · intro data answered
    exact unread (traced.answer_admitted member (refresh_rechecks asked) answered data rfl)

/-- Whoever is between its second `GET` and its `DEL` after a command either was there
before, or has just executed that `GET`. -/
theorem rechecking_moved (traced : (authServer bcrypt sessionTTL stack).Traced state)
    (member : task ∈ state.tasks) {resume : command.Result → Handler Response}
    (pending : task.program = .call command resume) {after : AuthTask} {result : command.Result}
    (asked : after.request = task.request) (trace : after.trace = task.trace ++ [⟨command, result⟩])
    (rechecking : Rechecking after token) :
    Rechecking task token ∨ AboutToRecheck task token := by
  obtain ⟨refreshes, since, -, kept⟩ := rechecking
  rw [asked] at refreshes
  have checked : owners task.trace ≠ [] := by
    intro unchecked
    rw [trace] at since
    exact since (sinceChecked_unchecked unchecked _)
  by_cases first : sinceChecked task.trace = []
  · rcases traced.pending_allowed member (refresh_rechecks refreshes) pending with
      unchecked | ⟨-, rfl⟩ | ⟨text, read⟩
    · exact absurd unchecked checked
    · exact Or.inr ⟨refreshes, checked, first, by simp [pending]⟩
    · simp [first] at read
  · refine Or.inl ⟨refreshes, first, by simp [pending], ?_⟩
    intro event recorded
    exact kept event (by simp [trace, recorded])

/-- A refresh that has passed both its checks and has more to execute is between its second
`GET` and its `DEL`, unless it has exchanged its token already. -/
theorem rechecking_of_twice (refreshes : task.request.operation = .refresh token)
    (twice : (owners task.trace).length = 2) (pending : task.program.pending?.isSome)
    (unexchanged : ¬ Exchanged task token) : Rechecking task token := by
  refine ⟨refreshes, sinceChecked_twice twice, pending, ?_⟩
  intro event recorded deletes
  exact unexchanged ⟨refreshes, twice, event, recorded, deletes⟩

section Rotating

variable
  (move : Move bcrypt (authServer bcrypt sessionTTL stack) state next index choice task command)
  (rotating : Rotating bcrypt sessionTTL stack state)

include move rotating

/-- No session is stored under an exchanged token. The refresh has read one that somebody
stored under it, and whoever stores now has drawn the token, which happens once: it would
have to be the same request, storing a second time. -/
theorem Move.exchanged_unstored
    (allowed : Allowed sessionTTL task.request.operation task.trace command) {session : Session}
    (stores : command.use = .stores session) {other : AuthTask} (member : other ∈ state.tasks) :
    ¬ Exchanged other session.token := by
  rintro ⟨refreshes, twice, -⟩
  obtain ⟨-, draw, unstored, -⟩ := allowed.stores session stores
  obtain ⟨id, found⟩ := List.exists_mem_of_ne_nil (owners other.trace) (by
    rintro nobody
    simp [nobody] at twice)
  obtain ⟨old, saw, -⟩ :=
    (traced_refreshing rotating.balanced.traced member refreshes).saw id found
  obtain ⟨named, place, kept⟩ := rotating.balanced.saw other member _ old saw
  obtain rfl := rotating.drawnOnce place index session.token
    (named ▸ kept.drew rotating.balanced.traced) ⟨task, move.present, by simp [draw]⟩
  obtain ⟨keeper, present, stored⟩ := kept
  obtain rfl : task = keeper := Option.some.inj (move.present.symm.trans present)
  simp [unstored] at stored

/-- The key of an exchanged token stays gone, as nobody else writes under it and its own
request writes under another. -/
theorem Move.gone_kept
    (allowed : Allowed sessionTTL task.request.operation task.trace command)
    (rotates : ∀ token, task.request.operation = .refresh token →
      RotationAllowed token task.trace command)
    (other : AuthTask) (member : other ∈ next.tasks) (token : String)
    (exchanged : Exchanged other token) :
    next.store.redis.table.get? (.session token) = none := by
  have earlier {before : AuthTask} (there : before ∈ state.tasks)
      (exchanged : Exchanged before token) :
      next.store.redis.table.get? (.session token) = none := by
    rw [move.store]
    rcases (perform_session bcrypt choice state.store token command
        move.disciplined).equations with same | ⟨session, deadline, uses, rfl, -⟩ | ⟨-, none⟩
    · rw [same, rotating.gone before there token exchanged]
    · exact absurd exchanged (move.exchanged_unstored rotating allowed uses there)
    · exact none
  obtain ⟨after, tasks, asked, trace⟩ := move.scheduled
  rw [tasks] at member
  rcases List.mem_or_eq_of_mem_set member with old | rfl
  · exact earlier old exchanged
  · rcases (exchanged_moved asked trace (rotates token)).mp exchanged with
      before | ⟨-, -, deletes⟩
    · exact earlier move.member before
    · rw [move.store, deletes_command deletes]
      exact perform_delete bcrypt choice state.store token move.works

/-- A refresh that executes its second `GET` after another one of its token has executed the
`DEL` is refused: the key is gone and nobody fills it again, so it finds nothing, has
nothing left to execute, and has not succeeded. -/
theorem Move.refused_after_deletion (traced : (authServer bcrypt sessionTTL stack).Traced next)
    (about : AboutToRecheck task token)
    (reads : command = .redis (.get (.session token))) {other : AuthTask}
    (member : other ∈ state.tasks) (exchanged : Exchanged other token) {after : AuthTask}
    (there : next.tasks[index]? = some after) :
    after.program.pending? = none ∧ ∀ data, after.answer? ≠ some (.success data) := by
  obtain ⟨refreshes, checked, first, -⟩ := about
  obtain ⟨after', present, asked, trace⟩ := move.moved
  obtain rfl : after = after' := Option.some.inj (there.symm.trans present)
  subst reads
  have absent : (perform bcrypt (.redis (.get (.session token))) choice state.store).1 =
      .ok none := by
    have gone := rotating.gone other member token exchanged
    simp only [perform, move.works]
    exact Redis.execute_get_absent _ _ gone
  rw [absent] at trace
  exact refused_of_absent traced (List.mem_of_getElem? there) (by rw [asked, refreshes]) checked
    first trace

/-- Once a token has been exchanged, no refresh of it is between its second `GET` and its
`DEL`. Whoever was there before would have been so together with the one that exchanges the
token now, and whoever comes there now is refused. -/
theorem Move.closed_kept (traced : (authServer bcrypt sessionTTL stack).Traced next)
    {resume : command.Result → Handler Response} (pending : task.program = .call command resume)
    (rotates : ∀ token, task.request.operation = .refresh token →
      RotationAllowed token task.trace command)
    (left : AuthTask) (here : left ∈ next.tasks) (right : AuthTask) (there : right ∈ next.tasks)
    (token : String) (exchanged : Exchanged left token) : ¬ Rechecking right token := by
  intro rechecking
  obtain ⟨after, tasks, asked, trace⟩ := move.scheduled
  have place {other : AuthTask} (member : other ∈ next.tasks) :
      other = after ∨ ∃ place, place ≠ index ∧ state.tasks[place]? = some other := by
    obtain ⟨place, located⟩ := List.mem_iff_getElem?.mp member
    rw [tasks] at located
    rcases set_lookup located with ⟨-, same⟩ | ⟨different, earlier⟩
    · exact Or.inl same
    · exact Or.inr ⟨place, different, earlier⟩
  have late {old : AuthTask} (member : old ∈ state.tasks) (exchanged : Exchanged old token) :
      False := by
    rcases place there with rfl | ⟨second, -, earlier⟩
    · rcases rechecking_moved rotating.balanced.traced move.member pending asked trace
        rechecking with was | about
      · exact rotating.closed old member task move.member token exchanged was
      · have reads : command = .redis (.get (.session token)) := by
          simpa [pending] using about.2.2.2
        obtain ⟨inside, -⟩ := List.getElem?_eq_some_iff.mp move.present
        have next : next.tasks[index]? = some right := by
          rw [tasks, List.getElem?_set_self inside]
        have refused := move.refused_after_deletion rotating traced about reads member exchanged next
        have running := rechecking.2.2.1
        simp [refused.1] at running
    · exact rotating.closed old member right (List.mem_of_getElem? earlier) token exchanged
        rechecking
  rcases place here with rfl | ⟨first, -, earlier⟩
  · rcases (exchanged_moved asked trace (rotates token)).mp exchanged with
      before | ⟨refreshes, twice, deletes⟩
    · exact late move.member before
    · rcases place there with rfl | ⟨second, different, earlier⟩
      · exact rechecking.2.2.2 ⟨command, (perform bcrypt command choice state.store).1⟩
          (by simp [trace]) deletes
      · by_cases before : Exchanged task token
        · exact late move.member before
        · have was := rechecking_of_twice refreshes twice (by simp [pending]) before
          exact different (rotating.single second index token right earlier task move.present
            rechecking was)
  · exact late (List.mem_of_getElem? earlier) exchanged

/-- Of the refreshes of a token that check alone, one at most is between its second `GET`
and its `DEL`. -/
theorem Move.single_kept {resume : command.Result → Handler Response}
    (pending : task.program = .call command resume)
    (alone : ∀ token, AboutToRecheck task token → ∀ other ∈ state.tasks.eraseIdx index,
      ¬ Rechecking other token)
    (first second : Nat) (token : String) (left : AuthTask) (here : left ∈ next.tasks[first]?)
    (right : AuthTask) (there : right ∈ next.tasks[second]?)
    (rechecking : Rechecking left token) (again : Rechecking right token) : first = second := by
  obtain ⟨after, tasks, asked, trace⟩ := move.scheduled
  have before {place : Nat} {other : AuthTask} (located : next.tasks[place]? = some other)
      (rechecking : Rechecking other token) :
      (∃ old, state.tasks[place]? = some old ∧ Rechecking old token) ∨
        (place = index ∧ AboutToRecheck task token) := by
    rw [tasks] at located
    rcases set_lookup located with ⟨rfl, rfl⟩ | ⟨-, earlier⟩
    · rcases rechecking_moved rotating.balanced.traced move.member pending asked trace
        rechecking with was | about
      · exact Or.inl ⟨task, move.present, was⟩
      · exact Or.inr ⟨rfl, about⟩
    · exact Or.inl ⟨other, earlier, rechecking⟩
  have conflict {place : Nat} {old : AuthTask} (located : state.tasks[place]? = some old)
      (rechecking : Rechecking old token) (about : AboutToRecheck task token) : place = index := by
    by_contra different
    exact alone token about old
      (List.mem_eraseIdx_iff_getElem?.mpr ⟨place, different, located⟩) rechecking
  rcases before here rechecking with ⟨old, earlier, was⟩ | ⟨rfl, about⟩
  · rcases before there again with ⟨old', earlier', was'⟩ | ⟨rfl, about⟩
    · exact rotating.single first second token old earlier old' earlier' was was'
    · exact conflict earlier was about
  · rcases before there again with ⟨old', earlier', was'⟩ | ⟨rfl, -⟩
    · exact (conflict earlier' was' about).symm
    · rfl

omit move in
/-- So refreshes rotate alone. When one of them is about to exchange its token, it is between
its second `GET` and its `DEL`, and nobody is there any more once the token has been
exchanged. -/
theorem Rotating.rotatesAlone (action : Action Request Choice) (draws : DrawsFresh state action) :
    RotatesAlone state action := by
  cases action with
  | start request => trivial
  | proceed index choice =>
    refine ⟨draws.1, ?_⟩
    intro task present token _ about other member exchanged
    obtain ⟨refreshes, twice, pending⟩ := about
    obtain ⟨place, different, located⟩ := List.mem_eraseIdx_iff_getElem?.mp member
    have unexchanged : ¬ Exchanged task token := fun already =>
      different (rotating.balanced.once place index token other located task present exchanged
        already)
    exact rotating.closed other (List.mem_of_getElem? located) task (List.mem_of_getElem? present)
      token exchanged (rechecking_of_twice refreshes twice (by simp [pending]) unexchanged)

end Rotating

/-- A request that has just been accepted has not checked anything yet. -/
theorem Rotating.accepted (rotating : Rotating bcrypt sessionTTL stack state)
    (request : Request) :
    Rotating bcrypt sessionTTL stack
      ((authServer bcrypt sessionTTL stack).step state (.start request)) := by
  have earlier {place : Nat} {other : AuthTask}
      (located : ((authServer bcrypt sessionTTL stack).step state (.start request)).tasks[place]? =
        some other) (executed : other.trace ≠ []) : state.tasks[place]? = some other := by
    rcases Service.step_task _ located with earlier | ⟨_, -, -, rfl⟩ | ⟨_, _, _, _, other, -⟩
    · exact earlier
    · exact absurd (accepted_idle _ _) executed
    · simp at other
  have exchanges {other : AuthTask} {token : String} (exchanged : Exchanged other token) :
      other.trace ≠ [] := by
    obtain ⟨-, -, event, recorded, -⟩ := exchanged
    exact List.ne_nil_of_mem recorded
  have rechecks {other : AuthTask} {token : String} (rechecking : Rechecking other token) :
      other.trace ≠ [] := by
    intro idle
    exact rechecking.2.1 (by rw [idle]; rfl)
  exact
    { balanced := rotating.balanced.accepted request
      drawnOnce := fun first second token drew again =>
        rotating.drawnOnce first second token (drew_accepted drew) (drew_accepted again)
      gone := by
        intro other member token exchanged
        obtain ⟨place, located⟩ := List.mem_iff_getElem?.mp member
        exact rotating.gone other
          (List.mem_of_getElem? (earlier located (exchanges exchanged))) token exchanged
      single := by
        intro first second token left here right there rechecking again
        exact rotating.single first second token left (earlier here (rechecks rechecking)) right
          (earlier there (rechecks again)) rechecking again
      closed := by
        intro left here right there token exchanged rechecking
        obtain ⟨first, located⟩ := List.mem_iff_getElem?.mp here
        obtain ⟨second, located'⟩ := List.mem_iff_getElem?.mp there
        exact rotating.closed left
          (List.mem_of_getElem? (earlier located (exchanges exchanged))) right
          (List.mem_of_getElem? (earlier located' (rechecks rechecking))) token exchanged
          rechecking }

/-- A step keeps all this if the token it draws is new and the second check it makes is made
alone. -/
theorem Rotating.step (rotating : Rotating bcrypt sessionTTL stack state)
    (action : Action Request Choice) (draws : DrawsFresh state action)
    (checks : ChecksAlone state action) :
    Rotating bcrypt sessionTTL stack ((authServer bcrypt sessionTTL stack).step state action) := by
  cases action with
  | start request => exact rotating.accepted request
  | proceed index choice =>
    have balanced := rotating.balanced.step (.proceed index choice)
      (rotating.rotatesAlone (.proceed index choice) draws)
    generalize after : (authServer bcrypt sessionTTL stack).step state (.proceed index choice) = next
      at balanced
    have transition : (authServer bcrypt sessionTTL stack).Transition state _ next :=
      after ▸ (authServer bcrypt sessionTTL stack).step_transition state _
    cases transition with
    | idle index choice nothing => exact rotating
    | proceeded index choice task command resume present pending =>
      have traced := rotating.balanced.traced
      have move := move_of_working traced present pending draws.1
      have allowed := traced.pending_allowed move.member
        (handleConnection_obeys bcrypt sessionTTL stack task.request) pending
      have rotates : ∀ token, task.request.operation = .refresh token →
          RotationAllowed token task.trace command := fun token asked =>
        traced.pending_allowed move.member (refresh_obeys asked) pending
      exact
        { balanced := balanced
          drawnOnce := by
            apply move.drawnOnce_moved rotating.drawnOnce
            rintro rfl token fresh other member
            exact draws.2 task present (by simp [pending]) token (by simp [fresh, Except.toOption])
              other member
          gone := move.gone_kept rotating allowed rotates
          single := by
            apply move.single_kept rotating pending
            intro token about
            exact checks task present token (by simp [about.1, Operation.token?]) about
          closed := move.closed_kept rotating balanced.traced pending rotates }

/-- Whatever holds of all this at the start of a run holds at its end, if every token drawn in
the run is new and every second check in it is made alone. -/
theorem Rotating.run (rotating : Rotating bcrypt sessionTTL stack state)
    (actions : List (Action Request Choice))
    (alone : (authServer bcrypt sessionTTL stack).Along
      (fun state action => DrawsFresh state action ∧ ChecksAlone state action) state actions) :
    Rotating bcrypt sessionTTL stack ((authServer bcrypt sessionTTL stack).run state actions) :=
  (authServer bcrypt sessionTTL stack).run_invariant (Rotating bcrypt sessionTTL stack)
    (fun _ action rotating both => rotating.step action both.1 both.2) state actions rotating
    alone

/-- Before the first request there is nothing to keep, as long as Redis holds no sessions. -/
theorem idle_rotating (bcrypt : Bcrypt) (sessionTTL : SessionTTL) (stack : Nat) {store : Store}
    (empty : ∀ token, store.redis.table.get? (.session token) = none) :
    Rotating bcrypt sessionTTL stack (Service.idleState store) where
  balanced := idle_balanced bcrypt sessionTTL stack empty
  drawnOnce := fun first second token drew => by simp [Drew] at drew
  gone := fun task member => absurd member (by simp)
  single := fun first second token left here => by simp at here
  closed := fun left here => absurd here (by simp)

end Step

end ShoppingCS.Auth
