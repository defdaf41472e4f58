import ShoppingCS.Auth.Lists
import ShoppingCS.Auth.Lookup
import ShoppingCS.Auth.Validation

/-!
# The backup of the sessions

Every session is stored twice, under its key in Redis and as a row of
`user_sessions`, by separate commands, and deleted twice as well. In between the
two stores differ. A request that answers has finished what it has begun: it has
inserted the row of every session it has stored, and deleted the row of every key
it has deleted. So the stores agree whenever no request is in flight, as far as
sessions that have not expired go: Redis drops only those that have.

A row is inserted before its token is answered, and deleted by a request that
presents the token, hence later. As with the keys, nothing comes back.
-/

namespace ShoppingCS.Auth

open Interleaving Program Storage Shop

/-- The row of user_sessions that backs a session up. Its expiry is the session's own, so the
two stores agree about the time as well. -/
def Session.backup (session : Session) : SessionRow :=
  { userId := session.userId, sessionToken := session.token, expiresAt := session.expiresAt }

/-- The command is the statement by which a logout or a refresh deletes the row of a token. -/
def DeletesRow (command : Command) (token : String) : Prop :=
  command = .postgres (.deleteSession token)

/-- What has been deleted or stored in Redis has been deleted or backed up in
PostgreSQL, unless the list of the user's sessions could not be written. -/
structure Settled (trace : Trace) : Prop where
  deletions : ∀ token, (∃ event ∈ trace, event.command.use = .deletes token) →
    ∃ event ∈ trace, DeletesRow event.command token
  sessions : ∀ session ∈ stored trace,
    (∃ event ∈ trace, event.command = .postgres (.insertSession session.backup)) ∨
      ∃ error, ⟨.redis (.sAdd (.userSessions session.userId) session.token), .error error⟩ ∈ trace

/-- What must have happened before a command that changes the backup: a row is inserted only
for a session already written to Redis, and deleted only by a request that presents the token,
after the key. -/
structure BackupAllowed (operation : Operation) (trace : Trace) (command : Command) : Prop where
  lists : command.KeepsLists
  inserts : ∀ row, command = .postgres (.insertSession row) →
    ∃ session ∈ stored trace, row = session.backup
  deletes : ∀ token, DeletesRow command token → operation.token? = some token ∧
    ∃ event ∈ trace, event.command.use = .deletes token
  keeps : ∀ userId, command ≠ .postgres (.deleteUserSessions userId)

/-- Commands that neither store nor delete a session or its row. Most of what a handler issues
is of this kind, and needs no condition on what came before. -/
structure Plain (command : Command) : Prop where
  lists : command.KeepsLists
  deletes : ∀ token, command.use ≠ .deletes token
  stores : ∀ session, command.use ≠ .stores session
  disciplined : command.use ≠ .foreign
  inserts : ∀ row, command ≠ .postgres (.insertSession row)
  deletesRow : ∀ token, ¬ DeletesRow command token
  keeps : ∀ userId, command ≠ .postgres (.deleteUserSessions userId)

theorem Plain.unstored {event : Event Command Command.Result} (plain : Plain event.command) :
    storedBy event = none := by
  cases stores : storedBy event with
  | none => rfl
  | some session => exact absurd (storedBy_some stores plain.disciplined) (plain.stores session)

/-- A plain command is allowed whatever came before it, since each condition of the discipline
is about commands that are not plain. -/
theorem Plain.backupAllowed {command : Command} (plain : Plain command) (operation : Operation)
    (trace : Trace) : BackupAllowed operation trace command where
  lists := plain.lists
  inserts row same := absurd same (plain.inserts row)
  deletes token same := absurd same (plain.deletesRow token)
  keeps := plain.keeps

/-- If each of two parts of a trace leaves nothing half done, then so does the whole: a
deletion or a session of one part is completed within that part. -/
theorem Settled.append {trace later : Trace} (settled : Settled trace) (next : Settled later) :
    Settled (trace ++ later) where
  deletions := by
    rintro token ⟨event, member, deletes⟩
    cases List.mem_append.mp member with
    | inl member =>
      obtain ⟨other, inside, row⟩ := settled.deletions token ⟨event, member, deletes⟩
      exact ⟨other, List.mem_append_left _ inside, row⟩
    | inr member =>
      obtain ⟨other, inside, row⟩ := next.deletions token ⟨event, member, deletes⟩
      exact ⟨other, List.mem_append_right _ inside, row⟩
  sessions := by
    intro session member
    rw [stored_append] at member
    cases List.mem_append.mp member with
    | inl member =>
      rcases settled.sessions session member with ⟨event, inside, inserts⟩ | ⟨error, refused⟩
      · exact Or.inl ⟨event, List.mem_append_left _ inside, inserts⟩
      · exact Or.inr ⟨error, List.mem_append_left _ refused⟩
    | inr member =>
      rcases next.sessions session member with ⟨event, inside, inserts⟩ | ⟨error, refused⟩
      · exact Or.inl ⟨event, List.mem_append_right _ inside, inserts⟩
      · exact Or.inr ⟨error, List.mem_append_right _ refused⟩

/-- A trace of plain events has no deletion and no session to complete. -/
theorem settled_plain {trace : Trace} (plain : ∀ event ∈ trace, Plain event.command) :
    Settled trace where
  deletions := by
    rintro token ⟨event, member, deletes⟩
    exact absurd deletes ((plain event member).deletes token)
  sessions := by
    intro session member
    have nothing : stored trace = [] :=
      List.filterMap_eq_nil_iff.mpr (fun event inside => (plain event inside).unstored)
    simp [nothing] at member

section Handlers

variable {operation : Operation} {history : Trace}

/-- A program that issues only plain commands may run after any settled trace, and leaves it
settled. -/
theorem settled_of_plain {α : Type} {program : Handler α} (issues : program.Issues Plain)
    (settled : Settled history) :
    Obeys (BackupAllowed operation) (fun after _ => Settled after) history program := by
  refine (issues.obeys (fun later _ command plain => plain.backupAllowed operation _)).mono
    (fun _ _ allowed => allowed) ?_
  rintro after value ⟨later, rfl, plain⟩
  exact settled.append (settled_plain plain)

/-- Of the commands to Redis, those that touch no session key are plain, as long as they keep
the lists of sessions. -/
theorem plain_redis {command : RedisCommand} (lists : (Command.redis command).KeepsLists)
    (elsewhere : (Command.redis command).use = .elsewhere) : Plain (.redis command) := by
  refine ⟨lists, ?_, ?_, ?_, by simp, by simp [DeletesRow], by simp⟩ <;> simp [elsewhere]

theorem plain_get (token : String) : Plain (.redis (.get (.session token))) := by
  refine ⟨by simp [Command.KeepsLists], ?_, ?_, ?_, by simp, by simp [DeletesRow], by simp⟩ <;>
    simp [Command.use]

/-- A statement about users, or one that only reads, is plain: the three that touch
user_sessions are excluded by name. -/
theorem plain_postgres {statement : Statement} (inserts : ∀ row, statement ≠ .insertSession row)
    (deletes : ∀ token, statement ≠ .deleteSession token)
    (keeps : ∀ userId, statement ≠ .deleteUserSessions userId) : Plain (.postgres statement) := by
  refine ⟨?_, ?_, ?_, ?_, ?_, ?_, ?_⟩ <;>
    simp [Command.KeepsLists, Command.use, DeletesRow, inserts, deletes, keeps]

/-- Commands to neither store, such as the draw of a token or a look at the clock, are plain.
-/
theorem plain_local {command : Command} (redis : ∀ asked, command ≠ .redis asked)
    (postgres : ∀ statement, command ≠ .postgres statement) : Plain command := by
  cases command with
  | redis asked => exact absurd rfl (redis asked)
  | postgres statement => exact absurd rfl (postgres statement)
  | _ => refine ⟨?_, ?_, ?_, ?_, ?_, ?_, ?_⟩ <;> simp [Command.KeepsLists, Command.use, DeletesRow]

theorem plain_redisGet (token : String) : (redisGet (.session token)).Issues Plain :=
  (redisGet_calls (.session token)).mono (fun _ same => same ▸ plain_get token)

theorem plain_getUserById (userId : String) : (getUserById userId).Issues Plain :=
  (getUserById_calls userId).mono
    (fun _ same => same ▸ plain_postgres (by simp) (by simp) (by simp))

theorem plain_getUserByUsername (username : String) : (getUserByUsername username).Issues Plain :=
  (getUserByUsername_calls username).mono
    (fun _ same => same ▸ plain_postgres (by simp) (by simp) (by simp))

/-- A registration issues commands about users only, so all of them are plain. -/
theorem plain_register (username email password : String) :
    (register username email password).Issues Plain := by
  apply (register_calls username email password).mono
  intro command calls
  cases calls with
  | ask username email => exact plain_postgres (by simp) (by simp) (by simp)
  | hash password => exact plain_local (by simp) (by simp)
  | draw => exact plain_local (by simp) (by simp)
  | insert user => exact plain_postgres (by simp) (by simp) (by simp)

section Presented

variable {token : String} (named : operation.token? = some token)

include named

/-- The deletions DeleteSession makes once its lookup has returned: the key first, then the
entry of the list if a session was found, and the row last. Whatever was found, nothing stays
half done. -/
theorem clearSession_settled (found : Except String Session) (settled : Settled history) :
    Obeys (BackupAllowed operation) (fun after _ => Settled after) history
      (clearSession token found) := by
  have delete (trace : Trace) :
      BackupAllowed operation trace (.redis (.delete (.session token))) :=
    ⟨by simp [Command.KeepsLists], by simp, by simp [DeletesRow], by simp⟩
  have row {trace : Trace} {event : Event Command Command.Result} (member : event ∈ trace)
      (deletes : event.command.use = .deletes token) :
      BackupAllowed operation trace (.postgres (.deleteSession token)) := by
    refine ⟨by simp [Command.KeepsLists], by simp, fun other same => ?_, by simp⟩
    obtain rfl : token = other := by simpa [DeletesRow] using same
    exact ⟨named, event, member, deletes⟩
  have closed {trace : Trace} (deletions : ∀ event ∈ trace, ∀ other,
      event.command.use = .deletes other → other = token)
      (last : ∃ event ∈ trace, DeletesRow event.command token) (nothing : stored trace = []) :
      Settled trace := by
    refine ⟨?_, by simp [nothing]⟩
    rintro other ⟨event, member, deletes⟩
    rw [deletions event member other deletes]
    exact last
  cases found with
  | error error =>
    refine ⟨delete _, fun first =>
      ⟨row (List.mem_append_right _ (List.mem_singleton_self _)) rfl, ?_⟩⟩
    intro second
    rw [List.append_assoc]
    refine settled.append (closed ?_ ?_ rfl)
    · simp [Command.use]
    · simp [DeletesRow]
  | ok session =>
    refine ⟨delete _, fun first => ⟨(plain_redis (by simp [Command.KeepsLists]) rfl).backupAllowed _ _, fun second =>
      ⟨row (List.mem_append_left _ (List.mem_append_right _ (List.mem_singleton_self _))) rfl,
        fun third => ?_⟩⟩⟩
    simp only [List.append_assoc]
    refine settled.append (closed ?_ ?_ rfl)
    · simp [Command.use, RedisCommand.key]
    · simp [DeletesRow]

/-- GetSession and DeleteSession call each other, and each leaves nothing open, to any depth.
The induction is on the depth the stack allows, for both at once. -/
theorem sessionCalls_settled (stack : Nat) (settled : Settled history) :
    Obeys (BackupAllowed operation) (fun after _ => Settled after) history
        (getSession stack token) ∧
      Obeys (BackupAllowed operation) (fun after _ => Settled after) history
        (deleteSession stack token) := by
  induction stack generalizing history with
  | zero => exact ⟨trivial, trivial⟩
  | succ stack inductionHypothesis =>
    constructor
    · rw [getSession_succ]
      refine (settled_of_plain (plain_redisGet token) settled).bind ?_
      intro after found read
      cases found with
      | error error => exact read
      | ok session =>
        refine ⟨(plain_local (by simp) (by simp)).backupAllowed _ _, fun now => ?_⟩
        have clock : Settled [⟨.timeNow, now⟩] :=
          settled_plain (by simpa using plain_local (by simp) (by simp))
        have looked := read.append clock
        change Obeys _ _ _ (judgeSession stack token session now)
        unfold judgeSession
        split
        · exact (inductionHypothesis looked).2.bind (fun _ _ deleted => deleted)
        · exact looked
    · rw [deleteSession_succ]
      exact (inductionHypothesis settled).1.bind
        (fun after found looked => clearSession_settled named found looked)

end Presented

/-- A creation backs its session up, unless the list of sessions cannot be written. -/
theorem createSession_settled (sessionTTL : SessionTTL) (user : User) (settled : Settled history) :
    Obeys (BackupAllowed operation) (fun after _ => Settled after) history
      (createSession sessionTTL user) := by
  have free {trace : Trace} {command : Command} (redis : ∀ asked, command ≠ .redis asked)
      (postgres : ∀ statement, command ≠ .postgres statement) :
      BackupAllowed operation trace command := (plain_local redis postgres).backupAllowed _ _
  refine Obeys.bind (settled_of_plain ⟨plain_local (by simp) (by simp), fun drawn => ?_⟩ settled)
    (fun after drawn minted => ?_)
  · cases drawn <;> trivial
  cases drawn with
  | error error => exact minted
  | ok token =>
    refine ⟨free (by simp) (by simp), fun started => ⟨free (by simp) (by simp), fun createdAt => ?_⟩⟩
    refine ⟨⟨by simp [Command.KeepsLists], by simp, by simp [DeletesRow], by simp⟩, fun kept => ?_⟩
    simp only [List.append_assoc]
    cases kept with
    | error error =>
      refine minted.append ⟨?_, ?_⟩
      · simp [Command.use]
      · simp [stored, storedBy]
    | ok _ =>
      refine ⟨(plain_redis (by simp [Command.KeepsLists]) rfl).backupAllowed _ _, fun listed => ?_⟩
      simp only [List.append_assoc]
      cases listed with
      | error error =>
        refine minted.append ⟨?_, ?_⟩
        · simp [Command.use, RedisCommand.key]
        · simp [stored, storedBy]
      | ok _ =>
        refine ⟨(plain_redis (by simp [Command.KeepsLists]) rfl).backupAllowed _ _, fun expires => ⟨⟨by simp [Command.KeepsLists], ?_,
          by simp [DeletesRow], by simp⟩, fun backed => ?_⟩⟩
        · rintro row same
          simp only [Command.postgres.injEq, Statement.insertSession.injEq] at same
          subst same
          refine ⟨⟨token, user.id, user.username, user.email, started + sessionTTL.val * 1000000000,
            createdAt⟩, ?_, rfl⟩
          simp [stored, storedBy]
        · simp only [List.append_assoc]
          refine minted.append ⟨?_, ?_⟩
          · simp [Command.use, RedisCommand.key]
          · simp [stored, storedBy, Session.backup]

/-- A validation makes a lookup, which may delete an expired session, and then reads a user.
Both leave a settled trace settled. -/
theorem validateToken_settled {token : String} (named : operation.token? = some token) (stack : Nat)
    (settled : Settled history) :
    Obeys (BackupAllowed operation) (fun after _ => Settled after) history
      (validateToken stack token) := by
  unfold validateToken
  split
  · exact settled
  · refine (sessionCalls_settled named stack settled).1.bind ?_
    intro after found looked
    cases found with
    | error error => exact looked
    | ok session =>
      refine (settled_of_plain (plain_getUserById session.userId) looked).bind
        ?_
      intro after found known
      cases found <;> exact known

/-- A rotation looks up, deletes and creates; the conditions of the three parts are chained,
and the created session is backed up before the answer. -/
theorem refreshSession_settled {token : String} (named : operation.token? = some token)
    (sessionTTL : SessionTTL) (stack : Nat) (settled : Settled history) :
    Obeys (BackupAllowed operation) (fun after _ => Settled after) history
      (refreshSession sessionTTL stack token) := by
  refine (sessionCalls_settled named stack settled).1.bind ?_
  intro after found looked
  cases found with
  | error error => exact looked
  | ok session =>
    refine (settled_of_plain (plain_getUserById session.userId) looked).bind
      ?_
    intro after found known
    cases found with
    | error error => exact known
    | ok user =>
      exact (sessionCalls_settled named stack known).2.bind
        (fun after _ deleted => createSession_settled sessionTTL user deleted)

/-- A login creates its session last, after reads that are plain, and the creation is settled
by itself: it inserts the row, unless the list cannot be written. -/
theorem login_settled (bcrypt : Bcrypt) (sessionTTL : SessionTTL) (username password : String)
    (settled : Settled history) :
    Obeys (BackupAllowed operation) (fun after _ => Settled after) history
      (login bcrypt sessionTTL username password) := by
  unfold login
  split_ifs
  · exact settled
  · exact settled
  · refine (settled_of_plain (plain_getUserByUsername username) settled).bind
      ?_
    intro after found known
    cases found with
    | error error => exact known
    | ok user =>
      dsimp only
      split
      · exact known
      · refine (createSession_settled sessionTTL user known).bind ?_
        intro after created done
        cases created <;> exact done

/-- Each of the five requests obeys the discipline of the backup and ends with nothing half
done. The cases are the operations of the protocol. -/
theorem handleConnection_settled (bcrypt : Bcrypt) (sessionTTL : SessionTTL) (stack : Nat)
    (request : Request) :
    Obeys (BackupAllowed request.operation) (fun after _ => Settled after) []
      (handleConnection bcrypt sessionTTL stack request) := by
  obtain ⟨connId, operation⟩ := request
  have nothing : Settled [] := settled_plain (by simp)
  cases operation with
  | register username email password =>
    change Obeys _ _ [] (handleRegister username email password)
    unfold handleRegister
    split_ifs
    · exact nothing
    · refine (settled_of_plain (plain_register username email password) nothing).bind
        ?_
      intro after found done
      cases found <;> exact done
  | login username password =>
    refine Obeys.through (fun after _ => Settled after) ?_ ?_
    · unfold handleLogin
      split_ifs
      · exact nothing
      · refine (login_settled bcrypt sessionTTL username password nothing).bind
          ?_
        intro after found done
        cases found <;> exact done
    · intro after response done
      unfold rememberLogin
      split
      · exact settled_of_plain ⟨plain_redis (by simp [Command.KeepsLists]) rfl, fun _ => trivial⟩ done
      · exact done
  | logout token =>
    change Obeys _ _ [] (handleLogout stack token)
    unfold handleLogout logout
    split_ifs
    · exact nothing
    · refine Obeys.through (fun after _ => Settled after) ?_ ?_
      · exact (sessionCalls_settled rfl stack nothing).2.bind (fun after _ deleted => deleted)
      · intro after result done
        cases result <;> exact done
  | validate token =>
    change Obeys _ _ [] (handleValidate stack token)
    unfold handleValidate
    split_ifs
    · exact nothing
    · refine (validateToken_settled rfl stack nothing).bind ?_
      intro after found done
      cases found <;> exact done
  | refresh token =>
    change Obeys _ _ [] (handleRefresh sessionTTL stack token)
    unfold handleRefresh
    split_ifs
    · exact nothing
    · refine (validateToken_settled rfl stack nothing).bind ?_
      intro after found done
      cases found with
      | error error => exact done
      | ok user =>
        refine (refreshSession_settled rfl sessionTTL stack done).bind ?_
        intro after found done
        cases found <;> exact done
  | unknown type => exact nothing

end Handlers

/-- What one command can do to the row of a token: nothing, unless it inserts a row or deletes
this one or all rows of a user. -/
theorem perform_row (bcrypt : Bcrypt) (command : Command) (choice : Choice) (store : Store)
    (token : String) :
    (perform bcrypt command choice store).2.postgres.userSessions.get? token =
        store.postgres.userSessions.get? token ∨
      (∃ row, command = .postgres (.insertSession row)) ∨
      (DeletesRow command token ∧
        (perform bcrypt command choice store).2.postgres.userSessions.get? token = none) ∨
      ∃ userId, command = .postgres (.deleteUserSessions userId) := by
  cases command with
  | redis command => cases failing : choice.failure <;> simp [perform, failing, Store.wait]
  | postgres statement =>
    cases failing : choice.failure with
    | some error => simp [perform, failing, Store.wait]
    | none =>
      cases statement with
      | insertSession row => exact Or.inr (Or.inl ⟨row, rfl⟩)
      | deleteUserSessions userId => exact Or.inr (Or.inr (Or.inr ⟨userId, rfl⟩))
      | deleteSession other =>
        have deleted := Postgres.execute_deleteSession store.postgres other token
        by_cases same : other = token
        · subst same
          rw [if_pos rfl] at deleted
          exact Or.inr (Or.inr (Or.inl ⟨rfl, by simpa [perform, failing, Store.wait] using deleted⟩))
        · rw [if_neg same] at deleted
          exact Or.inl (by simpa [perform, failing, Store.wait] using deleted)
      | insertUser user =>
        have same : (store.postgres.execute (.insertUser user)).2.userSessions = _ :=
          Postgres.execute_userSessions store.postgres (by simp) (by simp) (by simp)
        exact Or.inl (by simp [perform, failing, Store.wait, same])
      | userExists username email =>
        have same : (store.postgres.execute (.userExists username email)).2.userSessions = _ :=
          Postgres.execute_userSessions store.postgres (by simp) (by simp) (by simp)
        exact Or.inl (by simp [perform, failing, Store.wait, same])
      | selectUserByUsername username => exact Or.inl (by simp [perform, failing, Store.wait])
      | selectUserById id => exact Or.inl (by simp [perform, failing, Store.wait])
  | _ => exact Or.inl rfl

/-- Some request has executed the statement that deletes the row of the token. -/
def RowDeleted (state : AuthState) (token : String) : Prop :=
  ∃ task ∈ state.tasks, ∃ event ∈ task.trace, DeletesRow event.command token

/-- In the trace of a request no addition to a user's list of sessions has failed. It is the
invariant that rules out a created session without a row. -/
def ListsWritten (task : AuthTask) : Prop :=
  ∀ userId token error,
    ⟨.redis (.sAdd (.userSessions userId) token), .error error⟩ ∉ task.trace

/-- The invariant of the backup along an orderly run. Rows and stored sessions correspond, up
to keys that have been deleted and rows that a request in flight has still to insert or
delete. -/
structure Backed (state : AuthState) : Prop where
  lists : Listed state.store.redis
  written : ∀ task ∈ state.tasks, ListsWritten task
  ids : state.store.postgres.IdsFit
  rows : ∀ token row, state.store.postgres.userSessions.get? token = some row →
    ∃ index session, Kept state index session ∧ row = session.backup
  inserted : ∀ task ∈ state.tasks, ∀ event ∈ task.trace, ∀ row,
    event.command = .postgres (.insertSession row) →
    state.store.postgres.userSessions.get? row.sessionToken = some row ∨
      RowDeleted state row.sessionToken
  removed : ∀ token, RowDeleted state token →
    state.store.postgres.userSessions.get? token = none
  lost : ∀ index session, Kept state index session →
    state.store.redis.table.get? (.session session.token) ≠ none ∨ Deleted state session.token

section Backed

variable {bcrypt : Bcrypt} {sessionTTL : SessionTTL} {stack : Nat} {state next : AuthState}

/-- A request that deletes a row presents its token, and has deleted the key under that token
earlier in its trace, by the discipline its handler obeys. -/
theorem deletesRow_presents (traced : (authServer bcrypt sessionTTL stack).Traced state)
    {task : AuthTask} (member : task ∈ state.tasks) {token : String}
    {event : Event Command Command.Result} (recorded : event ∈ task.trace)
    (deletes : DeletesRow event.command token) :
    task.request.operation.token? = some token ∧
      ∃ other ∈ task.trace, other.command.use = .deletes token := by
  have kept := (handleConnection_settled bcrypt sessionTTL stack task.request).keeps
    (traced task member)
    (fun trace => ∀ event ∈ trace, ∀ token, DeletesRow event.command token →
      task.request.operation.token? = some token ∧ ∃ other ∈ trace, other.command.use = .deletes token)
    (by
      intro later command result earlier allowed event member token deletes
      cases List.mem_append.mp member with
      | inl member =>
        obtain ⟨presents, other, inside, use⟩ := earlier event member token deletes
        exact ⟨presents, other, List.mem_append_left _ inside, use⟩
      | inr member =>
        obtain rfl := List.mem_singleton.mp member
        obtain ⟨presents, other, inside, use⟩ := allowed.deletes token deletes
        exact ⟨presents, other, List.mem_append_left _ inside, use⟩)
    (by simp)
  simpa using kept event recorded token deletes

/-- So a deleted row has a deleted key. The converse needs that no request is in flight. -/
theorem RowDeleted.deleted (traced : (authServer bcrypt sessionTTL stack).Traced state)
    {token : String} (gone : RowDeleted state token) : Deleted state token := by
  obtain ⟨task, member, event, recorded, deletes⟩ := gone
  obtain ⟨-, other, inside, use⟩ := deletesRow_presents traced member recorded deletes
  exact ⟨task, member, other, inside, use⟩

/-- What a request has executed stays in its trace, so a row's deletion is not forgotten by
any step. -/
theorem rowDeleted_step {token : String} (action : Action Request Choice)
    (gone : RowDeleted state token) :
    RowDeleted ((authServer bcrypt sessionTTL stack).step state action) token := by
  obtain ⟨task, member, event, recorded, deletes⟩ := gone
  obtain ⟨index, present⟩ := List.mem_iff_getElem?.mp member
  obtain ⟨later, there, -, more, grown⟩ := Service.step_extends action present
  refine ⟨later, List.mem_of_getElem? there, event, ?_, deletes⟩
  rw [grown]
  exact List.mem_append_left _ recorded

section Turn

variable {index : Nat} {choice : Choice} {task : AuthTask} {command : Command}
  (turn : Turn bcrypt sessionTTL stack state next index choice task command)
  (consistent : Consistent bcrypt sessionTTL stack state) (backed : Backed state)
  (allowed : BackupAllowed task.request.operation task.trace command)

include turn backed allowed

/-- The commands of a handler keep what stands under a user's key a list, so the next addition
to it cannot fail for its type. -/
theorem Turn.lists_kept : Listed next.store.redis := by
  rw [turn.store]
  exact perform_listed bcrypt allowed.lists choice backed.lists

/-- No addition to a list fails in this turn, since every user's key holds a list before it.
-/
theorem Turn.written_kept (other : AuthTask) (member : other ∈ next.tasks) :
    ListsWritten other := by
  intro userId token error recorded
  rcases turn.events member recorded with ⟨before, old, -, earlier⟩ | ⟨same, -⟩
  · exact backed.written before old userId token error earlier
  · obtain ⟨rfl, result⟩ := Event.mk.inj same
    have waited : Listed (state.store.wait choice).redis := backed.lists
    have fine := execute_sAdd_listed waited userId token
    have failed : ((state.store.wait choice).redis.execute (.sAdd (.userSessions userId) token)).1 =
        .error error := by
      have failed := (eq_of_heq result).symm
      simpa only [perform, turn.works] using failed
    simp [fine] at failed

/-- The ids of users fit the column of user_sessions after the turn too. Only a registration
adds a user, and its id is a fresh number in range. -/
theorem Turn.ids_kept : next.store.postgres.IdsFit := by
  rw [turn.store]
  cases command with
  | redis command =>
    simp only [perform, turn.works]
    exact backed.ids
  | postgres statement =>
    simp only [perform, turn.works]
    exact Postgres.execute_idsFit backed.ids statement
  | _ => exact backed.ids

include consistent

/-- When the turn inserts a row, it is that of a session the request has stored, and the
insertion succeeds. The table then has this row under the token and is otherwise as before. -/
theorem Turn.backs {row : SessionRow} (inserts : command = .postgres (.insertSession row)) :
    ∃ session ∈ stored task.trace, row = session.backup ∧ ∀ wanted,
      next.store.postgres.userSessions.get? wanted =
        if session.token = wanted then some session.backup
        else state.store.postgres.userSessions.get? wanted := by
  subst inserts
  obtain ⟨session, stores, rfl⟩ := allowed.inserts row rfl
  have kept : Kept state index session := ⟨task, turn.present, stores⟩
  obtain ⟨user, found, -⟩ := consistent.owner kept
  have fits : session.userId.length ≤ 50 := by
    obtain ⟨member, same⟩ := KeyedTable.get?_sound found
    rw [← same]
    exact backed.ids user member
  have length : session.token.length ≤ 255 := by
    have exactly := (consistent.token_drawn kept).1
    omega
  refine ⟨session, stores, rfl, ?_⟩
  intro wanted
  have executed := Postgres.execute_insertSession state.store.postgres session.backup ⟨fits, length⟩
    (consistent.token_drawn kept).2 (by simp [Session.backup, found]) (by
      intro other present
      obtain ⟨place, same, kept', rfl⟩ := backed.rows _ other present
      have token : same.token = session.token := (KeyedTable.get?_sound present).2
      rw [(consistent.keptOnce kept' kept token).2]) wanted
  rw [turn.store]
  simp only [perform, turn.works]
  exact executed

/-- Every row backs up a session that has been stored: an old row did before, and a new one
does by the discipline of the insertion. -/
theorem Turn.rows_kept (token : String) (row : SessionRow)
    (present : next.store.postgres.userSessions.get? token = some row) :
    ∃ place session, Kept next place session ∧ row = session.backup := by
  have earlier (before : state.store.postgres.userSessions.get? token = some row) :
      ∃ place session, Kept next place session ∧ row = session.backup := by
    obtain ⟨place, session, kept, same⟩ := backed.rows token row before
    exact ⟨place, session, turn.kept_mono kept, same⟩
  rcases perform_row bcrypt command choice state.store token with
    same | ⟨inserted, inserts⟩ | ⟨-, none⟩ | ⟨userId, deletes⟩
  · rw [turn.store, same] at present
    exact earlier present
  · obtain ⟨session, stores, -, lookup⟩ := turn.backs consistent backed allowed inserts
    rw [lookup] at present
    split at present
    · exact ⟨index, session, turn.kept_mono ⟨task, turn.present, stores⟩,
        (Option.some.inj present).symm⟩
    · exact earlier present
  · rw [turn.store, none] at present
    simp at present
  · exact absurd deletes (allowed.keeps userId)

/-- A deleted row does not come back: nobody backs up a session whose token has been
presented. -/
theorem Turn.removed_kept (token : String) (gone : RowDeleted next token) :
    next.store.postgres.userSessions.get? token = none := by
  obtain ⟨other, member, event, recorded, deletes⟩ := gone
  rcases turn.events member recorded with ⟨before, old, -, earlier⟩ | ⟨rfl, -⟩
  · have unbacked := backed.removed token ⟨before, old, event, earlier, deletes⟩
    rcases perform_row bcrypt command choice state.store token with
      same | ⟨inserted, inserts⟩ | ⟨-, none⟩ | ⟨userId, deletes⟩
    · rw [turn.store, same, unbacked]
    · obtain ⟨session, stores, -, lookup⟩ := turn.backs consistent backed allowed inserts
      rw [lookup, if_neg, unbacked]
      rintro rfl
      obtain ⟨presents, -⟩ := deletesRow_presents consistent.traced old earlier deletes
      obtain ⟨owner, present, issued⟩ := consistent.received index session.token
        (Kept.drew consistent.traced ⟨task, turn.present, stores⟩) before old presents
      obtain rfl : task = owner := Option.some.inj (turn.present.symm.trans present)
      have answered := issued.answered
      simp [turn.unanswered] at answered
    · rw [turn.store, none]
    · exact absurd deletes (allowed.keeps userId)
  · obtain rfl : command = .postgres (.deleteSession token) := deletes
    have deleted := Postgres.execute_deleteSession state.store.postgres token token
    rw [if_pos rfl] at deleted
    rw [turn.store]
    simp only [perform, turn.works]
    exact deleted

/-- A row that has been inserted is there until some request deletes it, since no two rows are
ever inserted for one token. -/
theorem Turn.inserted_kept (other : AuthTask) (member : other ∈ next.tasks)
    (event : Event Command Command.Result) (recorded : event ∈ other.trace) (row : SessionRow)
    (inserts : event.command = .postgres (.insertSession row)) :
    next.store.postgres.userSessions.get? row.sessionToken = some row ∨
      RowDeleted next row.sessionToken := by
  rcases turn.events member recorded with ⟨before, old, -, earlier⟩ | ⟨rfl, -⟩
  · cases backed.inserted before old event earlier row inserts with
    | inl there =>
      rcases perform_row bcrypt command choice state.store row.sessionToken with
        same | ⟨inserted, now⟩ | ⟨deletes, -⟩ | ⟨userId, deletes⟩
      · exact Or.inl (by rw [turn.store, same, there])
      · obtain ⟨session, stores, -, lookup⟩ := turn.backs consistent backed allowed now
        rw [lookup]
        split
        · rename_i named
          obtain ⟨place, kept, keeps, same⟩ := backed.rows _ row there
          have token : kept.token = session.token := by rw [named, same]; rfl
          obtain ⟨-, rfl⟩ := consistent.keptOnce keeps ⟨task, turn.present, stores⟩ token
          exact Or.inl (by rw [same])
        · exact Or.inl there
      · obtain ⟨after, inside, here⟩ := turn.recorded
        exact Or.inr ⟨after, inside, _, here, deletes⟩
      · exact absurd deletes (allowed.keeps userId)
    | inr gone =>
      rw [turn.steps]
      exact Or.inr (rowDeleted_step _ gone)
  · obtain ⟨session, -, rfl, lookup⟩ := turn.backs consistent backed allowed inserts
    exact Or.inl (by rw [lookup, Session.backup, if_pos rfl])

omit allowed in
/-- A session that has been stored is there, expired or not, until a deletion of its key has
been executed. -/
theorem Turn.lost_kept (place : Nat) (session : Session) (kept : Kept next place session) :
    next.store.redis.table.get? (.session session.token) ≠ none ∨ Deleted next session.token := by
  rcases turn.kept kept with earlier | ⟨-, stores⟩
  · rcases (perform_session bcrypt choice state.store session.token command
        turn.disciplined).equations with same | ⟨other, deadline, -, -, same⟩ | ⟨uses, -⟩
    · cases backed.lost place session earlier with
      | inl there => exact Or.inl (by rw [turn.store, same]; exact there)
      | inr gone =>
        rw [turn.steps]
        exact Or.inr (deleted_step _ _ gone)
    · exact Or.inl (by rw [turn.store, same]; simp)
    · exact Or.inr (turn.deleted.mpr (Or.inr uses))
  · obtain ⟨entry, found, -⟩ := turn.stores_entry consistent stores
    exact Or.inl (by simp [found])

end Turn

/-- A request that is accepted has an empty trace and touches no store, so each part of the
invariant carries over. -/
theorem Backed.accepted (backed : Backed state) (request : Request) :
    Backed ((authServer bcrypt sessionTTL stack).step state (.start request)) := by
  exact
    { lists := backed.lists
      written := fun task member userId token error event =>
        backed.written task (accepted_recorded member event) userId token error event
      ids := backed.ids
      rows := by
        intro token row present
        obtain ⟨index, session, kept, same⟩ := backed.rows token row present
        exact ⟨index, session, kept_step (authServer bcrypt sessionTTL stack) _ kept, same⟩
      inserted := by
        intro task member event inside row inserts
        exact (backed.inserted task (accepted_recorded member inside) event inside row inserts).imp id
          (rowDeleted_step _)
      removed := by
        rintro token ⟨task, member, event, inside, deletes⟩
        exact backed.removed token ⟨task, accepted_recorded member inside, event, inside, deletes⟩
      lost := by
        intro index session kept
        exact (backed.lost index session (kept_accepted kept)).imp id (deleted_step _ _) }

/-- One orderly step keeps the backup. An accepted request is the lemma above, and a statement
is a turn, whose parts the section has proved one by one. -/
theorem Backed.step (backed : Backed state) (consistent : Consistent bcrypt sessionTTL stack state)
    (action : Action Request Choice) (orderly : Orderly state action) :
    Backed ((authServer bcrypt sessionTTL stack).step state action) := by
  cases action with
  | start request => exact backed.accepted request
  | proceed index choice =>
    generalize after : (authServer bcrypt sessionTTL stack).step state (.proceed index choice) = next
    have transition : (authServer bcrypt sessionTTL stack).Transition state _ next :=
      after ▸ (authServer bcrypt sessionTTL stack).step_transition state _
    cases transition with
    | idle index choice nothing => exact backed
    | proceeded index choice task command resume present pending =>
      have turn := turn_of_orderly consistent.traced present pending orderly
      have allowed := consistent.traced.pending_allowed turn.member
        (handleConnection_settled bcrypt sessionTTL stack task.request) pending
      exact
        { lists := turn.lists_kept backed allowed
          written := turn.written_kept backed allowed
          ids := turn.ids_kept backed allowed
          rows := turn.rows_kept consistent backed allowed
          inserted := turn.inserted_kept consistent backed allowed
          removed := turn.removed_kept consistent backed allowed
          lost := turn.lost_kept consistent backed }

/-- Redis and the backup are empty, both clocks agree, and ids fit their column. -/
structure Blank (store : Store) : Prop where
  redis : store.redis.table = .empty
  clocks : store.redis.clock = store.clock
  rows : store.postgres.userSessions = .empty
  ids : store.postgres.IdsFit

theorem Blank.fresh {store : Store} (blank : Blank store) : Fresh store where
  empty := fun token => by simp [blank.redis]
  clocks := blank.clocks

/-- Before the first request there are no rows, no sessions and no tasks, so the invariant
holds of a blank store. -/
theorem Blank.backed {store : Store} (blank : Blank store) : Backed (Service.idleState store) where
  lists := fun userId entry present => by simp [blank.redis] at present
  written := fun task member => absurd member (by simp)
  ids := blank.ids
  rows := fun token row present => by simp [blank.rows] at present
  inserted := fun task member => absurd member (by simp)
  removed := fun token gone => by simp [RowDeleted] at gone
  lost := fun index session kept => by simp [Kept] at kept

/-- Both invariants hold at the end of every orderly run from a blank store, by induction on
the actions, each step using the consistency of the state before it. -/
theorem Blank.run {store : Store} (blank : Blank store) (actions : List (Action Request Choice))
    (orderly : (authServer bcrypt sessionTTL stack).Along Orderly (Service.idleState store) actions) :
    Consistent bcrypt sessionTTL stack
        ((authServer bcrypt sessionTTL stack).run (Service.idleState store) actions) ∧
      Backed ((authServer bcrypt sessionTTL stack).run (Service.idleState store) actions) :=
  (authServer bcrypt sessionTTL stack).run_invariant
    (fun state => Consistent bcrypt sessionTTL stack state ∧ Backed state)
    (fun _ action kept orderly => ⟨kept.1.step action orderly, kept.2.step kept.1 action orderly⟩)
    _ actions ⟨blank.fresh.consistent bcrypt sessionTTL stack, blank.backed⟩ orderly

end Backed

/-- Redis holds the given session under the token, and the session has not expired by the
clock of the server. -/
def InRedis (store : Store) (token : String) (session : Session) : Prop :=
  store.redis.lookup token = some session ∧ store.clock ≤ session.expiresAt

/-- The backup holds the given row for the token, and the row has not expired by the same
clock. -/
def InBackup (store : Store) (token : String) (row : SessionRow) : Prop :=
  store.postgres.userSessions.get? token = some row ∧ store.clock ≤ row.expiresAt

/-- Every request that has been accepted has been answered. Between requests the two stores
are compared. -/
def AtRest (state : AuthState) : Prop := ∀ task ∈ state.tasks, task.answer?.isSome

instance (state : AuthState) : Decidable (AtRest state) :=
  inferInstanceAs (Decidable (∀ task ∈ state.tasks, task.answer?.isSome))

section Agreement

variable {bcrypt : Bcrypt} {sessionTTL : SessionTTL} {stack : Nat} {state : AuthState}

/-- What Redis finds under the key of a token is a stored session of that token. -/
theorem Consistent.lookup_kept (consistent : Consistent bcrypt sessionTTL stack state)
    {token : String} {session : Session} (found : state.store.redis.lookup token = some session) :
    session.token = token ∧ state.store.redis.table.get? (.session token) ≠ none ∧
      ∃ index, Kept state index session := by
  unfold Redis.lookup at found
  split at found
  · rename_i key text deadline present
    have there := (ExpiringTable.find?_eq_some.mp present).1
    obtain ⟨index, kept', kept, named, holds⟩ := consistent.entries token _ there
    obtain rfl : text = .session kept' := Value.string.inj holds.value
    obtain rfl : kept' = session := Option.some.inj found
    exact ⟨named, by simp [there], index, kept⟩
  · simp at found

/-- A stored session whose key is there is the one a lookup finds, as long as it has not
expired. Redis drops a key no earlier than the session's own expiry. -/
theorem Consistent.kept_lookup (consistent : Consistent bcrypt sessionTTL stack state)
    {index : Nat} {session : Session} (kept : Kept state index session)
    (there : state.store.redis.table.get? (.session session.token) ≠ none)
    (inTime : state.store.clock ≤ session.expiresAt) :
    state.store.redis.lookup session.token = some session := by
  obtain ⟨entry, present⟩ := Option.ne_none_iff_exists'.mp there
  obtain ⟨place, other, kept', named, holds⟩ := consistent.entries session.token entry present
  obtain ⟨-, rfl⟩ := consistent.keptOnce kept' kept named
  have live : entry.LiveAt state.store.redis.now := by
    intro deadline held
    have covered := holds.covers deadline held
    rw [Redis.now, consistent.clocks]
    omega
  obtain ⟨key, value, deadline⟩ := entry
  obtain rfl : value = .string (.session other) := holds.value
  simp [Redis.lookup, Redis.find?, ExpiringTable.find?_eq_some.mpr ⟨present, live⟩, Text.decode,
    Except.toOption]

/-- In a state where nothing is in flight every trace is complete, and so settled. -/
theorem answered_settled (traced : (authServer bcrypt sessionTTL stack).Traced state)
    (rest : AtRest state) {task : AuthTask} (member : task ∈ state.tasks) : Settled task.trace := by
  obtain ⟨response, answered⟩ := Option.isSome_iff_exists.mp (rest task member)
  exact traced.answer_admitted member
    (handleConnection_settled bcrypt sessionTTL stack task.request) answered

/-- When no request is in flight every deleted key has its row deleted too, by the second half
of the same handler. -/
theorem Deleted.row (traced : (authServer bcrypt sessionTTL stack).Traced state) (rest : AtRest state)
    {token : String} (deleted : Deleted state token) : RowDeleted state token := by
  obtain ⟨task, member, event, recorded, deletes⟩ := deleted
  obtain ⟨other, inside, row⟩ :=
    (answered_settled traced rest member).deletions token ⟨event, recorded, deletes⟩
  exact ⟨task, member, other, inside, row⟩

/-- A session that Redis holds has its row: it was inserted when the session was created, and
its deletion would have followed that of the key. -/
theorem Backed.inBackup (backed : Backed state) (consistent : Consistent bcrypt sessionTTL stack state)
    (rest : AtRest state) {token : String} {session : Session}
    (held : InRedis state.store token session) : InBackup state.store token session.backup := by
  obtain ⟨rfl, there, index, task, present, stores⟩ := consistent.lookup_kept held.1
  have member := List.mem_of_getElem? present
  refine ⟨?_, held.2⟩
  have remains : ¬ RowDeleted state session.token := by
    intro gone
    obtain ⟨other, inside, event, recorded, deletes⟩ := gone.deleted consistent.traced
    exact there (consistent.deleted other inside event recorded _ deletes)
  rcases (answered_settled consistent.traced rest member).sessions session stores with
    ⟨event, recorded, inserts⟩ | ⟨error, refused⟩
  · exact (backed.inserted task member event recorded _ inserts).resolve_right remains
  · exact absurd refused (backed.written task member _ _ _)

/-- A row that has not expired has its session in Redis: it backs up a stored session, and if
the key had been deleted so would be the row. -/
theorem Backed.inRedis (backed : Backed state) (consistent : Consistent bcrypt sessionTTL stack state)
    (rest : AtRest state) {token : String} {row : SessionRow} (held : InBackup state.store token row) :
    ∃ session, row = session.backup ∧ InRedis state.store token session := by
  obtain ⟨index, session, kept, rfl⟩ := backed.rows token row held.1
  obtain rfl : session.token = token := (KeyedTable.get?_sound held.1).2
  refine ⟨session, rfl, consistent.kept_lookup kept ?_ held.2, held.2⟩
  cases backed.lost index session kept with
  | inl there => exact there
  | inr deleted =>
    have unbacked := backed.removed _ (deleted.row consistent.traced rest)
    simp [held.1] at unbacked

end Agreement

/-- The backup agrees with Redis. After every orderly run from a blank store, when
no request is in flight, Redis holds an unexpired session of a token exactly if
the backup holds an unexpired row of it, and then both name the same user and the
same expiry. -/
theorem backup_agrees (bcrypt : Bcrypt) (sessionTTL : SessionTTL) (stack : Nat) (store : Store)
    (blank : Blank store) (actions : List (Action Request Choice))
    (orderly : (authServer bcrypt sessionTTL stack).Along Orderly (Service.idleState store) actions)
    (rest : AtRest ((authServer bcrypt sessionTTL stack).run (Service.idleState store) actions))
    (token : String) :
    ((∃ session, InRedis ((authServer bcrypt sessionTTL stack).run (Service.idleState store)
        actions).store token session) ↔
      ∃ row, InBackup ((authServer bcrypt sessionTTL stack).run (Service.idleState store)
        actions).store token row) ∧
    ∀ session row,
      InRedis ((authServer bcrypt sessionTTL stack).run (Service.idleState store) actions).store
        token session →
      InBackup ((authServer bcrypt sessionTTL stack).run (Service.idleState store) actions).store
        token row →
      row.userId = session.userId ∧ row.expiresAt = session.expiresAt := by
  obtain ⟨consistent, backed⟩ := blank.run actions orderly
  generalize (authServer bcrypt sessionTTL stack).run (Service.idleState store) actions = state at *
  refine ⟨⟨?_, ?_⟩, ?_⟩
  · rintro ⟨session, held⟩
    exact ⟨session.backup, backed.inBackup consistent rest held⟩
  · rintro ⟨row, held⟩
    obtain ⟨session, -, found⟩ := backed.inRedis consistent rest held
    exact ⟨session, found⟩
  · intro session row held backup
    have same := (backed.inBackup consistent rest held).1
    obtain rfl := Option.some.inj (backup.1.symm.trans same)
    exact ⟨rfl, rfl⟩

theorem aliceOnly_blank : Blank aliceOnly := by
  refine ⟨rfl, rfl, rfl, ?_⟩
  unfold Postgres.IdsFit
  decide

/-- Alice logs in, and when she has been answered exchanges her token for the second one. -/
def aliceRefreshes : List (Action Request Choice) :=
  aliceLogin ++ .start ⟨"c2", .refresh firstToken.val⟩ ::
    List.replicate 18 (.proceed 1 (tick secondToken))

/-- With the token the refresh has issued she then logs out again, so no row and no session is
left. -/
def aliceLeaves : List (Action Request Choice) :=
  aliceRefreshes ++ .start ⟨"c3", .logout secondToken.val⟩ ::
    List.replicate 5 (.proceed 2 (tick secondToken))

set_option maxRecDepth 4000 in
/-- Once the refresh has been answered, the session of the second token is in the backup
because it is in Redis, and the row of the first one has gone with its session. The logout
takes the other row away as well, so that the backup then has no row of either token. -/
theorem login_backed :
    ((∃ row, InBackup ((authServer plainBcrypt defaultTTL 3).run (Service.idleState aliceOnly)
        aliceRefreshes).store secondToken.val row) ∧
      ¬ ∃ row, InBackup ((authServer plainBcrypt defaultTTL 3).run (Service.idleState aliceOnly)
        aliceRefreshes).store firstToken.val row) ∧
    ¬ ∃ row, InBackup ((authServer plainBcrypt defaultTTL 3).run (Service.idleState aliceOnly)
      aliceLeaves).store secondToken.val row := by
  have refreshed := backup_agrees plainBcrypt defaultTTL 3 aliceOnly aliceOnly_blank aliceRefreshes
    (by decide) (by decide)
  have left := backup_agrees plainBcrypt defaultTTL 3 aliceOnly aliceOnly_blank aliceLeaves
    (by decide) (by decide)
  constructor
  · constructor
    · exact (refreshed secondToken.val).1.mp ⟨_, rfl, by decide⟩
    · intro held
      obtain ⟨session, found, -⟩ := (refreshed firstToken.val).1.mpr held
      cases found
  · intro held
    obtain ⟨session, found, -⟩ := (left secondToken.val).1.mpr held
    cases found

end ShoppingCS.Auth
