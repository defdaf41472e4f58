import ShoppingCS.Auth.Accounts
import ShoppingCS.Auth.Backup

/-!
# One registration per user

Every user in the table was inserted by one registration, which has hashed its
password, and no other registration inserts a row of the same name or address.
Whoever is found by name is in the table.

A name counts as the column stores it: a longer one is cut when only blanks are
lost, and from then on the shorter one is the name.
-/

namespace ShoppingCS.Auth

open Interleaving Program Storage

namespace Postgres

/-- An insertion appends the row and returns it without the hash, or fails and changes
nothing. -/
theorem execute_insertUser (postgres : Postgres) (user : User) :
    (∃ row, userRow user = .ok row ∧ postgres.users.get? row.id = none ∧
        (postgres.execute (.insertUser user)).1 = .ok row.withoutHash ∧
        (postgres.execute (.insertUser user)).2.users.rows = postgres.users.rows ++ [row]) ∨
      ((∃ error, (postgres.execute (.insertUser user)).1 = .error error) ∧
        (postgres.execute (.insertUser user)).2 = postgres) := by
  cases stores : userRow user with
  | error error =>
    rw [execute_insertUser_error postgres stores]
    exact Or.inr ⟨⟨error, rfl⟩, rfl⟩
  | ok row =>
    rw [execute_insertUser_ok postgres stores]
    simp only [insertUser]
    split
    · rename_i free
      split
      · split
        · exact Or.inl ⟨row, rfl, free, rfl, rfl⟩
        · exact Or.inr ⟨⟨_, rfl⟩, rfl⟩
      · exact Or.inr ⟨⟨_, rfl⟩, rfl⟩
    · exact Or.inr ⟨⟨_, rfl⟩, rfl⟩

/-- A user is found by the name of its row, if there is one. -/
theorem find?_username (postgres : Postgres) {row : User} (member : row ∈ postgres.users.rows) :
    postgres.users.rows.find? (fun other => other.username = row.username) = some row := by
  cases found : postgres.users.rows.find? (fun other => other.username = row.username) with
  | none =>
    have absent := List.find?_eq_none.mp found row member
    simp at absent
  | some other =>
    have same : other.username = row.username := by simpa using List.find?_some found
    rw [List.inj_on_of_nodup_map postgres.usernames (List.mem_of_find?_eq_some found) member same]

end Postgres

/-- What a working command does to the users: an insertion that succeeds appends its
row, and whatever else happens leaves them alone. -/
theorem perform_users (bcrypt : Bcrypt) (command : Command) {choice : Choice}
    (works : choice.failure = none) (store : Store) :
    (∃ user row, (⟨command, (perform bcrypt command choice store).1⟩ : Event Command Command.Result) =
          ⟨.postgres (.insertUser user), .ok row.withoutHash⟩ ∧
        Postgres.userRow user = .ok row ∧ store.postgres.users.get? row.id = none ∧
        (perform bcrypt command choice store).2.postgres.users.rows =
          store.postgres.users.rows ++ [row]) ∨
      ((perform bcrypt command choice store).2.postgres.users = store.postgres.users ∧
        ∀ user returned, (⟨command, (perform bcrypt command choice store).1⟩ :
          Event Command Command.Result) ≠ ⟨.postgres (.insertUser user), .ok returned⟩) := by
  have other {rest : Command} (inserts : ∀ user, rest ≠ .postgres (.insertUser user))
      (result : rest.Result) (user returned : User) : (⟨rest, result⟩ : Event Command Command.Result) ≠
        ⟨.postgres (.insertUser user), .ok returned⟩ := fun same =>
    inserts user (Event.mk.inj same).1
  cases command with
  | postgres statement =>
    have executes : perform bcrypt (.postgres statement) choice store =
        ((store.postgres.execute statement).1,
          { store.wait choice with postgres := (store.postgres.execute statement).2 }) := by
      simp only [perform, works]
      rfl
    rw [executes]
    by_cases inserts : ∃ user, statement = .insertUser user
    · obtain ⟨user, rfl⟩ := inserts
      rcases store.postgres.execute_insertUser user with
        ⟨row, stores, free, returned, rows⟩ | ⟨⟨error, failed⟩, same⟩
      · exact Or.inl ⟨user, row, by rw [returned], stores, free, rows⟩
      · refine Or.inr ⟨by rw [same], fun another returned same => ?_⟩
        obtain ⟨named, result⟩ := Event.mk.inj same
        obtain rfl : user = another := by simpa using named
        have succeeded := eq_of_heq result
        rw [failed] at succeeded
        simp at succeeded
    · have free (user : User) : statement ≠ .insertUser user := fun same => inserts ⟨user, same⟩
      exact Or.inr ⟨Postgres.execute_users _ free, other (fun user => by simpa using free user) _⟩
  | redis command => exact Or.inr ⟨by simp [perform, works, Store.wait], other (by simp) _⟩
  | timeNow => exact Or.inr ⟨rfl, other (by simp) _⟩
  | generateToken => exact Or.inr ⟨rfl, other (by simp) _⟩
  | newUserId => exact Or.inr ⟨rfl, other (by simp) _⟩
  | generateFromPassword password => exact Or.inr ⟨rfl, other (by simp) _⟩

/-- The request at this place has inserted the given row, by a statement its trace records as
successful. -/
def Inserted (state : AuthState) (place : Nat) (row : User) : Prop :=
  ∃ task user, state.tasks[place]? = some task ∧ Postgres.userRow user = .ok row ∧
    ⟨.postgres (.insertUser user), .ok row.withoutHash⟩ ∈ task.trace

/-- What every run keeps whose stores and random source work: users and insertions correspond,
each row has one inserter, and each recorded hash was made from its password. -/
structure Accounts (bcrypt : Bcrypt) (sessionTTL : SessionTTL) (stack : Nat)
    (state : AuthState) : Prop where
  traced : (authServer bcrypt sessionTTL stack).Traced state
  listed : Listed state.store.redis
  hashed : ∀ task ∈ state.tasks, ∀ password hash,
    ⟨.generateFromPassword password, .ok hash⟩ ∈ task.trace →
      ∃ salt, bcrypt.generateFromPassword password salt = .ok hash
  rows : ∀ row ∈ state.store.postgres.users.rows, ∃ place, Inserted state place row
  kept : ∀ place row, Inserted state place row → row ∈ state.store.postgres.users.rows
  once : ∀ first second row, Inserted state first row → Inserted state second row → first = second
  returned : ∀ task ∈ state.tasks, ∀ user returned,
    ⟨.postgres (.insertUser user), .ok returned⟩ ∈ task.trace →
      ∃ row : User, returned = row.withoutHash ∧ Postgres.userRow user = .ok row
  found : ∀ task ∈ state.tasks, ∀ username user,
    ⟨.postgres (.selectUserByUsername username), .ok (some user)⟩ ∈ task.trace →
      user.username = username ∧ user ∈ state.store.postgres.users.rows

section Steps

variable {bcrypt : Bcrypt} {sessionTTL : SessionTTL} {stack : Nat} {state next : AuthState}
  {index : Nat} {choice : Choice} {task : AuthTask} {command : Command}

/-- What was inserted stays inserted, since traces only grow and requests keep their places.
-/
theorem inserted_step {place : Nat} {row : User} (action : Action Request Choice)
    (inserted : Inserted state place row) :
    Inserted ((authServer bcrypt sessionTTL stack).step state action) place row := by
  obtain ⟨task, user, present, stores, event⟩ := inserted
  obtain ⟨next, there, -, later, grown⟩ := Service.step_extends action present
  exact ⟨next, user, there, stores, by rw [grown]; exact List.mem_append_left _ event⟩

section Fields

variable
  (move : Move bcrypt (authServer bcrypt sessionTTL stack) state next index choice task command)

include move

/-- Users are added and never removed, as there is no statement that deletes one. -/
theorem Move.users_grow (row : User) (member : row ∈ state.store.postgres.users.rows) :
    row ∈ next.store.postgres.users.rows := by
  rw [move.store]
  rcases perform_users bcrypt command move.works state.store with
    ⟨_, _, -, -, -, rows⟩ | ⟨same, -⟩
  · rw [rows]
    exact List.mem_append_left _ member
  · rwa [same]

/-- An insertion of the next state was made in the state before, or is the one this step
makes, for a row that was not there. -/
theorem Move.inserted {place : Nat} {row : User} (inserted : Inserted next place row) :
    Inserted state place row ∨ (place = index ∧ state.store.postgres.users.get? row.id = none ∧
      row ∈ next.store.postgres.users.rows) := by
  obtain ⟨other, user, present, stores, event⟩ := inserted
  obtain ⟨after, tasks, -, trace⟩ := move.scheduled
  rw [tasks] at present
  rcases set_lookup present with ⟨rfl, rfl⟩ | ⟨-, earlier⟩
  · rw [trace] at event
    cases List.mem_append.mp event with
    | inl before => exact Or.inl ⟨task, user, move.present, stores, before⟩
    | inr now =>
      have same := List.mem_singleton.mp now
      rcases perform_users bcrypt command move.works state.store with
        ⟨user', row', event', stores', free, rows⟩ | ⟨-, none⟩
      · obtain ⟨named, -⟩ := Event.mk.inj (same.trans event')
        obtain rfl : user = user' := by simpa using named
        obtain rfl := Except.ok.inj (stores.symm.trans stores')
        exact Or.inr ⟨rfl, free, by rw [move.store, rows]; simp⟩
      · exact absurd same.symm (none _ _)
  · exact Or.inl ⟨other, user, earlier, stores, event⟩

variable (accounts : Accounts bcrypt sessionTTL stack state)

include accounts

/-- Every row of the users was inserted by some request, given that the store began without
users. -/
theorem Move.rows_kept (row : User) (member : row ∈ next.store.postgres.users.rows) :
    ∃ place, Inserted next place row := by
  have earlier (row : User) (member : row ∈ state.store.postgres.users.rows) :
      ∃ place, Inserted next place row := by
    obtain ⟨place, inserted⟩ := accounts.rows row member
    exact ⟨place, by rw [move.steps]; exact inserted_step _ inserted⟩
  rw [move.store] at member
  rcases perform_users bcrypt command move.works state.store with
    ⟨user, inserted, event, stores, -, rows⟩ | ⟨same, -⟩
  · rw [rows] at member
    cases List.mem_append.mp member with
    | inl before => exact earlier row before
    | inr now =>
      obtain rfl := List.mem_singleton.mp now
      obtain ⟨after, there, -, trace⟩ := move.moved
      exact ⟨index, after, user, there, stores, by rw [trace, event]; simp⟩
  · rw [same] at member
    exact earlier row member

/-- Every insertion that has been recorded is there as a row, because no row leaves the table.
-/
theorem Move.inserted_kept (place : Nat) (row : User) (inserted : Inserted next place row) :
    row ∈ next.store.postgres.users.rows := by
  rcases move.inserted inserted with before | ⟨-, -, now⟩
  · exact move.users_grow row (accounts.kept place row before)
  · exact now

/-- One row is inserted by one request: a second insertion would find the key taken and fail.
-/
theorem Move.insertedOnce (first second : Nat) (row : User) (inserted : Inserted next first row)
    (again : Inserted next second row) : first = second := by
  have conflict {place : Nat} (before : Inserted state place row)
      (free : state.store.postgres.users.get? row.id = none) : False := by
    have present := KeyedTable.get?_complete (accounts.kept place row before)
    simp [free] at present
  rcases move.inserted inserted with before | ⟨rfl, free, -⟩
  · rcases move.inserted again with before' | ⟨-, free, -⟩
    · exact accounts.once first second row before before'
    · exact (conflict before free).elim
  · rcases move.inserted again with before' | ⟨rfl, -, -⟩
    · exact (conflict before' free).elim
    · rfl

/-- Every hash in a trace was made of the password beside it with some salt, by the contract
of the hash function. -/
theorem Move.hashed_kept (other : AuthTask) (member : other ∈ next.tasks) (password hash : String)
    (recorded : ⟨.generateFromPassword password, .ok hash⟩ ∈ other.trace) :
    ∃ salt, bcrypt.generateFromPassword password salt = .ok hash := by
  rcases move.events member recorded with ⟨before, old, -, earlier⟩ | ⟨same, -⟩
  · exact accounts.hashed before old password hash earlier
  · obtain ⟨rfl, result⟩ := Event.mk.inj same
    exact ⟨choice.salt, (eq_of_heq result).symm⟩

/-- Every successful insertion has returned its row without the hash, as the RETURNING clause
of the statement lists the columns. -/
theorem Move.returned_kept (other : AuthTask) (member : other ∈ next.tasks) (user returned : User)
    (recorded : ⟨.postgres (.insertUser user), .ok returned⟩ ∈ other.trace) :
    ∃ row : User, returned = row.withoutHash ∧ Postgres.userRow user = .ok row := by
  rcases move.events member recorded with ⟨before, old, -, earlier⟩ | ⟨same, -⟩
  · exact accounts.returned before old user returned earlier
  · rcases perform_users bcrypt command move.works state.store with
      ⟨user', row, event, stores, -⟩ | ⟨-, none⟩
    · obtain ⟨named, result⟩ := Event.mk.inj (same.trans event)
      obtain rfl : user = user' := by simpa using named
      exact ⟨row, Except.ok.inj (eq_of_heq result), stores⟩
    · exact absurd same.symm (none _ _)

/-- Whoever was found by name has it, and is in the table. -/
theorem Move.names_kept (other : AuthTask) (member : other ∈ next.tasks) (username : String)
    (user : User)
    (recorded : ⟨.postgres (.selectUserByUsername username), .ok (some user)⟩ ∈ other.trace) :
    user.username = username ∧ user ∈ next.store.postgres.users.rows := by
  rcases move.events member recorded with ⟨before, old, -, earlier⟩ | ⟨same, -⟩
  · obtain ⟨named, inside⟩ := accounts.found before old username user earlier
    exact ⟨named, move.users_grow user inside⟩
  · obtain ⟨rfl, result⟩ := Event.mk.inj same
    have found : state.store.postgres.users.rows.find? (fun row => row.username = username) =
        some user := by
      have found := (eq_of_heq result).symm
      apply Postgres.selectUserByUsername_eq_some.mp
      simpa [perform, move.works, Store.wait] using found
    exact ⟨by simpa using List.find?_some found,
      move.users_grow user (List.mem_of_find?_eq_some found)⟩

end Fields

/-- A request that is accepted adds an empty trace and changes neither store, so all parts
carry over. -/
theorem Accounts.accepted (accounts : Accounts bcrypt sessionTTL stack state) (request : Request) :
    Accounts bcrypt sessionTTL stack
      ((authServer bcrypt sessionTTL stack).step state (.start request)) := by
  have earlier {place : Nat} {row : User}
      (inserted : Inserted ((authServer bcrypt sessionTTL stack).step state (.start request)) place
        row) : Inserted state place row := by
    obtain ⟨task, user, present, stores, event⟩ := inserted
    rcases Service.step_task _ present with before | ⟨_, -, -, rfl⟩ | ⟨_, _, _, _, other, -⟩
    · exact ⟨task, user, before, stores, event⟩
    · simp [accepted_idle] at event
    · simp at other
  exact
    { traced := (authServer bcrypt sessionTTL stack).step_traced state _ accounts.traced
      listed := accounts.listed
      hashed := fun task member password hash event =>
        accounts.hashed task (accepted_recorded member event) password hash event
      rows := by
        intro row member
        obtain ⟨place, inserted⟩ := accounts.rows row member
        exact ⟨place, inserted_step _ inserted⟩
      kept := fun place row inserted => accounts.kept place row (earlier inserted)
      once := fun first second row inserted again =>
        accounts.once first second row (earlier inserted) (earlier again)
      returned := fun task member user returned event =>
        accounts.returned task (accepted_recorded member event) user returned event
      found := fun task member username user event =>
        accounts.found task (accepted_recorded member event) username user event }

/-- The stores and the random source work at this step. It is the condition under which a
login must succeed. -/
def Working : Action Request Choice → Prop
  | .start _ => True
  | .proceed _ choice => choice.failure = none ∧ ∃ token, choice.token = .ok token

instance (action : Action Request Choice) : Decidable (Working action) :=
  match action with
  | .start _ => isTrue trivial
  | .proceed _ ⟨_, _, failure, .ok token, _, _⟩ =>
    decidable_of_iff (failure = none) ⟨fun working => ⟨working, token, rfl⟩, fun works => works.1⟩
  | .proceed _ ⟨_, _, _, .error _, _, _⟩ => isFalse (fun works => by simp [Working] at works)

/-- A step that works keeps the accounts; a statement is a move, whose parts have been proved
one by one. -/
theorem Accounts.step (accounts : Accounts bcrypt sessionTTL stack state)
    (action : Action Request Choice) (working : Working action) :
    Accounts bcrypt sessionTTL stack ((authServer bcrypt sessionTTL stack).step state action) := by
  cases action with
  | start request => exact accounts.accepted request
  | proceed index choice =>
    have traced := (authServer bcrypt sessionTTL stack).step_traced state (.proceed index choice)
      accounts.traced
    generalize after : (authServer bcrypt sessionTTL stack).step state (.proceed index choice) = next
      at traced
    have transition : (authServer bcrypt sessionTTL stack).Transition state _ next :=
      after ▸ (authServer bcrypt sessionTTL stack).step_transition state _
    cases transition with
    | idle index choice nothing => exact accounts
    | proceeded index choice task command resume present pending =>
      have move := move_of_working accounts.traced present pending working.1
      have allowed := accounts.traced.pending_allowed move.member
        (handleConnection_settled bcrypt sessionTTL stack task.request) pending
      exact
        { traced := traced
          listed := perform_listed bcrypt allowed.lists choice accounts.listed
          hashed := move.hashed_kept accounts
          rows := move.rows_kept accounts
          kept := move.inserted_kept accounts
          once := move.insertedOnce accounts
          returned := move.returned_kept accounts
          found := move.names_kept accounts }

end Steps

section Registration

variable {bcrypt : Bcrypt} {sessionTTL : SessionTTL} {stack : Nat} {state : AuthState}

/-- The request at a place asks to register, and has inserted this row for it, as the
columns store it. -/
structure Registered (state : AuthState) (place : Nat) (username email password : String)
    (row : User) : Prop where
  asked : ∃ task, state.tasks[place]? = some task ∧
    task.request.operation = .register username email password
  inserted : Inserted state place row
  name : Postgres.column 255 username = .ok row.username
  address : Postgres.column 255 email = .ok row.email

/-- Whoever has inserted a row was asked to, and has hashed the password. -/
theorem traced_inserts (traced : (authServer bcrypt sessionTTL stack).Traced state) {task : AuthTask}
    (member : task ∈ state.tasks) :
    ∀ event ∈ task.trace, ∀ user, event.command = .postgres (.insertUser user) → ∃ password,
      task.request.operation = .register user.username user.email password ∧
        ⟨.generateFromPassword password, .ok user.passwordHash⟩ ∈ task.trace := by
  have kept := (handleConnection_accounts bcrypt sessionTTL stack task.request).keeps
    (traced task member) (fun trace => ∀ event ∈ trace, ∀ user,
      event.command = .postgres (.insertUser user) → ∃ password,
        task.request.operation = .register user.username user.email password ∧
          ⟨.generateFromPassword password, .ok user.passwordHash⟩ ∈ trace)
    (fun trace command result before allowed event inside user inserts => ?_) (by simp)
  · simpa using kept
  · cases List.mem_append.mp inside with
    | inl earlier =>
      obtain ⟨password, asked, hashed⟩ := before event earlier user inserts
      exact ⟨password, asked, List.mem_append_left _ hashed⟩
    | inr now =>
      obtain rfl := List.mem_singleton.mp now
      obtain ⟨password, asked, hashed⟩ := allowed.inserts user inserts
      exact ⟨password, asked, List.mem_append_left _ hashed⟩

/-- An inserted row is that of a registration, and only its password matches the
hash. -/
theorem Accounts.registered (accounts : Accounts bcrypt sessionTTL stack state)
    (ideal : bcrypt.Ideal) {place : Nat} {row : User} (inserted : Inserted state place row) :
    ∃ username email password, Registered state place username email password row ∧
      ∀ other, bcrypt.compareHashAndPassword row.passwordHash other = .ok () ↔ password = other := by
  obtain ⟨task, user, present, stores, event⟩ := inserted
  have member := List.mem_of_getElem? present
  obtain ⟨password, asked, hashed⟩ := traced_inserts accounts.traced member _ event user rfl
  obtain ⟨salt, made⟩ := accounts.hashed task member password user.passwordHash hashed
  obtain ⟨-, name, address, hash⟩ := Postgres.userRow_eq_ok.mp stores
  rw [Postgres.column_fits (ideal.prints password salt _ made) (ideal.fits password salt _ made)]
    at hash
  refine ⟨user.username, user.email, password,
    ⟨⟨task, present, asked⟩, ⟨task, user, present, stores, event⟩, name, address⟩, ?_⟩
  rw [← Except.ok.inj hash]
  exact ideal.compares password salt _ made

/-- A registration that has answered with success has inserted the row it answers
with. -/
theorem Accounts.answered (accounts : Accounts bcrypt sessionTTL stack state)
    (ideal : bcrypt.Ideal) {place : Nat} {task : AuthTask} (present : state.tasks[place]? = some task)
    {username email password : String} {data : Data}
    (asked : task.request.operation = .register username email password)
    (answered : task.answer? = some (.success data)) :
    username ≠ "" ∧ password ≠ "" ∧ ∃ row : User,
      Registered state place username email password row ∧
      (∀ other, bcrypt.compareHashAndPassword row.passwordHash other = .ok () ↔ password = other) ∧
      data = .register ⟨row.id, row.username, row.email⟩ := by
  have member := List.mem_of_getElem? present
  obtain ⟨named, secret, user, returned, event, rfl⟩ := (accounts.traced.answer_admitted member
    (handleConnection_accounts bcrypt sessionTTL stack task.request) answered).registers username
      email password data asked rfl
  obtain ⟨row, rfl, stores⟩ := accounts.returned task member user returned event
  obtain ⟨username', email', password', registered, matches'⟩ :=
    accounts.registered ideal ⟨task, user, present, stores, event⟩
  obtain ⟨task', present', asked'⟩ := registered.asked
  obtain rfl := Option.some.inj (present.symm.trans present')
  obtain ⟨rfl, rfl, rfl⟩ := Operation.register.inj (asked.symm.trans asked')
  exact ⟨named, secret, row, registered, matches', rfl⟩

/-- Two registrations that have inserted rows of the same name, or of the same
address, as the columns store them, are one. -/
theorem Accounts.unique (accounts : Accounts bcrypt sessionTTL stack state) {first second : Nat}
    {username username' email email' password password' : String} {row row' : User}
    (registered : Registered state first username email password row)
    (again : Registered state second username' email' password' row')
    (clash : Postgres.column 255 username = Postgres.column 255 username' ∨
      Postgres.column 255 email = Postgres.column 255 email') : first = second ∧ row = row' := by
  have inside := accounts.kept first row registered.inserted
  have inside' := accounts.kept second row' again.inserted
  have same : row = row' := by
    cases clash with
    | inl names =>
      exact List.inj_on_of_nodup_map state.store.postgres.usernames inside inside'
        (Except.ok.inj (registered.name.symm.trans (names.trans again.name)))
    | inr addresses =>
      exact List.inj_on_of_nodup_map state.store.postgres.emails inside inside'
        (Except.ok.inj (registered.address.symm.trans (addresses.trans again.address)))
  subst same
  exact ⟨accounts.once first second row registered.inserted again.inserted, rfl⟩

/-- Without users and requests there are no accounts to account for, so the invariant holds at
the start. -/
theorem idle_accounts (bcrypt : Bcrypt) (sessionTTL : SessionTTL) (stack : Nat) {store : Store}
    (nobody : store.postgres.users.rows = []) (listed : Listed store.redis) :
    Accounts bcrypt sessionTTL stack (Service.idleState store) where
  traced := (authServer bcrypt sessionTTL stack).idleState_traced store
  listed := listed
  hashed := fun task member => absurd member (by simp)
  rows := fun row member => by simp [nobody] at member
  kept := fun place row inserted => by simp [Inserted] at inserted
  once := fun first second row inserted => by simp [Inserted] at inserted
  returned := fun task member => absurd member (by simp)
  found := fun task member => absurd member (by simp)

end Registration

end ShoppingCS.Auth
