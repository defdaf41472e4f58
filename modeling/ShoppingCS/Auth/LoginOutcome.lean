import ShoppingCS.Auth.Credentials
import ShoppingCS.Interleaving.Delivery

/-!
# Logging in with what was registered

A login is answered with success only for the name, and the password, of a
registration that has inserted its row, and says whose row it is. And a login that
starts when the registration has been answered finds the row, and goes through:
nine commands at most after it started it has been answered with success.
-/

namespace ShoppingCS.Auth

open Interleaving Program Storage

section Login

/-- The results a login needs: the row of its user, a token, and Redis at work. -/
def LoginGood (row : User) : (command : Command) → command.Result → Prop
  | .postgres (.selectUserByUsername username), result =>
    username = row.username → result = .ok (some row)
  | .generateToken, result => ∃ token, result = .ok token
  | .redis (.set _ _ _), result => result = .ok ()
  | .redis (.sAdd (.userSessions _) _), result => result = .ok ()
  | _, _ => True

/-- The answer a login of the user gets: it names the id, the username and the address of the
row, and a token. -/
def LoginOf (row : User) (response : Response) : Prop :=
  ∃ said : LoginResponseData, response = .success (.login said) ∧ said.userId = row.id ∧
    said.username = row.username ∧ said.email = row.email

variable (bcrypt : Bcrypt) (sessionTTL : SessionTTL) (stack : Nat)

/-- A creation takes seven commands, and where the commands succeed it delivers a session for
the user. -/
theorem createSession_delivers (row user : User) :
    (createSession sessionTTL user).Delivers (LoginGood row)
      (fun result => ∃ session : Session, result = .ok session ∧ session.For user) 7 := by
  apply delivers_call
  intro drawn good
  obtain ⟨token, rfl⟩ := good
  refine delivers_call (fun started _ => delivers_call (fun createdAt _ =>
    delivers_call ?_))
  intro stored good
  obtain rfl : stored = .ok () := good
  apply delivers_call
  intro added good
  obtain rfl : added = .ok () := good
  exact delivers_call (fun renewed _ => delivers_call (fun inserted _ =>
    ⟨_, rfl, rfl, rfl, rfl⟩))

/-- A login with the name and the password of a row takes nine. -/
theorem login_delivers (row : User) (connId password : String) (named : row.username ≠ "")
    (secret : password ≠ "")
    (compared : bcrypt.compareHashAndPassword row.passwordHash password = .ok ()) :
    (handleConnection bcrypt sessionTTL stack ⟨connId, .login row.username password⟩).Delivers
      (LoginGood row) (LoginOf row) 9 := by
  have logged : (login bcrypt sessionTTL row.username password).Delivers (LoginGood row)
      (fun result => ∃ session : Session, result = .ok session ∧ session.For row) 8 := by
    unfold login
    rw [if_neg named, if_neg secret]
    apply delivers_call
    intro found good
    obtain rfl : found = .ok (some row) := good rfl
    change Delivers _ _
      (finishLogin sessionTTL row (bcrypt.compareHashAndPassword row.passwordHash password)) 7
    rw [compared]
    refine (createSession_delivers sessionTTL row row).bind 0 ?_
    intro created owned
    obtain ⟨session, rfl, owns⟩ := owned
    exact ⟨session, rfl, owns⟩
  have handled : (handleLogin bcrypt sessionTTL row.username password).Delivers (LoginGood row)
      (LoginOf row) 8 := by
    unfold handleLogin
    rw [if_neg (by simp [named, secret])]
    refine logged.bind 0 ?_
    intro result owned
    obtain ⟨session, rfl, owns⟩ := owned
    exact ⟨session.response, rfl, owns⟩
  refine handled.bind 1 ?_
  intro response answered
  obtain ⟨said, rfl, owns⟩ := answered
  exact delivers_call (fun remembered _ => ⟨said, rfl, owns⟩)

end Login

section Runs

variable {bcrypt : Bcrypt} {sessionTTL : SessionTTL} {stack : Nat} {state : AuthState} {row : User}
  {password : String} {place : Nat}

/-- Working stores that hold the row give a login of its user the results it needs. -/
theorem perform_loginGood (bcrypt : Bcrypt) (command : Command) {choice : Choice} {store : Store}
    (works : choice.failure = none) (drawn : ∃ token, choice.token = .ok token)
    (listed : Listed store.redis) (member : row ∈ store.postgres.users.rows) :
    LoginGood row command (perform bcrypt command choice store).1 := by
  cases command with
  | postgres statement =>
    cases statement with
    | selectUserByUsername username =>
      rintro rfl
      have found := Postgres.selectUserByUsername_eq_some.mpr (store.postgres.find?_username member)
      simpa [perform, works, Store.wait] using found
    | _ => trivial
  | redis command =>
    cases command with
    | set key text expiration =>
      simp only [perform, works]
      rfl
    | sAdd key token =>
      cases key with
      | userSessions userId =>
        have waited : Listed (store.wait choice).redis := listed
        simp only [perform, works]
        exact execute_sAdd_listed waited userId token
      | _ => trivial
    | _ => trivial
  | generateToken => exact drawn
  | _ => trivial

/-- The row of the user is there, and the login at the place will be answered. -/
structure Underway (bcrypt : Bcrypt) (sessionTTL : SessionTTL) (stack : Nat) (row : User)
    (password : String) (place : Nat) (state : AuthState) : Prop where
  accounts : Accounts bcrypt sessionTTL stack state
  member : row ∈ state.store.postgres.users.rows
  onTime : ∃ task, state.tasks[place]? = some task ∧
    Service.OnTime (LoginGood row) (LoginOf row) 9 task

/-- A login with the credentials of a row is underway when it is accepted. -/
theorem underway_accepted (accounts : Accounts bcrypt sessionTTL stack state)
    (member : row ∈ state.store.postgres.users.rows) (connId : String) (named : row.username ≠ "")
    (secret : password ≠ "")
    (compared : bcrypt.compareHashAndPassword row.passwordHash password = .ok ()) :
    Underway bcrypt sessionTTL stack row password state.tasks.length
      ((authServer bcrypt sessionTTL stack).step state
        (.start ⟨connId, .login row.username password⟩)) where
  accounts := accounts.accepted _
  member := member
  onTime := ⟨(authServer bcrypt sessionTTL stack).accept ⟨connId, .login row.username password⟩,
    by simp [Service.step], 9,
    login_delivers bcrypt sessionTTL stack row connId password named secret compared, rfl⟩

/-- Every working step keeps it underway, another request's as much as its own. The row cannot
change meanwhile, as rows of users never do. -/
theorem Underway.step (underway : Underway bcrypt sessionTTL stack row password place state)
    (action : Action Request Choice) (working : Working action) :
    Underway bcrypt sessionTTL stack row password place
      ((authServer bcrypt sessionTTL stack).step state action) := by
  obtain ⟨accounts, member, task, present, onTime⟩ := underway
  refine ⟨accounts.step action working, ?_, ?_⟩
  · generalize after : (authServer bcrypt sessionTTL stack).step state action = next
    have transition : (authServer bcrypt sessionTTL stack).Transition state action next :=
      after ▸ (authServer bcrypt sessionTTL stack).step_transition state action
    cases transition with
    | started request => exact member
    | proceeded index choice other command resume present pending =>
      exact (move_of_working accounts.traced present pending working.1).users_grow row member
    | idle index choice nothing => exact member
  · have fine (choice : Choice) (command : Command) (proceeds : action = .proceed place choice) :
        LoginGood row command
          ((authServer bcrypt sessionTTL stack).perform command choice state.store).1 := by
      subst proceeds
      exact perform_loginGood bcrypt command working.1 working.2 accounts.listed member
    obtain ⟨next, there, -, later⟩ := Service.step_onTime action present onTime
      (fun choice command _ proceeds _ => fine choice command proceeds)
    exact ⟨next, there, later⟩

end Runs

/-- The request at this place has been answered with success, and with this data. -/
def Succeeded (state : AuthState) (place : Nat) (operation : Operation) (data : Data) : Prop :=
  ∃ task, state.tasks[place]? = some task ∧ task.request.operation = operation ∧
    task.answer? = some (.success data)

section Outcome

variable {bcrypt : Bcrypt} {sessionTTL : SessionTTL} {stack : Nat} {state : AuthState}

/-- Of the registrations with one name, or with one address, one succeeds at most. -/
theorem Accounts.succeeds_once (accounts : Accounts bcrypt sessionTTL stack state)
    (ideal : bcrypt.Ideal) {first second : Nat}
    {username username' email email' password password' : String} {data data' : Data}
    (succeeded : Succeeded state first (.register username email password) data)
    (again : Succeeded state second (.register username' email' password') data')
    (clash : Postgres.column 255 username = Postgres.column 255 username' ∨
      Postgres.column 255 email = Postgres.column 255 email') : first = second := by
  obtain ⟨task, present, asked, answered⟩ := succeeded
  obtain ⟨task', present', asked', answered'⟩ := again
  obtain ⟨-, -, row, registered, -⟩ := accounts.answered ideal present asked answered
  obtain ⟨-, -, row', registered', -⟩ := accounts.answered ideal present' asked' answered'
  exact (accounts.unique registered registered' clash).1

/-- What has been inserted for a registration stays so in any run, as traces only grow. -/
theorem Registered.run {place : Nat} {username email password : String} {row : User}
    (registered : Registered state place username email password row)
    (actions : List (Action Request Choice)) :
    Registered ((authServer bcrypt sessionTTL stack).run state actions) place username email password
      row := by
  refine (authServer bcrypt sessionTTL stack).run_always
    (fun current => Registered current place username email password row)
    ?_ state actions registered
  intro current action kept
  obtain ⟨task, present, asked⟩ := kept.asked
  obtain ⟨next, there, same, -⟩ := Service.step_extends action present
  exact ⟨⟨next, there, by rw [same, asked]⟩, inserted_step action kept.inserted, kept.name,
    kept.address⟩

/-- A registration that succeeds answers with the row it has inserted. -/
theorem Accounts.answers_row (accounts : Accounts bcrypt sessionTTL stack state)
    (ideal : bcrypt.Ideal) {place : Nat} {username email password : String} {row : User}
    (registered : Registered state place username email password row) {answer : Data}
    (succeeded : Succeeded state place (.register username email password) answer) :
    answer = .register ⟨row.id, row.username, row.email⟩ := by
  obtain ⟨task, present, asked, answered⟩ := succeeded
  obtain ⟨-, -, row', registered', -, rfl⟩ := accounts.answered ideal present asked answered
  obtain ⟨-, rfl⟩ := accounts.unique registered registered' (Or.inl rfl)
  rfl

/-- A login that succeeds names the row of a registration with its name and its
password. -/
theorem Accounts.login_registered (accounts : Accounts bcrypt sessionTTL stack state)
    (ideal : bcrypt.Ideal) {place : Nat} {username password : String} {data : Data}
    (succeeded : Succeeded state place (.login username password) data) :
    ∃ (said : LoginResponseData) (registration : Nat) (given email : String) (row : User),
      data = .login said ∧ Registered state registration given email password row ∧
        row.username = username ∧ said.userId = row.id ∧ said.username = row.username ∧
        said.email = row.email := by
  obtain ⟨task, present, asked, answered⟩ := succeeded
  have member := List.mem_of_getElem? present
  obtain ⟨said, row, rfl, found, compared, id, name, address⟩ :=
    (accounts.traced.answer_admitted member
      (handleConnection_accounts bcrypt sessionTTL stack task.request) answered).loggedIn
        username password data asked rfl
  obtain ⟨rfl, inside⟩ := accounts.found task member username row found
  obtain ⟨registration, inserted⟩ := accounts.rows row inside
  obtain ⟨given, email, secret, registered, matching⟩ := accounts.registered ideal inserted
  obtain rfl := (matching password).mp compared
  exact ⟨said, registration, given, email, row, rfl, registered, rfl, id, name, address⟩

/-- A login that starts after a registration of its name and password has succeeded
is answered, or will be after nine commands, with the row of that registration. -/
theorem Accounts.login_succeeds (accounts : Accounts bcrypt sessionTTL stack state)
    (ideal : bcrypt.Ideal) {registration : Nat} {given email password username connId : String}
    {answer : Data} (succeeded : Succeeded state registration (.register given email password) answer)
    (stores : Postgres.column 255 given = .ok username) (actions : List (Action Request Choice))
    (working : (authServer bcrypt sessionTTL stack).Along (fun _ action => Working action) state
      (.start ⟨connId, .login username password⟩ :: actions)) :
    ∃ task, ((authServer bcrypt sessionTTL stack).run state
        (.start ⟨connId, .login username password⟩ :: actions)).tasks[state.tasks.length]? = some task ∧
      ((∃ said, task.answer? = some (.success (.login said)) ∧
          answer = .register ⟨said.userId, said.username, said.email⟩) ∨
        (task.answer? = none ∧ task.program.pending? ≠ none ∧ task.trace.length < 9)) := by
  obtain ⟨registered, present, asked, answered⟩ := succeeded
  obtain ⟨named, secret, row, inserted, matching, rfl⟩ :=
    accounts.answered ideal present asked answered
  obtain rfl : row.username = username := Except.ok.inj (inserted.name.symm.trans stores)
  have underway := underway_accepted accounts
    (accounts.kept _ row inserted.inserted) connId
    (Postgres.column_ne_empty (by omega) named stores) secret ((matching password).mpr rfl)
  have later := (authServer bcrypt sessionTTL stack).run_invariant
    (Underway bcrypt sessionTTL stack row password state.tasks.length)
    (fun _ action kept works => kept.step action works) _ actions underway working.2
  obtain ⟨task, there, onTime⟩ := later.onTime
  refine ⟨task, there, onTime.outcome.imp ?_ id⟩
  rintro ⟨response, answered, said, rfl, id, name, address⟩
  exact ⟨said, answered, by rw [id, name, address]⟩

end Outcome

/-- Login accepts exactly the registered credentials, names counted as their column
stores them. In every run over a table without users in which stores and random
source work and passwords are hashed as they are meant to be: at most one
registration with a name, and at most one with an address, succeeds; a login that
has succeeded names the row that a registration with its name and password has
inserted, as that registration does; and a login started when such a registration
has succeeded succeeds with the user of that registration, after nine commands at
most. -/
theorem login_accepts_registered (bcrypt : Bcrypt) (sessionTTL : SessionTTL) (stack : Nat)
    (ideal : bcrypt.Ideal) (store : Store) (nobody : store.postgres.users.rows = [])
    (listed : Listed store.redis) (actions : List (Action Request Choice))
    (working : (authServer bcrypt sessionTTL stack).Along (fun _ action => Working action)
      (Service.idleState store) actions) :
    (∀ first second username username' email email' password password' data data',
      Succeeded ((authServer bcrypt sessionTTL stack).run (Service.idleState store) actions) first
        (.register username email password) data →
      Succeeded ((authServer bcrypt sessionTTL stack).run (Service.idleState store) actions) second
        (.register username' email' password') data' →
      (Postgres.column 255 username = Postgres.column 255 username' ∨
        Postgres.column 255 email = Postgres.column 255 email') → first = second) ∧
    (∀ before after, actions = before ++ after → ∀ place username password data,
      Succeeded ((authServer bcrypt sessionTTL stack).run (Service.idleState store) before) place
        (.login username password) data →
      ∃ (said : LoginResponseData) (registration : Nat) (given email : String) (row : User),
        data = .login said ∧
        Registered ((authServer bcrypt sessionTTL stack).run (Service.idleState store) before)
          registration given email password row ∧
        row.username = username ∧ said.userId = row.id ∧ said.username = row.username ∧
        said.email = row.email ∧
        ∀ answer, Succeeded
            ((authServer bcrypt sessionTTL stack).run (Service.idleState store) actions)
            registration (.register given email password) answer →
          answer = .register ⟨said.userId, said.username, said.email⟩) ∧
    ∀ before after connId registration given email username password answer,
      actions = before ++ .start ⟨connId, .login username password⟩ :: after →
      Succeeded ((authServer bcrypt sessionTTL stack).run (Service.idleState store) before)
        registration (.register given email password) answer →
      Postgres.column 255 given = .ok username →
      ∃ task, ((authServer bcrypt sessionTTL stack).run (Service.idleState store) actions).tasks[
          ((authServer bcrypt sessionTTL stack).run (Service.idleState store) before).tasks.length]? =
            some task ∧
        ((∃ said, task.answer? = some (.success (.login said)) ∧
            answer = .register ⟨said.userId, said.username, said.email⟩) ∨
          (task.answer? = none ∧ task.program.pending? ≠ none ∧ task.trace.length < 9)) := by
  have kept (before after : List (Action Request Choice)) (cut : actions = before ++ after) :
      Accounts bcrypt sessionTTL stack
        ((authServer bcrypt sessionTTL stack).run (Service.idleState store) before) := by
    rw [cut, Service.along_append] at working
    exact (authServer bcrypt sessionTTL stack).run_invariant (Accounts bcrypt sessionTTL stack)
      (fun _ action accounts works => accounts.step action works) _ before
      (idle_accounts bcrypt sessionTTL stack nobody listed) working.1
  have final := kept actions [] (by simp)
  refine ⟨?_, ?_, ?_⟩
  · intro first second username username' email email' password password' data data' succeeded again
      clash
    exact final.succeeds_once ideal succeeded again clash
  · intro before after cut place username password data succeeded
    obtain ⟨said, registration, given, email, row, same, registered, named, id, name, address⟩ :=
      (kept before after cut).login_registered ideal succeeded
    refine ⟨said, registration, given, email, row, same, registered, named, id, name, address, ?_⟩
    intro answer replied
    have later : Registered ((authServer bcrypt sessionTTL stack).run (Service.idleState store) actions)
        registration given email password row := by
      rw [cut, Service.run_append]
      exact registered.run after
    rw [final.answers_row ideal later replied, id, name, address]
  · intro before after connId registration given email username password answer cut succeeded stores
    have accounts := kept before _ cut
    rw [cut, Service.along_append] at working
    rw [cut, Service.run_append]
    exact accounts.login_succeeds ideal succeeded stores after working.2

/-- Hashing that keeps the password in the open and rejects the ones that are long or hold
U+0000. -/
def shortBcrypt : Bcrypt where
  generateFromPassword password _ :=
    if password.length ≤ 72 ∧ holdsNul password = false then .ok password
    else .error "bcrypt: password length exceeds 72 bytes"
  compareHashAndPassword := plainBcrypt.compareHashAndPassword

/-- The short hash function compares as it is meant to, so the witness meets the hypothesis
about the package. -/
theorem shortBcrypt_ideal : shortBcrypt.Ideal where
  compares := by
    intro password salt hash made other
    simp only [shortBcrypt] at made
    split at made
    · obtain rfl := Except.ok.inj made
      simp [shortBcrypt, plainBcrypt]
    · simp at made
  fits := by
    intro password salt hash made
    simp only [shortBcrypt] at made
    split at made
    · obtain rfl := Except.ok.inj made
      omega
    · simp at made
  prints := by
    intro password salt hash made
    simp only [shortBcrypt] at made
    split at made
    · rename_i admitted
      obtain rfl := Except.ok.inj made
      exact admitted.2
    · simp at made

/-- A vacant server, on which nobody has registered and nothing is stored. -/
def vacant : Store where
  redis := { table := .empty, clock := 0 }
  postgres := .empty
  clock := 0

/-- A user registers, and her request has got its four commands and its answer. -/
def registering (username : String) : List (Action Request Choice) :=
  .start ⟨"c1", .register username "alice@example.com" "secret"⟩ ::
    List.replicate 4 (.proceed 0 (tick firstToken))

/-- Then she logs in on another connection, with a choice for each of the nine commands of a
login. -/
def registerAndLogin (username : String) (choice : Choice) : List (Action Request Choice) :=
  registering username ++
    .start ⟨"c2", .login username "secret"⟩ :: List.replicate 9 (.proceed 1 choice)

set_option maxRecDepth 4000 in
/-- Alice registers and logs in, and what she is told of herself is the same. -/
theorem alice_logs_in :
    ∃ task, ((authServer shortBcrypt defaultTTL 3).run (Service.idleState vacant)
        (registerAndLogin "alice" (tick firstToken))).tasks[1]? = some task ∧
      ((∃ said, task.answer? = some (.success (.login said)) ∧
          Data.register ⟨firstId.val, "alice", "alice@example.com"⟩ =
            .register ⟨said.userId, said.username, said.email⟩) ∨
        (task.answer? = none ∧ task.program.pending? ≠ none ∧ task.trace.length < 9)) :=
  (login_accepts_registered shortBcrypt defaultTTL 3 shortBcrypt_ideal vacant rfl
    (fun userId entry present => by simp [vacant] at present)
    (registerAndLogin "alice" (tick firstToken)) (by decide)).2.2 (registering "alice") _ "c2" 0 "alice"
      "alice@example.com" "alice" "secret" _ rfl ⟨_, rfl, rfl, rfl⟩ (by decide)

/-- A name that is one blank too long for its column. -/
def paddedName : String := String.ofList (List.replicate 255 'a' ++ [' '])

set_option maxRecDepth 4000 in
/-- Whoever registers with a blank too many does not get in with it, and nobody gets
in while no tokens can be drawn. -/
theorem registered_turned_away :
    ((authServer shortBcrypt defaultTTL 3).Along (fun _ action => Working action)
        (Service.idleState vacant) (registerAndLogin paddedName (tick firstToken)) ∧
      Succeeded ((authServer shortBcrypt defaultTTL 3).run (Service.idleState vacant)
          (registering paddedName)) 0 (.register paddedName "alice@example.com" "secret")
        (.register ⟨firstId.val, String.ofList (List.replicate 255 'a'), "alice@example.com"⟩) ∧
      ∃ task, ((authServer shortBcrypt defaultTTL 3).run (Service.idleState vacant)
          (registerAndLogin paddedName (tick firstToken))).tasks[1]? = some task ∧
        task.request.operation = .login paddedName "secret" ∧
        task.answer? = some (.error "invalid username or password")) ∧
    Succeeded ((authServer shortBcrypt defaultTTL 3).run (Service.idleState vacant)
        (registering "alice")) 0 (.register "alice" "alice@example.com" "secret")
      (.register ⟨firstId.val, "alice", "alice@example.com"⟩) ∧
    ∃ task, ((authServer shortBcrypt defaultTTL 3).run (Service.idleState vacant)
        (registerAndLogin "alice" { tick firstToken with token := .error "EOF" })).tasks[1]? =
          some task ∧
      task.request.operation = .login "alice" "secret" ∧
      task.answer? = some
        (.error "failed to create session: failed to generate token: EOF") := by
  have working := (authServer shortBcrypt defaultTTL 3).along_of_forall (Service.idleState vacant)
    (registerAndLogin paddedName (tick firstToken)) (by decide : ∀ action ∈ _, Working action)
  refine ⟨⟨working, ⟨_, rfl, rfl, by decide⟩, _, rfl, rfl, by decide⟩, ⟨_, rfl, rfl, by decide⟩,
    _, rfl, rfl, by decide⟩

end ShoppingCS.Auth
