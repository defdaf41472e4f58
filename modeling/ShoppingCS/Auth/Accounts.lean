import ShoppingCS.Auth.Moves

/-!
# Who has registered

Registering checks that the name and the address are free, hashes the password and
inserts a row; another registration may come in between, and then the constraints
of the table refuse one of the two. So every row of the table is the row of one
registration, and every registration that has inserted a row is the only one with
its name and with its address.
-/

namespace ShoppingCS.Auth

open Interleaving Program Storage

/-- Hashing as it is meant to be: a password matches the hashes made of it, no other
does, and the column can store every hash. Passwords may be rejected. -/
structure Bcrypt.Ideal (bcrypt : Bcrypt) : Prop where
  compares : ∀ password salt hash, bcrypt.generateFromPassword password salt = .ok hash →
    ∀ other, bcrypt.compareHashAndPassword hash other = .ok () ↔ password = other
  fits : ∀ password salt hash, bcrypt.generateFromPassword password salt = .ok hash →
    hash.length ≤ 255
  prints : ∀ password salt hash, bcrypt.generateFromPassword password salt = .ok hash →
    holdsNul hash = false

/-- What an insertion returns: the row without its hash, which never leaves the repository
again. -/
def User.withoutHash (user : User) : User := { user with passwordHash := "" }

/-- Only registering inserts users, with the name and the address it was asked for
and a hash it has made of the password. -/
structure AccountAllowed (operation : Operation) (trace : Trace) (command : Command) : Prop where
  inserts : ∀ user, command = .postgres (.insertUser user) → ∃ password,
    operation = .register user.username user.email password ∧
      ⟨.generateFromPassword password, .ok user.passwordHash⟩ ∈ trace

/-- What the answers to registrations and logins say about their traces. A success of a
registration reports a row that was inserted, and a success of a login a user who was found
and whose password fits. -/
structure AccountAdmits (bcrypt : Bcrypt) (operation : Operation) (trace : Trace)
    (response : Response) : Prop where
  registers : ∀ username email password data, operation = .register username email password →
    response = .success data → username ≠ "" ∧ password ≠ "" ∧ ∃ user returned : User,
      ⟨.postgres (.insertUser user), .ok returned⟩ ∈ trace ∧
        data = .register ⟨returned.id, returned.username, returned.email⟩
  loggedIn : ∀ username password data, operation = .login username password →
    response = .success data → ∃ (said : LoginResponseData) (user : User), data = .login said ∧
      ⟨.postgres (.selectUserByUsername username), .ok (some user)⟩ ∈ trace ∧
      bcrypt.compareHashAndPassword user.passwordHash password = .ok () ∧
      said.userId = user.id ∧ said.username = user.username ∧ said.email = user.email

/-- The command inserts no user. Whatever else it does is of no concern to the accounts. -/
def Uninserting (command : Command) : Prop := ∀ user, command ≠ .postgres (.insertUser user)

/-- Such a command is allowed at any time, since only insertions are bound to what was asked
for. -/
theorem Uninserting.allowed {operation : Operation} {trace : Trace} {command : Command}
    (uninserting : Uninserting command) : AccountAllowed operation trace command :=
  ⟨fun user same => absurd same (uninserting user)⟩

/-- An error says nothing about the trace, so a handler that refuses its request has nothing
to show. -/
theorem accountAdmits_error (bcrypt : Bcrypt) (operation : Operation) (trace : Trace)
    (message : String) : AccountAdmits bcrypt operation trace (.error message) :=
  ⟨fun _ _ _ _ _ same => by simp at same, fun _ _ _ _ same => by simp at same⟩

section Issues

variable (sessionTTL : SessionTTL)

/-- No command of a lookup or a deletion of sessions inserts a user, since none of them writes
to the table of users. -/
theorem CallsSession.uninserting {token : String} {command : Command}
    (calls : CallsSession token command) : Uninserting command := by
  cases calls <;> simp [Uninserting]

/-- Nor does a command of a creation, which inserts the row of a session. -/
theorem CallsCreation.uninserting {user : User} {command : Command}
    (calls : CallsCreation sessionTTL user command) : Uninserting command := by
  cases calls <;> simp [Uninserting]

/-- Nor does the check of a token, which only selects the user that the session names. -/
theorem CallsCheck.uninserting {token : String} {command : Command}
    (calls : CallsCheck token command) : Uninserting command := by
  cases calls with
  | session calls => exact calls.uninserting
  | owner userId => simp [Uninserting]

/-- Of all requests only registrations insert users, whatever the stores answer. It is enough
to look at the commands that are listed for each kind. -/
theorem Operation.Calls.uninserting {operation : Operation} {command : Command}
    (calls : operation.Calls sessionTTL command)
    (others : ∀ username email password, operation ≠ .register username email password) :
    Uninserting command := by
  cases operation with
  | register username email password => exact absurd rfl (others username email password)
  | login username password =>
    have logs : CallsLogin sessionTTL username command := calls
    cases logs with
    | find => simp [Uninserting]
    | create calls => exact calls.uninserting
  | logout token => exact CallsSession.uninserting calls
  | validate token => exact CallsCheck.uninserting calls
  | refresh token =>
    have refreshes : CallsRefresh sessionTTL token command := calls
    cases refreshes with
    | check calls => exact calls.uninserting
    | create calls => exact calls.uninserting
  | unknown type => exact absurd calls id

end Issues

section Handlers

variable (bcrypt : Bcrypt) (sessionTTL : SessionTTL) (stack : Nat)

/-- Registering inserts a row of what it was asked for, and answers with what the
insertion returns. -/
theorem register_accounts (username email password : String) :
    Obeys (AccountAllowed (.register username email password))
      (fun after result => ∀ returned : User, result = .ok returned → ∃ user : User,
        ⟨.postgres (.insertUser user), .ok returned⟩ ∈ after)
      [] (register username email password) := by
  have refused {error : String} {after : Trace} : ∀ returned : User,
      (Except.error error : Except String User) = .ok returned → ∃ user : User,
        ⟨.postgres (.insertUser user), .ok returned⟩ ∈ after :=
    fun returned same => absurd same (by simp)
  unfold register
  split_ifs
  · exact refused
  · exact refused
  · exact refused
  · exact refused
  · refine ⟨Uninserting.allowed (by simp [Uninserting]), fun exists' => ?_⟩
    rcases exists' with error | _ | _
    · exact refused
    · refine ⟨Uninserting.allowed (by simp [Uninserting]), fun hashed => ?_⟩
      cases hashed with
      | error error => exact refused
      | ok hash =>
        refine ⟨Uninserting.allowed (by simp [Uninserting]), fun id => ⟨⟨fun user same => ?_⟩,
          fun inserted => ?_⟩⟩
        · obtain rfl : _ = user := by simpa using same
          exact ⟨password, rfl, by simp⟩
        · cases inserted with
          | error error => exact refused
          | ok user =>
            intro returned same
            obtain rfl := Except.ok.inj same
            exact ⟨_, List.mem_append_right _ (List.mem_singleton.mpr rfl)⟩
    · exact refused

/-- A creation returns a session of its user, with the user's id, name and address as they
were handed to it. -/
theorem createSession_for (user : User) (history : Trace) :
    Obeys (fun _ _ => True) (fun _ result => ∀ session : Session, result = .ok session →
      session.For user) history (createSession sessionTTL user) := by
  refine Obeys.through (fun _ _ => True) ⟨trivial, fun result => by cases result <;> trivial⟩ ?_
  rintro after drawn -
  cases drawn with
  | error error => exact fun session same => absurd same (by simp)
  | ok token =>
    refine ⟨trivial, fun started => ⟨trivial, fun createdAt => ⟨trivial, ?_⟩⟩⟩
    intro stored
    cases stored with
    | error error => exact fun session same => absurd same (by simp)
    | ok _ =>
      refine ⟨trivial, ?_⟩
      intro added
      cases added with
      | error error => exact fun session same => absurd same (by simp)
      | ok _ =>
        refine ⟨trivial, fun renewed => ⟨trivial, ?_⟩⟩
        intro inserted session same
        obtain rfl := Except.ok.inj same
        exact ⟨rfl, rfl, rfl⟩

/-- A login that returns a session has found the user and compared the password. -/
theorem login_accounts (operation : Operation) (username password : String) :
    Obeys (AccountAllowed operation)
      (fun after result => ∀ session : Session, result = .ok session → ∃ user : User,
        ⟨.postgres (.selectUserByUsername username), .ok (some user)⟩ ∈ after ∧
          bcrypt.compareHashAndPassword user.passwordHash password = .ok () ∧ session.For user)
      [] (login bcrypt sessionTTL username password) := by
  unfold login
  split_ifs
  · exact fun session same => absurd same (by simp)
  · exact fun session same => absurd same (by simp)
  refine ⟨Uninserting.allowed (by simp [Uninserting]), fun found => ?_⟩
  rcases found with error | _ | user
  · exact fun session same => absurd same (by simp)
  · exact fun session same => absurd same (by simp)
  change Obeys _ _ _
    (finishLogin sessionTTL user (bcrypt.compareHashAndPassword user.passwordHash password))
  cases compared : bcrypt.compareHashAndPassword user.passwordHash password with
  | error error => exact fun session same => absurd same (by simp)
  | ok _ =>
    have creates : Obeys (AccountAllowed operation) _ [⟨.postgres (.selectUserByUsername username),
        .ok (some user)⟩] (createSession sessionTTL user) :=
      (createSession_calls sessionTTL user).obeys (fun _ _ _ calls => calls.uninserting.allowed)
    refine ((creates.and (createSession_for sessionTTL user _)).mono (fun _ _ both => both.1)
      (fun _ _ both => both)).bind ?_
    rintro after result ⟨⟨later, rfl, -⟩, owned⟩
    cases result with
    | error error => exact fun session same => absurd same (by simp)
    | ok session =>
      intro other same
      obtain rfl := Except.ok.inj same
      exact ⟨user, by simp, compared, owned session rfl⟩

/-- A registration that is answered with a success has been asked for with a name and a
password, and reports the row that its insertion has returned. -/
theorem handleRegister_accounts (username email password : String) :
    Obeys (AccountAllowed (.register username email password))
      (AccountAdmits bcrypt (.register username email password)) []
      (handleRegister username email password) := by
  unfold handleRegister
  split_ifs with missing
  · exact accountAdmits_error _ _ _ _
  · have named : username ≠ "" := fun empty => missing (Or.inl empty)
    have secret : password ≠ "" := fun empty => missing (Or.inr (Or.inr empty))
    apply (register_accounts username email password).bind
    intro after result inserted
    cases result with
    | error error => exact accountAdmits_error _ _ _ _
    | ok returned =>
      refine ⟨fun _ _ _ data asked same => ?_, fun _ _ _ asked => by simp at asked⟩
      obtain ⟨rfl, rfl, rfl⟩ := Operation.register.inj asked
      obtain ⟨user, event⟩ := inserted returned rfl
      exact ⟨named, secret, user, returned, event, (Response.success.inj same).symm⟩

/-- The answer of a login that succeeds names the user whom the lookup by name has found and
whose hash the password has been compared with. -/
theorem handleLogin_accounts (operation : Operation) (username password : String) :
    Obeys (AccountAllowed operation)
      (fun after response => ∀ data, response = .success data →
        ∃ (said : LoginResponseData) (user : User), data = .login said ∧
          ⟨.postgres (.selectUserByUsername username), .ok (some user)⟩ ∈ after ∧
          bcrypt.compareHashAndPassword user.passwordHash password = .ok () ∧
          said.userId = user.id ∧ said.username = user.username ∧ said.email = user.email)
      [] (handleLogin bcrypt sessionTTL username password) := by
  unfold handleLogin
  split_ifs
  · exact fun data same => absurd same (by simp)
  · apply (login_accounts bcrypt sessionTTL operation username password).bind
    intro after result logged
    cases result with
    | error error => exact fun data same => absurd same (by simp)
    | ok session =>
      intro data same
      obtain rfl := Response.success.inj same
      obtain ⟨user, found, compared, owns⟩ := logged session rfl
      exact ⟨session.response, user, rfl, found, compared, owns⟩

/-- Every request inserts and answers accordingly. Only registrations and logins have anything
to show, and the note that a login leaves under its connection inserts nobody. -/
theorem handleConnection_accounts (request : Request) :
    Obeys (AccountAllowed request.operation) (AccountAdmits bcrypt request.operation) []
      (handleConnection bcrypt sessionTTL stack request) := by
  obtain ⟨connId, operation⟩ := request
  have others (registers : ∀ username email password, operation ≠ .register username email password)
      (logs : ∀ username password, operation ≠ .login username password) :
      Obeys (AccountAllowed operation) (AccountAdmits bcrypt operation) []
        (handleRequest bcrypt sessionTTL stack operation) := by
    have free : Obeys (AccountAllowed operation) _ []
        (handleRequest bcrypt sessionTTL stack operation) :=
      (handleRequest_calls bcrypt sessionTTL stack operation).obeys
        (fun _ _ _ calls => (calls.uninserting sessionTTL registers).allowed)
    exact free.mono (fun _ _ allowed => allowed) (fun after response _ =>
      ⟨fun username email password _ same => absurd same (registers username email password),
        fun username password _ same => absurd same (logs username password)⟩)
  cases operation with
  | register username email password => exact handleRegister_accounts bcrypt username email password
  | login username password =>
    apply Obeys.through _ (handleLogin_accounts bcrypt sessionTTL _ username password)
    intro after response logged
    cases response with
    | error message => exact accountAdmits_error _ _ _ _
    | success data =>
      obtain ⟨said, user, rfl, found, rest⟩ := logged data rfl
      refine ⟨Uninserting.allowed (by simp [Uninserting]), fun result =>
        ⟨fun _ _ _ _ asked => by simp at asked, fun _ _ _ asked same => ?_⟩⟩
      obtain ⟨rfl, rfl⟩ := Operation.login.inj asked
      obtain rfl := Response.success.inj same
      exact ⟨said, user, rfl, List.mem_append_left _ found, rest⟩
  | logout token => exact others (by simp) (by simp)
  | validate token => exact others (by simp) (by simp)
  | refresh token => exact others (by simp) (by simp)
  | unknown type => exact others (by simp) (by simp)

end Handlers

end ShoppingCS.Auth
