import ShoppingCS.Shop.Database

/-!
# The PostgreSQL tables of the authentication server

`users` and `user_sessions`, as `schema.sql` declares them, and the statements of
the two repositories. Keys, unique columns and the foreign key are part of the
content, so every content is one the schema admits. A rejected statement reports
the error of the driver and changes nothing.

The time stamps nobody reads (`created_at`, `updated_at`) and the serial id of a
session row are left out. Expiry is kept to the nanosecond.
-/

namespace ShoppingCS.Auth

open Storage Shop

/-- `models.User`, which is also the row of `users` without the columns that nothing reads.
The hash is empty in a user that is returned to a handler. -/
structure User where
  id : String
  username : String
  email : String
  passwordHash : String
deriving DecidableEq

/-- The texts by which a user is looked up hold no U+0000, as no stored text does, so
each of them is a parameter the database takes. -/
structure User.Clean (user : User) : Prop where
  id : holdsNul user.id = false
  username : holdsNul user.username = false
  email : holdsNul user.email = false

/-- A row of `user_sessions`: whose session it is, its token and its expiry. The other columns
are set by the database and never read. -/
structure SessionRow where
  userId : String
  sessionToken : String
  expiresAt : Int
deriving DecidableEq

/-- The row with another expiry. This is what an insertion does to a row whose token is there
already. -/
def SessionRow.withExpiry (row : SessionRow) (expiresAt : Int) : SessionRow :=
  { row with expiresAt := expiresAt }

/-- A content of the two tables: the keys and unique columns are unique, a session refers
to a user, and the texts that are looked up are texts the database can hold. -/
@[ext] structure Postgres where
  users : KeyedTable User String User.id
  userSessions : KeyedTable SessionRow String SessionRow.sessionToken
  usernames : (users.rows.map User.username).Nodup
  emails : (users.rows.map User.email).Nodup
  sessionUsers : ∀ row ∈ userSessions.rows, (users.get? row.userId).isSome
  userTexts : ∀ user ∈ users.rows, user.Clean
  sessionTokens : ∀ row ∈ userSessions.rows, holdsNul row.sessionToken = false

/-- The statements of the repositories that the server executes, each with its parameters. Two
more queries are in the source and nothing calls them. -/
inductive Statement where
  | userExists (username email : String)
  | insertUser (user : User)
  | selectUserByUsername (username : String)
  | selectUserById (id : String)
  | insertSession (row : SessionRow)
  | deleteSession (token : String)
  | deleteUserSessions (userId : String)
deriving DecidableEq

/-- What a successful statement returns: whether a user exists, the inserted user, the user
that was found if there is one, or nothing. -/
@[reducible] def Statement.Rows : Statement → Type
  | .userExists _ _ => Bool
  | .insertUser _ => User
  | .selectUserByUsername _ => Option User
  | .selectUserById _ => Option User
  | .insertSession _ => Unit
  | .deleteSession _ => Unit
  | .deleteUserSessions _ => Unit

/-- A parameter of the statement holds U+0000. The values of the insertions are left to
their columns, which refuse the same character. -/
def Statement.holdsNul : Statement → Bool
  | .userExists username email => Storage.holdsNul username || Storage.holdsNul email
  | .insertUser _ => false
  | .selectUserByUsername username => Storage.holdsNul username
  | .selectUserById id => Storage.holdsNul id
  | .insertSession _ => false
  | .deleteSession token => Storage.holdsNul token
  | .deleteUserSessions userId => Storage.holdsNul userId

namespace Postgres

/-- The database after `schema.sql`: both tables are there and have no rows. -/
def empty : Postgres where
  users := .empty
  userSessions := .empty
  usernames := List.nodup_nil
  emails := List.nodup_nil
  sessionUsers := fun row member => absurd member (by simp [KeyedTable.empty])
  userTexts := fun user member => absurd member (by simp [KeyedTable.empty])
  sessionTokens := fun row member => absurd member (by simp [KeyedTable.empty])

/-- The error of a text with U+0000, in a parameter or on its way into a column. -/
def invalidByte : String :=
  "ERROR: invalid byte sequence for encoding \"UTF8\": 0x00 (SQLSTATE 22021)"

/-- The error of a value that is too long for its column, as the driver reports it with the
code of the condition. -/
def tooLong (width : Nat) : String :=
  "ERROR: value too long for type character varying(" ++ width.repr ++ ") (SQLSTATE 22001)"

/-- The error of a key that is taken. It names the constraint, which depends on the column
that has the value already. -/
def duplicate (constraint : String) : String :=
  "ERROR: duplicate key value violates unique constraint \"" ++ constraint ++
    "\" (SQLSTATE 23505)"

/-- The error of a session without a user: the foreign key of its row refers to no row of
`users`. -/
def unknownUser : String :=
  "ERROR: insert or update on table \"user_sessions\" violates foreign key constraint " ++
    "\"user_sessions_user_id_fkey\" (SQLSTATE 23503)"

/-- A value as the column stores it. U+0000 is refused before the width is looked at. -/
def column (width : Nat) (text : String) : Except String String :=
  if holdsNul text then .error invalidByte
  else match varchar width text with
  | some stored => .ok stored
  | none => .error (tooLong width)

/-- The row of a new user as the columns store it. The columns are checked in their order, and
the first one that does not take its value refuses the row. -/
def userRow (user : User) : Except String User := do
  let id ← column 50 user.id
  let username ← column 255 user.username
  let email ← column 255 user.email
  let passwordHash ← column 255 user.passwordHash
  return { id := id, username := username, email := email, passwordHash := passwordHash }

/-- The row of a new session as the columns store it, with the checks of its two text columns.
Its expiry fits always. -/
def sessionRow (row : SessionRow) : Except String SessionRow := do
  let userId ← column 50 row.userId
  let sessionToken ← column 255 row.sessionToken
  return { userId := userId, sessionToken := sessionToken, expiresAt := row.expiresAt }

/-- Another session table, whose rows refer to users and hold tokens without U+0000. Both
facts are asked for, so that a table without them cannot be put in. -/
def withSessions (postgres : Postgres)
    (userSessions : KeyedTable SessionRow String SessionRow.sessionToken)
    (refers : ∀ row ∈ userSessions.rows, (postgres.users.get? row.userId).isSome)
    (tokens : ∀ row ∈ userSessions.rows, holdsNul row.sessionToken = false) : Postgres :=
  { postgres with userSessions := userSessions, sessionUsers := refers, sessionTokens := tokens }

/-- Keep the session rows that pass a test; the others are deleted. Rows that are kept still
refer to users, because no user is deleted. -/
def keepSessions (postgres : Postgres) (test : SessionRow → Bool) : Postgres :=
  postgres.withSessions (postgres.userSessions.keep test)
    (fun row member => postgres.sessionUsers row (List.mem_of_mem_filter member))
    (fun row member => postgres.sessionTokens row (List.mem_of_mem_filter member))

/-- Append a user whose id, name and address are free. The constraints of the table are the
arguments, and they are what keeps names and addresses unique. -/
def appendUser (postgres : Postgres) (row : User) (id : postgres.users.get? row.id = none)
    (username : row.username ∉ postgres.users.rows.map User.username)
    (email : row.email ∉ postgres.users.rows.map User.email) (clean : row.Clean) : Postgres where
  users := postgres.users.insertFree row id
  userSessions := postgres.userSessions
  usernames := by
    change ((postgres.users.rows ++ [row]).map User.username).Nodup
    rw [List.map_append, List.nodup_append]
    refine ⟨postgres.usernames, List.nodup_singleton _, ?_⟩
    intro taken member other singleton same
    obtain rfl := List.mem_singleton.mp singleton
    exact username (same ▸ member)
  emails := by
    change ((postgres.users.rows ++ [row]).map User.email).Nodup
    rw [List.map_append, List.nodup_append]
    refine ⟨postgres.emails, List.nodup_singleton _, ?_⟩
    intro taken member other singleton same
    obtain rfl := List.mem_singleton.mp singleton
    exact email (same ▸ member)
  sessionUsers := by
    intro session member
    have refers := postgres.sessionUsers session member
    obtain ⟨user, found⟩ := Option.isSome_iff_exists.mp refers
    obtain ⟨stored, same⟩ := KeyedTable.get?_sound found
    have still : user ∈ (postgres.users.insertFree row id).rows := List.mem_append_left _ stored
    rw [← same, KeyedTable.get?_complete still]
    rfl
  userTexts := by
    intro user member
    cases List.mem_append.mp member with
    | inl stored => exact postgres.userTexts user stored
    | inr new =>
      obtain rfl := List.mem_singleton.mp new
      exact clean
  sessionTokens := postgres.sessionTokens

/-- Insert a user whose values have passed their columns; the constraints are checked in
the order of their declaration. -/
def insertUser (postgres : Postgres) (row : User) (clean : row.Clean) :
    Except String User × Postgres :=
  if id : postgres.users.get? row.id = none then
    if username : row.username ∉ postgres.users.rows.map User.username then
      if email : row.email ∉ postgres.users.rows.map User.email then
        (.ok { row with passwordHash := "" }, postgres.appendUser row id username email clean)
      else (.error (duplicate "users_email_key"), postgres)
    else (.error (duplicate "users_username_key"), postgres)
  else (.error (duplicate "users_pkey"), postgres)

/-- Insert a session row whose values have passed their columns, or give the row with its
token the new expiry. -/
def insertSession (postgres : Postgres) (row : SessionRow)
    (clean : holdsNul row.sessionToken = false) : Except String Unit × Postgres :=
  match postgres.userSessions.get? row.sessionToken with
  | some _ =>
    (.ok (), postgres.withSessions
      (postgres.userSessions.rewrite
        (fun stored => if stored.sessionToken = row.sessionToken then
          stored.withExpiry row.expiresAt else stored)
        (fun stored => by split <;> rfl))
      (by
        intro stored member
        obtain ⟨source, present, rfl⟩ := List.mem_map.mp member
        have refers := postgres.sessionUsers source present
        split
        · exact refers
        · exact refers)
      (by
        intro stored member
        obtain ⟨source, present, rfl⟩ := List.mem_map.mp member
        have token := postgres.sessionTokens source present
        split
        · exact token
        · exact token))
  | none =>
    if refers : (postgres.users.get? row.userId).isSome then
      (.ok (), postgres.withSessions (postgres.userSessions.put row) (by
        intro stored member
        rcases List.mem_append.mp member with kept | new
        · exact postgres.sessionUsers stored (List.mem_of_mem_filter kept)
        · obtain rfl := List.mem_singleton.mp new
          exact refers)
      (by
        intro stored member
        rcases List.mem_append.mp member with kept | new
        · exact postgres.sessionTokens stored (List.mem_of_mem_filter kept)
        · obtain rfl := List.mem_singleton.mp new
          exact clean))
    else (.error unknownUser, postgres)

/-- A column passes on what VARCHAR of its width stores. The error for U+0000 and the one for
a long value differ, but either way nothing is stored. -/
theorem column_eq_ok {width : Nat} {text stored : String} :
    column width text = .ok stored ↔ varchar width text = some stored := by
  unfold column
  split
  · rename_i nul
    simp [varchar, nul]
  · cases varchar width text with
    | none => simp
    | some kept => simp

/-- What a column stores fits the column: a longer text is refused unless what it has too many
are blanks, and these are cut off. -/
theorem column_length {width : Nat} {text stored : String}
    (stores : column width text = .ok stored) : stored.length ≤ width :=
  (varchar_sound (column_eq_ok.mp stores)).2.2.1

/-- What a column stores holds no U+0000, since such a text is refused before its length is
looked at. -/
theorem column_clean {width : Nat} {text stored : String}
    (stores : column width text = .ok stored) : holdsNul stored = false :=
  (varchar_sound (column_eq_ok.mp stores)).2.1

/-- A text that is not empty is not stored as the empty one: a column of some width that cuts
blanks off leaves as many characters as it is wide. -/
theorem column_ne_empty {width : Nat} {text stored : String} (positive : 0 < width)
    (given : text ≠ "") (stores : column width text = .ok stored) : stored ≠ "" :=
  (varchar_sound (column_eq_ok.mp stores)).2.2.2 positive given

/-- A text that fits and holds no U+0000 is stored as it is. This is the case of every token
and every id that the server itself draws. -/
theorem column_fits {width : Nat} {text : String} (clean : holdsNul text = false)
    (fits : text.length ≤ width) : column width text = .ok text :=
  column_eq_ok.mpr (varchar_fits clean fits)

/-- A new user is stored column by column: the row passes exactly if each of its four columns
takes its value, and it then holds what they store. -/
theorem userRow_eq_ok {user row : User} :
    userRow user = .ok row ↔ column 50 user.id = .ok row.id ∧
      column 255 user.username = .ok row.username ∧ column 255 user.email = .ok row.email ∧
      column 255 user.passwordHash = .ok row.passwordHash := by
  obtain ⟨id, username, email, passwordHash⟩ := row
  unfold userRow
  cases column 50 user.id with
  | error error => simp [bind, Except.bind]
  | ok id =>
    cases column 255 user.username with
    | error error => simp [bind, Except.bind]
    | ok username =>
      cases column 255 user.email with
      | error error => simp [bind, Except.bind]
      | ok email =>
        cases column 255 user.passwordHash with
        | error error => simp [bind, Except.bind]
        | ok passwordHash => simp [bind, Except.bind, pure, Except.pure]

/-- A row that has passed its columns can be looked up by each of its texts. -/
theorem userRow_clean {user row : User} (stores : userRow user = .ok row) : row.Clean := by
  obtain ⟨id, username, email, -⟩ := userRow_eq_ok.mp stores
  exact ⟨column_clean id, column_clean username, column_clean email⟩

/-- A new session is stored column by column, its token and the id of its user as their
columns take them and its expiry unchanged. -/
theorem sessionRow_eq_ok {row stored : SessionRow} :
    sessionRow row = .ok stored ↔ column 50 row.userId = .ok stored.userId ∧
      column 255 row.sessionToken = .ok stored.sessionToken ∧
      row.expiresAt = stored.expiresAt := by
  obtain ⟨userId, sessionToken, expiresAt⟩ := stored
  unfold sessionRow
  cases column 50 row.userId with
  | error error => simp [bind, Except.bind]
  | ok userId =>
    cases column 255 row.sessionToken with
    | error error => simp [bind, Except.bind]
    | ok sessionToken => simp [bind, Except.bind, pure, Except.pure]

/-- The token of a session row that has passed its columns holds no U+0000. -/
theorem sessionRow_clean {row stored : SessionRow} (stores : sessionRow row = .ok stored) :
    holdsNul stored.sessionToken = false :=
  column_clean (sessionRow_eq_ok.mp stores).2.1

/-- The id of a user in the table is a text the database takes. -/
theorem userId_clean {postgres : Postgres} {id : String}
    (known : (postgres.users.get? id).isSome) : holdsNul id = false := by
  obtain ⟨user, found⟩ := Option.isSome_iff_exists.mp known
  obtain ⟨stored, rfl⟩ := KeyedTable.get?_sound found
  exact (postgres.userTexts user stored).id

/-- Carry out a statement whose parameters the database has taken. An insertion first passes
its values through the columns, then its constraints are checked. -/
def carryOut (postgres : Postgres) :
    (statement : Statement) → Except String statement.Rows × Postgres
  | .userExists username email =>
    (.ok (postgres.users.rows.any (fun row => row.username = username || row.email = email)),
      postgres)
  | .insertUser user =>
    match stores : userRow user with
    | .ok row => postgres.insertUser row (userRow_clean stores)
    | .error error => (.error error, postgres)
  | .selectUserByUsername username =>
    (.ok (postgres.users.rows.find? (fun row => row.username = username)), postgres)
  | .selectUserById id => (.ok (postgres.users.get? id), postgres)
  | .insertSession row =>
    match stores : sessionRow row with
    | .ok stored => postgres.insertSession stored (sessionRow_clean stores)
    | .error error => (.error error, postgres)
  | .deleteSession token =>
    (.ok (), postgres.keepSessions (fun row => row.sessionToken ≠ token))
  | .deleteUserSessions userId =>
    (.ok (), postgres.keepSessions (fun row => row.userId ≠ userId))

/-- Execute one statement. A parameter with U+0000 is refused before the statement is
looked at. -/
def execute (postgres : Postgres) (statement : Statement) :
    Except String statement.Rows × Postgres :=
  if statement.holdsNul then (.error invalidByte, postgres) else postgres.carryOut statement

/-- A statement with a parameter that is not taken reports an error and changes nothing;
every other one is carried out. -/
theorem execute_cases (postgres : Postgres) (statement : Statement) :
    (statement.holdsNul = true ∧ postgres.execute statement = (.error invalidByte, postgres)) ∨
      (statement.holdsNul = false ∧
        postgres.execute statement = postgres.carryOut statement) := by
  cases nul : statement.holdsNul with
  | true => exact Or.inl ⟨rfl, if_pos nul⟩
  | false => exact Or.inr ⟨rfl, if_neg (by simp [nul])⟩

/-- A statement whose parameters are taken is carried out, so facts about what it does need
only be proved of that. -/
theorem execute_clean {postgres : Postgres} {statement : Statement}
    (clean : statement.holdsNul = false) :
    postgres.execute statement = postgres.carryOut statement :=
  if_neg (by simp [clean])

/-- What a statement does to the tables it also does when it is carried out, unless it
does nothing. -/
theorem execute_store (postgres : Postgres) (statement : Statement) :
    (postgres.execute statement).2 = postgres ∨
      (postgres.execute statement).2 = (postgres.carryOut statement).2 := by
  cases postgres.execute_cases statement with
  | inl refused => exact Or.inl (by rw [refused.2])
  | inr carried => exact Or.inr (by rw [carried.2])

/-- The insertion of a user inserts the row that its columns make of it, or is refused by one
of them. The other lemmas on this statement split on this one. -/
theorem carryOut_insertUser (postgres : Postgres) (user : User) :
    (∃ row, ∃ stores : userRow user = .ok row,
      postgres.carryOut (.insertUser user) = postgres.insertUser row (userRow_clean stores)) ∨
    ∃ error, userRow user = .error error ∧
      postgres.carryOut (.insertUser user) = (.error error, postgres) := by
  rw [carryOut]
  split
  · rename_i row stores
    exact Or.inl ⟨row, stores, rfl⟩
  · rename_i error misfit
    exact Or.inr ⟨error, misfit, rfl⟩

/-- So does the insertion of the row of a session, with the columns of that table. -/
theorem carryOut_insertSession (postgres : Postgres) (row : SessionRow) :
    (∃ stored, ∃ stores : sessionRow row = .ok stored,
      postgres.carryOut (.insertSession row) =
        postgres.insertSession stored (sessionRow_clean stores)) ∨
    ∃ error, sessionRow row = .error error ∧
      postgres.carryOut (.insertSession row) = (.error error, postgres) := by
  rw [carryOut]
  split
  · rename_i stored stores
    exact Or.inl ⟨stored, stores, rfl⟩
  · rename_i error misfit
    exact Or.inr ⟨error, misfit, rfl⟩

/-- The insertion of a user is carried out when its values pass their columns. -/
theorem execute_insertUser_ok (postgres : Postgres) {user row : User}
    (stores : userRow user = .ok row) :
    postgres.execute (.insertUser user) = postgres.insertUser row (userRow_clean stores) := by
  rw [execute_clean rfl]
  cases postgres.carryOut_insertUser user with
  | inl inserted =>
    obtain ⟨other, same, carried⟩ := inserted
    obtain rfl := Except.ok.inj (stores.symm.trans same)
    exact carried
  | inr refused =>
    obtain ⟨error, misfit, -⟩ := refused
    simp [misfit] at stores

/-- A user whose values do not pass their columns is not inserted, and the error is the one of
the first column that has refused. -/
theorem execute_insertUser_error (postgres : Postgres) {user : User} {error : String}
    (misfit : userRow user = .error error) :
    postgres.execute (.insertUser user) = (.error error, postgres) := by
  rw [execute_clean rfl]
  cases postgres.carryOut_insertUser user with
  | inl inserted =>
    obtain ⟨row, stores, -⟩ := inserted
    simp [misfit] at stores
  | inr refused =>
    obtain ⟨other, same, carried⟩ := refused
    obtain rfl := Except.error.inj (misfit.symm.trans same)
    exact carried

/-- The insertion of a session row is carried out when its values pass their columns. -/
theorem execute_insertSession_ok (postgres : Postgres) {row stored : SessionRow}
    (stores : sessionRow row = .ok stored) :
    postgres.execute (.insertSession row) =
      postgres.insertSession stored (sessionRow_clean stores) := by
  rw [execute_clean rfl]
  cases postgres.carryOut_insertSession row with
  | inl inserted =>
    obtain ⟨other, same, carried⟩ := inserted
    obtain rfl := Except.ok.inj (stores.symm.trans same)
    exact carried
  | inr refused =>
    obtain ⟨error, misfit, -⟩ := refused
    simp [misfit] at stores

/-- A session row whose values do not pass their columns is not inserted. The source drops
this error and the session goes without a backup. -/
theorem execute_insertSession_error (postgres : Postgres) {row : SessionRow} {error : String}
    (misfit : sessionRow row = .error error) :
    postgres.execute (.insertSession row) = (.error error, postgres) := by
  rw [execute_clean rfl]
  cases postgres.carryOut_insertSession row with
  | inl inserted =>
    obtain ⟨stored, stores, -⟩ := inserted
    simp [misfit] at stores
  | inr refused =>
    obtain ⟨other, same, carried⟩ := refused
    obtain rfl := Except.error.inj (misfit.symm.trans same)
    exact carried

/-- A user is found by its id exactly when the table holds it: an id in the table is a
text that the database takes as a parameter. -/
theorem selectUserById_eq_some {postgres : Postgres} {id : String} {user : User} :
    (postgres.execute (.selectUserById id)).1 = .ok (some user) ↔
      postgres.users.get? id = some user := by
  cases postgres.execute_cases (.selectUserById id) with
  | inl refused =>
    obtain ⟨nul, same⟩ := refused
    rw [same]
    constructor
    · intro impossible
      simp at impossible
    · intro found
      obtain ⟨stored, rfl⟩ := KeyedTable.get?_sound found
      have clean := (postgres.userTexts user stored).id
      exact absurd (clean.symm.trans nul) (by simp)
  | inr carried =>
    rw [carried.2]
    exact ⟨Except.ok.inj, congrArg Except.ok⟩

/-- A lookup by id finds nobody for an id that no user has: the row is missing, or the id
is no text that the database takes. -/
theorem selectUserById_missing {postgres : Postgres} {id : String}
    (missing : postgres.users.get? id = none) :
    (postgres.execute (.selectUserById id)).1 = .ok none ∨
      (postgres.execute (.selectUserById id)).1 = .error invalidByte := by
  cases postgres.execute_cases (.selectUserById id) with
  | inl refused => exact Or.inr (by rw [refused.2])
  | inr carried =>
    rw [carried.2]
    exact Or.inl (congrArg Except.ok missing)

/-- A lookup by name changes nothing, whether its parameter is taken or refused. -/
@[simp] theorem selectUserByUsername_store (postgres : Postgres) (username : String) :
    (postgres.execute (.selectUserByUsername username)).2 = postgres := by
  cases postgres.execute_store (.selectUserByUsername username) with
  | inl same => exact same
  | inr same => exact same

/-- A lookup by id changes nothing, whether its parameter is taken or refused. -/
@[simp] theorem selectUserById_store (postgres : Postgres) (id : String) :
    (postgres.execute (.selectUserById id)).2 = postgres := by
  cases postgres.execute_store (.selectUserById id) with
  | inl same => exact same
  | inr same => exact same

/-- A user is found by its name exactly when it is the row the table holds under it. -/
theorem selectUserByUsername_eq_some {postgres : Postgres} {username : String} {user : User} :
    (postgres.execute (.selectUserByUsername username)).1 = .ok (some user) ↔
      postgres.users.rows.find? (fun row => row.username = username) = some user := by
  cases postgres.execute_cases (.selectUserByUsername username) with
  | inl refused =>
    obtain ⟨nul, same⟩ := refused
    rw [same]
    constructor
    · intro impossible
      simp at impossible
    · intro found
      have named : user.username = username := by simpa using List.find?_some found
      have clean := (postgres.userTexts user (List.mem_of_find?_eq_some found)).username
      exact absurd ((named ▸ clean).symm.trans nul) (by simp)
  | inr carried =>
    rw [carried.2]
    exact ⟨Except.ok.inj, congrArg Except.ok⟩

/-- An insertion of a user appends it when its id, its name and its address are free, and
changes nothing otherwise. -/
theorem insertUser_cases (postgres : Postgres) (row : User) (clean : row.Clean) :
    (∃ id username email,
      (postgres.insertUser row clean).2 = postgres.appendUser row id username email clean) ∨
    (postgres.insertUser row clean).2 = postgres := by
  unfold insertUser
  split
  · rename_i id
    split
    · rename_i username
      split
      · rename_i email
        exact Or.inl ⟨id, username, email, rfl⟩
      · exact Or.inr rfl
    · exact Or.inr rfl
  · exact Or.inr rfl

/-- An insertion of a user puts it under a free id, or changes nothing. -/
theorem insertUser_users (postgres : Postgres) (row : User) (clean : row.Clean) :
    (postgres.users.get? row.id = none ∧
        ∀ id, (postgres.insertUser row clean).2.users.get? id =
          if row.id = id then some row else postgres.users.get? id) ∨
      (postgres.insertUser row clean).2 = postgres := by
  cases postgres.insertUser_cases row clean with
  | inl appended =>
    obtain ⟨free, username, email, same⟩ := appended
    refine Or.inl ⟨free, ?_⟩
    intro id
    have inserted : postgres.users.insert? row = some (postgres.users.insertFree row free) := by
      simp [KeyedTable.insert?, free]
    rw [same]
    exact KeyedTable.get?_insert inserted id
  | inr same => exact Or.inr same

/-- A session row never changes the users, whether its insertion puts it in, rewrites the row
of its token or is refused. -/
@[simp] theorem insertSession_users (postgres : Postgres) (row : SessionRow)
    (clean : holdsNul row.sessionToken = false) :
    (postgres.insertSession row clean).2.users = postgres.users := by
  unfold insertSession
  split
  · rfl
  · split <;> rfl

/-- Only an insertion of a user changes the users: the other statements read them, or write to
the table of sessions. -/
theorem execute_users (postgres : Postgres) {statement : Statement}
    (inserts : ∀ user, statement ≠ .insertUser user) :
    (postgres.execute statement).2.users = postgres.users := by
  cases postgres.execute_store statement with
  | inl same => rw [same]
  | inr same =>
    rw [same]
    cases statement with
    | insertUser user => exact absurd rfl (inserts user)
    | insertSession row =>
      rcases postgres.carryOut_insertSession row with ⟨stored, _, carried⟩ | ⟨error, -, carried⟩
      · rw [carried, insertSession_users]
      · rw [carried]
    | _ => rfl

/-- Users are never removed and never changed. A lookup by id that finds a user finds the same
one after any statement, also one that fails. -/
theorem execute_keeps_user {postgres : Postgres} {id : String} {user : User}
    (known : postgres.users.get? id = some user) (statement : Statement) :
    (postgres.execute statement).2.users.get? id = some user := by
  cases postgres.execute_store statement with
  | inl same => rw [same, known]
  | inr same =>
    rw [same]
    cases statement with
    | insertUser added =>
      rcases postgres.carryOut_insertUser added with ⟨row, stores, carried⟩ | ⟨error, -, carried⟩
      · rw [carried]
        rcases postgres.insertUser_users row (userRow_clean stores) with ⟨free, lookup⟩ | same
        · rw [lookup, if_neg, known]
          rintro rfl
          exact absurd known (by simp [free])
        · rw [same, known]
      · rw [carried, known]
    | insertSession row =>
      rcases postgres.carryOut_insertSession row with ⟨stored, _, carried⟩ | ⟨error, -, carried⟩
      · rw [carried, insertSession_users, known]
      · rw [carried, known]
    | _ => exact known

/-- The ids of users fit their column. The table starts with it, and an insertion passes the
id through the column. -/
def IdsFit (postgres : Postgres) : Prop := ∀ user ∈ postgres.users.rows, user.id.length ≤ 50

/-- An inserted user is added behind the others, or nothing changes because the id, the name
or the address is taken. -/
theorem insertUser_rows (postgres : Postgres) (row : User) (clean : row.Clean) :
    (postgres.insertUser row clean).2.users.rows = postgres.users.rows ++ [row] ∨
      (postgres.insertUser row clean).2 = postgres := by
  cases postgres.insertUser_cases row clean with
  | inl appended =>
    obtain ⟨free, username, email, same⟩ := appended
    rw [same]
    exact Or.inl rfl
  | inr same => exact Or.inr same

/-- Every statement keeps the ids in their column. Only an insertion of a user adds one, and
its row has passed the column. -/
theorem execute_idsFit {postgres : Postgres} (fit : postgres.IdsFit) (statement : Statement) :
    (postgres.execute statement).2.IdsFit := by
  cases postgres.execute_store statement with
  | inl same =>
    rw [same]
    exact fit
  | inr same =>
    rw [same]
    cases statement with
    | insertUser added =>
      rcases postgres.carryOut_insertUser added with ⟨row, stores, carried⟩ | ⟨error, -, carried⟩
      · rw [carried]
        cases postgres.insertUser_rows row (userRow_clean stores) with
        | inl rows =>
          intro user member
          rw [rows] at member
          cases List.mem_append.mp member with
          | inl member => exact fit user member
          | inr member =>
            obtain rfl := List.mem_singleton.mp member
            exact column_length (userRow_eq_ok.mp stores).1
        | inr same =>
          rw [same]
          exact fit
      · rw [carried]
        exact fit
    | insertSession row =>
      rcases postgres.carryOut_insertSession row with ⟨stored, _, carried⟩ | ⟨error, -, carried⟩
      · have users : (postgres.carryOut (.insertSession row)).2.users = postgres.users := by
          rw [carried, insertSession_users]
        intro user member
        exact fit user (users ▸ member)
      · rw [carried]
        exact fit
    | _ => exact fit

/-- A deletion removes the row of its token, and no other. When the token is refused as a
parameter no row has it, since the tokens in the table hold no U+0000. -/
theorem execute_deleteSession (postgres : Postgres) (token wanted : String) :
    (postgres.execute (.deleteSession token)).2.userSessions.get? wanted =
      if token = wanted then none else postgres.userSessions.get? wanted := by
  cases postgres.execute_cases (.deleteSession token) with
  | inl refused =>
    obtain ⟨nul, unchanged⟩ := refused
    rw [unchanged]
    by_cases same : token = wanted
    · subst same
      rw [if_pos rfl]
      cases found : postgres.userSessions.get? token with
      | none => rfl
      | some row =>
        obtain ⟨stored, rfl⟩ := KeyedTable.get?_sound found
        have clean := postgres.sessionTokens row stored
        exact absurd (clean.symm.trans nul) (by simp)
    · rw [if_neg same]
  | inr carried =>
    rw [carried.2]
    have kept := KeyedTable.get?_keep postgres.userSessions (fun row => row.sessionToken ≠ token)
      wanted
    apply kept.trans
    cases found : postgres.userSessions.get? wanted with
    | none => simp
    | some row =>
      obtain ⟨-, rfl⟩ := KeyedTable.get?_sound found
      by_cases same : token = row.sessionToken
      · simp [same]
      · simp [Option.filter, same, Ne.symm same]

/-- A row whose values fit and whose user exists is there after its insertion, unless
another row has its token. -/
theorem execute_insertSession (postgres : Postgres) (row : SessionRow)
    (fits : row.userId.length ≤ 50 ∧ row.sessionToken.length ≤ 255)
    (clean : holdsNul row.sessionToken = false)
    (known : (postgres.users.get? row.userId).isSome)
    (alone : ∀ other, postgres.userSessions.get? row.sessionToken = some other → other = row)
    (wanted : String) :
    (postgres.execute (.insertSession row)).2.userSessions.get? wanted =
      if row.sessionToken = wanted then some row else postgres.userSessions.get? wanted := by
  have stored : sessionRow row = .ok row :=
    sessionRow_eq_ok.mpr ⟨column_fits (userId_clean known) fits.1, column_fits clean fits.2, rfl⟩
  rw [execute_insertSession_ok postgres stored]
  unfold insertSession
  split
  · rename_i other found
    obtain rfl := alone other found
    refine (KeyedTable.get?_rewrite postgres.userSessions _ (fun stored => by split <;> rfl)
      wanted).trans ?_
    by_cases same : other.sessionToken = wanted
    · subst same
      rw [found, if_pos rfl, Option.map_some, if_pos rfl]
      rfl
    · rw [if_neg same]
      cases present : postgres.userSessions.get? wanted with
      | none => rfl
      | some stored =>
        obtain ⟨-, rfl⟩ := KeyedTable.get?_sound present
        rw [Option.map_some, if_neg (Ne.symm same)]
  · rw [dif_pos known]
    exact KeyedTable.get?_put postgres.userSessions row wanted

/-- The other statements leave the sessions alone. Three of the seven write to the table of
sessions, and the remaining ones are lookups and the insertion of a user. -/
theorem execute_userSessions (postgres : Postgres) {statement : Statement}
    (inserts : ∀ row, statement ≠ .insertSession row)
    (deletes : ∀ token, statement ≠ .deleteSession token)
    (keeps : ∀ userId, statement ≠ .deleteUserSessions userId) :
    (postgres.execute statement).2.userSessions = postgres.userSessions := by
  cases postgres.execute_store statement with
  | inl same => rw [same]
  | inr same =>
    rw [same]
    cases statement with
    | insertUser user =>
      rcases postgres.carryOut_insertUser user with ⟨row, stores, carried⟩ | ⟨error, -, carried⟩
      · rw [carried]
        cases postgres.insertUser_cases row (userRow_clean stores) with
        | inl appended =>
          obtain ⟨free, username, email, same⟩ := appended
          rw [same]
          rfl
        | inr same => rw [same]
      · rw [carried]
    | insertSession row => exact absurd rfl (inserts row)
    | deleteSession token => exact absurd rfl (deletes token)
    | deleteUserSessions userId => exact absurd rfl (keeps userId)
    | _ => rfl

end Postgres

end ShoppingCS.Auth
