import ShoppingCS.Auth.Commands

/-!
# The lists of sessions

Redis keeps a set of tokens for every user. The commands of the server put
nothing else under these keys, so adding a token never meets a value of the wrong
kind.
-/

namespace ShoppingCS.Auth

open Interleaving Program Storage

/-- Every key of a user's list holds a list. The keys are formed by one function only, and no
string is ever stored under one of them. -/
def Listed (redis : Redis) : Prop :=
  ∀ userId entry, redis.table.get? (.userSessions userId) = some entry →
    ∃ tokens, entry.value = .members tokens

/-- The command stores no string under the key of a list. All other commands on such a key are
set commands or deletions. -/
def Command.KeepsLists (command : Command) : Prop :=
  ∀ userId text expiration, command ≠ .redis (.set (.userSessions userId) text expiration)

/-- Such a command to Redis leaves lists where lists were. The case that matters is the key of
the list itself, where only `SADD`, `SREM`, `EXPIRE` and a deletion are left. -/
theorem execute_listed {redis : Redis} (listed : Listed redis) {command : RedisCommand}
    (keeps : (Command.redis command).KeepsLists) :
    Listed (redis.execute command).2 := by
  intro userId entry found
  by_cases about : command.key = .userSessions userId
  · have put (tokens : List String) (deadline : Option Int)
        (same : (redis.put (.userSessions userId) (.members tokens) deadline).table.get?
          (.userSessions userId) = some entry) : ∃ tokens, entry.value = .members tokens := by
      rw [Redis.get?_put, if_pos rfl] at same
      exact ⟨tokens, by rw [← Option.some.inj same]⟩
    have removed (gone : (redis.remove (.userSessions userId)).table.get?
        (.userSessions userId) = some entry) : ∃ tokens, entry.value = .members tokens := by
      rw [Redis.get?_remove, if_pos rfl] at gone
      simp at gone
    cases command with
    | set key text expiration =>
      obtain rfl : key = .userSessions userId := about
      exact absurd rfl (keeps userId text expiration)
    | get key =>
      rw [Redis.execute_get] at found
      exact listed userId entry found
    | delete key =>
      obtain rfl : key = .userSessions userId := about
      exact removed found
    | sAdd key member =>
      obtain rfl : key = .userSessions userId := about
      rw [Redis.execute] at found
      split at found
      · exact put _ _ found
      · exact listed userId entry found
      · exact put _ _ found
    | sMembers key =>
      rw [Redis.execute] at found
      split at found <;> exact listed userId entry found
    | sRem key member =>
      obtain rfl : key = .userSessions userId := about
      rw [Redis.execute] at found
      split at found
      · exact listed userId entry found
      · exact listed userId entry found
      · split at found
        · exact removed found
        · exact put _ _ found
    | expire key expiration =>
      obtain rfl : key = .userSessions userId := about
      rw [Redis.execute] at found
      split at found
      · exact listed userId entry found
      · rename_i old present
        split at found
        · obtain ⟨tokens, value⟩ := listed userId old (ExpiringTable.find?_eq_some.mp present).1
          rw [value] at found
          exact put _ _ found
        · exact removed found
  · rw [Redis.execute_other _ _ about] at found
    exact listed userId entry found

/-- A list can be written: `SADD` fails on a string only, and there is none under the key of a
list. -/
theorem execute_sAdd_listed {redis : Redis} (listed : Listed redis) (userId token : String) :
    (redis.execute (.sAdd (.userSessions userId) token)).1 = .ok () := by
  rw [Redis.execute]
  split
  · rfl
  · rename_i key text deadline present
    obtain ⟨tokens, value⟩ := listed userId _ (ExpiringTable.find?_eq_some.mp present).1
    simp at value
  · rfl

/-- So does every other command, since commands to PostgreSQL and readings of the clock do not
touch Redis at all. -/
theorem perform_listed (bcrypt : Bcrypt) {command : Command} (keeps : command.KeepsLists)
    (choice : Choice) {store : Store} (listed : Listed store.redis) :
    Listed (perform bcrypt command choice store).2.redis := by
  have waited : Listed (store.wait choice).redis := listed
  cases command with
  | redis command =>
    cases failing : choice.failure with
    | some error => simpa only [perform, failing] using waited
    | none => simpa only [perform, failing] using execute_listed waited keeps
  | postgres statement =>
    cases failing : choice.failure <;> simpa only [perform, failing] using waited
  | _ => exact waited

namespace Redis

/-- The tokens Redis finds in the list of a user; none, when there is no list or it has
elapsed. -/
def membersOf (redis : Redis) (userId : String) : List String :=
  match redis.find? (.userSessions userId) with
  | some ⟨_, .members tokens, _⟩ => tokens
  | _ => []

/-- A member is in the list that is found, so there is an entry that is live and holds it. -/
theorem mem_membersOf {redis : Redis} {userId token : String}
    (member : token ∈ redis.membersOf userId) :
    ∃ list tokens, redis.find? (.userSessions userId) = some list ∧
      list.value = .members tokens ∧ token ∈ tokens := by
  unfold membersOf at member
  split at member
  · rename_i key tokens deadline found
    exact ⟨_, tokens, found, rfl, member⟩
  · simp at member

/-- Where keys of lists hold lists, reading one returns its members. A missing list is read as
an empty one. -/
theorem execute_sMembers_listed {redis : Redis} (listed : Listed redis) (userId : String) :
    (redis.execute (.sMembers (.userSessions userId))).1 = .ok (redis.membersOf userId) := by
  unfold membersOf
  rw [execute]
  cases found : redis.find? (.userSessions userId) with
  | none => rfl
  | some list =>
    obtain ⟨tokens, value⟩ := listed userId list (ExpiringTable.find?_eq_some.mp found).1
    obtain ⟨key, _, deadline⟩ := list
    obtain rfl := value
    rfl

/-- The content after a command of any kind, when the command works; only commands to Redis
change it. -/
def advance (redis : Redis) : Command → Redis
  | .redis command => (redis.execute command).2
  | _ => redis

/-- A command takes no time of its own: time passes before a command, and is chosen with it.
-/
@[simp] theorem advance_clock (redis : Redis) (command : Command) :
    (redis.advance command).clock = redis.clock := by
  cases command with
  | redis command => exact execute_clock redis command
  | _ => rfl

/-- So it does not change the time in milliseconds either, which is the one that deadlines are
compared with. -/
@[simp] theorem advance_now (redis : Redis) (command : Command) :
    (redis.advance command).now = redis.now := by
  simp [now]

/-- An entry is found as long as it is live, which is the rule of the table at the time of
this Redis. -/
theorem find?_eq_some {redis : Redis} {key : Key} {entry : Entry Key Value} :
    redis.find? key = some entry ↔ redis.table.get? key = some entry ∧ entry.LiveAt redis.now :=
  ExpiringTable.find?_eq_some

/-- The list of a user is found with a token in it, and has a deadline or none. -/
def ListsUntil (redis : Redis) (userId token : String) (deadline : Option Int) : Prop :=
  ∃ tokens, redis.find? (.userSessions userId) =
    some ⟨.userSessions userId, .members tokens, deadline⟩ ∧ token ∈ tokens

/-- The token is one of the members then, which is what a reader of the list gets to see. -/
theorem ListsUntil.mem {redis : Redis} {userId token : String} {deadline : Option Int}
    (lists : redis.ListsUntil userId token deadline) : token ∈ redis.membersOf userId := by
  obtain ⟨tokens, found, inside⟩ := lists
  simpa [membersOf, found] using inside

/-- The deadline of a list after a command: an `EXPIRE` of this list sets it anew, and
everything else leaves it. -/
def renewal (redis : Redis) (userId : String) (deadline : Option Int) : Command → Option Int
  | .redis (.expire (.userSessions other) seconds) =>
    if other = userId then some (redis.now + seconds * 1000) else deadline
  | _ => deadline

/-- A token stays listed unless it is removed or its list is deleted, and a renewal
gives the list a new deadline. -/
theorem ListsUntil.advance {redis : Redis} {userId token : String} {deadline : Option Int}
    (lists : redis.ListsUntil userId token deadline) {command : Command} (keeps : command.KeepsLists)
    (unlisted : command ≠ .redis (.sRem (.userSessions userId) token))
    (cleared : command ≠ .redis (.delete (.userSessions userId)))
    (positive : ∀ seconds, command = .redis (.expire (.userSessions userId) seconds) → 0 < seconds) :
    (redis.advance command).ListsUntil userId token (redis.renewal userId deadline command) := by
  obtain ⟨tokens, found, inside⟩ := lists
  obtain ⟨present, live⟩ := find?_eq_some.mp found
  have put (tokens' : List String) (until' : Option Int) (member : token ∈ tokens')
      (lasts : ∀ instant ∈ until', redis.now ≤ instant) :
      (redis.put (.userSessions userId) (.members tokens') until').ListsUntil userId token until' :=
    ⟨tokens', find?_eq_some.mpr ⟨by rw [get?_put, if_pos rfl], lasts⟩, member⟩
  cases command with
  | redis command =>
    by_cases about : command.key = .userSessions userId
    · cases command with
      | set key text expiration =>
        obtain rfl : key = .userSessions userId := about
        exact absurd rfl (keeps userId text expiration)
      | get key =>
        rw [Redis.advance, execute_get]
        exact ⟨tokens, found, inside⟩
      | delete key =>
        obtain rfl : key = .userSessions userId := about
        exact absurd rfl cleared
      | sAdd key member =>
        obtain rfl : key = .userSessions userId := about
        simp only [Redis.advance, execute, found, renewal]
        exact put _ _ (by split <;> simp [inside]) live
      | sMembers key =>
        obtain rfl : key = .userSessions userId := about
        rw [Redis.advance, execute, found]
        exact ⟨tokens, found, inside⟩
      | sRem key member =>
        obtain rfl : key = .userSessions userId := about
        have other : token ≠ member := fun equal => unlisted (by rw [equal])
        have remains : token ∈ tokens.filter (fun listed => listed ≠ member) := by
          simp [inside, other]
        simp only [Redis.advance, execute, found, renewal]
        split
        · rename_i none
          rw [none] at remains
          simp at remains
        · exact put _ _ remains live
      | expire key seconds =>
        obtain rfl : key = .userSessions userId := about
        have more := positive seconds rfl
        simp only [Redis.advance, execute, found, more, if_true, deadlineOf, renewal]
        apply put _ _ inside
        intro instant held
        obtain rfl := Option.some.inj held
        omega
    · have same : redis.renewal userId deadline (.redis command) = deadline := by
        cases command with
        | expire key seconds =>
          cases key with
          | userSessions other =>
            have different : other ≠ userId := fun equal => about (by rw [← equal]; rfl)
            simp [renewal, different]
          | _ => rfl
        | _ => rfl
      rw [same]
      refine ⟨tokens, find?_eq_some.mpr ⟨?_, by rwa [advance_now]⟩, inside⟩
      rw [Redis.advance, execute_other _ _ about, present]
  | _ => exact ⟨tokens, found, inside⟩

/-- An added token is listed. The list keeps its deadline if there was one, and a new one has
none until it is renewed. -/
theorem listsUntil_sAdd {redis : Redis} (listed : Listed redis) (userId token : String) :
    ∃ deadline, (redis.advance (.redis (.sAdd (.userSessions userId) token))).ListsUntil userId token
      deadline := by
  cases found : redis.find? (.userSessions userId) with
  | none =>
    simp only [advance, execute, found]
    exact ⟨none, [token],
      find?_eq_some.mpr ⟨by rw [get?_put, if_pos rfl], by simp [Entry.LiveAt]⟩, by simp⟩
  | some list =>
    obtain ⟨present, live⟩ := find?_eq_some.mp found
    obtain ⟨tokens, value⟩ := listed userId list present
    obtain ⟨key, _, deadline⟩ := list
    obtain rfl := value
    simp only [advance, execute, found]
    exact ⟨deadline, _, find?_eq_some.mpr ⟨by rw [get?_put, if_pos rfl], live⟩,
      by split <;> simp [*]⟩

/-- A listed token was listed before, or has just been added; no other command puts a member
into a list. -/
theorem advance_member_from {redis : Redis} {userId token : String} {later : Entry Key Value}
    {tokens : List String} {command : Command} (keeps : command.KeepsLists)
    (present : (redis.advance command).table.get? (.userSessions userId) = some later)
    (value : later.value = .members tokens) (inside : token ∈ tokens) :
    (∃ list earlier, redis.table.get? (.userSessions userId) = some list ∧
        list.value = .members earlier ∧ token ∈ earlier) ∨
      command = .redis (.sAdd (.userSessions userId) token) := by
  have unchanged (same : redis.table.get? (.userSessions userId) = some later) :
      ∃ list earlier, redis.table.get? (.userSessions userId) = some list ∧
        list.value = .members earlier ∧ token ∈ earlier := ⟨later, tokens, same, value, inside⟩
  have put {tokens' : List String} {deadline : Option Int}
      (same : (redis.put (.userSessions userId) (.members tokens') deadline).table.get?
        (.userSessions userId) = some later) : token ∈ tokens' := by
    rw [get?_put, if_pos rfl] at same
    obtain rfl := Option.some.inj same
    obtain rfl := Value.members.inj value
    exact inside
  cases command with
  | redis command =>
    by_cases about : command.key = .userSessions userId
    · cases command with
      | set key text expiration =>
        obtain rfl : key = .userSessions userId := about
        exact absurd rfl (keeps userId text expiration)
      | get key =>
        rw [advance, execute_get] at present
        exact Or.inl (unchanged present)
      | delete key =>
        obtain rfl : key = .userSessions userId := about
        rw [advance, execute, get?_remove, if_pos rfl] at present
        simp at present
      | sAdd key member =>
        obtain rfl : key = .userSessions userId := about
        rw [advance, execute] at present
        split at present
        · obtain rfl := List.mem_singleton.mp (put present)
          exact Or.inr rfl
        · exact Or.inl (unchanged present)
        · rename_i old earlier deadline found
          have inserted := put present
          split at inserted
          · exact Or.inl ⟨_, earlier, (find?_eq_some.mp found).1, rfl, inserted⟩
          · cases List.mem_append.mp inserted with
            | inl before => exact Or.inl ⟨_, earlier, (find?_eq_some.mp found).1, rfl, before⟩
            | inr now =>
              obtain rfl := List.mem_singleton.mp now
              exact Or.inr rfl
      | sMembers key =>
        rw [advance, execute] at present
        split at present <;> exact Or.inl (unchanged present)
      | sRem key member =>
        obtain rfl : key = .userSessions userId := about
        rw [advance, execute] at present
        split at present
        · exact Or.inl (unchanged present)
        · exact Or.inl (unchanged present)
        · rename_i old earlier deadline found
          split at present
          · rw [get?_remove, if_pos rfl] at present
            simp at present
          · have kept := put present
            exact Or.inl ⟨_, earlier, (find?_eq_some.mp found).1, rfl, (List.mem_filter.mp kept).1⟩
      | expire key seconds =>
        obtain rfl : key = .userSessions userId := about
        rw [advance, execute] at present
        split at present
        · exact Or.inl (unchanged present)
        · rename_i old found
          split at present
          · rw [get?_put, if_pos rfl] at present
            obtain rfl := Option.some.inj present
            exact Or.inl ⟨old, tokens, (find?_eq_some.mp found).1, value, inside⟩
          · rw [get?_remove, if_pos rfl] at present
            simp at present
    · rw [advance, execute_other _ _ about] at present
      exact Or.inl (unchanged present)
  | _ => exact Or.inl (unchanged present)

end Redis

/-- A working command brings Redis forward: time passes on its clock, and then the command is
executed. -/
theorem perform_advance (bcrypt : Bcrypt) (command : Command) {choice : Choice}
    (works : choice.failure = none) (store : Store) :
    (perform bcrypt command choice store).2.redis = (store.wait choice).redis.advance command := by
  cases command <;> simp [perform, works, Redis.advance]

end ShoppingCS.Auth
