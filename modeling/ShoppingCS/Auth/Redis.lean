import Mathlib.Data.Int.Basic
import ShoppingCS.Storage.ExpiringTable

/-!
# The Redis content of the authentication server

The wire commands of the Redis client, over the keys and values the server uses.
A key is one of three kinds of text, told apart by their first letters. A string
value is kept as far as reading it as a session distinguishes it; the server
reads no string in any other way.

Redis keeps time in milliseconds of its own clock and answers a read of an
expired key as if it were absent.
-/

namespace ShoppingCS.Auth

open Storage

/-- The zero `time.Time`, the first instant of the year 1. A session that is decoded from a
text without instants gets it for both of its own. -/
def zeroTime : Int := -62135596800000000000

/-- `models.Session`. Instants are in nanoseconds since 1970, as a Go `time.Time` has them;
the encoding to JSON keeps all of them. -/
structure Session where
  token : String
  userId : String
  username : String
  email : String
  expiresAt : Int
  createdAt : Int
deriving DecidableEq

/-- The keys the server forms: of a session, of the list of a user's sessions, and of a
connection that has logged in. -/
inductive Key where
  | session (token : String)
  | userSessions (userId : String)
  | connection (connId : String)
deriving DecidableEq

/-- The texts of the keys. The server tells the three kinds apart by their prefixes only. -/
def Key.render : Key → String
  | .session token => "session:" ++ token
  | .userSessions userId => "user_sessions:" ++ userId
  | .connection connId => "connection:" ++ connId

/-- Different keys have different texts, since no prefix is the beginning of another one. So
the keys can be used in place of their texts. -/
theorem Key.render_injective {first second : Key} (same : first.render = second.render) :
    first = second := by
  have letters := congrArg String.toList same
  cases first <;> cases second <;> simp [Key.render, String.toList_append] at letters ⊢ <;>
    exact String.toList_inj.mp letters

/-- A string value. A malformed one is not a JSON text of a session; the error is
what `json.Unmarshal` reports. -/
inductive Text where
  | session (session : Session)
  | connection (userId token : String)
  | malformed (error : String)
deriving DecidableEq

/-- `json.Unmarshal` into a session. Fields that are missing stay zero, so the text of a
connection is decoded to a session without a name and with zero instants. -/
def Text.decode : Text → Except String Session
  | .session stored => .ok stored
  | .connection userId token =>
    .ok { token := token, userId := userId, username := "", email := ""
          expiresAt := zeroTime, createdAt := zeroTime }
  | .malformed error => .error error

/-- A Redis value: a string, or the members of a set. Hashes and the other kinds of values are
never stored. -/
inductive Value where
  | string (text : Text)
  | members (tokens : List String)
deriving DecidableEq

/-- The commands of the client. Expirations are in whole seconds, into which the client cuts
the durations it is given. -/
inductive RedisCommand where
  | set (key : Key) (text : Text) (expiration : Int)
  | get (key : Key)
  | delete (key : Key)
  | sAdd (key : Key) (member : String)
  | sMembers (key : Key)
  | sRem (key : Key) (member : String)
  | expire (key : Key) (expiration : Int)
deriving DecidableEq

/-- What a successful command returns, as far as the server looks at it: a string that may be
missing, the members of a set, or nothing. -/
@[reducible] def RedisCommand.Reply : RedisCommand → Type
  | .set _ _ _ => Unit
  | .get _ => Option Text
  | .delete _ => Unit
  | .sAdd _ _ => Unit
  | .sMembers _ => List String
  | .sRem _ _ => Unit
  | .expire _ _ => Unit

/-- The content of Redis and its clock, which is Redis's own and not that of the server. -/
structure Redis where
  table : ExpiringTable Key Value
  clock : Int

namespace Redis

/-- The clock in milliseconds, which is the unit of the deadlines of entries. -/
def now (redis : Redis) : Int := redis.clock / 1000000

/-- The entry a command finds under a key: one whose deadline has passed is not found, whether
or not Redis has removed it yet. -/
def find? (redis : Redis) (key : Key) : Option (Entry Key Value) :=
  redis.table.find? redis.now key

/-- The same clock with another content, which is all that a command can change. -/
def withTable (redis : Redis) (table : ExpiringTable Key Value) : Redis :=
  { redis with table := table }

/-- Store a value with or without a deadline, in place of whatever was under the key. -/
def put (redis : Redis) (key : Key) (value : Value) (deadline : Option Int) : Redis :=
  redis.withTable (redis.table.put { key := key, value := value, deadline := deadline })

/-- Remove a key. It makes no difference whether there was an entry under it. -/
def remove (redis : Redis) (key : Key) : Redis := redis.withTable (redis.table.remove key)

/-- Time passes, by an amount that the environment chooses. Nothing is removed by it; entries
that are too old are just not found any more. -/
def wait (redis : Redis) (elapsed : Nat) : Redis := { redis with clock := redis.clock + elapsed }

/-- The error of a command on a value of the other kind, a string in place of a set or a set
in place of a string. -/
def wrongType : String := "WRONGTYPE Operation against a key holding the wrong kind of value"

/-- The deadline of an expiration that starts now. The client sends none with
`SET` when the duration is not positive. -/
def deadlineOf (redis : Redis) (expiration : Int) : Option Int :=
  if 0 < expiration then some (redis.now + expiration * 1000) else none

/-- Execute one command. Expired entries count as missing, `SADD` keeps the deadline of a set
that is there, and a set without members is removed. -/
def execute (redis : Redis) : (command : RedisCommand) → Except String command.Reply × Redis
  | .set key text expiration =>
    (.ok (), redis.put key (.string text) (redis.deadlineOf expiration))
  | .get key =>
    match redis.find? key with
    | none => (.ok none, redis)
    | some ⟨_, .string text, _⟩ => (.ok (some text), redis)
    | some ⟨_, .members _, _⟩ => (.error wrongType, redis)
  | .delete key => (.ok (), redis.remove key)
  | .sAdd key member =>
    match redis.find? key with
    | none => (.ok (), redis.put key (.members [member]) none)
    | some ⟨_, .string _, _⟩ => (.error wrongType, redis)
    | some ⟨_, .members tokens, deadline⟩ =>
      (.ok (), redis.put key (.members (if member ∈ tokens then tokens else tokens ++ [member]))
        deadline)
  | .sMembers key =>
    match redis.find? key with
    | none => (.ok [], redis)
    | some ⟨_, .string _, _⟩ => (.error wrongType, redis)
    | some ⟨_, .members tokens, _⟩ => (.ok tokens, redis)
  | .sRem key member =>
    match redis.find? key with
    | none => (.ok (), redis)
    | some ⟨_, .string _, _⟩ => (.error wrongType, redis)
    | some ⟨_, .members tokens, deadline⟩ =>
      match tokens.filter (· ≠ member) with
      | [] => (.ok (), redis.remove key)
      | rest => (.ok (), redis.put key (.members rest) deadline)
  | .expire key expiration =>
    match redis.find? key with
    | none => (.ok (), redis)
    | some entry =>
      if 0 < expiration then (.ok (), redis.put key entry.value (redis.deadlineOf expiration))
      else (.ok (), redis.remove key)

end Redis

end ShoppingCS.Auth
