import ShoppingCS.Interleaving.Runs
import ShoppingCS.Storage.KeyedTable

/-!
# The connection table of the authentication server

The server's goroutines share a map from ids to connections under a lock: the handler of
a connection registers and removes it, the cleanup closes idle ones, and `Close` closes
all and sets the map to nil. `main` accepts connections until the listener is closed by a
signal, and then calls `Close`. A connection is accepted before its goroutine runs, so it
may be registered at any later time, also in the map that is nil by then.
-/

namespace ShoppingCS.Auth.ConnectionTable

open Storage Interleaving

/-- What the goroutine of a connection does next: register, serve, close, nothing. -/
inductive Phase where
  | starting
  | serving
  | removed
  | finished
deriving DecidableEq

/-- An accepted connection, as its goroutine knows it: the id it has drawn, when a line was
last read, whether it has been closed, and how far the goroutine has come. -/
structure Connection where
  id : String
  lastSeen : Nat
  closed : Bool
  phase : Phase
deriving DecidableEq

/-- Where `main` is: in `Start`, behind it, and in `Close` when the context is cancelled,
when the map is nil and when the clients are closed. -/
inductive MainPhase where
  | accepting
  | returned
  | cancelled
  | emptied
  | ended
deriving DecidableEq

/-- The entries of the map: an id and the place of its connection. -/
abbrev Connections := KeyedTable (String × Nat) String Prod.fst

/-- `Server`, its goroutines, and whether one of them has assigned into a nil map. -/
structure Server where
  connections : Option Connections
  accepted : List Connection
  cancelled : Bool
  signalled : Bool
  listening : Bool
  sweeping : Bool
  main : MainPhase
  panicked : Bool

/-- What can happen next. A handler that leaves its loop does so for any reason. -/
inductive Move where
  | accept
  | acceptError
  | signal
  | closeListener
  | register (index : Nat) (connId : String) (now : Nat)
  | scan (index : Nat) (now : Nat)
  | remove (index : Nat)
  | finish (index : Nat)
  | sweep (now : Nat)
  | stopSweeping
  | cancel
  | empty
  | closeClients
deriving DecidableEq

/-- The server when `main` enters the accept loop: `NewServer` has made an empty map, and
nobody has connected yet. -/
def started : Server where
  connections := some .empty
  accepted := []
  cancelled := false
  signalled := false
  listening := true
  sweeping := true
  main := .accepting
  panicked := false

/-- `conn.Close()` for the connections at some places; the others, and the number of
connections, stay as they are. -/
def closeAt (places : List Nat) (accepted : List Connection) : List Connection :=
  accepted.mapIdx (fun index connection =>
    if index ∈ places then { connection with closed := true } else connection)

/-- `30*time.Minute` in seconds, after which `cleanupConnections` takes a connection for idle.
-/
def idleTime : Nat := 1800

/-- The connection of an entry has not been seen for thirty minutes. -/
def stale (accepted : List Connection) (now : Nat) (entry : String × Nat) : Bool :=
  match accepted[entry.2]? with
  | some connection => decide (connection.lastSeen + idleTime < now)
  | none => false

/-- `Accept` returns a connection and a goroutine is started for it, which has not locked the
mutex yet. After the listener is closed no connection comes. -/
def Server.accept (server : Server) : Server :=
  if server.main = .accepting ∧ server.listening = true then
    { server with accepted := server.accepted ++ [⟨"", 0, false, .starting⟩] }
  else server

/-- `Accept` fails: `Start` returns if the context is done, and closes its listener. -/
def Server.acceptError (server : Server) : Server :=
  if server.main = .accepting ∧ server.cancelled = true then
    { server with main := .returned, listening := false }
  else server

/-- The first critical section of `handleConnection`, in which the goroutine enters its
connection into the map. Assigning into a nil map panics, so this is where the server can die.
-/
def Server.register (server : Server) (index : Nat) (connId : String) (now : Nat) : Server :=
  match server.accepted[index]? with
  | some connection =>
    if connection.phase = .starting then
      match server.connections with
      | some connections =>
        { server with
          connections := some (connections.put (connId, index))
          accepted := server.accepted.set index
            { connection with id := connId, lastSeen := now, phase := .serving } }
      | none => { server with panicked := true }
    else server
  | none => server

/-- A line has been read, which moves the connection's last activity to now. Only a goroutine
in its loop reads lines. -/
def Server.scan (server : Server) (index : Nat) (now : Nat) : Server :=
  match server.accepted[index]? with
  | some connection =>
    if connection.phase = .serving then
      { server with accepted := server.accepted.set index { connection with lastSeen := now } }
    else server
  | none => server

/-- The critical section of the deferred function. A `delete` on a nil map does nothing. -/
def Server.remove (server : Server) (index : Nat) : Server :=
  match server.accepted[index]? with
  | some connection =>
    if connection.phase = .serving then
      { server with
        connections := server.connections.map (fun connections => connections.remove connection.id)
        accepted := server.accepted.set index { connection with phase := .removed } }
    else server
  | none => server

/-- The rest of the deferred function: the entry is gone, and the goroutine closes its
connection and returns. -/
def Server.finish (server : Server) (index : Nat) : Server :=
  match server.accepted[index]? with
  | some connection =>
    if connection.phase = .removed then
      { server with
        accepted := server.accepted.set index { connection with closed := true, phase := .finished } }
    else server
  | none => server

/-- A tick of `cleanupConnections`, which closes the idle connections of the map and deletes
their entries, all in one critical section. -/
def Server.sweep (server : Server) (now : Nat) : Server :=
  match server.sweeping, server.connections with
  | true, some connections =>
    { server with
      connections := some (connections.keep (fun entry => !stale server.accepted now entry))
      accepted := closeAt
        ((connections.rows.filter (stale server.accepted now)).map Prod.snd) server.accepted }
  | _, _ => server

/-- The critical section of `Close`, which closes every connection of the map and then sets
the map to nil. -/
def Server.empty (server : Server) : Server :=
  if server.main = .cancelled then
    { server with
      connections := none
      accepted := closeAt ((server.connections.map (fun connections =>
        connections.rows.map Prod.snd)).getD []) server.accepted
      main := .emptied }
  else server

/-- The first signal to arrive makes the goroutine of `main` call `s.cancel()`; a second one
finds nobody listening. -/
def Server.signal (server : Server) : Server :=
  if server.signalled then server else { server with signalled := true, cancelled := true }

/-- After the cancellation the same goroutine closes the listener, by which the accept loop
learns of the signal. -/
def Server.closeListener (server : Server) : Server :=
  if server.signalled then { server with listening := false } else server

/-- `cleanupConnections` returns once it finds the context cancelled, and ticks no more. -/
def Server.stopSweeping (server : Server) : Server :=
  if server.cancelled then { server with sweeping := false } else server

/-- `Close` begins when the accept loop has returned, with a cancellation of its own that
repeats the signal's. -/
def Server.cancel (server : Server) : Server :=
  if server.main = .returned then { server with main := .cancelled, cancelled := true } else server

/-- What `Close` does after its critical section, closing the clients of the stores; then
`main` ends and the process with it. -/
def Server.closeClients (server : Server) : Server :=
  if server.main = .emptied then { server with main := .ended } else server

/-- Each move as the source makes it. A move that cannot happen in a state changes nothing, so
every list of moves is a run. -/
def Server.act (server : Server) : Move → Server
  | .accept => server.accept
  | .acceptError => server.acceptError
  | .signal => server.signal
  | .closeListener => server.closeListener
  | .register index connId now => server.register index connId now
  | .scan index now => server.scan index now
  | .remove index => server.remove index
  | .finish index => server.finish index
  | .sweep now => server.sweep now
  | .stopSweeping => server.stopSweeping
  | .cancel => server.cancel
  | .empty => server.empty
  | .closeClients => server.closeClients

/-- One move of the server. A panic of one goroutine ends the process, so nothing happens
after it. -/
def Server.step (server : Server) (move : Move) : Server :=
  if server.panicked then server else server.act move

/-- What a step may do to a connection: it stays closed, it never starts again, and its
goroutine finishes only after closing it. -/
structure Connection.Advances (old new : Connection) : Prop where
  closed : old.closed = true → new.closed = true
  starting : new.phase = .starting → old.phase = .starting
  finished : new.phase = .finished → old.phase = .finished ∨ new.closed = true

namespace Connection.Advances

theorem refl (connection : Connection) : connection.Advances connection where
  closed := fun same => same
  starting := fun same => same
  finished := Or.inl

end Connection.Advances

/-- Every connection of a list is one of another list that has advanced. -/
def Advanced (before after : List Connection) : Prop :=
  ∀ new ∈ after, ∃ old ∈ before, old.Advances new

theorem Advanced.refl (accepted : List Connection) : Advanced accepted accepted :=
  fun new member => ⟨new, member, .refl new⟩

/-- Setting one connection to a state it advances to leaves all the others where they are. -/
theorem advanced_set {accepted : List Connection} {index : Nat} {old new : Connection}
    (there : accepted[index]? = some old) (advances : old.Advances new) :
    Advanced accepted (accepted.set index new) := by
  intro connection member
  cases List.mem_or_eq_of_mem_set member with
  | inl same => exact ⟨connection, same, .refl connection⟩
  | inr changed => exact ⟨old, List.mem_of_getElem? there, changed ▸ advances⟩

/-- Closing connections advances them, since their goroutines stay in the phase they are in.
-/
theorem advanced_closeAt (places : List Nat) (accepted : List Connection) :
    Advanced accepted (closeAt places accepted) := by
  intro connection member
  obtain ⟨index, inside, rfl⟩ := List.mem_mapIdx.mp member
  apply Exists.intro accepted[index]
  constructor
  · exact List.getElem_mem inside
  · split
    · exact ⟨fun _ => rfl, fun same => same, Or.inl⟩
    · exact .refl _

/-- A closed connection stays in its place, and its goroutine where it is. -/
theorem closeAt_getElem? (places : List Nat) {accepted : List Connection} {index : Nat}
    {connection : Connection} (there : accepted[index]? = some connection) :
    ∃ new, (closeAt places accepted)[index]? = some new ∧ new.phase = connection.phase := by
  rw [closeAt, List.getElem?_mapIdx, there, Option.map_some]
  apply Exists.intro _
  constructor
  · rfl
  · split <;> rfl

section Steps

variable (server : Server)

/-- A registration moves one goroutine from its start into its loop. -/
theorem accepted_register (index : Nat) (connId : String) (now : Nat) :
    Advanced server.accepted (server.register index connId now).accepted := by
  unfold Server.register
  split
  · rename_i connection there
    split
    · rename_i starting
      split
      · exact advanced_set there
          ⟨fun same => same, fun _ => starting, fun same => absurd same (by simp)⟩
      · exact .refl _
    · exact .refl _
  · exact .refl _

/-- A line changes the last activity of one connection in its loop, and no phase. -/
theorem accepted_scan (index now : Nat) :
    Advanced server.accepted (server.scan index now).accepted := by
  unfold Server.scan
  split
  · rename_i connection there
    split
    · exact advanced_set there ⟨fun same => same, fun same => same, Or.inl⟩
    · exact .refl _
  · exact .refl _

/-- The deferred function's removal moves one goroutine behind its loop. -/
theorem accepted_remove (index : Nat) :
    Advanced server.accepted (server.remove index).accepted := by
  unfold Server.remove
  split
  · rename_i connection there
    split
    · exact advanced_set there
        ⟨fun same => same, fun same => absurd same (by simp), fun same => absurd same (by simp)⟩
    · exact .refl _
  · exact .refl _

/-- The goroutine that finishes has just closed its connection, as an advance to the last
phase needs. -/
theorem accepted_finish (index : Nat) :
    Advanced server.accepted (server.finish index).accepted := by
  unfold Server.finish
  split
  · rename_i connection there
    split
    · exact advanced_set there
        ⟨fun _ => rfl, fun same => absurd same (by simp), fun _ => Or.inr rfl⟩
    · exact .refl _
  · exact .refl _

/-- A sweep closes some connections and moves no goroutine. -/
theorem accepted_sweep (now : Nat) : Advanced server.accepted (server.sweep now).accepted := by
  unfold Server.sweep
  split
  · exact advanced_closeAt _ _
  · exact .refl _

/-- The critical section of `Close` closes the connections of the map and moves no goroutine.
-/
theorem accepted_empty : Advanced server.accepted server.empty.accepted := by
  unfold Server.empty
  split
  · exact advanced_closeAt _ _
  · exact .refl _

/-- Among all moves only an acceptance makes the list of connections longer, by one whose
goroutine is starting. Under every other move the connections advance. -/
theorem accepted_act (move : Move) :
    Advanced server.accepted (server.act move).accepted ∨
      server.main = .accepting ∧
        (server.act move).accepted = server.accepted ++ [⟨"", 0, false, .starting⟩] := by
  have same : ∀ next : Server, next.accepted = server.accepted →
      Advanced server.accepted next.accepted := by
    intro next equal
    rw [equal]
    exact .refl _
  cases move with
  | accept =>
    by_cases ready : server.main = .accepting ∧ server.listening = true
    · exact Or.inr ⟨ready.1, by simp [Server.act, Server.accept, ready]⟩
    · exact Or.inl (same _ (by simp only [Server.act, Server.accept, if_neg ready]))
  | register index connId now => exact Or.inl (accepted_register server index connId now)
  | scan index now => exact Or.inl (accepted_scan server index now)
  | remove index => exact Or.inl (accepted_remove server index)
  | finish index => exact Or.inl (accepted_finish server index)
  | sweep now => exact Or.inl (accepted_sweep server now)
  | empty => exact Or.inl (accepted_empty server)
  | acceptError => exact Or.inl (same _ (by simp only [Server.act, Server.acceptError]; split <;> rfl))
  | signal => exact Or.inl (same _ (by simp only [Server.act, Server.signal]; split <;> rfl))
  | closeListener =>
    exact Or.inl (same _ (by simp only [Server.act, Server.closeListener]; split <;> rfl))
  | stopSweeping =>
    exact Or.inl (same _ (by simp only [Server.act, Server.stopSweeping]; split <;> rfl))
  | cancel => exact Or.inl (same _ (by simp only [Server.act, Server.cancel]; split <;> rfl))
  | closeClients =>
    exact Or.inl (same _ (by simp only [Server.act, Server.closeClients]; split <;> rfl))

end Steps

/-- The phases of `main` in which `Close` has left its critical section, so that the map is
nil. -/
def MainPhase.isPast : MainPhase → Bool
  | .emptied => true
  | .ended => true
  | _ => false

/-- A state in which the map, `Close` and the panic are as before. -/
structure Server.Agrees (server next : Server) : Prop where
  connections : next.connections.isNone = server.connections.isNone
  main : next.main.isPast = server.main.isPast
  panicked : next.panicked = server.panicked

/-- What a move does to the map, to `main` and to the panic flag. Either nothing that the
invariant looks at, or it is the critical section of `Close`, or a registration into the nil
map. -/
theorem act_cases (server : Server) (move : Move) :
    server.Agrees (server.act move) ∨
      (move = .empty ∧ server.main = .cancelled ∧ (server.act move).connections = none ∧
        (server.act move).main = .emptied ∧ (server.act move).panicked = server.panicked) ∨
      (∃ index connId now connection, move = .register index connId now ∧
        server.connections = none ∧ server.accepted[index]? = some connection ∧
        connection.phase = .starting) := by
  have kept : server.Agrees server := ⟨rfl, rfl, rfl⟩
  cases move with
  | empty =>
    simp only [Server.act, Server.empty]
    split
    · rename_i cancelled
      exact Or.inr (Or.inl ⟨trivial, cancelled, rfl, rfl, rfl⟩)
    · exact Or.inl kept
  | register index connId now =>
    simp only [Server.act, Server.register]
    split
    · rename_i connection there
      split
      · rename_i starting
        split
        · rename_i connections present
          exact Or.inl ⟨by rw [present]; rfl, rfl, rfl⟩
        · rename_i nil
          exact Or.inr (Or.inr ⟨index, connId, now, connection, rfl, nil, there, starting⟩)
      · exact Or.inl kept
    · exact Or.inl kept
  | accept =>
    left
    simp only [Server.act, Server.accept]
    split
    · exact ⟨rfl, rfl, rfl⟩
    · exact kept
  | acceptError =>
    left
    simp only [Server.act, Server.acceptError]
    split
    · rename_i failed
      exact ⟨rfl, by rw [failed.1]; rfl, rfl⟩
    · exact kept
  | signal =>
    left
    simp only [Server.act, Server.signal]
    split <;> exact ⟨rfl, rfl, rfl⟩
  | closeListener =>
    left
    simp only [Server.act, Server.closeListener]
    split <;> exact ⟨rfl, rfl, rfl⟩
  | scan index now =>
    left
    simp only [Server.act, Server.scan]
    split
    · split <;> exact ⟨rfl, rfl, rfl⟩
    · exact kept
  | remove index =>
    left
    simp only [Server.act, Server.remove]
    split
    · split
      · exact ⟨Option.isNone_map, rfl, rfl⟩
      · exact kept
    · exact kept
  | finish index =>
    left
    simp only [Server.act, Server.finish]
    split
    · split <;> exact ⟨rfl, rfl, rfl⟩
    · exact kept
  | sweep now =>
    left
    simp only [Server.act, Server.sweep]
    split
    · rename_i connections sweeping present
      exact ⟨by rw [present]; rfl, rfl, rfl⟩
    · exact kept
  | stopSweeping =>
    left
    simp only [Server.act, Server.stopSweeping]
    split <;> exact ⟨rfl, rfl, rfl⟩
  | cancel =>
    left
    simp only [Server.act, Server.cancel]
    split
    · rename_i returned
      exact ⟨rfl, by rw [returned]; rfl, rfl⟩
    · exact kept
  | closeClients =>
    left
    simp only [Server.act, Server.closeClients]
    split
    · rename_i emptied
      exact ⟨rfl, by rw [emptied]; rfl, rfl⟩
    · exact kept

/-- When `main` has left the accept loop and every goroutine has registered, none is at its
start again: connections only advance. -/
theorem registered_act {server : Server} (stopped : server.main ≠ .accepting)
    (registered : ∀ connection ∈ server.accepted, connection.phase ≠ .starting) (move : Move) :
    ∀ connection ∈ (server.act move).accepted, connection.phase ≠ .starting := by
  intro connection member starting
  cases accepted_act server move with
  | inl advanced =>
    obtain ⟨old, stored, advances⟩ := advanced connection member
    exact registered old stored (advances.starting starting)
  | inr accepts => exact stopped accepts.1

/-- A goroutine still at its start panics when it registers after `Close` has set the map to
nil. This is the one assignment that fails. -/
theorem register_panics {server : Server} {index : Nat} {connection : Connection}
    (there : server.accepted[index]? = some connection) (starting : connection.phase = .starting)
    (nil : server.connections = none) (connId : String) (now : Nat) :
    (server.register index connId now).panicked = true := by
  simp [Server.register, there, starting, nil]

/-- Every goroutine that has finished has closed its connection, as its deferred function
does. -/
def Server.ClosedBeforeFinish (server : Server) : Prop :=
  ∀ connection ∈ server.accepted, connection.phase = .finished → connection.closed = true

/-- No step breaks this, since the connections advance, and the advance to the last phase
closes. -/
theorem closedBeforeFinish_step (server : Server) (move : Move) (holds : server.ClosedBeforeFinish) :
    (server.step move).ClosedBeforeFinish := by
  unfold Server.step
  split
  · exact holds
  intro connection member finished
  cases accepted_act server move with
  | inl advanced =>
    obtain ⟨old, stored, advances⟩ := advanced connection member
    cases advances.finished finished with
    | inl before => exact advances.closed (holds old stored before)
    | inr closed => exact closed
  | inr accepts =>
    rw [accepts.2] at member
    cases List.mem_append.mp member with
    | inl stored => exact holds connection stored finished
    | inr new =>
      obtain rfl := List.mem_singleton.mp new
      exact absurd finished (by simp)

/-- When `Close` is in front of its critical section, every goroutine started for an
accepted connection has registered it. -/
def RegisteredBeforeClose (server : Server) (move : Move) : Prop :=
  move = .empty → server.main = .cancelled → server.panicked = false →
    ∀ connection ∈ server.accepted, connection.phase ≠ .starting

instance (server : Server) : DecidablePred (RegisteredBeforeClose server) :=
  fun _ => inferInstanceAs (Decidable (_ → _))

/-- The map is nil exactly behind the critical section of `Close`, then no goroutine is
left to register, and none has assigned into the nil map. -/
structure Server.Calm (server : Server) : Prop where
  nil : server.connections.isNone = server.main.isPast
  registered : server.connections = none →
    ∀ connection ∈ server.accepted, connection.phase ≠ .starting
  quiet : server.panicked = false

namespace Server.Calm

variable {server : Server}

/-- In a calm state the process is alive, so a step is the move itself. -/
theorem step_eq (calm : server.Calm) (move : Move) : server.step move = server.act move := by
  rw [Server.step, if_neg (by simp [calm.quiet])]

/-- In a calm state the next move does not panic, since with the map nil no goroutine is left
at its start. -/
theorem offers (calm : server.Calm) (move : Move) : (server.step move).panicked = false := by
  rw [calm.step_eq]
  obtain agrees | ⟨-, -, -, -, quiet⟩ | ⟨index, connId, now, connection, -, nil, there, starting⟩ :=
    act_cases server move
  · rw [agrees.panicked]
    exact calm.quiet
  · rw [quiet]
    exact calm.quiet
  · exact absurd starting (calm.registered nil connection (List.mem_of_getElem? there))

/-- Once the map is nil `main` is past its critical section, and the accept loop is over. -/
theorem stopped (calm : server.Calm) (nil : server.connections = none) :
    server.main ≠ .accepting := by
  intro accepting
  have same := calm.nil
  rw [nil, accepting] at same
  exact absurd same (by decide)

/-- A move under the condition leads from a calm state to a calm state. -/
theorem step (calm : server.Calm) {move : Move} (meets : RegisteredBeforeClose server move) :
    (server.step move).Calm := by
  have quiet := calm.offers move
  rw [calm.step_eq] at quiet ⊢
  obtain agrees | ⟨closes, cancelled, nil, emptied, -⟩ |
    ⟨index, connId, now, connection, -, nil, there, starting⟩ := act_cases server move
  · constructor
    · rw [agrees.connections, agrees.main]
      exact calm.nil
    · intro nil
      have before : server.connections = none := by
        rw [← Option.isNone_iff_eq_none, ← agrees.connections, nil]
        rfl
      exact registered_act (calm.stopped before) (calm.registered before) move
    · exact quiet
  · constructor
    · rw [nil, emptied]
      rfl
    · intro _
      exact registered_act (by simp [cancelled]) (meets closes cancelled calm.quiet) move
    · exact quiet
  · exact absurd starting (calm.registered nil connection (List.mem_of_getElem? there))

/-- When the critical section of `Close` comes while a goroutine has not registered, the
registration of that goroutine panics right behind it. So the condition is necessary as well.
-/
theorem broken (calm : server.Calm) {move : Move} (breaks : ¬ RegisteredBeforeClose server move) :
    ∃ next, ((server.step move).step next).panicked = true := by
  unfold RegisteredBeforeClose at breaks
  push Not at breaks
  obtain ⟨rfl, cancelled, quiet, connection, member, starting⟩ := breaks
  obtain ⟨index, there⟩ := List.mem_iff_getElem?.mp member
  have emptied : server.step .empty = { server with
      connections := none
      accepted := closeAt ((server.connections.map (fun connections =>
        connections.rows.map Prod.snd)).getD []) server.accepted
      main := .emptied } := by
    rw [calm.step_eq]
    exact if_pos cancelled
  rw [emptied]
  apply Exists.intro (.register index "" 0)
  rw [Server.step, if_neg (by simp [quiet])]
  obtain ⟨closed, stays, same⟩ := closeAt_getElem? ((server.connections.map (fun connections =>
    connections.rows.map Prod.snd)).getD []) there
  exact register_panics stays (same.trans starting) rfl "" 0

end Server.Calm

/-- The server as it is started is calm: nobody has connected, and the map is there. -/
theorem started_calm : started.Calm := ⟨rfl, by simp [started], rfl⟩

/-- `Close` has returned and the goroutines of all accepted connections have finished, which
is when connections must be closed. -/
def Server.Finished (server : Server) : Prop :=
  server.main = .ended ∧ ∀ connection ∈ server.accepted, connection.phase = .finished

/-- No move that can be made in the state assigns into the nil map, and once everything
has finished, every accepted connection has been closed. -/
def Server.Sound (server : Server) : Prop :=
  (∀ next, (server.step next).panicked = false) ∧
    (server.Finished → ∀ connection ∈ server.accepted, connection.closed = true)

/-- The property holds in every state of a run from the start, that is, after each of its
prefixes. -/
def SoundAlong (moves : List Move) : Prop :=
  ∀ before, before <+: moves → (Runs.run Server.step started before).Sound

/-- From a calm state, where no move panics in any state of a run, its moves meet the
condition. -/
theorem Server.Calm.along {server : Server} (calm : server.Calm) {moves : List Move}
    (quiet : ∀ before, before <+: moves → ∀ next,
      ((Runs.run Server.step server before).step next).panicked = false) :
    Runs.Along Server.step RegisteredBeforeClose server moves := by
  induction moves generalizing server with
  | nil => trivial
  | cons move moves inductionHypothesis =>
    have meets : RegisteredBeforeClose server move := by
      by_contra breaks
      obtain ⟨next, panics⟩ := calm.broken breaks
      have calmly := quiet [move] ⟨moves, rfl⟩ next
      exact Bool.false_ne_true (calmly.symm.trans panics)
    constructor
    · exact meets
    · apply inductionHypothesis (calm.step meets)
      intro before inside
      exact quiet (move :: before) (List.cons_prefix_cons.mpr ⟨rfl, inside⟩)

/-- All states of a run are sound exactly when `Close` enters its critical section only with
every accepted connection registered. One direction is the invariant of the run, the other the
registration that panics behind the first move that breaks the condition. -/
theorem shutdown_sound_iff (moves : List Move) :
    SoundAlong moves ↔ Runs.Along Server.step RegisteredBeforeClose started moves := by
  constructor
  · intro sound
    apply started_calm.along
    intro before inside
    exact (sound before inside).1
  · intro along before inside
    obtain ⟨later, rfl⟩ := inside
    have calm := Runs.run_invariant Server.Calm (fun _ _ calm meets => calm.step meets) started
      before started_calm ((Runs.along_append _ _ _ before later).mp along).1
    have closed := Runs.run_always Server.ClosedBeforeFinish closedBeforeFinish_step started before
      (fun connection member => absurd member (by simp [started]))
    constructor
    · exact calm.offers
    · intro finished connection member
      exact closed connection member (finished.2 connection member)

/-- A connection is accepted, a signal ends the accept loop, and `Close` empties the
table before the goroutine of the connection has run. -/
def lateRegistration : List Move :=
  [.accept, .signal, .closeListener, .acceptError, .cancel, .empty]

/-- The goroutine whose connection was accepted last then assigns into the nil map, and the
process dies with its connection open. -/
theorem late_registration_panics :
    (Runs.run Server.step started (lateRegistration ++ [.register 0 "c1" 0])).panicked = true ∧
      ¬ SoundAlong lateRegistration := by
  have panics : (Runs.run Server.step started
      (lateRegistration ++ [.register 0 "c1" 0])).panicked = true := by decide
  constructor
  · exact panics
  · intro sound
    have quiet := (sound lateRegistration List.prefix_rfl).1 (.register 0 "c1" 0)
    exact absurd quiet (by decide)

end ShoppingCS.Auth.ConnectionTable
