import Mathlib.Data.List.Induction
import ShoppingCS.Auth.ConnectionTable

/-!
# The connections that are swept

The cleanup looks at the table, so what it closes depends on the table having every
connection that is being served. It has exactly those that are still open, as long as no
two connections get one id. After a tick no open connection has been idle for longer than
thirty minutes, and until the shutdown no other connection is closed by the server.

A goroutine reads the clock before it enters the critical section. A tick may come in
between, but not one that is thirty minutes later.
-/

namespace ShoppingCS.Auth.ConnectionTable

open Storage Interleaving

/-- The id that a move brings into the table. Only a registration brings one. -/
def Move.connId? : Move → Option String
  | .register _ connId _ => some connId
  | _ => none

/-- The time at which a move has seen its connection. -/
def Move.seen? : Move → Option Nat
  | .register _ _ now => some now
  | .scan _ now => some now
  | _ => none

/-- The instant of a move that is a tick of the cleanup, by the clock of the server. -/
def Move.tick? : Move → Option Nat
  | .sweep now => some now
  | _ => none

/-- The ids that moves bring, in their order. The result is about runs in which no id comes
twice. -/
def connIds (moves : List Move) : List String := moves.filterMap Move.connId?

/-- A tick is no later than thirty minutes after what is seen behind it. -/
def Timely (earlier later : Move) : Prop :=
  ∀ tick ∈ earlier.tick?, ∀ seen ∈ later.seen?, tick ≤ seen + idleTime

instance : DecidableRel Timely := fun earlier later =>
  inferInstanceAs (Decidable (∀ tick ∈ earlier.tick?, ∀ seen ∈ later.seen?, tick ≤ seen + idleTime))

/-- The id of a connection while it is served, and whether it has been closed. -/
def Connection.served (connection : Connection) : Option (String × Bool) :=
  if connection.phase = .serving then some (connection.id, connection.closed) else none

/-- The same of the connection at a place in the order of acceptance, which an entry of the
table points to. -/
def Server.served (server : Server) (index : Nat) : Option (String × Bool) :=
  server.accepted[index]?.bind Connection.served

/-- No connection is closed before its goroutine has registered it, because it is in no table
before. -/
def Server.Waiting (server : Server) : Prop :=
  ∀ connection ∈ server.accepted, connection.phase = .starting → connection.closed = false

/-- The table has exactly the open connections that are served, and all that are served have
ids of their own, from among some ids. -/
structure Server.Tabled (server : Server) (used : List String) : Prop where
  entries : ∀ table, server.connections = some table → ∀ id index,
    (id, index) ∈ table.rows ↔ server.served index = some (id, false)
  emptied : server.connections = none → ∀ id index, server.served index ≠ some (id, false)
  named : ∀ id index closed, server.served index = some (id, closed) → id ∈ used
  apart : ∀ id first second one other, server.served first = some (id, one) →
    server.served second = some (id, other) → first = second
  waiting : server.Waiting

section Served

variable {server next : Server} {used : List String}

/-- When one connection is replaced in its place, what is served there is what the new one
says, and elsewhere as before. -/
theorem served_set {index : Nat} {old new : Connection} (there : server.accepted[index]? = some old)
    (changed : next.accepted = server.accepted.set index new) (place : Nat) :
    next.served place = if place = index then new.served else server.served place := by
  obtain ⟨inside, -⟩ := List.getElem?_eq_some_iff.mp there
  rw [Server.served, changed]
  by_cases same : place = index
  · rw [same, List.getElem?_set_self inside, if_pos rfl, Option.bind_some]
  · rw [List.getElem?_set_ne (Ne.symm same), if_neg same, Server.served]

/-- Replacing a connection by one that is served alike changes nothing for the table. -/
theorem served_set_alike {index : Nat} {old new : Connection}
    (there : server.accepted[index]? = some old)
    (changed : next.accepted = server.accepted.set index new) (alike : new.served = old.served) :
    next.served = server.served := by
  funext place
  rw [served_set there changed]
  by_cases same : place = index
  · rw [if_pos same, alike, same, Server.served, there, Option.bind_some]
  · rw [if_neg same]

/-- Closing connections at some places changes what is served only in the flag that says
closed. -/
theorem served_closeAt {places : List Nat} (changed : next.accepted = closeAt places server.accepted)
    (place : Nat) : next.served place =
      (server.served place).map (fun entry => (entry.1, entry.2 || decide (place ∈ places))) := by
  rw [Server.served, changed, closeAt, List.getElem?_mapIdx, Server.served]
  cases present : server.accepted[place]? with
  | none => rfl
  | some connection =>
    rw [Option.map_some, Option.bind_some, Option.bind_some]
    by_cases among : place ∈ places <;> simp [Connection.served, among]

/-- Replacing a connection by one that runs leaves nobody waiting who has been closed. -/
theorem waiting_set {index : Nat} {new : Connection} (waiting : server.Waiting)
    (changed : next.accepted = server.accepted.set index new) (runs : new.phase ≠ .starting) :
    next.Waiting := by
  intro connection member starting
  rw [changed] at member
  cases List.mem_or_eq_of_mem_set member with
  | inl earlier => exact waiting connection earlier starting
  | inr same => exact absurd (same ▸ starting) runs

/-- What is served is not waiting, so closing connections of the table closes none that waits.
-/
theorem waiting_closeAt {places : List Nat} (waiting : server.Waiting)
    (changed : next.accepted = closeAt places server.accepted)
    (inside : ∀ place ∈ places, (server.served place).isSome) : next.Waiting := by
  intro connection member starting
  rw [changed] at member
  obtain ⟨index, present, same⟩ := List.mem_mapIdx.mp member
  have there : server.accepted[index] ∈ server.accepted := List.getElem_mem present
  by_cases among : index ∈ places
  · rw [if_pos among] at same
    have served := inside index among
    rw [Server.served, List.getElem?_eq_getElem present, Option.bind_some, Connection.served] at served
    split_ifs at served with serving
    · rw [← same] at starting
      exact absurd (serving.symm.trans starting) (by decide)
    · exact absurd served (by simp)
  · rw [if_neg among] at same
    exact same ▸ waiting _ there (same ▸ starting)

/-- A move that leaves the table and what is served as they were keeps the invariant. -/
theorem Server.Tabled.alike (tabled : server.Tabled used)
    (connections : next.connections = server.connections) (served : next.served = server.served)
    (waiting : next.Waiting) : next.Tabled used where
  entries := by
    rw [connections, served]
    exact tabled.entries
  emptied := by
    rw [connections, served]
    exact tabled.emptied
  named := by
    rw [served]
    exact tabled.named
  apart := by
    rw [served]
    exact tabled.apart
  waiting := waiting

/-- The invariant may speak of more ids than have been used, since it only says that those in
the table are among them. -/
theorem Server.Tabled.mono {more : List String} (tabled : server.Tabled used)
    (subset : ∀ id ∈ used, id ∈ more) : server.Tabled more where
  entries := tabled.entries
  emptied := tabled.emptied
  named := fun id index closed found => subset id (tabled.named id index closed found)
  apart := tabled.apart
  waiting := tabled.waiting

/-- An entry is in the table exactly when its id leads to it, as keys are unique there. -/
theorem mem_rows {table : Connections} {id : String} {index : Nat} :
    (id, index) ∈ table.rows ↔ table.get? id = some (id, index) := by
  rw [KeyedTable.get?_eq_some]
  simp

/-- A connection comes into the table under a new id. -/
theorem Server.Tabled.enter (tabled : server.Tabled used) {table : Connections} {index : Nat}
    {connId : String} (present : server.connections = some table) (fresh : connId ∉ used)
    (vacant : server.served index = none)
    (connections : next.connections = some (table.put (connId, index)))
    (served : ∀ place, next.served place =
      if place = index then some (connId, false) else server.served place)
    (waiting : next.Waiting) : next.Tabled (used ++ [connId]) where
  entries := by
    intro after same id place
    obtain rfl := Option.some.inj (same.symm.trans connections)
    have entries := tabled.entries table present id place
    rw [mem_rows, KeyedTable.get?_put, served]
    by_cases own : connId = id
    · subst own
      by_cases here : place = index
      · simp [here]
      · have unknown : server.served place ≠ some (connId, false) :=
          fun found => fresh (tabled.named _ _ _ found)
        simp [Ne.symm here, here, unknown]
    · rw [mem_rows] at entries
      by_cases here : place = index
      · subst here
        rw [if_neg own, entries, vacant, if_pos rfl]
        simp [own]
      · rw [if_neg own, entries, if_neg here]
  emptied := fun none => absurd (none.symm.trans connections) (by simp)
  named := by
    intro id place closed found
    rw [served] at found
    split_ifs at found
    · obtain ⟨rfl, -⟩ := Prod.mk.inj (Option.some.inj found)
      exact List.mem_append_right _ (List.mem_singleton_self _)
    · exact List.mem_append_left _ (tabled.named id place closed found)
  apart := by
    have alone : ∀ place closed, server.served place ≠ some (connId, closed) :=
      fun place closed found => fresh (tabled.named _ _ _ found)
    intro id first second one other here there
    rw [served] at here there
    split_ifs at here there with same again
    · exact same.trans again.symm
    · obtain ⟨rfl, -⟩ := Prod.mk.inj (Option.some.inj here)
      exact absurd there (alone second other)
    · obtain ⟨rfl, -⟩ := Prod.mk.inj (Option.some.inj there)
      exact absurd here (alone first one)
    · exact tabled.apart id first second one other here there
  waiting := waiting

/-- A connection that has been served is taken out under its id. -/
theorem Server.Tabled.leave (tabled : server.Tabled used) {index : Nat} {connId : String}
    {closed : Bool} (own : server.served index = some (connId, closed))
    (connections : next.connections = server.connections.map (fun table => table.remove connId))
    (served : ∀ place, next.served place = if place = index then none else server.served place)
    (waiting : next.Waiting) : next.Tabled used where
  entries := by
    intro after same id place
    rw [connections] at same
    obtain ⟨table, present, rfl⟩ := Option.map_eq_some_iff.mp same
    have entries := tabled.entries table present id place
    rw [mem_rows, KeyedTable.get?_remove, served]
    by_cases named : connId = id
    · subst named
      have gone : place ≠ index → server.served place ≠ some (connId, false) :=
        fun different found => different (tabled.apart _ _ _ _ _ found own)
      by_cases here : place = index <;> simp [here, gone]
    · rw [if_neg named, ← mem_rows, entries]
      by_cases here : place = index
      · subst here
        simp [own, named]
      · rw [if_neg here]
  emptied := by
    intro none id place found
    rw [served] at found
    split_ifs at found
    exact tabled.emptied (Option.map_eq_none_iff.mp (connections.symm.trans none)) id place found
  named := by
    intro id place closed found
    rw [served] at found
    split_ifs at found
    exact tabled.named id place closed found
  apart := by
    intro id first second one other here there
    rw [served] at here there
    split_ifs at here there
    exact tabled.apart id first second one other here there
  waiting := waiting

/-- Connections are closed, and none that is still open has been taken out. -/
theorem Server.Tabled.close (tabled : server.Tabled used) {places : List Nat}
    (accepted : next.accepted = closeAt places server.accepted)
    (kept : ∀ after, next.connections = some after → ∃ table, server.connections = some table ∧
      ∀ id index, (id, index) ∈ after.rows ↔ (id, index) ∈ table.rows ∧ index ∉ places)
    (emptied : next.connections = none → ∀ id index, server.served index = some (id, false) →
      index ∈ places)
    (inside : ∀ place ∈ places, (server.served place).isSome) : next.Tabled used := by
  have served := served_closeAt accepted
  have before {id : String} {index : Nat} {closed : Bool}
      (found : next.served index = some (id, closed)) :
      ∃ last, server.served index = some (id, last) ∧
        closed = (last || decide (index ∈ places)) := by
    rw [served] at found
    obtain ⟨⟨named, last⟩, there, same⟩ := Option.map_eq_some_iff.mp found
    obtain ⟨rfl, rfl⟩ := Prod.mk.inj same
    exact ⟨last, there, rfl⟩
  have still (id : String) (index : Nat) : next.served index = some (id, false) ↔
      server.served index = some (id, false) ∧ index ∉ places := by
    constructor
    · intro found
      obtain ⟨last, there, same⟩ := before found
      obtain ⟨rfl, spared⟩ := Bool.or_eq_false_iff.mp same.symm
      exact ⟨there, by simpa using spared⟩
    · intro found
      rw [served, found.1]
      simp [found.2]
  constructor
  · intro after same id index
    obtain ⟨table, present, rows⟩ := kept after same
    rw [rows, tabled.entries table present, still]
  · intro none id index found
    obtain ⟨there, spared⟩ := (still id index).mp found
    exact spared (emptied none id index there)
  · intro id index closed found
    obtain ⟨last, there, -⟩ := before found
    exact tabled.named id index last there
  · intro id first second one other here there
    obtain ⟨_, here, -⟩ := before here
    obtain ⟨_, there, -⟩ := before there
    exact tabled.apart id first second _ _ here there
  · exact waiting_closeAt tabled.waiting accepted inside

/-- A place in the table is that of a connection whose goroutine has registered and not
finished. -/
theorem Server.Tabled.inside (tabled : server.Tabled used) {table : Connections}
    (present : server.connections = some table) {entry : String × Nat} (member : entry ∈ table.rows) :
    (server.served entry.2).isSome := by
  rw [(tabled.entries table present entry.1 entry.2).mp member]
  rfl

/-- A tick keeps the entries of the connections it has not closed. -/
theorem Server.Tabled.sweep (tabled : server.Tabled used) (now : Nat) :
    (server.sweep now).Tabled used := by
  unfold Server.sweep
  split
  · rename_i table sweeping present
    apply tabled.close rfl
    · intro after same
      obtain rfl := Option.some.inj same
      refine ⟨table, present, fun id index => ?_⟩
      change (id, index) ∈ table.rows.filter _ ↔ _
      rw [List.mem_filter, and_congr_right_iff]
      intro member
      rw [List.mem_map]
      constructor
      · rintro fresh ⟨⟨other, place⟩, stays, same⟩
        obtain rfl : place = index := same
        have old : stale server.accepted now (other, place) = true := (List.mem_filter.mp stays).2
        have young : (!stale server.accepted now (id, place)) = true := fresh
        rw [stale] at old young
        simp [old] at young
      · intro spared
        by_contra old
        exact spared ⟨(id, index), List.mem_filter.mpr ⟨member, by simpa using old⟩, rfl⟩
    · exact fun none => absurd none (by simp)
    · intro place among
      obtain ⟨entry, stays, rfl⟩ := List.mem_map.mp among
      exact tabled.inside present (List.mem_filter.mp stays).1
  · exact tabled

/-- `Close` closes everything in the table and removes it, so that no entry is left to be
wrong. -/
theorem Server.Tabled.empty (tabled : server.Tabled used) : server.empty.Tabled used := by
  unfold Server.empty
  split
  · apply tabled.close rfl
    · exact fun after same => absurd same (by simp)
    · intro _ id index found
      cases present : server.connections with
      | none => exact absurd found (tabled.emptied present id index)
      | some table =>
        have member := (tabled.entries table present id index).mpr found
        exact List.mem_map_of_mem member
    · intro place among
      cases present : server.connections with
      | none => exact absurd among (by simp [present])
      | some table =>
        rw [present] at among
        obtain ⟨entry, stays, rfl⟩ := List.mem_map.mp among
        exact tabled.inside present stays
  · exact tabled

/-- A registration enters its id, which is fresh, and takes its connection from waiting to
being served. -/
theorem Server.Tabled.register (tabled : server.Tabled used) (index now : Nat) {connId : String}
    (fresh : connId ∉ used) : (server.register index connId now).Tabled (used ++ [connId]) := by
  have wider : server.Tabled (used ++ [connId]) :=
    tabled.mono (fun _ member => List.mem_append_left _ member)
  unfold Server.register
  split
  · rename_i connection there
    split
    · rename_i starting
      split
      · rename_i table present
        apply tabled.enter present fresh
        · rw [Server.served, there, Option.bind_some, Connection.served, starting]
          rfl
        · rfl
        · intro place
          apply (served_set there rfl place).trans
          simp [Connection.served, tabled.waiting _ (List.mem_of_getElem? there) starting]
        · exact waiting_set tabled.waiting rfl (by simp)
      · exact wider.alike rfl rfl tabled.waiting
    · exact wider
  · exact wider

/-- A connection that is accepted waits, and is in no table yet. -/
theorem Server.Tabled.accept (tabled : server.Tabled used) : server.accept.Tabled used := by
  unfold Server.accept
  split
  · apply tabled.alike
    · rfl
    · funext place
      rw [Server.served, Server.served, List.getElem?_append]
      split
      · rfl
      · rename_i outside
        rw [List.getElem?_eq_none (Nat.le_of_not_lt outside), Option.bind_none]
        cases place - server.accepted.length <;> rfl
    · intro connection member starting
      cases List.mem_append.mp member with
      | inl earlier => exact tabled.waiting connection earlier starting
      | inr new => rw [List.mem_singleton.mp new]
  · exact tabled

/-- A line that is read changes the last activity of a connection and nothing the table says.
-/
theorem Server.Tabled.scan (tabled : server.Tabled used) (index now : Nat) :
    (server.scan index now).Tabled used := by
  unfold Server.scan
  split
  · rename_i connection there
    split
    · rename_i serving
      apply tabled.alike
      · rfl
      · exact served_set_alike there rfl rfl
      · exact waiting_set tabled.waiting rfl (by simp [serving])
    · exact tabled
  · exact tabled

/-- A handler that has left its loop deletes its entry, under its id, in one critical section.
-/
theorem Server.Tabled.remove (tabled : server.Tabled used) (index : Nat) :
    (server.remove index).Tabled used := by
  unfold Server.remove
  split
  · rename_i connection there
    split
    · rename_i serving
      have own : server.served index = some (connection.id, connection.closed) := by
        rw [Server.served, there, Option.bind_some, Connection.served, if_pos serving]
      apply tabled.leave own
      · rfl
      · exact fun place => (served_set there rfl place).trans rfl
      · exact waiting_set tabled.waiting rfl (by simp)
    · exact tabled
  · exact tabled

/-- A goroutine ends with its connection closed; the table has forgotten the connection
before. -/
theorem Server.Tabled.finish (tabled : server.Tabled used) (index : Nat) :
    (server.finish index).Tabled used := by
  unfold Server.finish
  split
  · rename_i connection there
    split
    · rename_i removed
      apply tabled.alike
      · rfl
      · apply served_set_alike there rfl
        rw [Connection.served, Connection.served, removed]
        rfl
      · exact waiting_set tabled.waiting rfl (by simp)
    · exact tabled
  · exact tabled

/-- Every move keeps the table exact, if it brings no id that is used. -/
theorem Server.Tabled.step (tabled : server.Tabled used) (move : Move)
    (fresh : ∀ id ∈ move.connId?, id ∉ used) :
    (server.step move).Tabled (used ++ connIds [move]) := by
  have wider (next : Server) (kept : next.Tabled used) : next.Tabled (used ++ connIds [move]) :=
    kept.mono (fun _ member => List.mem_append_left _ member)
  unfold Server.step
  split
  · exact wider server tabled
  · cases move with
    | register index connId now => exact tabled.register index now (fresh connId rfl)
    | accept => exact wider _ tabled.accept
    | scan index now => exact wider _ (tabled.scan index now)
    | remove index => exact wider _ (tabled.remove index)
    | finish index => exact wider _ (tabled.finish index)
    | sweep now => exact wider _ (tabled.sweep now)
    | empty => exact wider _ tabled.empty
    | _ =>
      apply wider
      simp only [Server.act, Server.acceptError, Server.signal, Server.closeListener,
        Server.stopSweeping, Server.cancel, Server.closeClients]
      split <;> exact tabled.alike rfl rfl tabled.waiting

/-- So the table is exact in every run in which no id comes twice. -/
theorem run_tabled {moves : List Move} (unique : (connIds moves).Nodup) :
    (Runs.run Server.step started moves).Tabled (connIds moves) := by
  induction moves using List.reverseRecOn with
  | nil =>
    constructor
    · intro table same id index
      obtain rfl := Option.some.inj same
      simp [Runs.run, started, KeyedTable.empty, Server.served]
    · exact fun none => absurd none (by simp [Runs.run, started])
    · exact fun id index closed found => absurd found (by simp [Runs.run, started, Server.served])
    · exact fun id first second one other here _ =>
        absurd here (by simp [Runs.run, started, Server.served])
    · exact fun connection member => absurd member (by simp [Runs.run, started])
  | append_singleton moves move inductionHypothesis =>
    have split : connIds (moves ++ [move]) = connIds moves ++ connIds [move] :=
      List.filterMap_append
    rw [split] at unique ⊢
    obtain ⟨earlier, -, apart⟩ := List.nodup_append.mp unique
    rw [Runs.run_append]
    apply (inductionHypothesis earlier).step move
    intro id named used
    exact apart id used id (List.mem_filterMap.mpr ⟨move, List.mem_singleton_self move, named⟩) rfl

end Served

/-- No open connection has been idle for thirty minutes at a tick. -/
def Server.SeenSince (server : Server) (tick : Nat) : Prop :=
  ∀ connection ∈ server.accepted, connection.phase = .serving → connection.closed = false →
    tick ≤ connection.lastSeen + idleTime

section Ticks

variable {server : Server} {used : List String} {tick : Nat}

/-- A tick closes what has been idle for longer than the limit. What is still open and served
has been heard since. -/
theorem Server.Tabled.seenSince (tabled : server.Tabled used) (sweeping : server.sweeping = true)
    (tick : Nat) : (server.sweep tick).SeenSince tick := by
  have open_served {index : Nat} {connection : Connection}
      (there : server.accepted[index]? = some connection) (serving : connection.phase = .serving)
      (unclosed : connection.closed = false) : server.served index = some (connection.id, false) := by
    rw [Server.served, there, Option.bind_some, Connection.served, if_pos serving, unclosed]
  intro connection member serving unclosed
  unfold Server.sweep at member
  split at member
  · rename_i table _ present
    obtain ⟨index, inside, same⟩ := List.mem_mapIdx.mp member
    have there := List.getElem?_eq_getElem inside
    split_ifs at same with among
    · exact absurd unclosed (by simp [← same])
    · subst same
      have entry := (tabled.entries table present _ index).mpr (open_served there serving unclosed)
      by_contra idle
      apply among
      refine List.mem_map.mpr ⟨_, List.mem_filter.mpr ⟨entry, ?_⟩, rfl⟩
      rw [stale]
      simp only [there, decide_eq_true_eq]
      omega
  · rename_i missing
    cases present : server.connections with
    | some table => exact absurd present (missing table sweeping)
    | none =>
      obtain ⟨index, there⟩ := List.mem_iff_getElem?.mp member
      exact absurd (open_served there serving unclosed) (tabled.emptied present _ index)

/-- A connection in the place of one that was seen, or seen in time. -/
theorem Server.SeenSince.set (since : server.SeenSince tick) {next : Server} {index : Nat}
    {new : Connection} (changed : next.accepted = server.accepted.set index new)
    (seen : new.phase = .serving → new.closed = false → tick ≤ new.lastSeen + idleTime) :
    next.SeenSince tick := by
  intro connection member serving unclosed
  rw [changed] at member
  cases List.mem_or_eq_of_mem_set member with
  | inl earlier => exact since connection earlier serving unclosed
  | inr same => exact same ▸ seen (same ▸ serving) (same ▸ unclosed)

/-- Closing more connections cannot make one of the open ones idle. -/
theorem Server.SeenSince.close (since : server.SeenSince tick) {next : Server} {places : List Nat}
    (changed : next.accepted = closeAt places server.accepted) : next.SeenSince tick := by
  intro connection member serving unclosed
  rw [changed] at member
  obtain ⟨index, inside, same⟩ := List.mem_mapIdx.mp member
  split_ifs at same
  · exact absurd unclosed (by simp [← same])
  · exact since connection (same ▸ List.getElem_mem inside) serving unclosed

/-- A move that sees its connection in time keeps it so. -/
theorem Server.SeenSince.step (since : server.SeenSince tick) (move : Move)
    (timely : ∀ seen ∈ move.seen?, tick ≤ seen + idleTime) : (server.step move).SeenSince tick := by
  unfold Server.step
  split
  · exact since
  · cases move with
    | accept =>
      simp only [Server.act, Server.accept]
      split
      · intro connection member serving unclosed
        cases List.mem_append.mp member with
        | inl earlier => exact since connection earlier serving unclosed
        | inr new => exact absurd serving (by simp [List.mem_singleton.mp new])
      · exact since
    | register index connId now =>
      simp only [Server.act, Server.register]
      split
      · split
        · split
          · exact since.set rfl (fun _ _ => timely now rfl)
          · exact since
        · exact since
      · exact since
    | scan index now =>
      simp only [Server.act, Server.scan]
      split
      · split
        · exact since.set rfl (fun _ _ => timely now rfl)
        · exact since
      · exact since
    | remove index =>
      simp only [Server.act, Server.remove]
      split
      · split
        · exact since.set rfl (fun serving => absurd serving (by simp))
        · exact since
      · exact since
    | finish index =>
      simp only [Server.act, Server.finish]
      split
      · split
        · exact since.set rfl (fun serving => absurd serving (by simp))
        · exact since
      · exact since
    | sweep now =>
      simp only [Server.act, Server.sweep]
      split
      · exact since.close rfl
      · exact since
    | empty =>
      simp only [Server.act, Server.empty]
      split
      · exact since.close rfl
      · exact since
    | _ =>
      simp only [Server.act, Server.acceptError, Server.signal, Server.closeListener,
        Server.stopSweeping, Server.cancel, Server.closeClients]
      split <;> exact since

/-- Only an idle connection is closed, except by the shutdown and by its own goroutine. -/
theorem closed_step {move : Move} {index : Nat} {old new : Connection}
    (before : server.accepted[index]? = some old) (unclosed : old.closed = false)
    (after : (server.step move).accepted[index]? = some new) (closed : new.closed = true) :
    (∃ tick, move = .sweep tick ∧ old.lastSeen + idleTime < tick) ∨ move = .empty ∨
      move = .finish index := by
  have kept (same : server.accepted[index]? = some new) : False := by
    obtain rfl := Option.some.inj (before.symm.trans same)
    exact absurd closed (by simp [unclosed])
  have replaced {other : Nat} {connection changed : Connection}
      (there : server.accepted[other]? = some connection)
      (found : (server.accepted.set other changed)[index]? = some new)
      (same : changed.closed = connection.closed) : False := by
    by_cases own : other = index
    · subst own
      obtain rfl := Option.some.inj (there.symm.trans before)
      rw [List.getElem?_set_self (List.getElem?_eq_some_iff.mp there).1] at found
      obtain rfl := Option.some.inj found
      exact absurd closed (by simp [same, unclosed])
    · rw [List.getElem?_set_ne own] at found
      exact kept found
  unfold Server.step at after
  split at after
  · exact (kept after).elim
  · cases move with
    | empty => exact Or.inr (Or.inl rfl)
    | finish other =>
      by_cases own : other = index
      · exact Or.inr (Or.inr (own ▸ rfl))
      · simp only [Server.act, Server.finish] at after
        split at after
        · split at after
          · rw [List.getElem?_set_ne own] at after
            exact (kept after).elim
          · exact (kept after).elim
        · exact (kept after).elim
    | sweep tick =>
      left
      simp only [Server.act, Server.sweep] at after
      split at after
      · refine ⟨tick, rfl, ?_⟩
        simp only [closeAt, List.getElem?_mapIdx, before, Option.map_some, Option.some.injEq] at after
        split_ifs at after with among
        · obtain ⟨⟨id, place⟩, stays, rfl⟩ := List.mem_map.mp among
          have old := (List.mem_filter.mp stays).2
          simpa [stale, before] using old
        · exact absurd closed (by simp [← after, unclosed])
      · exact (kept after).elim
    | accept =>
      simp only [Server.act, Server.accept] at after
      split at after
      · rw [List.getElem?_append_left (List.getElem?_eq_some_iff.mp before).1] at after
        exact (kept after).elim
      · exact (kept after).elim
    | register other connId now =>
      simp only [Server.act, Server.register] at after
      split at after
      · rename_i connection there
        split at after
        · split at after
          · exact (replaced there after rfl).elim
          · exact (kept after).elim
        · exact (kept after).elim
      · exact (kept after).elim
    | scan other now =>
      simp only [Server.act, Server.scan] at after
      split at after
      · rename_i connection there
        split at after
        · exact (replaced there after rfl).elim
        · exact (kept after).elim
      · exact (kept after).elim
    | remove other =>
      simp only [Server.act, Server.remove] at after
      split at after
      · rename_i connection there
        split at after
        · exact (replaced there after rfl).elim
        · exact (kept after).elim
      · exact (kept after).elim
    | _ =>
      simp only [Server.act, Server.acceptError, Server.signal, Server.closeListener,
        Server.stopSweeping, Server.cancel, Server.closeClients] at after
      split at after <;> exact (kept after).elim

/-- After a tick, moves that see their connections in time keep the rest seen. -/
theorem run_seenSince (since : server.SeenSince tick) {moves : List Move}
    (timely : ∀ move ∈ moves, ∀ seen ∈ move.seen?, tick ≤ seen + idleTime) :
    (Runs.run Server.step server moves).SeenSince tick := by
  induction moves generalizing server with
  | nil => exact since
  | cons move moves inductionHypothesis =>
    obtain ⟨first, later⟩ := List.forall_mem_cons.mp timely
    exact inductionHypothesis (since.step move first) later

/-- A panic is never over, as no move happens after it. -/
theorem panicked_run (panicked : server.panicked = true) (moves : List Move) :
    (Runs.run Server.step server moves).panicked = true := by
  apply Runs.run_always (fun current => current.panicked = true) _ server moves panicked
  intro current move stopped
  rw [Server.step, if_pos stopped]
  exact stopped

end Ticks

/-- In every run in which no id comes twice and no goroutine is thirty minutes late, the
table has exactly the open connections that are served; at every tick of the cleanup, and
from then on, no such connection has been idle for thirty minutes; and the server
closes a connection only when it has been, in `Close`, or at the end of its goroutine. -/
theorem idle_connections_swept (moves : List Move) (unique : (connIds moves).Nodup)
    (timely : moves.Pairwise Timely) :
    let server := Runs.run Server.step started moves
    (∀ table, server.connections = some table → ∀ id index,
        (id, index) ∈ table.rows ↔ server.served index = some (id, false)) ∧
      (∀ before tick after, moves = before ++ .sweep tick :: after → server.panicked = false →
        (Runs.run Server.step started before).sweeping = true → server.SeenSince tick) ∧
      ∀ before move after, moves = before ++ move :: after → ∀ (index : Nat) old new,
        (Runs.run Server.step started before).accepted[index]? = some old → old.closed = false →
          (Runs.run Server.step started (before ++ [move])).accepted[index]? = some new →
            new.closed = true →
              (∃ tick, move = .sweep tick ∧ old.lastSeen + idleTime < tick) ∨ move = .empty ∨
                move = .finish index := by
  intro server
  refine ⟨(run_tabled unique).entries, ?_, ?_⟩
  · intro before tick after split running sweeping
    subst split
    have earlier : (connIds before).Nodup := by
      rw [connIds, List.filterMap_append] at unique
      exact (List.nodup_append.mp unique).1
    have swept := (run_tabled earlier).seenSince sweeping tick
    have calm : (Runs.run Server.step started before).panicked = false := by
      by_contra panicked
      have still := panicked_run (by simpa using panicked) (.sweep tick :: after)
      rw [← Runs.run_append] at still
      exact absurd (still.symm.trans running) (by simp)
    have stepped : (Runs.run Server.step started before).step (.sweep tick) =
        (Runs.run Server.step started before).sweep tick := by
      rw [Server.step, calm]
      rfl
    have behind : ∀ move ∈ after, ∀ seen ∈ move.seen?, tick ≤ seen + idleTime := by
      intro move member seen found
      have later := (List.pairwise_append.mp timely).2.1
      exact (List.pairwise_cons.mp later).1 move member tick rfl seen found
    change (Runs.run Server.step started (before ++ .sweep tick :: after)).SeenSince tick
    rw [Runs.run_append]
    have since : ((Runs.run Server.step started before).step (.sweep tick)).SeenSince tick :=
      stepped ▸ swept
    exact run_seenSince since behind
  · intro before move after split index old new there unclosed later closed
    rw [Runs.run_append] at later
    exact closed_step there unclosed later closed

/-- Of two connections one is silent for more than half an hour. -/
def silentClient : List Move :=
  [.accept, .accept, .register 0 "c1" 0, .register 1 "c2" 0, .scan 0 1500, .sweep 2000, .scan 0 2100]

/-- The tick has closed it, and not the other one. -/
theorem silent_client_swept :
    (Runs.run Server.step started silentClient).SeenSince 2000 ∧
      (Runs.run Server.step started silentClient).served 0 = some ("c1", false) ∧
      (Runs.run Server.step started silentClient).served 1 = some ("c2", true) := by
  have swept := idle_connections_swept silentClient (by decide) (by decide)
  exact ⟨swept.2.1 (silentClient.take 5) 2000 [.scan 0 2100] rfl (by decide) (by decide),
    by decide, by decide⟩

end ShoppingCS.Auth.ConnectionTable
