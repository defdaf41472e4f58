import ShoppingCS.Interleaving.Sequencing
import ShoppingCS.Auth.ConnectionKeys

/-!
# A connection is its lines

A connection remembers who has logged in, and whether it does is never asked. So the server
of whole connections is one of single lines: each filled line is a request of its own,
which begins when the one before it on its connection has been answered, and the end of the
stream is one more. Nothing else ties the lines of a connection together.
-/

namespace ShoppingCS.Auth

open Interleaving Program Storage Web

/-- A line of a connection, or the end of its stream. -/
inductive LineRequest where
  | line (connId : String) (line : List UInt8)
  | hangUp (connId : String)
deriving DecidableEq

section Server

variable (bcrypt : Bcrypt) (sessionTTL : SessionTTL) (stack : Nat)

/-- A line is answered, and what is to be remembered of it is written. -/
def serveLine : LineRequest → Handler (Option ResponseMessage)
  | .line connId line => do
    let message ← Wire.answer goJson bcrypt sessionTTL stack line
    let _ ← Wire.remember goJson (.new connId) line message
    pure (some message)
  | .hangUp connId => do
    let _ ← askRedis (.delete (.connection connId))
    pure none

/-- The server, line by line. A request is one line of one connection, or the end of the
connection, and is answered by a message or by nothing. -/
def lineServer : Service LineRequest Command Command.Result (Option ResponseMessage) Store Choice where
  handler := serveLine bcrypt sessionTTL stack
  perform := perform bcrypt

end Server

/-- The requests that some lines of a connection are. Lines without bytes are skipped by the
loop and are no requests. -/
def filledLines (connId : String) (lines : List (List UInt8)) : List LineRequest :=
  (lines.filter (fun line => decide (line ≠ []))).map (.line connId)

/-- The requests of a connection in their order: its lines, as the scanner cuts the stream,
and the hanging up at the end. -/
def ClientStream.script (client : ClientStream) : List LineRequest :=
  filledLines client.connId (scanAll client.bytes) ++ [.hangUp client.connId]

/-- What is written for the answers, one framed text behind the other; a hanging up is
answered by nothing. -/
def output (answers : List (Option ResponseMessage)) : List UInt8 :=
  answers.flatMap (fun answer => (answer.map (Wire.written goJson)).getD [])

section Lines

variable (bcrypt : Bcrypt) (sessionTTL : SessionTTL) (stack : Nat)

/-- What is remembered of a line depends on the id of the connection only, which stays. -/
theorem remember_id {α : Type} (connection : Wire.Connection) (line : List UInt8)
    (message : ResponseMessage) {next : Wire.Connection → Handler α} {other : Handler α}
    (same : ∀ kept, kept.id = connection.id → next kept = other) :
    (Wire.remember goJson connection line message >>= next) =
      (Wire.remember goJson (.new connection.id) line message >>= fun _ => other) := by
  unfold Wire.remember
  cases goJson.unmarshalRequest line RequestMessage.zero with
  | none => exact same connection rfl
  | some request =>
    unfold Wire.rememberLogin
    by_cases accepted : request.type = "login" ∧ message.status = "success"
    · simp only [if_pos accepted]
      cases goJson.unmarshalLogin message.data with
      | none => exact same connection rfl
      | some login =>
        change (askRedis _ >>= _) >>= next = (askRedis _ >>= _) >>= fun _ => other
        rw [Program.bind_assoc, Program.bind_assoc]
        refine congrArg (askRedis _ >>= ·) (funext ?_)
        intro _
        exact same _ rfl
    · simp only [if_neg accepted]
      exact same connection rfl

/-- The loop over the lines serves them in turn, in front of what comes last. -/
theorem serveLines_inTurn (connection : Wire.Connection) (lines : List (List UInt8))
    (last : LineRequest) :
    (Wire.serveLines goJson bcrypt sessionTTL stack connection lines >>= fun written =>
      serveLine bcrypt sessionTTL stack last >>= fun answer =>
        .answer (written ++ output [answer])) =
      (inTurn (serveLine bcrypt sessionTTL stack)
        (filledLines connection.id lines ++ [last])).render output := by
  induction lines generalizing connection with
  | nil =>
    change (serveLine bcrypt sessionTTL stack last >>= fun answer => .answer (output [answer])) =
      ((serveLine bcrypt sessionTTL stack last >>= fun answer => .answer [answer]) >>= fun answers =>
        .answer (output answers))
    rw [Program.bind_assoc]
    rfl
  | cons line lines inductionHypothesis =>
    by_cases filled : line = []
    · subst filled
      rw [Wire.serveLines_empty]
      exact inductionHypothesis connection
    · have first : filledLines connection.id (line :: lines) =
          .line connection.id line :: filledLines connection.id lines := by
        rw [filledLines, List.filter_cons_of_pos (by simpa using filled), List.map_cons]
        rfl
      rw [Wire.serveLines_filled goJson_correct stack connection filled, first, List.cons_append,
        inTurn]
      change _ = ((Wire.answer goJson bcrypt sessionTTL stack line >>= fun message =>
        Wire.remember goJson (.new connection.id) line message >>= fun _ =>
          .answer (some message)) >>= _) >>= _
      rw [Program.bind_assoc, Program.bind_assoc, Program.bind_assoc]
      refine congrArg (Wire.answer goJson bcrypt sessionTTL stack line >>= ·) (funext ?_)
      intro message
      have served (kept : Wire.Connection) (same : kept.id = connection.id) :
          (Wire.serveRest goJson bcrypt sessionTTL lines message stack kept >>= fun written =>
            serveLine bcrypt sessionTTL stack last >>= fun answer =>
              .answer (written ++ output [answer])) =
            (inTurn (serveLine bcrypt sessionTTL stack)
              (filledLines connection.id lines ++ [last]) >>= fun answers =>
                .answer (output (some message :: answers))) := by
        have behind := congrArg (· >>= fun bytes =>
          Program.answer (Wire.written goJson message ++ bytes)) (inductionHypothesis kept)
        rw [same] at behind
        simp only [Program.render, Program.bind_assoc, answer_bind] at behind
        simp only [Wire.serveRest, Program.bind_assoc, Wire.writeRest, pure_eq, answer_bind,
          List.append_assoc]
        exact behind
      calc (Wire.afterAnswer goJson bcrypt sessionTTL connection line lines stack message >>= _)
        _ = (Wire.remember goJson connection line message >>= fun kept =>
              Wire.serveRest goJson bcrypt sessionTTL lines message stack kept >>= _) :=
          Program.bind_assoc _ _ _
        _ = _ := remember_id connection line message served
        _ = _ := by
          simp only [Program.bind_assoc, answer_bind]

/-- A connection serves its script in turn, each request after the answer to the one before
it. The induction is on the lines. -/
theorem handleConnection_inTurn (client : ClientStream) :
    Wire.handleConnection goJson bcrypt sessionTTL client.connId client.bytes stack =
      (inTurn (serveLine bcrypt sessionTTL stack) client.script).render output := by
  have served := serveLines_inTurn bcrypt sessionTTL stack (.new client.connId)
    (scanAll client.bytes) (.hangUp client.connId)
  refine Eq.trans ?_ served
  unfold Wire.handleConnection
  refine congrArg (Wire.serveLines goJson bcrypt sessionTTL stack _ _ >>= ·) (funext ?_)
  intro written
  change (askRedis _ >>= _) = (askRedis _ >>= _) >>= _
  rw [Program.bind_assoc]
  refine congrArg (askRedis _ >>= ·) (funext ?_)
  intro _
  simp [output]

/-- So the connections are conversations with the server of lines, and each of their runs is
one of lines that arrive one after the other. -/
def conversations : (wireServer bcrypt sessionTTL stack).Sequences
    (lineServer bcrypt sessionTTL stack) where
  script := ClientStream.script
  form := fun _ => output
  handler := handleConnection_inTurn bcrypt sessionTTL stack
  perform := rfl
  spoken := by simp [ClientStream.script]

/-- A line that asks for anything but a login is a request of the server of requests. -/
theorem serveLine_request (connId : String) {line : List UInt8} {request : RequestMessage}
    (decoded : goJson.unmarshalRequest line RequestMessage.zero = some request)
    (other : request.type ≠ "login") :
    serveLine bcrypt sessionTTL stack (.line connId line) =
      (handleConnection bcrypt sessionTTL stack ⟨connId, request.operation⟩).render
        (fun response => some (response.toMessage goJson)) := by
  have handled : handleConnection bcrypt sessionTTL stack ⟨connId, request.operation⟩ =
      handleRequest bcrypt sessionTTL stack request.operation := by
    unfold handleConnection
    cases asked : request.operation with
    | login username password =>
      unfold RequestMessage.operation at asked
      split_ifs at asked
    | _ => rfl
  rw [handled]
  unfold serveLine Wire.answer Wire.remember
  simp only [decoded, Wire.respond, Program.bind_assoc, pure_eq, answer_bind]
  refine congrArg (handleRequest bcrypt sessionTTL stack request.operation >>= ·) (funext ?_)
  intro response
  rw [Wire.rememberLogin, if_neg (fun both => other both.1)]
  rfl

end Lines

/-- For every run of connections there is a run of lines, action by action, with the same
stores at every moment. Each line request belongs to one connection; the commands of a
connection are those of its filled lines in order, and of its end, each of which was over
before the next began; and what a connection has written in the end are the answers to
its lines. A line that asks for anything but a login is just its request. -/
theorem connections_are_lines (bcrypt : Bcrypt) (sessionTTL : SessionTTL) (stack : Nat)
    (store : Store) (actions : List (Action ClientStream Choice)) :
    (∃ turns : List (List (Action LineRequest Choice)), turns.length = actions.length ∧
      ∀ count ≤ actions.length, ∃ own : List (List Nat),
        let wire := (wireServer bcrypt sessionTTL stack).run (Service.idleState store)
          (actions.take count)
        let lines := (lineServer bcrypt sessionTTL stack).run (Service.idleState store)
          (turns.take count).flatten
        wire.store = lines.store ∧ own.flatten.Perm (List.range lines.tasks.length) ∧
          ∀ (index : Nat) connection, wire.tasks[index]? = some connection →
            ∃ places served, own[index]? = some places ∧
              (conversations bcrypt sessionTTL stack).Consists lines.tasks places connection
                served) ∧
      ∀ connId line request, goJson.unmarshalRequest line RequestMessage.zero = some request →
        request.type ≠ "login" → serveLine bcrypt sessionTTL stack (.line connId line) =
          (handleConnection bcrypt sessionTTL stack ⟨connId, request.operation⟩).render
            (fun response => some (response.toMessage goJson)) := by
  constructor
  · obtain ⟨turns, lengths, related⟩ := (conversations bcrypt sessionTTL stack).run store actions
    refine ⟨turns, lengths, fun count within => ?_⟩
    obtain ⟨own, related⟩ := related count within
    refine ⟨own, related.store, related.covers, ?_⟩
    intro index connection present
    have inside := (List.getElem?_eq_some_iff.mp present).1
    have there := List.getElem?_eq_getElem (related.spread ▸ inside)
    obtain ⟨served, consists⟩ := (related.converses index connection _ present there).consists
    exact ⟨_, served, there, consists⟩
  · intro connId line request decoded other
    exact serveLine_request bcrypt sessionTTL stack connId decoded other

end ShoppingCS.Auth
