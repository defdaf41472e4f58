import ShoppingCS.Auth.EndlessLookups
import ShoppingCS.Auth.Messages

/-!
# One answer for each line

A connection reads lines until its stream ends and writes one response for each line that
is not empty, also for lines that are no requests. Each line is decoded into a zero
request, so nothing of an earlier line is left in a later one; what the connection
remembers of a login is written and never read. Responses are single lines of JSON, so a
client that cuts the output at newlines finds them again.

The surroundings are arbitrary: what happens to the stores between two commands of the
connection is not restricted. Only one thing keeps the connection from its answers, a
lookup of a session that never ends.
-/

namespace ShoppingCS.Auth.Wire

open Interleaving Program Web

/-- `Connection`, without the socket and without the time it was last used, which the loop of
one connection does not read. -/
structure Connection where
  id : String
  userId : String
  token : String

/-- A connection that has just been accepted: it has its id, and no login is remembered for
it. -/
def Connection.new (connId : String) : Connection := { id := connId, userId := "", token := "" }

section Connection

variable (json : EncodingJson) (bcrypt : Bcrypt) (sessionTTL : SessionTTL)

/-- `HandleRequest`, and the response that the loop sends for its error. -/
def respond (stack : Nat) (request : RequestMessage) : Handler ResponseMessage := do
  let response ← handleRequest bcrypt sessionTTL stack request.operation
  pure (response.toMessage json)

/-- Remember a successful login, in the connection and in Redis. -/
def rememberLogin (connection : Connection) (request : RequestMessage)
    (message : ResponseMessage) : Handler Connection :=
  if request.type = "login" ∧ message.status = "success" then
    match json.unmarshalLogin message.data with
    | none => pure connection
    | some login => do
      let _ ← askRedis
        (.set (.connection connection.id) (.connection login.userId login.token) 1800)
      pure { connection with userId := login.userId, token := login.token }
  else pure connection

/-- `sendResponse`: what it writes, unless the response cannot be marshalled. -/
def sendResponse (message : ResponseMessage) : Option (List UInt8) :=
  (json.marshalResponse message).map frame

/-- The loop over the lines of the scanner. It returns what it has written. -/
def serveLines (stack : Nat) : Connection → List (List UInt8) → Handler (List UInt8)
  | _, [] => pure []
  | connection, line :: lines =>
    if line = [] then serveLines stack connection lines
    else
      match json.unmarshalRequest line RequestMessage.zero with
      | none => do
        let written := (sendResponse json (errorResponse "invalid JSON format")).getD []
        let rest ← serveLines stack connection lines
        pure (written ++ rest)
      | some request => do
        let message ← respond json bcrypt sessionTTL stack request
        let connection ← rememberLogin json connection request message
        match sendResponse json message with
        | none => pure []
        | some written => do
          let rest ← serveLines stack connection lines
          pure (written ++ rest)

/-- `handleConnection`. When the stream has ended, the connection is forgotten. -/
def handleConnection (connId : String) (stream : List UInt8) (stack : Nat) :
    Handler (List UInt8) := do
  let written ← serveLines json bcrypt sessionTTL stack (.new connId) (scanAll stream)
  let _ ← askRedis (.delete (.connection connId))
  pure written

/-- The answer to a line by itself, whether it is JSON or not, without what is remembered of
it. -/
def answer (stack : Nat) (line : List UInt8) : Handler ResponseMessage :=
  match json.unmarshalRequest line RequestMessage.zero with
  | none => pure (errorResponse "invalid JSON format")
  | some request => respond json bcrypt sessionTTL stack request

/-- What is remembered of a line and its answer. A line that could not be decoded leaves the
connection as it is. -/
def remember (connection : Connection) (line : List UInt8) (message : ResponseMessage) :
    Handler Connection :=
  match json.unmarshalRequest line RequestMessage.zero with
  | none => pure connection
  | some request => rememberLogin json connection request message

variable {World Chance : Type}
  (surroundings : (command : Command) → Chance → World → command.Result × World)
  (connId : String)

/-- Lines are answered one after the other, each by itself, from one situation to
another. -/
inductive Answered : List (List UInt8) → Situation World Chance → List ResponseMessage →
    Situation World Chance → Prop where
  | done (situation : Situation World Chance) : Answered [] situation [] situation
  | line {line : List UInt8} {lines : List (List UInt8)} {situation middle next final :
      Situation World Chance} {message : ResponseMessage} {messages : List ResponseMessage}
      {connection : Connection}
      (answered : EndsWith surroundings (answer json bcrypt sessionTTL · line) situation
        (message, middle))
      (remembered : (remember json (.new connId) line message).outcome surroundings middle =
        some (connection, next))
      (later : Answered lines next messages final) :
      Answered (line :: lines) situation (message :: messages) final

/-- The connection answers every filled line, in order, and is then forgotten. Its output
is the framed texts of the answers, which can be cut apart and decoded. -/
def OneAnswerPerLine (stream : List UInt8) (situation : Situation World Chance) : Prop :=
  ∃ messages texts left reply final,
    Answered json bcrypt sessionTTL surroundings connId (filledLines stream) situation messages
        left ∧
      (askRedis (.delete (.connection connId))).outcome surroundings left = some (reply, final) ∧
      EndsWith surroundings (handleConnection json bcrypt sessionTTL connId stream) situation
        (texts.flatMap frame, final) ∧
      texts.map some = messages.map json.marshalResponse ∧
      (texts.flatMap frame).splitOn newline = texts ++ [[]] ∧
      texts.map json.unmarshalResponse = messages.map some

/-- The calls that a line leads to end, which a line that is no JSON leads to none of. -/
def LineSettles (line : List UInt8) (situation : Situation World Chance) : Prop :=
  ∀ request, json.unmarshalRequest line RequestMessage.zero = some request →
    Settles surroundings request.operation situation

/-- So they do for each line, in the situation that the lines before it have led to. -/
def AllSettle (lines : List (List UInt8)) (situation : Situation World Chance) : Prop :=
  ∀ before line after, lines = before ++ line :: after →
    ∀ messages reached,
      Answered json bcrypt sessionTTL surroundings connId before situation messages reached →
        LineSettles json surroundings line reached

end Connection

section Proofs

variable {json : EncodingJson} {bcrypt : Bcrypt} {sessionTTL : SessionTTL}

/-- The answer to a line grows with the calls it leads to. -/
theorem answer_grows (line : List UInt8) : Grows (answer json bcrypt sessionTTL · line) := by
  cases decoded : json.unmarshalRequest line RequestMessage.zero with
  | none =>
    simp only [answer, decoded]
    exact Grows.const _
  | some request =>
    simp only [answer, decoded]
    exact (handleRequest_grows bcrypt sessionTTL request.operation).bind (fun _ => Grows.const _)

/-- Remembering ends in any surroundings, since it is one write at most. -/
theorem remember_finishes (connection : Connection) (line : List UInt8)
    (message : ResponseMessage) : (remember json connection line message).Finishes := by
  unfold remember rememberLogin
  split
  · trivial
  · split_ifs
    · split
      · trivial
      · exact fun _ => trivial
    · trivial

section Answered

variable {World Chance : Type}
  {surroundings : (command : Command) → Chance → World → command.Result × World}
  {connId : String}

/-- The answer to a line ends exactly when its calls do. -/
theorem answer_ends_iff (line : List UInt8) (situation : Situation World Chance) :
    Ends surroundings (answer json bcrypt sessionTTL · line) situation ↔
      LineSettles json surroundings line situation := by
  cases decoded : json.unmarshalRequest line RequestMessage.zero with
  | none =>
    simp only [answer, decoded]
    apply iff_of_true
    · exact ⟨_, 0, rfl⟩
    · intro request same
      exact absurd (decoded.symm.trans same) (by simp)
  | some request =>
    have finishes (response : Response) :
        (pure (response.toMessage json) : Handler ResponseMessage).Finishes := trivial
    simp only [answer, decoded, respond]
    rw [ends_bind_finishes surroundings (handleRequest_grows bcrypt sessionTTL request.operation)
      finishes, handleRequest_ends_iff]
    constructor
    · intro settles other same
      obtain rfl := Option.some.inj (decoded.symm.trans same)
      exact settles
    · intro settles
      exact settles request decoded

/-- Where lines lead is determined by the situation they begin in, as programs are
deterministic there. -/
theorem Answered.unique {lines : List (List UInt8)} {situation left left' : Situation World Chance}
    {messages messages' : List ResponseMessage}
    (one : Answered json bcrypt sessionTTL surroundings connId lines situation messages left)
    (other : Answered json bcrypt sessionTTL surroundings connId lines situation messages' left') :
    messages = messages' ∧ left = left' := by
  induction one generalizing messages' with
  | done situation =>
    cases other
    exact ⟨rfl, rfl⟩
  | line answered remembered later inductionHypothesis =>
    cases other with
    | line answered' remembered' later' =>
      obtain ⟨rfl, rfl⟩ := Prod.mk.inj (answered.unique surroundings (answer_grows _) answered')
      obtain ⟨-, rfl⟩ := Prod.mk.inj (Option.some.inj (remembered.symm.trans remembered'))
      obtain ⟨rfl, rfl⟩ := inductionHypothesis later'
      exact ⟨rfl, rfl⟩

/-- Lines are answered up to a line, then that line, then those behind it. -/
theorem Answered.split {before after : List (List UInt8)} {line : List UInt8}
    {situation left : Situation World Chance} {messages : List ResponseMessage}
    (answered : Answered json bcrypt sessionTTL surroundings connId (before ++ line :: after)
      situation messages left) :
    ∃ earlier reached, Answered json bcrypt sessionTTL surroundings connId before situation earlier
        reached ∧
      Ends surroundings (answer json bcrypt sessionTTL · line) reached := by
  induction before generalizing situation messages with
  | nil =>
    cases answered with
    | line here _ _ => exact ⟨[], situation, .done situation, _, here⟩
  | cons first before inductionHypothesis =>
    cases answered with
    | line here remembered later =>
      obtain ⟨earlier, reached, answered, ends⟩ := inductionHypothesis later
      exact ⟨_, reached, .line here remembered answered, ends⟩

/-- All lines are answered exactly when all their calls end, by induction on the lines from
whatever situation they begin in. -/
theorem answered_iff (lines : List (List UInt8)) (situation : Situation World Chance) :
    (∃ messages left,
        Answered json bcrypt sessionTTL surroundings connId lines situation messages left) ↔
      AllSettle json bcrypt sessionTTL surroundings connId lines situation := by
  constructor
  · intro all before line after same messages reached answered
    obtain ⟨_, _, whole⟩ := all
    rw [same] at whole
    obtain ⟨earlier, reached', answered', ends⟩ := whole.split
    obtain ⟨-, rfl⟩ := answered.unique answered'
    exact (answer_ends_iff line reached).mp ends
  · intro settle
    induction lines generalizing situation with
    | nil => exact ⟨[], situation, .done situation⟩
    | cons line lines inductionHypothesis =>
      obtain ⟨⟨message, middle⟩, answered⟩ := (answer_ends_iff line situation).mpr
        (settle [] line lines rfl [] situation (.done situation))
      obtain ⟨connection, next, remembered⟩ :=
        (remember_finishes (.new connId) line message).outcome surroundings middle
      have later : AllSettle json bcrypt sessionTTL surroundings connId lines next := by
        intro before other after same messages reached within
        exact settle (line :: before) other after (by rw [same, List.cons_append])
          (message :: messages) reached (.line answered remembered within)
      obtain ⟨messages, left, rest⟩ := inductionHypothesis next later
      exact ⟨message :: messages, left, .line answered remembered rest⟩

/-- What is remembered of a login depends on the id of the connection only, and keeps
it. -/
theorem remember_same {connection other kept : Connection} (same : connection.id = other.id)
    {line : List UInt8} {message : ResponseMessage} {middle next : Situation World Chance}
    (remembered : (remember json connection line message).outcome surroundings middle =
      some (kept, next)) :
    kept.id = connection.id ∧ ∃ kept',
      (remember json other line message).outcome surroundings middle = some (kept', next) := by
  unfold remember rememberLogin at remembered ⊢
  rw [← same]
  split at remembered
  · obtain ⟨rfl, rfl⟩ := Prod.mk.inj (Option.some.inj remembered)
    exact ⟨rfl, other, rfl⟩
  · split_ifs at remembered ⊢
    · split at remembered
      · obtain ⟨rfl, rfl⟩ := Prod.mk.inj (Option.some.inj remembered)
        exact ⟨rfl, other, rfl⟩
      · obtain ⟨rfl, rfl⟩ := Prod.mk.inj (Option.some.inj remembered)
        exact ⟨rfl, _, rfl⟩
    · obtain ⟨rfl, rfl⟩ := Prod.mk.inj (Option.some.inj remembered)
      exact ⟨rfl, other, rfl⟩

end Answered

section Requests

variable {World Chance : Type}
  {surroundings : (command : Command) → Chance → World → command.Result × World}

/-- A login that succeeds answers with login data, which is what the loop then decodes again.
-/
theorem handleLogin_response {username password : String} {response : Response}
    {situation left : Situation World Chance}
    (ran : (handleLogin bcrypt sessionTTL username password).outcome surroundings situation =
      some (response, left)) :
    (∃ error, response = .error error) ∨ ∃ login, response = .success (.login login) := by
  unfold handleLogin at ran
  split_ifs at ran
  · obtain ⟨rfl, -⟩ := Prod.mk.inj (Option.some.inj ran)
    exact Or.inl ⟨_, rfl⟩
  · obtain ⟨result, middle, -, answered⟩ := (outcome_bind_eq_some surroundings).mp ran
    cases result with
    | error error =>
      obtain ⟨rfl, -⟩ := Prod.mk.inj (Option.some.inj answered)
      exact Or.inl ⟨_, rfl⟩
    | ok session =>
      obtain ⟨rfl, -⟩ := Prod.mk.inj (Option.some.inj answered)
      exact Or.inr ⟨_, rfl⟩

/-- A line that is a request does what the request by itself does, and its answer is the
message of the response, as long as login data survives JSON. -/
theorem line_is_request {stack : Nat} {connId : String} {line : List UInt8}
    {request : RequestMessage} {response : Response} {situation next : Situation World Chance}
    (decoded : json.unmarshalRequest line RequestMessage.zero = some request)
    (ran : (Auth.handleConnection bcrypt sessionTTL stack
      ⟨connId, request.operation⟩).outcome surroundings situation = some (response, next))
    (survives : ∀ login, response = .success (.login login) → ∃ text,
      json.marshalData (.login login) = some text ∧ json.unmarshalLogin text = some login) :
    ∃ middle kept,
      (answer json bcrypt sessionTTL stack line).outcome surroundings situation =
          some (response.toMessage json, middle) ∧
        (remember json (.new connId) line (response.toMessage json)).outcome surroundings middle =
          some (kept, next) := by
  simp only [answer, remember, decoded, respond]
  by_cases login : request.type = "login"
  · have operation : request.operation = .login request.username request.password := by
      simp [RequestMessage.operation, login]
    rw [operation] at ran ⊢
    obtain ⟨found, middle, handled, remembered⟩ := (outcome_bind_eq_some surroundings).mp ran
    cases handleLogin_response handled with
    | inl refused =>
      obtain ⟨error, rfl⟩ := refused
      obtain ⟨rfl, rfl⟩ := Prod.mk.inj (Option.some.inj remembered)
      refine ⟨middle, .new connId,
        (outcome_bind_eq_some surroundings).mpr ⟨.error error, middle, handled, rfl⟩, ?_⟩
      rw [rememberLogin, if_neg (fun both => absurd both.2 (by simp [Response.toMessage, errorResponse]))]
      rfl
    | inr accepted =>
      obtain ⟨data, rfl⟩ := accepted
      obtain ⟨_, left, stored, same⟩ := (outcome_bind_eq_some surroundings).mp remembered
      obtain ⟨rfl, rfl⟩ := Prod.mk.inj (Option.some.inj same)
      obtain ⟨text, marshalled, back⟩ := survives data rfl
      have message : (Response.success (.login data)).toMessage json =
          { status := "success", message := "", data := text } := by
        rw [Response.toMessage, successResponse, marshalled, Option.map_some, Option.getD_some]
      refine ⟨middle, { id := connId, userId := data.userId, token := data.token },
        (outcome_bind_eq_some surroundings).mpr ⟨_, middle, handled, rfl⟩, ?_⟩
      rw [message, rememberLogin, if_pos ⟨login, rfl⟩]
      simp only [back]
      exact (outcome_bind_eq_some surroundings).mpr ⟨_, left, stored, rfl⟩
  · have same : Auth.handleConnection bcrypt sessionTTL stack ⟨connId, request.operation⟩ =
        handleRequest bcrypt sessionTTL stack request.operation := by
      unfold RequestMessage.operation
      split_ifs <;> rfl
    rw [same] at ran
    refine ⟨next, .new connId, (outcome_bind_eq_some surroundings).mpr ⟨response, next, ran, rfl⟩, ?_⟩
    rw [rememberLogin, if_neg (fun both => login both.1)]
    rfl

end Requests

/-- Every answer has a text, because the server only builds messages with marshalled data and
the package marshals these. -/
theorem answer_sent (correct : json.Correct) (response : Response) :
    ∃ text, json.marshalResponse (response.toMessage json) = some text :=
  correct.marshals _ (response.toMessage_carries json)

/-- The framed text of an answer as it goes over the connection: the JSON and a line break. -/
def written (json : EncodingJson) (message : ResponseMessage) : List UInt8 :=
  (sendResponse json message).getD []

/-- A line without bytes is skipped by the loop and answered by nothing. -/
theorem serveLines_empty (stack : Nat) (connection : Connection) (lines : List (List UInt8)) :
    serveLines json bcrypt sessionTTL stack connection ([] :: lines) =
      serveLines json bcrypt sessionTTL stack connection lines := by
  rw [serveLines, if_pos rfl]

/-- What is written of a line and those behind it. -/
def writeRest (json : EncodingJson) (message : ResponseMessage) (rest : List UInt8) :
    Handler (List UInt8) :=
  pure (written json message ++ rest)

/-- The loop over the lines behind an answer, with the connection as it has been remembered.
-/
def serveRest (json : EncodingJson) (bcrypt : Bcrypt) (sessionTTL : SessionTTL)
    (lines : List (List UInt8)) (message : ResponseMessage) (stack : Nat)
    (connection : Connection) : Handler (List UInt8) :=
  serveLines json bcrypt sessionTTL stack connection lines >>= writeRest json message

/-- What follows an answer within the loop: it is remembered, sent, and the lines behind it
are served. -/
def afterAnswer (json : EncodingJson) (bcrypt : Bcrypt) (sessionTTL : SessionTTL)
    (connection : Connection) (line : List UInt8) (lines : List (List UInt8)) (stack : Nat)
    (message : ResponseMessage) : Handler (List UInt8) :=
  remember json connection line message >>= serveRest json bcrypt sessionTTL lines message stack

/-- A filled line is answered, remembered, and the answer is written in front of those to
the lines behind it. -/
theorem serveLines_filled (correct : json.Correct) (stack : Nat) (connection : Connection)
    {line : List UInt8} (filled : line ≠ []) (lines : List (List UInt8)) :
    serveLines json bcrypt sessionTTL stack connection (line :: lines) =
      (answer json bcrypt sessionTTL stack line >>=
        afterAnswer json bcrypt sessionTTL connection line lines stack) := by
  rw [serveLines, if_neg filled]
  unfold answer afterAnswer remember serveRest
  cases decoded : json.unmarshalRequest line RequestMessage.zero with
  | none => rfl
  | some request =>
    simp only [respond]
    rw [Program.bind_assoc, Program.bind_assoc]
    congr 1
    funext response
    obtain ⟨text, sent⟩ := answer_sent correct response
    have framed : sendResponse json (response.toMessage json) = some (frame text) := by
      rw [sendResponse, sent, Option.map_some]
    have wrote : writeRest json (response.toMessage json) =
        fun rest => .answer (frame text ++ rest) := by
      funext rest
      simp only [writeRest, written, framed, Option.getD_some, pure_eq]
    simp only [pure_eq, answer_bind, framed, wrote]

/-- What follows an answer grows if the lines behind it do. -/
theorem serveRest_grows {lines : List (List UInt8)}
    (behind : ∀ connection, Grows (serveLines json bcrypt sessionTTL · connection lines))
    (message : ResponseMessage) (connection : Connection) :
    Grows (serveRest json bcrypt sessionTTL lines message · connection) :=
  (behind connection).bind (fun rest => Grows.const (writeRest json message rest))

/-- What follows an answer grows with the depth, if the loop over the lines behind it does. -/
theorem afterAnswer_grows {lines : List (List UInt8)}
    (behind : ∀ connection, Grows (serveLines json bcrypt sessionTTL · connection lines))
    (connection : Connection) (line : List UInt8) (message : ResponseMessage) :
    Grows (afterAnswer json bcrypt sessionTTL connection line lines · message) :=
  (Grows.const (remember json connection line message)).bind (serveRest_grows behind message)

/-- The loop grows with the calls of its lines, by induction on them and the same for one
request. -/
theorem serveLines_grows (correct : json.Correct) (connection : Connection)
    (lines : List (List UInt8)) :
    Grows (serveLines json bcrypt sessionTTL · connection lines) := by
  induction lines generalizing connection with
  | nil => exact Grows.const (pure [])
  | cons line lines inductionHypothesis =>
    by_cases empty : line = []
    · subst empty
      simp only [serveLines_empty]
      exact inductionHypothesis connection
    · simp only [serveLines_filled correct _ connection empty]
      exact (answer_grows line).bind (afterAnswer_grows inductionHypothesis connection line)

section Served

variable {World Chance : Type}
  {surroundings : (command : Command) → Chance → World → command.Result × World}
  {connId : String}

/-- The loop passes a filled line when its answer ends, and goes on behind it. -/
theorem serveLines_filled_endsWith (correct : json.Correct) {connection : Connection}
    {line : List UInt8} (filled : line ≠ []) {lines : List (List UInt8)}
    {situation left : Situation World Chance} {output : List UInt8} :
    EndsWith surroundings (serveLines json bcrypt sessionTTL · connection (line :: lines)) situation
        (output, left) ↔
      ∃ message middle kept next rest,
        EndsWith surroundings (answer json bcrypt sessionTTL · line) situation (message, middle) ∧
          (remember json connection line message).outcome surroundings middle = some (kept, next) ∧
          EndsWith surroundings (serveLines json bcrypt sessionTTL · kept lines) next (rest, left) ∧
          output = written json message ++ rest := by
  have behind (kept : Connection) := @serveLines_grows json bcrypt sessionTTL correct kept lines
  simp only [serveLines_filled correct _ connection filled]
  rw [endsWith_bind surroundings (answer_grows line) (afterAnswer_grows behind connection line)]
  apply exists_congr
  intro message
  apply exists_congr
  intro middle
  simp only [afterAnswer]
  rw [endsWith_bind surroundings (Grows.const _) (serveRest_grows behind message)]
  simp only [endsWith_const, serveRest]
  constructor
  · intro parts
    obtain ⟨answered, kept, next, remembered, ends⟩ := parts
    obtain ⟨rest, left', served, stack, wrote⟩ := (endsWith_bind surroundings (behind kept)
      (fun rest => Grows.const (writeRest json message rest))).mp ends
    obtain ⟨rfl, rfl⟩ := Prod.mk.inj (Option.some.inj wrote)
    exact ⟨kept, next, rest, answered, remembered, served, rfl⟩
  · intro parts
    obtain ⟨kept, next, rest, answered, remembered, served, rfl⟩ := parts
    exact ⟨answered, kept, next, remembered, (endsWith_bind surroundings (behind kept)
      (fun rest => Grows.const (writeRest json message rest))).mpr ⟨rest, left, served, 0, rfl⟩⟩

/-- The loop ends when all filled lines are answered, and it has written the answers. -/
theorem serveLines_endsWith (correct : json.Correct) {connection : Connection}
    (own : connection.id = connId) {lines : List (List UInt8)}
    {situation left : Situation World Chance} {output : List UInt8} :
    EndsWith surroundings (serveLines json bcrypt sessionTTL · connection lines) situation
        (output, left) ↔
      ∃ messages, Answered json bcrypt sessionTTL surroundings connId (lines.filter (· ≠ []))
          situation messages left ∧
        output = messages.flatMap (written json) := by
  induction lines generalizing connection situation output with
  | nil =>
    constructor
    · intro ends
      obtain ⟨stack, ended⟩ := ends
      obtain ⟨rfl, rfl⟩ := Prod.mk.inj (Option.some.inj ended)
      exact ⟨[], .done situation, rfl⟩
    · intro answered
      obtain ⟨messages, answered, rfl⟩ := answered
      cases answered
      exact ⟨0, rfl⟩
  | cons line lines inductionHypothesis =>
    by_cases empty : line = []
    · subst empty
      simp only [serveLines_empty]
      rw [inductionHypothesis own, List.filter_cons_of_neg (by simp)]
    · rw [serveLines_filled_endsWith correct empty, List.filter_cons_of_pos (by simpa using empty)]
      constructor
      · intro parts
        obtain ⟨message, middle, kept, next, rest, answered, remembered, served, rfl⟩ := parts
        obtain ⟨same, kept', remembered'⟩ := @remember_same json _ _ _ connection (.new connId) kept
          own line message middle next remembered
        obtain ⟨messages, later, rfl⟩ := (inductionHypothesis (same.trans own)).mp served
        exact ⟨message :: messages, .line answered remembered' later, List.flatMap_cons.symm⟩
      · intro parts
        obtain ⟨_, whole, rfl⟩ := parts
        cases whole with
        | line answered remembered later =>
          obtain ⟨-, kept, remembered'⟩ := remember_same own.symm remembered
          have same := (remember_same rfl remembered').1
          exact ⟨_, _, kept, _, _, answered, remembered',
            (inductionHypothesis (same.trans own)).mpr ⟨_, later, rfl⟩, List.flatMap_cons⟩

/-- The answers to lines carry data that has been marshalled. -/
theorem Answered.carries {lines : List (List UInt8)} {situation left : Situation World Chance}
    {messages : List ResponseMessage}
    (answered : Answered json bcrypt sessionTTL surroundings connId lines situation messages left) :
    ∀ message ∈ messages, json.Carries message := by
  induction answered with
  | done situation => simp
  | line answered remembered later inductionHypothesis =>
    rw [List.forall_mem_cons]
    refine ⟨?_, inductionHypothesis⟩
    obtain ⟨stack, found⟩ := answered
    unfold answer at found
    split at found
    · obtain ⟨rfl, -⟩ := Prod.mk.inj (Option.some.inj found)
      exact Or.inl rfl
    · obtain ⟨response, middle, -, made⟩ := (outcome_bind_eq_some surroundings).mp found
      obtain ⟨rfl, -⟩ := Prod.mk.inj (Option.some.inj made)
      exact response.toMessage_carries json

/-- Messages that carry marshalled data have texts of one line, which decode to them. -/
theorem written_texts (correct : json.Correct) {messages : List ResponseMessage}
    (carried : ∀ message ∈ messages, json.Carries message) :
    ∃ texts : List (List UInt8), messages.flatMap (written json) = texts.flatMap frame ∧
      texts.map some = messages.map json.marshalResponse ∧
      (∀ text ∈ texts, newline ∉ text) ∧
      texts.map json.unmarshalResponse = messages.map some := by
  induction messages with
  | nil => exact ⟨[], rfl, rfl, by simp, rfl⟩
  | cons message messages inductionHypothesis =>
    obtain ⟨carries, later⟩ := List.forall_mem_cons.mp carried
    obtain ⟨texts, wrote, marshalled, lines, decoded⟩ := inductionHypothesis later
    obtain ⟨text, sent⟩ := correct.marshals message carries
    have framed : written json message = frame text := by
      rw [written, sendResponse, sent, Option.map_some, Option.getD_some]
    refine ⟨text :: texts, ?_, ?_, ?_, ?_⟩
    · rw [List.flatMap_cons, List.flatMap_cons, framed, wrote]
    · rw [List.map_cons, List.map_cons, sent, marshalled]
    · rw [List.forall_mem_cons]
      exact ⟨correct.one_line message text sent, lines⟩
    · rw [List.map_cons, List.map_cons, correct.unmarshals message text carries sent, decoded]

/-- The connection ends with this output exactly when its lines are answered and the output is
what the answers make. -/
theorem handleConnection_endsWith (correct : json.Correct) {stream : List UInt8}
    (fits : Fits stream) {situation final : Situation World Chance} {output : List UInt8} :
    EndsWith surroundings (handleConnection json bcrypt sessionTTL connId stream) situation
        (output, final) ↔
      ∃ messages left reply,
        Answered json bcrypt sessionTTL surroundings connId (filledLines stream) situation messages
            left ∧
          (askRedis (.delete (.connection connId))).outcome surroundings left =
            some (reply, final) ∧
          output = messages.flatMap (written json) := by
  have forgets (written : List UInt8) :
      Grows (fun _ => askRedis (.delete (.connection connId)) >>= fun _ =>
        (pure written : Handler (List UInt8))) :=
    Grows.const _
  have served := @serveLines_endsWith json bcrypt sessionTTL World Chance surroundings connId correct
    (.new connId) rfl (scanAll stream) situation
  rw [scanAll_filled fits] at served
  apply (endsWith_bind surroundings (serveLines_grows correct (.new connId) (scanAll stream))
    forgets).trans
  simp only [endsWith_const]
  constructor
  · intro parts
    obtain ⟨written, left, ends, forgotten⟩ := parts
    obtain ⟨messages, answered, rfl⟩ := served.mp ends
    obtain ⟨reply, left', deleted, same⟩ := (outcome_bind_eq_some surroundings).mp forgotten
    obtain ⟨rfl, rfl⟩ := Prod.mk.inj (Option.some.inj same)
    exact ⟨messages, left, reply, answered, deleted, rfl⟩
  · intro parts
    obtain ⟨messages, left, reply, answered, deleted, rfl⟩ := parts
    exact ⟨_, left, served.mpr ⟨messages, answered, rfl⟩,
      (outcome_bind_eq_some surroundings).mpr ⟨reply, final, deleted, rfl⟩⟩

/-- For any stream whose lines fit the scanner, in any surroundings, the connection writes
one answer for each filled line exactly when, line by line, no lookup of a session is
stuck. -/
theorem one_answer_per_line_iff (json : EncodingJson) (correct : json.Correct) (bcrypt : Bcrypt)
    (sessionTTL : SessionTTL)
    (surroundings : (command : Command) → Chance → World → command.Result × World)
    (connId : String) (stream : List UInt8) (fits : Fits stream)
    (situation : Situation World Chance) :
    OneAnswerPerLine json bcrypt sessionTTL surroundings connId stream situation ↔
      AllSettle json bcrypt sessionTTL surroundings connId (filledLines stream) situation := by
  rw [← answered_iff]
  constructor
  · intro one
    obtain ⟨messages, _, left, _, _, answered, _⟩ := one
    exact ⟨messages, left, answered⟩
  · intro all
    obtain ⟨messages, left, answered⟩ := all
    obtain ⟨texts, wrote, marshalled, lines, decoded⟩ := written_texts correct answered.carries
    obtain ⟨reply, final, forgotten⟩ : ∃ reply final,
        (askRedis (.delete (.connection connId))).outcome surroundings left = some (reply, final) :=
      ⟨_, _, rfl⟩
    have ends : EndsWith surroundings (handleConnection json bcrypt sessionTTL connId stream)
        situation (texts.flatMap frame, final) :=
      (handleConnection_endsWith correct fits).mpr
        ⟨messages, left, reply, answered, forgotten, wrote.symm⟩
    exact ⟨messages, texts, left, reply, final, answered, forgotten, ends, marshalled,
      splitOn_frames lines, decoded⟩

end Served

end Proofs

/-- A line that a client sends, as the bytes of its text. -/
def lineOf (text : String) : List UInt8 := encodeUtf8 text.toList

/-- Alice's login as a line, in the members the protocol gives it. -/
def loginLine : List UInt8 :=
  lineOf "\x7b\"type\":\"login\",\"username\":\"alice\",\"password\":\"secret\"\x7d"

/-- A request to validate the token that the first login draws. -/
def validateLine : List UInt8 :=
  lineOf ("\x7b\"type\":\"validate\",\"token\":\"" ++ firstToken.val ++ "\"\x7d")

/-- A login, a request to validate the token it has issued, a line with a carriage return
only, a number, a request of a type that contains a newline, and one with an empty token
and no line end. -/
def harmlessStream : List UInt8 :=
  frame loginLine ++ frame validateLine ++ frame (lineOf "\r") ++ frame (lineOf "7") ++
    frame (lineOf "\x7b\"type\":\"a\\nb\"\x7d\r") ++
    lineOf "\x7b\"type\":\"validate\",\"token\":\"\"\x7d"

/-- What the connection does about the login by itself: it answers, and it remembers the
answer. -/
def loginAlone (sessionTTL : SessionTTL) (stack : Nat) : Handler Connection :=
  answer goJson plainBcrypt sessionTTL stack loginLine >>= remember goJson (.new "c1") loginLine

/-- Where the login ends by itself, there the connection is when it has answered and
remembered the login, since what a program ends with does not depend on the stack. -/
theorem loginAlone_unique {sessionTTL : SessionTTL} {kept connection : Connection}
    {message : ResponseMessage} {start middle next final : Situation Store Choice}
    (alone : EndsWith (perform plainBcrypt) (loginAlone sessionTTL) start (kept, final))
    (answered : EndsWith (perform plainBcrypt) (answer goJson plainBcrypt sessionTTL · loginLine)
      start (message, middle))
    (remembered : (remember goJson (.new "c1") loginLine message).outcome (perform plainBcrypt)
      middle = some (connection, next)) : next = final := by
  have remembers (message : ResponseMessage) :
      Grows (fun _ => remember goJson (.new "c1") loginLine message) :=
    Grows.const _
  have ends : EndsWith (perform plainBcrypt) (loginAlone sessionTTL) start (connection, next) :=
    (endsWith_bind (perform plainBcrypt) (answer_grows loginLine) remembers).mpr
      ⟨_, _, answered, 0, remembered⟩
  have grows : Grows (loginAlone sessionTTL) := (answer_grows loginLine).bind remembers
  exact (Prod.mk.inj (ends.unique (perform plainBcrypt) grows alone)).2

/-- Whether the session of the token will have expired two readings of the clock later, when
the login has run by itself. -/
def expiredAlone (sessionTTL : SessionTTL) : Option (Option Bool) :=
  ((loginAlone sessionTTL 0).outcome (perform plainBcrypt) (aliceOnly, steadyTicks)).map
    (fun ended => (ended.2.1.redis.lookup firstToken.val).map (fun session =>
      decide (session.expiresAt < clockAfter steadyTicks ended.2.1.clock 2)))

/-- The login ends by itself with the same choices to come, and with a session of its token
whose deadline the readings of the clock then decide. -/
theorem loginAlone_expires {sessionTTL : SessionTTL} {expired : Bool}
    (decided : expiredAlone sessionTTL = some (some expired))
    (choices : ((loginAlone sessionTTL 0).outcome (perform plainBcrypt)
      (aliceOnly, steadyTicks)).map (·.2.2) = some steadyTicks) :
    ∃ kept store, EndsWith (perform plainBcrypt) (loginAlone sessionTTL) (aliceOnly, steadyTicks)
        (kept, store, steadyTicks) ∧
      (ExpiredAfter 2 firstToken.val steadyTicks store ↔ expired = true) := by
  obtain ⟨⟨kept, store, left⟩, found, read⟩ := Option.map_eq_some_iff.mp decided
  obtain ⟨session, stored, passed⟩ := Option.map_eq_some_iff.mp read
  rw [found] at choices
  obtain rfl : left = steadyTicks := Option.some.inj choices
  refine ⟨kept, store, ⟨0, found⟩, ?_⟩
  rw [← passed, decide_eq_true_eq]
  constructor
  · intro late
    obtain ⟨other, same, passes⟩ := late
    obtain rfl := Option.some.inj (stored.symm.trans same)
    exact passes
  · intro late
    exact ⟨session, stored, late⟩

/-- The second line of a list that does not occur in it again has only the first one before
it, whichever way the list is cut at that line. -/
theorem before_second {first second : List UInt8} {others before after : List (List UInt8)}
    (same : first :: second :: others = before ++ second :: after)
    (once : second ∉ first :: others) : before = [first] := by
  cases before with
  | nil => exact absurd ((List.cons.inj same).1 ▸ List.mem_cons_self) once
  | cons line rest =>
    obtain ⟨rfl, later⟩ := List.cons.inj same
    cases rest with
    | nil => rfl
    | cons line rest =>
      have inside : second ∈ others := by
        rw [(List.cons.inj later).2]
        exact List.mem_append_right _ List.mem_cons_self
      exact absurd (List.mem_cons_of_mem _ inside) once

set_option maxRecDepth 4000 in
/-- With the session of a day, the line after the login looks up a session that has not
expired, and none of the others names a token. So each filled line of the stream is
answered. -/
theorem harmless_lines_answered :
    OneAnswerPerLine goJson plainBcrypt defaultTTL (perform plainBcrypt) "c1" harmlessStream
      (aliceOnly, steadyTicks) := by
  have fits : Fits harmlessStream := by
    unfold Fits
    decide
  have lines : ∃ others, filledLines harmlessStream = loginLine :: validateLine :: others ∧
      validateLine ∉ loginLine :: others := ⟨_, rfl, by decide⟩
  obtain ⟨others, listed, once⟩ := lines
  have bare : ∀ line ∈ filledLines harmlessStream, line ≠ validateLine →
      ((goJson.unmarshalRequest line RequestMessage.zero).all (fun request =>
        request.operation.token? = none ∨ request.operation.token? = some "")) = true := by
    decide
  have asked : (goJson.unmarshalRequest validateLine RequestMessage.zero).map
      RequestMessage.operation = some (.validate firstToken.val) := by
    decide
  refine (one_answer_per_line_iff goJson goJson_correct plainBcrypt defaultTTL (perform plainBcrypt)
    "c1" harmlessStream fits (aliceOnly, steadyTicks)).mpr ?_
  intro before line after same messages reached answered request decoded
  by_cases validates : line = validateLine
  · obtain rfl := validates
    obtain rfl := before_second (listed ▸ same) once
    cases answered with
    | line loggedIn remembered later =>
      cases later
      obtain ⟨kept, store, alone, expires⟩ :=
        @loginAlone_expires defaultTTL false (by decide) rfl
      obtain rfl := loginAlone_unique alone loggedIn remembered
      obtain ⟨found, unmarshalled, operation⟩ := Option.map_eq_some_iff.mp asked
      obtain rfl := Option.some.inj (unmarshalled.symm.trans decoded)
      rw [operation]
      refine Or.inr (fun stuck => ?_)
      have expired := (stuck_iff_expired plainBcrypt steadyTicks_steady store firstToken.val).mp stuck
      exact absurd (expires.mp expired) (by decide)
  · have listed := bare line (by rw [same]; simp) validates
    rw [decoded, Option.all_some, decide_eq_true_eq] at listed
    exact settles_of_token listed

set_option maxRecDepth 4000 in
/-- A login with `SESSION_TTL=0`, then a request to validate its token: that line is never
answered, because the session has expired and its lookup does not end. -/
theorem validation_unanswered :
    goJson.Correct ∧ Fits (frame loginLine ++ frame validateLine) ∧
      ¬ OneAnswerPerLine goJson plainBcrypt noTTL (perform plainBcrypt) "c1"
        (frame loginLine ++ frame validateLine) (aliceOnly, steadyTicks) := by
  refine ⟨goJson_correct, by unfold Fits; decide, ?_⟩
  intro one
  obtain ⟨messages, _, left, _, _, answered, _⟩ := one
  have lines : filledLines (frame loginLine ++ frame validateLine) = [loginLine, validateLine] := by
    decide
  have asked : (goJson.unmarshalRequest validateLine RequestMessage.zero).map
      RequestMessage.operation = some (.validate firstToken.val) := by
    decide
  rw [lines] at answered
  cases answered with
  | line loggedIn remembered later =>
    cases later with
    | line validated _ _ =>
      obtain ⟨kept, store, alone, expires⟩ :=
        @loginAlone_expires noTTL true (by decide) rfl
      obtain rfl := loginAlone_unique alone loggedIn remembered
      obtain ⟨request, decoded, operation⟩ := Option.map_eq_some_iff.mp asked
      have settles := (answer_ends_iff validateLine _).mp ⟨_, validated⟩ request decoded
      rw [operation] at settles
      have expired : ExpiredAfter 2 firstToken.val steadyTicks store := expires.mpr rfl
      have stuck := (stuck_iff_expired plainBcrypt steadyTicks_steady store firstToken.val).mpr expired
      exact settles.elim (by decide) (fun free => free stuck)

end ShoppingCS.Auth.Wire
