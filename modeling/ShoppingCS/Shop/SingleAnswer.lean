import ShoppingCS.Shop.Listener

/-!
# One answer to every request

Code of a route sends nothing before the `sendResponse` at its end, so whatever throws
before leaves the response to the `catch`, and the answer of a `catch` cannot throw. A
callback has a `try` of its own. That leaves the statements in front of the listener's
`try`: the answer to a preflight, which cannot throw, and `new URL`, which can.
-/

namespace ShoppingCS.Shop.Listener

open Interleaving Web

section Rules

variable {α β : Type} {returns : α → ServerResponse → Prop} {later : β → ServerResponse → Prop}
  {throws : Thrown → ServerResponse → Prop} {program : Js α} {next : α → Js β}

/-- No response has been sent yet, whatever status and headers have been set. -/
def Open (response : ServerResponse) : Prop := response.sent = []

/-- Exactly one response has been sent, and it is on its way. -/
def Once (response : ServerResponse) : Prop := ∃ answer, response.sent = [answer]

/-- What a program guarantees, whatever its queries and expressions do, when nothing
has been sent before. -/
def Leaves (returns : α → ServerResponse → Prop) (throws : Thrown → ServerResponse → Prop)
    (program : Js α) : Prop :=
  ∀ response, Open response → Throwing.Meets perform (fun _ => True) returns throws program response

/-- The program sends nothing, whether it returns or throws, given that nothing had been sent
before. -/
abbrev Silent (program : Js α) : Prop := Leaves (fun _ => Open) (fun _ => Open) program

/-- The program sends one response, or throws and has sent none. -/
abbrev Answers (program : Js Unit) : Prop := Leaves (fun _ => Once) (fun _ => Open) program

/-- The program sends one response and throws nothing. This is what every route must do. -/
abbrev Surely (program : Js Unit) : Prop := Leaves (fun _ => Once) (fun _ _ => False) program

/-- Where what comes before sends nothing, the rest begins with an unsent response. This is
the rule by which the lemmas below are composed. -/
theorem Leaves.andThen (first : Leaves (fun _ => Open) throws program)
    (rest : ∀ value, Leaves later throws (next value)) : Leaves later throws (program >>= next) :=
  fun response unsent => Throwing.Meets.bind ((first response unsent).mono
    (fun value last remains => rest value last remains) (fun _ _ met => met))

theorem silent_pure (value : α) : Leaves (fun _ => Open) throws (pure value : Js α) :=
  fun _ unsent => Throwing.meets_pure unsent

theorem silent_throw (thrown : Thrown) : Silent (throw thrown : Js α) :=
  fun _ unsent => Throwing.meets_throw unsent

/-- A query touches no response, both when it returns rows and when it is rejected. -/
theorem silent_poolQuery (statement : Statement) : Silent (poolQuery statement) := by
  intro response unsent
  apply Throwing.meets_attempt
  intro outcome _
  cases result : outcome.result statement <;>
    simpa only [perform, result, Except.mapError] using unsent

/-- An expression touches no response, and what it throws is thrown with nothing sent. -/
theorem silent_evaluate (value : α) : Silent (evaluate value) := by
  intro response unsent
  apply Throwing.meets_attempt
  intro outcome _
  cases result : outcome.evaluation <;> simpa only [perform, result, Except.map] using unsent

/-- The status can be set at any time; only headers throw once the response has been sent. -/
theorem silent_setStatusCode (statusCode : Nat) :
    Leaves (fun _ => Open) throws (setStatusCode statusCode) :=
  fun _ unsent => Throwing.meets_attempt (fun _ _ => unsent)

/-- A header can be set as long as nothing has been sent. -/
theorem silent_setHeader (name value : String) : Leaves (fun _ => Open) throws (setHeader name value) := by
  intro response unsent
  apply Throwing.meets_attempt
  intro outcome _
  have sent : response.sent = [] := unsent
  simp only [perform, sent, if_true, id_eq, Open]

/-- With nothing sent before, ending the response sends it, and does not throw. -/
theorem once_finish (body : Option Body) : Leaves (fun _ => Once) throws (finish body) := by
  intro response unsent
  apply Throwing.meets_attempt
  intro _ _
  have sent : response.sent = [] := unsent
  simp only [perform, sent, List.nil_append]
  exact ⟨_, rfl⟩

/-- Serialising a document sends nothing, but may throw. An error document is serialised
without fail. -/
theorem silent_stringify (data : Body) : Silent (stringify data) := by
  cases data with
  | error message => exact silent_pure _
  | _ => exact silent_evaluate _

/-- One response is sent if the document can be serialised: the status and the headers are set
first, on an unsent response. -/
theorem once_sendResponse (statusCode : Nat) {data : Body}
    (text : Leaves (fun _ => Open) throws (stringify data)) :
    Leaves (fun _ => Once) throws (sendResponse statusCode data) :=
  (silent_setStatusCode statusCode).andThen fun _ => (silent_setHeader _ _).andThen fun _ =>
    (silent_setHeader _ _).andThen fun _ => (silent_setHeader _ _).andThen fun _ =>
      (silent_setHeader _ _).andThen fun _ => text.andThen fun _ => once_finish _

/-- A document is sent, or serialising it throws before anything is sent, so that the `catch`
can still answer. -/
theorem answers_sendResponse (statusCode : Nat) (data : Body) : Answers (sendResponse statusCode data) :=
  once_sendResponse statusCode (silent_stringify data)

/-- An error is sent without fail, as its serialisation cannot throw. Every `catch` rests on
this. -/
theorem surely_sendError (statusCode : Nat) (message : String) :
    Surely (sendResponse statusCode (.error message)) :=
  once_sendResponse statusCode (silent_pure _)

/-- If a body throws only while nothing is sent, the answer of the `catch` is the only one. -/
theorem Answers.caught {body recover : Js Unit} (answers : Answers body) (recovers : Surely recover) :
    Surely (tryCatch body (fun _ => recover)) :=
  fun response unsent => Throwing.Meets.tryCatch ((answers response unsent).mono
    (fun _ _ once => once) (fun _ last open_ => recovers last open_))

/-- A body that throws nothing needs no `catch`, so it answers in the weaker sense too. -/
theorem Surely.answers {body : Js Unit} (surely : Surely body) : Answers body :=
  fun response unsent => (surely response unsent).mono (fun _ _ once => once)
    (fun _ _ never => never.elim)

end Rules

section Routes

theorem silent_parsed {α : Type} (body : Option α) : Silent (parsed body) := by
  cases body with
  | none => exact silent_throw _
  | some value => exact silent_pure value

theorem silent_firstRow {α : Type} (rows : List α) : Silent (firstRow rows) := by
  cases rows with
  | nil => exact silent_throw _
  | cons row rows => exact silent_pure row

/-- Nothing is sent while orders are read, also when the reading of one of them throws. -/
theorem silent_readOrders (rows : List Order) : Silent (Throwing.all (rows.map readOrder)) := by
  intro response unsent
  refine Throwing.meets_all ?_ unsent
  intro program member
  obtain ⟨order, -, rfl⟩ := List.mem_map.mp member
  exact (silent_poolQuery _).andThen fun _ => silent_evaluate _

/-- Nothing is sent while the body of an order is parsed. -/
theorem silent_parseOrder (body : OrderBody) : Silent (parseOrder body) := by
  unfold parseOrder
  split
  · exact silent_throw _
  · exact silent_pure _

/-- Nothing is sent while the customer's texts are taken out of the body, which throws for a
body without them. -/
theorem silent_customerOf (body : OrderBody) : Silent (customerOf body) := by
  cases body with
  | fields customer => exact silent_evaluate customer
  | _ => exact silent_throw _

/-- Nothing is sent while the items are inserted, by induction on the rows. -/
theorem silent_insertItems (nextId : Nat) (rows : List CheckoutRow) :
    Silent (insertItems nextId rows) := by
  induction rows with
  | nil => exact silent_pure ()
  | cons row rows inductionHypothesis =>
    exact (silent_evaluate _).andThen fun _ => (silent_poolQuery _).andThen fun _ =>
      inductionHypothesis

/-- The cart is selected and sent, or an exception is thrown before that. -/
theorem answers_respondCart (sessionId : String) : Answers (respondCart sessionId) :=
  (silent_poolQuery _).andThen fun _ => (silent_evaluate _).andThen fun _ => answers_sendResponse _ _

/-- The created order is read back and sent. Each of the reads may throw, all before the
response. -/
theorem answers_sendOrder (orderId : String) : Answers (sendOrder orderId) :=
  (silent_poolQuery _).andThen fun _ => (silent_poolQuery _).andThen fun _ =>
    (silent_firstRow _).andThen fun _ => (silent_evaluate _).andThen fun _ => answers_sendResponse _ _

/-- `GET /api/products` answers once, with the products or with its error. -/
theorem surely_getProducts (search : Option String) : Surely (getProducts search) :=
  Answers.caught
    ((silent_evaluate _).andThen fun _ => (silent_poolQuery _).andThen fun _ =>
      (silent_evaluate _).andThen fun _ => answers_sendResponse _ _)
    (surely_sendError _ _)

/-- `GET /api/products/:id` answers once: the product, that there is none, or its error. -/
theorem surely_getProduct (productId : String) : Surely (getProduct productId) := by
  refine Answers.caught ((silent_poolQuery _).andThen ?_) (surely_sendError _ _)
  intro rows
  cases rows with
  | nil => exact answers_sendResponse _ _
  | cons row rows => exact (silent_evaluate _).andThen fun _ => answers_sendResponse _ _

/-- `GET /api/cart` answers once, with the lines of the session or with its error. -/
theorem surely_getCart (sessionId : String) : Surely (getCart sessionId) :=
  Answers.caught (answers_respondCart sessionId) (surely_sendError _ _)

/-- The callback of `POST /api/cart` answers once. It has an early return for an unknown
product, after a response of its own. -/
theorem surely_postCart (sessionId : String) (body : Option CartBody) :
    Surely (postCart sessionId body) := by
  refine Answers.caught ((silent_parsed body).andThen fun body =>
    (silent_poolQuery _).andThen ?_) (surely_sendError _ _)
  intro products
  split
  · exact answers_sendResponse _ _
  · refine (silent_poolQuery _).andThen ?_
    intro existingItem
    split
    · exact (silent_poolQuery _).andThen fun _ => answers_respondCart sessionId
    · exact (silent_poolQuery _).andThen fun _ => answers_respondCart sessionId

/-- The callback of `PUT /api/cart/:id` answers once, in each of the two branches on the
quantity. -/
theorem surely_putCart (sessionId productId : String) (body : Option Quantity) :
    Surely (putCart sessionId productId body) := by
  refine Answers.caught ((silent_parsed body).andThen fun quantity =>
    (silent_evaluate _).andThen ?_) (surely_sendError _ _)
  intro removes
  split
  · exact (silent_poolQuery _).andThen fun _ => answers_respondCart sessionId
  · exact (silent_poolQuery _).andThen fun _ => answers_respondCart sessionId

/-- `DELETE /api/cart/:id` answers once, with the rest of the cart or with its error. -/
theorem surely_deleteCartItem (sessionId productId : String) :
    Surely (deleteCartItem sessionId productId) :=
  Answers.caught ((silent_poolQuery _).andThen fun _ => answers_respondCart sessionId)
    (surely_sendError _ _)

/-- `DELETE /api/cart` answers once, with an empty cart or with its error. -/
theorem surely_deleteCart (sessionId : String) : Surely (deleteCart sessionId) :=
  Answers.caught ((silent_poolQuery _).andThen fun _ => answers_sendResponse _ _)
    (surely_sendError _ _)

/-- `GET /api/orders` answers once. The reads of the items run beside each other, and one that
is rejected rejects them all. -/
theorem surely_getOrders : Surely getOrders :=
  Answers.caught
    ((silent_poolQuery _).andThen fun rows => (silent_readOrders rows).andThen fun _ =>
      answers_sendResponse _ _)
    (surely_sendError _ _)

/-- The callback of `POST /api/orders` answers once: for an empty cart, for the order it has
created, or from its `catch`. -/
theorem surely_postOrders (sessionId : String) (body : OrderBody) :
    Surely (postOrders sessionId body) := by
  refine Answers.caught ((silent_parseOrder body).andThen fun _ =>
    (silent_poolQuery _).andThen ?_) (surely_sendError _ _)
  intro rows
  split
  · exact answers_sendResponse _ _
  · exact (silent_evaluate _).andThen fun _ => (silent_poolQuery _).andThen fun _ =>
      (silent_evaluate _).andThen fun nextId => (silent_customerOf body).andThen fun _ =>
        (silent_poolQuery _).andThen fun _ => (silent_insertItems nextId rows).andThen fun _ =>
          (silent_poolQuery _).andThen fun _ => answers_sendOrder _

/-- `GET /api/orders/:id` answers once: the order, that there is none, or its error. -/
theorem surely_getOrder (orderId : String) : Surely (getOrder orderId) := by
  refine Answers.caught ((silent_poolQuery _).andThen ?_) (surely_sendError _ _)
  intro orders
  cases orders with
  | nil => exact answers_sendResponse _ _
  | cons order orders =>
    exact (silent_poolQuery _).andThen fun _ => (silent_evaluate _).andThen fun _ =>
      answers_sendResponse _ _

/-- Every callback that a route registers answers once, by the lemma of its route. -/
theorem surely_callback (req : IncomingMessage) (callback : EndCallback) :
    Surely (callback.run req) := by
  cases callback with
  | postCart body => exact surely_postCart _ body
  | putCart productId body => exact surely_putCart _ productId body
  | postOrders body => exact surely_postOrders _ body

end Routes

section Exchange

variable {throws : Thrown → ServerResponse → Prop} {runtime : Runtime} {req : IncomingMessage}

/-- Either one response has been sent, or it is left to a callback. -/
def Handed : Option EndCallback → ServerResponse → Prop
  | none => Once
  | some _ => Open

/-- A route that answers at once registers no callback, so exactly one of the two happens. -/
theorem handed_answering {route : Js Unit} (answers : Leaves (fun _ => Once) throws route) :
    Leaves Handed throws (answering route) :=
  fun response unsent => Throwing.Meets.bind ((answers response unsent).mono
    (fun _ _ once => Throwing.meets_pure once) (fun _ _ met => met))

/-- A route that registers a callback has sent nothing yet. -/
theorem handed_callback (callback : EndCallback) : Leaves Handed throws (pure (some callback)) :=
  fun _ unsent => Throwing.meets_pure unsent

/-- Every route answers, hands over to its callback, or throws and has sent nothing. -/
theorem handed_dispatch (req : IncomingMessage) (operation : Option Operation) :
    Leaves Handed (fun _ => Open) (dispatch req operation) := by
  cases operation with
  | none => exact handed_answering (answers_sendResponse _ _)
  | some operation =>
    cases operation with
    | getHealth => exact handed_answering (answers_sendResponse _ _)
    | getProducts search => exact handed_answering (surely_getProducts search).answers
    | getProduct productId => exact handed_answering (surely_getProduct productId).answers
    | getCart => exact handed_answering (surely_getCart _).answers
    | postCart body => exact handed_callback _
    | putCart productId body => exact handed_callback _
    | deleteCartItem productId => exact handed_answering (surely_deleteCartItem _ productId).answers
    | deleteCart => exact handed_answering (surely_deleteCart _).answers
    | getOrders => exact handed_answering surely_getOrders.answers
    | postOrders body => exact handed_callback _
    | getOrder orderId => exact handed_answering (surely_getOrder orderId).answers

/-- A preflight is answered by `handleCORS` alone, and the listener returns before it looks at
the URL. -/
theorem handed_preflight (preflight : req.method = .options) :
    Leaves Handed (fun _ _ => False) (requestListener runtime req) := by
  have answered : Leaves (fun done response => done = true ∧ Once response) (fun _ _ => False)
      (handleCORS req) := by
    rw [handleCORS, if_pos preflight]
    exact (silent_setStatusCode _).andThen fun _ => (silent_setHeader _ _).andThen fun _ =>
      (silent_setHeader _ _).andThen fun _ => (silent_setHeader _ _).andThen fun _ =>
        fun response unsent => Throwing.Meets.bind ((once_finish none response unsent).mono
          (fun _ _ once => Throwing.meets_pure ⟨rfl, once⟩) (fun _ _ never => never))
  intro response unsent
  refine Throwing.Meets.bind ((answered response unsent).mono
    ?_ (fun _ _ never => never))
  intro done last met
  obtain ⟨rfl, once⟩ := met
  exact Throwing.meets_pure once

/-- With a URL the listener throws nothing: from there on everything is inside the `try`. -/
theorem handed_url (other : req.method ≠ .options) {url : Url}
    (accepted : runtime.newUrl req.url (base req) = some url) :
    Leaves Handed (fun _ _ => False) (requestListener runtime req) := by
  have passed : handleCORS req = pure false := if_neg other
  have parsed : newUrl runtime req = pure url := by rw [newUrl, accepted]
  rw [requestListener, passed, parsed]
  intro response unsent
  refine Throwing.Meets.tryCatch ((handed_dispatch req _ response unsent).mono
    (fun _ _ handed => handed) ?_)
  intro _ last remains
  exact handed_answering (surely_sendError _ _) last remains

/-- A listener that throws nothing is answered once, by itself or by its callback. -/
theorem surely_exchange (handed : Leaves Handed (fun _ _ => False) (requestListener runtime req)) :
    Surely (exchange runtime req) := by
  intro response unsent
  refine Throwing.Meets.bind ((handed response unsent).mono
    ?_ (fun _ _ never => never))
  intro callback last met
  cases callback with
  | none => exact Throwing.meets_pure met
  | some callback => exact surely_callback req callback last met

/-- Without a URL nothing is sent, and the exception escapes from the listener, because `new
URL` is outside the `try`. -/
theorem exchange_escapes (other : req.method ≠ .options)
    (rejected : runtime.newUrl req.url (base req) = none) :
    (exchange runtime req).run = .answer (.error .invalidUrl) := by
  have passed : handleCORS req = pure false := if_neg other
  have throws : newUrl runtime req = throw .invalidUrl := by rw [newUrl, rejected]
  rw [exchange, requestListener, passed, throws]
  rfl

end Exchange

/-- One response is sent and no exception escapes, with these outcomes of queries and
expressions. -/
def AnsweredOnce (runtime : Runtime) (req : IncomingMessage) (outcomes : Nat → Outcome) : Prop :=
  ∃ last rest, (exchange runtime req).run.alone perform outcomes .fresh = some (.ok (), last, rest) ∧
    Once last

/-- A request is answered exactly once, with nothing escaping, if and only if it is a
preflight or `new URL` accepts its target and host; whatever the queries return, and
whatever throws. -/
theorem answered_once_iff (runtime : Runtime) (req : IncomingMessage) (outcomes : Nat → Outcome) :
    AnsweredOnce runtime req outcomes ↔
      req.method = .options ∨ (runtime.newUrl req.url (base req)).isSome = true := by
  constructor
  · rintro ⟨last, rest, ran, -⟩
    by_cases preflight : req.method = .options
    · exact Or.inl preflight
    · refine Or.inr (Option.isSome_iff_ne_none.mpr ?_)
      intro rejected
      rw [exchange_escapes preflight rejected] at ran
      simp at ran
  · intro condition
    have surely : Surely (exchange runtime req) := by
      by_cases preflight : req.method = .options
      · exact surely_exchange (handed_preflight preflight)
      · obtain ⟨url, accepted⟩ := Option.isSome_iff_exists.mp (condition.resolve_left preflight)
        exact surely_exchange (handed_url preflight accepted)
    obtain ⟨outcome, last, rest, ran, met⟩ :=
      (surely .fresh rfl).alone outcomes (fun _ => trivial)
    cases outcome with
    | ok value => exact ⟨last, rest, ran, met⟩
    | error thrown => exact met.elim

/-- URLs whose authority, if they name one, is not empty, and bodies that nobody reads. -/
def plainRuntime : Runtime where
  newUrl := fun target _ => parseReference? (fun authority => !authority.isEmpty) target
  readBody := fun _ => .absent

/-- A request for the target `//`, which a client may send, and of which no URL can be made.
-/
def doubleSlash : IncomingMessage :=
  { method := .get
    url := "//".toList
    host := some "localhost:3001".toList
    sessionHeader := none
    body := "" }

/-- Every query is rejected, as when the database is down. -/
def allRejected : Nat → Outcome := fun _ => { result := fun _ => .error .connection, evaluation := .ok () }

/-- The request for that target gets no answer and its exception escapes, whatever the
database does. -/
theorem double_slash_unanswered :
    (exchange plainRuntime doubleSlash).run.alone perform allRejected .fresh =
        some (.error .invalidUrl, .fresh, allRejected) ∧
      ¬ AnsweredOnce plainRuntime doubleSlash allRejected := by
  have escapes : (exchange plainRuntime doubleSlash).run = .answer (.error .invalidUrl) :=
    exchange_escapes (by decide) (by decide)
  refine ⟨by rw [escapes]; rfl, ?_⟩
  rintro ⟨last, rest, ran, -⟩
  simp [escapes] at ran

end ShoppingCS.Shop.Listener
