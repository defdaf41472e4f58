import ShoppingCS.Interleaving.Interpretation
import ShoppingCS.Shop.Listener

/-!
# The listener refines the handlers

The handlers have been modelled by the queries they issue and the reply they end with.
The listener does more on the way: it sets headers, sends the response, throws and
catches. When no expression throws, this is all that distinguishes them: what is left
of an exchange without its other effects is the handler of the operation it is routed
to, and the response on the wire is its reply. Only the listing of all orders is left
out, whose queries the handler puts in an order that the pool chooses.
-/

namespace ShoppingCS.Shop.Listener

open Interleaving Web

/-- The effects of the listener as those of the handlers: queries are issued, expressions have
their values, and what is done to the response is recorded. -/
def onQueries : (effect : Effect) → ServerResponse →
    Program Statement Statement.Result (effect.Result × ServerResponse)
  | .query statement, response => .call statement (fun result => .answer (result, response))
  | .evaluate, response => .answer (.ok (), response)
  | .setStatusCode statusCode, response => .answer ((), { response with statusCode := statusCode })
  | .setHeader name value, response =>
    .answer (perform (.setHeader name value) ⟨fun _ => .error .connection, .ok ()⟩ response)
  | .finish body, response =>
    .answer (perform (.finish body) ⟨fun _ => .error .connection, .ok ()⟩ response)

/-- The headers that `sendResponse` sets, in their order, on every response. -/
def responseHeaders : List (String × String) :=
  [("Content-Type", "application/json"), ("Access-Control-Allow-Origin", "*"),
    ("Access-Control-Allow-Methods", "GET, POST, PUT, DELETE, OPTIONS"),
    ("Access-Control-Allow-Headers", "Content-Type, Authorization")]

/-- A reply on the wire: its status, the headers of every response, and its document. -/
def sent (reply : Reply) : ServerResponse :=
  { statusCode := reply.status
    headers := responseHeaders
    sent := [⟨reply.status, responseHeaders, some reply.body⟩] }

/-- The program issues the queries of the handler and sends its reply. -/
def Sends (program : Js Unit) (handler : Handler) : Prop :=
  program.run.interpret onQueries .fresh = (handler >>= fun reply => .answer (.ok (), sent reply))

section Rules

variable {α : Type} {next : α → Js Unit} {recover : Js Unit} {handler : Handler}

/-- A document is sent with its status, which is the reply of the handler. -/
theorem sends_response (statusCode : Nat) (data : Body) :
    Sends (sendResponse statusCode data) (.answer ⟨statusCode, data⟩) := by
  cases data <;> rfl

/-- A body that sends throws nothing, so a `catch` around it changes nothing. -/
theorem Sends.caught {body : Js Unit} (sends : Sends body handler) :
    Sends (tryCatch body (fun _ => recover)) handler := by
  unfold Sends at sends ⊢
  rw [Throwing.interpret_tryCatch, sends, Program.bind_bind]
  rfl

/-- A query goes on with its rows, or is rejected and caught. The handler has both cases in
its own match on the result. -/
theorem sends_query {statement : Statement} {next : statement.Rows → Js Unit}
    {following : statement.Rows → Handler} {rejected : Reply}
    (recovers : Sends recover (.answer rejected))
    (follows : ∀ rows, Sends (tryCatch (next rows) (fun _ => recover)) (following rows)) :
    Sends (tryCatch (poolQuery statement >>= next) (fun _ => recover))
      (query rejected statement following) := by
  refine congrArg (Program.call statement) (funext ?_)
  intro result
  cases result with
  | ok rows => exact follows rows
  | error error => exact recovers

theorem sends_evaluate {value : α}
    (follows : Sends (tryCatch (next value) (fun _ => recover)) handler) :
    Sends (tryCatch (evaluate value >>= next) (fun _ => recover)) handler :=
  follows

theorem sends_pure {value : α} (follows : Sends (tryCatch (next value) (fun _ => recover)) handler) :
    Sends (tryCatch (pure value >>= next) (fun _ => recover)) handler :=
  follows

/-- What is thrown inside the `try` is answered by the `catch`, and what would have followed
is not run. -/
theorem sends_throw {thrown : Thrown} (recovers : Sends recover handler) :
    Sends (tryCatch (throw thrown >>= next) (fun _ => recover)) handler :=
  recovers

end Rules

section Routes

variable {recover : Js Unit} {rejected : Reply} (recovers : Sends recover (.answer rejected))

include recovers

/-- The cart is selected and sent in both, with the same error in the `catch`. -/
theorem sends_respondCart (sessionId : String) :
    Sends (tryCatch (respondCart sessionId) (fun _ => recover))
      (Shop.respondCart rejected sessionId) := by
  apply sends_query recovers
  intro rows
  exact sends_evaluate (sends_response _ _).caught

/-- The items are inserted one after the other in both, by induction on the rows; the first
that is rejected is caught. -/
theorem sends_insertItems (invalid : rejected = invalidBody) (nextId : Nat) (rows : List CheckoutRow)
    {next : Js Unit} {handler : Handler} (follows : Sends (tryCatch next (fun _ => recover)) handler) :
    Sends (tryCatch (insertItems nextId rows >>= fun _ => next) (fun _ => recover))
      (Shop.insertItems nextId rows handler) := by
  subst invalid
  induction rows with
  | nil => exact sends_pure follows
  | cons row rows inductionHypothesis =>
    rw [insertItems, Throwing.bind_bind]
    apply sends_evaluate
    rw [Throwing.bind_bind]
    apply sends_query recovers
    intro _
    exact inductionHypothesis

/-- The created order is read back and sent in both. That its row exists is known to the
handler, which needs no case for it. -/
theorem sends_sendOrder (invalid : rejected = invalidBody) (sessionId : String) (nextId : Nat) :
    Sends (tryCatch (poolQuery (.deleteCart sessionId) >>= fun _ => sendOrder (orderIdOf nextId))
        (fun _ => recover)) (finishOrder sessionId nextId) := by
  subst invalid
  apply sends_query recovers
  intro _
  apply sends_query recovers
  intro orders
  apply sends_query recovers
  intro items
  cases orders with
  | nil => exact sends_throw recovers
  | cons order orders => exact sends_pure (sends_evaluate (sends_response _ _).caught)

end Routes

/-- The error of a `catch` is a document like any other. -/
theorem sends_error (statusCode : Nat) (message : String) :
    Sends (sendResponse statusCode (.error message)) (.answer (.error statusCode message)) :=
  sends_response statusCode (.error message)

section Handlers

/-- `GET /api/products` sends what its handler answers, for any search text. -/
theorem sends_getProducts (search : Option String) :
    Sends (getProducts search) (Shop.getProducts search) := by
  apply sends_evaluate
  apply sends_query (sends_error _ _)
  intro rows
  exact sends_evaluate (sends_response _ _).caught

/-- `GET /api/products/:id` sends what its handler answers, for a product that is found and
one that is not. -/
theorem sends_getProduct (productId : String) :
    Sends (getProduct productId) (Shop.getProduct productId) := by
  apply sends_query (sends_error _ _)
  intro rows
  cases rows with
  | nil => exact (sends_error _ _).caught
  | cons row rows => exact sends_evaluate (sends_response _ _).caught

/-- `GET /api/cart` sends what its handler answers, the cart or the error. -/
theorem sends_getCart (sessionId : String) : Sends (getCart sessionId) (Shop.getCart sessionId) :=
  sends_respondCart (sends_error _ _) sessionId

/-- `POST /api/cart` sends what its handler answers, whatever the body is and however its
queries end. -/
theorem sends_postCart (sessionId : String) (body : Option CartBody) :
    Sends (postCart sessionId body) (Shop.postCart sessionId body) := by
  cases body with
  | none => exact sends_throw (sends_error _ _)
  | some body =>
    apply sends_pure
    apply sends_query (sends_error _ _)
    intro products
    split
    · exact (sends_error _ _).caught
    · apply sends_query (sends_error _ _)
      intro existingItem
      split
      · apply sends_query (sends_error _ _)
        intro _
        exact sends_respondCart (sends_error _ _) sessionId
      · apply sends_query (sends_error _ _)
        intro _
        exact sends_respondCart (sends_error _ _) sessionId

/-- `PUT /api/cart/:id` sends what its handler answers, in both branches on the quantity. -/
theorem sends_putCart (sessionId productId : String) (body : Option Quantity) :
    Sends (putCart sessionId productId body) (Shop.putCart sessionId productId body) := by
  cases body with
  | none => exact sends_throw (sends_error _ _)
  | some quantity =>
    apply sends_pure
    apply sends_evaluate
    by_cases removes : quantity.nonpositive = true
    · rw [Shop.putCart, if_pos removes, if_pos removes]
      apply sends_query (sends_error _ _)
      intro _
      exact sends_respondCart (sends_error _ _) sessionId
    · rw [Shop.putCart, if_neg removes, if_neg removes]
      apply sends_query (sends_error _ _)
      intro _
      exact sends_respondCart (sends_error _ _) sessionId

/-- `DELETE /api/cart/:id` sends what its handler answers, which is the rest of the cart. -/
theorem sends_deleteCartItem (sessionId productId : String) :
    Sends (deleteCartItem sessionId productId) (Shop.deleteCartItem sessionId productId) := by
  apply sends_query (sends_error _ _)
  intro _
  exact sends_respondCart (sends_error _ _) sessionId

/-- `DELETE /api/cart` sends what its handler answers, an empty cart. -/
theorem sends_deleteCart (sessionId : String) :
    Sends (deleteCart sessionId) (Shop.deleteCart sessionId) := by
  apply sends_query (sends_error _ _)
  intro _
  exact (sends_response _ _).caught

/-- `POST /api/orders` sends what its handler answers, by the lemmas for the parts of the
checkout. -/
theorem sends_postOrders (sessionId : String) (body : OrderBody) :
    Sends (postOrders sessionId body) (Shop.postOrders sessionId body) := by
  unfold postOrders Shop.postOrders parseOrder
  split
  · exact sends_throw (sends_error _ _)
  · apply sends_pure
    apply sends_query (sends_error _ _)
    intro rows
    split
    · exact (sends_error _ _).caught
    · apply sends_evaluate
      apply sends_query (sends_error _ _)
      intro nextId
      apply sends_evaluate
      cases body with
      | fields customer =>
        apply sends_evaluate
        apply sends_query (sends_error _ _)
        intro _
        exact sends_insertItems (sends_error _ _) rfl nextId rows
          (sends_sendOrder (sends_error _ _) rfl sessionId nextId)
      | _ => exact sends_throw (sends_error _ _)

/-- `GET /api/orders/:id` sends what its handler answers, for an order that is found and one
that is not. -/
theorem sends_getOrder (orderId : String) : Sends (getOrder orderId) (Shop.getOrder orderId) := by
  apply sends_query (sends_error _ _)
  intro orders
  cases orders with
  | nil => exact (sends_error _ _).caught
  | cons order orders =>
    apply sends_query (sends_error _ _)
    intro items
    exact sends_evaluate (sends_response _ _).caught

end Handlers

section Exchange

variable {runtime : Runtime} {req : IncomingMessage}

/-- The handler that a request is routed to, and the answer for requests that no route takes.
-/
def routed (req : IncomingMessage) : Option Operation → Handler
  | some operation => handle ⟨req.sessionHeader, operation⟩
  | none => .answer (.error 404 "Endpoint not found")

/-- What follows the listener: the registered callback, when the body has ended, or nothing.
-/
def finished (req : IncomingMessage) : Option EndCallback → Js Unit
  | none => pure ()
  | some callback => callback.run req

/-- After the preflights and with a URL, an exchange is its dispatch and what follows. -/
theorem exchange_eq (other : req.method ≠ .options) {url : Url}
    (accepted : runtime.newUrl req.url (base req) = some url) :
    exchange runtime req =
      (tryCatch (dispatch req (route req.method url (runtime.readBody req.body)))
        (fun _ => answering (sendResponse 500 (.error "Internal server error"))) >>= finished req) := by
  have passed : handleCORS req = pure false := if_neg other
  have parsed : newUrl runtime req = pure url := by rw [newUrl, accepted]
  rw [exchange, requestListener, passed, parsed]
  refine congrArg (_ >>= ·) (funext ?_)
  intro callback
  cases callback <;> rfl

/-- A route that answers at once is not followed by anything. -/
theorem sends_answering {route : Js Unit} {handler : Handler} (sends : Sends route handler)
    (recover : Js (Option EndCallback)) :
    Sends (tryCatch (answering route) (fun _ => recover) >>= finished req) handler := by
  unfold Sends at sends ⊢
  rw [Throwing.interpret_bind, Throwing.interpret_tryCatch, answering, Throwing.interpret_bind, sends,
    Program.bind_bind, Program.bind_bind, Program.bind_bind]
  rfl

/-- A registered callback is run after the listener, outside its `try`, with a `try` of its
own. -/
theorem sends_callback (callback : EndCallback) (recover : Js (Option EndCallback))
    {handler : Handler} (sends : Sends (callback.run req) handler) :
    Sends (tryCatch (pure (some callback)) (fun _ => recover) >>= finished req) handler :=
  sends

/-- The listener does what the handler does that the request is routed to. -/
theorem listener_refines_handlers (other : req.method ≠ .options) {url : Url}
    (accepted : runtime.newUrl req.url (base req) = some url)
    (unlisted : route req.method url (runtime.readBody req.body) ≠ some .getOrders) :
    Sends (exchange runtime req) (routed req (route req.method url (runtime.readBody req.body))) := by
  rw [exchange_eq other accepted]
  generalize route req.method url (runtime.readBody req.body) = target at unlisted ⊢
  cases target with
  | none => exact sends_answering (sends_error _ _) _
  | some operation =>
    cases operation with
    | getHealth => exact sends_answering (sends_response _ _) _
    | getProducts search => exact sends_answering (sends_getProducts search) _
    | getProduct productId => exact sends_answering (sends_getProduct productId) _
    | getCart => exact sends_answering (sends_getCart _) _
    | postCart body => exact sends_callback (.postCart body) _ (sends_postCart _ body)
    | putCart productId body => exact sends_callback (.putCart productId body) _ (sends_putCart _ productId body)
    | deleteCartItem productId => exact sends_answering (sends_deleteCartItem _ productId) _
    | deleteCart => exact sends_answering (sends_deleteCart _) _
    | getOrders => exact absurd rfl unlisted
    | postOrders body => exact sends_callback (.postOrders body) _ (sends_postOrders _ body)
    | getOrder orderId => exact sends_answering (sends_getOrder orderId) _

end Exchange

end ShoppingCS.Shop.Listener
