import ShoppingCS.Client.CustomerDetails
import ShoppingCS.Client.Endpoints
import ShoppingCS.Shop.HttpServer
import ShoppingCS.Shop.JsonText
import ShoppingCS.Shop.RequestBody

/-!
# The calls on the wire

A call of `ApiService` with its own arguments, the document it stringifies and the bytes
that are sent, cut into chunks by the connection. Since the server has another origin than
the page, the browser may put a preflight in front of a call. What arrives at the listener
is the call again.
-/

namespace ShoppingCS.Client

open Interleaving Shop Shop.Listener Web

/-- The methods of `ApiService` with their arguments. A quantity is a number; an order is
made of the cart and of the form. -/
inductive ApiMethod where
  | getProducts
  | getProduct (id : String)
  | searchProducts (query : String)
  | getCart
  | addToCart (productId : String) (quantity : Rat)
  | updateCartItem (productId : String) (quantity : Rat)
  | removeFromCart (productId : String)
  | clearCart
  | createOrder (cart : List CartLine) (orderData : OrderData)
  | getOrders
  | getOrder (id : String)
  | healthCheck

/-- No call of the client is a preflight; these are sent by the browser. -/
theorem ApiCall.method_ne_options (call : ApiCall) : call.method ≠ .options := by
  cases call <;> exact Method.noConfusion

/-- The only call routed to the listing of all orders is the one of that name. -/
theorem ApiCall.operation_eq_getOrders (call : ApiCall) :
    call.operation = .getOrders ↔ call = .getOrders := by
  cases call <;> simp [ApiCall.operation]

namespace ApiMethod

/-- The call of a method, with what reaches the server of its arguments. -/
def call (values : Values) : ApiMethod → ApiCall
  | .getProducts => .getProducts
  | .getProduct id => .getProduct id
  | .searchProducts query => .searchProducts query
  | .getCart => .getCart
  | .addToCart productId quantity => .addToCart productId (values.quantity (some (.number quantity)))
  | .updateCartItem productId quantity =>
    .updateCartItem productId (values.quantity (some (.number quantity)))
  | .removeFromCart productId => .removeFromCart productId
  | .clearCart => .clearCart
  | .createOrder _ _ => .createOrder ⟨none, none, none, none⟩
  | .getOrders => .getOrders
  | .getOrder id => .getOrder id
  | .healthCheck => .healthCheck

/-- The argument of `JSON.stringify`, for the calls that send a body. -/
def document : ApiMethod → Option Json
  | .addToCart productId quantity =>
    some (.object [("productId", .string productId), ("quantity", .number quantity)])
  | .updateCartItem _ quantity => some (.object [("quantity", .number quantity)])
  | .createOrder cart orderData => some (CheckoutPage.order cart orderData)
  | _ => none

/-- The text of the body, empty for the calls that send none. -/
def text (values : Values) (method : ApiMethod) : Text :=
  match method.document with
  | some document => values.stringify document
  | none => []

/-- The handlers take from the document what the call is about. -/
theorem taken_document (values : Values) (method : ApiMethod) {document : Json}
    (sent : method.document = some document) : values.taken document = (method.call values).body := by
  cases method with
  | addToCart productId quantity =>
    obtain rfl := Option.some.inj sent
    rfl
  | updateCartItem productId quantity =>
    obtain rfl := Option.some.inj sent
    rfl
  | createOrder cart orderData =>
    obtain rfl := Option.some.inj sent
    rfl
  | _ => cases sent

/-- A call without a document has no body, so a handler that parses it would fail. -/
theorem absent_document (values : Values) (method : ApiMethod) (bare : method.document = none) :
    (method.call values).body = .absent := by
  cases method with
  | addToCart productId quantity => cases bare
  | updateCartItem productId quantity => cases bare
  | createOrder cart orderData => cases bare
  | _ => rfl

/-- The text of a body is read as the call's. -/
theorem readBody_text (values : Values) (method : ApiMethod)
    (readsBack : ∀ document ∈ method.document, values.ReadsBack document) :
    values.readBody (String.ofList (method.text values)) = (method.call values).body := by
  unfold text
  cases sent : method.document with
  | none => rw [method.absent_document values sent]; rfl
  | some document =>
    have read := values.readBody_stringify (readsBack document sent)
    exact read.trans (method.taken_document values sent)

end ApiMethod

/-- A request of a browser: a call or the preflight of one, the host it is sent to, and
the chunks in which the body arrives. -/
structure Sending where
  browser : Nat
  method : ApiMethod
  preflight : Bool
  host : Option Text
  chunks : List (List UInt8)

/-- What the server runs on: which bases and authorities its URLs may have, and what
JavaScript and the driver do with values. -/
structure Node where
  baseAccepted : Text → Bool
  authorityAccepted : Text → Bool
  values : Values

/-- The runtime of the instances: `new URL(url, base)` by its parts, and the bodies by the
values of JSON. -/
def Node.runtime (node : Node) : Runtime where
  newUrl url base := if node.baseAccepted base then parseReference? node.authorityAccepted url else none
  readBody := node.values.readBody

namespace Sending

variable (node : Node)

/-- The call that is sent, with the browser it comes from. -/
def sent (sending : Sending) : Sent := ⟨sending.browser, sending.method.call node.values⟩

/-- The text of the body; a preflight has none, whatever call it precedes. -/
def text (sending : Sending) : Text :=
  if sending.preflight then [] else sending.method.text node.values

/-- What arrives at the instances: the method, the target and the headers, and the body in its
chunks. -/
def message (sending : Sending) : IncomingMessage :=
  IncomingMessage.received
    { method := if sending.preflight then .options else (sending.method.call node.values).method
      url := (sending.method.call node.values).target
      host := sending.host
      sessionHeader := ApiCall.defaultHeaders.lookup "x-session-id"
      body := "" }
    sending.chunks

/-- The sending is a preflight or the listing of all orders, which the model of the browsers
leaves aside. -/
def aside (sending : Sending) : Bool :=
  sending.preflight || decide (sending.method.call node.values = .getOrders)

/-- A call that arrives: its endpoint and host are accepted, its numbers are read back, and no
chunk starts inside a character. -/
structure Arrives (sending : Sending) : Prop where
  passes : (sending.method.call node.values).Passes ∨
    ∃ query, sending.method.call node.values = .searchProducts query
  accepted : node.baseAccepted (base (sending.message node)) = true
  readsBack : ∀ document ∈ sending.method.document, node.values.ReadsBack document
  whole : sending.chunks.flatten = encodeUtf8 (sending.text node)
  starts : ∀ chunk ∈ sending.chunks, startsInside chunk = false

variable {node} {sending : Sending}

/-- The listener finds the operation of the call, if the target arrives as it should. -/
theorem message_dispatched (arrives : sending.Arrives node) (called : sending.preflight = false) :
    (node.runtime.newUrl (sending.message node).url (base (sending.message node))).bind
        (fun url => route (sending.message node).method url
          (node.runtime.readBody (sending.message node).body)) =
      some (sending.method.call node.values).operation := by
  have body : node.runtime.readBody (sending.message node).body =
      (sending.method.call node.values).body := by
    have text : sending.text node = sending.method.text node.values := by
      rw [Sending.text, called]
      rfl
    have collected := (collectBody_iff arrives.whole).mpr arrives.starts
    rw [arrives.whole, decodeUtf8_encodeUtf8, text] at collected
    change node.values.readBody (String.ofList (collectBody sending.chunks)) = _
    rw [collected]
    exact sending.method.readBody_text node.values arrives.readsBack
  have method : (sending.message node).method = (sending.method.call node.values).method := by
    change (if sending.preflight then _ else _) = _
    rw [called]
    rfl
  have parsed : node.runtime.newUrl (sending.message node).url (base (sending.message node)) =
      parseReference? node.authorityAccepted (sending.method.call node.values).target :=
    if_pos arrives.accepted
  have dispatched := ApiCall.dispatched_operation node.authorityAccepted
    (sending.method.call node.values) arrives.passes
  obtain ⟨url, read, found⟩ := Option.map_eq_some_iff.mp dispatched
  rw [parsed, body, method, read, Option.bind_some, found]

/-- So the listener forwards the call, unless it is a preflight or the listing. -/
theorem message_forwarded (arrives : sending.Arrives node) :
    forward? node.runtime (sending.message node) =
      if sending.aside node then none else some (sending.sent node).request := by
  cases called : sending.preflight with
  | true =>
    have preflight : (sending.message node).method = .options := if_pos called
    rw [forward?, if_pos preflight, aside, called]
    rfl
  | false =>
    have dispatched := message_dispatched arrives called
    obtain ⟨url, accepted, routed⟩ := Option.bind_eq_some_iff.mp dispatched
    have other : (sending.message node).method ≠ .options := by
      change (if sending.preflight then _ else _) ≠ _
      rw [called]
      exact ApiCall.method_ne_options _
    rw [forward?, if_neg other, accepted]
    simp only [Option.bind_eq_bind, Option.bind_some, routed, ApiCall.operation_eq_getOrders, aside,
      called, Bool.false_or, decide_eq_true_eq]
    rfl

end Sending

/-- The instances as the browsers reach them, through the messages their calls become. -/
def network (node : Node) :
    Service Sending Statement Statement.Result (Except Thrown Unit × ServerResponse) Database
      Choice :=
  (httpServer node.runtime).through (Sending.message node)

/-- The places of preflights and listings among the requests of a run. -/
def asides (node : Node) (actions : List (Action Sending Choice)) (place : Nat) : Bool :=
  match (Service.requests actions)[place]? with
  | some sending => sending.aside node
  | none => false

/-- What a browser makes of an exchange: it looks at the response that was sent. -/
def fetched? (outcome : Except Thrown Unit × ServerResponse) : Option ApiResponse := do
  let response ← outcome.2.sent.head?
  let body ← response.body
  pure (receive ⟨response.statusCode, body⟩)

/-- A reply on the wire is received as the reply. -/
theorem fetched?_onWire (reply : Reply) : fetched? (onWire reply) = some (receive reply) := rfl

/-- A call on the wire and the same call made directly. -/
structure SameCall
    (observed : Task Sending Statement Statement.Result (Except Thrown Unit × ServerResponse))
    (direct : Task Sending Statement Statement.Result Reply) : Prop where
  sending : observed.request = direct.request
  trace : observed.trace = direct.trace
  returned : observed.answer?.bind fetched? = direct.answer?.map receive

/-- Calls that arrive are forwarded to the server of the browsers. -/
theorem forwards_browsers (node : Node) :
    (network node).Forwards (browsers.through (Sending.sent node)) onWire
      (fun sending => sending.Arrives node ∧ sending.aside node = false) where
  handler := by
    intro sending ⟨arrives, called⟩
    have forwarded : forward? node.runtime (sending.message node) =
        some (sending.sent node).request := by
      rw [Sending.message_forwarded arrives, called]
      rfl
    have renders := (forwards_server node.runtime).handler (sending.message node)
      (by rw [forwarded]; rfl)
    have request : Listener.forwarded node.runtime (sending.message node) =
        (sending.sent node).request := by
      rw [Listener.forwarded, forwarded, Option.getD_some]
    refine renders.trans ?_
    change (handle (Listener.forwarded node.runtime (sending.message node))).render onWire = _
    rw [request]
    rfl
  perform := rfl

/-- Preflights and listings leave the database alone, so the other requests run as if they
were not there. -/
theorem asides_silent (node : Node) (initial : Database) (actions : List (Action Sending Choice))
    (arrive : ∀ sending ∈ Service.requests actions, sending.Arrives node) :
    (network node).Along ((network node).Silent (asides node actions)) (Service.idleState initial)
      actions := by
  apply (network node).silent_of_issues Statement.Reads
  · exact fun statement choice database reads => execute_unchanged reads choice database
  · intro place sending asked gone
    have left : sending.aside node = true := by simpa [asides, asked] using gone
    have stays : forward? node.runtime (sending.message node) = none := by
      rw [Sending.message_forwarded (arrive sending (List.mem_of_getElem? asked)), left]
      rfl
    exact unforwarded_reads stays

/-- In every run, however the calls of the browsers are put into bytes and cut between
characters, and whatever preflights come with them, the database is the one of the calls made
directly. Each call has issued the statements it would have issued, and has returned what it
would have returned. -/
theorem calls_made_as_meant (node : Node) (initial : Database)
    (actions : List (Action Sending Choice))
    (arrive : ∀ sending ∈ Service.requests actions, sending.Arrives node) :
    let wire := (network node).run (Service.idleState initial) actions
    let direct := (browsers.through (Sending.sent node)).run (Service.idleState initial)
      (Interleaving.without (asides node actions) 0 actions)
    wire.store = direct.store ∧
      List.Forall₂ SameCall (keepPlaces (asides node actions) wire.tasks) direct.tasks := by
  intro wire direct
  have rendered : wire.without (asides node actions) = direct.render onWire := by
    apply (forwards_browsers node).run_among initial actions (asides_silent node initial actions arrive)
    intro place sending asked stays
    exact ⟨arrive sending (List.mem_of_getElem? asked), by simpa [asides, asked] using stays⟩
  have tasks : keepPlaces (asides node actions) wire.tasks = direct.tasks.map (Task.render onWire) :=
    congrArg State.tasks rendered
  constructor
  · exact congrArg State.store rendered
  · rw [tasks, List.forall₂_map_left_iff, List.forall₂_same]
    intro task member
    constructor
    · rfl
    · rfl
    · rw [Task.render_answer]
      cases task.answer? with
      | none => rfl
      | some reply => exact fetched?_onWire reply

/-- A server on which whole numbers are all there is. -/
def plainNode : Node where
  baseAccepted _ := true
  authorityAccepted _ := true
  values :=
    { format := fun value => NumberLiteral.ofInt value.num
      parse := fun literal => (literal.int?.getD 0 : Int)
      prepareValue := fun _ => ""
      otherQuantity := fun _ => .missing }

/-- Two smartphones for the cart, as a method of `ApiService`. -/
def twoSmartphones : ApiMethod := .addToCart "1" 2

/-- The preflight, and then the call, whose body arrives in two pieces. -/
def addInPieces : List (Action Sending Choice) :=
  let body := encodeUtf8 (twoSmartphones.text plainNode.values)
  [.start ⟨0, twoSmartphones, true, some "localhost:3001".toList, []⟩,
    .start ⟨0, twoSmartphones, false, some "localhost:3001".toList, [body.take 10, body.drop 10]⟩,
    .proceed 1 .plain, .proceed 1 .plain, .proceed 1 .plain, .proceed 1 .plain]

/-- The smartphones are in the cart as if they had been added directly. -/
theorem pieces_made_as_meant :
    let wire := (network plainNode).run (Service.idleState freshDatabase) addInPieces
    let direct := (browsers.through (Sending.sent plainNode)).run (Service.idleState freshDatabase)
      (Interleaving.without (asides plainNode addInPieces) 0 addInPieces)
    wire.store = direct.store ∧
      List.Forall₂ SameCall (keepPlaces (asides plainNode addInPieces) wire.tasks) direct.tasks := by
  have readsBack : ∀ document ∈ twoSmartphones.document, plainNode.values.ReadsBack document := by
    intro document sent
    obtain rfl := Option.some.inj sent
    have number : plainNode.values.parse (plainNode.values.format 2) = 2 := by
      change (((NumberLiteral.ofInt 2).int?.getD 0 : Int) : Rat) = 2
      rw [NumberLiteral.int?_ofInt]
      rfl
    exact ⟨by decide, trivial, number, trivial⟩
  apply calls_made_as_meant
  intro sending member
  simp only [addInPieces, Service.requests, List.mem_cons, List.not_mem_nil, or_false] at member
  cases member with
  | inl preflight =>
    subst preflight
    exact ⟨Or.inl trivial, rfl, readsBack, rfl, by simp⟩
  | inr call =>
    subst call
    refine ⟨Or.inl trivial, rfl, readsBack, ?_, by decide⟩
    simp [Sending.text]

end ShoppingCS.Client
