import ShoppingCS.Interleaving.Forwarding
import ShoppingCS.Shop.ListenerRefinement
import ShoppingCS.Shop.SilentRequests

/-!
# The server on the wire

The instances as their clients see them: HTTP requests arrive at the listener, with any
method and target, and what is observed of an exchange is what has been sent. Behind it is
the server whose requests are operations. The listing of all orders is kept apart, since
the order of its queries is up to the pool; like a preflight and a target without an
endpoint it leaves the database alone.
-/

namespace ShoppingCS.Shop.Listener

open Interleaving Web

/-- The instances behind the load balancer, as services of HTTP: a request is a message, and
its answer is what the response object has at the end. -/
def httpServer (runtime : Runtime) :
    Service IncomingMessage Statement Statement.Result (Except Thrown Unit × ServerResponse)
      Database Choice where
  handler req := (exchange runtime req).run.interpret onQueries .fresh
  perform := execute

/-- A reply has been sent, and nothing was thrown. It is how an answer of the handlers looks
on the wire. -/
def onWire (reply : Reply) : Except Thrown Unit × ServerResponse := (.ok (), sent reply)

/-- The operation that an HTTP request asks for, unless it is the listing of all orders. -/
def forward? (runtime : Runtime) (req : IncomingMessage) : Option Request :=
  if req.method = .options then none
  else do
    let url ← runtime.newUrl req.url (base req)
    let operation ← route req.method url (runtime.readBody req.body)
    if operation = .getOrders then none else some ⟨req.sessionHeader, operation⟩

/-- The request behind the listener. Those that are not forwarded do not count. -/
def forwarded (runtime : Runtime) (req : IncomingMessage) : Request :=
  (forward? runtime req).getD ⟨none, .getHealth⟩

/-- The places of the requests that are not forwarded to a handler: preflights, and those
without a URL. -/
def unforwarded (runtime : Runtime) (actions : List (Action IncomingMessage Choice)) (place : Nat) :
    Bool :=
  match (Service.requests actions)[place]? with
  | some req => (forward? runtime req).isNone
  | none => false

/-- The actions behind the listener: those of the forwarded requests, each in the form its
handler takes. -/
def behind (runtime : Runtime) (actions : List (Action IncomingMessage Choice)) :
    List (Action Request Choice) :=
  (without (unforwarded runtime actions) 0 actions).map (Action.relabel (forwarded runtime))

/-- An effect that reads at most, so that it leaves the database as it is. -/
def Effect.Reads : Effect → Prop
  | .query statement => statement.Reads
  | _ => True

section Reading

variable {runtime : Runtime} {req : IncomingMessage}

/-- What an effect means for the database reads if the effect does. -/
theorem onQueries_reads (effect : Effect) (response : ServerResponse) (reads : effect.Reads) :
    (onQueries effect response).Issues Statement.Reads := by
  cases effect with
  | query statement => exact ⟨reads, fun _ => trivial⟩
  | _ => trivial

theorem evaluate_reads {α : Type} (value : α) : (evaluate value).run.Issues Effect.Reads :=
  Throwing.issues_attempt trivial

theorem poolQuery_reads {statement : Statement} (reads : statement.Reads) :
    (poolQuery statement).run.Issues Effect.Reads :=
  Throwing.issues_attempt reads

theorem setHeader_reads (name value : String) : (setHeader name value).run.Issues Effect.Reads :=
  Throwing.issues_attempt trivial

/-- Sending a response issues no statement, so in the sense used here it reads. -/
theorem sendResponse_reads (statusCode : Nat) (data : Body) :
    (sendResponse statusCode data).run.Issues Effect.Reads := by
  apply Throwing.issues_bind (Throwing.issues_attempt trivial)
  intro _
  apply Throwing.issues_bind (setHeader_reads _ _)
  intro _
  apply Throwing.issues_bind (setHeader_reads _ _)
  intro _
  apply Throwing.issues_bind (setHeader_reads _ _)
  intro _
  apply Throwing.issues_bind (setHeader_reads _ _)
  intro _
  apply Throwing.issues_bind
  · cases data with
    | error message => trivial
    | _ => exact evaluate_reads _
  · exact fun text => Throwing.issues_attempt trivial

/-- The listing of all orders only reads, by its own statement and those for the items. -/
theorem getOrders_reads : getOrders.run.Issues Effect.Reads := by
  apply Throwing.issues_tryCatch _ (fun _ => sendResponse_reads _ _)
  apply Throwing.issues_bind (poolQuery_reads ⟨rfl, rfl⟩)
  intro rows
  apply Throwing.issues_bind _ (fun orders => sendResponse_reads _ _)
  apply Throwing.issues_all
  intro program member
  obtain ⟨order, -, rfl⟩ := List.mem_map.mp member
  exact Throwing.issues_bind (poolQuery_reads ⟨rfl, rfl⟩) (fun items => evaluate_reads _)

/-- A route that answers at once is not followed by anything. -/
theorem answering_finished (route : Js Unit) : (answering route >>= finished req) = route := by
  rw [answering, Throwing.bind_bind]
  exact Throwing.bind_pure route

/-- A route that answers at once, under the `try` of the listener, is followed by nothing, and
neither is the answer of the `catch`. So the two are as they would be by themselves. -/
theorem caught_finished (route recover : Js Unit) :
    (tryCatch (answering route) (fun _ => answering recover) >>= finished req) =
      tryCatch route (fun _ => recover) := by
  have all (program : Program Effect Effect.Result (Except Thrown Unit)) :
      (tryCatch (answering (ExceptT.mk program)) (fun _ => answering recover) >>= finished req) =
        tryCatch (ExceptT.mk program) (fun _ => recover) := by
    induction program with
    | answer outcome =>
      cases outcome with
      | ok value => rfl
      | error thrown => exact answering_finished recover
    | halt => rfl
    | call effect resume inductionHypothesis =>
      exact congrArg (Program.call effect) (funext inductionHypothesis)
  exact all route.run

/-- What is not forwarded reads at most: a preflight, an unknown path, the health check or the
listing. -/
theorem unforwarded_reads (stays : forward? runtime req = none) :
    ((httpServer runtime).handler req).Issues Statement.Reads := by
  by_cases preflight : req.method = .options
  · change ((exchange runtime req).run.interpret onQueries .fresh).Issues _
    rw [exchange, requestListener, handleCORS, if_pos preflight]
    trivial
  · cases accepted : runtime.newUrl req.url (base req) with
    | none =>
      have passed : handleCORS req = pure false := if_neg preflight
      have thrown : newUrl runtime req = throw .invalidUrl := by rw [newUrl, accepted]
      change ((exchange runtime req).run.interpret onQueries .fresh).Issues _
      rw [exchange, requestListener, passed, thrown]
      trivial
    | some url =>
      change ((exchange runtime req).run.interpret onQueries .fresh).Issues _
      rw [exchange_eq preflight accepted]
      cases target : route req.method url (runtime.readBody req.body) with
      | none =>
        change (tryCatch (answering _) _ >>= finished req).run.interpret _ _ |>.Issues _
        rw [caught_finished]
        trivial
      | some operation =>
        have listing : operation = .getOrders := by
          by_contra other
          simp [forward?, preflight, accepted, target, other] at stays
        subst listing
        apply Program.Issues.interpret onQueries _ onQueries_reads
        change (tryCatch (answering getOrders) _ >>= finished req).run.Issues Effect.Reads
        rw [caught_finished]
        exact Throwing.issues_tryCatch getOrders_reads (fun _ => sendResponse_reads _ _)

/-- What is forwarded is answered by its handler, with the same statements in between. This is
the refinement, request by request. -/
theorem forwards_server (runtime : Runtime) :
    (httpServer runtime).Forwards (server.through (forwarded runtime)) onWire
      (fun req => (forward? runtime req).isSome) where
  handler := by
    intro req passed
    obtain ⟨request, found⟩ := Option.isSome_iff_exists.mp passed
    have same : forwarded runtime req = request := by rw [forwarded, found, Option.getD_some]
    change _ = (handle (forwarded runtime req)).render onWire
    rw [same]
    unfold forward? at found
    split_ifs at found with preflight
    obtain ⟨url, accepted, found⟩ := Option.bind_eq_some_iff.mp found
    obtain ⟨operation, target, found⟩ := Option.bind_eq_some_iff.mp found
    split_ifs at found with listing
    obtain rfl := Option.some.inj found
    have sends := listener_refines_handlers preflight accepted
      (by rw [target]; exact fun same => listing (Option.some.inj same))
    rw [target] at sends
    exact sends
  perform := rfl

end Reading

/-- What a client observes of an exchange, and the request that has been served. -/
structure Shows (runtime : Runtime)
    (observed : Task IncomingMessage Statement Statement.Result (Except Thrown Unit × ServerResponse))
    (served : ShopTask) : Prop where
  request : forward? runtime observed.request = some served.request
  trace : observed.trace = served.trace
  answer : observed.answer? = served.answer?.map onWire

/-- The requests that are not forwarded never write, so leaving them out of a run changes
nothing for the others. -/
theorem unforwarded_silent (runtime : Runtime) (initial : Database)
    (actions : List (Action IncomingMessage Choice)) :
    (httpServer runtime).Along ((httpServer runtime).Silent (unforwarded runtime actions))
      (Service.idleState initial) actions := by
  apply (httpServer runtime).silent_of_issues Statement.Reads
  · exact fun statement choice database reads => execute_unchanged reads choice database
  · intro place req asked gone
    have stays : forward? runtime req = none := by
      simpa [unforwarded, asked] using gone
    exact unforwarded_reads stays

/-- In every run of the instances with any HTTP requests whatever, the database is the one
of the server that serves the operations asked for, at the same turns; each exchange
has issued the statements of its operation, and has sent its reply once it is there. The
listings of all orders, the preflights and what is asked in vain are all that is missing. -/
theorem wire_refines_server (runtime : Runtime) (initial : Database)
    (actions : List (Action IncomingMessage Choice)) :
    let wire := (httpServer runtime).run (Service.idleState initial) actions
    let served := server.run (Service.idleState initial) (behind runtime actions)
    wire.store = served.store ∧
      List.Forall₂ (Shows runtime) (keepPlaces (unforwarded runtime actions) wire.tasks)
        served.tasks := by
  intro wire served
  let left := without (unforwarded runtime actions) 0 actions
  let middle := (server.through (forwarded runtime)).run (Service.idleState initial) left
  have outside : wire.without (unforwarded runtime actions) = middle.render onWire := by
    apply (forwards_server runtime).run_among initial actions
      (unforwarded_silent runtime initial actions)
    intro place req asked stays
    simpa [unforwarded, asked, Option.isSome_iff_ne_none] using stays
  have inside : middle.relabel (forwarded runtime) = served :=
    server.run_through (forwarded runtime) (Service.idleState initial) left
  have observed : keepPlaces (unforwarded runtime actions) wire.tasks =
      middle.tasks.map (Task.render onWire) :=
    congrArg State.tasks outside
  have kept : ∀ task ∈ keepPlaces (unforwarded runtime actions) wire.tasks,
      (forward? runtime task.request).isSome := by
    intro task member
    obtain ⟨index, stays, present⟩ := mem_keepPlaces member
    rw [unforwarded, (httpServer runtime).run_idle_request initial actions present] at stays
    simpa [Option.isSome_iff_ne_none] using stays
  constructor
  · calc wire.store
      _ = (wire.without (unforwarded runtime actions)).store := rfl
      _ = (middle.render onWire).store := congrArg State.store outside
      _ = (middle.relabel (forwarded runtime)).store := rfl
      _ = served.store := congrArg State.store inside
  · rw [observed] at kept ⊢
    rw [← inside]
    change List.Forall₂ _ _ (middle.tasks.map (Task.relabel (forwarded runtime)))
    rw [List.forall₂_map_left_iff, List.forall₂_map_right_iff, List.forall₂_same]
    intro task member
    obtain ⟨request, found⟩ :=
      Option.isSome_iff_exists.mp (kept _ (List.mem_map_of_mem member))
    have same : forwarded runtime task.request = request := by
      rw [forwarded, show forward? runtime task.request = some request from found, Option.getD_some]
    constructor
    · exact found.trans (congrArg some same.symm)
    · rfl
    · exact Task.render_answer onWire task

end ShoppingCS.Shop.Listener
