import Mathlib.Data.List.Induction
import ShoppingCS.Interleaving.Linearization
import ShoppingCS.Shop.Sessions

/-!
# Cart updates are linearizable

The updates of one session's cart, interleaved statement by statement, leave the
cart that some sequential execution of the acknowledged ones leaves, each taking
effect while it is in progress. A refused update has no part in it.

Every update takes effect at its writing statement, with one exception. A POST
that has seen the row of its product issues an UPDATE, which finds nothing when
the row has been deleted in the meantime. Such a POST takes effect just before a
deletion of its product that happened after the row was seen. The deletion hides
it, so nothing is lost. `Linear` keeps such a deletion at hand for every POST
that has seen a row which is not there any more.
-/

namespace ShoppingCS.Shop

open Interleaving Storage Program

/-- What an update means. A quantity of zero or less removes the product; without
a number there is nothing to add or to set. -/
def Operation.update? : Operation → Option CartOperation
  | .postCart (some ⟨some productId, .integer quantity⟩) => some (.add productId quantity)
  | .putCart productId (some quantity) =>
    if quantity.nonpositive then some (.remove productId)
    else
      match quantity with
      | .integer value => some (.set productId value)
      | _ => none
  | .deleteCartItem productId => some (.remove productId)
  | .deleteCart => some .clear
  | _ => none

/-- The cart after a request in the abstract, where a request is executed as a whole. -/
def updated (request : Request) (cart : Cart) : Cart :=
  match request.operation.update? with
  | some operation => operation.apply cart
  | none => cart

/-- The request is an update of the session's cart that was answered 200. -/
def Acknowledged (sessionId : String) (task : ShopTask) : Prop :=
  sessionOf task = sessionId ∧ task.request.operation.updatesCart = true ∧
    ∃ reply, task.answer? = some reply ∧ reply.status = 200

section Updates

/-- A request that only reads has no settled trace and waits for no write. -/
theorem reads_unsettled {request : Request} {trace : Trace} {program : Handler}
    (reads : request.operation.updatesCart = false) (plain : request.operation.isCheckout = false)
    (follows : Follows (handle request) trace program) :
    settled trace = false ∧
      ∀ statement, program.pending? = some statement → statement.writesCart = false := by
  obtain ⟨executed, remaining⟩ := (issues_reads request reads plain).follows follows
  refine ⟨List.any_eq_false.mpr ?_, ?_⟩
  · intro event recorded
    exact Bool.eq_false_iff.mp (settles_reads (executed event recorded).1)
  · intro statement waits
    cases program with
    | answer value => simp at waits
    | halt => simp at waits
    | call command resume =>
      obtain rfl := Option.some.inj waits
      exact remaining.1.1

/-- What the writing statement of an update does when it has run: what the
request means, except that an additive UPDATE may find no row. -/
def Performs (sessionId : String) (operation : Operation) (statement : Statement) : Prop :=
  (∀ rows, written statement (.ok rows) = operation.update?.map (Prod.mk sessionId)) ∨
    ∃ productId quantity, operation.update? = some (.add productId quantity) ∧
      statement = .increaseQuantity (.integer quantity) (some productId) sessionId

/-- A POST that succeeds performs the addition its body stands for, by the UPDATE as by the
INSERT. -/
theorem performs_postCart {sessionId : String} {body : CartBody} {statement : Statement}
    (write : statement = .increaseQuantity body.quantity body.productId sessionId ∨
      statement = .insertCartItem body.productId body.quantity sessionId) :
    Performs sessionId (.postCart (some body)) statement := by
  obtain ⟨productId, quantity⟩ := body
  cases productId with
  | none => rcases write with rfl | rfl <;> exact Or.inl (fun rows => by simp [written, Operation.update?])
  | some productId =>
    cases quantity with
    | integer quantity =>
      rcases write with rfl | rfl
      · exact Or.inr ⟨productId, quantity, rfl, rfl⟩
      · exact Or.inl (fun rows => rfl)
    | missing => rcases write with rfl | rfl <;> exact Or.inl (fun rows => rfl)
    | null => rcases write with rfl | rfl <;> exact Or.inl (fun rows => rfl)
    | malformed => rcases write with rfl | rfl <;> exact Or.inl (fun rows => rfl)

/-- The one writing statement of `PUT /api/cart/:id`, which its quantity decides. -/
def putWrite (sessionId productId : String) (quantity : Quantity) : Statement :=
  if quantity.nonpositive then .deleteCartItem productId sessionId
  else .setQuantity quantity productId sessionId

/-- A PUT with a readable body writes once and then sends the cart. -/
theorem putCart_eq (sessionId productId : String) (quantity : Quantity) :
    putCart sessionId productId (some quantity) =
      query invalidBody (putWrite sessionId productId quantity)
        (fun _ => respondCart invalidBody sessionId) := by
  unfold putCart putWrite
  dsimp only
  cases quantity.nonpositive with
  | true => rfl
  | false => rfl

/-- A PUT that succeeds performs what its body stands for, by either of its two statements. -/
theorem performs_putCart (sessionId productId : String) (quantity : Quantity) :
    Performs sessionId (.putCart productId (some quantity))
      (putWrite sessionId productId quantity) := by
  apply Or.inl
  unfold putWrite Operation.update?
  dsimp only
  cases quantity.nonpositive with
  | true => exact fun rows => rfl
  | false =>
    cases quantity with
    | integer value => exact fun rows => rfl
    | missing => exact fun rows => rfl
    | null => exact fun rows => rfl
    | malformed other => exact fun rows => rfl

/-- What is known of an update about to write: it has not settled, its statement
performs what it means, and an UPDATE that adds has been preceded by a lookup that
found the row. -/
structure AboutToWrite (sessionId : String) (operation : Operation) (trace : Trace)
    (statement : Statement) : Prop where
  unsettled : settled trace = false
  performs : Performs sessionId operation statement
  seen : ∀ quantity productId owner, statement = .increaseQuantity quantity (some productId) owner →
    ∃ asked products existing, existing ≠ [] ∧
      trace = [passed (.selectProduct asked) products,
        passed (.selectCartItem (some productId) sessionId) existing]

/-- A statement that writes before anything else has been executed. -/
theorem aboutToWrite_first {sessionId : String} {operation : Operation} {statement : Statement}
    (performs : Performs sessionId operation statement)
    (other : ∀ quantity productId owner, statement ≠ .increaseQuantity quantity productId owner) :
    AboutToWrite sessionId operation [] statement where
  unsettled := rfl
  performs := performs
  seen := fun quantity productId owner same => absurd same (other quantity (some productId) owner)

/-- The PUT never adds: it sets the quantity of a row that is there or deletes it. -/
theorem putWrite_sets (sessionId productId : String) (quantity : Quantity) :
    (putWrite sessionId productId quantity).writesCart = true ∧
      ∀ added other owner,
        putWrite sessionId productId quantity ≠ .increaseQuantity added other owner := by
  unfold putWrite
  cases quantity.nonpositive with
  | true => exact ⟨rfl, fun _ _ _ => Statement.noConfusion⟩
  | false => exact ⟨rfl, fun _ _ _ => Statement.noConfusion⟩

/-- A request of the session that waits for a cart write is an update about to
write. -/
theorem update_writing {task : ShopTask} (plain : task.request.operation.isCheckout = false)
    (follows : Follows (handle task.request) task.trace task.program) {statement : Statement}
    (waits : task.program.pending? = some statement) (writing : statement.writesCart = true) :
    AboutToWrite (sessionOf task) task.request.operation task.trace statement := by
  by_cases reads : task.request.operation.updatesCart = false
  · obtain ⟨-, silent⟩ := reads_unsettled reads plain follows
    exact absurd writing (Bool.eq_false_iff.mp (silent statement waits))
  · unfold handle at follows
    cases asked : task.request.operation with
    | postCart body =>
      rw [asked] at follows
      cases body with
      | none =>
        obtain ⟨-, ended⟩ := (follows_answer _ _ _).mp follows
        simp [ended] at waits
      | some body =>
        obtain ⟨products, existing, located, write⟩ :=
          postCart_storing (postCart_at follows) waits writing
        refine ⟨by rw [located]; rfl, performs_postCart (write.imp_left And.right), ?_⟩
        rintro quantity productId owner rfl
        rcases write with ⟨nonempty, same⟩ | impossible
        · obtain ⟨-, product, -⟩ := Statement.increaseQuantity.inj same
          exact ⟨_, products, existing, nonempty, by rw [located, ← product]; rfl⟩
        · exact absurd impossible Statement.noConfusion
    | putCart productId body =>
      rw [asked] at follows
      cases body with
      | none =>
        obtain ⟨-, ended⟩ := (follows_answer _ _ _).mp follows
        simp [ended] at waits
      | some quantity =>
        have putting : Follows (putCart _ productId (some quantity)) _ _ := follows
        rw [putCart_eq] at putting
        rcases write_pending (write_at putting) waits with ⟨empty, rfl⟩ | rfl
        · rw [empty]
          exact aboutToWrite_first (performs_putCart _ productId quantity)
            (putWrite_sets _ productId quantity).2
        · simp at writing
    | deleteCartItem productId =>
      rw [asked] at follows
      rcases write_pending (write_at follows) waits with ⟨empty, rfl⟩ | rfl
      · rw [empty]
        exact aboutToWrite_first (Or.inl (fun rows => rfl)) (fun _ _ _ => Statement.noConfusion)
      · simp at writing
    | deleteCart =>
      rw [asked] at follows
      rcases follows_deleteCart follows with ⟨empty, same⟩ | ⟨error, -, same⟩ | ⟨count, -, same⟩
      · rw [same] at waits
        obtain rfl := Option.some.inj waits
        rw [empty]
        exact aboutToWrite_first (Or.inl (fun rows => rfl)) (fun _ _ _ => Statement.noConfusion)
      · simp [same] at waits
      · simp [same] at waits
    | getHealth => simp [asked, Operation.updatesCart] at reads
    | getProducts => simp [asked, Operation.updatesCart] at reads
    | getProduct => simp [asked, Operation.updatesCart] at reads
    | getCart => simp [asked, Operation.updatesCart] at reads
    | getOrders => simp [asked, Operation.updatesCart] at reads
    | getOrder => simp [asked, Operation.updatesCart] at reads
    | postOrders => simp [asked, Operation.isCheckout] at plain

/-- The only statements of the trace that failed are writes, and reads whose parameters
the database does not take. -/
def ReadsSucceed (trace : Trace) : Prop :=
  ∀ statement error, failed statement error ∈ trace →
    statement.writesCart = true ∨ statement.holdsNul = true

/-- A handler that writes once has answered 200 exactly when its write has run. -/
theorem write_acknowledged {rejected reply : Reply} {sessionId : String} {write : Statement}
    {trace : Trace} (writing : write.writesCart = true) (status : rejected.status ≠ 200)
    (point : WriteAt rejected sessionId write trace (.answer reply)) (reads : ReadsSucceed trace) :
    settled trace = true ↔ reply.status = 200 := by
  rcases write_answered point rfl with
    ⟨rows, lines, rfl, accepted⟩ | ⟨rows, error, rfl⟩ | ⟨error, rfl, rfl⟩
  · simp only [settled_cons, settles_passed, writing, accepted, Bool.true_or]
  · exact absurd (reads (.selectCart sessionId) error (by simp)) (by simp [Statement.holdsNul])
  · simp [status]

/-- A request that has answered, with all its reads, is an update answered 200
exactly when its write has run. -/
theorem update_answered {task : ShopTask} (plain : task.request.operation.isCheckout = false)
    (follows : Follows (handle task.request) task.trace task.program) {reply : Reply}
    (answer : task.program = .answer reply) (reads : ReadsSucceed task.trace) :
    settled task.trace = true ↔
      task.request.operation.updatesCart = true ∧ reply.status = 200 := by
  by_cases silent : task.request.operation.updatesCart = false
  · simp [(reads_unsettled silent plain follows).1, silent]
  · have update : task.request.operation.updatesCart = true := by simpa using silent
    rw [answer] at follows
    unfold handle at follows
    suffices settled task.trace = true ↔ reply.status = 200 by simp [this, update]
    cases asked : task.request.operation with
    | postCart body =>
      rw [asked] at follows
      cases body with
      | none =>
        obtain ⟨empty, ended⟩ := (follows_answer _ _ _).mp follows
        obtain rfl := Program.answer.inj ended
        simp [empty, invalidBody, Reply.error]
      | some body =>
        rcases postCart_answered (postCart_at follows) rfl with
          ⟨products, existing, write, rows, stores, trace, rfl⟩ |
            ⟨write, error, before, trace, -⟩ | ⟨status, unsettled, -⟩
        · have settling : settles write = true := by cases stores <;> rfl
          simp [trace, settling]
        · exact absurd (reads (.selectCart (getSessionId task.request)) error (by simp [trace]))
            (by simp [Statement.holdsNul])
        · simp [unsettled, status]
    | putCart productId body =>
      rw [asked] at follows
      cases body with
      | none =>
        obtain ⟨empty, ended⟩ := (follows_answer _ _ _).mp follows
        obtain rfl := Program.answer.inj ended
        simp [empty, invalidBody, Reply.error]
      | some quantity =>
        have putting : Follows (putCart _ productId (some quantity)) _ _ := follows
        rw [putCart_eq] at putting
        exact write_acknowledged (putWrite_sets _ productId quantity).1 (by decide)
          (write_at putting) reads
    | deleteCartItem productId =>
      rw [asked] at follows
      exact write_acknowledged rfl (by decide) (write_at follows) reads
    | deleteCart =>
      rw [asked] at follows
      rcases follows_deleteCart follows with ⟨-, same⟩ | ⟨error, trace, same⟩ | ⟨count, trace, same⟩
      · have ended := congrArg pending? same
        simp [deleteCart] at ended
      · obtain rfl := Program.answer.inj same
        simp [trace, Reply.error]
      · obtain rfl := Program.answer.inj same
        simp [trace]
    | getHealth => simp [asked, Operation.updatesCart] at update
    | getProducts => simp [asked, Operation.updatesCart] at update
    | getProduct => simp [asked, Operation.updatesCart] at update
    | getCart => simp [asked, Operation.updatesCart] at update
    | getOrders => simp [asked, Operation.updatesCart] at update
    | getOrder => simp [asked, Operation.updatesCart] at update
    | postOrders => simp [asked, Operation.isCheckout] at plain

end Updates

section Run

/-- The operation is no checkout, to which the linearization is limited. -/
def NoCheckout (operation : Operation) : Prop := operation.isCheckout = false

instance : DecidablePred NoCheckout := fun operation =>
  inferInstanceAs (Decidable (operation.isCheckout = false))

variable {sessionId : String} {initial : Database} {actions : List (Action Request Choice)}
  {effects : List (Effect Request)}

/-- Where a session's task stands that waits for the UPDATE of an add. -/
def WaitsToAdd (sessionId productId : String) (task : ShopTask) : Prop :=
  sessionOf task = sessionId ∧
    ∃ quantity owner, task.program.pending? = some (.increaseQuantity quantity (some productId) owner)

/-- A removal of the product that took effect while the task was running. -/
def Covered (initial : Database) (actions : List (Action Request Choice))
    (effects : List (Effect Request)) (index : Nat) (productId : String) : Prop :=
  ∃ effect ∈ effects,
    (∃ operation, effect.request.operation.update? = some operation ∧ operation.Removes productId) ∧
      (server.run (Service.idleState initial) (actions.take effect.moment)).Running index

/-- The effects so far explain the cart so far. The tasks that have taken effect
are those that have settled, and an add that has seen its row can still take
effect: the row is there, or a removal covers the add. -/
structure Linear (sessionId : String) (initial : Database) (actions : List (Action Request Choice))
    (effects : List (Effect Request)) : Prop where
  linearizes : server.Linearizes updated (Service.idleState initial) actions effects
    (initial.cart sessionId)
    ((server.run (Service.idleState initial) actions).store.cart sessionId)
  settled : ∀ index task,
    (server.run (Service.idleState initial) actions).tasks[index]? = some task →
    (index ∈ effects.map (·.index) ↔ sessionOf task = sessionId ∧ Shop.settled task.trace = true)
  covered : ∀ index task productId,
    (server.run (Service.idleState initial) actions).tasks[index]? = some task →
    WaitsToAdd sessionId productId task →
    (server.run (Service.idleState initial) actions).store.cart sessionId productId = none →
    Covered initial actions effects index productId

/-- An add that was covered stays covered when an effect is added behind the others. -/
theorem Covered.extend {extended : List (Effect Request)} {index : Nat} {productId : String}
    (covered : Covered initial actions effects index productId)
    (linear : Linear sessionId initial actions effects) (action : Action Request Choice)
    (keeps : ∀ effect ∈ effects, effect ∈ extended) :
    Covered initial (actions ++ [action]) extended index productId := by
  obtain ⟨effect, member, removes, running⟩ := covered
  refine ⟨effect, keeps effect member, removes, ?_⟩
  rw [linear.linearizes.past action member]
  exact running

/-- A request that has taken effect has been accepted before. -/
theorem Linear.inside (linear : Linear sessionId initial actions effects) {index : Nat}
    (member : index ∈ effects.map (·.index)) :
    index < (server.run (Service.idleState initial) actions).tasks.length := by
  obtain ⟨effect, present, rfl⟩ := List.mem_map.mp member
  have asked := (List.getElem?_eq_some_iff.mp (linear.linearizes.asked effect present)).1
  simpa using asked

/-- The waiting add of a session has just seen its row. -/
theorem waits_seen {state : ShopState} (traced : server.Traced state) {task : ShopTask}
    (member : task ∈ state.tasks) (plain : task.request.operation.isCheckout = false)
    {productId : String} (waits : WaitsToAdd sessionId productId task) :
    ∃ asked products existing, existing ≠ [] ∧
      task.trace = [passed (.selectProduct asked) products,
        passed (.selectCartItem (some productId) sessionId) existing] := by
  obtain ⟨rfl, quantity, owner, waits⟩ := waits
  exact (update_writing plain (traced task member) waits rfl).seen quantity productId owner rfl

/-- Accepting a request changes neither the cart nor the effects, so the linearization stays
one. -/
theorem linear_start (linear : Linear sessionId initial actions effects) (request : Request)
    (plain : getSessionId request = sessionId → NoCheckout request.operation) :
    Linear sessionId initial (actions ++ [.start request]) effects := by
  have next : server.run (Service.idleState initial) (actions ++ [.start request]) =
      { store := (server.run (Service.idleState initial) actions).store
        tasks := (server.run (Service.idleState initial) actions).tasks ++
          [server.accept request] } := server.run_append _ actions _
  have accepted (index : Nat) (task : ShopTask)
      (present : (server.run (Service.idleState initial)
        (actions ++ [.start request])).tasks[index]? = some task) :
      (server.run (Service.idleState initial) actions).tasks[index]? = some task ∨
        (task = server.accept request ∧
          (server.run (Service.idleState initial) actions).tasks.length ≤ index) := by
    rw [next, List.getElem?_append] at present
    split at present
    · exact Or.inl present
    · rename_i outside
      refine Or.inr ⟨?_, Nat.le_of_not_lt outside⟩
      exact List.mem_singleton.mp (List.mem_of_getElem? present)
  refine ⟨?_, ?_, ?_⟩
  · have kept := linear.linearizes.idle (.start request)
    rwa [next]
  · intro index task present
    rcases accepted index task present with present | ⟨rfl, outside⟩
    · exact linear.settled index task present
    · have absent : index ∉ effects.map (·.index) :=
        fun member => absurd (linear.inside member) (Nat.not_lt.mpr outside)
      simp [absent, Service.accept]
  · intro index task productId present waits absent
    rcases accepted index task present with present | ⟨rfl, outside⟩
    · rw [next] at absent
      exact (linear.covered index task productId present waits absent).extend linear _
        (fun _ member => member)
    · have traced : server.Traced { store := initial, tasks := [server.accept request] } := by
        intro task member
        obtain rfl := List.mem_singleton.mp member
        exact .here _
      obtain ⟨asked, products, existing, -, trace⟩ :=
        waits_seen traced List.mem_cons_self (plain waits.1) waits
      exact absurd trace (by simp [Service.accept])

section Proceed

variable {index : Nat} {choice : Choice} {task : ShopTask} {command : Statement}
  {resume : command.Result → Handler} {result : command.Result} {database : Database}

/-- The run continues with the pending statement of one task. -/
structure Executes (initial : Database) (actions : List (Action Request Choice)) (index : Nat)
    (choice : Choice) (task : ShopTask) (command : Statement) (resume : command.Result → Handler)
    (result : command.Result) (database : Database) : Prop where
  traced : server.Traced (server.run (Service.idleState initial) actions)
  present : (server.run (Service.idleState initial) actions).tasks[index]? = some task
  pending : task.program = .call command resume
  executed : execute command choice (server.run (Service.idleState initial) actions).store =
    (result, database)
  next : server.run (Service.idleState initial) (actions ++ [.proceed index choice]) =
    { store := database
      tasks := (server.run (Service.idleState initial) actions).tasks.set index
        (task.advance command resume result) }

namespace Executes

variable (executes : Executes initial actions index choice task command resume result database)

include executes

/-- A task that waits for a statement has not answered, so it is still running. -/
theorem running : (server.run (Service.idleState initial) actions).Running index :=
  ⟨task, executes.present, task.pending_unanswered executes.pending⟩

theorem asked : ((server.run (Service.idleState initial) actions).tasks.map
    (·.request))[index]? = some task.request := by
  simp [executes.present]

/-- The statement changes the cart by what its result reports, and by nothing else. -/
theorem cart : database.cart sessionId = performed sessionId (written command result)
    ((server.run (Service.idleState initial) actions).store.cart sessionId) := by
  have changed := cart_execute command choice
    (server.run (Service.idleState initial) actions).store sessionId
  rwa [executes.executed] at changed

/-- A request of another session leaves the cart of this one alone, by the ownership of carts.
-/
theorem cart_of_other (other : sessionOf task ≠ sessionId) : database.cart sessionId =
    (server.run (Service.idleState initial) actions).store.cart sessionId := by
  have kept := Shop.cart_of_other executes.traced (List.mem_of_getElem? executes.present)
    executes.pending other choice
  rwa [executes.executed] at kept

/-- An add that waits after a statement has just looked its row up, and it is
still there. -/
theorem finds (plain : NoCheckout task.request.operation) {productId : String}
    (waits : WaitsToAdd sessionId productId (task.advance command resume result)) :
    settles ⟨command, result⟩ = false ∧
      (server.run (Service.idleState initial) actions).store.cart sessionId productId ≠ none := by
  have follows := executes.traced task (List.mem_of_getElem? executes.present)
  rw [executes.pending] at follows
  have alone : server.Traced { store := initial, tasks := [task.advance command resume result] } := by
    intro other member
    obtain rfl := List.mem_singleton.mp member
    exact follows.extend result
  obtain ⟨asked, products, existing, nonempty, trace⟩ :=
    waits_seen alone List.mem_cons_self plain waits
  rw [Task.advance_trace] at trace
  have last : (⟨command, result⟩ : Event Statement Statement.Result) =
      passed (.selectCartItem (some productId) sessionId) existing := by
    simpa using congrArg List.getLast? trace
  obtain ⟨rfl, found⟩ := Event.mk.inj last
  refine ⟨settles_reads rfl, ?_⟩
  refine @selectCartItem_found productId sessionId choice _ existing ?_ nonempty
  rw [executes.executed]
  exact eq_of_heq found

end Executes

/-- After a statement the effects explain the cart again, when they have grown by
no effect but that of the executed task, and when every product that has vanished
has been removed by an effect of this step. -/
theorem linear_proceed (linear : Linear sessionId initial actions effects)
    (executes : Executes initial actions index choice task command resume result database)
    {extended : List (Effect Request)}
    (linearizes : server.Linearizes updated (Service.idleState initial)
      (actions ++ [.proceed index choice]) extended (initial.cart sessionId)
      (database.cart sessionId))
    (keeps : ∀ effect ∈ effects, effect ∈ extended)
    (others : ∀ position, position ≠ index →
      (position ∈ extended.map (·.index) ↔ position ∈ effects.map (·.index)))
    (moved : index ∈ extended.map (·.index) ↔ sessionOf task = sessionId ∧
      (Shop.settled task.trace = true ∨ settles ⟨command, result⟩ = true))
    (finds : ∀ productId, WaitsToAdd sessionId productId (task.advance command resume result) →
      database.cart sessionId productId ≠ none)
    (vanished : ∀ productId, database.cart sessionId productId = none →
      (server.run (Service.idleState initial) actions).store.cart sessionId productId = none ∨
        ∃ effect ∈ extended, effect.moment = actions.length ∧
          ∃ operation, effect.request.operation.update? = some operation ∧
            operation.Removes productId) :
    Linear sessionId initial (actions ++ [.proceed index choice]) extended := by
  refine ⟨by rw [executes.next]; exact linearizes, ?_, ?_⟩
  · intro position other located
    rw [executes.next] at located
    rcases set_lookup located with ⟨rfl, rfl⟩ | ⟨different, located⟩
    · simpa [sessionOf] using moved
    · exact (others position different).trans (linear.settled position other located)
  · intro position other productId located waits absent
    rw [executes.next] at located absent
    rcases set_lookup located with ⟨rfl, rfl⟩ | ⟨different, located⟩
    · exact absurd absent (finds productId waits)
    · rcases vanished productId absent with before | ⟨effect, member, now, removes⟩
      · exact (linear.covered position other productId located waits before).extend linear _ keeps
      · obtain ⟨-, quantity, owner, asked⟩ := waits
        refine ⟨effect, member, removes, ?_⟩
        rw [now, List.take_left]
        refine ⟨other, located, ?_⟩
        cases program : other.program with
        | answer value => simp [program] at asked
        | halt => simp [program] at asked
        | call statement later => exact other.pending_unanswered program

/-- A statement that is no write, or fails, or belongs to another session leaves
the effects as they are. -/
theorem linear_silent (linear : Linear sessionId initial actions effects)
    (executes : Executes initial actions index choice task command resume result database)
    (plain : sessionOf task = sessionId → NoCheckout task.request.operation)
    (silent : sessionOf task = sessionId → settles ⟨command, result⟩ = false) :
    Linear sessionId initial (actions ++ [.proceed index choice]) effects := by
  have same : database.cart sessionId =
      (server.run (Service.idleState initial) actions).store.cart sessionId := by
    by_cases own : sessionOf task = sessionId
    · have performs : written command result = none := by
        by_contra performs
        have settling := @settles_of_written ⟨command, result⟩ performs
        simp [silent own] at settling
      rw [executes.cart, performs]
      rfl
    · exact executes.cart_of_other own
  refine linear_proceed linear executes ?_ (fun _ member => member) (fun _ _ => Iff.rfl) ?_ ?_ ?_
  · rw [same]
    exact linear.linearizes.idle _
  · rw [linear.settled index task executes.present]
    exact and_congr_right (fun own => by simp [silent own])
  · intro productId waits
    rw [same]
    exact (executes.finds (plain waits.1) waits).2
  · intro productId absent
    rw [same] at absent
    exact Or.inl absent

/-- An update whose statement performs what it means takes effect now. -/
theorem linear_now (linear : Linear sessionId initial actions effects)
    (executes : Executes initial actions index choice task command resume result database)
    (own : sessionOf task = sessionId) (plain : NoCheckout task.request.operation)
    (unsettled : Shop.settled task.trace = false) (settling : settles ⟨command, result⟩ = true)
    (performs : written command result =
      task.request.operation.update?.map (Prod.mk sessionId)) :
    Linear sessionId initial (actions ++ [.proceed index choice])
      (effects ++ [⟨actions.length, index, task.request⟩]) := by
  have fresh : index ∉ effects.map (·.index) := by
    rw [linear.settled index task executes.present]
    simp [unsettled]
  have changed : database.cart sessionId = updated task.request
      ((server.run (Service.idleState initial) actions).store.cart sessionId) := by
    rw [executes.cart, performs]
    unfold updated
    cases task.request.operation.update? with
    | none => rfl
    | some operation => exact if_pos rfl
  refine linear_proceed linear executes ?_ (fun _ member => List.mem_append_left _ member) ?_ ?_ ?_ ?_
  · rw [changed]
    exact linear.linearizes.now _ executes.running executes.asked fresh
  · intro position different
    simp [different]
  · simp [own, settling]
  · intro productId waits
    have reads := (executes.finds plain waits).1
    simp [settling] at reads
  · intro productId absent
    by_cases before : (server.run (Service.idleState initial) actions).store.cart sessionId
        productId = none
    · exact Or.inl before
    · refine Or.inr ⟨_, List.mem_append_right _ (List.mem_singleton.mpr rfl), rfl, ?_⟩
      rw [changed] at absent
      unfold updated at absent
      cases means : task.request.operation.update? with
      | none => exact absurd (by simpa [means] using absent) before
      | some operation =>
        refine ⟨operation, rfl, CartOperation.removes_of_none before ?_⟩
        simpa [means] using absent

/-- An add that finds no row takes effect just before a removal of its product. -/
theorem linear_earlier (linear : Linear sessionId initial actions effects)
    (executes : Executes initial actions index choice task command resume result database)
    (own : sessionOf task = sessionId) (plain : NoCheckout task.request.operation)
    (unsettled : Shop.settled task.trace = false) (settling : settles ⟨command, result⟩ = true)
    (performs : written command result = none) {productId : String} {quantity : Int}
    (adds : task.request.operation.update? = some (.add productId quantity))
    (covered : Covered initial actions effects index productId) :
    ∃ extended, Linear sessionId initial (actions ++ [.proceed index choice]) extended := by
  have fresh : index ∉ effects.map (·.index) := by
    rw [linear.settled index task executes.present]
    simp [unsettled]
  have same : database.cart sessionId =
      (server.run (Service.idleState initial) actions).store.cart sessionId := by
    rw [executes.cart, performs]
    rfl
  obtain ⟨cover, member, ⟨operation, means, removes⟩, running⟩ := covered
  have hides (model : Cart) :
      updated cover.request (updated task.request model) = updated cover.request model := by
    simp only [updated, means, adds]
    exact CartOperation.removes_absorbs removes quantity model
  obtain ⟨extended, permuted, linearizes⟩ := linear.linearizes.earlier
    (.proceed index choice) member running executes.asked fresh hides
  have members (position : Nat) : position ∈ extended.map (·.index) ↔
      position = index ∨ position ∈ effects.map (·.index) := by
    rw [(permuted.map _).mem_iff, List.map_cons, List.mem_cons]
  refine ⟨extended, linear_proceed linear executes ?_ ?_ ?_ ?_ ?_ ?_⟩
  · rw [same]
    exact linearizes
  · exact fun effect present => permuted.mem_iff.mpr (List.mem_cons_of_mem _ present)
  · intro position different
    rw [members position]
    simp [different]
  · rw [members index]
    simp [own, settling]
  · intro other waits
    have reads := (executes.finds plain waits).1
    simp [settling] at reads
  · intro other absent
    rw [same] at absent
    exact Or.inl absent

/-- An additive update that has run has run on a working connection. -/
theorem increaseQuantity_executed {quantity : Quantity} {productId : Option String}
    {owner : String} {before after : Database} {count : Nat}
    (executed : execute (.increaseQuantity quantity productId owner) choice before =
      (.ok count, after)) : (before.increaseQuantity quantity productId owner).1 = .ok count := by
  have carried := (execute_ok (congrArg Prod.fst executed)).2.2
  rw [carried, carryOut] at executed
  rw [executed]

/-- Every statement leaves effects that explain the cart: those from before, or these and one
more for the writing request. -/
theorem linear_execute (linear : Linear sessionId initial actions effects)
    (executes : Executes initial actions index choice task command resume result database)
    (plain : sessionOf task = sessionId → NoCheckout task.request.operation) :
    ∃ extended, Linear sessionId initial (actions ++ [.proceed index choice]) extended := by
  by_cases silent : sessionOf task = sessionId → settles ⟨command, result⟩ = false
  · exact ⟨effects, linear_silent linear executes plain silent⟩
  · rw [not_forall] at silent
    obtain ⟨own, settling⟩ := silent
    have settling : settles ⟨command, result⟩ = true := by simpa using settling
    have waits : task.program.pending? = some command := by
      rw [executes.pending]
      rfl
    have writing : command.writesCart = true := by
      by_contra reads
      have silent := @settles_reads ⟨command, result⟩ (Bool.eq_false_iff.mpr reads)
      simp [settling] at silent
    have about := update_writing (plain own) (executes.traced task
      (List.mem_of_getElem? executes.present)) waits writing
    cases result with
    | error error => exact absurd settling (by simp [settles])
    | ok rows =>
      by_cases performs : written command (.ok rows) =
          task.request.operation.update?.map (Prod.mk sessionId)
      · exact ⟨_, linear_now linear executes own (plain own) about.unsettled settling performs⟩
      · rcases about.performs with always | ⟨productId, quantity, adds, rfl⟩
        · exact absurd (own ▸ always rows) performs
        · have missed : written (.increaseQuantity (.integer quantity) (some productId)
              (sessionOf task)) (.ok rows) = none := by
            rw [written_increase] at performs ⊢
            by_cases hit : rows = 1
            · exact absurd (by simp [hit, adds, own]) performs
            · exact if_neg hit
          refine linear_earlier linear executes own (plain own) about.unsettled settling missed
            adds (linear.covered index task productId executes.present ⟨own, _, _, waits⟩ ?_)
          by_contra there
          have hit := increaseQuantity_present (own.symm ▸ there)
            (increaseQuantity_executed executes.executed)
          rw [written_increase, if_pos hit] at missed
          simp at missed

end Proceed

/-- At the beginning nothing has taken effect, and the cart is the initial one. -/
theorem linear_nil (sessionId : String) (initial : Database) : Linear sessionId initial [] [] where
  linearizes := server.linearizes_nil updated _ _
  settled := fun index task present => absurd present (by simp)
  covered := fun index task productId present => absurd present (by simp)

/-- A step that changes nothing in the state needs no new effect. -/
theorem linear_idle (linear : Linear sessionId initial actions effects)
    (action : Action Request Choice)
    (next : server.run (Service.idleState initial) (actions ++ [action]) =
      server.run (Service.idleState initial) actions) :
    Linear sessionId initial (actions ++ [action]) effects := by
  refine ⟨?_, ?_, ?_⟩
  · have kept := linear.linearizes.idle action
    rwa [next]
  · rw [next]
    exact linear.settled
  · intro index task productId present waits absent
    rw [next] at present absent
    exact (linear.covered index task productId present waits absent).extend linear action
      (fun _ member => member)

/-- Some effects explain the cart after every run without a checkout. -/
theorem run_linear (sessionId : String) (initial : Database) (actions : List (Action Request Choice))
    (restricted : server.Along (Restricted sessionId NoCheckout) (Service.idleState initial)
      actions) : ∃ effects, Linear sessionId initial actions effects := by
  induction actions using List.reverseRecOn with
  | nil => exact ⟨[], linear_nil sessionId initial⟩
  | append_singleton actions action inductionHypothesis =>
    obtain ⟨earlier, later⟩ := (server.along_append _ _ actions [action]).mp restricted
    obtain ⟨effects, linear⟩ := inductionHypothesis earlier
    have traced := server.run_traced (Service.idleState initial) actions
      (server.idleState_traced initial)
    have admitted := server.run_invariant (Admitted sessionId NoCheckout) step_admitted
      (Service.idleState initial) actions (fun task member => absurd member (by simp)) earlier
    have next := server.run_append (Service.idleState initial) actions [action]
    generalize after : server.step (server.run (Service.idleState initial) actions) action =
      following at *
    have transition : server.Transition _ action following := after ▸ server.step_transition _ action
    have stepped : server.run (Service.idleState initial) (actions ++ [action]) = following :=
      next.trans after
    cases transition with
    | started request => exact ⟨effects, linear_start linear request later.1⟩
    | proceeded index choice task command resume present pending =>
      exact linear_execute linear ⟨traced, present, pending, rfl, stepped⟩
        (admitted task (List.mem_of_getElem? present))
    | idle index choice nothing => exact ⟨effects, linear_idle linear _ stepped⟩

/-- No read of the session fails in a run on working connections. -/
theorem run_reads (restricted : server.Along (Restricted sessionId NoCheckout)
    (Service.idleState initial) actions) :
    ∀ task ∈ (server.run (Service.idleState initial) actions).tasks,
      sessionOf task = sessionId → ReadsSucceed task.trace := by
  have ruled := restricted.with_invariant
    (fun state => server.Traced state ∧ Admitted sessionId NoCheckout state)
    (fun state action kept met => ⟨server.step_traced state action kept.1,
      step_admitted state action kept.2 met⟩)
    ⟨server.idleState_traced initial, fun task member => absurd member (by simp)⟩
  have events := server.run_events (fun request => getSessionId request = sessionId)
    (fun event => ∀ statement error, event = failed statement error →
      statement.writesCart = true ∨ statement.holdsNul = true) ?_ _ actions (fun task member => absurd member (by simp)) ruled
  · exact fun task member own statement error recorded =>
      events task member own _ recorded statement error rfl
  · rintro state index choice task command resume ⟨restricted, traced, admitted⟩ present pending own
      statement error failure
    have member := List.mem_of_getElem? present
    obtain ⟨rfl, result⟩ := Event.mk.inj failure
    by_contra neither
    rw [not_or] at neither
    obtain ⟨reads, taken⟩ := neither
    have orders : command.writesOrders = false := by
      by_contra writes
      have checkout := (pending_serves traced member pending).orders
        (by simpa using writes)
      exact absurd ((admitted task member own).symm.trans checkout) (by decide)
    obtain ⟨rows, fine⟩ := execute_reads state.store (restricted task present own)
      (Bool.eq_false_iff.mpr taken) (Bool.eq_false_iff.mpr reads) orders
    have failing : (execute command choice state.store).1 = .error error := eq_of_heq result
    rw [fine] at failing
    simp at failing

end Run

/-- Two adds and a deletion. The second add sees the row of the first, and the row
is deleted before its UPDATE. -/
def lateUpdate : List (Action Request Choice) :=
  .start (addSmartphone "s") :: statements 0 4 ++ .start (addSmartphone "s") :: statements 1 2 ++
    .start ⟨some "s", .deleteCartItem "1"⟩ :: statements 2 2 ++ statements 1 2

end ShoppingCS.Shop
