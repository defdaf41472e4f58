import ShoppingCS.Shop.Cart

/-!
# Where a request can stand

A handler is straight-line code with early exits, so the commands and results of
a task determine where it stands. The inductive families below list the control
points of the handlers that write, each with the trace that leads there. Their
laws are proved once, by following the handler; an invariant over runs then
splits on the control point and never unfolds a handler again.

The results in a trace are arbitrary here. What the database can return is added
by the invariants.
-/

namespace ShoppingCS.Shop

open Interleaving Storage Program

/-- The statements a request has executed, with their results. -/
abbrev Trace := List (Event Statement Statement.Result)

/-- A request in progress or answered, with the statements it has executed so far. -/
abbrev ShopTask := Task Request Statement Statement.Result Reply

/-- The database and all requests that have been accepted, in their order. -/
abbrev ShopState := State Request Statement Statement.Result Reply Database

/-- The session a task acts for, by the header of its request. -/
def sessionOf (task : ShopTask) : String := getSessionId task.request

/-- The event of a statement that has returned rows. -/
def passed (statement : Statement) (rows : statement.Rows) : Event Statement Statement.Result :=
  ⟨statement, .ok rows⟩

/-- The event of a statement that has returned an error. -/
def failed (statement : Statement) (error : SqlError) : Event Statement Statement.Result :=
  ⟨statement, .error error⟩

/-- A statement that has returned rows is not among the failed ones. -/
theorem ok_ne_failed {statement : Statement} {result : statement.Result} {rows : statement.Rows}
    (fine : result = .ok rows) (other : Statement) (error : SqlError) :
    (⟨statement, result⟩ : Event Statement Statement.Result) ≠ failed other error := by
  intro same
  obtain ⟨rfl, impossible⟩ := Event.mk.inj same
  rw [fine] at impossible
  exact absurd (eq_of_heq impossible) (by simp)

/-- The statements that can change a cart, by adding, setting or deleting rows. -/
@[simp] def Statement.writesCart : Statement → Bool
  | .increaseQuantity _ _ _ => true
  | .insertCartItem _ _ _ => true
  | .setQuantity _ _ _ => true
  | .deleteCartItem _ _ => true
  | .deleteCart _ => true
  | _ => false

/-- Statements other than these perform no cart operation, whatever they return. -/
theorem written_none {statement : Statement} (result : statement.Result)
    (reads : statement.writesCart = false) : written statement result = none := by
  cases statement <;> simp [written] at reads ⊢

/-- A statement that has failed has performed no cart operation, as it has changed nothing. -/
@[simp] theorem written_failed (statement : Statement) (error : SqlError) :
    written (failed statement error).command (failed statement error).result = none :=
  written_error statement error

/-- The cart operations a trace has performed, with their sessions. -/
def writes (trace : Trace) : List (String × CartOperation) :=
  trace.filterMap (fun event => written event.command event.result)

@[simp] theorem writes_nil : writes [] = [] := rfl

@[simp] theorem writes_cons (event : Event Statement Statement.Result) (trace : Trace) :
    writes (event :: trace) = (written event.command event.result).toList ++ writes trace := by
  unfold writes
  cases performed : written event.command event.result with
  | none => simp [performed]
  | some operation => simp [performed]

theorem writes_append (first second : Trace) :
    writes (first ++ second) = writes first ++ writes second :=
  List.filterMap_append

/-- The event is a cart statement that has not failed. It may still have found
nothing to change. -/
def settles (event : Event Statement Statement.Result) : Bool :=
  event.command.writesCart &&
    match event.result with
    | .ok _ => true
    | .error _ => false

@[simp] theorem settles_passed (statement : Statement) (rows : statement.Rows) :
    settles (passed statement rows) = statement.writesCart := by
  simp [settles, passed]

@[simp] theorem settles_failed (statement : Statement) (error : SqlError) :
    settles (failed statement error) = false := by
  simp [settles, failed]

/-- A statement that writes no cart does not settle a request, as only a write does. -/
theorem settles_reads {event : Event Statement Statement.Result}
    (reads : event.command.writesCart = false) : settles event = false := by
  rw [settles, reads, Bool.false_and]

/-- The trace contains a cart statement that has not failed. -/
def settled (trace : Trace) : Bool := trace.any settles

@[simp] theorem settled_nil : settled [] = false := rfl

@[simp] theorem settled_cons (event : Event Statement Statement.Result) (trace : Trace) :
    settled (event :: trace) = (settles event || settled trace) := rfl

/-- A trace is settled if one of its parts is, so it stays settled when events follow. -/
@[simp] theorem settled_append (first second : Trace) :
    settled (first ++ second) = (settled first || settled second) := List.any_append

/-- Only a cart statement that has not failed performs an operation. -/
theorem settles_of_written {event : Event Statement Statement.Result}
    (performs : written event.command event.result ≠ none) : settles event = true := by
  obtain ⟨command, result⟩ := event
  cases result with
  | error error => exact absurd (written_error command error) performs
  | ok rows =>
    cases reads : command.writesCart with
    | false => exact absurd (written_none (.ok rows) reads) performs
    | true => exact (settles_passed command rows).trans reads

/-- A trace that is not settled has performed nothing. -/
theorem writes_of_unsettled {trace : Trace} (unsettled : settled trace = false) :
    writes trace = [] := by
  apply List.filterMap_eq_nil_iff.mpr
  intro event recorded
  by_contra performs
  have settling := settles_of_written performs
  exact absurd settling (List.any_eq_false.mp unsettled event recorded)

@[simp] theorem pending?_query (rejected : Reply) (statement : Statement)
    (next : statement.Rows → Handler) :
    (query rejected statement next).pending? = some statement := rfl

/-- A query is pending, has failed and ended the request, or has passed its rows
to what follows. -/
theorem follows_query (rejected : Reply) (statement : Statement)
    (next : statement.Rows → Handler) (trace : Trace) (rest : Handler) :
    Follows (query rejected statement next) trace rest ↔
      (trace = [] ∧ rest = query rejected statement next) ∨
      (∃ error, trace = [failed statement error] ∧ rest = .answer rejected) ∨
      ∃ rows later, trace = passed statement rows :: later ∧ Follows (next rows) later rest := by
  unfold query
  rw [follows_call]
  constructor
  · rintro (here | ⟨result, later, rfl, tail⟩)
    · exact Or.inl here
    · cases result with
      | error error =>
        obtain ⟨rfl, rfl⟩ := (follows_answer _ _ _).mp tail
        exact Or.inr (Or.inl ⟨error, rfl, rfl⟩)
      | ok rows => exact Or.inr (Or.inr ⟨rows, later, rfl, tail⟩)
  · rintro (here | ⟨error, rfl, rfl⟩ | ⟨rows, later, rfl, tail⟩)
    · exact Or.inl here
    · exact Or.inr ⟨.error error, [], rfl, .here _⟩
    · exact Or.inr ⟨.ok rows, later, rfl, tail⟩

/-- The last part of the cart handlers: pending, failed, or answered. -/
theorem follows_respondCart (rejected : Reply) (sessionId : String) (trace : Trace)
    (rest : Handler) :
    Follows (respondCart rejected sessionId) trace rest ↔
      (trace = [] ∧ rest = respondCart rejected sessionId) ∨
      (∃ error, trace = [failed (.selectCart sessionId) error] ∧ rest = .answer rejected) ∨
      ∃ rows, trace = [passed (.selectCart sessionId) rows] ∧
        rest = .answer ⟨200, .cart (cartLines rows)⟩ := by
  unfold respondCart
  rw [follows_query]
  simp only [follows_answer]
  constructor
  · rintro (here | failure | ⟨rows, later, rfl, rfl, rfl⟩)
    · exact Or.inl here
    · exact Or.inr (Or.inl failure)
    · exact Or.inr (Or.inr ⟨rows, rfl, rfl⟩)
  · rintro (here | failure | ⟨rows, rfl, rfl⟩)
    · exact Or.inl here
    · exact Or.inr (Or.inl failure)
    · exact Or.inr (Or.inr ⟨rows, [], rfl, rfl, rfl⟩)

section PostCart

variable (sessionId : String) (body : CartBody)

/-- The part of `POST /api/cart` after the lookup of the existing row. -/
def storeItem (existingItem : List CartItem) : Handler :=
  if !existingItem.isEmpty then
    query invalidBody (.increaseQuantity body.quantity body.productId sessionId) fun _ =>
      respondCart invalidBody sessionId
  else
    query invalidBody (.insertCartItem body.productId body.quantity sessionId) fun _ =>
      respondCart invalidBody sessionId

/-- The part of `POST /api/cart` after the product was found. -/
def chooseWrite : Handler :=
  query invalidBody (.selectCartItem body.productId sessionId) fun existingItem =>
    storeItem sessionId body existingItem

/-- The write that follows an answer of the existing row lookup. -/
inductive Stores : List CartItem → Event Statement Statement.Result → Prop where
  | increased (existing : List CartItem) (present : existing ≠ []) (count : Nat) :
      Stores existing (passed (.increaseQuantity body.quantity body.productId sessionId) count)
  | inserted (count : Nat) :
      Stores [] (passed (.insertCartItem body.productId body.quantity sessionId) count)

/-- The control points of `POST /api/cart` with a readable body. -/
inductive PostCartAt : Trace → Handler → Prop where
  | asked : PostCartAt [] (postCart sessionId (some body))
  | found (products : List Product) (known : products ≠ []) :
      PostCartAt [passed (.selectProduct body.productId) products] (chooseWrite sessionId body)
  | storing (products : List Product) (existing : List CartItem) :
      PostCartAt
        [passed (.selectProduct body.productId) products,
          passed (.selectCartItem body.productId sessionId) existing]
        (storeItem sessionId body existing)
  | stored (products : List Product) (existing : List CartItem)
      (write : Event Statement Statement.Result) (stores : Stores sessionId body existing write) :
      PostCartAt
        [passed (.selectProduct body.productId) products,
          passed (.selectCartItem body.productId sessionId) existing, write]
        (respondCart invalidBody sessionId)
  | answered (products : List Product) (existing : List CartItem)
      (write : Event Statement Statement.Result) (stores : Stores sessionId body existing write)
      (rows : List (Product × Int4)) :
      PostCartAt
        [passed (.selectProduct body.productId) products,
          passed (.selectCartItem body.productId sessionId) existing, write,
          passed (.selectCart sessionId) rows]
        (.answer ⟨200, .cart (cartLines rows)⟩)
  | unread (products : List Product) (existing : List CartItem)
      (write : Event Statement Statement.Result) (stores : Stores sessionId body existing write)
      (error : SqlError) :
      PostCartAt
        [passed (.selectProduct body.productId) products,
          passed (.selectCartItem body.productId sessionId) existing, write,
          failed (.selectCart sessionId) error]
        (.answer invalidBody)
  | refused (trace : Trace) (reply : Reply) (status : reply.status ≠ 200)
      (unsettled : settled trace = false)
      (fault : (∃ statement error, failed statement error ∈ trace) ∨
        passed (.selectProduct body.productId) [] ∈ trace) : PostCartAt trace (.answer reply)

variable {sessionId : String} {body : CartBody}

/-- After the lookup, the write decided by it is pending, failed, or done. -/
theorem follows_storeItem {existing : List CartItem} {trace : Trace} {rest : Handler}
    (follows : Follows (storeItem sessionId body existing) trace rest) :
    (trace = [] ∧ rest = storeItem sessionId body existing) ∨
      (∃ statement error, trace = [failed statement error] ∧ rest = .answer invalidBody) ∨
      ∃ write later, Stores sessionId body existing write ∧ trace = write :: later ∧
        Follows (respondCart invalidBody sessionId) later rest := by
  unfold storeItem at follows ⊢
  by_cases absent : existing = []
  · subst absent
    rcases (follows_query _ _ _ _ _).mp follows with
      here | ⟨error, rfl, rfl⟩ | ⟨count, later, rfl, tail⟩
    · exact Or.inl here
    · exact Or.inr (Or.inl ⟨_, error, rfl, rfl⟩)
    · exact Or.inr (Or.inr ⟨_, later, .inserted count, rfl, tail⟩)
  · have present : (!existing.isEmpty) = true := by simp [absent]
    rw [if_pos present] at follows ⊢
    rcases (follows_query _ _ _ _ _).mp follows with
      here | ⟨error, rfl, rfl⟩ | ⟨count, later, rfl, tail⟩
    · exact Or.inl here
    · exact Or.inr (Or.inl ⟨_, error, rfl, rfl⟩)
    · exact Or.inr (Or.inr ⟨_, later, .increased existing absent count, rfl, tail⟩)

/-- Every state of the handler is one of its control points. -/
theorem postCart_at {trace : Trace} {rest : Handler}
    (follows : Follows (postCart sessionId (some body)) trace rest) :
    PostCartAt sessionId body trace rest := by
  unfold postCart at follows
  rcases (follows_query _ _ _ _ _).mp follows with
    ⟨rfl, rfl⟩ | ⟨error, rfl, rfl⟩ | ⟨products, later, rfl, tail⟩
  · exact .asked
  · exact .refused _ _ (by decide) rfl (Or.inl ⟨_, error, .head _⟩)
  · by_cases unknown : products = []
    · subst unknown
      obtain ⟨rfl, rfl⟩ := (follows_answer _ _ _).mp tail
      exact .refused _ _ (by decide) rfl (Or.inr (by simp))
    · have known : ¬ products.isEmpty = true := by simpa using unknown
      rw [if_neg known] at tail
      rcases (follows_query _ _ _ _ _).mp tail with
        ⟨rfl, rfl⟩ | ⟨error, rfl, rfl⟩ | ⟨existing, later, rfl, beyond⟩
      · exact .found products unknown
      · exact .refused _ _ (by decide) (by simp) (Or.inl ⟨_, error, .tail _ (.head _)⟩)
      · have storing : Follows (storeItem sessionId body existing) later rest := beyond
        rcases follows_storeItem storing with
          ⟨rfl, rfl⟩ | ⟨statement, error, rfl, rfl⟩ | ⟨write, later, stores, rfl, reading⟩
        · exact .storing products existing
        · exact .refused _ _ (by decide) (by simp) (Or.inl ⟨_, error, .tail _ (.tail _ (.head _))⟩)
        · rcases (follows_respondCart _ _ _ _).mp reading with
            ⟨rfl, rfl⟩ | ⟨error, rfl, rfl⟩ | ⟨rows, rfl, rfl⟩
          · exact .stored products existing write stores
          · exact .unread products existing write stores error
          · exact .answered products existing write stores rows

/-- An answered add has written and sent the cart, has written and failed to read
the cart, or has been refused without writing. -/
theorem postCart_answered {trace : Trace} {program : Handler} {reply : Reply}
    (point : PostCartAt sessionId body trace program) (answer : program = .answer reply) :
    (∃ products existing write rows, Stores sessionId body existing write ∧
        trace = [passed (.selectProduct body.productId) products,
          passed (.selectCartItem body.productId sessionId) existing] ++
          [write] ++ [passed (.selectCart sessionId) rows] ∧
        reply = ⟨200, .cart (cartLines rows)⟩) ∨
      (∃ write error, ∃ before, trace = before ++ [write, failed (.selectCart sessionId) error] ∧
        reply = invalidBody) ∨
      (reply.status ≠ 200 ∧ settled trace = false ∧
        ((∃ statement error, failed statement error ∈ trace) ∨
          passed (.selectProduct body.productId) [] ∈ trace)) := by
  have ended := congrArg pending? answer
  cases point with
  | asked => simp [postCart] at ended
  | found products known => simp [chooseWrite] at ended
  | storing products existing => cases existing <;> simp [storeItem] at ended
  | stored products existing write stores => simp [respondCart] at ended
  | answered products existing write stores rows =>
    obtain rfl := Program.answer.inj answer
    exact Or.inl ⟨products, existing, write, rows, stores, rfl, rfl⟩
  | unread products existing write stores error =>
    obtain rfl := Program.answer.inj answer
    exact Or.inr (Or.inl ⟨write, error, [_, _], rfl, rfl⟩)
  | refused _ other status unsettled fault =>
    obtain rfl := Program.answer.inj answer
    exact Or.inr (Or.inr ⟨status, unsettled, fault⟩)

/-- The statements an add can be waiting for, read off from its control points. -/
theorem postCart_pending {trace : Trace} {program : Handler}
    (point : PostCartAt sessionId body trace program) {statement : Statement}
    (pending : program.pending? = some statement) :
    statement = .selectProduct body.productId ∨ statement = .selectCartItem body.productId sessionId ∨
      statement = .increaseQuantity body.quantity body.productId sessionId ∨
      statement = .insertCartItem body.productId body.quantity sessionId ∨
      statement = .selectCart sessionId := by
  cases point with
  | asked => exact Or.inl (Option.some.inj pending).symm
  | found products known => exact Or.inr (Or.inl (Option.some.inj pending).symm)
  | storing products existing =>
    cases existing with
    | nil => exact Or.inr (Or.inr (Or.inr (Or.inl (Option.some.inj pending).symm)))
    | cons row rows => exact Or.inr (Or.inr (Or.inl (Option.some.inj pending).symm))
  | stored products existing write stores =>
    exact Or.inr (Or.inr (Or.inr (Or.inr (Option.some.inj pending).symm)))
  | answered => simp at pending
  | unread => simp at pending
  | refused => simp at pending

/-- An add about to write has looked up the row and not written yet; an UPDATE is
chosen only after a row was seen. -/
theorem postCart_storing {trace : Trace} {program : Handler}
    (point : PostCartAt sessionId body trace program) {statement : Statement}
    (pending : program.pending? = some statement) (writing : statement.writesCart = true) :
    ∃ products existing, trace = [passed (.selectProduct body.productId) products,
        passed (.selectCartItem body.productId sessionId) existing] ∧
      ((existing ≠ [] ∧ statement = .increaseQuantity body.quantity body.productId sessionId) ∨
        statement = .insertCartItem body.productId body.quantity sessionId) := by
  cases point with
  | storing products existing =>
    refine ⟨products, existing, rfl, ?_⟩
    cases existing with
    | nil => exact Or.inr (Option.some.inj pending).symm
    | cons row rows => exact Or.inl ⟨by simp, (Option.some.inj pending).symm⟩
  | asked =>
    obtain rfl := Option.some.inj pending
    simp at writing
  | found products known =>
    obtain rfl := Option.some.inj pending
    simp at writing
  | stored products existing write stores =>
    obtain rfl := Option.some.inj pending
    simp at writing
  | answered => simp at pending
  | unread => simp at pending
  | refused => simp at pending

/-- An add that has not answered waits for one of at most four statements. -/
theorem postCart_running {trace : Trace} {program : Handler}
    (point : PostCartAt sessionId body trace program)
    (running : ∀ reply, program ≠ .answer reply) :
    program.pending? ≠ none ∧ trace.length < 4 := by
  cases point with
  | asked => exact ⟨by simp [postCart], by simp⟩
  | found products known => exact ⟨by simp [chooseWrite], by simp⟩
  | storing products existing => exact ⟨by cases existing <;> simp [storeItem], by simp⟩
  | stored products existing write stores => exact ⟨by simp [respondCart], by simp⟩
  | answered => exact absurd rfl (running _)
  | unread => exact absurd rfl (running _)
  | refused => exact absurd rfl (running _)

end PostCart

section Write

/-- The control points of a handler that writes once and then sends the cart. -/
inductive WriteAt (rejected : Reply) (sessionId : String) (write : Statement) :
    Trace → Handler → Prop where
  | asked : WriteAt rejected sessionId write []
      (query rejected write fun _ => respondCart rejected sessionId)
  | refused (error : SqlError) :
      WriteAt rejected sessionId write [failed write error] (.answer rejected)
  | stored (rows : write.Rows) :
      WriteAt rejected sessionId write [passed write rows] (respondCart rejected sessionId)
  | answered (rows : write.Rows) (lines : List (Product × Int4)) :
      WriteAt rejected sessionId write [passed write rows, passed (.selectCart sessionId) lines]
        (.answer ⟨200, .cart (cartLines lines)⟩)
  | unread (rows : write.Rows) (error : SqlError) :
      WriteAt rejected sessionId write [passed write rows, failed (.selectCart sessionId) error]
        (.answer rejected)

/-- Every state of such a handler is one of its control points. -/
theorem write_at {rejected : Reply} {sessionId : String} {write : Statement} {trace : Trace}
    {rest : Handler}
    (follows : Follows (query rejected write fun _ => respondCart rejected sessionId) trace rest) :
    WriteAt rejected sessionId write trace rest := by
  rcases (follows_query _ _ _ _ _).mp follows with
    ⟨rfl, rfl⟩ | ⟨error, rfl, rfl⟩ | ⟨rows, later, rfl, reading⟩
  · exact .asked
  · exact .refused error
  · rcases (follows_respondCart _ _ _ _).mp reading with
      ⟨rfl, rfl⟩ | ⟨error, rfl, rfl⟩ | ⟨lines, rfl, rfl⟩
    · exact .stored rows
    · exact .unread rows error
    · exact .answered rows lines

/-- Such a handler waits for its write, having executed nothing, or reads. -/
theorem write_pending {rejected : Reply} {sessionId : String} {write statement : Statement}
    {trace : Trace} {program : Handler} (point : WriteAt rejected sessionId write trace program)
    (pending : program.pending? = some statement) :
    (trace = [] ∧ statement = write) ∨ statement = .selectCart sessionId := by
  cases point with
  | asked => exact Or.inl ⟨rfl, (Option.some.inj pending).symm⟩
  | stored rows => exact Or.inr (Option.some.inj pending).symm
  | refused => simp at pending
  | answered => simp at pending
  | unread => simp at pending

/-- Such a handler has answered 200 after its write and its read, or has failed
at one of them. -/
theorem write_answered {rejected reply : Reply} {sessionId : String} {write : Statement}
    {trace : Trace} {program : Handler} (point : WriteAt rejected sessionId write trace program)
    (answer : program = .answer reply) :
    (∃ rows lines, trace = [passed write rows, passed (.selectCart sessionId) lines] ∧
        reply.status = 200) ∨
      (∃ rows error, trace = [passed write rows, failed (.selectCart sessionId) error]) ∨
      ∃ error, trace = [failed write error] ∧ reply = rejected := by
  have ended := congrArg pending? answer
  cases point with
  | asked => simp at ended
  | stored rows => simp [respondCart] at ended
  | answered rows lines =>
    obtain rfl := Program.answer.inj answer
    exact Or.inl ⟨rows, lines, rfl, rfl⟩
  | unread rows error => exact Or.inr (Or.inl ⟨rows, error, rfl⟩)
  | refused error =>
    obtain rfl := Program.answer.inj answer
    exact Or.inr (Or.inr ⟨error, rfl, rfl⟩)

end Write

/-- Clearing the cart is pending, has failed, or has answered. -/
theorem follows_deleteCart {sessionId : String} {trace : Trace} {rest : Handler}
    (follows : Follows (deleteCart sessionId) trace rest) :
    (trace = [] ∧ rest = deleteCart sessionId) ∨
      (∃ error, trace = [failed (.deleteCart sessionId) error] ∧
        rest = .answer (.error 500 "Failed to clear cart")) ∨
      ∃ count, trace = [passed (.deleteCart sessionId) count] ∧ rest = .answer ⟨200, .cart []⟩ := by
  rcases (follows_query _ _ _ _ _).mp follows with
    here | ⟨error, rfl, rfl⟩ | ⟨count, later, rfl, tail⟩
  · exact Or.inl here
  · exact Or.inr (Or.inl ⟨error, rfl, rfl⟩)
  · obtain ⟨rfl, rfl⟩ := (follows_answer _ _ _).mp tail
    exact Or.inr (Or.inr ⟨count, rfl, rfl⟩)

section Checkout

variable (sessionId : String)

/-- The statements of a checkout up to its order row. -/
def openingTrace (rows : List CheckoutRow) (nextId : Nat) (customer : CustomerFields)
    (count : Nat) : Trace :=
  [passed (.selectCheckout sessionId) rows, passed .selectNextId nextId,
    passed (.insertOrder (newOrder nextId customer rows)) count]

/-- The item insertions of a checkout as events, each with what it has returned. -/
def itemTrace (nextId : Nat) (items : List (CheckoutRow × Nat)) : Trace :=
  items.map (fun item => passed (.insertOrderItem (newOrderItem nextId item.1)) item.2)

/-- The statement is one of the two reads before the order is created. -/
def Preliminary (statement : Statement) : Prop :=
  statement = .selectCheckout sessionId ∨ statement = .selectNextId

/-- The control points of a checkout. Up to `ordering` nothing has been written.
From `inserting` on there is an order row, with the items inserted so far. -/
inductive CheckoutAt (body : OrderBody) : Trace → Handler → Prop where
  | asked (parsed : body ≠ .unparsable) : CheckoutAt body [] (postOrders sessionId body)
  | counting (rows : List CheckoutRow) (nonempty : rows ≠ []) :
      CheckoutAt body [passed (.selectCheckout sessionId) rows] (numberOrder sessionId body rows)
  | ordering (rows : List CheckoutRow) (nonempty : rows ≠ []) (nextId : Nat)
      (customer : CustomerFields) (given : body = .fields customer) :
      CheckoutAt body
        [passed (.selectCheckout sessionId) rows, passed .selectNextId nextId]
        (placeOrder sessionId nextId customer rows)
  | inserting (rows : List CheckoutRow) (nonempty : rows ≠ []) (nextId : Nat)
      (customer : CustomerFields) (given : body = .fields customer) (count : Nat)
      (done : List (CheckoutRow × Nat)) (rest : List CheckoutRow)
      (split : rows = done.map Prod.fst ++ rest) :
      CheckoutAt body
        (openingTrace sessionId rows nextId customer count ++ itemTrace nextId done)
        (insertItems nextId rest (finishOrder sessionId nextId))
  | abandoned (rows : List CheckoutRow) (nonempty : rows ≠ []) (nextId : Nat)
      (customer : CustomerFields) (given : body = .fields customer) (count : Nat)
      (done : List (CheckoutRow × Nat)) (rest : List CheckoutRow)
      (split : rows = done.map Prod.fst ++ rest) (statement : Statement) (error : SqlError) :
      CheckoutAt body
        (openingTrace sessionId rows nextId customer count ++ itemTrace nextId done ++
          [failed statement error])
        (.answer invalidBody)
  | cleared (rows : List CheckoutRow) (nonempty : rows ≠ []) (nextId : Nat)
      (customer : CustomerFields) (given : body = .fields customer) (count : Nat)
      (done : List (CheckoutRow × Nat)) (all : rows = done.map Prod.fst) (deleted : Nat) :
      CheckoutAt body
        (openingTrace sessionId rows nextId customer count ++ itemTrace nextId done ++
          [passed (.deleteCart sessionId) deleted])
        (query invalidBody (.selectOrder (orderIdOf nextId)) (sendOrder nextId))
  | reread (rows : List CheckoutRow) (nonempty : rows ≠ []) (nextId : Nat)
      (customer : CustomerFields) (given : body = .fields customer) (count : Nat)
      (done : List (CheckoutRow × Nat)) (all : rows = done.map Prod.fst) (deleted : Nat)
      (orders : List Order) :
      CheckoutAt body
        (openingTrace sessionId rows nextId customer count ++ itemTrace nextId done ++
          [passed (.deleteCart sessionId) deleted,
            passed (.selectOrder (orderIdOf nextId)) orders])
        (sendOrder nextId orders)
  | answered (rows : List CheckoutRow) (nonempty : rows ≠ []) (nextId : Nat)
      (customer : CustomerFields) (given : body = .fields customer) (count : Nat)
      (done : List (CheckoutRow × Nat)) (all : rows = done.map Prod.fst) (deleted : Nat)
      (order : Order) (orders : List Order) (items : List OrderItem) :
      CheckoutAt body
        (openingTrace sessionId rows nextId customer count ++ itemTrace nextId done ++
          [passed (.deleteCart sessionId) deleted,
            passed (.selectOrder (orderIdOf nextId)) (order :: orders),
            passed (.selectOrderItems (orderIdOf nextId)) items])
        (.answer ⟨201, .order (orderView order items)⟩)
  | unread (rows : List CheckoutRow) (nonempty : rows ≠ []) (nextId : Nat)
      (customer : CustomerFields) (given : body = .fields customer) (count : Nat)
      (done : List (CheckoutRow × Nat)) (all : rows = done.map Prod.fst) (deleted : Nat)
      (later : Trace)
      (reads : ∀ event ∈ later, event.command = .selectOrder (orderIdOf nextId) ∨
        event.command = .selectOrderItems (orderIdOf nextId))
      (fault : (∃ statement error, failed statement error ∈ later) ∨
        passed (.selectOrder (orderIdOf nextId)) [] ∈ later) :
      CheckoutAt body
        (openingTrace sessionId rows nextId customer count ++ itemTrace nextId done ++
          passed (.deleteCart sessionId) deleted :: later)
        (.answer invalidBody)
  | refused (trace : Trace) (reply : Reply) (status : reply.status ≠ 201)
      (idle : ∀ event ∈ trace, Preliminary sessionId event.command ∨
        ∃ statement error, event = failed statement error)
      (fault : (∀ customer, body ≠ .fields customer) ∨
        passed (.selectCheckout sessionId) [] ∈ trace ∨
        ∃ statement error, failed statement error ∈ trace) :
      CheckoutAt body trace (.answer reply)

variable {sessionId : String} {body : OrderBody}

/-- The item loop stands between two items, has failed at one, or has passed all
of them on to what follows. -/
theorem follows_insertItems {nextId : Nat} {items : List CheckoutRow} {next : Handler}
    {trace : Trace} {rest : Handler} (follows : Follows (insertItems nextId items next) trace rest) :
    (∃ done left, items = done.map Prod.fst ++ left ∧ trace = itemTrace nextId done ∧
        rest = insertItems nextId left next) ∨
      (∃ done left statement error, items = done.map Prod.fst ++ left ∧
        trace = itemTrace nextId done ++ [failed statement error] ∧ rest = .answer invalidBody) ∨
      ∃ done later, items = done.map Prod.fst ∧ trace = itemTrace nextId done ++ later ∧
        Follows next later rest := by
  induction items generalizing trace with
  | nil => exact Or.inr (Or.inr ⟨[], trace, rfl, rfl, follows⟩)
  | cons item items inductionHypothesis =>
    rcases (follows_query _ _ _ _ _).mp follows with
      ⟨rfl, rfl⟩ | ⟨error, rfl, rfl⟩ | ⟨count, later, rfl, tail⟩
    · exact Or.inl ⟨[], item :: items, rfl, rfl, rfl⟩
    · exact Or.inr (Or.inl ⟨[], item :: items, _, error, rfl, rfl, rfl⟩)
    · rcases inductionHypothesis tail with
        ⟨done, left, rfl, rfl, rfl⟩ | ⟨done, left, statement, error, rfl, rfl, rfl⟩ |
          ⟨done, last, rfl, rfl, beyond⟩
      · exact Or.inl ⟨(item, count) :: done, left, rfl, rfl, rfl⟩
      · exact Or.inr (Or.inl ⟨(item, count) :: done, left, statement, error, rfl, rfl, rfl⟩)
      · exact Or.inr (Or.inr ⟨(item, count) :: done, last, rfl, rfl, beyond⟩)

/-- Everything after the items, with a readable body and a cart that was not
empty. -/
theorem follows_placeOrder {nextId : Nat} {customer : CustomerFields} {rows : List CheckoutRow}
    {later : Trace} {rest : Handler} (given : body = .fields customer) (nonempty : rows ≠ [])
    (follows : Follows (placeOrder sessionId nextId customer rows) later rest) :
    CheckoutAt sessionId body
      (passed (.selectCheckout sessionId) rows :: passed .selectNextId nextId :: later) rest := by
  rcases (follows_query _ _ _ _ _).mp follows with
    ⟨rfl, rfl⟩ | ⟨error, rfl, rfl⟩ | ⟨count, later, rfl, tail⟩
  · exact .ordering rows nonempty nextId customer given
  · refine .refused _ _ (by decide) ?_
      (Or.inr (Or.inr ⟨_, error, .tail _ (.tail _ (.head _))⟩))
    intro event executed
    simp only [List.mem_cons, List.not_mem_nil, or_false] at executed
    rcases executed with rfl | rfl | rfl
    · exact Or.inl (Or.inl rfl)
    · exact Or.inl (Or.inr rfl)
    · exact Or.inr ⟨_, error, rfl⟩
  · rcases follows_insertItems tail with
      ⟨done, left, split, rfl, rfl⟩ | ⟨done, left, statement, error, split, rfl, rfl⟩ |
        ⟨done, last, all, rfl, finishing⟩
    · exact .inserting rows nonempty nextId customer given count done left split
    · exact .abandoned rows nonempty nextId customer given count done left split statement error
    · have split : rows = done.map Prod.fst ++ [] := by rw [List.append_nil]; exact all
      rcases (follows_query _ _ _ _ _).mp finishing with
        ⟨rfl, rfl⟩ | ⟨error, rfl, rfl⟩ | ⟨deleted, last, rfl, reading⟩
      · have point : CheckoutAt sessionId body _ _ :=
          .inserting rows nonempty nextId customer given count done [] split
        rwa [← List.append_nil (itemTrace nextId done)] at point
      · exact .abandoned rows nonempty nextId customer given count done [] split _ error
      · rcases (follows_query _ _ _ _ _).mp reading with
          ⟨rfl, rfl⟩ | ⟨error, rfl, rfl⟩ | ⟨orders, last, rfl, rereading⟩
        · exact .cleared rows nonempty nextId customer given count done all deleted
        · refine .unread rows nonempty nextId customer given count done all deleted _ ?_
            (Or.inl ⟨_, error, .head _⟩)
          intro event executed
          obtain rfl := List.mem_singleton.mp executed
          exact Or.inl rfl
        · rcases (follows_query _ _ _ _ _).mp rereading with
            ⟨rfl, rfl⟩ | ⟨error, rfl, rfl⟩ | ⟨items, last, rfl, answering⟩
          · exact .reread rows nonempty nextId customer given count done all deleted orders
          · refine .unread rows nonempty nextId customer given count done all deleted _ ?_
              (Or.inl ⟨_, error, .tail _ (.head _)⟩)
            intro event executed
            simp only [List.mem_cons, List.not_mem_nil, or_false] at executed
            rcases executed with rfl | rfl
            · exact Or.inl rfl
            · exact Or.inr rfl
          · cases orders with
            | nil =>
              obtain ⟨rfl, rfl⟩ := (follows_answer _ _ _).mp answering
              refine .unread rows nonempty nextId customer given count done all deleted _ ?_
                (Or.inr (by simp))
              intro event executed
              simp only [List.mem_cons, List.not_mem_nil, or_false] at executed
              rcases executed with rfl | rfl
              · exact Or.inl rfl
              · exact Or.inr rfl
            | cons order orders =>
              obtain ⟨rfl, rfl⟩ := (follows_answer _ _ _).mp answering
              exact .answered rows nonempty nextId customer given count done all deleted order
                orders items

/-- Every state of a checkout is one of its control points. -/
theorem checkout_at {trace : Trace} {rest : Handler}
    (follows : Follows (postOrders sessionId body) trace rest) :
    CheckoutAt sessionId body trace rest := by
  by_cases parsed : body = .unparsable
  · subst parsed
    obtain ⟨rfl, rfl⟩ := (follows_answer _ _ _).mp follows
    exact .refused _ _ (by decide) (by simp) (Or.inl (by simp))
  · unfold postOrders at follows
    rw [if_neg parsed] at follows
    rcases (follows_query _ _ _ _ _).mp follows with
      ⟨rfl, same⟩ | ⟨error, rfl, rfl⟩ | ⟨rows, later, rfl, tail⟩
    · have unstarted : rest = postOrders sessionId body := by
        rw [same, postOrders, if_neg parsed]
      subst unstarted
      exact .asked parsed
    · refine .refused _ _ (by decide) ?_ (Or.inr (Or.inr ⟨_, error, .head _⟩))
      intro event executed
      obtain rfl := List.mem_singleton.mp executed
      exact Or.inr ⟨_, error, rfl⟩
    · by_cases empty : rows = []
      · subst empty
        obtain ⟨rfl, rfl⟩ := (follows_answer _ _ _).mp tail
        refine .refused _ _ (by decide) ?_ (Or.inr (Or.inl (.head _)))
        intro event executed
        obtain rfl := List.mem_singleton.mp executed
        exact Or.inl (Or.inl rfl)
      · have nonempty : ¬ rows.isEmpty = true := by simpa using empty
        rw [if_neg nonempty] at tail
        rcases (follows_query _ _ _ _ _).mp tail with
          ⟨rfl, rfl⟩ | ⟨error, rfl, rfl⟩ | ⟨nextId, later, rfl, numbered⟩
        · exact .counting rows empty
        · refine .refused _ _ (by decide) ?_ (Or.inr (Or.inr ⟨_, error, .tail _ (.head _)⟩))
          intro event executed
          simp only [List.mem_cons, List.not_mem_nil, or_false] at executed
          rcases executed with rfl | rfl
          · exact Or.inl (Or.inl rfl)
          · exact Or.inr ⟨_, error, rfl⟩
        · cases body with
          | unparsable => exact absurd rfl parsed
          | null =>
            obtain ⟨rfl, rfl⟩ := (follows_answer _ _ _).mp numbered
            refine .refused _ _ (by decide) ?_ (Or.inl (by simp))
            intro event executed
            simp only [List.mem_cons, List.not_mem_nil, or_false] at executed
            rcases executed with rfl | rfl
            · exact Or.inl (Or.inl rfl)
            · exact Or.inl (Or.inr rfl)
          | fields customer =>
            have placing : Follows (placeOrder sessionId nextId customer rows) later rest := numbered
            exact follows_placeOrder rfl empty placing

end Checkout

end ShoppingCS.Shop
