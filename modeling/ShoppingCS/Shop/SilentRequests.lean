import ShoppingCS.Interleaving.Silence
import ShoppingCS.Shop.Undisturbed

/-!
# Requests that leave no trace

A request that only reads changes nothing, and there are answers that a request gets
only when it has changed nothing. Whatever else goes on, the run without such requests
ends in the same database, and every other request has seen and answered the same.

The answer of a handler that writes and then fails to read its cart is the one of a
handler that fails at once, so it is none of these.
-/

namespace ShoppingCS.Shop

open Interleaving Program

/-- A statement that writes nothing leaves the database as it is. -/
theorem execute_unchanged {statement : Statement} (reads : statement.Reads) (choice : Choice)
    (database : Database) : (execute statement choice database).2 = database := by
  rcases execute_cases statement choice database with ⟨error, rejected⟩ | ⟨-, -, carried⟩
  · rw [rejected]
  · obtain ⟨cart, orders⟩ := reads
    rw [carried]
    cases statement <;> first | rfl | simp [Statement.writesOrders] at cart orders

/-- The statement has written nothing, because it only reads or because it has failed. -/
def Unwritten (event : Event Statement Statement.Result) : Prop :=
  event.command.Reads ∨ ∃ error, event.result = .error error

/-- Such a statement has left the database as it was. -/
theorem execute_unwritten (statement : Statement) (choice : Choice) (database : Database)
    (unwritten : Unwritten ⟨statement, (execute statement choice database).1⟩) :
    (execute statement choice database).2 = database := by
  cases unwritten with
  | inl reads => exact execute_unchanged reads choice database
  | inr failure => exact failure.elim (fun _ error => Database.execute_error error)

/-- The operations whose handlers never write, those with a body that is refused among them.
-/
def Operation.onlyReads : Operation → Bool
  | .postCart body => body.isNone
  | .putCart _ body => body.isNone
  | .deleteCartItem _ => false
  | .deleteCart => false
  | .postOrders (.fields _) => false
  | _ => true

/-- The answers that are given when nothing has been written, and only then. -/
def refusals : List Reply :=
  [.error 404 "Product not found", .error 400 "Cart is empty", .error 500 "Failed to clear cart"]

/-- A request that only reads, or has been answered with a refusal. -/
def Harmless (task : ShopTask) : Prop :=
  task.request.operation.onlyReads = true ∨ ∃ reply ∈ refusals, task.answer? = some reply

/-- The handlers of these operations issue statements that read, by cases on the operation. -/
theorem issues_onlyReads (request : Request) (reads : request.operation.onlyReads = true) :
    (handle request).Issues Statement.Reads := by
  obtain ⟨header, operation⟩ := request
  cases operation with
  | postCart body =>
    cases body with
    | none => exact issues_answer _ _
    | some body => simp [Operation.onlyReads] at reads
  | putCart productId body =>
    cases body with
    | none => exact issues_answer _ _
    | some quantity => simp [Operation.onlyReads] at reads
  | deleteCartItem productId => simp [Operation.onlyReads] at reads
  | deleteCart => simp [Operation.onlyReads] at reads
  | postOrders body =>
    cases body with
    | unparsable => exact issues_answer _ _
    | null =>
      refine issues_query.mpr ⟨⟨rfl, rfl⟩, ?_⟩
      intro rows
      split
      · exact issues_answer _ _
      · exact issues_query.mpr ⟨⟨rfl, rfl⟩, fun _ => issues_answer _ _⟩
    | fields customer => simp [Operation.onlyReads] at reads
  | _ => exact issues_reads _ rfl rfl

/-- The answers that are no refusals: neither a product that was not found, nor an empty cart
at a checkout, nor a clearing that failed. -/
def Accepts (reply : Reply) : Prop := reply ∉ refusals

instance : DecidablePred Accepts := fun reply => inferInstanceAs (Decidable (reply ∉ refusals))

/-- A cart is none of the refusals, so the answers that show one are accepting. -/
theorem accepts_cart (lines : List CartLine) : Accepts ⟨200, .cart lines⟩ := by
  simp [Accepts, refusals, Reply.error]

/-- What a cart handler has executed without settling is unwritten. -/
theorem unwritten_of_unsettled {sessionId : String} {trace : Trace}
    (issued : ∀ event ∈ trace, event.command.ServesCart sessionId)
    (unsettled : settled trace = false) : ∀ event ∈ trace, Unwritten event := by
  intro event member
  have plain : event.command.writesOrders = false := by
    by_contra writes
    exact absurd ((issued event member).1.orders (by simpa using writes)) (by decide)
  by_cases writes : event.command.writesCart = true
  · have settles := List.any_eq_false.mp unsettled event member
    cases result : event.result with
    | error error => exact Or.inr ⟨error, result⟩
    | ok rows =>
      rw [Shop.settles, writes, result] at settles
      exact absurd rfl settles
  · exact Or.inl ⟨by simpa using writes, plain⟩

/-- An add that was refused has been so before its write, for a product that is not there, or
by the failure of a statement. -/
theorem postCart_refused {sessionId : String} {body : Option CartBody} {trace : Trace} {reply : Reply}
    (refused : reply ∈ refusals) (follows : Follows (postCart sessionId body) trace (.answer reply)) :
    ∀ event ∈ trace, Unwritten event := by
  apply unwritten_of_unsettled ((issues_postCart sessionId body).follows follows).1
  cases body with
  | none =>
    obtain ⟨rfl, -⟩ := (follows_answer _ _ _).mp follows
    rfl
  | some body =>
    rcases postCart_answered (postCart_at follows) rfl with
      ⟨-, -, -, rows, -, -, rfl⟩ | ⟨-, -, -, -, rfl⟩ | ⟨-, unsettled, -⟩
    · exact absurd refused (accepts_cart _)
    · exact absurd refused (by decide)
    · exact unsettled

/-- A clearing that was refused has failed at its only statement. -/
theorem deleteCart_refused {sessionId : String} {trace : Trace} {reply : Reply}
    (refused : reply ∈ refusals) (follows : Follows (deleteCart sessionId) trace (.answer reply)) :
    ∀ event ∈ trace, Unwritten event := by
  rcases follows_deleteCart follows with ⟨-, same⟩ | ⟨error, rfl, -⟩ | ⟨count, -, same⟩
  · exact absurd (congrArg pending? same) (by simp [deleteCart])
  · intro event member
    obtain rfl := List.mem_singleton.mp member
    exact Or.inr ⟨error, rfl⟩
  · rw [Program.answer.inj same] at refused
    exact absurd refused (accepts_cart [])

/-- What follows the count of a checkout never sends a refusal: it ends with the order or as
an invalid body. -/
theorem submitOrder_accepts (sessionId : String) (body : OrderBody) (rows : List CheckoutRow)
    (nextId : Nat) : Answers Accepts (submitOrder sessionId body rows nextId) := by
  have invalid : Accepts invalidBody := by decide
  cases body with
  | fields customer =>
    refine answers_query invalid (fun _ => answers_insertItems nextId rows invalid ?_)
    refine answers_query invalid (fun _ => answers_query invalid ?_)
    intro orders
    apply answers_query invalid
    intro items
    cases orders with
    | nil => exact answers_answer invalid
    | cons order orders => exact answers_answer (by simp [Accepts, refusals, Reply.error])
  | unparsable => exact answers_answer invalid
  | null => exact answers_answer invalid

/-- A checkout that was refused has found its cart empty, and has issued nothing but that
read. -/
theorem postOrders_refused {sessionId : String} {body : OrderBody} {trace : Trace} {reply : Reply}
    (refused : reply ∈ refusals) (follows : Follows (postOrders sessionId body) trace (.answer reply)) :
    ∀ event ∈ trace, Unwritten event := by
  have invalid : Accepts invalidBody := by decide
  unfold postOrders at follows
  split at follows
  · obtain ⟨rfl, -⟩ := (follows_answer _ _ _).mp follows
    exact fun event member => absurd member (by simp)
  rcases (follows_query _ _ _ _ _).mp follows with
    ⟨-, same⟩ | ⟨error, rfl, -⟩ | ⟨rows, later, rfl, tail⟩
  · exact absurd (congrArg pending? same) (by simp)
  · intro event member
    obtain rfl := List.mem_singleton.mp member
    exact Or.inr ⟨error, rfl⟩
  · split at tail
    · obtain ⟨rfl, -⟩ := (follows_answer _ _ _).mp tail
      intro event member
      obtain rfl := List.mem_singleton.mp member
      exact Or.inl ⟨rfl, rfl⟩
    · have accepts : Answers Accepts (numberOrder sessionId body rows) :=
        answers_query invalid (fun nextId => submitOrder_accepts sessionId body rows nextId)
      exact absurd refused (accepts later reply tail)

/-- A harmless request has written nothing at any point, whether it only reads or was refused.
-/
theorem harmless_unwritten {task : ShopTask} (harmless : Harmless task)
    (follows : Follows (handle task.request) task.trace task.program) :
    ∀ event ∈ task.trace, Unwritten event := by
  cases harmless with
  | inl reads =>
    have issued := ((issues_onlyReads task.request reads).follows follows).1
    exact fun event member => Or.inl (issued event member)
  | inr answered =>
    obtain ⟨reply, refused, answer⟩ := answered
    rw [(task.answer_some reply).mp answer] at follows
    by_cases reads : task.request.operation.onlyReads = true
    · have issued := ((issues_onlyReads task.request reads).follows follows).1
      exact fun event member => Or.inl (issued event member)
    · unfold handle at follows
      cases asked : task.request.operation with
      | postCart body =>
        rw [asked] at follows
        exact postCart_refused refused follows
      | putCart productId body =>
        rw [asked] at follows
        have accepts : Answers Accepts (putCart (getSessionId task.request) productId body) := by
          cases body with
          | none => exact answers_answer (by decide)
          | some quantity =>
            rw [putCart_eq]
            exact answers_query (by decide)
              (fun _ => answers_respondCart _ (by decide) (fun lines => accepts_cart lines))
        exact absurd refused (accepts _ _ follows)
      | deleteCartItem productId =>
        rw [asked] at follows
        have accepts : Answers Accepts (deleteCartItem (getSessionId task.request) productId) :=
          answers_query (by decide)
            (fun _ => answers_respondCart _ (by decide) (fun lines => accepts_cart lines))
        exact absurd refused (accepts _ _ follows)
      | deleteCart =>
        rw [asked] at follows
        exact deleteCart_refused refused follows
      | postOrders body =>
        rw [asked] at follows
        exact postOrders_refused refused follows
      | _ => simp [asked, Operation.onlyReads] at reads

/-- A cart is read, and an empty one checked out, while a smartphone is added. -/
def addAmongReaders : List (Action Request Choice) :=
  .start (addSmartphone "s") :: .start (checkout "t") :: statements 0 2 ++ statements 1 1 ++
    .start ⟨some "s", .getCart⟩ :: statements 2 1 ++ statements 0 2

end ShoppingCS.Shop
