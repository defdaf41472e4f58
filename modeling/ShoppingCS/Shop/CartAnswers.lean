import ShoppingCS.Interleaving.Preconditions
import ShoppingCS.Shop.Undisturbed

/-!
# A request alone on working connections

What a cart request or a checkout guarantees when no other request runs meanwhile
and no connection fails. If it is answered with its success, the cart of the session
has become what the request means; otherwise something in the request or in the
tables was refused, and the cart is as it was.
-/

namespace ShoppingCS.Shop

open Interleaving Storage Program

/-- The operation writes no quantity below one, as the client's requests are meant to. -/
def CartOperation.WritesPositive : CartOperation → Prop
  | .add _ quantity => 1 ≤ quantity
  | .set _ quantity => 1 ≤ quantity
  | _ => True

/-- The connection to the database works, so that a statement fails only for its parameters.
-/
abbrev Choice.Works (choice : Choice) : Prop := choice.fails = false

/-- The end of a request: either success and its effect on the cart of the session, or
an error and no effect. -/
structure Served (sessionId : String) (succeeds : Reply → Prop) (effect : CartOperation)
    (database : Database) (reply : Reply) (last : Database) : Prop where
  products : last.products = database.products
  outcome : (succeeds reply ∧ last.cart sessionId = effect.apply (database.cart sessionId)) ∨
    (400 ≤ reply.status ∧ last.cart sessionId = database.cart sessionId)

/-- The reply of a cart handler that has done what it was asked for. -/
abbrev Reply.Accepts (reply : Reply) : Prop := reply.status = 200

/-- The reply of a checkout that has created an order, whatever the order is. -/
abbrev Reply.Creates (reply : Reply) : Prop := ∃ view, reply = ⟨201, .order view⟩

/-- On working connections the handler ends with a reply and a database of which the condition
holds, executed from this database alone. -/
abbrev Leads (post : Reply → Database → Prop) (handler : Handler) (database : Database) : Prop :=
  handler.Ensures execute Choice.Works post database

section Rules

variable {post : Reply → Database → Prop} {rejected : Reply} {statement : Statement}
  {next : statement.Rows → Handler} {database : Database}

/-- A query ends the request with the database as it was, or is followed by the rest. -/
theorem leads_query
    (refused : ∀ choice error, choice.Works → (execute statement choice database).1 = .error error →
      post rejected database)
    (continues : ∀ choice rows, choice.Works → (execute statement choice database).1 = .ok rows →
      Leads post (next rows) (execute statement choice database).2) :
    Leads post (query rejected statement next) database := by
  intro choice works
  cases returned : (execute statement choice database).1 with
  | error error =>
    rw [Database.execute_error returned]
    exact refused choice error works returned
  | ok rows => exact continues choice rows works returned

/-- A statement that only reads returns its rows and goes on in the same database. -/
theorem leads_read (rows : Choice → statement.Rows)
    (returns : ∀ choice : Choice, choice.Works →
      execute statement choice database = (.ok (rows choice), database))
    (continues : ∀ choice, Leads post (next (rows choice)) database) :
    Leads post (query rejected statement next) database := by
  intro choice works
  rw [returns choice works]
  exact continues choice

/-- A read that also an unsuitable parameter can fail either ends the request with the
database as it was, or returns rows. -/
theorem leads_lookup (rows : statement.Rows)
    (refused : post rejected database)
    (returns : ∀ choice : Choice, carryOut statement choice database = (.ok rows, database))
    (continues : Leads post (next rows) database) :
    Leads post (query rejected statement next) database := by
  refine leads_query (fun _ _ _ _ => refused) ?_
  intro choice found works returned
  have carried := (execute_ok returned).2.2
  rw [carried, returns choice] at returned
  rw [carried, returns choice, ← Except.ok.inj returned]
  exact continues

/-- The cart is read and sent. The rows come in some order, so the condition must hold for
each permutation. -/
theorem leads_respondCart {sessionId : String}
    (sent : ∀ rows : List (Product × Int4), rows.Perm (database.joinedCart sessionId) →
      post ⟨200, .cart (cartLines rows)⟩ database) :
    Leads post (respondCart rejected sessionId) database :=
  leads_read (fun choice => reorder choice.order (database.joinedCart sessionId))
    (fun _ works => execute_works works rfl _) (fun _ => sent _ (reorder_perm _ _))

end Rules

section Carts

variable {sessionId : String} {rejected : Reply} {database : Database}

/-- An error before any write has no effect on the cart, as the answer says. -/
theorem served_refused {succeeds : Reply → Prop} {effect : CartOperation} {reply : Reply}
    (status : 400 ≤ reply.status) : Served sessionId succeeds effect database reply database :=
  ⟨rfl, Or.inr ⟨status, rfl⟩⟩

/-- A write that succeeds has the effect of its operation and is followed by the answer; one
that fails is answered by an error. -/
theorem leads_write {write : Statement} {operation : CartOperation} (status : 400 ≤ rejected.status)
    (means : ∀ choice rows, choice.Works → (execute write choice database).1 = .ok rows →
      written write (.ok rows) = some (sessionId, operation)) :
    Leads (Served sessionId Reply.Accepts operation database)
      (query rejected write (fun _ => respondCart rejected sessionId)) database := by
  refine leads_query (fun _ _ _ _ => served_refused status) ?_
  intro choice rows works returned
  refine leads_respondCart (fun lines listed => ⟨?_, Or.inl ⟨rfl, ?_⟩⟩)
  · exact (Database.execute_tables write choice database).1
  · have performs := means choice rows works returned
    rw [cart_execute, returned, performs, performed, if_pos rfl]

/-- `GET /api/cart`: the answer is the cart of the session at this moment, and nothing
changes. -/
theorem leads_getCart (sessionId : String) (database : Database) :
    Leads (fun reply last => last = database ∧ ∃ rows : List (Product × Int4),
        rows.Perm (database.joinedCart sessionId) ∧ reply = ⟨200, .cart (cartLines rows)⟩)
      (getCart sessionId) database :=
  leads_respondCart (fun rows listed => ⟨rfl, rows, listed, rfl⟩)

/-- `POST /api/cart` adds the quantity, on a line that is there or on a new one, or answers an
error and adds nothing. -/
theorem leads_postCart (sessionId productId : String) (quantity : Int) (database : Database) :
    Leads (Served sessionId Reply.Accepts (.add productId quantity) database)
      (postCart sessionId (some ⟨some productId, .integer quantity⟩)) database := by
  refine leads_lookup (database.products.get? productId).toList (served_refused (by decide))
    (fun _ => rfl) ?_
  split
  · exact served_refused (by decide)
  refine leads_lookup (database.cartItems.get? (productId, sessionId)).toList
    (served_refused (by decide)) (fun _ => rfl) ?_
  split
  · rename_i there
    refine leads_write (by decide) (fun choice count works returned => ?_)
    obtain ⟨row, found⟩ : ∃ row, database.cartItems.get? (productId, sessionId) = some row := by
      cases found : database.cartItems.get? (productId, sessionId) with
      | none => simp [found] at there
      | some row => exact ⟨row, rfl⟩
    have executed : (database.increaseQuantity (.integer quantity) (some productId) sessionId).1 =
        .ok count := by
      rw [(execute_ok returned).2.2] at returned
      exact returned
    rcases database.increaseQuantity_cases (.integer quantity) (some productId) sessionId with
      ⟨error, failed⟩ | ⟨-, absent⟩ | ⟨id, value, stored, sum, -, -, -, -, hit⟩
    · simp [failed] at executed
    · simp [absent productId rfl] at found
    · have single : count = 1 := by simpa [hit] using executed.symm
      rw [single]
      rfl
  · exact leads_write (by decide) (fun _ _ _ _ => rfl)

/-- What a PUT of a whole number means for the cart: it removes the line where the number is
not positive. -/
def putOperation (productId : String) (quantity : Int) : CartOperation :=
  if quantity ≤ 0 then .remove productId else .set productId quantity

/-- `PUT /api/cart/:id` sets or removes the line, as its quantity says, or answers an error.
-/
theorem leads_putCart (sessionId productId : String) (quantity : Int) (database : Database) :
    Leads (Served sessionId Reply.Accepts (putOperation productId quantity) database)
      (putCart sessionId productId (some (.integer quantity))) database := by
  by_cases nonpositive : quantity ≤ 0
  · have removes : putCart sessionId productId (some (.integer quantity)) =
        query invalidBody (.deleteCartItem productId sessionId)
          (fun _ => respondCart invalidBody sessionId) := by
      simp [putCart, Quantity.nonpositive, nonpositive]
    rw [removes, putOperation, if_pos nonpositive]
    exact leads_write (by decide) (fun _ _ _ _ => rfl)
  · have sets : putCart sessionId productId (some (.integer quantity)) =
        query invalidBody (.setQuantity (.integer quantity) productId sessionId)
          (fun _ => respondCart invalidBody sessionId) := by
      simp [putCart, Quantity.nonpositive, nonpositive]
    rw [sets, putOperation, if_neg nonpositive]
    exact leads_write (by decide) (fun _ _ _ _ => rfl)

/-- `DELETE /api/cart/:id` removes the line, if there is one. -/
theorem leads_deleteCartItem (sessionId productId : String) (database : Database) :
    Leads (Served sessionId Reply.Accepts (.remove productId) database)
      (deleteCartItem sessionId productId) database :=
  leads_write (by decide) (fun _ _ _ _ => rfl)

/-- `DELETE /api/cart` clears the cart, and its answer is the cart it leaves. -/
theorem leads_deleteCart (sessionId : String) (database : Database) :
    Leads (Served sessionId Reply.Accepts .clear database) (deleteCart sessionId) database := by
  refine leads_query (fun _ _ _ _ => served_refused (by decide))
    (fun choice rows works returned => ⟨?_, Or.inl ⟨rfl, ?_⟩⟩)
  · exact (Database.execute_tables (.deleteCart sessionId) choice database).1
  · rw [cart_execute, returned]
    simp [written, performed]

end Carts

section Checkout

variable {sessionId : String} {start database : Database}

/-- The tables of a checkout that has not cleared the cart yet. -/
structure Unfinished (sessionId : String) (start : Database) (database : Database) : Prop where
  products : database.products = start.products
  cart : database.cart sessionId = start.cart sessionId

/-- Until the DELETE a checkout leaves the cart as it was, so an error up to there has no
effect on it. -/
theorem Unfinished.refused (unfinished : Unfinished sessionId start database) {reply : Reply}
    (status : 400 ≤ reply.status) : Served sessionId Reply.Creates .clear start reply database :=
  ⟨unfinished.products, Or.inr ⟨status, unfinished.cart⟩⟩

/-- From the DELETE on nothing fails, because the order to be read back is there. -/
theorem leads_finishOrder (unfinished : Unfinished sessionId start database) {nextId : Nat}
    (ordered : database.orders.get? (orderIdOf nextId) ≠ none) :
    Leads (Served sessionId Reply.Creates .clear start) (finishOrder sessionId nextId) database := by
  apply leads_query
  · intro choice error works failed
    rw [execute_works works rfl] at failed
    simp [carryOut, Database.deleteCart] at failed
  intro choice count works returned
  have tables := Database.execute_tables (.deleteCart sessionId) choice database
  have cleared : (execute (.deleteCart sessionId) choice database).2.cart sessionId =
      CartOperation.clear.apply (start.cart sessionId) := by
    rw [cart_execute, returned]
    simp [written, performed, CartOperation.apply]
  have orders := tables.2.1 (by simp)
  generalize (execute (.deleteCart sessionId) choice database).2 = last at tables cleared orders
  obtain ⟨order, found⟩ := Option.ne_none_iff_exists'.mp ordered
  rw [← orders] at found
  refine leads_read (fun _ => [order])
    (fun choice works => by rw [execute_works works rfl]; simp [carryOut, found]) (fun _ => ?_)
  refine leads_read (fun choice => reorder choice.order (last.orderItems.filter
    (fun item => decide (item.orderId = orderIdOf nextId))))
    (fun _ works => execute_works works rfl _) (fun _ => ?_)
  exact ⟨tables.1.trans unfinished.products, Or.inl ⟨⟨_, rfl⟩, cleared⟩⟩

/-- An item that is refused ends the checkout with the cart as it was. -/
theorem leads_insertItems (unfinished : Unfinished sessionId start database) {nextId : Nat}
    (ordered : database.orders.get? (orderIdOf nextId) ≠ none) (items : List CheckoutRow) :
    Leads (Served sessionId Reply.Creates .clear start)
      (insertItems nextId items (finishOrder sessionId nextId)) database := by
  induction items generalizing database with
  | nil => exact leads_finishOrder unfinished ordered
  | cons item items inductionHypothesis =>
    refine leads_query (fun _ _ _ _ => unfinished.refused (by decide))
      (fun choice count works returned => ?_)
    have tables := Database.execute_tables (.insertOrderItem (newOrderItem nextId item)) choice database
    refine inductionHypothesis ⟨tables.1.trans unfinished.products, ?_⟩ ?_
    · rw [Database.cart_congr (tables.2.2.2 rfl), unfinished.cart]
    · rw [tables.2.1 (by simp)]
      exact ordered

/-- `POST /api/orders` clears the cart if it answers 201, and otherwise leaves it. The cases
are the statements that may be refused. -/
theorem leads_postOrders (sessionId : String) (customer : CustomerFields) (database : Database) :
    Leads (Served sessionId Reply.Creates .clear database)
      (postOrders sessionId (.fields customer)) database := by
  have begun : Unfinished sessionId database database := ⟨rfl, rfl⟩
  rw [postOrders, if_neg (by simp)]
  refine leads_read (fun choice => reorder choice.order (database.checkoutRows sessionId))
    (fun _ works => execute_works works rfl _) (fun choice => ?_)
  generalize reorder choice.order (database.checkoutRows sessionId) = rows
  split
  · exact begun.refused (by decide)
  refine leads_read (fun _ => database.orders.rows.length + 1)
    (fun _ works => execute_works works rfl _) (fun _ => ?_)
  generalize database.orders.rows.length + 1 = nextId
  refine leads_query (fun _ _ _ _ => begun.refused (by decide)) (fun choice count works returned => ?_)
  have executed : (execute (.insertOrder (newOrder nextId customer rows)) choice database) =
      database.insertOrder (newOrder nextId customer rows) choice.now := execute_works works rfl _
  rw [executed] at returned ⊢
  rcases database.insertOrder_cases (newOrder nextId customer rows) choice.now with
    ⟨⟨error, failed⟩, -⟩ | ⟨stored, next, fits, inserted, accepted⟩
  · simp [failed] at returned
  · obtain ⟨orders, products, carts, -⟩ := Database.insertOrder?_eq_some inserted
    rw [accepted]
    refine leads_insertItems ⟨products, Database.cart_congr carts sessionId⟩ ?_ rows
    have id : stored.id = orderIdOf nextId := (Database.orderRow?_eq_some fits).1
    rw [KeyedTable.get?_insert orders, if_pos id]
    simp

end Checkout

end ShoppingCS.Shop
