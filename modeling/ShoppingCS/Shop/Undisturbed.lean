import ShoppingCS.Shop.CartLinearization

/-!
# A request alone with its cart

While nobody else changes the cart of its session, a request sees the cart it has
started with until it writes, and the cart is what its writes have made of that one.
So an update that is answered 200 has done to the cart what it means, and a request
without a settled write has done nothing to it.
-/

namespace ShoppingCS.Shop

open Interleaving Storage Program

/-- A cart after the writes of a trace, performed one after the other from a given start. -/
def afterWrites (sessionId : String) (trace : Trace) (start : Cart) : Cart :=
  (writes trace).foldl (fun cart write => performed sessionId (some write) cart) start

/-- One more event in the trace performs what it is reported to have written. -/
theorem afterWrites_event (sessionId : String) (trace : Trace) (start : Cart) (command : Statement)
    (result : command.Result) :
    afterWrites sessionId (trace ++ [⟨command, result⟩]) start =
      performed sessionId (written command result) (afterWrites sessionId trace start) := by
  unfold afterWrites
  rw [writes_append, List.foldl_append]
  cases performs : written command result with
  | none => simp [performs, performed]
  | some write => simp [performs]

/-- The event has executed its statement on a database with these products and this
cart of the session. -/
def Seen (products : KeyedTable Product String Product.id) (start : Cart) (sessionId : String)
    (event : Event Statement Statement.Result) : Prop :=
  ∃ choice database, database.products = products ∧ database.cart sessionId = start ∧
    event.result = (execute event.command choice database).1

/-- Where a request stands that has been alone with the cart since it was `start`. -/
structure Undisturbed (products : KeyedTable Product String Product.id) (start : Cart)
    (sessionId : String) (database : Database) (trace : Trace) : Prop where
  catalogue : database.products = products
  reached : database.cart sessionId = afterWrites sessionId trace start
  observed : ∀ before event later, trace = before ++ event :: later → writes before = [] →
    Seen products start sessionId event

section Undisturbed

variable {products : KeyedTable Product String Product.id} {start : Cart} {sessionId : String}
  {database : Database} {trace : Trace}

/-- Before the first statement the cart is the start itself, and nothing has been observed. -/
theorem undisturbed_start (database : Database) (sessionId : String) :
    Undisturbed database.products (database.cart sessionId) sessionId database [] where
  catalogue := rfl
  reached := rfl
  observed := fun before event later split => absurd split (by simp)

/-- The statements of the request itself keep it so, because their effects are those the trace
reports. -/
theorem Undisturbed.own (undisturbed : Undisturbed products start sessionId database trace)
    (command : Statement) (choice : Choice) :
    Undisturbed products start sessionId (execute command choice database).2
      (trace ++ [⟨command, (execute command choice database).1⟩]) where
  catalogue := (Database.execute_tables command choice database).1.trans undisturbed.catalogue
  reached := by
    rw [cart_execute, undisturbed.reached, afterWrites_event]
  observed := by
    intro before event later split unwritten
    rcases List.eq_nil_or_concat later with rfl | ⟨later, last, rfl⟩
    · obtain ⟨rfl, same⟩ := List.append_inj' split rfl
      obtain rfl := List.singleton_inj.mp same
      refine ⟨choice, database, undisturbed.catalogue, ?_, rfl⟩
      rw [undisturbed.reached, afterWrites, unwritten]
      rfl
    · rw [List.concat_eq_append, ← List.cons_append, ← List.append_assoc] at split
      exact undisturbed.observed before event later (List.append_inj' split rfl).1 unwritten

/-- So does whatever changes neither the products nor the cart. -/
theorem Undisturbed.other {next : Database}
    (undisturbed : Undisturbed products start sessionId database trace)
    (same : next.products = database.products)
    (kept : next.cart sessionId = database.cart sessionId) :
    Undisturbed products start sessionId next trace :=
  ⟨same.trans undisturbed.catalogue, kept.trans undisturbed.reached, undisturbed.observed⟩

/-- Without a write that has settled the cart is as it was. -/
theorem Undisturbed.unsettled (undisturbed : Undisturbed products start sessionId database trace)
    (unsettled : settled trace = false) : database.cart sessionId = start := by
  rw [undisturbed.reached, afterWrites, writes_of_unsettled unsettled]
  rfl

/-- If the one write is what the request means, so is the cart. -/
theorem Undisturbed.updates (undisturbed : Undisturbed products start sessionId database trace)
    {request : Request} (single : writes trace =
      (request.operation.update?.map (Prod.mk sessionId)).toList) :
    database.cart sessionId = updated request start := by
  rw [undisturbed.reached, afterWrites, single]
  unfold updated
  cases request.operation.update? with
  | none => rfl
  | some operation => simp [performed]

/-- A statement that has returned rows had a working connection. -/
theorem seen_passed {statement : Statement} {rows : statement.Rows}
    (seen : Seen products start sessionId (passed statement rows)) :
    ∃ (choice : Choice) (database : Database), database.products = products ∧
      database.cart sessionId = start ∧ choice.fails = false ∧ (execute statement choice database).1 = .ok rows := by
  obtain ⟨choice, database, catalogue, cart, returned⟩ := seen
  refine ⟨choice, database, catalogue, cart, ?_, returned.symm⟩
  by_contra working
  have failing : choice.fails = true := by simpa using working
  have failed := returned
  rw [passed, execute_fails statement choice database failing] at failed
  exact absurd failed (by simp)

/-- The cart query has returned the rows of the cart. -/
theorem seen_selectCart {rows : List (Product × Int4)}
    (seen : Seen products start sessionId (passed (.selectCart sessionId) rows)) :
    ∃ database : Database, database.products = products ∧ database.cart sessionId = start ∧
      rows.Perm (database.joinedCart sessionId) := by
  obtain ⟨choice, database, catalogue, cart, working, returned⟩ := seen_passed seen
  refine ⟨database, catalogue, cart, ?_⟩
  have listed : (execute (.selectCart sessionId) choice database).1 =
      .ok (reorder choice.order (database.joinedCart sessionId)) :=
    congrArg Prod.fst (execute_works working rfl _)
  rw [← Except.ok.inj (listed.symm.trans returned)]
  exact reorder_perm _ _

/-- The rows a checkout has read are those of some database with these products and this cart.
-/
theorem seen_selectCheckout {rows : List CheckoutRow}
    (seen : Seen products start sessionId (passed (.selectCheckout sessionId) rows)) :
    ∃ database : Database, database.products = products ∧ database.cart sessionId = start ∧
      rows.Perm (database.checkoutRows sessionId) := by
  obtain ⟨choice, database, catalogue, cart, working, returned⟩ := seen_passed seen
  refine ⟨database, catalogue, cart, ?_⟩
  have listed : (execute (.selectCheckout sessionId) choice database).1 =
      .ok (reorder choice.order (database.checkoutRows sessionId)) :=
    congrArg Prod.fst (execute_works working rfl _)
  rw [← Except.ok.inj (listed.symm.trans returned)]
  exact reorder_perm _ _

/-- Products that are listed are in the product table. -/
theorem seen_selectProducts {pattern : Option String} {rows : List Product}
    (seen : Seen products start sessionId (passed (.selectProducts pattern) rows)) {product : Product}
    (listed : product ∈ rows) : product ∈ products.rows := by
  obtain ⟨choice, database, rfl, -, working, returned⟩ := seen_passed seen
  have found : (execute (.selectProducts pattern) choice database).1 =
      .ok (database.selectProducts pattern choice.order) := by
    rw [(execute_ok returned).2.2]
    rfl
  rw [← Except.ok.inj (found.symm.trans returned)] at listed
  have selected := (reorder_perm choice.order _).mem_iff.mp (List.mem_mergeSort.mp listed)
  cases pattern with
  | none => exact selected
  | some text => exact List.mem_of_mem_filter selected

/-- An UPDATE that adds, of a row that is in the cart, hits it. -/
theorem increase_hits {products : KeyedTable Product String Product.id} {start : Cart}
    {sessionId productId : String} {quantity : Quantity} {existing : List CartItem} {count : Nat}
    (looked : Seen products start sessionId
      (passed (.selectCartItem (some productId) sessionId) existing))
    (nonempty : existing ≠ [])
    (added : Seen products start sessionId
      (passed (.increaseQuantity quantity (some productId) sessionId) count)) : count = 1 := by
  obtain ⟨choice, database, -, cart, found⟩ := looked
  have there := selectCartItem_found found.symm nonempty
  obtain ⟨later, next, -, same, returned⟩ := added
  have still : next.cart sessionId productId ≠ none := by
    rw [same, ← cart]
    exact there
  exact increaseQuantity_present still (increaseQuantity_executed (Prod.ext returned.symm rfl))

/-- What an answered add has written is what it means. -/
theorem stores_written {body : CartBody} {products : KeyedTable Product String Product.id}
    {start : Cart} {existing : List CartItem} {write : Event Statement Statement.Result}
    (stores : Stores sessionId body existing write)
    (looked : Seen products start sessionId
      (passed (.selectCartItem body.productId sessionId) existing))
    (wrote : Seen products start sessionId write) :
    written write.command write.result =
      (Operation.update? (.postCart (some body))).map (Prod.mk sessionId) := by
  cases stores with
  | inserted count =>
    have either : Performs sessionId (.postCart (some body))
        (.insertCartItem body.productId body.quantity sessionId) := performs_postCart (Or.inr rfl)
    rcases either with performs | ⟨productId, quantity, -, impossible⟩
    · exact performs count
    · exact absurd impossible Statement.noConfusion
  | increased _ nonempty count =>
    have either : Performs sessionId (.postCart (some body))
        (.increaseQuantity body.quantity body.productId sessionId) := performs_postCart (Or.inl rfl)
    rcases either with performs | ⟨productId, quantity, means, same⟩
    · exact performs count
    · obtain ⟨quantityGiven, productGiven, -⟩ := Statement.increaseQuantity.inj same
      obtain ⟨bodyProduct, bodyQuantity⟩ := body
      dsimp only at quantityGiven productGiven
      subst quantityGiven productGiven
      obtain rfl := increase_hits looked nonempty wrote
      rfl

/-- A handler that writes once and has answered 200 has executed its write. -/
theorem write_accepted {rejected reply : Reply} {write : Statement}
    (status : rejected.status ≠ 200)
    (point : WriteAt rejected sessionId write trace (.answer reply)) (accepted : reply.status = 200) :
    ∃ rows, writes trace = (written write (.ok rows)).toList := by
  cases point with
  | refused error => exact absurd accepted status
  | answered rows lines =>
    refine ⟨rows, ?_⟩
    simp only [writes_cons, writes_nil, passed, written_none _ (rfl : Statement.writesCart
      (.selectCart sessionId) = false), Option.toList_none, List.append_nil]
  | unread rows error => exact absurd accepted status

/-- The same for a write that performs what the request means. -/
theorem write_performed {rejected reply : Reply} {write : Statement} {operation : Operation}
    (status : rejected.status ≠ 200)
    (point : WriteAt rejected sessionId write trace (.answer reply)) (accepted : reply.status = 200)
    (performs : Performs sessionId operation write)
    (other : ∀ quantity productId owner, write ≠ .increaseQuantity quantity productId owner) :
    writes trace = (operation.update?.map (Prod.mk sessionId)).toList := by
  obtain ⟨rows, single⟩ := write_accepted status point accepted
  rcases performs with performs | ⟨productId, quantity, -, impossible⟩
  · rw [single, performs rows]
  · exact absurd impossible (other _ _ _)

/-- A request answered 200, alone with its cart, has done to it what it means. -/
theorem updated_answered {request : Request} {reply : Reply}
    (plain : request.operation.isCheckout = false)
    (follows : Follows (handle request) trace (.answer reply))
    (undisturbed : Undisturbed products start (getSessionId request) database trace)
    (accepted : reply.status = 200) :
    database.cart (getSessionId request) = updated request start := by
  apply undisturbed.updates
  by_cases silent : request.operation.updatesCart = false
  · have means : request.operation.update? = none := by
      cases asked : request.operation <;> simp_all [Operation.updatesCart, Operation.update?]
    rw [writes_of_unsettled (reads_unsettled silent plain follows).1, means]
    rfl
  · unfold handle at follows
    cases asked : request.operation with
    | postCart body =>
      rw [asked] at follows
      cases body with
      | none =>
        obtain ⟨-, ended⟩ := (follows_answer _ _ _).mp follows
        obtain rfl := Program.answer.inj ended
        exact absurd accepted (by decide)
      | some body =>
        rcases postCart_answered (postCart_at follows) rfl with
          ⟨found, existing, write, rows, stores, rfl, -⟩ | ⟨write, error, before, -, rfl⟩ |
            ⟨status, -⟩
        · have looked := undisturbed.observed [_] _ _ rfl rfl
          have wrote := undisturbed.observed [_, _] _ _ rfl rfl
          rw [writes_append, writes_append]
          have single : writes [write] = (written write.command write.result).toList := by simp
          rw [single, stores_written stores looked wrote]
          exact List.append_nil _
        · exact absurd accepted (by decide)
        · exact absurd accepted status
    | putCart productId body =>
      rw [asked] at follows
      cases body with
      | none =>
        obtain ⟨-, ended⟩ := (follows_answer _ _ _).mp follows
        obtain rfl := Program.answer.inj ended
        exact absurd accepted (by decide)
      | some quantity =>
        have putting : Follows (putCart _ productId (some quantity)) _ _ := follows
        rw [putCart_eq] at putting
        exact write_performed (by decide) (write_at putting) accepted
          (performs_putCart _ productId quantity) (putWrite_sets _ productId quantity).2
    | deleteCartItem productId =>
      rw [asked] at follows
      exact write_performed (by decide) (write_at follows) accepted (Or.inl (fun rows => rfl))
        (fun _ _ _ => Statement.noConfusion)
    | deleteCart =>
      rw [asked] at follows
      rcases follows_deleteCart follows with ⟨-, same⟩ | ⟨error, -, same⟩ | ⟨count, rfl, -⟩
      · have ended := congrArg pending? same
        simp [deleteCart] at ended
      · obtain rfl := Program.answer.inj same
        exact absurd accepted (by decide)
      · rfl
    | _ => simp [asked, Operation.updatesCart] at silent

end Undisturbed

section Status

variable {admits : Reply → Prop}

/-- Whatever the handler answers, after any statements it may follow, is admitted. -/
def Answers (admits : Reply → Prop) (handler : Handler) : Prop :=
  ∀ trace reply, Follows handler trace (.answer reply) → admits reply

theorem answers_answer {reply : Reply} (admitted : admits reply) : Answers admits (.answer reply) := by
  intro trace other follows
  obtain ⟨-, same⟩ := (follows_answer _ _ _).mp follows
  obtain rfl := Program.answer.inj same
  exact admitted

/-- A query answers for itself or leaves it to what follows. -/
theorem answers_query {rejected : Reply} {statement : Statement} {next : statement.Rows → Handler}
    (refusal : admits rejected) (continues : ∀ rows, Answers admits (next rows)) :
    Answers admits (query rejected statement next) := by
  intro trace reply follows
  rcases (follows_query _ _ _ _ _).mp follows with
    ⟨-, same⟩ | ⟨error, -, same⟩ | ⟨rows, later, -, tail⟩
  · exact absurd (congrArg pending? same) (by simp)
  · obtain rfl := Program.answer.inj same
    exact refusal
  · exact continues rows later reply tail

theorem answers_respondCart {rejected : Reply} (sessionId : String) (refusal : admits rejected)
    (success : ∀ lines, admits ⟨200, .cart lines⟩) :
    Answers admits (respondCart rejected sessionId) :=
  answers_query refusal (fun rows => answers_answer (success (cartLines rows)))

theorem answers_readItems (orderIds : List String) (found : List (String × List OrderItem))
    {next : List (String × List OrderItem) → Handler}
    (refusal : admits (.error 500 "Failed to fetch orders"))
    (beyond : ∀ found, Answers admits (next found)) :
    Answers admits (readItems orderIds found next) := by
  induction orderIds generalizing found with
  | nil => exact beyond found
  | cons orderId orderIds inductionHypothesis =>
    exact answers_query refusal (fun items => inductionHypothesis _)

theorem answers_insertItems (nextId : Nat) (items : List CheckoutRow) {next : Handler}
    (refusal : admits invalidBody) (beyond : Answers admits next) :
    Answers admits (insertItems nextId items next) := by
  induction items with
  | nil => exact beyond
  | cons item items inductionHypothesis =>
    exact answers_query refusal (fun _ => inductionHypothesis)

/-- The status of success of an operation: a checkout creates, the others do not. -/
def Operation.success (operation : Operation) : Nat := if operation.isCheckout then 201 else 200

/-- What a request can be answered: its success, or an error. -/
def Concludes (operation : Operation) (reply : Reply) : Prop :=
  reply.status = operation.success ∨ 400 ≤ reply.status

/-- An error of the server has a status from 400 on. -/
theorem concludes_error {operation : Operation} {status : Nat} (error : 400 ≤ status)
    (message : String) : Concludes operation (.error status message) := Or.inr error

/-- A checkout is answered 201 or with an error. -/
theorem answers_postOrders (sessionId : String) (body : OrderBody) :
    Answers (Concludes (.postOrders body)) (postOrders sessionId body) := by
  have refusal : Concludes (.postOrders body) invalidBody := concludes_error (by decide) _
  unfold postOrders
  split
  · exact answers_answer refusal
  · apply answers_query refusal
    intro rows
    split
    · exact answers_answer (concludes_error (by decide) _)
    · apply answers_query refusal
      intro nextId
      unfold submitOrder
      split
      · refine answers_query refusal (fun _ => answers_insertItems nextId rows refusal ?_)
        refine answers_query refusal (fun _ => answers_query refusal ?_)
        intro orders
        apply answers_query refusal
        intro items
        cases orders with
        | nil => exact answers_answer refusal
        | cons order orders => exact answers_answer (Or.inl rfl)
      · exact answers_answer refusal

/-- Every answer has the status of success of its operation, or is an error. -/
theorem handle_concludes (request : Request) :
    Answers (Concludes request.operation) (handle request) := by
  obtain ⟨header, operation⟩ := request
  cases operation with
  | getHealth => exact answers_answer (Or.inl rfl)
  | getProducts search =>
    exact answers_query (concludes_error (by decide) _) (fun rows => answers_answer (Or.inl rfl))
  | getProduct productId =>
    refine answers_query (concludes_error (by decide) _) (fun rows => ?_)
    cases rows with
    | nil => exact answers_answer (concludes_error (by decide) _)
    | cons row rows => exact answers_answer (Or.inl rfl)
  | getCart => exact answers_respondCart _ (concludes_error (by decide) _) (fun lines => Or.inl rfl)
  | postCart body =>
    have refusal : Concludes (.postCart body) invalidBody := concludes_error (by decide) _
    have finishing (session : String) :
        Answers (Concludes (.postCart body)) (respondCart invalidBody session) :=
      answers_respondCart session refusal (fun lines => Or.inl rfl)
    cases body with
    | none => exact answers_answer refusal
    | some body =>
      apply answers_query refusal
      intro products
      split
      · exact answers_answer (concludes_error (by decide) _)
      · apply answers_query refusal
        intro existing
        split
        · exact answers_query refusal (fun _ => finishing _)
        · exact answers_query refusal (fun _ => finishing _)
  | putCart productId body =>
    have refusal : Concludes (.putCart productId body) invalidBody := concludes_error (by decide) _
    cases body with
    | none => exact answers_answer refusal
    | some quantity =>
      have putting : Answers (Concludes (.putCart productId (some quantity)))
          (putCart (getSessionId ⟨header, .putCart productId (some quantity)⟩) productId
            (some quantity)) := by
        rw [putCart_eq]
        exact answers_query refusal
          (fun _ => answers_respondCart _ refusal (fun lines => Or.inl rfl))
      exact putting
  | deleteCartItem productId =>
    exact answers_query (concludes_error (by decide) _) (fun _ =>
      answers_respondCart _ (concludes_error (by decide) _) (fun lines => Or.inl rfl))
  | deleteCart =>
    exact answers_query (concludes_error (by decide) _) (fun _ => answers_answer (Or.inl rfl))
  | getOrders =>
    have refusal : Concludes .getOrders (.error 500 "Failed to fetch orders") :=
      concludes_error (by decide) _
    exact answers_query refusal (fun rows => answers_query refusal (fun orderIds =>
      answers_readItems orderIds [] refusal (fun found => answers_answer (Or.inl rfl))))
  | postOrders body => exact answers_postOrders _ body
  | getOrder orderId =>
    refine answers_query (concludes_error (by decide) _) (fun orders => ?_)
    cases orders with
    | nil => exact answers_answer (concludes_error (by decide) _)
    | cons order orders =>
      exact answers_query (concludes_error (by decide) _) (fun items => answers_answer (Or.inl rfl))

end Status

end ShoppingCS.Shop
