import ShoppingCS.Interleaving.Erasure
import ShoppingCS.Shop.Sessions

/-!
# Sessions do not interfere through the cart

What a session that uses nothing but its cart can observe is decided by its own
rows of the cart table and by the products. Statements of other sessions leave
these rows alone, whatever they are, so their requests can be erased from a run:
the rows of the session and its answers stay the same.

The rows of a session come back in an order of the database's choosing, in both
runs. The answers are compared up to that order.
-/

namespace ShoppingCS.Shop

open Interleaving Storage Program

/-- The requests under `/api/cart`, which are those the result is about. A checkout sees the
orders of all sessions. -/
def Operation.isCart : Operation → Bool
  | .getCart => true
  | .postCart _ => true
  | .putCart _ _ => true
  | .deleteCartItem _ => true
  | .deleteCart => true
  | _ => false

/-- The statements a cart request of the session may issue: on products, or on rows of this
session. -/
def Statement.OwnCart (sessionId : String) : Statement → Prop
  | .selectProduct _ => True
  | .selectCart owner => owner = sessionId
  | .selectCartItem _ owner => owner = sessionId
  | .increaseQuantity _ _ owner => owner = sessionId
  | .insertCartItem _ _ owner => owner = sessionId
  | .setQuantity _ _ owner => owner = sessionId
  | .deleteCartItem _ owner => owner = sessionId
  | .deleteCart owner => owner = sessionId
  | _ => False

/-- The same result, up to the order of the rows of a cart. -/
def Statement.SameResult : (statement : Statement) → statement.Result → statement.Result → Prop
  | .selectCart _, .ok left, .ok right => List.Perm left right
  | _, left, right => left = right

/-- The same document, up to the order of the lines of a cart. -/
def Body.Same : Body → Body → Prop
  | .cart left, .cart right => List.Perm left right
  | left, right => left = right

/-- The same status and the same document, up to the order of the lines of a cart. -/
structure Reply.Same (left right : Reply) : Prop where
  status : left.status = right.status
  body : left.body.Same right.body

/-- The databases have the same products and the same rows of the session's cart. -/
structure SameRows (sessionId : String) (first second : Database) : Prop where
  products : first.products = second.products
  rows : first.cartRows sessionId = second.cartRows sessionId

namespace Database

/-- The rows of a session decide what a lookup in its cart finds. -/
theorem get?_cartRows (database : Database) (productId sessionId : String) :
    database.cartItems.get? (productId, sessionId) =
      (database.cartRows sessionId).find? (fun row => decide (row.productId = productId)) := by
  rw [KeyedTable.get?, cartRows, List.find?_filter]
  congr 1
  funext row
  simp [CartItem.key, and_comm]

/-- Storing a quantity rewrites the rows of every session alike. -/
theorem cartRows_storeQuantity (database : Database) (productId owner : String) (quantity : Int4)
    (sessionId : String) :
    (database.storeQuantity productId owner quantity).cartRows sessionId =
      (database.cartRows sessionId).map (fun row =>
        if row.key = (productId, owner) then row.withQuantity quantity else row) := by
  simp only [cartRows, storeQuantity, withCart, KeyedTable.rewrite, List.filter_map]
  congr 1
  refine List.filter_congr (fun row _ => ?_)
  dsimp only [Function.comp_apply]
  split <;> rfl

/-- Inserting a row adds it to the rows of its own session and of no other. -/
theorem cartRows_insertCart {database next : Database} {row : CartItem}
    (inserted : database.insertCart? row = some next) (sessionId : String) :
    next.cartRows sessionId =
      database.cartRows sessionId ++ if row.sessionId = sessionId then [row] else [] := by
  obtain ⟨-, rows⟩ := KeyedTable.insert?_eq_some.mp (insertCart?_eq_some inserted).1
  rw [cartRows, rows, List.filter_append]
  by_cases same : row.sessionId = sessionId
  · simp [cartRows, same]
  · simp [cartRows, same]

/-- Deleting the rows that fail a test deletes just these from the rows of every session. -/
theorem cartRows_keepCart (database : Database) (test : CartItem → Bool) (sessionId : String) :
    (database.keepCart test).cartRows sessionId = (database.cartRows sessionId).filter test :=
  List.filter_comm ..

/-- Storing a quantity in another session's cart changes no row of this one. -/
theorem cartRows_storeQuantity_other (database : Database) (productId : String)
    (quantity : Int4) {owner sessionId : String} (elsewhere : owner ≠ sessionId) :
    (database.storeQuantity productId owner quantity).cartRows sessionId =
      database.cartRows sessionId := by
  rw [cartRows_storeQuantity, List.map_congr_left (g := id)]
  · exact List.map_id _
  · intro row listed
    have own : row.sessionId = sessionId := by simpa using (List.mem_filter.mp listed).2
    have different : row.key ≠ (productId, owner) := by
      intro same
      exact elsewhere ((congrArg Prod.snd same).symm.trans own)
    exact if_neg different

/-- Rows that are deleted from another session's cart are none of this one. -/
theorem cartRows_keepCart_other (database : Database) (test : CartItem → Bool)
    {sessionId : String} (spares : ∀ row, row.sessionId = sessionId → test row = true) :
    (database.keepCart test).cartRows sessionId = database.cartRows sessionId := by
  rw [cartRows_keepCart]
  refine List.filter_eq_self.mpr (fun row listed => spares row ?_)
  simpa using (List.mem_filter.mp listed).2

/-- A statement that does not name the session leaves its rows alone. -/
theorem cartRows_execute_other (statement : Statement) (choice : Choice) (database : Database)
    {sessionId : String} (other : statement.session? ≠ some sessionId) :
    (execute statement choice database).2.cartRows sessionId = database.cartRows sessionId := by
  rcases execute_cases statement choice database with ⟨error, rejected⟩ | ⟨-, -, carried⟩
  · rw [rejected]
  · rw [carried]
    cases statement with
    | increaseQuantity quantity productId owner =>
      have elsewhere : owner ≠ sessionId := fun same => other (congrArg some same)
      simp only [carryOut]
      rcases database.increaseQuantity_cases quantity productId owner with
        ⟨error, same⟩ | ⟨same, -⟩ | ⟨id, value, row, sum, -, -, -, -, same⟩
      · rw [same]
      · rw [same]
      · rw [same]
        exact cartRows_storeQuantity_other database id sum elsewhere
    | insertCartItem productId quantity owner =>
      have elsewhere : owner ≠ sessionId := fun same => other (congrArg some same)
      simp only [carryOut]
      rcases database.insertCartItem_cases productId quantity owner with
        ⟨error, same⟩ | ⟨id, stored, next, -, -, inserted, same⟩
      · rw [same]
      · rw [same, cartRows_insertCart inserted]
        simp [elsewhere]
    | setQuantity quantity productId owner =>
      have elsewhere : owner ≠ sessionId := fun same => other (congrArg some same)
      simp only [carryOut]
      rcases database.setQuantity_cases quantity productId owner with
        ⟨error, same⟩ | ⟨same, -⟩ | ⟨stored, -, same⟩
      · rw [same]
      · rw [same]
      · rw [same]
        exact cartRows_storeQuantity_other database productId stored elsewhere
    | deleteCartItem productId owner =>
      have elsewhere : owner ≠ sessionId := fun same => other (congrArg some same)
      simp only [carryOut, deleteCartItem]
      apply cartRows_keepCart_other database _
      intro row own
      have different : row.key ≠ (productId, owner) := by
        intro same
        exact elsewhere ((congrArg Prod.snd same).symm.trans own)
      simpa using different
    | deleteCart owner =>
      have elsewhere : owner ≠ sessionId := fun same => other (congrArg some same)
      simp only [carryOut, deleteCart]
      apply cartRows_keepCart_other database _
      intro row own
      simpa [own] using elsewhere.symm
    | _ =>
      rw [← carried]
      exact congrArg (List.filter _) (congrArg KeyedTable.rows
        ((execute_tables _ choice database).2.2.2 rfl))

end Database

section Own

variable {sessionId : String} {first second : Database}

/-- Lookups by product in the session's cart find the same row, since the key includes the
session. -/
theorem SameRows.get? (same : SameRows sessionId first second) (productId : String) :
    first.cartItems.get? (productId, sessionId) = second.cartItems.get? (productId, sessionId) := by
  rw [first.get?_cartRows, second.get?_cartRows, same.rows]

/-- The lines of the session's cart are the same, as both databases have the same products. -/
theorem SameRows.joinedCart (same : SameRows sessionId first second) :
    first.joinedCart sessionId = second.joinedCart sessionId := by
  rw [Database.joinedCart, Database.joinedCart, same.rows, same.products]

/-- Storing a quantity for any session keeps the rows of this one the same in both databases.
-/
theorem SameRows.storeQuantity (same : SameRows sessionId first second) (productId owner : String)
    (quantity : Int4) : SameRows sessionId (first.storeQuantity productId owner quantity)
      (second.storeQuantity productId owner quantity) where
  products := same.products
  rows := by rw [Database.cartRows_storeQuantity, Database.cartRows_storeQuantity, same.rows]

/-- Deleting the rows that fail a test, in both databases, keeps the rows of the session the
same. -/
theorem SameRows.keepCart (same : SameRows sessionId first second) (test : CartItem → Bool) :
    SameRows sessionId (first.keepCart test) (second.keepCart test) where
  products := same.products
  rows := by rw [Database.cartRows_keepCart, Database.cartRows_keepCart, same.rows]

/-- The additive update returns the same and does the same. -/
theorem SameRows.increaseQuantity (same : SameRows sessionId first second) (quantity : Quantity)
    (productId : Option String) :
    (first.increaseQuantity quantity productId sessionId).1 =
        (second.increaseQuantity quantity productId sessionId).1 ∧
      SameRows sessionId (first.increaseQuantity quantity productId sessionId).2
        (second.increaseQuantity quantity productId sessionId).2 := by
  unfold Database.increaseQuantity
  split
  · exact ⟨rfl, same⟩
  · exact ⟨rfl, same⟩
  · rw [same.get?]
    split
    · exact ⟨rfl, same⟩
    · exact ⟨rfl, same⟩
    · split
      · exact ⟨rfl, same⟩
      · exact ⟨rfl, same.storeQuantity _ _ _⟩

/-- The absolute update returns the same and does the same. -/
theorem SameRows.setQuantity (same : SameRows sessionId first second) (quantity : Quantity)
    (productId : String) :
    (first.setQuantity quantity productId sessionId).1 =
        (second.setQuantity quantity productId sessionId).1 ∧
      SameRows sessionId (first.setQuantity quantity productId sessionId).2
        (second.setQuantity quantity productId sessionId).2 := by
  unfold Database.setQuantity
  split
  · exact ⟨rfl, same⟩
  · rw [same.get?]
    split
    · exact ⟨rfl, same⟩
    · exact ⟨rfl, same⟩
    · exact ⟨rfl, same.storeQuantity _ _ _⟩

/-- A row of the session is accepted by both databases or by none. -/
theorem SameRows.insertCart? (same : SameRows sessionId first second) (productId : String)
    (quantity : Int4) :
    (first.insertCart? ⟨productId, quantity, sessionId⟩ = none ∧
        second.insertCart? ⟨productId, quantity, sessionId⟩ = none) ∨
      ∃ left right, first.insertCart? ⟨productId, quantity, sessionId⟩ = some left ∧
        second.insertCart? ⟨productId, quantity, sessionId⟩ = some right ∧
        SameRows sessionId left right := by
  have together : first.insertCart? ⟨productId, quantity, sessionId⟩ = none ↔
      second.insertCart? ⟨productId, quantity, sessionId⟩ = none := by
    rw [Database.insertCart?_eq_none, Database.insertCart?_eq_none, same.products]
    simp only [CartItem.key, same.get?]
  cases left : first.insertCart? ⟨productId, quantity, sessionId⟩ with
  | none => exact Or.inl ⟨rfl, together.mp left⟩
  | some here =>
    cases right : second.insertCart? ⟨productId, quantity, sessionId⟩ with
    | none => exact absurd (together.mpr right) (by simp [left])
    | some there =>
      refine Or.inr ⟨here, there, rfl, rfl, ?_, ?_⟩
      · rw [(Database.insertCart?_eq_some left).2.1, (Database.insertCart?_eq_some right).2.1,
          same.products]
      · rw [Database.cartRows_insertCart left, Database.cartRows_insertCart right, same.rows]

/-- The cart insertion returns the same and does the same. -/
theorem SameRows.insertCartItem (same : SameRows sessionId first second)
    (productId : Option String) (quantity : Quantity) :
    (first.insertCartItem productId quantity sessionId).1 =
        (second.insertCartItem productId quantity sessionId).1 ∧
      SameRows sessionId (first.insertCartItem productId quantity sessionId).2
        (second.insertCartItem productId quantity sessionId).2 := by
  unfold Database.insertCartItem
  split
  · exact ⟨rfl, same⟩
  · exact ⟨rfl, same⟩
  · exact ⟨rfl, same⟩
  · rename_i stored productId _
    rw [same.products]
    split
    · exact ⟨rfl, same⟩
    · split
      · exact ⟨rfl, same⟩
      · rcases same.insertCart? productId stored with
          ⟨left, right⟩ | ⟨here, there, left, right, after⟩
        · simpa [left, right] using same
        · simpa [left, right] using after

/-- Own statements return the same up to the order of rows, and do the same. -/
theorem SameRows.execute (same : SameRows sessionId first second) {statement : Statement}
    (own : statement.OwnCart sessionId) {left right : Choice} (alike : left.fails = right.fails) :
    statement.SameResult (execute statement left first).1 (execute statement right second).1 ∧
      SameRows sessionId (execute statement left first).2 (execute statement right second).2 := by
  by_cases failing : left.fails = true
  · rw [execute_fails statement left first failing,
      execute_fails statement right second (alike ▸ failing)]
    exact ⟨by cases statement <;> rfl, same⟩
  have here := Bool.eq_false_iff.mpr failing
  have there : right.fails = false := alike ▸ here
  by_cases nul : statement.holdsNul = true
  · rw [execute_refuses statement left first here nul,
      execute_refuses statement right second there nul]
    exact ⟨by cases statement <;> rfl, same⟩
  · have taken := Bool.eq_false_iff.mpr nul
    rw [execute_works here taken, execute_works there taken]
    simp only [Shop.carryOut]
    cases statement with
    | selectProduct id => exact ⟨by rw [same.products]; rfl, same⟩
    | selectCart owner =>
      obtain rfl : owner = sessionId := own
      refine ⟨?_, same⟩
      change List.Perm (reorder left.order (first.joinedCart owner))
        (reorder right.order (second.joinedCart owner))
      rw [same.joinedCart]
      exact (reorder_perm _ _).trans (reorder_perm _ _).symm
    | selectCartItem productId owner =>
      obtain rfl : owner = sessionId := own
      refine ⟨?_, same⟩
      have found : (fun id => first.cartItems.get? (id, owner)) =
          fun id => second.cartItems.get? (id, owner) := funext same.get?
      exact congrArg (fun lookup => Except.ok (productId.bind lookup).toList) found
    | increaseQuantity quantity productId owner =>
      obtain rfl : owner = sessionId := own
      exact same.increaseQuantity quantity productId
    | insertCartItem productId quantity owner =>
      obtain rfl : owner = sessionId := own
      exact same.insertCartItem productId quantity
    | setQuantity quantity productId owner =>
      obtain rfl : owner = sessionId := own
      exact same.setQuantity quantity productId
    | deleteCartItem productId owner =>
      obtain rfl : owner = sessionId := own
      exact ⟨congrArg (fun (found : Option CartItem) => Except.ok (if found.isSome then 1 else 0))
        (same.get? productId), same.keepCart _⟩
    | deleteCart owner =>
      obtain rfl : owner = sessionId := own
      exact ⟨congrArg (fun (rows : List CartItem) => Except.ok rows.length) same.rows, same.keepCart _⟩
    | _ => exact absurd own id

end Own

section Handlers

variable {sessionId : String}

/-- Programs of the session that go on alike after the same results. -/
abbrev AlikeHandlers (sessionId : String) : Handler → Handler → Prop :=
  Program.Alike (Statement.OwnCart sessionId) Statement.SameResult Reply.Same

theorem Reply.same_refl (reply : Reply) : reply.Same reply where
  status := rfl
  body := by
    cases reply.body with
    | cart lines => exact List.Perm.refl lines
    | _ => rfl

/-- The same results are the same error, or rows that are the same. -/
theorem sameResult_cases {statement : Statement} {left right : statement.Result}
    (same : statement.SameResult left right) :
    (∃ error, left = .error error ∧ right = .error error) ∨
      ∃ here there, left = .ok here ∧ right = .ok there ∧
        statement.SameResult (.ok here) (.ok there) := by
  have equal : left = right → (∃ error, left = .error error ∧ right = .error error) ∨
      ∃ here there, left = .ok here ∧ right = .ok there ∧
        statement.SameResult (.ok here) (.ok there) := by
    rintro rfl
    cases left with
    | error error => exact Or.inl ⟨error, rfl, rfl⟩
    | ok rows => exact Or.inr ⟨rows, rows, rfl, rfl, same⟩
  cases statement with
  | selectCart owner =>
    cases left with
    | error error => exact equal (by cases right <;> exact same)
    | ok here =>
      cases right with
      | error error => exact equal same
      | ok there => exact Or.inr ⟨here, there, rfl, rfl, same⟩
  | _ => exact equal same

/-- A query of the session has results that are alike in both databases, so the two requests
stay alike if their continuations do. -/
theorem alike_query (rejected : Reply) {statement : Statement} (own : statement.OwnCart sessionId)
    {first second : statement.Rows → Handler}
    (later : ∀ here there, statement.SameResult (.ok here) (.ok there) →
      AlikeHandlers sessionId (first here) (second there)) :
    AlikeHandlers sessionId (query rejected statement first) (query rejected statement second) := by
  refine .call statement _ _ own (fun left right same => ?_)
  rcases sameResult_cases same with ⟨error, rfl, rfl⟩ | ⟨here, there, rfl, rfl, rows⟩
  · exact .answer _ _ rejected.same_refl
  · exact later here there rows

/-- The end of the cart handlers answers the same lines. -/
theorem alike_respondCart (rejected : Reply) :
    AlikeHandlers sessionId (respondCart rejected sessionId) (respondCart rejected sessionId) :=
  alike_query rejected (by exact rfl) (fun here there same => .answer _ _ ⟨rfl, List.Perm.map _ same⟩)

/-- `POST /api/cart` takes the same branches in both databases, for its product and its row
are found alike. -/
theorem alike_postCart (body : Option CartBody) :
    AlikeHandlers sessionId (postCart sessionId body) (postCart sessionId body) := by
  cases body with
  | none => exact .answer _ _ (Reply.same_refl _)
  | some body =>
    refine alike_query _ (by exact trivial) (fun products _ same => ?_)
    obtain rfl := Except.ok.inj same
    split
    · exact .answer _ _ (Reply.same_refl _)
    · refine alike_query _ (by exact rfl) (fun existing _ same => ?_)
      obtain rfl := Except.ok.inj same
      split
      · exact alike_query _ (by exact rfl) (fun _ _ _ => alike_respondCart _)
      · exact alike_query _ (by exact rfl) (fun _ _ _ => alike_respondCart _)

/-- `PUT /api/cart/:id` takes its branch by the body alone, and both databases change alike.
-/
theorem alike_putCart (productId : String) (body : Option Quantity) :
    AlikeHandlers sessionId (putCart sessionId productId body)
      (putCart sessionId productId body) := by
  cases body with
  | none => exact .answer _ _ (Reply.same_refl _)
  | some quantity =>
    simp only [putCart]
    split
    · exact alike_query _ (by exact rfl) (fun _ _ _ => alike_respondCart _)
    · exact alike_query _ (by exact rfl) (fun _ _ _ => alike_respondCart _)

/-- The cart handlers of the session, run in two databases that have its rows in common, stay
alike. -/
theorem alike_handle {request : Request} (own : getSessionId request = sessionId)
    (cart : request.operation.isCart = true) :
    AlikeHandlers sessionId (handle request) (handle request) := by
  subst own
  unfold handle
  cases operation : request.operation with
  | getCart => exact alike_respondCart _
  | postCart body => exact alike_postCart body
  | putCart productId body => exact alike_putCart productId body
  | deleteCartItem productId => exact alike_query _ (by exact rfl) (fun _ _ _ => alike_respondCart _)
  | deleteCart => exact alike_query _ (by exact rfl) (fun _ _ _ => .answer _ _ (Reply.same_refl _))
  | _ => simp [operation, Operation.isCart] at cart

/-- Requests of other sessions name other carts, so none of their statements concerns this
session. -/
theorem issues_other {request : Request} (other : getSessionId request ≠ sessionId) :
    (handle request).Issues (fun statement => statement.session? ≠ some sessionId) :=
  (issues_handle request).mono (fun _ serves named => other (serves.session sessionId named).symm)

end Handlers

/-- The requests of a session, by the header or the default, as the handlers determine it. -/
def ofSession (sessionId : String) (request : Request) : Bool :=
  decide (getSessionId request = sessionId)

/-- A session that uses its cart only is separated from all others. -/
def cartSeparation (sessionId : String) : server.Separation where
  own := ofSession sessionId
  permitted request := request.operation.isCart = true
  allowed := Statement.OwnCart sessionId
  foreign statement := statement.session? ≠ some sessionId
  sameResult := Statement.SameResult
  sameAnswer := Reply.Same
  sameChoice left right := left.fails = right.fails
  sameView := SameRows sessionId
  ownHandlers := fun _ own cart => alike_handle (of_decide_eq_true own) cart
  otherHandlers := fun _ other => issues_other (of_decide_eq_false other)
  results := fun _ _ _ _ _ own alike same => (same.execute own alike).1
  keeps := fun _ _ _ _ _ own alike same => (same.execute own alike).2
  ignores := fun statement choice left _ other same =>
    { products := (Database.execute_tables statement choice left).1.trans same.products
      rows := (Database.cartRows_execute_other statement choice left other).trans same.rows }

/-- Alike programs have both answered the same, or neither has answered. -/
theorem answers_same {sessionId : String} {first second : ShopTask}
    (alike : AlikeHandlers sessionId first.program second.program) :
    Option.Rel Reply.Same first.answer? second.answer? := by
  unfold Task.answer?
  generalize first.program = left at alike
  generalize second.program = right at alike
  cases alike with
  | answer here there same => exact .some same
  | call statement here there own later => exact .none

/-- Jane adds a smartphone while John adds one and checks out. -/
def twoShoppers : List (Action Request Choice) :=
  [.start (addSmartphone "john"), .start (addSmartphone "jane"), .proceed 0 .plain,
    .proceed 1 .plain, .proceed 0 .plain, .proceed 0 .plain, .proceed 1 .plain,
    .start (checkout "john")] ++ statements 2 7 ++ statements 1 2

/-- What is left of the run when John's requests are taken out of it. -/
theorem jane_left : erase (ofSession "jane") [] twoShoppers =
    .start (addSmartphone "jane") :: statements 0 4 := by
  decide

end ShoppingCS.Shop
