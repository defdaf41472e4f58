import ShoppingCS.Shop.Server

/-!
# What a cart is

A cart is a partial function from products to quantities, with four operations.
This is the purpose of the cart table, stated without rows, statements or
sessions. `cart_execute` connects it to the database: one executed statement
applies one operation to the cart of one session, and that operation can be read
off the statement and its result. Every other cart is left alone.
-/

namespace ShoppingCS.Shop

open Interleaving Storage

/-- The cart of a session in the abstract: a partial function from product ids to quantities.
-/
abbrev Cart := String → Option Int

/-- The operations on a cart. `set` needs the product to be there. -/
inductive CartOperation where
  | add (productId : String) (quantity : Int)
  | set (productId : String) (quantity : Int)
  | remove (productId : String)
  | clear
deriving DecidableEq

namespace CartOperation

/-- The cart after an operation. Setting a quantity and removing change a line that is there,
and adding makes one. -/
def apply : CartOperation → Cart → Cart
  | .add productId quantity, cart => fun wanted =>
      if wanted = productId then some ((cart productId).getD 0 + quantity) else cart wanted
  | .set productId quantity, cart => fun wanted =>
      if wanted = productId then (cart productId).map (fun _ => quantity) else cart wanted
  | .remove productId, cart => fun wanted => if wanted = productId then none else cart wanted
  | .clear, _ => fun _ => none

/-- The operation takes the product out of every cart that has it. -/
def Removes (operation : CartOperation) (productId : String) : Prop :=
  operation = .remove productId ∨ operation = .clear

/-- An addition that is followed by a removal of its product leaves no trace. -/
theorem removes_absorbs {operation : CartOperation} {productId : String}
    (removes : operation.Removes productId) (quantity : Int) (cart : Cart) :
    operation.apply ((CartOperation.add productId quantity).apply cart) = operation.apply cart := by
  funext wanted
  rcases removes with rfl | rfl
  · by_cases same : wanted = productId
    · simp [apply, same]
    · simp [apply, same]
  · rfl

/-- If a product that was in the cart is not there after an operation, the operation took it
out. -/
theorem removes_of_none {operation : CartOperation} {productId : String} {cart : Cart}
    (present : cart productId ≠ none) (absent : operation.apply cart productId = none) :
    operation.Removes productId := by
  cases operation with
  | add other quantity =>
    by_cases same : productId = other
    · simp [apply, same] at absent
    · exact absurd (by simpa [apply, same] using absent) present
  | set other quantity =>
    by_cases same : productId = other
    · subst same
      exact absurd (by simpa [apply] using absent) present
    · exact absurd (by simpa [apply, same] using absent) present
  | remove other =>
    by_cases same : productId = other
    · exact Or.inl (by rw [same])
    · exact absurd (by simpa [apply, same] using absent) present
  | clear => exact Or.inr rfl

end CartOperation

/-- The cart operation an executed statement has performed, with its session. -/
def written : (statement : Statement) → statement.Result → Option (String × CartOperation)
  | .increaseQuantity (.integer quantity) (some productId) sessionId, .ok 1 =>
      some (sessionId, .add productId quantity)
  | .insertCartItem (some productId) (.integer quantity) sessionId, .ok _ =>
      some (sessionId, .add productId quantity)
  | .setQuantity (.integer quantity) productId sessionId, .ok _ =>
      some (sessionId, .set productId quantity)
  | .deleteCartItem productId sessionId, .ok _ => some (sessionId, .remove productId)
  | .deleteCart sessionId, .ok _ => some (sessionId, .clear)
  | _, _ => none

/-- A statement that has failed has performed nothing on any cart. -/
@[simp] theorem written_error (statement : Statement) (error : SqlError) :
    written statement (.error error) = none := by
  cases statement <;> simp [written]

/-- The operation a cart statement performs, if it performs one, and the session whose
cart it is. -/
inductive Statement.WritesAs : Statement → String → CartOperation → Prop where
  | increase (quantity : Int) (productId sessionId : String) :
    WritesAs (.increaseQuantity (.integer quantity) (some productId) sessionId) sessionId
      (.add productId quantity)
  | insert (productId : String) (quantity : Int) (sessionId : String) :
    WritesAs (.insertCartItem (some productId) (.integer quantity) sessionId) sessionId
      (.add productId quantity)
  | set (quantity : Int) (productId sessionId : String) :
    WritesAs (.setQuantity (.integer quantity) productId sessionId) sessionId
      (.set productId quantity)
  | remove (productId sessionId : String) :
    WritesAs (.deleteCartItem productId sessionId) sessionId (.remove productId)
  | clear (sessionId : String) : WritesAs (.deleteCart sessionId) sessionId .clear

/-- Whatever a statement is reported to have performed is one of the operations it stands for.
-/
theorem written_writesAs {statement : Statement} {result : statement.Result} {owner : String}
    {operation : CartOperation} (performs : written statement result = some (owner, operation)) :
    statement.WritesAs owner operation := by
  unfold written at performs
  split at performs
  · obtain ⟨rfl, rfl⟩ := Prod.mk.inj (Option.some.inj performs)
    exact .increase _ _ _
  · obtain ⟨rfl, rfl⟩ := Prod.mk.inj (Option.some.inj performs)
    exact .insert _ _ _
  · obtain ⟨rfl, rfl⟩ := Prod.mk.inj (Option.some.inj performs)
    exact .set _ _ _
  · obtain ⟨rfl, rfl⟩ := Prod.mk.inj (Option.some.inj performs)
    exact .remove _ _
  · obtain ⟨rfl, rfl⟩ := Prod.mk.inj (Option.some.inj performs)
    exact .clear _
  · simp at performs

/-- An additive update that found no row has performed nothing. -/
@[simp] theorem written_missed (quantity : Quantity) (productId : Option String)
    (sessionId : String) :
    written (.increaseQuantity quantity productId sessionId) (.ok 0) = none := by
  simp [written]

/-- An additive update has performed its addition exactly when it hit a row. -/
theorem written_increase (quantity : Int) (productId sessionId : String) (count : Nat) :
    written (.increaseQuantity (.integer quantity) (some productId) sessionId) (.ok count) =
      if count = 1 then some (sessionId, .add productId quantity) else none := by
  by_cases hit : count = 1
  · subst hit
    rfl
  · simp [written, hit]

/-- Perform the reported operation if it concerns the given session, and leave the cart as it
is otherwise. -/
def performed (sessionId : String) : Option (String × CartOperation) → Cart → Cart
  | some (owner, operation), cart => if owner = sessionId then operation.apply cart else cart
  | none, cart => cart

namespace Database

/-- The carts are a function of the cart table, so statements on other tables leave them
alone. -/
theorem cart_congr {database next : Database} (same : next.cartItems = database.cartItems)
    (sessionId : String) : next.cart sessionId = database.cart sessionId := by
  funext productId
  simp only [cart, same]

/-- Storing a quantity sets the product in its session's cart. -/
theorem cart_storeQuantity_apply (database : Database) (productId sessionId : String)
    (quantity : Int4) (wantedSession : String) :
    (database.storeQuantity productId sessionId quantity).cart wantedSession =
      if sessionId = wantedSession then
        (CartOperation.set productId quantity.val).apply (database.cart wantedSession)
      else database.cart wantedSession := by
  funext wantedProduct
  rw [cart_storeQuantity]
  by_cases sameSession : sessionId = wantedSession
  · subst sameSession
    by_cases sameProduct : wantedProduct = productId
    · subst sameProduct
      simp [CartOperation.apply]
    · simp [CartOperation.apply, sameProduct]
  · have different : wantedSession ≠ sessionId := fun same => sameSession same.symm
    simp [sameSession, different]

/-- Adding a row that was not there adds its quantity to nothing. -/
theorem cart_insertCart_apply {database next : Database} {productId sessionId : String}
    {quantity : Int4} (inserted : database.insertCart? ⟨productId, quantity, sessionId⟩ = some next)
    (wantedSession : String) :
    next.cart wantedSession =
      if sessionId = wantedSession then
        (CartOperation.add productId quantity.val).apply (database.cart wantedSession)
      else database.cart wantedSession := by
  obtain ⟨accepted, -⟩ := insertCart?_eq_some inserted
  have free : database.cart sessionId productId = none := by
    have absent := (KeyedTable.insert?_eq_some.mp accepted).1
    simp only [CartItem.key] at absent
    simp [cart, absent]
  funext wantedProduct
  rw [cart_insertCart inserted]
  by_cases sameSession : sessionId = wantedSession
  · subst sameSession
    by_cases sameProduct : wantedProduct = productId
    · subst sameProduct
      simp [CartItem.key, CartOperation.apply, free]
    · have different : productId ≠ wantedProduct := fun same => sameProduct same.symm
      simp [CartItem.key, CartOperation.apply, sameProduct, different]
  · simp [CartItem.key, sameSession]

/-- The additive update. A missing row is not an error; an addition reports one
changed row exactly when it is performed. -/
theorem cart_increaseQuantity (database : Database) (quantity : Quantity)
    (productId : Option String) (sessionId wantedSession : String) :
    (database.increaseQuantity quantity productId sessionId).2.cart wantedSession =
      performed wantedSession
        (written (.increaseQuantity quantity productId sessionId)
          (database.increaseQuantity quantity productId sessionId).1)
        (database.cart wantedSession) := by
  rcases database.increaseQuantity_cases quantity productId sessionId with
    ⟨error, failed⟩ | ⟨missed, -⟩ | ⟨id, value, row, sum, rfl, rfl, found, exact, hit⟩
  · rw [failed, written_error]
    rfl
  · rw [missed, written_missed]
    rfl
  · rw [hit, cart_storeQuantity_apply]
    have present : database.cart sessionId id = some row.quantity.val := by simp [cart, found]
    by_cases same : sessionId = wantedSession
    · subst same
      funext wanted
      simp [written, performed, CartOperation.apply, present, exact]
    · simp [written, performed, same]

/-- The cart insertion: a row that is accepted is an addition to an empty line, and one that
is refused changes nothing. -/
theorem cart_insertCartItem (database : Database) (productId : Option String)
    (quantity : Quantity) (sessionId wantedSession : String) :
    (database.insertCartItem productId quantity sessionId).2.cart wantedSession =
      performed wantedSession
        (written (.insertCartItem productId quantity sessionId)
          (database.insertCartItem productId quantity sessionId).1)
        (database.cart wantedSession) := by
  rcases database.insertCartItem_cases productId quantity sessionId with
    ⟨error, failed⟩ | ⟨id, stored, next, rfl, rfl, inserted, accepted⟩
  · rw [failed, written_error]
    rfl
  · rw [accepted]
    exact cart_insertCart_apply inserted wantedSession

/-- The absolute update. Setting a product that is not there changes nothing. -/
theorem cart_setQuantity (database : Database) (quantity : Quantity)
    (productId sessionId wantedSession : String) :
    (database.setQuantity quantity productId sessionId).2.cart wantedSession =
      performed wantedSession
        (written (.setQuantity quantity productId sessionId)
          (database.setQuantity quantity productId sessionId).1)
        (database.cart wantedSession) := by
  rcases database.setQuantity_cases quantity productId sessionId with
    ⟨error, failed⟩ | ⟨missed, absent⟩ | ⟨stored, rfl, hit⟩
  · rw [failed, written_error]
    rfl
  · rw [missed]
    have free : database.cart sessionId productId = none := by simp [cart, absent]
    cases quantity with
    | integer value =>
      by_cases same : sessionId = wantedSession
      · subst same
        funext wanted
        by_cases sameProduct : wanted = productId
        · simp [written, performed, CartOperation.apply, sameProduct, free]
        · simp [written, performed, CartOperation.apply, sameProduct]
      · simp [written, performed, same]
    | missing => rfl
    | null => rfl
    | malformed nonpositive => rfl
  · rw [hit, cart_storeQuantity_apply]
    rfl

/-- Deleting the row of a product removes it from the cart of that session and from no other.
-/
theorem cart_deleteCartItem (database : Database) (productId sessionId wantedSession : String) :
    (database.deleteCartItem productId sessionId).2.cart wantedSession =
      performed wantedSession (some (sessionId, .remove productId))
        (database.cart wantedSession) := by
  funext wanted
  simp only [deleteCartItem, cart_keepCart, performed]
  cases found : database.cartItems.get? (wanted, wantedSession) with
  | none =>
    have free : database.cart wantedSession wanted = none := by simp [cart, found]
    by_cases same : sessionId = wantedSession <;> simp [same, CartOperation.apply, free]
  | some row =>
    obtain ⟨-, located⟩ := KeyedTable.get?_sound found
    have present : database.cart wantedSession wanted = some row.quantity.val := by
      simp [cart, found]
    by_cases sameSession : sessionId = wantedSession
    · subst sameSession
      by_cases sameProduct : wanted = productId
      · simp [CartOperation.apply, located, sameProduct]
      · simp [CartOperation.apply, located, sameProduct, present]
    · have different : wantedSession ≠ sessionId := fun same => sameSession same.symm
      simp [sameSession, located, different, present]

/-- Deleting the rows of a session clears its cart and no other. -/
theorem cart_deleteCart (database : Database) (sessionId wantedSession : String) :
    (database.deleteCart sessionId).2.cart wantedSession =
      performed wantedSession (some (sessionId, .clear)) (database.cart wantedSession) := by
  funext wanted
  simp only [deleteCart, cart_keepCart, performed]
  cases found : database.cartItems.get? (wanted, wantedSession) with
  | none =>
    have free : database.cart wantedSession wanted = none := by simp [cart, found]
    by_cases same : sessionId = wantedSession <;> simp [same, CartOperation.apply, free]
  | some row =>
    obtain ⟨-, located⟩ := KeyedTable.get?_sound found
    have owner : row.sessionId = wantedSession := congrArg Prod.snd located
    have present : database.cart wantedSession wanted = some row.quantity.val := by
      simp [cart, found]
    by_cases same : sessionId = wantedSession
    · simp [CartOperation.apply, owner, same]
    · have different : wantedSession ≠ sessionId := fun reversed => same reversed.symm
      simp [same, owner, different, present]

end Database

/-- One executed statement applies to the cart of one session the operation its
result reports, and leaves every other cart alone. -/
theorem cart_execute (statement : Statement) (choice : Choice) (database : Database)
    (sessionId : String) :
    (execute statement choice database).2.cart sessionId =
      performed sessionId (written statement (execute statement choice database).1)
        (database.cart sessionId) := by
  rcases execute_cases statement choice database with ⟨error, rejected⟩ | ⟨-, -, carried⟩
  · rw [rejected, written_error]
    rfl
  · rw [carried]
    cases statement with
    | increaseQuantity quantity productId owner =>
      exact database.cart_increaseQuantity quantity productId owner sessionId
    | insertCartItem productId quantity owner =>
      exact database.cart_insertCartItem productId quantity owner sessionId
    | setQuantity quantity productId owner =>
      exact database.cart_setQuantity quantity productId owner sessionId
    | deleteCartItem productId owner =>
      exact database.cart_deleteCartItem productId owner sessionId
    | deleteCart owner => exact database.cart_deleteCart owner sessionId
    | insertOrder row =>
      rcases database.insertOrder_cases row choice.now with
        ⟨⟨error, failed⟩, -⟩ | ⟨stored, next, -, inserted, accepted⟩
      · simp only [carryOut, failed, written, performed]
      · simp only [carryOut, accepted, written, performed]
        exact Database.cart_congr (Database.insertOrder?_eq_some inserted).2.2.1 sessionId
    | insertOrderItem row =>
      rcases database.insertOrderItem_cases row with
        ⟨error, failed⟩ | ⟨item, next, -, -, -, -, -, -, inserted, accepted⟩
      · simp only [carryOut, failed, written, performed]
      · simp only [carryOut, accepted, written, performed]
        exact Database.cart_congr (Database.insertItem?_eq_some inserted).2.2.1 sessionId
    | _ => rfl

/-- A lookup that finds a row has found it in the cart. -/
theorem selectCartItem_found {productId sessionId : String} {choice : Choice}
    {database : Database} {existing : List CartItem}
    (found : (execute (.selectCartItem (some productId) sessionId) choice database).1 =
      .ok existing) (nonempty : existing ≠ []) :
    database.cart sessionId productId ≠ none := by
  rw [(execute_ok found).2.2] at found
  have rows : (database.cartItems.get? (productId, sessionId)).toList = existing := by
    simpa [carryOut] using found
  intro absent
  rw [Database.cart, Option.map_eq_none_iff] at absent
  rw [absent] at rows
  exact nonempty rows.symm

/-- An update of a row that is there reports one row. -/
theorem increaseQuantity_present {database : Database} {quantity : Quantity}
    {productId sessionId : String} {count : Nat}
    (present : database.cart sessionId productId ≠ none)
    (hit : (database.increaseQuantity quantity (some productId) sessionId).1 = .ok count) :
    count = 1 := by
  rcases database.increaseQuantity_cases quantity (some productId) sessionId with
    ⟨error, same⟩ | ⟨same, absent⟩ | ⟨id, value, row, sum, -, -, -, -, same⟩
  · simp [same] at hit
  · exact absurd (by simp [Database.cart, absent productId rfl]) present
  · rw [same] at hit
    exact (Except.ok.inj hit).symm

end ShoppingCS.Shop
