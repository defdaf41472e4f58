import ShoppingCS.Shop.Books

/-!
# When a checkout fails half way

The statements of a checkout commit one by one. A checkout that runs alone and
does not answer 201 has left the tables as they were exactly when it failed
before its order row was stored, or not at all. The order row is the point of no
return: the answer to any later failure is the same 400, and nothing takes the
row back.

The failure may come from the data alone, since the schema checks the subtotals
later than the total.
-/

namespace ShoppingCS.Shop

open Interleaving Storage Program

/-- The three tables a checkout writes are the same in both databases. -/
def SameTables (database other : Database) : Prop :=
  other.orders = database.orders ∧ other.orderItems = database.orderItems ∧
    other.cartItems = database.cartItems

/-- A checkout answers, and leaves the tables as they were unless it answers 201. -/
def Atomic (sessionId : String) (body : OrderBody) (choices : Nat → Choice)
    (database : Database) : Prop :=
  ∃ reply store rest, alone execute (postOrders sessionId body) choices database =
    some (reply, store, rest) ∧ (reply.status ≠ 201 → SameTables database store)

/-- The rows the checkout reads, in the order that PostgreSQL happens to return them. -/
def cartRead (sessionId : String) (choices : Nat → Choice) (database : Database) :
    List CheckoutRow :=
  reorder (choices 0).order (database.checkoutRows sessionId)

/-- The first three statements succeed: the cart is not empty, the order fits its
columns, and its id is free. -/
def OrderStored (sessionId : String) (body : OrderBody) (choices : Nat → Choice)
    (database : Database) : Prop :=
  (∀ index < 3, (choices index).fails = false) ∧ cartRead sessionId choices database ≠ [] ∧
    ∃ customer, body = .fields customer ∧
      Database.orderRow? (newOrder (database.orders.rows.length + 1) customer
        (cartRead sessionId choices database)) (choices 2).now ≠ none ∧
      database.orders.get? (orderIdOf (database.orders.rows.length + 1)) = none

/-- The insertion of one of the items fails: the connection is lost, or the
subtotal has no place in its column. -/
def ItemFault (choices : Nat → Choice) (items : List CheckoutRow) : Prop :=
  ∃ index item, items[index]? = some item ∧
    ((choices index).fails = true ∨ Decimal.ofCents? item.subtotal = none)

/-- A statement after the insertion of the order row fails, that of an item or one of the last
three. -/
def LaterFault (sessionId : String) (choices : Nat → Choice) (database : Database) : Prop :=
  ItemFault (after 3 choices) (cartRead sessionId choices database) ∨
    ∃ index < 3, (after (3 + (cartRead sessionId choices database).length) choices index).fails =
      true

/-- A query alone: an error ends the request, rows are passed on. -/
theorem alone_query (rejected : Reply) (statement : Statement) (next : statement.Rows → Handler)
    (choices : Nat → Choice) (database : Database) :
    (∃ error, (execute statement (choices 0) database).1 = .error error ∧
        alone execute (query rejected statement next) choices database =
          some (rejected, (execute statement (choices 0) database).2, after 1 choices)) ∨
      ∃ rows, (execute statement (choices 0) database).1 = .ok rows ∧
        alone execute (query rejected statement next) choices database =
          alone execute (next rows) (after 1 choices)
            (execute statement (choices 0) database).2 := by
  unfold query
  rw [alone_call]
  cases (execute statement (choices 0) database).1 with
  | error error => exact Or.inl ⟨error, rfl, rfl⟩
  | ok rows => exact Or.inr ⟨rows, rfl, rfl⟩

/-- A read alone: it fails exactly with its connection, and changes nothing. -/
theorem alone_read (rejected : Reply) (statement : Statement) (next : statement.Rows → Handler)
    (choices : Nat → Choice) (database : Database) (rows : statement.Rows)
    (reads : (choices 0).fails = false → execute statement (choices 0) database =
      (.ok rows, database)) :
    alone execute (query rejected statement next) choices database =
      if (choices 0).fails = true then some (rejected, database, after 1 choices)
      else alone execute (next rows) (after 1 choices) database := by
  unfold query
  rw [alone_call]
  by_cases failing : (choices 0).fails = true
  · rw [if_pos failing, execute_fails _ _ _ failing]
    rfl
  · rw [if_neg failing, reads (Bool.eq_false_iff.mpr failing)]

/-- The next item decides, or the items after it do. -/
theorem itemFault_cons (choices : Nat → Choice) (item : CheckoutRow) (items : List CheckoutRow) :
    ItemFault choices (item :: items) ↔
      ((choices 0).fails = true ∨ Decimal.ofCents? item.subtotal = none) ∨
        ItemFault (after 1 choices) items := by
  constructor
  · rintro ⟨index, found, located, fault⟩
    cases index with
    | zero =>
      obtain rfl : item = found := by simpa using located
      exact Or.inl fault
    | succ index => exact Or.inr ⟨index, found, by simpa using located, fault⟩
  · rintro (fault | ⟨index, found, located, fault⟩)
    · exact ⟨0, item, rfl, fault⟩
    · exact ⟨index + 1, found, by simpa using located, fault⟩

/-- The item loop alone: a fault ends the request with the order row in place, and
without one everything that follows runs with the order row in place. -/
theorem alone_insertItems (nextId : Nat) (items : List CheckoutRow) (next : Handler)
    (choices : Nat → Choice) (database : Database)
    (ordered : database.orders.get? (orderIdOf nextId) ≠ none)
    (known : ∀ item ∈ items, database.products.get? item.productId ≠ none) :
    (ItemFault choices items → ∃ store rest, store.orders = database.orders ∧
        alone execute (insertItems nextId items next) choices database =
          some (invalidBody, store, rest)) ∧
      (¬ ItemFault choices items → ∃ store, store.orders = database.orders ∧
        alone execute (insertItems nextId items next) choices database =
          alone execute next (after items.length choices) store) := by
  induction items generalizing choices database with
  | nil =>
    refine ⟨?_, fun _ => ⟨database, rfl, rfl⟩⟩
    rintro ⟨index, item, located, -⟩
    simp at located
  | cons item items inductionHypothesis =>
    have whole : insertItems nextId (item :: items) next =
        query invalidBody (.insertOrderItem (newOrderItem nextId item))
          (fun _ => insertItems nextId items next) := rfl
    have tables := Database.execute_tables (.insertOrderItem (newOrderItem nextId item)) (choices 0)
      database
    have orders := tables.2.1 (by simp)
    rw [itemFault_cons, whole]
    by_cases fault : (choices 0).fails = true ∨ Decimal.ofCents? item.subtotal = none
    · refine ⟨?_, fun faultless => absurd (Or.inl fault) faultless⟩
      intro _
      rcases alone_query invalidBody (.insertOrderItem (newOrderItem nextId item))
        (fun _ => insertItems nextId items next) choices database with
        ⟨error, -, ended⟩ | ⟨rows, passed, -⟩
      · exact ⟨_, _, orders, ended⟩
      · cases fault with
        | inl failing =>
          rw [execute_fails _ _ _ failing] at passed
          simp at passed
        | inr overflow =>
          by_cases failing : (choices 0).fails = true
          · rw [execute_fails _ _ _ failing] at passed
            simp at passed
          · have misfit : Decimal.ofCents? (newOrderItem nextId item).subtotal = none := overflow
            rw [(execute_ok passed).2.2] at passed
            simp [carryOut, Database.insertOrderItem, misfit] at passed
    · rw [not_or, Bool.not_eq_true] at fault
      have accepted := @Database.insertOrderItem_known database (newOrderItem nextId item) fault.2
        ordered (known item List.mem_cons_self)
      have executed : (execute (.insertOrderItem (newOrderItem nextId item)) (choices 0)
          database).1 = .ok 1 := by
        rw [execute_works fault.1 rfl]
        exact accepted
      rcases alone_query invalidBody (.insertOrderItem (newOrderItem nextId item))
        (fun _ => insertItems nextId items next) choices database with
        ⟨error, failed, -⟩ | ⟨rows, -, continued⟩
      · rw [executed] at failed
        simp at failed
      · obtain ⟨faulty, faultless⟩ := inductionHypothesis (after 1 choices)
          (execute (.insertOrderItem (newOrderItem nextId item)) (choices 0) database).2
          (by rw [orders]; exact ordered) (by
            intro other member
            rw [tables.1]
            exact known other (List.mem_cons_of_mem _ member))
        have fine : ¬ ((choices 0).fails = true ∨ Decimal.ofCents? item.subtotal = none) := by
          rw [not_or, Bool.not_eq_true]
          exact fault
        constructor
        · intro whole
          obtain ⟨store, rest, same, ended⟩ := faulty (whole.resolve_left fine)
          exact ⟨store, rest, same.trans orders, continued.trans ended⟩
        · intro whole
          obtain ⟨store, same, ended⟩ := faultless (fun later => whole (Or.inr later))
          refine ⟨store, same.trans orders, continued.trans (ended.trans ?_)⟩
          have shifts : after items.length (after 1 choices) =
              after (item :: items).length choices := by
            funext index
            simp only [after, List.length_cons]
            congr 1
          rw [shifts]

theorem below_three {index : Nat} (bound : index < 3) : index = 0 ∨ index = 1 ∨ index = 2 := by
  omega

/-- The end of a checkout alone: any failure is answered 400 with the order row in
place, and without one the answer is 201. -/
theorem alone_finishOrder (sessionId : String) (nextId : Nat) (choices : Nat → Choice)
    (database : Database) (ordered : database.orders.get? (orderIdOf nextId) ≠ none) :
    ((∃ index < 3, (choices index).fails = true) → ∃ store rest, store.orders = database.orders ∧
        alone execute (finishOrder sessionId nextId) choices database =
          some (invalidBody, store, rest)) ∧
      ((∀ index < 3, (choices index).fails = false) → ∃ reply store rest,
        alone execute (finishOrder sessionId nextId) choices database = some (reply, store, rest) ∧
          reply.status = 201) := by
  obtain ⟨order, found⟩ := Option.ne_none_iff_exists'.mp ordered
  have reading (store : Database) (same : store.orders = database.orders) :
      alone execute (query invalidBody (.selectOrder (orderIdOf nextId)) (sendOrder nextId))
          (after 1 choices) store =
        if (choices 1).fails = true then some (invalidBody, store, after 1 (after 1 choices))
        else alone execute (sendOrder nextId [order]) (after 1 (after 1 choices)) store := by
    refine alone_read invalidBody (.selectOrder (orderIdOf nextId)) (sendOrder nextId)
      (after 1 choices) store [order] ?_
    intro working
    rw [execute_works working rfl]
    simp [carryOut, same, found]
  have sending (store : Database) :
      alone execute (sendOrder nextId [order]) (after 1 (after 1 choices)) store =
        if (choices 2).fails = true then
          some (invalidBody, store, after 1 (after 1 (after 1 choices)))
        else some (⟨201, .order (orderView order (reorder (choices 2).order
          (store.orderItems.filter (fun item => decide (item.orderId = orderIdOf nextId)))))⟩, store,
          after 1 (after 1 (after 1 choices))) := by
    refine alone_read invalidBody (.selectOrderItems (orderIdOf nextId)) _
      (after 1 (after 1 choices)) store _ ?_
    intro working
    exact execute_works working rfl _
  have whole : finishOrder sessionId nextId = query invalidBody (.deleteCart sessionId)
      (fun _ => query invalidBody (.selectOrder (orderIdOf nextId)) (sendOrder nextId)) := rfl
  have kept := (Database.execute_tables (.deleteCart sessionId) (choices 0) database).2.1 (by simp)
  rw [whole]
  rcases alone_query invalidBody (.deleteCart sessionId)
    (fun _ => query invalidBody (.selectOrder (orderIdOf nextId)) (sendOrder nextId)) choices
    database with ⟨error, failure, ended⟩ | ⟨count, passed, continued⟩
  · refine ⟨fun _ => ⟨_, _, kept, ended⟩, ?_⟩
    intro working
    rw [execute_works (working 0 (by omega)) rfl] at failure
    simp [carryOut, Database.deleteCart] at failure
  · rw [continued, reading _ kept, sending]
    by_cases second : (choices 1).fails = true
    · refine ⟨fun _ => ⟨_, _, kept, if_pos second⟩, ?_⟩
      intro working
      simp [working 1 (by omega)] at second
    · rw [if_neg second]
      by_cases third : (choices 2).fails = true
      · refine ⟨fun _ => ⟨_, _, kept, if_pos third⟩, ?_⟩
        intro working
        simp [working 2 (by omega)] at third
      · rw [if_neg third]
        refine ⟨?_, fun _ => ⟨_, _, _, rfl, rfl⟩⟩
        rintro ⟨index, bound, fails⟩
        rcases below_three bound with rfl | rfl | rfl
        · rw [execute_fails _ _ _ fails] at passed
          simp at passed
        · exact absurd fails second
        · exact absurd fails third

/-- The third statement of a checkout alone: the order row is stored, or nothing is. -/
theorem alone_submitOrder (sessionId : String) (body : OrderBody) (choices : Nat → Choice)
    (database : Database) (first : (choices 0).fails = false) (second : (choices 1).fails = false)
    (nonempty : cartRead sessionId choices database ≠ []) :
    (¬ OrderStored sessionId body choices database → ∃ message rest,
        alone execute (submitOrder sessionId body (cartRead sessionId choices database)
          (database.orders.rows.length + 1)) (after 1 (after 1 choices)) database =
          some (.error 400 message, database, rest)) ∧
      (OrderStored sessionId body choices database → ∃ store,
        store.orders.get? (orderIdOf (database.orders.rows.length + 1)) ≠ none ∧
        store.orders ≠ database.orders ∧ store.products = database.products ∧
        alone execute (submitOrder sessionId body (cartRead sessionId choices database)
          (database.orders.rows.length + 1)) (after 1 (after 1 choices)) database =
          alone execute (insertItems (database.orders.rows.length + 1)
            (cartRead sessionId choices database)
            (finishOrder sessionId (database.orders.rows.length + 1))) (after 3 choices) store) := by
  cases body with
  | unparsable =>
    refine ⟨fun _ => ⟨_, _, rfl⟩, ?_⟩
    rintro ⟨-, -, customer, given, -⟩
    simp at given
  | null =>
    refine ⟨fun _ => ⟨_, _, rfl⟩, ?_⟩
    rintro ⟨-, -, customer, given, -⟩
    simp at given
  | fields customer =>
    have third : after 1 (after 1 choices) 0 = choices 2 := rfl
    rcases alone_query invalidBody (.insertOrder (newOrder (database.orders.rows.length + 1) customer
        (cartRead sessionId choices database)))
      (fun _ => insertItems (database.orders.rows.length + 1) (cartRead sessionId choices database)
        (finishOrder sessionId (database.orders.rows.length + 1))) (after 1 (after 1 choices))
      database with ⟨error, failure, ended⟩ | ⟨count, passed, continued⟩
    · rw [third] at failure ended
      rw [Database.execute_error failure] at ended
      refine ⟨fun _ => ⟨_, _, ended⟩, ?_⟩
      rintro ⟨working, -, other, given, fits, free⟩
      obtain rfl : customer = other := by simpa using given
      have accepted := @Database.insertOrder_free database
        (newOrder (database.orders.rows.length + 1) customer
          (cartRead sessionId choices database)) (choices 2).now fits free
      rw [execute_works (working 2 (by omega)) rfl] at failure
      simp [carryOut, accepted] at failure
    · rw [third] at passed continued
      have working : (choices 2).fails = false := by
        by_contra failing
        rw [execute_fails _ _ _ (by simpa using failing)] at passed
        simp at passed
      have executed : execute (.insertOrder (newOrder (database.orders.rows.length + 1) customer
          (cartRead sessionId choices database))) (choices 2) database =
          database.insertOrder (newOrder (database.orders.rows.length + 1) customer
            (cartRead sessionId choices database)) (choices 2).now := execute_works working rfl _
      rcases database.insertOrder_cases (newOrder (database.orders.rows.length + 1) customer
        (cartRead sessionId choices database)) (choices 2).now with
        ⟨⟨error, refused⟩, -⟩ | ⟨stored, next, fits, inserted, accepted⟩
      · rw [executed, refused] at passed
        simp at passed
      · obtain ⟨rows, products, -, -⟩ := Database.insertOrder?_eq_some inserted
        obtain ⟨free, appended⟩ := KeyedTable.insert?_eq_some.mp rows
        have id : stored.id = orderIdOf (database.orders.rows.length + 1) :=
          (Database.orderRow?_eq_some fits).1
        have early : ∀ index < 3, (choices index).fails = false := by
          intro index bound
          rcases below_three bound with rfl | rfl | rfl
          · exact first
          · exact second
          · exact working
        have opens : OrderStored sessionId (.fields customer) choices database :=
          ⟨early, nonempty, customer, rfl, by simp [fits], id ▸ free⟩
        refine ⟨fun misfit => absurd opens misfit, fun _ => ⟨next, ?_, ?_, products, ?_⟩⟩
        · rw [KeyedTable.get?_insert rows, if_pos id]
          simp
        · intro same
          have length := congrArg List.length appended
          rw [same] at length
          simp at length
        · rw [executed, accepted] at continued
          exact continued

/-- The beginning of a checkout alone. Unless the order row is stored, the request
is answered 400 with the database as it was; otherwise the item loop runs with the new row. -/
theorem alone_opening (sessionId : String) (body : OrderBody) (choices : Nat → Choice)
    (database : Database) :
    (¬ OrderStored sessionId body choices database → ∃ message rest,
        alone execute (postOrders sessionId body) choices database =
          some (.error 400 message, database, rest)) ∧
      (OrderStored sessionId body choices database → ∃ store,
        store.orders.get? (orderIdOf (database.orders.rows.length + 1)) ≠ none ∧
        store.orders ≠ database.orders ∧ store.products = database.products ∧
        alone execute (postOrders sessionId body) choices database =
          alone execute (insertItems (database.orders.rows.length + 1)
            (cartRead sessionId choices database)
            (finishOrder sessionId (database.orders.rows.length + 1))) (after 3 choices) store) := by
  by_cases parsed : body = .unparsable
  · subst parsed
    refine ⟨fun _ => ⟨_, _, rfl⟩, ?_⟩
    rintro ⟨-, -, customer, given, -⟩
    simp at given
  · rw [postOrders, if_neg parsed, alone_read invalidBody (.selectCheckout sessionId) _ choices
      database (cartRead sessionId choices database)
      (fun working => execute_works working rfl _)]
    by_cases first : (choices 0).fails = true
    · rw [if_pos first]
      refine ⟨fun _ => ⟨_, _, rfl⟩, ?_⟩
      intro stored
      exact absurd first (by simp [stored.1 0 (by omega)])
    · rw [if_neg first]
      by_cases empty : cartRead sessionId choices database = []
      · refine ⟨fun _ => ⟨_, _, by rw [empty]; rfl⟩, fun stored => absurd empty stored.2.1⟩
      · have nonempty : ¬ (cartRead sessionId choices database).isEmpty = true := by
          simpa using empty
        rw [if_neg nonempty, numberOrder, alone_read invalidBody .selectNextId _ (after 1 choices)
          database (database.orders.rows.length + 1) (fun working => execute_works working rfl _)]
        by_cases second : (after 1 choices 0).fails = true
        · rw [if_pos second]
          refine ⟨fun _ => ⟨_, _, rfl⟩, ?_⟩
          intro stored
          have working : (after 1 choices 0).fails = false := stored.1 1 (by omega)
          exact absurd second (by simp [working])
        · rw [if_neg second]
          exact alone_submitOrder sessionId body choices database (by simpa using first)
            (Bool.eq_false_iff.mpr second) empty

/-- A database in which the session has two lines in its cart, one of them
negative: the total is in range, the subtotal of the first line is not. -/
def mixedCart : Database :=
  (server.run (Service.idleState freshDatabase)
    (.start ⟨some "s", .postCart (some ⟨some "1", .integer 200000⟩)⟩ :: statements 0 4 ++
      .start ⟨some "s", .postCart (some ⟨some "2", .integer (-92000)⟩)⟩ :: statements 1 4)).store

end ShoppingCS.Shop
