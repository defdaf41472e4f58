import Mathlib.Algebra.Order.BigOperators.Group.List
import ShoppingCS.Interleaving.Histories
import ShoppingCS.Shop.CartLedger

/-!
# Whether quantities stay positive

A PUT writes no quantity below one; it removes the line instead. A POST writes what
it is given. So the cart lines stay positive exactly as long as no POST that is
carried out leaves its line at zero or below. Order items take their quantities from
the cart lines a checkout has read, and amounts are sums of prices times quantities,
so they follow. In particular they stay positive if every POST adds at least one.
-/

namespace ShoppingCS.Shop

open Interleaving Storage Program

/-- No line of a cart or an order is empty, and no amount is negative. -/
structure Database.Positive (database : Database) : Prop where
  carts : ∀ row ∈ database.cartItems.rows, 1 ≤ row.quantity.val
  items : ∀ item ∈ database.orderItems, 1 ≤ item.quantity.val ∧ 0 ≤ item.subtotal.val
  totals : ∀ order ∈ database.orders.rows, 0 ≤ order.totalAmount.val

/-- An addition is more than what takes the line away. -/
def CartOperation.KeepsLine (cart : Cart) : CartOperation → Prop
  | .add productId quantity => -(cart productId).getD 0 < quantity
  | _ => True

instance (cart : Cart) : DecidablePred (CartOperation.KeepsLine cart)
  | .add productId quantity =>
    inferInstanceAs (Decidable (-(cart productId).getD 0 < quantity))
  | .set _ _ => isTrue trivial
  | .remove _ => isTrue trivial
  | .clear => isTrue trivial

/-- Every addition that is carried out keeps its line. -/
def AddsKeepLines (state : ShopState) : Action Request Choice → Prop
  | .start _ => True
  | .proceed index choice => ∀ task ∈ state.tasks[index]?, ∀ statement ∈ task.program.pending?,
      ∀ operation ∈ written statement (execute statement choice state.store).1,
      operation.2.KeepsLine (state.store.cart operation.1)

instance (state : ShopState) : ∀ action, Decidable (AddsKeepLines state action)
  | .start _ => isTrue trivial
  | .proceed index choice => inferInstanceAs (Decidable (∀ task ∈ state.tasks[index]?,
      ∀ statement ∈ task.program.pending?,
      ∀ operation ∈ written statement (execute statement choice state.store).1,
      operation.2.KeepsLine (state.store.cart operation.1)))

section Carts

variable {database : Database}

/-- The lines of a cart are the rows of the cart table. -/
theorem carts_positive_iff :
    (∀ row ∈ database.cartItems.rows, 1 ≤ row.quantity.val) ↔
      ∀ sessionId productId quantity, database.cart sessionId productId = some quantity →
        1 ≤ quantity := by
  constructor
  · intro positive sessionId productId quantity listed
    obtain ⟨row, found, rfl⟩ := Option.map_eq_some_iff.mp listed
    exact positive row (KeyedTable.get?_sound found).1
  · intro positive row stored
    apply positive row.sessionId row.productId row.quantity.val
    rw [Database.cart, show (row.productId, row.sessionId) = row.key from rfl,
      KeyedTable.get?_complete stored]
    rfl

/-- An operation keeps a positive cart positive if it sets nothing to zero and keeps
the line it adds to. -/
theorem apply_positive {operation : CartOperation} {cart : Cart}
    (positive : ∀ productId quantity, cart productId = some quantity → 1 ≤ quantity)
    (sets : ∀ productId quantity, operation = .set productId quantity → 1 ≤ quantity)
    (keeps : operation.KeepsLine cart) :
    ∀ productId quantity, operation.apply cart productId = some quantity → 1 ≤ quantity := by
  intro productId quantity listed
  cases operation with
  | add other added =>
    by_cases same : productId = other
    · have sum : (cart other).getD 0 + added = quantity := by
        simpa [CartOperation.apply, same] using listed
      simp only [CartOperation.KeepsLine] at keeps
      omega
    · exact positive productId quantity (by simpa [CartOperation.apply, same] using listed)
  | set other value =>
    by_cases same : productId = other
    · obtain ⟨before, -, rfl⟩ : ∃ before, cart other = some before ∧ value = quantity := by
        simpa [CartOperation.apply, same] using listed
      exact sets other value rfl
    · exact positive productId quantity (by simpa [CartOperation.apply, same] using listed)
  | remove other =>
    by_cases same : productId = other
    · simp [CartOperation.apply, same] at listed
    · exact positive productId quantity (by simpa [CartOperation.apply, same] using listed)
  | clear => simp [CartOperation.apply] at listed

/-- A cart that is positive after an addition has kept its line. -/
theorem keepsLine_of_positive {operation : CartOperation} {cart : Cart}
    (positive : ∀ productId quantity, operation.apply cart productId = some quantity →
      1 ≤ quantity) : operation.KeepsLine cart := by
  cases operation with
  | add productId quantity =>
    have after := positive productId _ (if_pos rfl)
    simp only [CartOperation.KeepsLine]
    omega
  | _ => trivial

end Carts

section Sets

/-- The statement sets no quantity to zero or below. -/
def Statement.SetsPositive : Statement → Prop
  | .setQuantity (.integer quantity) _ _ => 1 ≤ quantity
  | _ => True

/-- What such a statement is reported to have set is positive, as its parameter is. -/
theorem written_set_positive {statement : Statement} {result : statement.Result}
    (sets : statement.SetsPositive) {owner productId : String} {quantity : Int}
    (performs : written statement result = some (owner, .set productId quantity)) :
    1 ≤ quantity := by
  cases written_writesAs performs with
  | set => exact sets

/-- A statement that writes no cart sets nothing, so there is nothing to show of it. -/
theorem setsPositive_of_reads {statement : Statement} (reads : statement.writesCart = false) :
    statement.SetsPositive := by
  cases statement with
  | setQuantity quantity productId sessionId => simp at reads
  | _ => trivial

/-- A request issues what is allowed if that includes the statements that write no
cart, those that remove lines, the additions a POST asks for, and the quantities a PUT
does not take for a removal. -/
theorem issues_of_writes {allowed : Statement → Prop} (request : Request)
    (reads : ∀ statement, statement.writesCart = false → allowed statement)
    (removes : ∀ productId sessionId, allowed (.deleteCartItem productId sessionId))
    (clears : ∀ sessionId, allowed (.deleteCart sessionId))
    (adds : ∀ body sessionId, request.operation = .postCart (some body) →
      allowed (.increaseQuantity body.quantity body.productId sessionId) ∧
        allowed (.insertCartItem body.productId body.quantity sessionId))
    (sets : ∀ quantity productId sessionId, quantity.nonpositive = false →
      allowed (.setQuantity quantity productId sessionId)) :
    (handle request).Issues allowed := by
  have responds (rejected : Reply) (sessionId : String) :
      (respondCart rejected sessionId).Issues allowed :=
    issues_query.mpr ⟨reads _ rfl, fun _ => issues_answer _ _⟩
  obtain ⟨header, operation⟩ := request
  cases operation with
  | postCart body =>
    cases body with
    | none => exact issues_answer _ _
    | some body =>
      apply issues_query.mpr
      refine ⟨reads _ rfl, ?_⟩
      intro products
      split
      · exact issues_answer _ _
      · apply issues_query.mpr
        refine ⟨reads _ rfl, ?_⟩
        intro existing
        split
        · exact issues_query.mpr ⟨(adds body _ rfl).1, fun _ => responds _ _⟩
        · exact issues_query.mpr ⟨(adds body _ rfl).2, fun _ => responds _ _⟩
  | putCart productId body =>
    cases body with
    | none => exact issues_answer _ _
    | some quantity =>
      change (putCart _ productId (some quantity)).Issues _
      simp only [putCart]
      split
      · exact issues_query.mpr ⟨removes _ _, fun _ => responds _ _⟩
      · rename_i above
        exact issues_query.mpr ⟨sets quantity _ _ (by simpa using above), fun _ => responds _ _⟩
  | deleteCartItem productId =>
    exact issues_query.mpr ⟨removes _ _, fun _ => responds _ _⟩
  | deleteCart => exact issues_query.mpr ⟨clears _, fun _ => issues_answer _ _⟩
  | postOrders body =>
    apply (issues_postOrders _ body).mono
    intro statement serves
    by_cases writes : statement.writesCart = true
    · rw [serves.clearing rfl writes]
      exact clears _
    · exact reads statement (by simpa using writes)
  | _ => exact (issues_reads _ rfl rfl).mono (fun statement reading => reads statement reading.1)

/-- So no request sets a quantity to zero or below: a PUT removes the line instead, and
a POST adds. -/
theorem issues_setsPositive (request : Request) :
    (handle request).Issues Statement.SetsPositive := by
  apply issues_of_writes request (fun _ => setsPositive_of_reads) (fun _ _ => trivial)
    (fun _ => trivial) (fun _ _ _ => ⟨trivial, trivial⟩)
  intro quantity productId sessionId above
  cases quantity with
  | integer value =>
    have positive : 0 < value := by simpa [Quantity.nonpositive] using above
    exact positive
  | _ => trivial

end Sets

/-- What every run keeps whose additions keep their lines. -/
structure AllPositive (initial : Database) (state : ShopState) : Prop where
  traced : server.Traced state
  positive : state.store.Positive
  products : state.store.products = initial.products
  read : ∀ task ∈ state.tasks, ∀ row ∈ readRows task.trace, 1 ≤ row.quantity.val ∧ 0 ≤ row.price.val

section Execute

variable {initial : Database} {state : ShopState} {index : Nat} {choice : Choice} {task : ShopTask}
  {command : Statement} {resume : command.Result → Handler}

/-- A positive cart gives positive rows to a checkout. -/
theorem checkoutRows_positive {database : Database} (positive : database.Positive)
    (prices : ∀ product ∈ database.products.rows, 0 ≤ product.price.val) {sessionId : String}
    {row : CheckoutRow} (listed : row ∈ database.checkoutRows sessionId) :
    1 ≤ row.quantity.val ∧ 0 ≤ row.price.val := by
  obtain ⟨⟨product, quantity⟩, joined, rfl⟩ := List.mem_map.mp listed
  obtain ⟨known, stored⟩ := (database.mem_joinedCart sessionId product quantity).mp joined
  exact ⟨positive.carts _ stored, prices product known⟩

/-- The total of rows with positive quantities and prices not below zero is not below zero. -/
theorem totalAmount_nonneg {rows : List CheckoutRow}
    (positive : ∀ row ∈ rows, 1 ≤ row.quantity.val ∧ 0 ≤ row.price.val) : 0 ≤ totalAmount rows := by
  rw [totalAmount_eq_sum]
  apply List.sum_nonneg
  intro amount member
  obtain ⟨row, inside, rfl⟩ := List.mem_map.mp member
  obtain ⟨quantity, price⟩ := positive row inside
  exact Int.mul_nonneg price (by omega)

/-- A new order has the total it was inserted with. -/
theorem orders_inserted {statement : Statement} {choice : Choice} {database : Database} {order : Order}
    (member : order ∈ (execute statement choice database).2.orders.rows) :
    order ∈ database.orders.rows ∨
      ∃ row, statement = .insertOrder row ∧ order.totalAmount.val = row.totalAmount := by
  by_cases inserts : ∃ row, statement = .insertOrder row
  · obtain ⟨row, rfl⟩ := inserts
    by_cases failing : choice.fails = true
    · rw [execute_fails _ choice database failing] at member
      exact Or.inl member
    · have executed : execute (.insertOrder row) choice database =
          database.insertOrder row choice.now := execute_works (Bool.eq_false_iff.mpr failing) rfl _
      rw [executed] at member
      rcases database.insertOrder_cases row choice.now with
        ⟨⟨error, same⟩, -⟩ | ⟨stored, next, fits, inserted, same⟩
      · rw [same] at member
        exact Or.inl member
      · obtain ⟨-, rows⟩ := KeyedTable.insert?_eq_some.mp (Database.insertOrder?_eq_some inserted).1
        rw [same, rows] at member
        cases List.mem_append.mp member with
        | inl old => exact Or.inl old
        | inr new =>
          obtain rfl := List.mem_singleton.mp new
          exact Or.inr ⟨row, rfl, (Database.orderRow?_eq_some fits).2⟩
  · have other : ∀ row, statement ≠ .insertOrder row := fun row same => inserts ⟨row, same⟩
    rw [(Database.execute_tables statement choice database).2.1 other] at member
    exact Or.inl member

/-- What a checkout reads are lines of a cart. -/
theorem readBy_execute {statement : Statement} {choice : Choice} {database : Database}
    {row : CheckoutRow} (reads : row ∈ readBy ⟨statement, (execute statement choice database).1⟩) :
    ∃ sessionId, row ∈ database.checkoutRows sessionId := by
  by_cases asks : ∃ owner, statement = .selectCheckout owner
  · obtain ⟨owner, rfl⟩ := asks
    by_cases failing : choice.fails = true
    · rw [execute_fails _ choice database failing] at reads
      simp [readBy] at reads
    · have rows : (execute (.selectCheckout owner) choice database).1 =
          .ok (reorder choice.order (database.checkoutRows owner)) :=
            congrArg Prod.fst (execute_works (Bool.eq_false_iff.mpr failing) rfl _)
      rw [rows] at reads
      exact ⟨owner, (reorder_perm _ _).mem_iff.mp reads⟩
  · have other : ∀ owner, statement ≠ .selectCheckout owner := fun owner same => asks ⟨owner, same⟩
    rw [readBy_other other] at reads
    simp at reads

/-- The carts stay positive: a row is added or set by a request that keeps lines positive, or
is as before. -/
theorem carts_kept (all : AllPositive initial state) (present : state.tasks[index]? = some task)
    (pending : task.program = .call command resume)
    (keeps : AddsKeepLines state (.proceed index choice)) :
    ∀ row ∈ (execute command choice state.store).2.cartItems.rows, 1 ≤ row.quantity.val := by
  rw [carts_positive_iff]
  intro sessionId
  rw [cart_execute]
  have before := carts_positive_iff.mp all.positive.carts sessionId
  have issued := ((issues_setsPositive task.request).follows
    (all.traced task (List.mem_of_getElem? present))).2
  rw [pending] at issued
  cases performs : written command (execute command choice state.store).1 with
  | none => exact before
  | some operation =>
    have kept := keeps task present command (by rw [pending]; rfl) operation performs
    obtain ⟨owner, operation⟩ := operation
    simp only [performed]
    split
    · rename_i same
      subst same
      refine apply_positive before ?_ kept
      intro productId quantity set
      subst set
      exact written_set_positive issued.1 performs
    · exact before

/-- An event that is entered as an inserted item comes from the insertion of that row. -/
theorem insertedBy_command {statement : Statement} {result : statement.Result} {row : NewOrderItem}
    (entry : insertedBy ⟨statement, result⟩ = some row) : statement = .insertOrderItem row := by
  unfold insertedBy at entry
  split at entry
  · rename_i other rows same
    obtain ⟨rfl, -⟩ := Event.mk.inj same
    rw [Option.some.inj entry]
  · simp at entry

/-- The items of orders stay positive, because they are inserted from rows that a checkout has
read. -/
theorem items_kept (all : AllPositive initial state) (present : state.tasks[index]? = some task)
    (pending : task.program = .call command resume) :
    ∀ item ∈ (execute command choice state.store).2.orderItems,
      1 ≤ item.quantity.val ∧ 0 ≤ item.subtotal.val := by
  intro item member
  have inside := List.mem_of_getElem? present
  rcases Database.execute_orderItems command choice state.store with
    ⟨row, stored, entry, -, view, appended⟩ | ⟨-, same⟩
  · rw [appended] at member
    cases List.mem_append.mp member with
    | inl old => exact all.positive.items item old
    | inr new =>
      obtain rfl := List.mem_singleton.mp new
      obtain rfl := insertedBy_command entry
      obtain ⟨body, point⟩ := checkout_of_writesOrders all.traced inside pending rfl
      obtain ⟨rows, done, next, left, nextId, split, -, -, reads, rfl⟩ :=
        checkout_insertItem point (by rw [pending]; rfl)
      obtain ⟨quantity, price⟩ := all.read task inside next (by rw [reads, split]; simp)
      have quantities : item.quantity.val = next.quantity.val := congrArg ItemView.quantity view
      have subtotals : item.subtotal.val = next.price.val * next.quantity.val :=
        congrArg ItemView.subtotal view
      rw [quantities, subtotals]
      exact ⟨quantity, Int.mul_nonneg price (by omega)⟩
  · rw [same] at member
    exact all.positive.items item member

/-- The totals of orders stay at zero or above, being sums over such rows. -/
theorem totals_kept (all : AllPositive initial state) (present : state.tasks[index]? = some task)
    (pending : task.program = .call command resume) :
    ∀ order ∈ (execute command choice state.store).2.orders.rows, 0 ≤ order.totalAmount.val := by
  intro order member
  have inside := List.mem_of_getElem? present
  rcases orders_inserted member with old | ⟨row, rfl, total⟩
  · exact all.positive.totals order old
  · obtain ⟨body, point⟩ := checkout_of_writesOrders all.traced inside pending rfl
    obtain ⟨rows, nextId, customer, -, -, trace, rfl⟩ :=
      checkout_insertOrder point (by rw [pending]; rfl)
    have reads : readRows task.trace = rows := by
      rw [trace]
      exact List.append_nil rows
    rw [total]
    exact totalAmount_nonneg (fun row member => all.read task inside row (reads ▸ member))

/-- What a checkout reads is positive, as the carts are at that moment and the prices have not
changed. -/
theorem read_kept (all : AllPositive initial state)
    (prices : ∀ product ∈ initial.products.rows, 0 ≤ product.price.val)
    (present : state.tasks[index]? = some task) {other : ShopTask}
    (member : other ∈ state.tasks.set index
      (task.advance command resume (execute command choice state.store).1))
    {row : CheckoutRow} (reads : row ∈ readRows other.trace) :
    1 ≤ row.quantity.val ∧ 0 ≤ row.price.val := by
  rcases List.mem_or_eq_of_mem_set member with old | rfl
  · exact all.read other old row reads
  · rw [Task.advance_trace, readRows_append] at reads
    cases List.mem_append.mp reads with
    | inl before => exact all.read task (List.mem_of_getElem? present) row before
    | inr now =>
      obtain ⟨sessionId, listed⟩ := readBy_execute (by simpa [readRows] using now)
      exact checkoutRows_positive all.positive (all.products ▸ prices) listed

end Execute

section Runs

variable {initial : Database} (prices : ∀ product ∈ initial.products.rows, 0 ≤ product.price.val)

include prices

/-- A step whose addition keeps its line keeps everything positive. -/
theorem step_allPositive {state : ShopState} (action : Action Request Choice)
    (all : AllPositive initial state) (keeps : AddsKeepLines state action) :
    AllPositive initial (server.step state action) := by
  have traced := server.step_traced state action all.traced
  generalize after : server.step state action = next at traced ⊢
  have transition : server.Transition state action next := after ▸ server.step_transition state action
  cases transition with
  | idle index choice nothing => exact all
  | started request =>
    refine ⟨traced, all.positive, all.products, ?_⟩
    intro task member row reads
    cases List.mem_append.mp member with
    | inl member => exact all.read task member row reads
    | inr member =>
      obtain rfl := List.mem_singleton.mp member
      simp [readRows, Service.accept] at reads
  | proceeded index choice task command resume present pending =>
    exact ⟨traced, ⟨carts_kept all present pending keeps, items_kept all present pending,
      totals_kept all present pending⟩,
      (Database.execute_tables command choice state.store).1.trans all.products,
      fun other member row reads => read_kept all prices present member reads⟩

/-- Every run whose requests keep lines positive keeps carts, items and totals so. -/
theorem run_allPositive (noCarts : initial.cartItems.rows = []) (noOrders : initial.orders.rows = [])
    (actions : List (Action Request Choice))
    (keeps : server.Along AddsKeepLines (Service.idleState initial) actions) :
    AllPositive initial (server.run (Service.idleState initial) actions) := by
  have noItems (item) (member : item ∈ initial.orderItems) : False := by
    have ordered := initial.itemOrders item member
    simp [KeyedTable.get?, noOrders] at ordered
  refine server.run_invariant (AllPositive initial)
    (fun state action all met => step_allPositive prices action all met) _ actions ?_ keeps
  exact
    { traced := server.idleState_traced initial
      positive :=
        { carts := fun row member => absurd member (by simp [noCarts])
          items := fun item member => (noItems item member).elim
          totals := fun order member => absurd member (by simp [noOrders]) }
      products := rfl
      read := fun task member => absurd member (by simp) }

end Runs

/-- A step that leaves positive lines has kept the line it has added to. -/
theorem keeps_of_positive {state : ShopState} (action : Action Request Choice)
    (positive : (server.step state action).store.Positive) : AddsKeepLines state action := by
  cases action with
  | start request => trivial
  | proceed index choice =>
    intro task present statement waits operation performs
    obtain ⟨resume, pending⟩ := pending?_eq_some.mp waits
    rw [(Service.step_executes present pending choice).2] at positive
    have after := cart_execute statement choice state.store operation.1
    rw [performs, performed, if_pos rfl] at after
    have lines := carts_positive_iff.mp positive.carts operation.1
    exact keepsLine_of_positive (fun productId quantity listed =>
      lines productId quantity ((congrFun after productId).trans listed))

/-- Quantities stay positive and amounts non-negative exactly as long as every addition
that is carried out keeps its line. From empty carts and orders and prices that are
not negative, whatever is requested, however the requests interleave and whatever
fails: all states of a run have positive lines and items and no negative amount if
and only if no POST takes a line down to zero or below. -/
theorem stays_positive_iff (initial : Database) (noCarts : initial.cartItems.rows = [])
    (noOrders : initial.orders.rows = [])
    (prices : ∀ product ∈ initial.products.rows, 0 ≤ product.price.val)
    (actions : List (Action Request Choice)) :
    (∀ before after, actions = before ++ after →
      (server.run (Service.idleState initial) before).store.Positive) ↔
    server.Along AddsKeepLines (Service.idleState initial) actions := by
  constructor
  · intro positive
    induction actions using List.reverseRecOn with
    | nil => trivial
    | append_singleton actions action inductionHypothesis =>
      refine (server.along_append _ _ _ _).mpr ⟨inductionHypothesis ?_, ?_, trivial⟩
      · rintro before after rfl
        exact positive before (after ++ [action]) (by simp)
      · apply keeps_of_positive action
        have final := positive (actions ++ [action]) [] (by simp)
        rwa [Service.run_append] at final
  · rintro keeps before after rfl
    have along := ((server.along_append _ _ before after).mp keeps).1
    exact (run_allPositive prices noCarts noOrders before along).positive

/-- A POST of minus one smartphone, which the server accepts. -/
def removeSmartphone : Request := ⟨some "s", .postCart (some ⟨some "1", .integer (-1)⟩)⟩

/-- Two smartphones are added one by one, one is taken back by a POST of minus one, and
the other one is ordered. -/
def oneOfTwo : List (Action Request Choice) :=
  .start (addSmartphone "s") :: statements 0 4 ++ .start (addSmartphone "s") :: statements 1 4 ++
    .start removeSmartphone :: statements 2 4 ++ .start (checkout "s") :: statements 3 7

set_option maxRecDepth 4000 in
/-- In the run that adds two and then minus one, all lines stay positive, though the request
is one the client never makes. -/
theorem one_of_two_positive :
    (server.run (Service.idleState freshDatabase) oneOfTwo).store.Positive :=
  (stays_positive_iff freshDatabase rfl rfl (by decide) oneOfTwo).mpr (by decide) oneOfTwo [] (by simp)

/-- A POST of minus one smartphone to an empty cart, and a checkout. -/
def minusOne : List (Action Request Choice) :=
  .start removeSmartphone :: statements 0 4 ++ .start (checkout "s") :: statements 1 7

set_option maxRecDepth 4000 in
/-- The cart has a line of minus one, and the order a negative total. -/
theorem minus_one_ordered :
    (server.run (Service.idleState freshDatabase) (minusOne.take 5)).store.cart "s" "1" = some (-1) ∧
      (server.run (Service.idleState freshDatabase) minusOne).store.orders.rows.map
        (fun order => order.totalAmount.val) = [-59999] ∧
      ¬ ∀ before after, minusOne = before ++ after →
        (server.run (Service.idleState freshDatabase) before).store.Positive := by
  refine ⟨by decide, by decide, fun positive => ?_⟩
  have lines := carts_positive_iff.mp
    (positive (minusOne.take 5) (minusOne.drop 5) (List.take_append_drop 5 minusOne).symm).carts
  exact absurd (lines "s" "1" (-1) (by decide)) (by decide)

section Additions

/-- A POST adds at least one piece. Of the other requests nothing is asked. -/
def AddsSome : Action Request Choice → Prop
  | .start ⟨_, .postCart (some ⟨_, .integer quantity⟩)⟩ => 1 ≤ quantity
  | _ => True

/-- The statement adds at least one piece, if it is one of the two that add. -/
def Statement.AddsPositive : Statement → Prop
  | .increaseQuantity (.integer quantity) _ _ => 1 ≤ quantity
  | .insertCartItem _ (.integer quantity) _ => 1 ≤ quantity
  | _ => True

/-- What such a statement is reported to have added is positive. -/
theorem written_add_positive {statement : Statement} {result : statement.Result}
    (adds : statement.AddsPositive) {owner productId : String} {quantity : Int}
    (performs : written statement result = some (owner, .add productId quantity)) :
    1 ≤ quantity := by
  cases written_writesAs performs with
  | increase => exact adds
  | insert => exact adds

/-- A statement that writes no cart adds nothing, so there is nothing to show of it. -/
theorem addsPositive_of_reads {statement : Statement} (reads : statement.writesCart = false) :
    statement.AddsPositive := by
  cases statement with
  | increaseQuantity quantity productId sessionId => simp at reads
  | insertCartItem productId quantity sessionId => simp at reads
  | _ => trivial

/-- So a request adds at least one to a line or nothing. -/
theorem issues_addsPositive (request : Request) (adds : AddsSome (.start request)) :
    (handle request).Issues Statement.AddsPositive := by
  apply issues_of_writes request (fun _ => addsPositive_of_reads) (fun _ _ => trivial)
    (fun _ => trivial) ?_ (fun _ _ _ _ => trivial)
  intro body sessionId asked
  obtain ⟨header, operation⟩ := request
  obtain ⟨productId, quantity⟩ := body
  obtain rfl : operation = .postCart (some ⟨productId, quantity⟩) := asked
  cases quantity with
  | integer value => exact ⟨adds, adds⟩
  | _ => exact ⟨trivial, trivial⟩

/-- In a positive cart such an addition keeps its line. -/
theorem keepsLine_of_adds {database : Database} (positive : database.Positive)
    {statement : Statement} (adds : statement.AddsPositive) {result : statement.Result}
    {operation : String × CartOperation} (performs : written statement result = some operation) :
    operation.2.KeepsLine (database.cart operation.1) := by
  obtain ⟨owner, operation⟩ := operation
  cases operation with
  | add productId quantity =>
    have added := written_add_positive adds performs
    have lines := carts_positive_iff.mp positive.carts owner productId
    change -(database.cart owner productId).getD 0 < quantity
    cases line : database.cart owner productId with
    | none =>
      rw [Option.getD_none]
      omega
    | some before =>
      have listed := lines before line
      rw [Option.getD_some]
      omega
  | _ => trivial

/-- The tasks of a run only come from such requests. -/
def OnlyAdds (state : ShopState) : Prop := ∀ task ∈ state.tasks, AddsSome (.start task.request)

/-- Every step keeps this, if the request it accepts adds at least one piece. -/
theorem step_onlyAdds {state : ShopState} {action : Action Request Choice}
    (adding : OnlyAdds state) (adds : AddsSome action) : OnlyAdds (server.step state action) := by
  generalize after : server.step state action = next
  have transition : server.Transition state action next := after ▸ server.step_transition state action
  cases transition with
  | idle index choice nothing => exact adding
  | started request =>
    intro task member
    cases List.mem_append.mp member with
    | inl member => exact adding task member
    | inr member =>
      obtain rfl := List.mem_singleton.mp member
      exact adds
  | proceeded index choice task command resume present pending =>
    intro other member
    rcases List.mem_or_eq_of_mem_set member with old | rfl
    · exact adding other old
    · exact adding task (List.mem_of_getElem? present)

/-- In such a state every addition keeps its line. -/
theorem addsKeepLines_of_onlyAdds {initial : Database} {state : ShopState}
    (all : AllPositive initial state) (adding : OnlyAdds state) (action : Action Request Choice) :
    AddsKeepLines state action := by
  cases action with
  | start request => trivial
  | proceed index choice =>
    intro task present statement waits operation performs
    have member := List.mem_of_getElem? present
    obtain ⟨resume, pending⟩ := pending?_eq_some.mp waits
    have issued := ((issues_addsPositive task.request (adding task member)).follows
      (all.traced task member)).2
    rw [pending] at issued
    exact keepsLine_of_adds all.positive issued.1 performs

/-- As long as every POST adds at least one, every cart stays positive. -/
theorem adding_run_positive {initial : Database} (noCarts : initial.cartItems.rows = [])
    (noOrders : initial.orders.rows = [])
    (prices : ∀ product ∈ initial.products.rows, 0 ≤ product.price.val)
    (actions : List (Action Request Choice)) (adds : ∀ action ∈ actions, AddsSome action) :
    AllPositive initial (server.run (Service.idleState initial) actions) := by
  have along := server.along_of_forall (Service.idleState initial) actions adds
  have initially : AllPositive initial (Service.idleState initial) :=
    run_allPositive prices noCarts noOrders [] trivial
  have both := server.run_invariant (fun state => AllPositive initial state ∧ OnlyAdds state)
    (fun state action met added =>
      ⟨step_allPositive prices action met.1 (addsKeepLines_of_onlyAdds met.1 met.2 action),
        step_onlyAdds met.2 added⟩)
    _ actions ⟨initially, fun task member => absurd member (by simp)⟩ along
  exact both.1

end Additions

end ShoppingCS.Shop
