import Mathlib.Algebra.Order.Group.Int
import ShoppingCS.Shop.CheckoutFailure
import ShoppingCS.Shop.OrderBody
import ShoppingCS.Shop.OrderNumbers
import ShoppingCS.Shop.PositiveQuantities
import ShoppingCS.Shop.ProductSearch

/-!
# The largest cart that can be checked out

A cart line holds as many of a product as an INTEGER can count, and additions
accumulate. An order holds amounts of eight digits before the point. No cart request
compares the two, so a cart can grow beyond what its checkout can store; the INSERT
is then refused, the answer is the one for a malformed body, and the cart stays as
it is.
-/

namespace ShoppingCS.Shop

open Interleaving Storage Program

/-- The amount of each line of a session's cart, in cents. -/
def lineAmounts (database : Database) (sessionId : String) : List Int :=
  (database.joinedCart sessionId).map (fun line => line.1.price.val * line.2.val)

/-- The amount is at most 99,999,999.99 on either side of zero. -/
def InRange (cents : Int) : Prop := -9999999999 ≤ cents ∧ cents ≤ 9999999999

instance (cents : Int) : Decidable (InRange cents) :=
  inferInstanceAs (Decidable (-9999999999 ≤ cents ∧ cents ≤ 9999999999))

/-- There is something to order, and neither a line nor all of them together exceed
the range. -/
structure Payable (database : Database) (sessionId : String) : Prop where
  nonempty : lineAmounts database sessionId ≠ []
  total : InRange (lineAmounts database sessionId).sum
  lines : ∀ amount ∈ lineAmounts database sessionId, InRange amount

/-- The body is an object, and its texts fit their columns: none is too long, and none
holds the character that PostgreSQL refuses. -/
def OrderBody.Fits : OrderBody → Prop
  | .fields customer => nullable 255 customer.customerName ≠ none ∧
      nullable 255 customer.customerEmail ≠ none ∧ nullableText customer.customerAddress ≠ none ∧
      nullable 50 customer.customerPhone ≠ none
  | _ => False

/-- The request, executed alone with these choices, is answered 201. -/
def Created (request : Request) (choices : Nat → Choice) (database : Database) : Prop :=
  ∃ reply store rest, alone execute (handle request) choices database =
    some (reply, store, rest) ∧ reply.status = 201

/-- A column of type DECIMAL(10, 2) holds exactly the amounts in this range. -/
theorem ofCents?_ne_none {cents : Int} : Decimal.ofCents? cents ≠ none ↔ InRange cents := by
  unfold Decimal.ofCents? InRange
  split
  · simp only [ne_eq, reduceCtorEq, not_false_eq_true, true_iff]
    omega
  · simp only [ne_eq, not_true_eq_false, false_iff]
    omega

/-- The subtotals of a checkout are the amounts of the cart lines. -/
theorem checkoutRows_amounts (database : Database) (sessionId : String) :
    (database.checkoutRows sessionId).map CheckoutRow.subtotal =
      lineAmounts database sessionId := by
  rw [Database.checkoutRows, List.map_map]
  rfl

section Checkout

variable {database : Database} {sessionId : String} {choices : Nat → Choice}

/-- The rows that are read have the amounts of the lines, in some order. -/
theorem cartRead_amounts :
    ((cartRead sessionId choices database).map CheckoutRow.subtotal).Perm
      (lineAmounts database sessionId) := by
  rw [← checkoutRows_amounts]
  exact (reorder_perm _ _).map CheckoutRow.subtotal

/-- The total of the rows that have been read is the sum of the amounts of the lines, in
whatever order they came. -/
theorem totalAmount_cartRead :
    totalAmount (cartRead sessionId choices database) = (lineAmounts database sessionId).sum := by
  rw [totalAmount_eq_sum]
  exact cartRead_amounts.sum_eq

/-- The checkout reads nothing exactly when the session has no line. -/
theorem cartRead_eq_nil :
    cartRead sessionId choices database = [] ↔ lineAmounts database sessionId = [] := by
  have lengths := (@cartRead_amounts database sessionId choices).length_eq
  rw [List.length_map] at lengths
  rw [← List.length_eq_zero_iff, lengths, List.length_eq_zero_iff]

/-- On working connections the order row is stored exactly when there is something to
order and its total is in range. -/
theorem orderStored_iff (numbered : database.Numbered)
    (working : ∀ index, (choices index).fails = false) {customer : CustomerFields}
    (fits : (OrderBody.fields customer).Fits) :
    OrderStored sessionId (.fields customer) choices database ↔
      lineAmounts database sessionId ≠ [] ∧ InRange (lineAmounts database sessionId).sum := by
  rw [← ofCents?_ne_none, ← @totalAmount_cartRead database sessionId choices]
  constructor
  · intro stored
    obtain ⟨-, nonempty, other, same, accepted, -⟩ := stored
    constructor
    · exact fun empty => nonempty (cartRead_eq_nil.mpr empty)
    · intro outside
      obtain rfl : customer = other := by simpa using same
      apply accepted
      simp [Database.orderRow?, newOrder, outside]
  · intro payable
    obtain ⟨nonempty, inside⟩ := payable
    refine ⟨fun index _ => working index, ?_, customer, rfl, ?_, ?_⟩
    · exact fun empty => nonempty (cartRead_eq_nil.mp empty)
    · exact Database.orderRow?_ne_none _ fits.1 fits.2.1 fits.2.2.1 fits.2.2.2 inside
    · by_contra taken
      have bounds := (numbered (database.orders.rows.length + 1)).mp taken
      omega

/-- On working connections an item is refused exactly when its amount is out of
range. -/
theorem itemFault_iff {items : List CheckoutRow}
    (working : ∀ index, (choices index).fails = false) :
    ItemFault choices items ↔ ∃ amount ∈ items.map CheckoutRow.subtotal, ¬ InRange amount := by
  constructor
  · intro fault
    obtain ⟨index, item, located, failing | outside⟩ := fault
    · rw [working index] at failing
      exact absurd failing (by simp)
    · have listed := @List.mem_map_of_mem _ _ _ _ CheckoutRow.subtotal (List.mem_of_getElem? located)
      exact ⟨item.subtotal, listed, fun inside => ofCents?_ne_none.mpr inside outside⟩
  · intro exceeding
    obtain ⟨amount, listed, outside⟩ := exceeding
    obtain ⟨item, member, rfl⟩ := List.mem_map.mp listed
    obtain ⟨index, located⟩ := List.mem_iff_getElem?.mp member
    refine ⟨index, item, located, Or.inr ?_⟩
    by_contra stored
    exact outside (ofCents?_ne_none.mp stored)

/-- A request that runs alone has one answer, so its status decides whether an order was
created. -/
theorem created_of_answer {request : Request} {reply : Reply} {store : Database}
    {rest : Nat → Choice}
    (answered : alone execute (handle request) choices database = some (reply, store, rest)) :
    Created request choices database ↔ reply.status = 201 := by
  constructor
  · intro created
    obtain ⟨other, final, remaining, again, status⟩ := created
    rw [answered] at again
    obtain ⟨rfl, -⟩ := Prod.mk.inj (Option.some.inj again)
    exact status
  · exact fun status => ⟨reply, store, rest, answered, status⟩

/-- Once the order row is stored, the answer is 201 exactly when every item is
accepted. -/
theorem created_iff_items (working : ∀ index, (choices index).fails = false) {request : Request}
    {body : OrderBody} (handled : handle request = postOrders sessionId body)
    (opened : OrderStored sessionId body choices database) :
    Created request choices database ↔
      ¬ ItemFault (after 3 choices) (cartRead sessionId choices database) := by
  obtain ⟨store, ordered, -, products, continued⟩ :=
    (alone_opening sessionId body choices database).2 opened
  rw [← handled] at continued
  have known : ∀ item ∈ cartRead sessionId choices database,
      store.products.get? item.productId ≠ none := by
    intro item listed
    rw [products]
    exact Database.checkoutRows_known ((reorder_perm _ _).mem_iff.mp listed)
  obtain ⟨faulty, faultless⟩ := alone_insertItems (database.orders.rows.length + 1)
    (cartRead sessionId choices database)
    (finishOrder sessionId (database.orders.rows.length + 1)) (after 3 choices) store ordered known
  by_cases item : ItemFault (after 3 choices) (cartRead sessionId choices database)
  · obtain ⟨last, rest, -, ended⟩ := faulty item
    rw [created_of_answer (continued.trans ended)]
    exact ⟨fun status => absurd status (by decide), fun accepted => absurd item accepted⟩
  · obtain ⟨filled, same, further⟩ := faultless item
    obtain ⟨-, finished⟩ := alone_finishOrder sessionId (database.orders.rows.length + 1)
      (after (cartRead sessionId choices database).length (after 3 choices)) filled
      (by rw [same]; exact ordered)
    obtain ⟨reply, final, rest, ended, status⟩ := finished (fun index _ => working _)
    rw [created_of_answer (continued.trans (further.trans ended))]
    exact ⟨fun _ => item, fun _ => status⟩

/-- On working connections a checkout of fitting texts is answered 201 exactly when
the cart is payable. -/
theorem created_iff_payable (numbered : database.Numbered)
    (working : ∀ index, (choices index).fails = false) {request : Request}
    {customer : CustomerFields} (asks : request.operation = .postOrders (.fields customer))
    (fits : (OrderBody.fields customer).Fits) :
    Created request choices database ↔ Payable database (getSessionId request) := by
  have handled : handle request = postOrders (getSessionId request) (.fields customer) := by
    rw [handle, asks]
  generalize getSessionId request = sessionId at handled ⊢
  have opens : OrderStored sessionId (.fields customer) choices database ↔
      lineAmounts database sessionId ≠ [] ∧ InRange (lineAmounts database sessionId).sum :=
    orderStored_iff numbered working fits
  by_cases opened : OrderStored sessionId (.fields customer) choices database
  · obtain ⟨nonempty, total⟩ := opens.mp opened
    rw [created_iff_items working handled opened,
      @itemFault_iff (after 3 choices) _ (fun index => working _)]
    constructor
    · intro accepted
      refine ⟨nonempty, total, ?_⟩
      intro amount listed
      by_contra outside
      exact accepted ⟨amount, cartRead_amounts.mem_iff.mpr listed, outside⟩
    · intro payable exceeding
      obtain ⟨amount, listed, outside⟩ := exceeding
      exact outside (payable.lines amount (cartRead_amounts.mem_iff.mp listed))
  · obtain ⟨message, rest, ended⟩ :=
      (alone_opening sessionId (.fields customer) choices database).1 opened
    rw [← handled] at ended
    rw [created_of_answer ended]
    constructor
    · intro status
      exact absurd status (by simp [Reply.error])
    · exact fun payable => absurd (opens.mpr ⟨payable.nonempty, payable.total⟩) opened

/-- A cart whose total is out of range is refused whatever the connections do, and
stays as it is, so the next checkout is refused as well. -/
theorem overflow_refused (choices : Nat → Choice) (customer : CustomerFields)
    (outside : ¬ InRange (lineAmounts database sessionId).sum) :
    ∃ message rest, alone execute (postOrders sessionId (.fields customer)) choices database =
      some (.error 400 message, database, rest) := by
  apply (alone_opening sessionId (.fields customer) choices database).1
  intro stored
  obtain ⟨-, -, other, -, accepted, -⟩ := stored
  rw [← @totalAmount_cartRead database sessionId choices, ← ofCents?_ne_none, not_not] at outside
  apply accepted
  simp [Database.orderRow?, newOrder, outside]

end Checkout

/-- In every run without orders at the beginning, whatever it has asked for and
however the requests interleave, a checkout that then runs alone on working
connections, with a JSON object whose texts fit, is answered 201 exactly when the
cart has a line and no amount of it, nor their sum, is beyond 99,999,999.99. -/
theorem checkout_created_iff (initial : Database) (noOrders : initial.orders.rows = [])
    (actions : List (Action Request Choice)) (sessionHeader : Option String)
    (prepareValue : Json → String) (members : List (String × Json))
    (fits : (OrderBody.ofJson prepareValue (.object members)).Fits) (choices : Nat → Choice)
    (working : ∀ index, (choices index).fails = false) :
    Created ⟨sessionHeader, .postOrders (.ofJson prepareValue (.object members))⟩ choices
        (server.run (Service.idleState initial) actions).store ↔
      Payable (server.run (Service.idleState initial) actions).store
        (getSessionId ⟨sessionHeader, .postOrders (.ofJson prepareValue (.object members))⟩) := by
  have numbered := (run_numbering noOrders actions).ids
  exact created_iff_payable numbered working rfl fits

/-- One smartphone is added and its line is set to 100,000. -/
def affordable : List (Action Request Choice) :=
  .start (addSmartphone "s") :: statements 0 4 ++
    .start ⟨some "s", .putCart "1" (some (.integer 100000))⟩ :: statements 1 2

/-- A checkout of this cart, with a phone number of the length the column takes, is answered
201. -/
theorem affordable_created :
    Created
      ⟨some "s", .postOrders (.ofJson (fun _ => "") (.object [("customerPhone", .string "12345")]))⟩
      (fun _ => .plain) (server.run (Service.idleState freshDatabase) affordable).store := by
  have payable : Payable (server.run (Service.idleState freshDatabase) affordable).store "s" :=
    ⟨by decide, by decide, by decide⟩
  exact (checkout_created_iff freshDatabase rfl affordable (some "s") (fun _ => "")
    [("customerPhone", .string "12345")] ⟨by decide, by decide, by decide, by decide⟩ (fun _ => .plain)
    (fun _ => rfl)).mpr payable

/-- One smartphone is added and its line is set to 200,000. -/
def tooMany : List (Action Request Choice) :=
  .start (addSmartphone "s") :: statements 0 4 ++
    .start ⟨some "s", .putCart "1" (some (.integer 200000))⟩ :: statements 1 2

/-- Both requests are answered 200. Nothing is wrong with the body of the checkout,
and its answer is that the body is invalid; the cart keeps its line. -/
theorem too_many_refused :
    (server.run (Service.idleState freshDatabase) tooMany).tasks.map
        (fun task => task.answer?.map Reply.status) = [some 200, some 200] ∧
      (OrderBody.ofJson (fun _ => "") (.object [])).Fits ∧
      ¬ Created ⟨some "s", .postOrders (.ofJson (fun _ => "") (.object []))⟩ (fun _ => .plain)
        (server.run (Service.idleState freshDatabase) tooMany).store ∧
      (alone execute (handle ⟨some "s", .postOrders (.ofJson (fun _ => "") (.object []))⟩)
        (fun _ => .plain) (server.run (Service.idleState freshDatabase) tooMany).store).map
        (fun outcome => (outcome.1, outcome.2.1.cart "s" "1")) =
        some (invalidBody, some 200000) := by
  have outcome : (alone execute
      (handle ⟨some "s", .postOrders (.ofJson (fun _ => "") (.object []))⟩)
      (fun _ => .plain) (server.run (Service.idleState freshDatabase) tooMany).store).map
      (fun outcome => (outcome.1, outcome.2.1.cart "s" "1")) =
      some (invalidBody, some 200000) := by decide
  refine ⟨by decide, ⟨by decide, by decide, by decide, by decide⟩, ?_, outcome⟩
  intro created
  obtain ⟨reply, store, rest, answered, status⟩ := created
  rw [answered, Option.map_some, Option.some.injEq, Prod.mk.injEq] at outcome
  have answer : reply = invalidBody := outcome.1
  rw [answer] at status
  exact absurd status (by decide)

/-- Amounts that are not negative are in range as soon as their sum is. -/
theorem inRange_of_sum {amounts : List Int} (nonneg : ∀ amount ∈ amounts, 0 ≤ amount)
    (bounded : amounts.sum ≤ 9999999999) :
    InRange amounts.sum ∧ ∀ amount ∈ amounts, InRange amount := by
  have below := List.sum_nonneg nonneg
  constructor
  · exact ⟨by omega, bounded⟩
  · intro amount member
    have single := List.single_le_sum nonneg amount member
    have positive := nonneg amount member
    exact ⟨by omega, by omega⟩

/-- From empty carts and prices that are not negative, and as long as every POST adds
at least one, the sum alone decides. -/
theorem adding_created_iff (initial : Database) (noCarts : initial.cartItems.rows = [])
    (noOrders : initial.orders.rows = [])
    (prices : ∀ product ∈ initial.products.rows, 0 ≤ product.price.val)
    (actions : List (Action Request Choice)) (adds : ∀ action ∈ actions, AddsSome action)
    {request : Request} {customer : CustomerFields}
    (asks : request.operation = .postOrders (.fields customer))
    (fits : (OrderBody.fields customer).Fits) {choices : Nat → Choice}
    (working : ∀ index, (choices index).fails = false) :
    Created request choices (server.run (Service.idleState initial) actions).store ↔
      lineAmounts (server.run (Service.idleState initial) actions).store (getSessionId request) ≠ []
        ∧ (lineAmounts (server.run (Service.idleState initial) actions).store
          (getSessionId request)).sum ≤ 9999999999 := by
  have all := adding_run_positive noCarts noOrders prices actions adds
  rw [created_iff_payable (run_numbering noOrders actions).ids working asks fits]
  generalize server.run (Service.idleState initial) actions = final at all ⊢
  have nonneg : ∀ amount ∈ lineAmounts final.store (getSessionId request), 0 ≤ amount := by
    intro amount listed
    rw [← checkoutRows_amounts] at listed
    obtain ⟨row, read, rfl⟩ := List.mem_map.mp listed
    obtain ⟨quantity, price⟩ := checkoutRows_positive all.positive
      (by rw [all.products]; exact prices) read
    exact Int.mul_nonneg price (by omega)
  constructor
  · exact fun payable => ⟨payable.nonempty, payable.total.2⟩
  · intro bounded
    obtain ⟨total, lines⟩ := inRange_of_sum nonneg bounded.2
    exact ⟨bounded.1, total, lines⟩

end ShoppingCS.Shop
