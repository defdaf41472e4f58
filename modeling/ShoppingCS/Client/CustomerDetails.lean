import ShoppingCS.Client.CheckoutForm
import ShoppingCS.Shop.OrderBody

/-!
# The customer of an order

The page submits the customer's name and address as the objects `customerInfo` and
`shippingAddress`; the server looks for `customerName`, `customerEmail`,
`customerAddress` and `customerPhone` at the top level. Neither has what the other
asks for, and a missing member becomes NULL, so every order of the page is created
without its customer.
-/

namespace ShoppingCS.Client

open Interleaving Shop Storage

/-- A column that may be NULL, which is null in a response, and encoded otherwise. -/
def optionalJson {α : Type} (encode : α → Json) : Option α → Json
  | none => .null
  | some value => encode value

/-- A product as the client holds it. A rating that is not a number is sent as null. -/
def productJson (product : Product) : Json :=
  .object
    [("id", .string product.id),
      ("name", .string product.name),
      ("price", .number (product.price.val / 100)),
      ("description", optionalJson .string product.description),
      ("image", optionalJson .string product.image),
      ("category", .string product.category),
      ("inStock", optionalJson .bool product.inStock),
      ("rating", optionalJson (fun rating => .number (rating / 100)) product.rating)]

/-- A line of the cart, as the body of an order has it. -/
def lineJson (item : CartLine) : Json :=
  .object [("product", productJson item.product), ("quantity", .number item.quantity)]

/-- `orderData.customerInfo`, the object under which the server does not look. -/
def customerInfoJson (customerInfo : CustomerInfo) : Json :=
  .object
    [("firstName", .string customerInfo.firstName),
      ("lastName", .string customerInfo.lastName),
      ("email", .string customerInfo.email),
      ("phone", .string customerInfo.phone)]

/-- `orderData.shippingAddress`, with its five members as texts. -/
def shippingAddressJson (shippingAddress : ShippingAddress) : Json :=
  .object
    [("street", .string shippingAddress.street),
      ("city", .string shippingAddress.city),
      ("state", .string shippingAddress.state),
      ("zipCode", .string shippingAddress.zipCode),
      ("country", .string shippingAddress.country)]

namespace CheckoutPage

/-- The argument of `createOrder`, which `ApiService` sends as it is. -/
def order (cart : List CartLine) (orderData : OrderData) : Json :=
  .object
    [("items", .array (cart.map lineJson)),
      ("total", .number (total cart / 100)),
      ("customerInfo", customerInfoJson orderData.customerInfo),
      ("shippingAddress", shippingAddressJson orderData.shippingAddress)]

/-- `handleOrderSubmit`, as far as the server: the body it sends and what the handler takes
from it. -/
def handleOrderSubmit (prepareValue : Json → String) (cart : List CartLine)
    (orderData : OrderData) : Request :=
  { sessionHeader := ApiCall.defaultHeaders.lookup "x-session-id"
    operation := .postOrders (.ofJson prepareValue (order cart orderData)) }

/-- Pressing the button: an empty cart shows no form, and `handleSubmit` passes an
accepted form on. -/
def submit (prepareValue : Json → String) (cart : List CartLine) (formData : OrderData) :
    Option Request :=
  if cart.isEmpty then none
  else if validateForm formData then some (handleOrderSubmit prepareValue cart formData)
  else none

/-- The server finds none of its four members in the page's body. -/
theorem ofJson_order (prepareValue : Json → String) (cart : List CartLine) (orderData : OrderData) :
    OrderBody.ofJson prepareValue (order cart orderData) = .fields ⟨none, none, none, none⟩ := rfl

/-- The page makes the call `createOrder`, with no customer that reaches the server. -/
theorem handleOrderSubmit_call (prepareValue : Json → String) (cart : List CartLine)
    (orderData : OrderData) :
    handleOrderSubmit prepareValue cart orderData =
      (ApiCall.createOrder ⟨none, none, none, none⟩).request := by
  rw [handleOrderSubmit, ofJson_order]
  rfl

/-- An accepted form of a cart that is not empty is submitted. -/
theorem submit_accepted {prepareValue : Json → String} {cart : List CartLine}
    {formData : OrderData} (accepted : validateForm formData = true) (nonempty : cart ≠ []) :
    submit prepareValue cart formData = some (handleOrderSubmit prepareValue cart formData) := by
  simp [submit, accepted, nonempty]

end CheckoutPage

/-- An order row that carries the customer of a form. -/
structure CarriesCustomer (order : Order) (formData : OrderData) : Prop where
  name : ∃ name, order.customerName = some name ∧
    formData.customerInfo.firstName.toList <:+: name.toList ∧
    formData.customerInfo.lastName.toList <:+: name.toList
  email : order.customerEmail = some formData.customerInfo.email
  address : ∃ address, order.customerAddress = some address ∧
    formData.shippingAddress.street.toList <:+: address.toList ∧
    formData.shippingAddress.city.toList <:+: address.toList ∧
    formData.shippingAddress.zipCode.toList <:+: address.toList
  phone : order.customerPhone = some formData.customerInfo.phone

/-- A row whose customer's address is NULL carries none, so it does not carry the one of the
form. -/
theorem not_carries_null {order : Order} (absent : order.customerEmail = none)
    (formData : OrderData) : ¬ CarriesCustomer order formData := by
  intro carries
  exact Option.some_ne_none _ (carries.email.symm.trans absent)

/-- In this run, the request has been made and answered 201 by this reply. -/
def Created (initial : Database) (actions : List (Action Request Choice)) (request : Request)
    (reply : Reply) : Prop :=
  ∃ (index : Nat) (task : ShopTask),
    (server.run (Service.idleState initial) actions).tasks[index]? = some task ∧
      task.request = request ∧ task.answer? = some reply ∧ reply.status = 201

/-- A checkout of the page answered 201 has stored an order without a customer. -/
theorem created_without_customer {prepareValue : Json → String} {cart : List CartLine}
    {formData : OrderData} {initial : Database} {actions : List (Action Request Choice)}
    {reply : Reply} (created : Created initial actions
      (CheckoutPage.handleOrderSubmit prepareValue cart formData) reply) :
    ∃ view order, reply.body = .order view ∧
      (server.run (Service.idleState initial) actions).store.orders.get? view.id = some order ∧
      order.customerName = none ∧ order.customerEmail = none ∧ order.customerAddress = none ∧
      order.customerPhone = none := by
  obtain ⟨index, task, present, asked, answered, status⟩ := created
  have operation : task.request.operation = .postOrders (.fields ⟨none, none, none, none⟩) := by
    rw [asked, CheckoutPage.handleOrderSubmit_call]
    rfl
  obtain ⟨view, order, body, there, name, email, address, phone⟩ :=
    created_order_customer present operation answered status
  exact ⟨view, order, body, there, (Option.some.inj name).symm, (Option.some.inj email).symm,
    address, (Option.some.inj phone).symm⟩

/-- One smartphone is added to the cart of the clients' session, and ordered by the
page. -/
def orderSmartphone : List (Action Request Choice) :=
  .start (ApiCall.addToCart "1" (.integer 1)).request :: statements 0 4 ++
    .start (ApiCall.createOrder ⟨none, none, none, none⟩).request :: statements 1 7

set_option maxRecDepth 4000 in
/-- The order of one smartphone is answered 201 in the run of the example. -/
theorem orderSmartphone_created : ∃ reply, Created freshDatabase orderSmartphone
    (ApiCall.createOrder ⟨none, none, none, none⟩).request reply :=
  ⟨_, 1, _, rfl, rfl, rfl, rfl⟩

/-- No form's customer survives the checkout. Whatever form the page accepts for a cart
that is not empty, it submits a request that is answered 201 in some run, and in every
run in which it is, the stored order has no customer at all. -/
theorem customer_lost (prepareValue : Json → String) (cart : List CartLine)
    (formData : OrderData) (accepted : validateForm formData = true) (nonempty : cart ≠ []) :
    ∃ request, CheckoutPage.submit prepareValue cart formData = some request ∧
      (∃ initial actions reply, Created initial actions request reply) ∧
      ∀ initial actions reply, Created initial actions request reply →
        ∃ view order, reply.body = .order view ∧
          (server.run (Service.idleState initial) actions).store.orders.get? view.id = some order ∧
          order.customerName = none ∧ order.customerEmail = none ∧ order.customerAddress = none ∧
          order.customerPhone = none ∧ ¬ CarriesCustomer order formData := by
  refine ⟨_, CheckoutPage.submit_accepted accepted nonempty, ?_, ?_⟩
  · obtain ⟨reply, created⟩ := orderSmartphone_created
    exact ⟨freshDatabase, orderSmartphone, reply, created⟩
  · intro initial actions reply created
    obtain ⟨view, order, body, there, name, email, address, phone⟩ :=
      created_without_customer created
    exact ⟨view, order, body, there, name, email, address, phone, not_carries_null email formData⟩

/-- A form filled in completely, so that nothing in it is missing. -/
def janesForm : OrderData where
  customerInfo := ⟨"Jane", "Doe", "jane@example.com", "555-0100"⟩
  shippingAddress := ⟨"1 Main Street", "Springfield", "IL", "62701", "US"⟩
  paymentMethod := ⟨"4111111111111111", "12/30", "123", "Jane Doe"⟩

/-- A truth value is sent as its word; no value of the page gets as far as the driver. -/
def sendText : Json → String
  | .bool value => toString value
  | _ => "\x7b\x7d"

/-- Jane's order of one smartphone is submitted, and in every run that answers it 201 her
details are lost. -/
theorem jane_lost : ∃ request,
    CheckoutPage.submit sendText [⟨smartphone, 1⟩] janesForm = some request ∧
      ∀ initial actions reply, Created initial actions request reply →
        ∃ order, order ∈ (server.run (Service.idleState initial) actions).store.orders.rows ∧
          ¬ CarriesCustomer order janesForm := by
  obtain ⟨request, submitted, -, lost⟩ := customer_lost sendText [⟨smartphone, 1⟩] janesForm
    (by decide) (by decide)
  refine ⟨request, submitted, ?_⟩
  intro initial actions reply created
  obtain ⟨view, order, -, there, -, -, -, -, lost⟩ := lost initial actions reply created
  exact ⟨order, (KeyedTable.get?_sound there).1, lost⟩

set_option maxRecDepth 4000 in
/-- Jane's form is accepted, every field fits its column, and the order answered 201 is
stored with NULL for all of it. -/
theorem jane_not_carried : validateForm janesForm = true ∧
    janesForm.customerInfo.firstName.length + janesForm.customerInfo.lastName.length < 255 ∧
    janesForm.customerInfo.email.length ≤ 255 ∧ janesForm.customerInfo.phone.length ≤ 50 ∧
    CheckoutPage.submit sendText [⟨smartphone, 1⟩] janesForm =
      some (CheckoutPage.handleOrderSubmit sendText [⟨smartphone, 1⟩] janesForm) ∧
    ∃ view order,
      Created freshDatabase orderSmartphone
        (CheckoutPage.handleOrderSubmit sendText [⟨smartphone, 1⟩] janesForm) ⟨201, .order view⟩ ∧
      (server.run (Service.idleState freshDatabase) orderSmartphone).store.orders.get? view.id =
        some order ∧ ¬ CarriesCustomer order janesForm := by
  refine ⟨by decide, by decide, by decide, by decide, rfl, _, _, ⟨1, _, rfl, rfl, rfl, rfl⟩, rfl, ?_⟩
  exact not_carries_null rfl janesForm

end ShoppingCS.Client
