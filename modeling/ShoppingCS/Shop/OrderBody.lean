import ShoppingCS.Shop.OrderSnapshot

/-!
# The body of an order

What the handler takes from the parsed body of `POST /api/orders`: four members of
the top level, each `|| null`. It asks for nothing else and rejects nothing, so a
body without them is as good as one with them. Whatever it has taken is in the
order row once the answer is 201.
-/

namespace ShoppingCS.Shop

open Interleaving Storage Program

/-- What `JSON.parse` makes of a text. The names of an object are distinct. -/
inductive Json where
  | null
  | bool (value : Bool)
  | number (value : Rat)
  | string (text : String)
  | array (elements : List Json)
  | object (members : List (String × Json))

namespace Json

/-- Reading a property; `none` is `undefined`. None of the names the handlers read is
a property of the other values. -/
def get? : Json → String → Option Json
  | .object members, name => members.lookup name
  | _, _ => none

/-- A value counts as true in a condition, as JavaScript has it: empty texts, zero, false and
null do not. -/
def truthy : Json → Bool
  | .null => false
  | .bool value => value
  | .number value => decide (value ≠ 0)
  | .string text => decide (text ≠ "")
  | .array _ => true
  | .object _ => true

/-- The text the driver sends for a value that is not null; it has its own rule,
`prepareValue`, for all that is not a string. -/
def parameter (prepareValue : Json → String) : Json → String
  | .string text => text
  | value => prepareValue value

/-- `value || null`, as a query parameter. What is not true in a condition becomes NULL. -/
def orNull (prepareValue : Json → String) : Option Json → Option String
  | none => none
  | some value => if value.truthy then some (value.parameter prepareValue) else none

end Json

/-- `orderData.customerName || null` and its three siblings, which read four members and
ignore the rest. -/
def OrderBody.ofJson (prepareValue : Json → String) : Json → OrderBody
  | .null => .null
  | orderData =>
    .fields
      { customerName := Json.orNull prepareValue (orderData.get? "customerName")
        customerEmail := Json.orNull prepareValue (orderData.get? "customerEmail")
        customerAddress := Json.orNull prepareValue (orderData.get? "customerAddress")
        customerPhone := Json.orNull prepareValue (orderData.get? "customerPhone") }

/-- The customer of a stored order is the one of its parameters, as the columns take
it. -/
theorem orderRow?_customer {row : NewOrder} {now : Nat} {stored : Order}
    (fits : Database.orderRow? row now = some stored) :
    nullable 255 row.customerName = some stored.customerName ∧
      nullable 255 row.customerEmail = some stored.customerEmail ∧
      stored.customerAddress = row.customerAddress ∧
      nullable 50 row.customerPhone = some stored.customerPhone := by
  unfold Database.orderRow? at fits
  simp only [Option.bind_eq_bind, Option.pure_def, Option.bind_eq_some_iff] at fits
  obtain ⟨name, nameFits, email, emailFits, address, addressFits, phone, phoneFits, total, -,
    same⟩ := fits
  obtain rfl := Option.some.inj same
  exact ⟨nameFits, emailFits, nullableText_eq_some addressFits, phoneFits⟩

/-- In every run the order of an answer 201 is stored with the customer fields of the
request. -/
theorem created_order_customer {initial : Database} {actions : List (Action Request Choice)}
    {index : Nat} {task : ShopTask} {customer : CustomerFields}
    (present : (server.run (Service.idleState initial) actions).tasks[index]? = some task)
    (asked : task.request.operation = .postOrders (.fields customer)) {reply : Reply}
    (answered : task.answer? = some reply) (created : reply.status = 201) :
    ∃ view stored, reply.body = .order view ∧
      (server.run (Service.idleState initial) actions).store.orders.get? view.id = some stored ∧
      nullable 255 customer.customerName = some stored.customerName ∧
      nullable 255 customer.customerEmail = some stored.customerEmail ∧
      stored.customerAddress = customer.customerAddress ∧
      nullable 50 customer.customerPhone = some stored.customerPhone := by
  have documented := run_documented initial actions
  have member := List.mem_of_getElem? present
  obtain ⟨rows, nextId, picked, count, done, deleted, order, others, items, -, given, all, rfl,
    trace⟩ := checkout_created (task_checkout documented.traced member asked)
      ((task.answer_some reply).mp answered) created
  obtain rfl : customer = picked := OrderBody.fields.inj given
  have total := reread_order (sessionOf task) present all
    (trace.trans (List.append_assoc _ [_] _).symm)
  have recorded : passed (.insertOrder (newOrder nextId customer rows)) count ∈ task.trace := by
    simp [trace, openingTrace]
  obtain ⟨stored, now, fits, there⟩ := documented.records.placed task member _ count recorded
  have named : (orderView order items).id = (newOrder nextId customer rows).id := total.1
  exact ⟨orderView order items, stored, rfl, named ▸ there, orderRow?_customer fits⟩

end ShoppingCS.Shop
