import ShoppingCS.Shop.Sessions

/-!
# The books of the orders

Which order rows and item rows there are, after any run, is determined by what
the tasks have inserted. An order id belongs to the one task that inserted it:
an insertion needs a free id and no order is ever deleted. A task inserts items
under its own order id only. So the items stored under an order are the items
its task inserted, however the requests interleave.
-/

namespace ShoppingCS.Shop

open Interleaving Storage Program

/-- The id of the order row an executed statement has inserted. -/
def openedBy : Event Statement Statement.Result → Option String
  | ⟨.insertOrder row, .ok _⟩ => some row.id
  | _ => none

/-- The item row that an executed statement has inserted, if it is an insertion and has
succeeded. -/
def insertedBy : Event Statement Statement.Result → Option NewOrderItem
  | ⟨.insertOrderItem row, .ok _⟩ => some row
  | _ => none

/-- The cart rows an executed statement has read for a checkout. -/
def readBy : Event Statement Statement.Result → List CheckoutRow
  | ⟨.selectCheckout _, .ok rows⟩ => rows
  | _ => []

/-- The executed statement has cleared a cart, which only a deletion of a whole cart does. -/
def clears : Event Statement Statement.Result → Bool
  | ⟨.deleteCart _, .ok _⟩ => true
  | _ => false

/-- An item as it is inserted, without the order it belongs to. -/
def NewOrderItem.view (row : NewOrderItem) : ItemView :=
  { productId := row.productId
    productName := row.productName
    productPrice := row.productPrice.val
    quantity := row.quantity.val
    subtotal := row.subtotal }

/-- The order ids that a trace has inserted, in their order. -/
def opened (trace : Trace) : List String := trace.filterMap openedBy

/-- The items that a trace has inserted, in their order. -/
def inserted (trace : Trace) : List NewOrderItem := trace.filterMap insertedBy

/-- The cart rows a trace has read for a checkout. -/
def readRows (trace : Trace) : List CheckoutRow := trace.flatMap readBy

/-- The trace has cleared a cart at some point, by a deletion that succeeded. -/
def cleared (trace : Trace) : Bool := trace.any clears

section Traces

theorem opened_append (first second : Trace) :
    opened (first ++ second) = opened first ++ opened second :=
  List.filterMap_append

theorem inserted_append (first second : Trace) :
    inserted (first ++ second) = inserted first ++ inserted second :=
  List.filterMap_append

theorem readRows_append (first second : Trace) :
    readRows (first ++ second) = readRows first ++ readRows second :=
  List.flatMap_append

theorem cleared_append (first second : Trace) :
    cleared (first ++ second) = (cleared first || cleared second) :=
  List.any_append

/-- A statement that has failed leaves no entry in the books, whatever it was. -/
theorem failed_silent (statement : Statement) (error : SqlError) :
    opened [failed statement error] = [] ∧ inserted [failed statement error] = [] ∧
      readRows [failed statement error] = [] ∧ cleared [failed statement error] = false := by
  cases statement <;> exact ⟨rfl, rfl, rfl, rfl⟩

/-- The loop over the items inserts them, in order, and does nothing else. -/
theorem itemTrace_books (nextId : Nat) (items : List (CheckoutRow × Nat)) :
    opened (itemTrace nextId items) = [] ∧
      inserted (itemTrace nextId items) = (items.map Prod.fst).map (newOrderItem nextId) ∧
      readRows (itemTrace nextId items) = [] ∧ cleared (itemTrace nextId items) = false := by
  induction items with
  | nil => exact ⟨rfl, rfl, rfl, rfl⟩
  | cons item items inductionHypothesis =>
    obtain ⟨opens, inserts, reads, clearing⟩ := inductionHypothesis
    refine ⟨opens, ?_, reads, clearing⟩
    have split : inserted (itemTrace nextId (item :: items)) =
        newOrderItem nextId item.1 :: inserted (itemTrace nextId items) := rfl
    rw [split, inserts]
    rfl

/-- Reading the order back at the end leaves no entry, so the books of a checkout are complete
before it. -/
theorem reading_silent (nextId : Nat) (later : Trace)
    (reads : ∀ event ∈ later, event.command = .selectOrder (orderIdOf nextId) ∨
      event.command = .selectOrderItems (orderIdOf nextId)) :
    opened later = [] ∧ inserted later = [] ∧ readRows later = [] ∧ cleared later = false := by
  induction later with
  | nil => exact ⟨rfl, rfl, rfl, rfl⟩
  | cons event later inductionHypothesis =>
    obtain ⟨opens, inserts, readings, clearing⟩ :=
      inductionHypothesis (fun other member => reads other (List.mem_cons_of_mem event member))
    obtain ⟨command, result⟩ := event
    have here := reads ⟨command, result⟩ List.mem_cons_self
    dsimp only at here
    rcases here with rfl | rfl
    · exact ⟨opens, inserts, readings, clearing⟩
    · exact ⟨opens, inserts, readings, clearing⟩

/-- A checkout that is refused before its first insertion has created nothing and cleared
nothing. -/
theorem preliminary_silent (sessionId : String) (trace : Trace)
    (idle : ∀ event ∈ trace, Preliminary sessionId event.command ∨
      ∃ statement error, event = failed statement error) :
    opened trace = [] ∧ inserted trace = [] ∧ cleared trace = false := by
  induction trace with
  | nil => exact ⟨rfl, rfl, rfl⟩
  | cons event trace inductionHypothesis =>
    obtain ⟨opens, inserts, clearing⟩ :=
      inductionHypothesis (fun other member => idle other (List.mem_cons_of_mem event member))
    have whole : event :: trace = [event] ++ trace := rfl
    rw [whole, opened_append, inserted_append, cleared_append, opens, inserts, clearing]
    rcases idle event List.mem_cons_self with preliminary | ⟨statement, error, rfl⟩
    · obtain ⟨command, result⟩ := event
      unfold Preliminary at preliminary
      dsimp only at preliminary
      rcases preliminary with rfl | rfl
      · exact ⟨rfl, rfl, rfl⟩
      · exact ⟨rfl, rfl, rfl⟩
    · obtain ⟨opens, inserts, -, clearing⟩ := failed_silent statement error
      simp [opens, inserts, clearing]

end Traces

/-- What a checkout has entered into the books so far: nothing, or one order
with the items of a first part of the cart it read. The cart is cleared only
after all of them. -/
inductive Entered (trace : Trace) : Prop where
  | nothing (opens : opened trace = []) (inserts : inserted trace = [])
      (keeps : cleared trace = false)
  | order (rows done left : List CheckoutRow) (nextId : Nat) (nonempty : rows ≠ [])
      (split : rows = done ++ left) (opens : opened trace = [orderIdOf nextId])
      (inserts : inserted trace = done.map (newOrderItem nextId)) (reads : readRows trace = rows)
      (clearing : cleared trace = true → left = [])

section Entries

variable {sessionId : String} {body : OrderBody} {trace : Trace} {program : Handler}

/-- The entries of a trace with an order row: the opening, the items so far, and
a silent rest that may contain the clearing of the cart. -/
theorem entered_order (sessionId : String) (rows : List CheckoutRow) (nonempty : rows ≠ [])
    (nextId : Nat) (customer : CustomerFields) (count : Nat) (done : List (CheckoutRow × Nat))
    (left : List CheckoutRow) (split : rows = done.map Prod.fst ++ left) (later : Trace)
    (opens : opened later = []) (inserts : inserted later = []) (reads : readRows later = [])
    (clearing : cleared later = true → left = []) :
    Entered (openingTrace sessionId rows nextId customer count ++ itemTrace nextId done ++ later) := by
  obtain ⟨itemOpens, itemInserts, itemReads, itemClears⟩ := itemTrace_books nextId done
  refine .order rows (done.map Prod.fst) left nextId nonempty split ?_ ?_ ?_ ?_
  · rw [opened_append, opened_append, itemOpens, opens]
    rfl
  · rw [inserted_append, inserted_append, itemInserts, inserts, List.append_nil]
    rfl
  · rw [readRows_append, readRows_append, itemReads, reads, List.append_nil, List.append_nil]
    exact List.append_nil rows
  · rw [cleared_append, cleared_append, itemClears]
    exact clearing

/-- The entries at every control point of a checkout: nothing up to the order row, then the
row and a prefix of the items. -/
theorem checkout_entered (point : CheckoutAt sessionId body trace program) : Entered trace := by
  cases point with
  | asked parsed => exact .nothing rfl rfl rfl
  | counting rows nonempty => exact .nothing rfl rfl rfl
  | ordering rows nonempty nextId customer given => exact .nothing rfl rfl rfl
  | inserting rows nonempty nextId customer given count done rest split =>
    have entered := entered_order sessionId rows nonempty nextId customer count done
      rest split [] rfl rfl rfl (fun impossible => absurd impossible (by decide))
    rwa [List.append_nil] at entered
  | abandoned rows nonempty nextId customer given count done rest split statement error =>
    obtain ⟨opens, inserts, reads, clearing⟩ := failed_silent statement error
    exact entered_order sessionId rows nonempty nextId customer count done rest split _ opens
      inserts reads
      (fun impossible => absurd impossible (by simp [clearing]))
  | cleared rows nonempty nextId customer given count done all deleted =>
    exact entered_order sessionId rows nonempty nextId customer count done [] (by simpa using all) _
      rfl rfl rfl (fun _ => rfl)
  | reread rows nonempty nextId customer given count done all deleted orders =>
    exact entered_order sessionId rows nonempty nextId customer count done [] (by simpa using all) _
      rfl rfl rfl (fun _ => rfl)
  | answered rows nonempty nextId customer given count done all deleted order orders items =>
    exact entered_order sessionId rows nonempty nextId customer count done [] (by simpa using all) _
      rfl rfl rfl (fun _ => rfl)
  | unread rows nonempty nextId customer given count done all deleted later reads fault =>
    obtain ⟨opens, inserts, readings, clearing⟩ := reading_silent nextId later reads
    exact entered_order sessionId rows nonempty nextId customer count done [] (by simpa using all) _
      opens inserts readings (fun _ => rfl)
  | refused _ reply status idle fault =>
    obtain ⟨opens, inserts, clearing⟩ := preliminary_silent sessionId trace idle
    exact .nothing opens inserts clearing

/-- A checkout about to insert its order row has not inserted one. -/
theorem checkout_insertOrder (point : CheckoutAt sessionId body trace program) {row : NewOrder}
    (pending : program.pending? = some (.insertOrder row)) :
    ∃ rows nextId customer, rows ≠ [] ∧ body = .fields customer ∧
      trace = [passed (.selectCheckout sessionId) rows, passed .selectNextId nextId] ∧
      row = newOrder nextId customer rows := by
  cases point with
  | ordering rows nonempty nextId customer given =>
    obtain rfl : newOrder nextId customer rows = row := by simpa [placeOrder] using pending
    exact ⟨rows, nextId, customer, nonempty, given, rfl, rfl⟩
  | asked parsed => simp [postOrders, parsed] at pending
  | counting rows nonempty => simp [numberOrder] at pending
  | inserting rows nonempty nextId customer given count done rest split =>
    cases rest <;> simp [insertItems, finishOrder] at pending
  | reread => simp [sendOrder] at pending
  | cleared => simp at pending
  | abandoned => simp at pending
  | answered => simp at pending
  | unread => simp at pending
  | refused => simp at pending

/-- A checkout about to insert an item has its order row, and the item is the
next one of the cart it read. -/
theorem checkout_insertItem (point : CheckoutAt sessionId body trace program) {row : NewOrderItem}
    (pending : program.pending? = some (.insertOrderItem row)) :
    ∃ rows done item left nextId, rows = done ++ item :: left ∧
      opened trace = [orderIdOf nextId] ∧ inserted trace = done.map (newOrderItem nextId) ∧
      readRows trace = rows ∧ row = newOrderItem nextId item := by
  cases point with
  | inserting rows nonempty nextId customer given count done rest split =>
    cases rest with
    | nil => simp [insertItems, finishOrder] at pending
    | cons item rest =>
      obtain rfl : newOrderItem nextId item = row := by simpa [insertItems] using pending
      obtain ⟨itemOpens, itemInserts, itemReads, -⟩ := itemTrace_books nextId done
      refine ⟨rows, done.map Prod.fst, item, rest, nextId, split, ?_, ?_, ?_, rfl⟩
      · rw [opened_append, itemOpens]
        rfl
      · rw [inserted_append, itemInserts]
        rfl
      · rw [readRows_append, itemReads, List.append_nil]
        exact List.append_nil rows
  | asked parsed => simp [postOrders, parsed] at pending
  | counting rows nonempty => simp [numberOrder] at pending
  | ordering rows nonempty nextId customer given => simp [placeOrder] at pending
  | reread => simp [sendOrder] at pending
  | cleared => simp at pending
  | abandoned => simp at pending
  | answered => simp at pending
  | unread => simp at pending
  | refused => simp at pending

/-- A checkout about to read its order back has inserted it. -/
theorem checkout_selectOrder (point : CheckoutAt sessionId body trace program) {id : String}
    (pending : program.pending? = some (.selectOrder id)) : id ∈ opened trace := by
  cases point with
  | cleared rows nonempty nextId customer given count done all deleted =>
    obtain rfl : orderIdOf nextId = id := by simpa using pending
    obtain ⟨itemOpens, -, -, -⟩ := itemTrace_books nextId done
    rw [opened_append, opened_append, itemOpens]
    exact List.mem_append_left _ (List.mem_append_left _ (.head _))
  | inserting rows nonempty nextId customer given count done rest split =>
    cases rest <;> simp [insertItems, finishOrder] at pending
  | asked parsed => simp [postOrders, parsed] at pending
  | counting rows nonempty => simp [numberOrder] at pending
  | ordering rows nonempty nextId customer given => simp [placeOrder] at pending
  | reread => simp [sendOrder] at pending
  | abandoned => simp at pending
  | answered => simp at pending
  | unread => simp at pending
  | refused => simp at pending

/-- The cart query is the first statement of a checkout. -/
theorem checkout_selectCheckout (point : CheckoutAt sessionId body trace program) {owner : String}
    (pending : program.pending? = some (.selectCheckout owner)) : trace = [] := by
  cases point with
  | asked parsed => rfl
  | inserting rows nonempty nextId customer given count done rest split =>
    cases rest <;> simp [insertItems, finishOrder] at pending
  | counting rows nonempty => simp [numberOrder] at pending
  | ordering rows nonempty nextId customer given => simp [placeOrder] at pending
  | cleared => simp at pending
  | reread => simp [sendOrder] at pending
  | abandoned => simp at pending
  | answered => simp at pending
  | unread => simp at pending
  | refused => simp at pending

/-- The statements a checkout can be waiting for, read off from its control points. -/
theorem checkout_statements (point : CheckoutAt sessionId body trace program)
    {statement : Statement} (pending : program.pending? = some statement) :
    statement = .selectCheckout sessionId ∨ statement = .selectNextId ∨
      (∃ row, statement = .insertOrder row) ∨ (∃ row, statement = .insertOrderItem row) ∨
      statement = .deleteCart sessionId ∨ (∃ id, statement = .selectOrder id) ∨
      ∃ id, statement = .selectOrderItems id := by
  cases point with
  | asked parsed =>
    have first : some (Statement.selectCheckout sessionId) = some statement := by
      simpa [postOrders, parsed] using pending
    exact Or.inl (Option.some.inj first).symm
  | counting rows nonempty => exact Or.inr (Or.inl (Option.some.inj pending).symm)
  | ordering rows nonempty nextId customer given =>
    exact Or.inr (Or.inr (Or.inl ⟨_, (Option.some.inj pending).symm⟩))
  | inserting rows nonempty nextId customer given count done rest split =>
    cases rest with
    | nil => exact Or.inr (Or.inr (Or.inr (Or.inr (Or.inl (Option.some.inj pending).symm))))
    | cons item rest => exact Or.inr (Or.inr (Or.inr (Or.inl ⟨_, (Option.some.inj pending).symm⟩)))
  | cleared =>
    exact Or.inr (Or.inr (Or.inr (Or.inr (Or.inr (Or.inl ⟨_, (Option.some.inj pending).symm⟩)))))
  | reread =>
    exact Or.inr (Or.inr (Or.inr (Or.inr (Or.inr (Or.inr ⟨_, (Option.some.inj pending).symm⟩)))))
  | abandoned => simp at pending
  | answered => simp at pending
  | unread => simp at pending
  | refused => simp at pending

/-- A checkout that has not answered waits for one of at most six statements
besides the insertions of its items. -/
theorem checkout_running (point : CheckoutAt sessionId body trace program)
    (running : ∀ reply, program ≠ .answer reply) :
    program.pending? ≠ none ∧ trace.length < 6 + (readRows trace).length := by
  have opening (rows : List CheckoutRow) (nextId : Nat) (customer : CustomerFields) (count : Nat)
      (done : List (CheckoutRow × Nat)) (later : Trace) (silent : readRows later = []) :
      (openingTrace sessionId rows nextId customer count ++ itemTrace nextId done ++ later).length =
          3 + done.length + later.length ∧
        readRows (openingTrace sessionId rows nextId customer count ++ itemTrace nextId done ++
          later) = rows := by
    refine ⟨by simp [openingTrace, itemTrace]; omega, ?_⟩
    rw [readRows_append, readRows_append, (itemTrace_books nextId done).2.2.1, silent,
      List.append_nil, List.append_nil]
    exact List.append_nil rows
  cases point with
  | asked parsed => exact ⟨by simp [postOrders, parsed], by simp only [List.length_nil]; omega⟩
  | counting rows nonempty => exact ⟨by simp [numberOrder], by simp only [List.length_cons, List.length_nil]; omega⟩
  | ordering rows nonempty nextId customer given =>
    exact ⟨by simp [placeOrder], by simp only [List.length_cons, List.length_nil]; omega⟩
  | inserting rows nonempty nextId customer given count done rest split =>
    refine ⟨by cases rest <;> simp [insertItems, finishOrder], ?_⟩
    obtain ⟨length, reads⟩ := opening rows nextId customer count done [] rfl
    rw [List.append_nil] at length reads
    have sizes : rows.length = done.length + rest.length := by simp [split]
    rw [length, reads]
    simp only [List.length_nil]
    omega
  | cleared rows nonempty nextId customer given count done all deleted =>
    refine ⟨by simp, ?_⟩
    obtain ⟨length, reads⟩ := opening rows nextId customer count done
      [passed (.deleteCart sessionId) deleted] rfl
    have sizes : rows.length = done.length := by simp [all]
    rw [length, reads]
    simp only [List.length_cons, List.length_nil]
    omega
  | reread rows nonempty nextId customer given count done all deleted orders =>
    refine ⟨by simp [sendOrder], ?_⟩
    obtain ⟨length, reads⟩ := opening rows nextId customer count done
      [passed (.deleteCart sessionId) deleted, passed (.selectOrder (orderIdOf nextId)) orders] rfl
    have sizes : rows.length = done.length := by simp [all]
    rw [length, reads]
    simp only [List.length_cons, List.length_nil]
    omega
  | abandoned => exact absurd rfl (running _)
  | answered => exact absurd rfl (running _)
  | unread => exact absurd rfl (running _)
  | refused => exact absurd rfl (running _)

/-- An answered checkout has sent the order it created and cleared the cart, has
cleared the cart and failed to read the order back, or has not cleared it. -/
theorem checkout_answered (point : CheckoutAt sessionId body trace program) {reply : Reply}
    (answer : program = .answer reply) :
    (∃ order orders items rows nextId, reply = ⟨201, .order (orderView order items)⟩ ∧
        passed (.selectOrder (orderIdOf nextId)) (order :: orders) ∈ trace ∧ rows ≠ [] ∧
        cleared trace = true ∧ opened trace = [orderIdOf nextId] ∧
        inserted trace = rows.map (newOrderItem nextId) ∧ readRows trace = rows) ∨
      (reply = invalidBody ∧
        ((∃ statement error, failed statement error ∈ trace ∧ statement.writesCart = false ∧
            statement.writesOrders = false ∧ statement.holdsNul = false) ∨
          ∃ id, passed (.selectOrder id) [] ∈ trace)) ∨
      (reply.status ≠ 201 ∧ cleared trace = false ∧
        ((∀ customer, body ≠ .fields customer) ∨ passed (.selectCheckout sessionId) [] ∈ trace ∨
          ∃ statement error, failed statement error ∈ trace)) := by
  have ended := congrArg pending? answer
  cases point with
  | asked parsed => simp [postOrders, parsed] at ended
  | counting rows nonempty => simp [numberOrder] at ended
  | ordering rows nonempty nextId customer given => simp [placeOrder] at ended
  | inserting rows nonempty nextId customer given count done rest split =>
    cases rest <;> simp [insertItems, finishOrder] at ended
  | cleared => simp at ended
  | reread => simp [sendOrder] at ended
  | abandoned rows nonempty nextId customer given count done rest split statement error =>
    obtain rfl := Program.answer.inj answer
    refine Or.inr (Or.inr ⟨by decide, ?_, Or.inr (Or.inr ⟨statement, error, by simp⟩)⟩)
    rw [cleared_append, cleared_append, (itemTrace_books nextId done).2.2.2,
      (failed_silent statement error).2.2.2]
    rfl
  | answered rows nonempty nextId customer given count done all deleted order orders items =>
    obtain rfl := Program.answer.inj answer
    obtain ⟨itemOpens, itemInserts, itemReads, itemClears⟩ := itemTrace_books nextId done
    refine Or.inl ⟨order, orders, items, rows, nextId, rfl, ?_, nonempty, ?_, ?_, ?_, ?_⟩
    · exact List.mem_append_right _ (.tail _ (.head _))
    · rw [cleared_append]
      exact Bool.or_eq_true_iff.mpr (Or.inr rfl)
    · rw [opened_append, opened_append, itemOpens]
      rfl
    · rw [inserted_append, inserted_append, itemInserts, ← all]
      exact List.append_nil _
    · rw [readRows_append, readRows_append, itemReads, List.append_nil]
      exact (List.append_nil _).trans (List.append_nil rows)
  | unread rows nonempty nextId customer given count done all deleted later reads fault =>
    obtain rfl := Program.answer.inj answer
    refine Or.inr (Or.inl ⟨rfl, ?_⟩)
    rcases fault with ⟨statement, error, recorded⟩ | recorded
    · refine Or.inl ⟨statement, error, List.mem_append_right _ (.tail _ recorded), ?_⟩
      have which := reads _ recorded
      cases which with
      | inl same =>
        obtain rfl : statement = _ := same
        exact ⟨rfl, rfl, rfl⟩
      | inr same =>
        obtain rfl : statement = _ := same
        exact ⟨rfl, rfl, rfl⟩
    · exact Or.inr ⟨_, List.mem_append_right _ (.tail _ recorded)⟩
  | refused _ other status idle fault =>
    obtain rfl := Program.answer.inj answer
    exact Or.inr (Or.inr ⟨status, (preliminary_silent sessionId trace idle).2.2, fault⟩)

end Entries

namespace Database

/-- A statement adds the order row it reports, under a free id, or leaves the
orders as they are. -/
theorem execute_orders (statement : Statement) (choice : Choice) (database : Database) :
    (∃ stored, openedBy ⟨statement, (execute statement choice database).1⟩ = some stored.id ∧
        database.orders.insert? stored = some (execute statement choice database).2.orders) ∨
      (openedBy ⟨statement, (execute statement choice database).1⟩ = none ∧
        (execute statement choice database).2.orders = database.orders) := by
  by_cases inserts : ∃ row, statement = .insertOrder row
  · obtain ⟨row, rfl⟩ := inserts
    by_cases failing : choice.fails = true
    · rw [execute_fails _ choice database failing]
      exact Or.inr ⟨rfl, rfl⟩
    · have executed : execute (.insertOrder row) choice database =
          database.insertOrder row choice.now := execute_works (Bool.eq_false_iff.mpr failing) rfl _
      rw [executed]
      rcases database.insertOrder_cases row choice.now with
        ⟨⟨error, same⟩, -⟩ | ⟨stored, next, fits, inserted, same⟩
      · rw [same]
        exact Or.inr ⟨rfl, rfl⟩
      · rw [same]
        refine Or.inl ⟨stored, ?_, (insertOrder?_eq_some inserted).1⟩
        rw [(orderRow?_eq_some fits).1]
        rfl
  · have other : ∀ row, statement ≠ .insertOrder row := fun row same => inserts ⟨row, same⟩
    refine Or.inr ⟨?_, (execute_tables statement choice database).2.1 other⟩
    cases statement with
    | insertOrder row => exact absurd rfl (other row)
    | _ => rfl

/-- No statement deletes an order, so one that is there stays there. -/
theorem execute_keeps_order (statement : Statement) (choice : Choice) {database : Database}
    {id : String} (there : database.orders.get? id ≠ none) :
    (execute statement choice database).2.orders.get? id ≠ none := by
  rcases execute_orders statement choice database with ⟨stored, -, accepted⟩ | ⟨-, same⟩
  · rw [KeyedTable.get?_insert accepted]
    split
    · simp
    · exact there
  · rw [same]
    exact there

/-- An order is inserted under a free id, and is there afterwards. -/
theorem execute_opens {statement : Statement} {choice : Choice} {database : Database} {id : String}
    (entry : openedBy ⟨statement, (execute statement choice database).1⟩ = some id) :
    database.orders.get? id = none ∧ (execute statement choice database).2.orders.get? id ≠ none := by
  rcases execute_orders statement choice database with ⟨stored, opens, accepted⟩ | ⟨none, -⟩
  · obtain rfl : stored.id = id := Option.some.inj (opens.symm.trans entry)
    refine ⟨(KeyedTable.insert?_eq_some.mp accepted).1, ?_⟩
    rw [KeyedTable.get?_insert accepted, if_pos rfl]
    simp
  · exact absurd (none.symm.trans entry) (by simp)

/-- A statement appends the item row it reports, or leaves the items as they are. -/
theorem execute_orderItems (statement : Statement) (choice : Choice) (database : Database) :
    (∃ (row : NewOrderItem) (item : OrderItem),
        insertedBy ⟨statement, (execute statement choice database).1⟩ = some row ∧
        item.orderId = row.orderId ∧ itemView item = row.view ∧
        (execute statement choice database).2.orderItems = database.orderItems ++ [item]) ∨
      (insertedBy ⟨statement, (execute statement choice database).1⟩ = none ∧
        (execute statement choice database).2.orderItems = database.orderItems) := by
  by_cases inserts : ∃ row, statement = .insertOrderItem row
  · obtain ⟨row, rfl⟩ := inserts
    by_cases failing : choice.fails = true
    · rw [execute_fails _ choice database failing]
      exact Or.inr ⟨rfl, rfl⟩
    · have executed : execute (.insertOrderItem row) choice database =
          database.insertOrderItem row := execute_works (Bool.eq_false_iff.mpr failing) rfl _
      rw [executed]
      rcases database.insertOrderItem_cases row with
        ⟨error, same⟩ | ⟨item, next, order, product, name, price, quantity, subtotal, inserted, same⟩
      · rw [same]
        exact Or.inr ⟨rfl, rfl⟩
      · rw [same]
        refine Or.inl ⟨row, item, rfl, order, ?_, (insertItem?_eq_some inserted).1⟩
        simp [itemView, NewOrderItem.view, product, name, price, quantity, subtotal]
  · have other : ∀ row, statement ≠ .insertOrderItem row := fun row same => inserts ⟨row, same⟩
    refine Or.inr ⟨?_, (execute_tables statement choice database).2.2.1 other⟩
    cases statement with
    | insertOrderItem row => exact absurd rfl (other row)
    | _ => rfl

/-- The quantity of a product stored in the items of an order. -/
def orderedQuantity (database : Database) (orderId productId : String) : Int :=
  total (fun item : OrderItem =>
    if item.orderId = orderId ∧ item.productId = productId then item.quantity.val else 0)
    database.orderItems

/-- The items of an id that no order has add up to nothing, since item rows refer to order
rows. -/
theorem orderedQuantity_of_free (database : Database) (orderId productId : String)
    (free : database.orders.get? orderId = none) :
    database.orderedQuantity orderId productId = 0 := by
  have nothing : database.orderedQuantity orderId productId =
      total (fun _ : OrderItem => 0) database.orderItems := by
    refine total_congr _ database.orderItems (fun item member => ?_)
    have ordered := database.itemOrders item member
    have different : item.orderId ≠ orderId := by
      rintro rfl
      simp [free] at ordered
    exact if_neg (fun both => different both.1)
  rw [nothing]
  simp [total]

end Database

/-- The quantity of a product that a trace has inserted under an order. -/
def insertedQuantity (orderId productId : String) (trace : Trace) : Int :=
  total (fun row : NewOrderItem =>
    if row.orderId = orderId ∧ row.productId = productId then row.quantity.val else 0)
    (inserted trace)

/-- What a run has entered into the order tables of an initial database. -/
structure Books (initial : Database) (state : ShopState) : Prop where
  /-- No order that was there at the beginning is ever deleted. -/
  kept : ∀ id, initial.orders.get? id ≠ none → state.store.orders.get? id ≠ none
  /-- An order row a task has inserted is new and still there. -/
  stored : ∀ task ∈ state.tasks, ∀ id ∈ opened task.trace,
    state.store.orders.get? id ≠ none ∧ initial.orders.get? id = none
  /-- No two tasks have inserted an order under the same id. -/
  owned : ∀ (i j : Nat) (first second : ShopTask), state.tasks[i]? = some first →
    state.tasks[j]? = some second →
    ∀ id, id ∈ opened first.trace → id ∈ opened second.trace → i = j
  /-- Every item was there before or was inserted by a task. -/
  sourced : ∀ item ∈ state.store.orderItems, item ∈ initial.orderItems ∨
    ∃ task ∈ state.tasks, ∃ row ∈ inserted task.trace,
      row.orderId = item.orderId ∧ row.productId = item.productId

/-- An executed statement adds at most its own order id to those of the trace. -/
theorem opened_advance (task : ShopTask) (command : Statement)
    (resume : command.Result → Handler) (result : command.Result) :
    opened (task.advance command resume result).trace =
      opened task.trace ++ (openedBy ⟨command, result⟩).toList := by
  rw [Task.advance_trace, opened_append]
  congr 1

/-- An executed statement adds at most its own item row to those of the trace. -/
theorem inserted_advance (task : ShopTask) (command : Statement)
    (resume : command.Result → Handler) (result : command.Result) :
    inserted (task.advance command resume result).trace =
      inserted task.trace ++ (insertedBy ⟨command, result⟩).toList := by
  rw [Task.advance_trace, inserted_append]
  congr 1

/-- A task that writes orders is a checkout at one of its control points. -/
theorem checkout_of_writesOrders {state : ShopState} (traced : server.Traced state)
    {task : ShopTask} (member : task ∈ state.tasks) {command : Statement}
    {resume : command.Result → Handler} (pending : task.program = .call command resume)
    (writes : command.writesOrders = true) :
    ∃ body, CheckoutAt (sessionOf task) body task.trace task.program := by
  have checkout := (pending_serves traced member pending).orders writes
  have follows := traced task member
  cases asked : task.request.operation with
  | postOrders body =>
    refine ⟨body, checkout_at ?_⟩
    simpa [server, handle, asked, sessionOf] using follows
  | _ => simp [asked, Operation.isCheckout] at checkout

/-- An item is only inserted under the one order of its own task. -/
theorem insertedBy_opened {state : ShopState} (traced : server.Traced state)
    {task : ShopTask} (member : task ∈ state.tasks) {command : Statement}
    {resume : command.Result → Handler} (pending : task.program = .call command resume)
    {result : command.Result} {row : NewOrderItem}
    (entry : insertedBy ⟨command, result⟩ = some row) : opened task.trace = [row.orderId] := by
  unfold insertedBy at entry
  split at entry
  · rename_i other rows same
    obtain ⟨rfl, -⟩ := Event.mk.inj same
    obtain rfl : other = row := Option.some.inj entry
    obtain ⟨body, point⟩ := checkout_of_writesOrders traced member pending rfl
    have waits : task.program.pending? = some (.insertOrderItem other) := by
      rw [pending]
      rfl
    obtain ⟨rows, done, item, left, nextId, -, opens, -, -, rfl⟩ := checkout_insertItem point waits
    exact opens
  · simp at entry

/-- A task about to insert its order has inserted no item. -/
theorem openedBy_inserted {state : ShopState} (traced : server.Traced state)
    {task : ShopTask} (member : task ∈ state.tasks) {command : Statement}
    {resume : command.Result → Handler} (pending : task.program = .call command resume)
    {result : command.Result} {id : String} (entry : openedBy ⟨command, result⟩ = some id) :
    inserted task.trace = [] ∧ insertedBy ⟨command, result⟩ = none := by
  unfold openedBy at entry
  split at entry
  · rename_i row rows same
    obtain ⟨rfl, -⟩ := Event.mk.inj same
    obtain ⟨body, point⟩ := checkout_of_writesOrders traced member pending rfl
    have waits : task.program.pending? = some (.insertOrder row) := by
      rw [pending]
      rfl
    obtain ⟨rows, nextId, customer, -, -, trace, -⟩ := checkout_insertOrder point waits
    rw [trace]
    exact ⟨rfl, rfl⟩
  · simp at entry

/-- At the beginning of a run there are no tasks, so the books have nothing to say of them. -/
theorem books_initially (initial : Database) : Books initial (Service.idleState initial) where
  kept := fun id present => present
  stored := by
    intro task member
    exact absurd member (by simp)
  owned := by
    intro i j first second present
    exact absurd present (by simp)
  sourced := fun item member => Or.inl member

/-- A task that has only been accepted has entered nothing. -/
theorem books_started {initial : Database} {state : ShopState} (books : Books initial state)
    (request : Request) :
    Books initial { store := state.store, tasks := state.tasks ++ [server.accept request] } := by
  have known (position : Nat) (task : ShopTask)
      (present : (state.tasks ++ [server.accept request])[position]? = some task)
      (id : String) (entry : id ∈ opened task.trace) : state.tasks[position]? = some task := by
    rw [List.getElem?_append] at present
    split at present
    · exact present
    · obtain rfl := List.mem_singleton.mp (List.mem_of_getElem? present)
      exact absurd entry (by simp [Service.accept, opened])
  refine ⟨books.kept, ?_, ?_, ?_⟩
  · intro task member id entry
    obtain ⟨position, present⟩ := List.mem_iff_getElem?.mp member
    exact books.stored task (List.mem_of_getElem? (known position task present id entry)) id entry
  · intro i j first second foundFirst foundSecond id inFirst inSecond
    exact books.owned i j first second (known i first foundFirst id inFirst)
      (known j second foundSecond id inSecond) id inFirst inSecond
  · intro item stored
    rcases books.sourced item stored with old | ⟨task, member, source⟩
    · exact Or.inl old
    · exact Or.inr ⟨task, List.mem_append_left _ member, source⟩

section Execute

variable {initial : Database} {state : ShopState} {index : Nat} {choice : Choice} {task : ShopTask}
  {command : Statement} {resume : command.Result → Handler}

/-- An order a task has inserted by now is new and there. -/
theorem books_stored (books : Books initial state) (present : state.tasks[index]? = some task)
    {other : ShopTask}
    (member : other ∈ state.tasks.set index
      (task.advance command resume (execute command choice state.store).1))
    {id : String} (entry : id ∈ opened other.trace) :
    (execute command choice state.store).2.orders.get? id ≠ none ∧
      initial.orders.get? id = none := by
  have earlier (before : ShopTask) (old : before ∈ state.tasks) (opens : id ∈ opened before.trace) :
      (execute command choice state.store).2.orders.get? id ≠ none ∧
        initial.orders.get? id = none := by
    obtain ⟨there, new⟩ := books.stored before old id opens
    exact ⟨Database.execute_keeps_order command choice there, new⟩
  rcases List.mem_or_eq_of_mem_set member with old | rfl
  · exact earlier other old entry
  · rw [opened_advance] at entry
    cases List.mem_append.mp entry with
    | inl before => exact earlier task (List.mem_of_getElem? present) before
    | inr now =>
      obtain ⟨free, there⟩ := Database.execute_opens (by simpa using now)
      refine ⟨there, ?_⟩
      by_contra old
      exact books.kept id old free

/-- An order that is inserted now belongs to no other task, because its id was not taken
before. -/
theorem books_owned (books : Books initial state) (present : state.tasks[index]? = some task)
    {i j : Nat} {first second : ShopTask}
    (foundFirst : (state.tasks.set index
      (task.advance command resume (execute command choice state.store).1))[i]? = some first)
    (foundSecond : (state.tasks.set index
      (task.advance command resume (execute command choice state.store).1))[j]? = some second)
    {id : String} (inFirst : id ∈ opened first.trace) (inSecond : id ∈ opened second.trace) :
    i = j := by
  have against (k : Nat) (other : ShopTask) (old : state.tasks[k]? = some other)
      (inOther : id ∈ opened other.trace)
      (inAdvanced : id ∈ opened (task.advance command resume
        (execute command choice state.store).1).trace) : index = k := by
    rw [opened_advance] at inAdvanced
    cases List.mem_append.mp inAdvanced with
    | inl before => exact books.owned index k task other present old id before inOther
    | inr now =>
      obtain ⟨free, -⟩ := Database.execute_opens (by simpa using now)
      exact absurd free (books.stored other (List.mem_of_getElem? old) id inOther).1
  rcases set_lookup foundFirst with ⟨rfl, rfl⟩ | ⟨-, oldFirst⟩
  · rcases set_lookup foundSecond with ⟨rfl, -⟩ | ⟨-, oldSecond⟩
    · rfl
    · exact against j second oldSecond inSecond inFirst
  · rcases set_lookup foundSecond with ⟨rfl, rfl⟩ | ⟨-, oldSecond⟩
    · exact (against i first oldFirst inFirst inSecond).symm
    · exact books.owned i j first second oldFirst oldSecond id inFirst inSecond

/-- An item inserted now has its task as its source. -/
theorem books_sourced (books : Books initial state) (present : state.tasks[index]? = some task)
    {item : OrderItem} (stored : item ∈ (execute command choice state.store).2.orderItems) :
    item ∈ initial.orderItems ∨
      ∃ other ∈ state.tasks.set index
        (task.advance command resume (execute command choice state.store).1),
        ∃ row ∈ inserted other.trace, row.orderId = item.orderId ∧ row.productId = item.productId := by
  have inside := (List.getElem?_eq_some_iff.mp present).1
  have moved (old : item ∈ state.store.orderItems) : item ∈ initial.orderItems ∨
      ∃ other ∈ state.tasks.set index
        (task.advance command resume (execute command choice state.store).1),
        ∃ row ∈ inserted other.trace, row.orderId = item.orderId ∧ row.productId = item.productId := by
    rcases books.sourced item old with initially | ⟨other, member, row, entry, same⟩
    · exact Or.inl initially
    · obtain ⟨position, located⟩ := List.mem_iff_getElem?.mp member
      by_cases here : position = index
      · subst here
        obtain rfl : other = task := Option.some.inj (located.symm.trans present)
        refine Or.inr ⟨_, List.mem_set inside _, row, ?_, same⟩
        rw [inserted_advance]
        exact List.mem_append_left _ entry
      · refine Or.inr ⟨other, List.mem_of_getElem? (i := position) ?_, row, entry, same⟩
        rw [List.getElem?_set_ne (fun equal => here equal.symm)]
        exact located
  rcases Database.execute_orderItems command choice state.store with
    ⟨row, new, entry, order, view, appended⟩ | ⟨-, same⟩
  · rw [appended] at stored
    cases List.mem_append.mp stored with
    | inl old => exact moved old
    | inr now =>
      obtain rfl := List.mem_singleton.mp now
      have product : item.productId = row.productId := congrArg ItemView.productId view
      refine Or.inr ⟨_, List.mem_set inside _, row, ?_, order.symm, product.symm⟩
      rw [inserted_advance]
      simp [entry]
  · rw [same] at stored
    exact moved stored

end Execute

/-- Every step keeps the books, by what one statement can add to orders and items. -/
theorem step_books (initial : Database) (state : ShopState) (action : Action Request Choice)
    (books : Books initial state) : Books initial (server.step state action) := by
  generalize after : server.step state action = next
  have transition : server.Transition state action next := after ▸ server.step_transition state action
  cases transition with
  | started request => exact books_started books request
  | idle index choice nothing => exact books
  | proceeded index choice task command resume present pending =>
    refine ⟨?_, ?_, ?_, ?_⟩
    · exact fun id there => Database.execute_keeps_order command choice (books.kept id there)
    · exact fun other member id entry => books_stored books present member entry
    · exact fun i j first second foundFirst foundSecond id inFirst inSecond =>
        books_owned books present foundFirst foundSecond inFirst inSecond
    · exact fun item stored => books_sourced books present stored

/-- The books are kept through every run, by induction on the actions. -/
theorem run_books (initial : Database) (actions : List (Action Request Choice)) :
    Books initial (server.run (Service.idleState initial) actions) :=
  server.run_always (Books initial) (step_books initial) _ actions (books_initially initial)

/-- The items stored under an order, without their order id. -/
def Database.orderedItems (database : Database) (orderId : String) : List ItemView :=
  (database.orderItems.filter (fun item => decide (item.orderId = orderId))).map itemView

/-- An id that no order has leads to an empty list of items, by the reference of the rows. -/
theorem Database.orderedItems_of_free {database : Database} {orderId : String}
    (free : database.orders.get? orderId = none) : database.orderedItems orderId = [] := by
  unfold orderedItems
  rw [List.map_eq_nil_iff, List.filter_eq_nil_iff]
  intro item member
  have ordered := database.itemOrders item member
  simp only [decide_eq_true_eq]
  rintro rfl
  simp [free] at ordered

/-- The items under an order grow by the item inserted under it. -/
theorem Database.execute_orderedItems (statement : Statement) (choice : Choice)
    (database : Database) (orderId : String) :
    (execute statement choice database).2.orderedItems orderId =
      database.orderedItems orderId ++
        ((insertedBy ⟨statement, (execute statement choice database).1⟩).toList.filter
          (fun row => decide (row.orderId = orderId))).map NewOrderItem.view := by
  rcases execute_orderItems statement choice database with
    ⟨row, item, entry, order, view, appended⟩ | ⟨entry, same⟩
  · simp only [orderedItems, appended, entry, List.filter_append, List.map_append,
      Option.toList_some]
    by_cases under : row.orderId = orderId
    · simp [order, under, view]
    · simp [order, under]
  · simp [orderedItems, same, entry]

/-- The items under every order a task has inserted are those of its trace. -/
def ItemsEntered (state : ShopState) : Prop :=
  ∀ task ∈ state.tasks, ∀ id ∈ opened task.trace,
    state.store.orderedItems id = (inserted task.trace).map NewOrderItem.view

/-- The executed statement adds an item to the order of its own task only. -/
theorem itemsEntered_execute {initial : Database} {state : ShopState} {index : Nat}
    {choice : Choice} {task other : ShopTask} {command : Statement}
    {resume : command.Result → Handler} (traced : server.Traced state)
    (books : Books initial state) (entered : ItemsEntered state)
    (present : state.tasks[index]? = some task) (pending : task.program = .call command resume)
    (member : other ∈ state.tasks.set index
      (task.advance command resume (execute command choice state.store).1))
    {id : String} (opens : id ∈ opened other.trace) :
    (execute command choice state.store).2.orderedItems id =
      (inserted other.trace).map NewOrderItem.view := by
  have own := List.mem_of_getElem? present
  obtain ⟨position, located⟩ := List.mem_iff_getElem?.mp member
  rw [Database.execute_orderedItems]
  rcases set_lookup located with ⟨rfl, rfl⟩ | ⟨different, old⟩
  · rw [inserted_advance, List.map_append]
    rw [opened_advance] at opens
    cases List.mem_append.mp opens with
    | inl earlier =>
      rw [entered task own id earlier]
      cases entry : insertedBy ⟨command, (execute command choice state.store).1⟩ with
      | none => simp
      | some row =>
        have one := insertedBy_opened traced own pending entry
        obtain rfl : id = row.orderId := by simpa [one] using earlier
        simp
    | inr now =>
      have entry : openedBy ⟨command, (execute command choice state.store).1⟩ = some id := by
        simpa using now
      obtain ⟨none, silent⟩ := openedBy_inserted traced own pending entry
      rw [Database.orderedItems_of_free (Database.execute_opens entry).1, none, silent]
      rfl
  · rw [entered other (List.mem_of_getElem? old) id opens]
    cases entry : insertedBy ⟨command, (execute command choice state.store).1⟩ with
    | none => simp
    | some row =>
      have one := insertedBy_opened traced own pending entry
      have foreign : row.orderId ≠ id := by
        rintro rfl
        exact different (books.owned position index other task old present _ opens (by simp [one]))
      simp [foreign]

/-- Every step keeps the items with the tasks that have inserted them, in the order of the
insertions. -/
theorem step_itemsEntered {initial : Database} {state : ShopState} (action : Action Request Choice)
    (traced : server.Traced state) (books : Books initial state) (entered : ItemsEntered state) :
    ItemsEntered (server.step state action) := by
  generalize after : server.step state action = next
  have transition : server.Transition state action next := after ▸ server.step_transition state action
  cases transition with
  | started request =>
    intro task member id opens
    cases List.mem_append.mp member with
    | inl member => exact entered task member id opens
    | inr member =>
      obtain rfl := List.mem_singleton.mp member
      exact absurd opens (by simp [Service.accept, opened])
  | idle index choice nothing => exact entered
  | proceeded index choice task command resume present pending =>
    exact fun other member id opens =>
      itemsEntered_execute traced books entered present pending member opens

/-- After every run the items under an order are those its task has inserted. -/
theorem run_itemsEntered (initial : Database) (actions : List (Action Request Choice)) :
    ItemsEntered (server.run (Service.idleState initial) actions) := by
  have kept := server.run_always
    (fun state => (server.Traced state ∧ Books initial state) ∧ ItemsEntered state)
    (fun state action holds => ⟨⟨server.step_traced state action holds.1.1,
      step_books initial state action holds.1.2⟩,
        step_itemsEntered action holds.1.1 holds.1.2 holds.2⟩)
    (Service.idleState initial) actions
    ⟨⟨server.idleState_traced initial, books_initially initial⟩,
      fun task member => absurd member (by simp)⟩
  exact kept.2

/-- The items stored under an order grow by what the tasks insert under it. -/
theorem run_orderedQuantity (initial : Database) (actions : List (Action Request Choice))
    (orderId productId : String) :
    (server.run (Service.idleState initial) actions).store.orderedQuantity orderId productId -
        total (fun task : ShopTask => insertedQuantity orderId productId task.trace)
          (server.run (Service.idleState initial) actions).tasks =
      initial.orderedQuantity orderId productId := by
  have balanced := server.run_balanced
    (fun store => store.orderedQuantity orderId productId)
    (fun task : ShopTask => insertedQuantity orderId productId task.trace)
    (fun request => rfl) ?_
    (Service.idleState initial) actions (server.along_of_forall _ _ (fun _ _ => trivial))
  · simpa using balanced
  · intro state index choice task command resume _ present pending
    have advanced : insertedQuantity orderId productId
        (task.advance command resume (server.perform command choice state.store).1).trace =
        insertedQuantity orderId productId task.trace +
          total (fun row : NewOrderItem =>
            if row.orderId = orderId ∧ row.productId = productId then row.quantity.val else 0)
            (insertedBy ⟨command, (server.perform command choice state.store).1⟩).toList := by
      unfold insertedQuantity
      rw [inserted_advance, total_append]
    rw [advanced]
    rcases Database.execute_orderItems command choice state.store with
      ⟨row, item, entry, order, view, appended⟩ | ⟨entry, same⟩
    · have entered : insertedBy ⟨command, (server.perform command choice state.store).1⟩ =
          some row := entry
      have contents : (server.perform command choice state.store).2.orderItems =
          state.store.orderItems ++ [item] := appended
      have product : item.productId = row.productId := congrArg ItemView.productId view
      have quantity : item.quantity.val = row.quantity.val := congrArg ItemView.quantity view
      simp only [Database.orderedQuantity, contents, total_append, entered, Option.toList_some,
        total_cons, total_nil, order, product, quantity]
      omega
    · have entered : insertedBy ⟨command, (server.perform command choice state.store).1⟩ =
          none := entry
      have contents : (server.perform command choice state.store).2.orderItems =
          state.store.orderItems := same
      simp only [Database.orderedQuantity, contents, entered, Option.toList_none, total_nil]
      omega

/-- The items of a trace are all inserted under an order of that trace. -/
theorem inserted_opened {state : ShopState} (traced : server.Traced state) {task : ShopTask}
    (member : task ∈ state.tasks) {row : NewOrderItem} (entry : row ∈ inserted task.trace) :
    row.orderId ∈ opened task.trace := by
  have follows := traced task member
  have allowed := ((issues_handle task.request).follows follows).1
  obtain ⟨event, executed, enters⟩ := List.mem_filterMap.mp entry
  have checkout : task.request.operation.isCheckout = true := by
    refine (allowed event executed).orders ?_
    unfold insertedBy at enters
    split at enters
    · rfl
    · simp at enters
  cases asked : task.request.operation with
  | postOrders body =>
    have point : CheckoutAt (sessionOf task) body task.trace task.program :=
      checkout_at (by simpa [server, handle, asked, sessionOf] using follows)
    cases checkout_entered point with
    | nothing opens inserts keeps => simp [inserts] at entry
    | order rows done left nextId nonempty split opens inserts reads clearing =>
      rw [inserts] at entry
      obtain ⟨item, -, rfl⟩ := List.mem_map.mp entry
      simp [opens, newOrderItem]
  | _ => simp [asked, Operation.isCheckout] at checkout

/-- The items stored under an order a task has inserted are those of its trace. -/
theorem run_orderedBy (initial : Database) (actions : List (Action Request Choice))
    {task : ShopTask} (member : task ∈ (server.run (Service.idleState initial) actions).tasks)
    {orderId : String} (entry : orderId ∈ opened task.trace) (productId : String) :
    (server.run (Service.idleState initial) actions).store.orderedQuantity orderId productId =
      insertedQuantity orderId productId task.trace := by
  have books := run_books initial actions
  have traced := server.run_traced _ actions (server.idleState_traced initial)
  have balanced := run_orderedQuantity initial actions orderId productId
  have before := initial.orderedQuantity_of_free orderId productId
    (books.stored task member orderId entry).2
  obtain ⟨index, present⟩ := List.mem_iff_getElem?.mp member
  have own := total_single
    (fun task : ShopTask => insertedQuantity orderId productId task.trace) _ index task present (by
      intro position other found different
      have foreign : ∀ row ∈ inserted other.trace, row.orderId ≠ orderId := by
        rintro row inOther rfl
        have opens := inserted_opened traced (List.mem_of_getElem? found) inOther
        exact different (books.owned position index other task found present _ opens entry)
      have silent : insertedQuantity orderId productId other.trace =
          total (fun _ : NewOrderItem => 0) (inserted other.trace) :=
        total_congr _ _ (fun row inOther => if_neg (fun both => foreign row inOther both.1))
      have zero : total (fun _ : NewOrderItem => 0) (inserted other.trace) = 0 := by simp [total]
      exact silent.trans zero)
  omega

end ShoppingCS.Shop
