import ShoppingCS.Shop.Listings
import ShoppingCS.Shop.PositiveQuantities

/-!
# Products that are offered

The server adds to a cart whatever product a POST names, in stock or not. So what is in the
carts and in the orders is what the clients have offered: as long as every POST names one of
some products, no cart, no order and no answer has any other.
-/

namespace ShoppingCS.Shop

open Interleaving Storage Program

/-- A POST adds one of the offered products. The other requests add none, so nothing is asked
of them. -/
def AddsOffered (offered : String → Prop) : Action Request Choice → Prop
  | .start ⟨_, .postCart (some ⟨some productId, _⟩)⟩ => offered productId
  | _ => True

/-- The statement adds an offered product, if it is one of the two that add. -/
def Statement.AddsOffered (offered : String → Prop) : Statement → Prop
  | .increaseQuantity _ (some productId) _ => offered productId
  | .insertCartItem (some productId) _ _ => offered productId
  | _ => True

/-- The lines of carts and orders are of offered products. -/
structure Database.Sells (offered : String → Prop) (database : Database) : Prop where
  carts : ∀ row ∈ database.cartItems.rows, offered row.productId
  items : ∀ item ∈ database.orderItems, offered item.productId

section Statements

variable {offered : String → Prop}

/-- What a statement of this kind is reported to have added is offered. -/
theorem written_add_offered {statement : Statement} {result : statement.Result}
    (adds : statement.AddsOffered offered) {owner productId : String} {quantity : Int}
    (performs : written statement result = some (owner, .add productId quantity)) :
    offered productId := by
  cases written_writesAs performs with
  | increase => exact adds
  | insert => exact adds

/-- A statement that writes no cart adds nothing, so the condition is met. -/
theorem addsOffered_of_reads {statement : Statement} (reads : statement.writesCart = false) :
    statement.AddsOffered offered := by
  cases statement with
  | increaseQuantity quantity productId sessionId => simp at reads
  | insertCartItem productId quantity sessionId => simp at reads
  | _ => trivial

/-- So a request adds an offered product or nothing, with each of the statements it issues. -/
theorem issues_addsOffered (request : Request) (adds : Shop.AddsOffered offered (.start request)) :
    (handle request).Issues (Statement.AddsOffered offered) := by
  apply issues_of_writes request (fun _ => addsOffered_of_reads) (fun _ _ => trivial)
    (fun _ => trivial) ?_ (fun _ _ _ _ => trivial)
  intro body sessionId asked
  obtain ⟨header, operation⟩ := request
  obtain ⟨productId, quantity⟩ := body
  obtain rfl : operation = .postCart (some ⟨productId, quantity⟩) := asked
  cases productId with
  | none => exact ⟨trivial, trivial⟩
  | some productId => exact ⟨adds, adds⟩

/-- The rows of the cart table are the lines of the carts. -/
theorem carts_offered_iff {database : Database} :
    (∀ row ∈ database.cartItems.rows, offered row.productId) ↔
      ∀ sessionId productId, database.cart sessionId productId ≠ none → offered productId := by
  constructor
  · intro rows sessionId productId listed
    obtain ⟨quantity, found⟩ := Option.ne_none_iff_exists'.mp listed
    obtain ⟨row, present, -⟩ := Option.map_eq_some_iff.mp found
    obtain ⟨stored, key⟩ := KeyedTable.get?_sound present
    obtain ⟨rfl, -⟩ := Prod.mk.inj key
    exact rows row stored
  · intro lines row stored
    apply lines row.sessionId row.productId
    rw [Database.cart, show (row.productId, row.sessionId) = row.key from rfl,
      KeyedTable.get?_complete stored]
    simp

/-- Only an addition makes a line that was not there; setting a quantity needs a line. -/
theorem apply_line {operation : CartOperation} {cart : Cart} {productId : String}
    (line : operation.apply cart productId ≠ none) :
    cart productId ≠ none ∨ ∃ quantity, operation = .add productId quantity := by
  cases operation with
  | add added quantity =>
    by_cases same : productId = added
    · subst same
      exact Or.inr ⟨quantity, rfl⟩
    · exact Or.inl (by simpa [CartOperation.apply, same] using line)
  | set changed quantity =>
    by_cases same : productId = changed
    · subst same
      left
      intro absent
      simp [CartOperation.apply, absent] at line
    · exact Or.inl (by simpa [CartOperation.apply, same] using line)
  | remove removed =>
    by_cases same : productId = removed
    · simp [CartOperation.apply, same] at line
    · exact Or.inl (by simpa [CartOperation.apply, same] using line)
  | clear => simp [CartOperation.apply] at line

end Statements

/-- What every run keeps whose POSTs add offered products only. -/
structure AllOffered (offered : String → Prop) (state : ShopState) : Prop where
  traced : server.Traced state
  sells : state.store.Sells offered
  asked : ∀ task ∈ state.tasks, AddsOffered offered (.start task.request)
  read : ∀ task ∈ state.tasks, ∀ row ∈ readRows task.trace, offered row.productId

section Execute

variable {offered : String → Prop} {state : ShopState} {index : Nat} {choice : Choice}
  {task : ShopTask} {command : Statement} {resume : command.Result → Handler}

/-- The carts only get offered products, since a new row comes from an addition. -/
theorem AllOffered.carts (all : AllOffered offered state) (present : state.tasks[index]? = some task)
    (pending : task.program = .call command resume) :
    ∀ row ∈ (execute command choice state.store).2.cartItems.rows, offered row.productId := by
  rw [carts_offered_iff]
  intro sessionId productId
  rw [cart_execute]
  have before := carts_offered_iff.mp all.sells.carts sessionId
  have inside := List.mem_of_getElem? present
  have issued := ((issues_addsOffered task.request (all.asked task inside)).follows
    (all.traced task inside)).2
  rw [pending] at issued
  cases performs : written command (execute command choice state.store).1 with
  | none => exact before productId
  | some operation =>
    obtain ⟨owner, operation⟩ := operation
    simp only [performed]
    split
    · intro line
      rcases apply_line line with old | ⟨quantity, rfl⟩
      · exact before productId old
      · exact written_add_offered issued.1 performs
    · exact before productId

/-- The orders only get what their checkouts have read from the carts. -/
theorem AllOffered.items (all : AllOffered offered state) (present : state.tasks[index]? = some task)
    (pending : task.program = .call command resume) :
    ∀ item ∈ (execute command choice state.store).2.orderItems, offered item.productId := by
  intro item member
  have inside := List.mem_of_getElem? present
  rcases Database.execute_orderItems command choice state.store with
    ⟨row, stored, entry, -, view, appended⟩ | ⟨-, same⟩
  · rw [appended] at member
    cases List.mem_append.mp member with
    | inl old => exact all.sells.items item old
    | inr new =>
      obtain rfl := List.mem_singleton.mp new
      obtain rfl := insertedBy_command entry
      obtain ⟨body, point⟩ := checkout_of_writesOrders all.traced inside pending rfl
      obtain ⟨rows, done, next, left, nextId, split, -, -, reads, rfl⟩ :=
        checkout_insertItem point (by rw [pending]; rfl)
      have products : item.productId = next.productId := congrArg ItemView.productId view
      rw [products]
      exact all.read task inside next (by rw [reads, split]; simp)
  · rw [same] at member
    exact all.sells.items item member

/-- The rows that checkouts have read are of offered products as well. They are kept in the
invariant because they are inserted later. -/
theorem AllOffered.reads (all : AllOffered offered state) (present : state.tasks[index]? = some task)
    {other : ShopTask} (member : other ∈ state.tasks.set index
      (task.advance command resume (execute command choice state.store).1))
    {row : CheckoutRow} (reads : row ∈ readRows other.trace) : offered row.productId := by
  rcases List.mem_or_eq_of_mem_set member with old | rfl
  · exact all.read other old row reads
  · rw [Task.advance_trace, readRows_append] at reads
    cases List.mem_append.mp reads with
    | inl before => exact all.read task (List.mem_of_getElem? present) row before
    | inr now =>
      obtain ⟨sessionId, listed⟩ := readBy_execute (by simpa [readRows] using now)
      obtain ⟨⟨product, quantity⟩, joined, rfl⟩ := List.mem_map.mp listed
      have stored := ((state.store.mem_joinedCart sessionId product quantity).mp joined).2
      exact all.sells.carts _ stored

/-- A step keeps everything offered, if the request it accepts adds only what is offered. -/
theorem AllOffered.step (all : AllOffered offered state) {action : Action Request Choice}
    (adds : AddsOffered offered action) : AllOffered offered (server.step state action) := by
  have traced := server.step_traced state action all.traced
  generalize after : server.step state action = next at traced ⊢
  have transition : server.Transition state action next := after ▸ server.step_transition state action
  cases transition with
  | idle index choice nothing => exact all
  | started request =>
    constructor
    · exact traced
    · exact all.sells
    · intro task member
      cases List.mem_append.mp member with
      | inl old => exact all.asked task old
      | inr new =>
        obtain rfl := List.mem_singleton.mp new
        exact adds
    · intro task member row reads
      cases List.mem_append.mp member with
      | inl old => exact all.read task old row reads
      | inr new =>
        obtain rfl := List.mem_singleton.mp new
        simp [readRows, Service.accept] at reads
  | proceeded index choice task command resume present pending =>
    constructor
    · exact traced
    · exact ⟨all.carts present pending, all.items present pending⟩
    · intro other member
      rcases List.mem_or_eq_of_mem_set member with old | rfl
      · exact all.asked other old
      · exact all.asked task (List.mem_of_getElem? present)
    · exact fun other member row reads => all.reads present member reads

/-- So does a run from a shop without carts and orders. -/
theorem run_allOffered {initial : Database} (noCarts : initial.cartItems.rows = [])
    (noOrders : initial.orders.rows = []) (actions : List (Action Request Choice))
    (adds : ∀ action ∈ actions, AddsOffered offered action) :
    AllOffered offered (server.run (Service.idleState initial) actions) := by
  have along := server.along_of_forall (Service.idleState initial) actions adds
  refine server.run_invariant (AllOffered offered) (fun _ _ all added => all.step added) _ actions
    ?_ along
  constructor
  · exact server.idleState_traced initial
  · constructor
    · exact fun row member => absurd member (by simp [noCarts])
    · intro item member
      have ordered := initial.itemOrders item member
      simp [KeyedTable.get?, noOrders] at ordered
  · exact fun task member => absurd member (by simp)
  · exact fun task member => absurd member (by simp)

end Execute

section Answers

variable {initial : Database} {actions : List (Action Request Choice)} {index : Nat} {task : ShopTask}

/-- A request for the cart is answered with the lines the cart has had at some moment. -/
theorem getCart_lists
    (present : (server.run (Service.idleState initial) actions).tasks[index]? = some task)
    (asked : task.request.operation = .getCart) {reply : Reply}
    (answered : task.answer? = some reply) {lines : List CartLine} (shows : reply.body = .cart lines) :
    ∃ early late rows, actions = early ++ late ∧ lines = cartLines rows ∧
      rows.Perm ((server.run (Service.idleState initial) early).store.joinedCart
        (getSessionId task.request)) := by
  have follows := server.run_traced _ actions (server.idleState_traced initial) task
    (List.mem_of_getElem? present)
  rw [(task.answer_some reply).mp answered] at follows
  have path : Follows (getCart (getSessionId task.request)) task.trace (.answer reply) := by
    simpa [server, handle, asked] using follows
  rcases (follows_query _ _ _ _ _).mp path with
    ⟨-, same⟩ | ⟨error, -, same⟩ | ⟨rows, later, trace, tail⟩
  · exact absurd same (by simp [query])
  · obtain rfl := Program.answer.inj same
    exact absurd shows (by simp [Reply.error])
  · obtain ⟨-, same⟩ := (follows_answer _ _ _).mp tail
    obtain rfl := Program.answer.inj same
    obtain ⟨early, choice, late, earlier, resume, split, -, -, -, -, result⟩ :=
      Service.run_executed present (show task.trace = [] ++ _ :: later from trace)
    refine ⟨early, _, rows, split, (Body.cart.inj shows).symm, ?_⟩
    by_cases failing : choice.fails = true
    · have refused := result.trans (congrArg Prod.fst
        (execute_fails (.selectCart (getSessionId task.request)) choice _ failing))
      exact absurd refused (by simp [passed])
    · have ran : (execute (.selectCart (getSessionId task.request)) choice
          (server.run (Service.idleState initial) early).store).1 =
            .ok (reorder choice.order ((server.run (Service.idleState initial) early).store.joinedCart
              (getSessionId task.request))) :=
      congrArg Prod.fst (execute_works (Bool.eq_false_iff.mpr failing) rfl _)
      rw [Except.ok.inj (result.trans ran)]
      exact reorder_perm _ _

end Answers

end ShoppingCS.Shop
