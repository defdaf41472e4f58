import ShoppingCS.Client.CartCalls
import ShoppingCS.Interleaving.Runs
import ShoppingCS.Storage.EntryChanges

/-!
# Calls that overlap

A page makes calls without waiting for answers. The server processes the requests in
any order, and the client applies the answers in the order in which they arrive. The
edits of the client do not all commute, so its cart can go apart from the server's.

An answer on the way stands for a change of every product's quantity: an addition, a
setting, or a replacement by what a list says. Made in the order in which the server has
processed the requests, these changes turn the client's cart into the server's, whatever
is on the way. An answer that arrives before older ones keeps this if its changes may
overtake theirs.
-/

namespace ShoppingCS.Client

open Interleaving Shop Storage Web

/-- What the client makes of a response, for one product: an accepted addition of it adds,
an accepted update of it sets or takes it out, and a loaded list says how much of it there
is, if any. A call that was refused changes nothing, and neither does an edit of another
product. -/
def CartCall.change (response : ApiResponse) (productId : String) : CartCall → EntryChange Int
  | .loadCart =>
    match response.success, response.data with
    | true, some (.cart lines) => .put ((lineAt lines productId).map (·.quantity))
    | _, _ => .keep
  | .addToCart product quantity =>
    if response.success ∧ product.id = productId then .add quantity else .keep
  | .updateCartItem updated quantity =>
    if response.success ∧ updated = productId then
      if quantity ≤ 0 then .put none else .set quantity
    else .keep
  | .removeFromCart removed =>
    if response.success ∧ removed = productId then .put none else .keep
  | .clearCart => if response.success then .put none else .keep
  | .createOrder _ =>
    match response.success, response.data with
    | true, some (.order _) => .put none
    | _, _ => .keep

/-- The reducer's filter takes no line but the updated one, if the call is an update that
the server has accepted. -/
def CartCall.SparesLines (response : ApiResponse) (lines : List CartLine) : CartCall → Prop
  | .updateCartItem updated _ => response.success = true → OthersPositive updated lines
  | _ => True

/-- How the statements of a request are resolved on working connections. -/
abbrev Working := {choices : Nat → Choice // ∀ index, (choices index).Works}

/-- The choices of working connections that return rows as stored. -/
def plainWorking : Working := ⟨fun _ => .plain, fun _ => rfl⟩

/-- A client and its server, with the requests and the answers on the way. The answers
stand in the order in which their requests were processed. -/
structure Page where
  state : AppState
  database : Database
  waiting : List CartCall
  answers : List (CartCall × Reply)

namespace Page

/-- A call is made, a request is processed, or an answer arrives. -/
inductive Move where
  | call (call : CartCall)
  | process (index : Nat) (working : Working)
  | receive (index : Nat)

/-- No call and no answer is on the way, which is when the two carts are compared. -/
def Idle (page : Page) : Prop := page.waiting = [] ∧ page.answers = []

/-- The state of the client after it has received answers. -/
def received (state : AppState) (answers : List (CartCall × Reply)) : AppState :=
  answers.foldl (fun state answer => dispatch state (answer.1.finishes (receive answer.2))) state

/-- One move: a call is made, the server processes one, or an answer is received. -/
def step (authorityAccepted : Text → Bool) (page : Page) : Move → Page
  | .call call => { page with waiting := page.waiting ++ [call] }
  | .process index working =>
    match page.waiting[index]? with
    | none => page
    | some call =>
      match call.serve authorityAccepted working.val page.database with
      | none => page
      | some (reply, last) =>
        { page with
          database := last
          waiting := page.waiting.eraseIdx index
          answers := page.answers ++ [(call, reply)] }
  | .receive index =>
    match page.answers[index]? with
    | none => page
    | some answer =>
      { page with
        state := received page.state [answer]
        answers := page.answers.eraseIdx index }

/-- The changes of a product's quantity for which answers stand. -/
def changes (productId : String) (answers : List (CartCall × Reply)) : List (EntryChange Int) :=
  answers.map (fun answer => answer.1.change (receive answer.2) productId)

/-- A call puts no id into its path that does not pass it. The answer of an accepted update
arrives when all other lines of the client's cart have positive quantities. And an answer
that arrives before older ones may overtake them, as far as any product is concerned: each
older one commutes with it, or an answer behind that one decides the quantity. -/
def Orderly (page : Page) : Move → Prop
  | .call call => call.apiCall.Passes
  | .process _ _ => True
  | .receive index => ∀ answer ∈ page.answers[index]?,
      answer.1.SparesLines (receive answer.2) page.state.cart ∧
        ∀ productId, (answer.1.change (receive answer.2) productId).MayOvertake
          (changes productId (page.answers.drop (index + 1)))
          (changes productId (page.answers.take index))

end Page

/-- Lines of distinct products show the cart of their quantities. -/
theorem shows_lines {lines : List CartLine} (distinct : (lines.map lineProduct).Nodup) :
    Shows (fun productId => (lineAt lines productId).map (·.quantity)) lines where
  table := ⟨⟨lines, distinct⟩, rfl, rfl⟩
  priced := fun _ _ row found => absurd found (by simp)

/-- The replies that calls get on working connections: a list that names every product once,
or success, or an error. -/
def CartCall.Answered (call : CartCall) (reply : Reply) : Prop :=
  match call.effect with
  | none => ∃ lines, reply = ⟨200, .cart lines⟩ ∧ (lines.map lineProduct).Nodup
  | some _ => call.Succeeds reply ∨ 400 ≤ reply.status

section Changes

variable {call : CartCall} {cart : Cart} {state : AppState} {reply : Reply}

/-- An accepted call changes every product's quantity as its operation changes the cart. The
operations are taken one by one; each of them is about one product or about all. -/
theorem CartCall.change_accepted {operation : CartOperation} (means : call.effect = some operation)
    (succeeds : call.Succeeds reply) (cart : Cart) (productId : String) :
    (call.change (receive reply) productId).apply (cart productId) =
      operation.apply cart productId := by
  cases call with
  | loadCart => exact absurd means (by simp [CartCall.effect])
  | createOrder orderData =>
    obtain rfl := Option.some.inj means
    obtain ⟨view, rfl⟩ := succeeds
    rfl
  | clearCart =>
    obtain rfl := Option.some.inj means
    rw [receive_accepted succeeds]
    rfl
  | addToCart product quantity =>
    obtain rfl := Option.some.inj means
    rw [receive_accepted succeeds]
    by_cases same : product.id = productId
    · simp [CartCall.change, CartOperation.apply, EntryChange.apply, same]
    · have different : productId ≠ product.id := fun equal => same equal.symm
      simp [CartCall.change, CartOperation.apply, EntryChange.apply, same, different]
  | updateCartItem updated quantity =>
    obtain rfl := Option.some.inj means
    rw [receive_accepted succeeds, putOperation]
    by_cases same : updated = productId
    · by_cases nonpositive : quantity ≤ 0 <;>
        simp [CartCall.change, CartOperation.apply, EntryChange.apply, same, nonpositive]
    · have different : productId ≠ updated := fun equal => same equal.symm
      by_cases nonpositive : quantity ≤ 0 <;>
        simp [CartCall.change, CartOperation.apply, EntryChange.apply, same, different, nonpositive]
  | removeFromCart removed =>
    obtain rfl := Option.some.inj means
    rw [receive_accepted succeeds]
    by_cases same : removed = productId
    · simp [CartCall.change, CartOperation.apply, EntryChange.apply, same]
    · have different : productId ≠ removed := fun equal => same equal.symm
      simp [CartCall.change, CartOperation.apply, EntryChange.apply, same, different]

/-- A call that has failed changes no quantity on the page. -/
theorem CartCall.change_error (error : 400 ≤ reply.status) (call : CartCall) (productId : String) :
    call.change (receive reply) productId = .keep := by
  obtain ⟨failed, empty⟩ := receive_error error
  cases call <;> simp [CartCall.change, failed]

/-- What the server answers to a call is an answer in this sense, whichever route it comes
from. -/
theorem CartCall.Outcome.answered {database last : Database}
    (outcome : call.Outcome database reply last) : call.Answered reply := by
  cases means : call.effect with
  | none =>
    rw [CartCall.Outcome, means] at outcome
    obtain ⟨-, rows, listed, rfl⟩ := outcome
    rw [CartCall.Answered, means]
    exact ⟨cartLines rows, rfl, (copies_server listed).shows.distinct⟩
  | some operation =>
    rw [CartCall.Outcome, means] at outcome
    rw [CartCall.Answered, means]
    exact outcome.outcome.imp And.left And.left

/-- What the server does with a call is the change of every product's quantity that the
client will read off the answer. -/
theorem CartCall.Outcome.change {database last : Database}
    (outcome : call.Outcome database reply last) (productId : String) :
    last.cart clientSession productId =
      (call.change (receive reply) productId).apply (database.cart clientSession productId) := by
  cases means : call.effect with
  | none =>
    obtain rfl : call = .loadCart := by cases call <;> simp [CartCall.effect] at means ⊢
    obtain ⟨rfl, rows, listed, rfl⟩ := outcome
    exact ((copies_server listed).shows.lineAt productId).symm
  | some operation =>
    rw [CartCall.Outcome, means] at outcome
    rcases outcome.outcome with ⟨succeeds, carried⟩ | ⟨error, kept⟩
    · rw [carried, CartCall.change_accepted means succeeds]
    · rw [kept, CartCall.change_error error]
      rfl

/-- What the reducer does with an answer is the change of every product's quantity, if its
filter takes no other line. -/
theorem Shows.change (shows : Shows cart state.cart) (answered : call.Answered reply)
    (spares : call.SparesLines (receive reply) state.cart) :
    Shows (fun productId => (call.change (receive reply) productId).apply (cart productId))
      (dispatch state (call.finishes (receive reply))).cart := by
  cases means : call.effect with
  | none =>
    obtain rfl : call = .loadCart := by cases call <;> simp [CartCall.effect] at means ⊢
    obtain ⟨lines, rfl, distinct⟩ := answered
    exact shows_lines distinct
  | some operation =>
    rw [CartCall.Answered, means] at answered
    have reads : call.effect ≠ none := by simp [means]
    cases answered with
    | inr error =>
      rw [finishes_error error]
      simp only [CartCall.change_error error]
      exact shows
    | inl succeeds =>
      rw [CartCall.finishes_success succeeds reads]
      simp only [CartCall.change_accepted means succeeds]
      cases call with
      | loadCart => exact absurd rfl reads
      | addToCart product quantity =>
        obtain rfl := Option.some.inj means
        exact shows.add ⟨product, quantity⟩
      | updateCartItem productId quantity =>
        obtain rfl := Option.some.inj means
        apply shows.update quantity
        intro other amount different present
        obtain ⟨item, member, same⟩ :=
          List.mem_map.mp ((shows.mem_quantities other amount).mpr present)
        obtain ⟨rfl, rfl⟩ := Prod.mk.inj same
        have accepted : (receive reply).success = true := by rw [receive_accepted succeeds]
        exact spares accepted item member different
      | removeFromCart productId =>
        obtain rfl := Option.some.inj means
        exact Mirrors.remove shows productId
      | clearCart =>
        obtain rfl := Option.some.inj means
        exact mirrors_nil .empty
      | createOrder orderData =>
        obtain rfl := Option.some.inj means
        exact mirrors_nil .empty

end Changes

namespace Page

/-- When all changes on the way have been made in the order of processing, the client's
quantities are the server's; and the answers are such as the server gives. -/
structure Converging (page : Page) : Prop where
  passes : ∀ call ∈ page.waiting, call.apiCall.Passes
  answered : ∀ answer ∈ page.answers, answer.1.Answered answer.2
  reaches : ∃ cart, Shows cart page.state.cart ∧ ∀ productId,
    EntryChange.applyAll (cart productId) (changes productId page.answers) =
      page.database.cart clientSession productId

section Steps

variable {authorityAccepted : Text → Bool} {page : Page}

/-- An orderly move keeps the quantities on their way to the server's. Processing a request
adds a change at the end, made by the server now and by the client later; receiving an
answer makes its change first, which it may do if it overtakes the older ones. -/
theorem Converging.step (converging : page.Converging) (move : Move) (orderly : page.Orderly move) :
    (page.step authorityAccepted move).Converging := by
  cases move with
  | call call =>
    refine ⟨?_, converging.answered, converging.reaches⟩
    intro sent member
    cases List.mem_append.mp member with
    | inl before => exact converging.passes sent before
    | inr new =>
      obtain rfl := List.mem_singleton.mp new
      exact orderly
  | process index working =>
    unfold Page.step
    cases found : page.waiting[index]? with
    | none => simpa [found] using converging
    | some call =>
      have passes := converging.passes call (List.mem_of_getElem? found)
      obtain ⟨reply, last, served, outcome⟩ :=
        CartCall.served_outcome authorityAccepted working.property passes page.database
      simp only [found, served]
      obtain ⟨cart, shows, reaches⟩ := converging.reaches
      refine ⟨fun other member => converging.passes other (List.mem_of_mem_eraseIdx member), ?_,
        cart, shows, ?_⟩
      · intro answer member
        cases List.mem_append.mp member with
        | inl before => exact converging.answered answer before
        | inr new =>
          obtain rfl := List.mem_singleton.mp new
          exact outcome.answered
      · intro productId
        rw [outcome.change productId, ← reaches productId, changes, List.map_append,
          EntryChange.applyAll_append]
        rfl
  | receive index =>
    unfold Page.step
    cases found : page.answers[index]? with
    | none => simpa [found] using converging
    | some answer =>
      simp only [found]
      obtain ⟨spares, overtakes⟩ := orderly answer found
      obtain ⟨cart, shows, reaches⟩ := converging.reaches
      obtain ⟨inside, same⟩ := List.getElem?_eq_some_iff.mp found
      have order : page.answers = page.answers.take index ++ answer :: page.answers.drop (index + 1) := by
        rw [← same, ← List.drop_eq_getElem_cons inside, List.take_append_drop]
      refine ⟨converging.passes,
        fun other member => converging.answered other (List.mem_of_mem_eraseIdx member), ?_⟩
      refine ⟨_, shows.change (converging.answered answer (List.mem_of_getElem? found)) spares, ?_⟩
      intro productId
      have overtaken := EntryChange.applyAll_overtake (overtakes productId) (cart productId)
      rw [List.eraseIdx_eq_take_drop_succ, ← reaches productId, changes, List.map_append]
      conv_rhs => rw [order, changes, List.map_append, List.map_cons]
      exact overtaken

end Steps

/-- The client's cart converges. From equal carts, in every run whose moves are all
orderly, whatever calls overlap and in whatever order their requests are processed,
the carts are equal again whenever nothing is on the way. -/
theorem carts_converge (authorityAccepted : Text → Bool) (page : Page) (idle : page.Idle)
    (equal : Shows (page.database.cart clientSession) page.state.cart) (moves : List Move)
    (orderly : Runs.Along (step authorityAccepted) Orderly page moves)
    (quiet : (Runs.run (step authorityAccepted) page moves).Idle) :
    Shows ((Runs.run (step authorityAccepted) page moves).database.cart clientSession)
      (Runs.run (step authorityAccepted) page moves).state.cart := by
  have initially : page.Converging := by
    refine ⟨by simp [idle.1], by simp [idle.2], page.database.cart clientSession, equal, ?_⟩
    intro productId
    rw [idle.2]
    rfl
  have converging := Runs.run_invariant Converging
    (fun page move converging met => converging.step move met) page moves initially orderly
  obtain ⟨cart, shows, reaches⟩ := converging.reaches
  have reached : cart = (Runs.run (step authorityAccepted) page moves).database.cart
      clientSession := by
    funext productId
    rw [← reaches productId, quiet.2]
    rfl
  rwa [← reached]

/-- A client that has just been loaded and a server with empty carts. -/
def emptyPage : Page :=
  { state := initialState, database := freshDatabase, waiting := [], answers := [] }

/-- The oldest answer overtakes nobody, so it can always be received, as long as the filter
spares the other lines. -/
theorem orderly_oldest {page : Page} (spares : ∀ answer ∈ page.answers[0]?,
    answer.1.SparesLines (receive answer.2) page.state.cart) : page.Orderly (.receive 0) :=
  fun answer first => ⟨spares answer first, fun _ => trivial⟩

/-- A smartphone and a laptop are added, the smartphones are counted up twice, and the cart
is loaded. The answer about the laptop overtakes the one about the smartphone, and the
second count overtakes the first one, with the loaded cart still to come. -/
def crossedEdits : List Move :=
  [.call (.addToCart smartphone 1), .call (.addToCart laptop 2), .call (.updateCartItem "1" 3),
    .call (.updateCartItem "1" 4), .call .loadCart, .process 0 plainWorking,
    .process 0 plainWorking, .process 0 plainWorking, .process 0 plainWorking,
    .process 0 plainWorking, .receive 1, .receive 0, .receive 1, .receive 0, .receive 0]

/-- An answer about one product may overtake whatever it may overtake as far as this
product is concerned. -/
theorem overtakes_of_product {page : Page} {index : Nat} {answer : CartCall × Reply}
    {productId : String}
    (others : ∀ other, other ≠ productId → answer.1.change (receive answer.2) other = .keep)
    (own : (answer.1.change (receive answer.2) productId).MayOvertake
      (changes productId (page.answers.drop (index + 1)))
      (changes productId (page.answers.take index))) (wanted : String) :
    (answer.1.change (receive answer.2) wanted).MayOvertake
      (changes wanted (page.answers.drop (index + 1)))
      (changes wanted (page.answers.take index)) := by
  by_cases same : wanted = productId
  · subst same
    exact own
  · rw [others wanted same]
    exact EntryChange.mayOvertake_keep _ _

/-- An update of one product changes the quantity of no other one. -/
theorem change_update_other {response : ApiResponse} {updated other : String} (quantity : Int)
    (different : other ≠ updated) :
    (CartCall.updateCartItem updated quantity).change response other = .keep := by
  have same : ¬ (response.success = true ∧ updated = other) := fun both => different both.2.symm
  exact if_neg same

/-- An addition of one product changes the quantity of no other one. -/
theorem change_add_other {response : ApiResponse} {product : Product} {other : String}
    (quantity : Int) (different : other ≠ product.id) :
    (CartCall.addToCart product quantity).change response other = .keep := by
  have same : ¬ (response.success = true ∧ product.id = other) := fun both => different both.2.symm
  exact if_neg same

set_option maxRecDepth 8000 in
/-- After the crossed edits of two products the carts are equal again. -/
theorem crossed_edits_converge :
    Shows ((Runs.run (step (fun _ => true)) emptyPage crossedEdits).database.cart clientSession)
      (Runs.run (step (fun _ => true)) emptyPage crossedEdits).state.cart := by
  have plain : (CartCall.updateCartItem "1" 3).apiCall.Passes :=
    plain_of_alphanum (List.all_eq_true.mp (by decide))
  refine carts_converge (fun _ => true) emptyPage ⟨rfl, rfl⟩ (mirrors_nil .empty) crossedEdits
    ⟨trivial, trivial, plain, plain, trivial, trivial, trivial, trivial, trivial, trivial,
      ?_, ?_, ?_, ?_, ?_, trivial⟩ ⟨rfl, rfl⟩
  · rintro ⟨call, reply⟩ found
    obtain rfl : CartCall.addToCart laptop 2 = call := congrArg Prod.fst (Option.some.inj found)
    obtain rfl : _ = reply := congrArg Prod.snd (Option.some.inj found)
    refine ⟨trivial, @overtakes_of_product _ 1 _ "2" ?_ ?_⟩
    · exact fun other different => change_add_other 2 different
    · decide
  · apply orderly_oldest
    rintro ⟨call, reply⟩ found
    obtain rfl : CartCall.addToCart smartphone 1 = call := congrArg Prod.fst (Option.some.inj found)
    trivial
  · rintro ⟨call, reply⟩ found
    obtain rfl : CartCall.updateCartItem "1" 4 = call := congrArg Prod.fst (Option.some.inj found)
    obtain rfl : _ = reply := congrArg Prod.snd (Option.some.inj found)
    refine ⟨?_, @overtakes_of_product _ 1 _ "1" ?_ ?_⟩
    · intro _
      unfold OthersPositive
      decide
    · exact fun other different => change_update_other 4 different
    · decide
  · apply orderly_oldest
    rintro ⟨call, reply⟩ found
    obtain rfl : CartCall.updateCartItem "1" 3 = call := congrArg Prod.fst (Option.some.inj found)
    intro _
    unfold OthersPositive
    decide
  · apply orderly_oldest
    rintro ⟨call, reply⟩ found
    obtain rfl : CartCall.loadCart = call := congrArg Prod.fst (Option.some.inj found)
    trivial

/-- The cart is loaded while a smartphone is added. The server lists the empty cart
first, and this list arrives last. -/
def lateCart : List Move :=
  [.call .loadCart, .call (.addToCart smartphone 1), .process 0 plainWorking,
    .process 0 plainWorking, .receive 1, .receive 0]

set_option maxRecDepth 4000 in
/-- At the end of the run the smartphone is in the server's cart only: the list that the
client receives last was made before the addition. -/
theorem late_cart_diverges :
    (Runs.run (step (fun _ => true)) emptyPage lateCart).Idle ∧
      (Runs.run (step (fun _ => true)) emptyPage lateCart).database.cart clientSession "1" = some 1 ∧
      (Runs.run (step (fun _ => true)) emptyPage lateCart).state.cart = [] ∧
      ¬ ∀ moves, (Runs.run (step (fun _ => true)) emptyPage moves).Idle →
        Shows ((Runs.run (step (fun _ => true)) emptyPage moves).database.cart clientSession)
          (Runs.run (step (fun _ => true)) emptyPage moves).state.cart := by
  have quiet : (Runs.run (step (fun _ => true)) emptyPage lateCart).Idle := ⟨rfl, rfl⟩
  have stored : (Runs.run (step (fun _ => true)) emptyPage lateCart).database.cart clientSession "1" =
      some 1 := by decide
  have shown : (Runs.run (step (fun _ => true)) emptyPage lateCart).state.cart = [] := by decide
  refine ⟨quiet, stored, shown, ?_⟩
  intro converge
  have line := (converge lateCart quiet).lineAt "1"
  rw [shown, stored] at line
  simp [lineAt] at line

end Page

end ShoppingCS.Client
