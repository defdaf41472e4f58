import ShoppingCS.Client.Overlap

/-!
# Clicks on the plus button

The plus button of a cart line asks for the quantity it shows and one more. The line
shows a new quantity only after an answer, so a click that is made before the answer
to an earlier one asks for a quantity that has been asked for already. From then on
the line stays behind the clicks.
-/

namespace ShoppingCS.Client

open Interleaving Shop Web

/-- `onUpdateQuantity(item.product.id, item.quantity + 1)`, for the line of a product. -/
def plusButton (state : AppState) (productId : String) : Option CartCall :=
  (lineAt state.cart productId).map (fun item =>
    .updateCartItem item.product.id (item.quantity + 1))

/-- The quantity that the line of a product shows, if there is one. -/
def shownQuantity (state : AppState) (productId : String) : Option Int :=
  (lineAt state.cart productId).map (·.quantity)

/-- The button asks for one more than the line shows. -/
theorem plusButton_eq {state : AppState} {productId : String} {call : CartCall}
    (pressed : plusButton state productId = some call) :
    ∃ quantity, shownQuantity state productId = some quantity ∧
      call = .updateCartItem productId (quantity + 1) := by
  obtain ⟨item, found, rfl⟩ := Option.map_eq_some_iff.mp pressed
  have located : item.product.id = productId := by simpa using List.find?_some found
  exact ⟨item.quantity, by simp [shownQuantity, found], by rw [located]⟩

/-- `UPDATE_CART_ITEM` with a positive quantity changes what the line shows, if there is
one. -/
theorem lineAt_updateLine (lines : List CartLine) (productId : String) {quantity : Int}
    (positive : 0 < quantity) :
    (lineAt (updateLine lines productId quantity) productId).map (·.quantity) =
      (lineAt lines productId).map (fun _ => quantity) := by
  unfold lineAt updateLine
  induction lines with
  | nil => rfl
  | cons item lines inductionHypothesis =>
    by_cases same : item.product.id = productId
    · simp [same, positive]
    · by_cases kept : 0 < item.quantity
      · simpa [same, kept] using inductionHypothesis
      · simpa [same, kept] using inductionHypothesis

namespace Page

/-- Every call is a click on the button of the product, and every answer is 200. -/
def Clicking (authorityAccepted : Text → Bool) (productId : String) (page : Page) (move : Move) :
    Prop :=
  (∀ call, move = .call call → plusButton page.state productId = some call) ∧
    ∀ answer ∈ (page.step authorityAccepted move).answers, answer.2.Accepts

/-- No click is made before all earlier answers have arrived. -/
def Waits (page : Page) : Move → Prop
  | .call _ => page.Idle
  | _ => True

/-- The number of clicks among the moves, each of which makes one call. -/
def clicks : List Move → Nat
  | [] => 0
  | .call _ :: moves => clicks moves + 1
  | _ :: moves => clicks moves

section Served

variable {authorityAccepted : Text → Bool} {productId : String} {quantity : Int}
  {choices : Nat → Choice} {database last : Database} {reply : Reply}

/-- An accepted update of a line sets the quantity its click asked for, whatever was there. -/
theorem served_click (working : ∀ index, (choices index).Works) (plain : Plain productId.toList)
    (positive : 0 < quantity)
    (served : (CartCall.updateCartItem productId quantity).serve authorityAccepted choices database =
      some (reply, last)) (accepted : reply.Accepts) :
    last.cart clientSession productId =
      (database.cart clientSession productId).map (fun _ => quantity) := by
  have passes : (CartCall.updateCartItem productId quantity).apiCall.Passes := plain
  obtain ⟨other, next, same, outcome⟩ :=
    CartCall.served_outcome authorityAccepted working passes database
  obtain ⟨rfl, rfl⟩ := Prod.mk.inj (Option.some.inj (served.symm.trans same))
  rcases outcome.outcome with ⟨-, carried⟩ | ⟨error, -⟩
  · rw [carried]
    simp [putOperation, Int.not_le.mpr positive, CartOperation.apply]
  · have status : reply.status = 200 := accepted
    omega

/-- A PUT reaches the health check or an update, as no other route takes the method. -/
theorem route_put {url : Url} {body : ReadBody} {operation : Operation}
    (dispatched : route .put url body = some operation) :
    operation = .getHealth ∨ ∃ id, operation = .putCart id body.quantity := by
  unfold route at dispatched
  simp only [reduceCtorEq, and_false, if_false, and_true] at dispatched
  split at dispatched
  · exact Or.inl (Option.some.inj dispatched).symm
  · split at dispatched
    · exact Or.inr ⟨_, (Option.some.inj dispatched).symm⟩
    · simp at dispatched

/-- An update whose id does not pass the path leaves the line alone. -/
theorem served_elsewhere (working : ∀ index, (choices index).Works)
    (different : ¬ Plain productId.toList)
    (served : (CartCall.updateCartItem productId quantity).serve authorityAccepted choices database =
      some (reply, last)) :
    last.cart clientSession productId = database.cart clientSession productId := by
  unfold CartCall.serve at served
  split at served
  · rename_i request reached
    obtain ⟨dispatched, arrived, mapped⟩ := Option.map_eq_some_iff.mp reached
    obtain ⟨operation, rfl, rfl⟩ := Option.map_eq_some_iff.mp mapped
    obtain ⟨url, parsed, found⟩ := Option.map_eq_some_iff.mp arrived
    obtain ⟨⟨answer, store, rest⟩, answered, same⟩ := Option.map_eq_some_iff.mp served
    obtain ⟨rfl, rfl⟩ := Prod.mk.inj same
    rcases route_put found with rfl | ⟨id, rfl⟩
    · obtain ⟨-, kept, -⟩ : answer = ⟨200, .healthy⟩ ∧ store = database ∧ rest = choices := by
        simpa [handle, getHealth, eq_comm] using answered
      rw [kept]
    · have elsewhere : id ≠ productId := by
        rintro rfl
        exact different (ApiCall.plain_of_dispatched authorityAccepted _ arrived id rfl)
      obtain ⟨other, next, left, alone, outcome⟩ :=
        (leads_putCart clientSession id quantity database).alone choices working
      obtain ⟨rfl, rfl, rfl⟩ : other = answer ∧ next = store ∧ left = rest := by
        simpa using Option.some.inj (alone.symm.trans answered)
      rcases outcome.outcome with ⟨-, carried⟩ | ⟨-, kept⟩
      · rw [carried]
        unfold putOperation
        split
        · simp [CartOperation.apply, elsewhere.symm]
        · simp [CartOperation.apply, elsewhere.symm]
      · rw [kept]
  · obtain ⟨-, rfl⟩ := Prod.mk.inj (Option.some.inj served)
    rfl
  · simp at served

end Served

/-- A click on the way asks for a positive quantity below a bound. -/
def AsksBelow (productId : String) (bound : Int) (call : CartCall) : Prop :=
  ∃ quantity, call = .updateCartItem productId quantity ∧ 0 < quantity ∧ quantity < bound

/-- The line is behind: it shows less than the clicks have asked for, and nothing on the
way changes that. -/
structure Behind (productId : String) (bound : Int) (page : Page) : Prop where
  shown : ∃ quantity, shownQuantity page.state productId = some quantity ∧ 0 < quantity ∧
    quantity < bound
  waiting : ∀ call ∈ page.waiting, AsksBelow productId bound call
  answers : ∀ answer ∈ page.answers, AsksBelow productId bound answer.1 ∧ answer.2.Accepts

/-- The line keeps up: at most the last click is on the way, and it asks for the number
of clicks so far on top of the first quantity. -/
inductive KeepsUp (productId : String) (reached : Int) (page : Page) : Prop where
  | idle (positive : 1 ≤ reached) (nothing : page.Idle) (shown : shownQuantity page.state productId = some reached)
      (stored : page.database.cart clientSession productId = some reached)
  | asked (positive : 1 < reached) (waiting : page.waiting = [.updateCartItem productId reached])
      (answers : page.answers = []) (shown : shownQuantity page.state productId = some (reached - 1))
      (stored : page.database.cart clientSession productId = some (reached - 1))
  | answered (positive : 1 < reached) (reply : Reply) (accepted : reply.Accepts)
      (waiting : page.waiting = []) (answers : page.answers = [(.updateCartItem productId reached, reply)])
      (shown : shownQuantity page.state productId = some (reached - 1))
      (stored : page.database.cart clientSession productId = some reached)

section Steps

variable {authorityAccepted : Text → Bool} {productId : String} {page : Page}

/-- An accepted answer to a click is what the line then shows. -/
theorem received_click {state : AppState} {quantity shown : Int} {reply : Reply}
    (positive : 0 < quantity) (accepted : reply.Accepts)
    (before : shownQuantity state productId = some shown) :
    shownQuantity (received state [(.updateCartItem productId quantity, reply)]) productId =
      some quantity := by
  obtain ⟨item, found, -⟩ := Option.map_eq_some_iff.mp before
  have succeeds : (CartCall.updateCartItem productId quantity).Succeeds reply := accepted
  have edited : (dispatch state
      ((CartCall.updateCartItem productId quantity).finishes (receive reply))).cart =
        updateLine state.cart productId quantity :=
    CartCall.finishes_success succeeds (by simp [CartCall.effect])
  simp only [received, List.foldl_cons, List.foldl_nil, shownQuantity, edited,
    lineAt_updateLine _ _ positive, found, Option.map_some]

/-- What a move does to the requests and answers on the way. -/
theorem step_cases (authorityAccepted : Text → Bool) (page : Page) (move : Move) :
    (∃ call, move = .call call ∧
      page.step authorityAccepted move = { page with waiting := page.waiting ++ [call] }) ∨
    ((∀ call, move ≠ .call call) ∧ page.step authorityAccepted move = page) ∨
    (∃ index working call reply last, move = .process index working ∧
      page.waiting[index]? = some call ∧
      call.serve authorityAccepted working.val page.database = some (reply, last) ∧
      page.step authorityAccepted move =
        { page with
          database := last
          waiting := page.waiting.eraseIdx index
          answers := page.answers ++ [(call, reply)] }) ∨
    ∃ index answer, move = .receive index ∧ page.answers[index]? = some answer ∧
      page.step authorityAccepted move =
        { page with
          state := received page.state [answer]
          answers := page.answers.eraseIdx index } := by
  cases move with
  | call call => exact Or.inl ⟨call, rfl, rfl⟩
  | process index working =>
    unfold step
    cases found : page.waiting[index]? with
    | none => exact Or.inr (Or.inl ⟨by simp, by simp [found]⟩)
    | some call =>
      cases served : call.serve authorityAccepted working.val page.database with
      | none => exact Or.inr (Or.inl ⟨by simp, by simp [found, served]⟩)
      | some result =>
        refine Or.inr (Or.inr (Or.inl ⟨index, working, call, result.1, result.2, rfl, found, served, ?_⟩))
        simp [found, served]
  | receive index =>
    unfold step
    cases found : page.answers[index]? with
    | none => exact Or.inr (Or.inl ⟨by simp, by simp [found]⟩)
    | some answer => exact Or.inr (Or.inr (Or.inr ⟨index, answer, rfl, found, by simp [found]⟩))

/-- A line that is behind the clicks stays behind through one move, the click of that move, if
it is one, being counted. -/
theorem Behind.step {bound : Int} (behind : Behind productId bound page) (move : Move)
    (clicking : page.Clicking authorityAccepted productId move) :
    Behind productId (bound + clicks [move]) (page.step authorityAccepted move) := by
  obtain ⟨shown, before, positive, small⟩ := behind.shown
  have later {call : CartCall} (asks : AsksBelow productId bound call) (more : Nat) :
      AsksBelow productId (bound + more) call := by
    obtain ⟨quantity, same, above, below⟩ := asks
    exact ⟨quantity, same, above, by omega⟩
  rcases step_cases authorityAccepted page move with
    ⟨call, rfl, stepped⟩ | ⟨-, stepped⟩ |
      ⟨index, working, call, reply, last, rfl, found, -, stepped⟩ |
      ⟨index, answer, rfl, found, stepped⟩
  · obtain ⟨quantity, shows, rfl⟩ := plusButton_eq (clicking.1 call rfl)
    obtain rfl : shown = quantity := Option.some.inj (before.symm.trans shows)
    rw [stepped]
    refine ⟨⟨shown, before, positive, by omega⟩, fun sent member => ?_,
      fun answer member => ⟨later (behind.answers answer member).1 _, (behind.answers answer member).2⟩⟩
    cases List.mem_append.mp member with
    | inl old => exact later (behind.waiting sent old) _
    | inr new =>
      obtain rfl := List.mem_singleton.mp new
      exact ⟨shown + 1, rfl, by omega, by simp [clicks]; omega⟩
  · rw [stepped]
    exact ⟨⟨shown, before, positive, by omega⟩, fun sent member => later (behind.waiting sent member) _,
      fun answer member => ⟨later (behind.answers answer member).1 _, (behind.answers answer member).2⟩⟩
  · have accepted := clicking.2
    rw [stepped] at accepted ⊢
    refine ⟨⟨shown, before, positive, by omega⟩,
      fun sent member => later (behind.waiting sent (List.mem_of_mem_eraseIdx member)) _,
      fun answer member => ⟨?_, accepted answer member⟩⟩
    cases List.mem_append.mp member with
    | inl old => exact later (behind.answers answer old).1 _
    | inr new =>
      obtain rfl := List.mem_singleton.mp new
      exact later (behind.waiting call (List.mem_of_getElem? found)) _
  · obtain ⟨⟨quantity, asked, above, below⟩, accepted⟩ :=
      behind.answers answer (List.mem_of_getElem? found)
    obtain ⟨call, reply⟩ := answer
    obtain rfl : call = _ := asked
    rw [stepped]
    exact ⟨⟨quantity, received_click above accepted before, above, by omega⟩,
      fun sent member => later (behind.waiting sent member) _,
      fun answer member => ⟨later (behind.answers answer (List.mem_of_mem_eraseIdx member)).1 _,
        (behind.answers answer (List.mem_of_mem_eraseIdx member)).2⟩⟩

/-- A move that is no click waits and adds no click. -/
theorem waits_quiet (page : Page) {move : Move} (quiet : ∀ call, move ≠ .call call) :
    page.Waits move ∧ clicks [move] = 0 := by
  cases move with
  | call call => exact absurd rfl (quiet call)
  | process index working => exact ⟨trivial, rfl⟩
  | receive index => exact ⟨trivial, rfl⟩

/-- A click that does not wait leaves the line behind. -/
theorem behind_early {reached quantity : Int} (positive : 1 < reached)
    (shown : shownQuantity page.state productId = some (reached - 1))
    (shows : shownQuantity page.state productId = some quantity)
    (waiting : ∀ call ∈ page.waiting, call = .updateCartItem productId reached)
    (answers : ∀ answer ∈ page.answers,
      answer.1 = .updateCartItem productId reached ∧ answer.2.Accepts) :
    Behind productId (reached + 1)
      { page with waiting := page.waiting ++ [.updateCartItem productId (quantity + 1)] } := by
  obtain rfl : reached - 1 = quantity := Option.some.inj (shown.symm.trans shows)
  refine ⟨⟨reached - 1, shown, by omega, by omega⟩, fun call member => ?_, fun answer member => ?_⟩
  · cases List.mem_append.mp member with
    | inl old => exact ⟨reached, waiting call old, by omega, by omega⟩
    | inr new =>
      obtain rfl := List.mem_singleton.mp new
      exact ⟨reached - 1 + 1, rfl, by omega, by omega⟩
  · obtain ⟨same, accepted⟩ := answers answer member
    exact ⟨⟨reached, same, by omega, by omega⟩, accepted⟩

/-- A line that keeps up does so as long as the clicks wait, and is behind after the
first one that does not. -/
theorem KeepsUp.step {reached : Int} (keepsUp : KeepsUp productId reached page)
    (plain : Plain productId.toList) (move : Move)
    (clicking : page.Clicking authorityAccepted productId move) :
    (page.Waits move ∧ KeepsUp productId (reached + clicks [move]) (page.step authorityAccepted move)) ∨
      (¬ page.Waits move ∧
        Behind productId (reached + clicks [move]) (page.step authorityAccepted move)) := by
  rcases step_cases authorityAccepted page move with
    ⟨call, rfl, stepped⟩ | ⟨quiet, stepped⟩ |
      ⟨index, working, call, reply, last, rfl, found, served, stepped⟩ |
      ⟨index, answer, rfl, found, stepped⟩
  · obtain ⟨quantity, shows, rfl⟩ := plusButton_eq (clicking.1 call rfl)
    rw [stepped]
    cases keepsUp with
    | idle positive nothing shown stored =>
      obtain rfl : reached = quantity := Option.some.inj (shown.symm.trans shows)
      refine Or.inl ⟨nothing, .asked (by simp [clicks]; omega) ?_ nothing.2 ?_ ?_⟩
      · simp [nothing.1, clicks]
      · simpa [clicks] using shown
      · simpa [clicks] using stored
    | asked positive waiting answers shown stored =>
      refine Or.inr ⟨?_, behind_early positive shown shows ?_ ?_⟩
      · intro idle
        have empty := idle.1
        simp [waiting] at empty
      · simp [waiting]
      · simp [answers]
    | answered positive reply accepted waiting answers shown stored =>
      refine Or.inr ⟨?_, behind_early positive shown shows ?_ ?_⟩
      · intro idle
        have empty := idle.2
        simp [answers] at empty
      · simp [waiting]
      · simpa [answers] using accepted
  · obtain ⟨waits, none⟩ := waits_quiet page quiet
    rw [stepped, none]
    exact Or.inl ⟨waits, by simpa using keepsUp⟩
  · have accepted := clicking.2
    rw [stepped] at accepted ⊢
    refine Or.inl ⟨trivial, ?_⟩
    cases keepsUp with
    | idle positive nothing shown stored => simp [nothing.1] at found
    | asked positive waiting answers shown stored =>
      obtain ⟨rfl, same⟩ : index = 0 ∧ CartCall.updateCartItem productId reached = call := by
        simpa [waiting, List.getElem?_singleton] using found
      subst same
      have good : reply.Accepts := accepted (.updateCartItem productId reached, reply) (by simp)
      have set := served_click working.property plain (by omega) served good
      refine .answered (by simpa [clicks] using positive) reply good ?_ ?_ ?_ ?_
      · simp [waiting]
      · simp [answers, clicks]
      · simpa [clicks] using shown
      · simpa [clicks, stored] using set
    | answered positive other accepted waiting answers shown stored => simp [waiting] at found
  · rw [stepped]
    refine Or.inl ⟨trivial, ?_⟩
    cases keepsUp with
    | idle positive nothing shown stored => simp [nothing.2] at found
    | asked positive waiting answers shown stored => simp [answers] at found
    | answered positive reply accepted waiting answers shown stored =>
      obtain ⟨rfl, rfl⟩ : index = 0 ∧ (CartCall.updateCartItem productId reached, reply) = answer := by
        simpa [answers, List.getElem?_singleton] using found
      refine .idle (by simp [clicks]; omega) ⟨waiting, by simp [answers]⟩ ?_ ?_
      · simpa [clicks] using received_click (by omega) accepted shown
      · simpa [clicks] using stored

end Steps

section Runs

variable {authorityAccepted : Text → Bool} {productId : String}

/-- The clicks of a run, one move at a time. -/
theorem clicks_cons (move : Move) (moves : List Move) :
    clicks (move :: moves) = clicks [move] + clicks moves := by
  cases move <;> simp [clicks, Nat.add_comm]

/-- Once a click has been lost the line stays behind through every run, by induction on the
moves. -/
theorem run_behind {page : Page} {bound : Int} (behind : Behind productId bound page)
    (moves : List Move)
    (clicked : Runs.Along (step authorityAccepted) (Clicking authorityAccepted productId) page moves) :
    Behind productId (bound + clicks moves) (Runs.run (step authorityAccepted) page moves) := by
  induction moves generalizing page bound with
  | nil => simpa [clicks, Runs.run] using behind
  | cons move moves inductionHypothesis =>
    have later := inductionHypothesis (behind.step move clicked.1) clicked.2
    rw [clicks_cons]
    rw [Int.add_assoc, ← Int.natCast_add] at later
    exact later

/-- A line keeps up with a run of clicks that all wait, and with no other one. -/
theorem run_keepsUp {page : Page} {reached : Int} (keepsUp : KeepsUp productId reached page)
    (plain : Plain productId.toList) (moves : List Move)
    (clicked : Runs.Along (step authorityAccepted) (Clicking authorityAccepted productId) page moves) :
    (Runs.Along (step authorityAccepted) Waits page moves ∧
        KeepsUp productId (reached + clicks moves) (Runs.run (step authorityAccepted) page moves)) ∨
      (¬ Runs.Along (step authorityAccepted) Waits page moves ∧
        Behind productId (reached + clicks moves) (Runs.run (step authorityAccepted) page moves)) := by
  induction moves generalizing page reached with
  | nil => exact Or.inl ⟨trivial, by simpa [clicks, Runs.run] using keepsUp⟩
  | cons move moves inductionHypothesis =>
    rw [clicks_cons, Int.natCast_add, ← Int.add_assoc]
    rcases keepsUp.step plain move clicked.1 with ⟨waits, still⟩ | ⟨hurries, behind⟩
    · rcases inductionHypothesis still clicked.2 with ⟨all, ends⟩ | ⟨some, ends⟩
      · exact Or.inl ⟨⟨waits, all⟩, ends⟩
      · exact Or.inr ⟨fun along => some along.2, ends⟩
    · exact Or.inr ⟨fun along => hurries along.1, run_behind behind moves clicked.2⟩

/-- Clicks on a line whose id does not pass the path never reach it. -/
theorem run_elsewhere {page : Page} (different : ¬ Plain productId.toList) (moves : List Move)
    (asked : ∀ call ∈ page.waiting, ∃ quantity, call = .updateCartItem productId quantity)
    (clicked : Runs.Along (step authorityAccepted) (Clicking authorityAccepted productId) page moves) :
    (Runs.run (step authorityAccepted) page moves).database.cart clientSession productId =
      page.database.cart clientSession productId := by
  induction moves generalizing page with
  | nil => rfl
  | cons move moves inductionHypothesis =>
    have rest := fun asked => inductionHypothesis asked clicked.2
    change (Runs.run (Page.step authorityAccepted) (page.step authorityAccepted move) moves).database.cart
      clientSession productId = _
    rcases step_cases authorityAccepted page move with
      ⟨call, rfl, stepped⟩ | ⟨quiet, stepped⟩ |
        ⟨index, working, call, reply, last, rfl, found, served, stepped⟩ |
        ⟨index, answer, rfl, found, stepped⟩
    · obtain ⟨quantity, -, rfl⟩ := plusButton_eq (clicked.1.1 call rfl)
      rw [rest ?_, stepped]
      rw [stepped]
      intro sent member
      cases List.mem_append.mp member with
      | inl old => exact asked sent old
      | inr new => exact ⟨_, List.mem_singleton.mp new⟩
    · rw [rest (by rwa [stepped]), stepped]
    · obtain ⟨quantity, rfl⟩ := asked call (List.mem_of_getElem? found)
      rw [rest ?_, stepped]
      · exact served_elsewhere working.property different served
      · rw [stepped]
        exact fun sent member => asked sent (List.mem_of_mem_eraseIdx member)
    · rw [rest ?_, stepped]
      rw [stepped]
      exact asked

end Runs

/-- No click is lost exactly when the id passes the path and every click waits for the
answers to the earlier ones. From a line that shows what the server has, and with
answers of 200 only, the line ends at its first quantity and the number of clicks, on
the server and on the client, if and only if that is so. -/
theorem clicks_counted_iff (authorityAccepted : Text → Bool) (page : Page) (idle : page.Idle)
    (productId : String) (quantity : Int) (positive : 1 ≤ quantity)
    (shown : shownQuantity page.state productId = some quantity)
    (stored : page.database.cart clientSession productId = some quantity) (moves : List Move)
    (clicked : Runs.Along (step authorityAccepted) (Clicking authorityAccepted productId) page moves)
    (once : 1 ≤ clicks moves) (quiet : (Runs.run (step authorityAccepted) page moves).Idle) :
    ((Runs.run (step authorityAccepted) page moves).database.cart clientSession productId =
        some (quantity + clicks moves) ∧
      shownQuantity (Runs.run (step authorityAccepted) page moves).state productId =
        some (quantity + clicks moves)) ↔
    Plain productId.toList ∧ Runs.Along (step authorityAccepted) Waits page moves := by
  by_cases plain : Plain productId.toList
  · have begun : KeepsUp productId quantity page := .idle positive idle shown stored
    rcases run_keepsUp begun plain moves clicked with ⟨waits, keepsUp⟩ | ⟨hurries, behind⟩
    · refine ⟨fun _ => ⟨plain, waits⟩, ?_⟩
      intro _
      cases keepsUp with
      | idle positive nothing shown stored => exact ⟨stored, shown⟩
      | asked positive waiting => simp [quiet.1] at waiting
      | answered positive reply accepted waiting answers => simp [quiet.2] at answers
    · refine ⟨?_, fun waits => absurd waits.2 hurries⟩
      intro counted
      obtain ⟨final, shows, -, below⟩ := behind.shown
      obtain rfl := Option.some.inj (shows.symm.trans counted.2)
      omega
  · refine ⟨?_, fun passes => absurd passes.1 plain⟩
    intro counted
    have kept := run_elsewhere plain moves
      (by simp [idle.1]) clicked
    rw [counted.1, stored] at kept
    have same := Option.some.inj kept
    omega

/-- A client with one smartphone in its cart, in the state and at the server. -/
def onePhonePage : Page :=
  { state := { initialState with cart := [⟨smartphone, 1⟩] }
    database := (freshDatabase.insertCartItem (some "1") (.integer 1) clientSession).2
    waiting := []
    answers := [] }

/-- Two clicks, one after the answer to the other, so that the second asks for one more. -/
def twoClicks : List Move :=
  [.call (.updateCartItem "1" 2), .process 0 plainWorking, .receive 0,
    .call (.updateCartItem "1" 3), .process 0 plainWorking, .receive 0]

set_option maxRecDepth 4000 in
/-- Both of these clicks are counted, in the cart of the server as on the page. -/
theorem two_clicks_counted :
    (Runs.run (step (fun _ => true)) onePhonePage twoClicks).database.cart clientSession "1" = some 3 ∧
      shownQuantity (Runs.run (step (fun _ => true)) onePhonePage twoClicks).state "1" = some 3 := by
  refine (clicks_counted_iff (fun _ => true) onePhonePage ⟨rfl, rfl⟩ "1" 1 (by decide) rfl (by decide)
    twoClicks ⟨⟨?_, by decide⟩, ⟨?_, by decide⟩, ⟨?_, by decide⟩, ⟨?_, by decide⟩, ⟨?_, by decide⟩,
      ⟨?_, by decide⟩, trivial⟩ (by decide) ⟨rfl, rfl⟩).mpr
    ⟨by decide, ⟨rfl, rfl⟩, trivial, trivial, ⟨rfl, rfl⟩, trivial, trivial, trivial⟩
  all_goals
    rintro call ⟨⟩
    try rfl

/-- Two clicks before the first answer, so that both ask for the same quantity. -/
def doubleClick : List Move :=
  [.call (.updateCartItem "1" 2), .call (.updateCartItem "1" 2), .process 0 plainWorking,
    .process 0 plainWorking, .receive 0, .receive 0]

set_option maxRecDepth 4000 in
/-- One of them is lost: the line ends at two, not at three, because both clicks have asked
for the same quantity. -/
theorem double_click_lost :
    Runs.Along (step (fun _ => true)) (Clicking (fun _ => true) "1") onePhonePage doubleClick ∧
      clicks doubleClick = 2 ∧ (Runs.run (step (fun _ => true)) onePhonePage doubleClick).Idle ∧
      shownQuantity (Runs.run (step (fun _ => true)) onePhonePage doubleClick).state "1" = some 2 ∧
      ¬ ∀ moves,
        Runs.Along (step (fun _ => true)) (Clicking (fun _ => true) "1") onePhonePage moves →
        1 ≤ clicks moves → (Runs.run (step (fun _ => true)) onePhonePage moves).Idle →
        (Runs.run (step (fun _ => true)) onePhonePage moves).database.cart clientSession "1" =
          some (1 + clicks moves) := by
  have clicked : Runs.Along (step (fun _ => true)) (Clicking (fun _ => true) "1") onePhonePage
      doubleClick := by
    refine ⟨⟨?_, by decide⟩, ⟨?_, by decide⟩, ⟨?_, by decide⟩, ⟨?_, by decide⟩, ⟨?_, by decide⟩,
      ⟨?_, by decide⟩, trivial⟩
    all_goals
      rintro call ⟨⟩
      try rfl
  have quiet : (Runs.run (step (fun _ => true)) onePhonePage doubleClick).Idle := ⟨rfl, rfl⟩
  refine ⟨clicked, rfl, quiet, rfl, ?_⟩
  intro counted
  exact absurd (counted doubleClick clicked (by decide) quiet) (by decide)

end Page

end ShoppingCS.Client
