import ShoppingCS.Client.Browser

/-!
# Visits to the checkout page

The checkout page keeps the form and shows that an order is being processed; it does not
keep the customer from pressing the button again. Each press with an accepted form starts a
call of its own, which holds on to the cart of the page as it was, and ends on the page for
successful orders, wherever the customer is by then. Meanwhile the browser makes other calls,
the cart may become empty, which takes the form away, and pages are left and opened again.
-/

namespace ShoppingCS.Client

open Interleaving Shop Storage

/-- The inputs of the form that have an `onChange`. The country has none and stays as it is.
-/
inductive FormField where
  | firstName
  | lastName
  | email
  | phone
  | street
  | city
  | state
  | zipCode
  | cardNumber
  | expiryDate
  | cvv
  | nameOnCard
deriving DecidableEq

/-- The data of a form that has just appeared: all texts empty, except for the country. -/
def emptyForm : OrderData where
  customerInfo := { firstName := "", lastName := "", email := "", phone := "" }
  shippingAddress := { street := "", city := "", state := "", zipCode := "", country := "US" }
  paymentMethod := { cardNumber := "", expiryDate := "", cvv := "", nameOnCard := "" }

/-- `updateField`, which replaces one member of the nested data and copies the rest. -/
def updateField (prev : OrderData) (value : String) : FormField → OrderData
  | .firstName => { prev with customerInfo := { prev.customerInfo with firstName := value } }
  | .lastName => { prev with customerInfo := { prev.customerInfo with lastName := value } }
  | .email => { prev with customerInfo := { prev.customerInfo with email := value } }
  | .phone => { prev with customerInfo := { prev.customerInfo with phone := value } }
  | .street => { prev with shippingAddress := { prev.shippingAddress with street := value } }
  | .city => { prev with shippingAddress := { prev.shippingAddress with city := value } }
  | .state => { prev with shippingAddress := { prev.shippingAddress with state := value } }
  | .zipCode => { prev with shippingAddress := { prev.shippingAddress with zipCode := value } }
  | .cardNumber => { prev with paymentMethod := { prev.paymentMethod with cardNumber := value } }
  | .expiryDate => { prev with paymentMethod := { prev.paymentMethod with expiryDate := value } }
  | .cvv => { prev with paymentMethod := { prev.paymentMethod with cvv := value } }
  | .nameOnCard => { prev with paymentMethod := { prev.paymentMethod with nameOnCard := value } }

/-- An opened checkout page with the state of its form. The number tells the mounts apart, as
a page that is left and entered again is a new one. -/
structure OpenedPage where
  mount : Nat
  formData : OrderData
  errors : List FormError
  isProcessing : Bool

/-- A press of the button that was accepted: the place of its request, and what the call
has kept of the page. -/
structure Submission where
  index : Nat
  mount : Nat
  cart : List CartLine
  formData : OrderData

/-- A page for a successful order, and the submission it is for. -/
structure OrderSuccess where
  orderId : String
  total : Int
  index : Nat

/-- The browser, the checkout pages opened so far, the one that is open, and what has been
submitted and shown. -/
structure CheckoutVisit where
  browser : Browser
  mounts : Nat
  page : Option OpenedPage
  submissions : List Submission
  successes : List OrderSuccess

namespace CheckoutVisit

/-- The customer enters or leaves the page, types or presses the button; or something else
happens in the browser. -/
inductive Move where
  | browse (move : Browser.Move)
  | enter
  | leave
  | type (field : FormField) (value : String)
  | submit

/-- The application has been loaded and no checkout page has been entered yet. -/
def started (initial : Database) : CheckoutVisit :=
  { browser := .opened initial, mounts := 0, page := none, submissions := [], successes := [] }

/-- Only the page makes orders, so among the moves of the browser this one is left to the
button. -/
def makesOrder : Browser.Move → Bool
  | .call (.createOrder _) => true
  | _ => false

/-- The call of the page that a move of the browser ends, and its response. -/
def ended? (browser : Browser) : Browser.Move → Option (Nat × ApiResponse)
  | .receive place =>
    match browser.inFlight[place]?, browser.answer? place with
    | some (.createOrder _, index), some (_, reply) => some (index, Client.receive reply)
    | _, _ => none
  | .lose place message =>
    match browser.inFlight[place]? with
    | some (.createOrder _, index) => some (index, Browser.failure message.val)
    | _ => none
  | _ => none

/-- The end of `handleOrderSubmit`: with an order the success page is shown, and what was
processing is so no longer. -/
def finish (visit : CheckoutVisit) (submission : Submission) (response : ApiResponse) :
    CheckoutVisit :=
  match response.success, response.data with
  | true, some (.order order) =>
    { visit with
      page := none
      successes := visit.successes ++
        [⟨order.id, CheckoutPage.total submission.cart, submission.index⟩] }
  | _, _ =>
    { visit with
      page := visit.page.map (fun page =>
        if page.mount = submission.mount then { page with isProcessing := false } else page) }

/-- Without a cart there is no form, and the next one is empty. -/
def rendered (visit : CheckoutVisit) : CheckoutVisit :=
  { visit with
    page := visit.page.map (fun page =>
      if visit.browser.app.cart = [] then { page with formData := emptyForm, errors := [] }
      else page) }

/-- `handleSubmit` and the beginning of `handleOrderSubmit`: a form that is not valid shows
its errors, a valid one makes the call. -/
def press (platform : Platform) (visit : CheckoutVisit) (page : OpenedPage) : CheckoutVisit :=
  if validateForm page.formData then
    { visit with
      browser := visit.browser.step platform (.call (.createOrder page.formData))
      page := some { page with errors := newErrors page.formData, isProcessing := true }
      submissions := visit.submissions ++ [{
        index := visit.browser.shop.tasks.length
        mount := page.mount
        cart := visit.browser.app.cart
        formData := page.formData }] }
  else { visit with page := some { page with errors := newErrors page.formData } }

/-- Something happens in the browser beside the page. When it ends the call of a submission,
the page goes on with the result. -/
def browse (platform : Platform) (visit : CheckoutVisit) (move : Browser.Move) : CheckoutVisit :=
  let moved := { visit with browser := visit.browser.step platform move }
  match ended? visit.browser move with
  | some (index, response) =>
    match visit.submissions.find? (fun submission => decide (submission.index = index)) with
    | some submission => moved.finish submission response
    | none => moved
  | none => moved

/-- One move: of the browser, or of the page, which is entered and left, filled in and
submitted. -/
def step (platform : Platform) (visit : CheckoutVisit) : Move → CheckoutVisit
  | .browse move => if makesOrder move then visit else (visit.browse platform move).rendered
  | .enter =>
    { visit with
      mounts := visit.mounts + 1
      page := some
        { mount := visit.mounts, formData := emptyForm, errors := [], isProcessing := false } }
  | .leave => { visit with page := none }
  | .type field value =>
    match visit.page with
    | some page =>
      if visit.browser.app.cart = [] then visit
      else { visit with page := some { page with formData := updateField page.formData value field } }
    | none => visit
  | .submit =>
    match visit.page with
    | some page => if visit.browser.app.cart = [] then visit else visit.press platform page
    | none => visit

/-- The moves in their order, from any state of the visit. -/
def run (platform : Platform) (visit : CheckoutVisit) (moves : List Move) : CheckoutVisit :=
  Runs.run (step platform) visit moves

/-- A submission whose call is still in flight, of the page that was opened so. -/
def Busy (visit : CheckoutVisit) (mount : Nat) : Prop :=
  ∃ submission ∈ visit.submissions, submission.mount = mount ∧
    (.createOrder submission.formData, submission.index) ∈ visit.browser.inFlight

/-- A submission was accepted by the form, and has made its one request. -/
structure Accepted (shop : ShopState) (submission : Submission) : Prop where
  cart : submission.cart ≠ []
  form : validateForm submission.formData = true
  request : ∃ task, shop.tasks[submission.index]? = some task ∧
    IsCheckout task.request.operation

/-- A success page is for a submission whose request has created the order. -/
structure Confirmed (shop : ShopState) (submissions : List Submission) (success : OrderSuccess) :
    Prop where
  submission : ∃ submission ∈ submissions, submission.index = success.index ∧
    success.total = CheckoutPage.total submission.cart
  created : ∃ task view, shop.tasks[success.index]? = some task ∧
    task.answer? = some ⟨201, .order view⟩ ∧ view.id = success.orderId

/-- What holds of the visits in every run. Each order in flight was submitted by one press,
and each confirmation shown belongs to such a press. -/
structure Sound (platform : Platform) (initial : Database) (visit : CheckoutVisit) : Prop where
  browser : visit.browser.Sound platform initial
  waiting : (visit.browser.inFlight.map Prod.snd).Nodup
  orders : ∀ formData index, (.createOrder formData, index) ∈ visit.browser.inFlight →
    ∃ submission ∈ visit.submissions, submission.index = index
  distinct : (visit.submissions.map Submission.index).Nodup
  accepted : ∀ submission ∈ visit.submissions, Accepted visit.browser.shop submission
  processing : ∀ page ∈ visit.page, page.isProcessing = true → visit.Busy page.mount
  confirmed : ∀ success ∈ visit.successes,
    Confirmed visit.browser.shop visit.submissions success
  once : (visit.successes.map OrderSuccess.index).Nodup
  settled : ∀ success ∈ visit.successes, success.index ∉ visit.browser.inFlight.map Prod.snd

variable {platform : Platform} {initial : Database} {visit : CheckoutVisit}

/-- The server works on, and what it has accepted for a submission stays accepted. -/
theorem Accepted.later {shop : ShopState} {submission : Submission}
    (accepted : Accepted shop submission) (actions : List (Action Request Choice)) :
    Accepted (server.run shop actions) submission where
  cart := accepted.cart
  form := accepted.form
  request := by
    obtain ⟨task, present, checkout⟩ := accepted.request
    obtain ⟨next, there, same, -⟩ := Service.run_extends actions present
    exact ⟨next, there, by rw [same]; exact checkout⟩

/-- A confirmation stays right, as answers are not taken back and submissions are not
forgotten. -/
theorem Confirmed.later {shop : ShopState} {submissions more : List Submission}
    {success : OrderSuccess} (confirmed : Confirmed shop submissions success)
    (actions : List (Action Request Choice)) (kept : submissions ⊆ more) :
    Confirmed (server.run shop actions) more success where
  submission := by
    obtain ⟨submission, member, named⟩ := confirmed.submission
    exact ⟨submission, kept member, named⟩
  created := by
    obtain ⟨task, view, present, answered, named⟩ := confirmed.created
    exact ⟨task, view, Service.run_keeps_answer actions present (by simp [answered]), answered, named⟩

/-- A submission that was accepted has its request among those of the server. -/
theorem Accepted.inside {shop : ShopState} {submission : Submission}
    (accepted : Accepted shop submission) : submission.index < shop.tasks.length := by
  obtain ⟨task, present, -⟩ := accepted.request
  exact (List.getElem?_eq_some_iff.mp present).1

/-- A confirmation too belongs to a request the server has. -/
theorem Confirmed.inside {shop : ShopState} {submissions : List Submission}
    {success : OrderSuccess} (confirmed : Confirmed shop submissions success) :
    success.index < shop.tasks.length := by
  obtain ⟨task, view, present, -⟩ := confirmed.created
  exact (List.getElem?_eq_some_iff.mp present).1

/-- The page submits an accepted form of a cart that is not empty. -/
theorem submit_accepts {prepareValue : Json → String} {cart : List CartLine} {formData : OrderData}
    {request : Request} (submitted : CheckoutPage.submit prepareValue cart formData = some request) :
    cart ≠ [] ∧ validateForm formData = true := by
  unfold CheckoutPage.submit at submitted
  split_ifs at submitted with empty accepted
  exact ⟨fun same => empty (by rw [same]; rfl), accepted⟩

/-- A call in flight is found by the place of its request. -/
theorem Sound.unique (sound : visit.Sound platform initial) {first second : ContextCall} {index : Nat}
    (one : (first, index) ∈ visit.browser.inFlight)
    (other : (second, index) ∈ visit.browser.inFlight) : first = second :=
  (Prod.mk.inj (List.inj_on_of_nodup_map sound.waiting one other rfl)).1

/-- After a call has returned the other requests are still in flight, and it is not. -/
theorem Sound.mem_eraseIdx (sound : visit.Sound platform initial) {place : Nat} {call : ContextCall}
    {index : Nat} (waiting : visit.browser.inFlight[place]? = some (call, index))
    (entry : ContextCall × Nat) :
    entry ∈ visit.browser.inFlight.eraseIdx place ↔
      entry ∈ visit.browser.inFlight ∧ entry.2 ≠ index := by
  rw [List.mem_eraseIdx_iff_getElem?]
  constructor
  · rintro ⟨other, apart, found⟩
    refine ⟨List.mem_of_getElem? found, fun same => apart ?_⟩
    have inside : other < (visit.browser.inFlight.map Prod.snd).length := by
      rw [List.length_map]
      exact (List.getElem?_eq_some_iff.mp found).1
    apply (List.getElem?_inj inside sound.waiting).mp
    rw [List.getElem?_map, List.getElem?_map, found, waiting, Option.map_some, Option.map_some, same]
  · rintro ⟨member, apart⟩
    obtain ⟨other, found⟩ := List.mem_iff_getElem?.mp member
    refine ⟨other, ?_, found⟩
    rintro rfl
    exact apart (Prod.mk.inj (Option.some.inj (found.symm.trans waiting))).2

/-- The requests in flight have been accepted by the server, since a call and its request are
made in one move. -/
theorem Sound.inside (sound : visit.Sound platform initial) {call : ContextCall} {index : Nat}
    (member : (call, index) ∈ visit.browser.inFlight) :
    index < visit.browser.shop.tasks.length := by
  obtain ⟨task, cart, present, -⟩ := sound.browser.asked call index member
  exact (List.getElem?_eq_some_iff.mp present).1

/-- The application has just been loaded, so there is nothing to confirm and nothing in
flight. -/
theorem sound_started (platform : Platform) (initial : Database) :
    (started initial).Sound platform initial where
  browser := Browser.sound_opened platform initial
  waiting := List.nodup_nil
  orders := fun formData index member => absurd member (by simp [started, Browser.opened])
  distinct := List.nodup_nil
  accepted := fun submission member => absurd member (by simp [started])
  processing := fun page member => absurd member (by simp [started])
  confirmed := fun success member => absurd member (by simp [started])
  once := List.nodup_nil
  settled := fun success member => absurd member (by simp [started])

/-- The page changes, but not to one that is processing more. -/
theorem Sound.turn (sound : visit.Sound platform initial) (page : Option OpenedPage) (mounts : Nat)
    (processing : ∀ current ∈ page, current.isProcessing = true → visit.Busy current.mount) :
    Sound platform initial { visit with page := page, mounts := mounts } where
  browser := sound.browser
  waiting := sound.waiting
  orders := sound.orders
  distinct := sound.distinct
  accepted := sound.accepted
  processing := processing
  confirmed := sound.confirmed
  once := sound.once
  settled := sound.settled

/-- The browser goes on, with nothing new in flight and every submission of an open page. -/
theorem Sound.goes_on (sound : visit.Sound platform initial) {browser : Browser}
    (next : browser.Sound platform initial) (actions : List (Action Request Choice))
    (shop : browser.shop = server.run visit.browser.shop actions)
    (flight : browser.inFlight.Sublist visit.browser.inFlight)
    (processing : ∀ page ∈ visit.page, page.isProcessing = true →
      CheckoutVisit.Busy { visit with browser := browser } page.mount) :
    Sound platform initial { visit with browser := browser } where
  browser := next
  waiting := sound.waiting.sublist (flight.map Prod.snd)
  orders := fun formData index member => sound.orders formData index (flight.subset member)
  distinct := sound.distinct
  accepted := fun submission member => by
    rw [shop]
    exact (sound.accepted submission member).later actions
  processing := processing
  confirmed := fun success member => by
    rw [shop]
    exact (sound.confirmed success member).later actions (fun _ same => same)
  once := sound.once
  settled := fun success member there =>
    sound.settled success member ((flight.map Prod.snd).subset there)

/-- A call is made. Its request takes the next place of the server, so it cannot be mistaken
for another one's. -/
theorem Sound.calls (sound : visit.Sound platform initial) {call : ContextCall} {request : Request}
    (asked : call.request? platform visit.browser.app.cart = some request)
    (made : List Submission)
    (sole : made = [] ∧ (∀ formData, call ≠ .createOrder formData) ∨
      ∃ mount formData, call = .createOrder formData ∧
        made = [⟨visit.browser.shop.tasks.length, mount, visit.browser.app.cart, formData⟩])
    (page : Option OpenedPage)
    (processing : ∀ current ∈ page, current.isProcessing = true →
      visit.Busy current.mount ∨ ∃ submission ∈ made, submission.mount = current.mount) :
    Sound platform initial { visit with
      browser := visit.browser.step platform (.call call)
      page := page
      submissions := visit.submissions ++ made } := by
  have next : visit.browser.step platform (.call call) =
      { app := dispatch visit.browser.app call.begins
        inFlight := visit.browser.inFlight ++ [(call, visit.browser.shop.tasks.length)]
        shop := server.step visit.browser.shop (.start request) } := by
    rw [Browser.step, asked]
  have shop : (visit.browser.step platform (.call call)).shop =
      server.run visit.browser.shop [.start request] := by
    rw [next]
    rfl
  have fresh : visit.browser.shop.tasks.length ∉ visit.browser.inFlight.map Prod.snd := by
    intro there
    obtain ⟨⟨other, index⟩, member, same⟩ := List.mem_map.mp there
    have inside := sound.inside member
    change index = _ at same
    omega
  constructor
  · exact sound.browser.step (.call call)
  · rw [next]
    change ((visit.browser.inFlight ++ [_]).map Prod.snd).Nodup
    rw [List.map_append, List.map_singleton, List.nodup_append]
    refine ⟨sound.waiting, List.nodup_singleton _, ?_⟩
    rintro index there other new rfl
    obtain rfl := List.mem_singleton.mp new
    exact fresh there
  · intro formData index member
    rw [next] at member
    cases List.mem_append.mp member with
    | inl old =>
      obtain ⟨submission, there, same⟩ := sound.orders formData index old
      exact ⟨submission, List.mem_append_left _ there, same⟩
    | inr new =>
      obtain ⟨rfl, rfl⟩ := Prod.mk.inj (List.mem_singleton.mp new)
      rcases sole with ⟨-, other⟩ | ⟨mount, own, -, rfl⟩
      · exact absurd rfl (other formData)
      · exact ⟨_, List.mem_append_right _ List.mem_cons_self, rfl⟩
  · rcases sole with ⟨rfl, -⟩ | ⟨mount, formData, -, rfl⟩
    · rw [List.append_nil]
      exact sound.distinct
    · rw [List.map_append, List.map_singleton, List.nodup_append]
      refine ⟨sound.distinct, List.nodup_singleton _, ?_⟩
      rintro index there other new rfl
      obtain rfl := List.mem_singleton.mp new
      obtain ⟨submission, member, same⟩ := List.mem_map.mp there
      have inside := (sound.accepted submission member).inside
      rw [same] at inside
      exact Nat.lt_irrefl _ inside
  · intro submission member
    rw [shop]
    cases List.mem_append.mp member with
    | inl old => exact (sound.accepted submission old).later _
    | inr new =>
      rcases sole with ⟨rfl, -⟩ | ⟨mount, formData, rfl, rfl⟩
      · exact absurd new List.not_mem_nil
      · obtain rfl := List.mem_singleton.mp new
        obtain ⟨cart, form⟩ := submit_accepts asked
        refine ⟨cart, form, server.accept request, List.getElem?_concat_length, ?_⟩
        rw [submit_some asked]
        rfl
  · intro current member processes
    have flight : visit.browser.inFlight ⊆ (visit.browser.step platform (.call call)).inFlight := by
      rw [next]
      exact List.subset_append_left _ _
    rcases processing current member processes with
      ⟨submission, there, same, waits⟩ | ⟨submission, new, same⟩
    · exact ⟨submission, List.mem_append_left _ there, same, flight waits⟩
    · refine ⟨submission, List.mem_append_right _ new, same, ?_⟩
      rcases sole with ⟨rfl, -⟩ | ⟨mount, formData, rfl, rfl⟩
      · exact absurd new List.not_mem_nil
      · obtain rfl := List.mem_singleton.mp new
        rw [next]
        exact List.mem_append_right _ List.mem_cons_self
  · intro success member
    rw [shop]
    exact (sound.confirmed success member).later _ (List.subset_append_left _ _)
  · exact sound.once
  · intro success member there
    rw [next] at there
    change success.index ∈ (visit.browser.inFlight ++ [_]).map Prod.snd at there
    rw [List.map_append, List.map_singleton] at there
    cases List.mem_append.mp there with
    | inl old => exact sound.settled success member old
    | inr new =>
      have inside := (sound.confirmed success member).inside
      have same : success.index = visit.browser.shop.tasks.length := List.mem_singleton.mp new
      omega

/-- A page is still busy when a call has ended that none of its submissions has made. -/
theorem Sound.still_busy (sound : visit.Sound platform initial) {place : Nat} {call : ContextCall}
    {index : Nat} (waiting : visit.browser.inFlight[place]? = some (call, index))
    (response : ApiResponse) {mount : Nat} (busy : visit.Busy mount)
    (other : ∀ submission ∈ visit.submissions, submission.mount = mount →
      (ContextCall.createOrder submission.formData, submission.index) ≠ (call, index)) :
    CheckoutVisit.Busy { visit with browser := visit.browser.settle place call response } mount := by
  obtain ⟨submission, member, same, there⟩ := busy
  refine ⟨submission, member, same, (sound.mem_eraseIdx waiting _).mpr ⟨there, fun own => ?_⟩⟩
  have place : submission.index = index := own
  have ended : (call, submission.index) ∈ visit.browser.inFlight := by
    rw [place]
    exact List.mem_of_getElem? waiting
  apply other submission member same
  rw [sound.unique there ended, place]

/-- The call of a submission ends: with an order a success page is shown. -/
theorem Sound.finishes (sound : visit.Sound platform initial) {place : Nat} {formData : OrderData}
    {submission : Submission} (member : submission ∈ visit.submissions)
    (waiting : visit.browser.inFlight[place]? = some (.createOrder formData, submission.index))
    {response : ApiResponse}
    (next : (visit.browser.settle place (.createOrder formData) response).Sound platform initial)
    (created : ∀ view, response.success = true → response.data = some (.order view) →
      ∃ task, visit.browser.shop.tasks[submission.index]? = some task ∧
        task.answer? = some ⟨201, .order view⟩) :
    Sound platform initial (finish
      { visit with browser := visit.browser.settle place (.createOrder formData) response }
      submission response) := by
  have flight : (visit.browser.settle place (.createOrder formData) response).inFlight.Sublist
      visit.browser.inFlight := List.eraseIdx_sublist _ _
  unfold finish
  split
  · rename_i order success data
    have left : Sound platform initial { visit with page := none } :=
      sound.turn none visit.mounts (fun current open_ => absurd open_ (by simp))
    have gone := left.goes_on next [] rfl flight (fun current open_ => absurd open_ (by simp))
    obtain ⟨task, present, answered⟩ := created order success data
    have inFlight : submission.index ∈ visit.browser.inFlight.map Prod.snd :=
      List.mem_map.mpr ⟨_, List.mem_of_getElem? waiting, rfl⟩
    refine { gone with confirmed := ?_, once := ?_, settled := ?_ }
    · intro shown there
      cases List.mem_append.mp there with
      | inl old => exact gone.confirmed shown old
      | inr new =>
        obtain rfl := List.mem_singleton.mp new
        exact ⟨⟨submission, member, rfl, rfl⟩, ⟨task, order, present, answered, rfl⟩⟩
    · rw [List.map_append, List.map_singleton, List.nodup_append]
      refine ⟨sound.once, List.nodup_singleton _, ?_⟩
      rintro index there other new rfl
      obtain rfl := List.mem_singleton.mp new
      obtain ⟨shown, old, same⟩ := List.mem_map.mp there
      exact sound.settled shown old (same ▸ inFlight)
    · intro shown there still
      cases List.mem_append.mp there with
      | inl old => exact gone.settled shown old still
      | inr new =>
        obtain rfl := List.mem_singleton.mp new
        obtain ⟨entry, left, same⟩ := List.mem_map.mp still
        exact ((sound.mem_eraseIdx waiting entry).mp left).2 same
  · have idle : ∀ current ∈ visit.page.map (fun page =>
        if page.mount = submission.mount then { page with isProcessing := false } else page),
        current.isProcessing = true → current.mount ≠ submission.mount ∧ visit.Busy current.mount := by
      intro current there processes
      obtain ⟨page, open_, rfl⟩ := Option.mem_map.mp there
      split_ifs at processes ⊢ with same
      exact ⟨same, sound.processing page open_ processes⟩
    have turned : Sound platform initial { visit with page := visit.page.map (fun page =>
        if page.mount = submission.mount then { page with isProcessing := false } else page) } :=
      sound.turn _ visit.mounts (fun current there processes => (idle current there processes).2)
    apply turned.goes_on next [] rfl flight
    intro current there processes
    obtain ⟨apart, busy⟩ := idle current there processes
    apply turned.still_busy waiting response busy
    intro other known same entry
    obtain rfl := List.inj_on_of_nodup_map sound.distinct known member (Prod.mk.inj entry).2
    exact apart same.symm

/-- A call returns, of the page or of another component. If it made an order, its submission
is the one that is confirmed or fails. -/
theorem Sound.returns (sound : visit.Sound platform initial) {move : Browser.Move} {place : Nat}
    {call : ContextCall} {index : Nat}
    (waiting : visit.browser.inFlight[place]? = some (call, index)) (response : ApiResponse)
    (stepped : visit.browser.step platform move = visit.browser.settle place call response)
    (own : ∀ formData, call = .createOrder formData →
      ended? visit.browser move = some (index, response))
    (foreign : (∀ formData, call ≠ .createOrder formData) → ended? visit.browser move = none)
    (created : ∀ formData view, call = .createOrder formData → response.success = true →
      response.data = some (.order view) → ∃ task, visit.browser.shop.tasks[index]? = some task ∧
        task.answer? = some ⟨201, .order view⟩) :
    (visit.browse platform move).Sound platform initial := by
  have next : (visit.browser.settle place call response).Sound platform initial :=
    stepped ▸ sound.browser.step move
  by_cases order : ∃ formData, call = .createOrder formData
  · obtain ⟨formData, rfl⟩ := order
    obtain ⟨known, there, named⟩ := sound.orders formData index (List.mem_of_getElem? waiting)
    have some_ : (visit.submissions.find? (fun submission =>
        decide (submission.index = index))).isSome :=
      List.find?_isSome.mpr ⟨known, there, decide_eq_true named⟩
    obtain ⟨submission, found⟩ := Option.isSome_iff_exists.mp some_
    obtain rfl : submission.index = index := by simpa using List.find?_some found
    have browsed : visit.browse platform move = finish
        { visit with browser := visit.browser.settle place (.createOrder formData) response }
        submission response := by
      simp only [browse, own formData rfl, found, stepped]
    rw [browsed]
    exact sound.finishes (List.mem_of_find?_eq_some found) waiting next
      (fun view => created formData view rfl)
  · have none_ : ∀ formData, call ≠ .createOrder formData := fun formData same =>
      order ⟨formData, same⟩
    have browsed : visit.browse platform move =
        { visit with browser := visit.browser.settle place call response } := by
      simp only [browse, foreign none_, stepped]
    rw [browsed]
    apply sound.goes_on next [] rfl (List.eraseIdx_sublist _ _)
    intro page open_ processes
    apply sound.still_busy waiting response (sound.processing page open_ processes)
    intro submission member same entry
    exact none_ _ (Prod.mk.inj entry).1.symm

/-- If the browser does not change and no call ends, neither does the visit. -/
theorem browse_idle {move : Browser.Move}
    (stepped : visit.browser.step platform move = visit.browser)
    (ended : ended? visit.browser move = none) : visit.browse platform move = visit := by
  simp only [browse, ended, stepped]

/-- A move of the browser that makes no order keeps the visits sound; by cases on what it
starts or ends. -/
theorem Sound.browse (sound : visit.Sound platform initial) {move : Browser.Move}
    (other : makesOrder move = false) : (visit.browse platform move).Sound platform initial := by
  have next : (visit.browser.step platform move).Sound platform initial :=
    sound.browser.step move
  cases move with
  | call call =>
    cases asked : call.request? platform visit.browser.app.cart with
    | none =>
      rw [browse_idle (by rw [Browser.step, asked]) rfl]
      exact sound
    | some request =>
      have sole : ∀ formData, call ≠ .createOrder formData := by
        rintro formData rfl
        exact absurd other (by simp [makesOrder])
      have called := sound.calls asked [] (Or.inl ⟨rfl, sole⟩) visit.page
        (fun page open_ processes => Or.inl (sound.processing page open_ processes))
      rw [List.append_nil] at called
      exact called
  | serve action =>
    exact sound.goes_on next [action] rfl (List.Sublist.refl _) sound.processing
  | receive place =>
    cases answered : visit.browser.answer? place with
    | none =>
      rw [browse_idle (by rw [Browser.step, answered]) (by simp [ended?, answered])]
      exact sound
    | some outcome =>
      obtain ⟨call, reply⟩ := outcome
      obtain ⟨index, task, waiting, present, replied⟩ := Browser.answer?_eq_some.mp answered
      apply sound.returns waiting (Client.receive reply) (by rw [Browser.step, answered])
      · rintro formData rfl
        simp [ended?, waiting, answered]
      · intro foreign
        cases call with
        | createOrder formData => exact absurd rfl (foreign formData)
        | _ => simp [ended?, waiting]
      · rintro formData view rfl success data
        obtain ⟨found, cart, there, asked⟩ :=
          sound.browser.asked _ index (List.mem_of_getElem? waiting)
        obtain rfl := Option.some.inj (present.symm.trans there)
        have status := (receive_success (sound.browser.concludes present replied)).mp success
        rw [submit_some asked] at status
        have body : reply.body = .order view :=
          Option.some.inj ((receive_data success).symm.trans data)
        refine ⟨task, present, replied.trans (congrArg some ?_)⟩
        exact congrArg₂ Reply.mk status body
  | lose place message =>
    cases waiting : visit.browser.inFlight[place]? with
    | none =>
      rw [browse_idle (by rw [Browser.step, waiting]) (by simp [ended?, waiting])]
      exact sound
    | some entry =>
      obtain ⟨call, index⟩ := entry
      apply sound.returns waiting (Browser.failure message.val)
        (by rw [Browser.step, waiting])
      · rintro formData rfl
        simp [ended?, waiting]
      · intro foreign
        cases call with
        | createOrder formData => exact absurd rfl (foreign formData)
        | _ => simp [ended?, waiting]
      · intro formData view same success
        exact absurd success (by simp [Browser.failure])

/-- Rendering changes neither what is in flight nor what is processed. -/
theorem Sound.renders (sound : visit.Sound platform initial) :
    visit.rendered.Sound platform initial := by
  apply sound.turn _ visit.mounts
  intro current there processes
  obtain ⟨page, open_, rfl⟩ := Option.mem_map.mp there
  split_ifs at processes ⊢
  · exact sound.processing page open_ processes
  · exact sound.processing page open_ processes

/-- The button is pressed. A valid form becomes one submission with one request, and an
invalid one none. -/
theorem Sound.presses (sound : visit.Sound platform initial) {page : OpenedPage}
    (open_ : visit.page = some page) (cart : visit.browser.app.cart ≠ []) :
    (visit.press platform page).Sound platform initial := by
  unfold press
  split_ifs with accepted
  · have asked : (ContextCall.createOrder page.formData).request? platform
        visit.browser.app.cart = some _ := CheckoutPage.submit_accepted accepted cart
    apply sound.calls asked
      [⟨visit.browser.shop.tasks.length, page.mount, visit.browser.app.cart, page.formData⟩]
      (Or.inr ⟨page.mount, page.formData, rfl, rfl⟩) (some _)
    intro current there _
    obtain rfl := Option.some.inj there
    exact Or.inr ⟨_, List.mem_cons_self, rfl⟩
  · apply sound.turn _ visit.mounts
    intro current there processes
    obtain rfl := Option.some.inj there
    exact sound.processing page open_ processes

/-- Every move keeps a visit sound, by the lemma for that kind of move. -/
theorem Sound.step (sound : visit.Sound platform initial) (move : Move) :
    (visit.step platform move).Sound platform initial := by
  cases move with
  | browse move =>
    rw [CheckoutVisit.step]
    split_ifs with makes
    · exact sound
    · exact (sound.browse (Bool.eq_false_iff.mpr makes)).renders
  | enter =>
    apply sound.turn _ (visit.mounts + 1)
    intro current there processes
    obtain rfl := Option.some.inj there
    exact absurd processes Bool.false_ne_true
  | leave => exact sound.turn none visit.mounts (fun current there => absurd there (by simp))
  | type field value =>
    rw [CheckoutVisit.step]
    split
    · rename_i page open_
      split_ifs
      · exact sound
      · apply sound.turn _ visit.mounts
        intro current there processes
        obtain rfl := Option.some.inj there
        exact sound.processing page open_ processes
    · exact sound
  | submit =>
    rw [CheckoutVisit.step]
    split
    · rename_i page open_
      split_ifs with empty
      · exact sound
      · exact sound.presses open_ empty
    · exact sound

/-- So every visit that can be reached from a fresh application is sound. -/
theorem run_sound (platform : Platform) (initial : Database) (moves : List Move) :
    ((started initial).run platform moves).Sound platform initial :=
  Runs.run_always (Sound platform initial) (fun _ move sound => sound.step move) _ moves
    (sound_started platform initial)

/-- Whatever the customer and the browser do, whatever the server does for others and however
calls fail: while the page says that an order is being processed, a call of this page is in
flight; each accepted press has made one request of its own, with a form that was accepted and
a cart that was not empty; and no order is confirmed twice. Each success page is for one such
press, shows the total of the cart that was pressed for, and names the stored order that the
request of that press has created. -/
theorem successes_are_orders (platform : Platform) (initial : Database) (moves : List Move) :
    let visit := (started initial).run platform moves
    (∀ page ∈ visit.page, page.isProcessing = true → visit.Busy page.mount) ∧
      (visit.submissions.map Submission.index).Nodup ∧
      (∀ submission ∈ visit.submissions, Accepted visit.browser.shop submission) ∧
      (visit.successes.map OrderSuccess.orderId).Nodup ∧
      ∀ success ∈ visit.successes, ∃ submission ∈ visit.submissions,
        success.total = CheckoutPage.total submission.cart ∧
          ∃ task order, visit.browser.shop.tasks[submission.index]? = some task ∧
            opened task.trace = [success.orderId] ∧ order.id = success.orderId ∧
            order ∈ visit.browser.shop.store.orders.rows := by
  intro visit
  have sound : visit.Sound platform initial := run_sound platform initial moves
  have created : ∀ success ∈ visit.successes, ∃ task order,
      visit.browser.shop.tasks[success.index]? = some task ∧
        opened task.trace = [success.orderId] ∧ order.id = success.orderId ∧
        order ∈ visit.browser.shop.store.orders.rows := by
    intro success member
    obtain ⟨submission, known, named, -⟩ := (sound.confirmed success member).submission
    obtain ⟨found, there, checkout⟩ := (sound.accepted submission known).request
    obtain ⟨task, view, present, answered, shown⟩ := (sound.confirmed success member).created
    rw [named] at there
    obtain rfl := Option.some.inj (there.symm.trans present)
    obtain ⟨actions, reached⟩ := sound.browser.reached
    rw [reached] at present ⊢
    obtain ⟨rows, order, items, same, snapshot⟩ :=
      created_snapshot present checkout answered rfl
    obtain ⟨others, reread⟩ := snapshot.reread
    have view_ : view = orderView order items := Body.order.inj (Reply.mk.inj same).2
    have id : order.id = success.orderId := by
      rw [← shown, view_]
      rfl
    refine ⟨found, order, present, id ▸ snapshot.opens, id, ?_⟩
    exact run_seenStored initial actions found (List.mem_of_getElem? present) _ reread order (.head _)
  refine ⟨sound.processing, sound.distinct, sound.accepted, ?_, ?_⟩
  · apply List.Nodup.map_on _ (List.Nodup.of_map _ sound.once)
    intro first member second other same
    obtain ⟨one, -, present, opens, -⟩ := created first member
    obtain ⟨two, -, there, opensToo, -⟩ := created second other
    obtain ⟨actions, reached⟩ := sound.browser.reached
    rw [reached] at present there
    have index := (run_documented initial actions).books.owned first.index second.index one two present
      there first.orderId (by simp [opens]) (by simp [opensToo, same])
    exact List.inj_on_of_nodup_map sound.once member other index
  · intro success member
    obtain ⟨submission, known, named, total⟩ := (sound.confirmed success member).submission
    obtain ⟨task, order, present, opens, id, stored⟩ := created success member
    exact ⟨submission, known, total, task, order, named ▸ present, opens, id, stored⟩

/-- Let a request of the server execute its next statements, all of which succeed. -/
def serve (index count : Nat) : List Move :=
  List.replicate count (.browse (.serve (.proceed index .plain)))

/-- A smartphone is put into the cart and the form is filled in; the button is pressed twice
before the first answer is there. -/
def pressedTwice : List Move :=
  .browse (.call (.addToCart smartphone 1)) :: serve 0 4 ++
    [.browse (.receive 0), .enter, .type .firstName "J", .type .lastName "D", .type .email "j@d.e",
      .type .street "S", .type .city "C", .type .zipCode "1",
      .type .cardNumber "1234123412341234", .type .cvv "123", .submit, .submit] ++
    serve 1 1 ++ serve 2 1 ++ serve 1 6 ++ serve 2 6 ++
    [.browse (.receive 0), .browse (.receive 0)]

-- The two presses are two orders of the one smartphone.
set_option maxRecDepth 4000 in
example :
    ((started freshDatabase).run { inPath := id, prepareValue := fun _ => "" } pressedTwice).successes.map
        (fun success => (success.orderId, success.total)) = [("ORD-1", 59999), ("ORD-2", 59999)] := by
  decide +kernel

end CheckoutVisit

end ShoppingCS.Client
