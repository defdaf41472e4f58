import ShoppingCS.Client.CheckoutTotal
import ShoppingCS.Client.ProductGrid
import ShoppingCS.Interleaving.Runs
import ShoppingCS.Shop.Listings

/-!
# A browser with any number of calls in flight

The components call the context whenever they like: a call is made before the answers to
earlier ones have arrived, answers arrive in any order, and some are lost on their way. The
server works for others as well, and its statements fail at any time. What the pages show
of products and orders is nevertheless what the server has stored.
-/

namespace ShoppingCS.Client

open Interleaving Shop Storage

/-- The application, the calls whose answers have not arrived, each with the place of its
request, and the server. -/
structure Browser where
  app : AppState
  inFlight : List (ContextCall × Nat)
  shop : ShopState

namespace Browser

/-- A component makes a call, the server does something, for this browser or another
client, an answer arrives, or a request fails with the message of an exception. -/
inductive Move where
  | call (call : ContextCall)
  | serve (action : Action Request Choice)
  | receive (place : Nat)
  | lose (place : Nat) (message : {text : String // text ≠ ""})
deriving DecidableEq

/-- The application has been loaded from a server with nothing to do. -/
def opened (initial : Database) : Browser :=
  { app := initialState, inFlight := [], shop := Service.idleState initial }

/-- The call in flight at a place, and the answer of the server to it. -/
def answer? (browser : Browser) (place : Nat) : Option (ContextCall × Reply) := do
  let (call, index) ← browser.inFlight[place]?
  let task ← browser.shop.tasks[index]?
  let reply ← task.answer?
  pure (call, reply)

/-- The response of a request that has failed on its way. -/
def failure (message : String) : ApiResponse :=
  { data := none, success := false, message := some message }

/-- A call returns with its response: what it dispatches is applied to the state, and it is no
longer in flight. -/
def settle (browser : Browser) (place : Nat) (call : ContextCall) (response : ApiResponse) :
    Browser :=
  { browser with
    app := dispatch browser.app (call.finishes response)
    inFlight := browser.inFlight.eraseIdx place }

/-- One move: a call is made, the server goes on, or a call in flight gets its answer or is
lost. -/
def step (platform : Platform) (browser : Browser) : Move → Browser
  | .call call =>
    match call.request? platform browser.app.cart with
    | some request =>
      { app := dispatch browser.app call.begins
        inFlight := browser.inFlight ++ [(call, browser.shop.tasks.length)]
        shop := server.step browser.shop (.start request) }
    | none => browser
  | .serve action => { browser with shop := server.step browser.shop action }
  | .receive place =>
    match browser.answer? place with
    | some (call, reply) => browser.settle place call (Client.receive reply)
    | none => browser
  | .lose place message =>
    match browser.inFlight[place]? with
    | some (call, _) => browser.settle place call (failure message.val)
    | none => browser

/-- The moves in their order, from any state of the browser. -/
def run (platform : Platform) (browser : Browser) (moves : List Move) : Browser :=
  Runs.run (step platform) browser moves

end Browser

/-- What the products page renders: a spinner, an error, or the grid. -/
inductive ProductsPage where
  | loading
  | error (text : String)
  | grid (products : List Product)
deriving DecidableEq

/-- `ProductsPage`: the spinner while products load, the error if there is one, and otherwise
the grid. -/
def productsPage (state : AppState) : ProductsPage :=
  if state.loading = true then .loading
  else
    match state.error with
    | some text => if text = "" then .grid state.products else .error text
    | none => .grid state.products

section Finishing

/-- Of all calls only `loadProducts` ends the loading, when it returns. -/
theorem finishing_loading (response : ApiResponse) (state : AppState) (call : ContextCall) :
    (dispatch state (call.finishes response)).loading =
      if call = .loadProducts then false else state.loading := by
  cases call with
  | loadProducts =>
    simp only [ContextCall.finishes]
    split <;> rfl
  | _ =>
    simp only [ContextCall.finishes]
    first
      | rfl
      | split <;> rfl

/-- An answer brings new orders only to `loadOrders` and `createOrder`. -/
theorem finishing_orders (response : ApiResponse) (state : AppState) (call : ContextCall) :
    (dispatch state (call.finishes response)).orders = state.orders ∨
      (∃ views, call = .loadOrders ∧ response.data = some (.orders views) ∧
        (dispatch state (call.finishes response)).orders = views) ∨
      ∃ formData view, call = .createOrder formData ∧ response.data = some (.order view) ∧
        (dispatch state (call.finishes response)).orders = state.orders ++ [view] := by
  cases call with
  | loadOrders =>
    simp only [ContextCall.finishes]
    split
    · rename_i views _ data
      exact Or.inr (Or.inl ⟨views, trivial, data, rfl⟩)
    · exact Or.inl rfl
  | createOrder formData =>
    simp only [ContextCall.finishes]
    split
    · rename_i view _ data
      exact Or.inr (Or.inr ⟨formData, view, rfl, data, rfl⟩)
    · exact Or.inl rfl
  | _ =>
    simp only [ContextCall.finishes]
    first
      | exact Or.inl rfl
      | split <;> exact Or.inl rfl

/-- An error comes from a `loadProducts` that has failed, and names its failure. -/
theorem finishing_error (response : ApiResponse) (state : AppState) (call : ContextCall) :
    (dispatch state (call.finishes response)).error = state.error ∨
      call = .loadProducts ∧ (∀ loaded, response.success = true →
        response.data ≠ some (.products loaded)) ∧
        (dispatch state (call.finishes response)).error =
          some (response.message.getD "Failed to load products") := by
  cases call with
  | loadProducts =>
    simp only [ContextCall.finishes]
    split
    · exact Or.inl rfl
    · rename_i other
      exact Or.inr ⟨trivial, fun loaded success data => other loaded success data, rfl⟩
  | _ =>
    simp only [ContextCall.finishes]
    first
      | exact Or.inl rfl
      | split <;> exact Or.inl rfl

end Finishing

namespace Browser

/-- What holds of a browser in every run: the server has been run from the initial database,
every call in flight has its request there, a spinner is shown only while products are
being loaded, and loaded products are the whole catalogue. -/
structure Sound (platform : Platform) (initial : Database) (browser : Browser) : Prop where
  reached : ∃ actions, browser.shop = server.run (Service.idleState initial) actions
  asked : ∀ call index, (call, index) ∈ browser.inFlight → ∃ task cart,
    browser.shop.tasks[index]? = some task ∧ call.request? platform cart = some task.request
  loading : browser.app.loading = true → ∃ index, (.loadProducts, index) ∈ browser.inFlight
  products : browser.app.products = [] ∨ Catalogue initial browser.app.products

variable {platform : Platform} {initial : Database} {browser : Browser}

/-- An application that has just been loaded has called nothing and shows nothing. -/
theorem sound_opened (platform : Platform) (initial : Database) :
    (opened initial).Sound platform initial where
  reached := ⟨[], rfl⟩
  asked := fun call index member => absurd member (by simp [opened])
  loading := fun loading => absurd loading (by simp [opened, initialState])
  products := Or.inl rfl

/-- The server works on. Requests keep their places, and the browser does not notice. -/
theorem Sound.serve (sound : browser.Sound platform initial) (action : Action Request Choice) :
    Sound platform initial { browser with shop := server.step browser.shop action } where
  reached := by
    obtain ⟨actions, reached⟩ := sound.reached
    refine ⟨actions ++ [action], ?_⟩
    rw [reached, server.run_append]
    rfl
  asked := by
    intro call index member
    obtain ⟨task, cart, present, asked⟩ := sound.asked call index member
    obtain ⟨next, there, same, -⟩ := server.step_extends action present
    exact ⟨next, cart, there, by rw [same]; exact asked⟩
  loading := sound.loading
  products := sound.products

/-- Beginning a call clears the error and starts the loading at most. -/
theorem begins_app (state : AppState) (call : ContextCall) :
    (dispatch state call.begins).products = state.products ∧
      (dispatch state call.begins).orders = state.orders ∧
      ((dispatch state call.begins).loading = true → state.loading = true ∨ call = .loadProducts) ∧
      ∀ text, (dispatch state call.begins).error = some text → state.error = some text := by
  cases call with
  | loadProducts =>
    refine ⟨rfl, rfl, fun _ => Or.inr rfl, fun text same => ?_⟩
    exact absurd same (by simp [dispatch, ContextCall.begins, appReducer])
  | _ => exact ⟨rfl, rfl, fun loading => Or.inl loading, fun text same => same⟩

/-- A call is made. Its request takes the next place at the server, and if the call starts
a spinner, it is a `loadProducts` and in flight. -/
theorem Sound.call (sound : browser.Sound platform initial) {call : ContextCall}
    {request : Request} (asked : call.request? platform browser.app.cart = some request) :
    Sound platform initial
      { app := dispatch browser.app call.begins
        inFlight := browser.inFlight ++ [(call, browser.shop.tasks.length)]
        shop := server.step browser.shop (.start request) } := by
  have served := sound.serve (.start request)
  obtain ⟨products, -, loading, -⟩ := begins_app browser.app call
  constructor
  · exact served.reached
  · intro other index member
    cases List.mem_append.mp member with
    | inl member => exact served.asked other index member
    | inr member =>
      obtain ⟨rfl, rfl⟩ := Prod.mk.inj (List.mem_singleton.mp member)
      exact ⟨server.accept request, browser.app.cart, List.getElem?_concat_length, asked⟩
  · intro loads
    cases loading loads with
    | inl earlier =>
      obtain ⟨index, member⟩ := sound.loading earlier
      exact ⟨index, List.mem_append_left _ member⟩
    | inr same =>
      subst same
      exact ⟨browser.shop.tasks.length, List.mem_append_right _ List.mem_cons_self⟩
  · rw [products]
    exact sound.products

/-- If the response to a call brings products to a `loadProducts`, it brings all of them. -/
def Carries (initial : Database) (call : ContextCall) (response : ApiResponse) : Prop :=
  ∀ loaded, call = .loadProducts → response.data = some (.products loaded) →
    Catalogue initial loaded

/-- A call returns with such a response. Its end stops the spinner if the call is a
`loadProducts`; otherwise the one that has started it is still in flight. -/
theorem Sound.settle (sound : browser.Sound platform initial) {place : Nat}
    {call : ContextCall} {index : Nat} (waiting : browser.inFlight[place]? = some (call, index))
    {response : ApiResponse} (carries : Carries initial call response) :
    (browser.settle place call response).Sound platform initial := by
  constructor
  · exact sound.reached
  · intro other position member
    exact sound.asked other position (List.mem_of_mem_eraseIdx member)
  · intro loads
    change (dispatch browser.app (call.finishes response)).loading = true at loads
    rw [finishing_loading] at loads
    split_ifs at loads with own
    obtain ⟨position, member⟩ := sound.loading loads
    obtain ⟨other, found⟩ := List.mem_iff_getElem?.mp member
    refine ⟨position, List.mem_eraseIdx_iff_getElem?.mpr ⟨other, ?_, found⟩⟩
    intro same
    subst same
    exact own (Prod.mk.inj (Option.some.inj (waiting.symm.trans found))).1
  · change (dispatch browser.app (call.finishes response)).products = [] ∨
      Catalogue initial (dispatch browser.app (call.finishes response)).products
    rcases finishes_products response browser.app call with same | ⟨loaded, own, data, set⟩
    · rw [same]
      exact sound.products
    · rw [set]
      exact Or.inr (carries loaded own data)

/-- A request that is lost brings no document, so there is nothing it could carry wrongly. -/
theorem carries_failure (initial : Database) (call : ContextCall) (message : String) :
    Carries initial call (failure message) :=
  fun _ _ data => absurd data (by simp [failure])

/-- An answer is there if the call is in flight and the server has answered its request. -/
theorem answer?_eq_some {place : Nat} {call : ContextCall} {reply : Reply} :
    browser.answer? place = some (call, reply) ↔ ∃ index task,
      browser.inFlight[place]? = some (call, index) ∧ browser.shop.tasks[index]? = some task ∧
        task.answer? = some reply := by
  simp [answer?, Option.bind_eq_some_iff]

/-- A document arrives with a success, and is the body of the reply. -/
theorem receive_carried {reply : Reply} {body : Body}
    (data : (Client.receive reply).data = some body) :
    (Client.receive reply).success = true ∧ reply.body = body := by
  unfold Client.receive at data ⊢
  split at data
  · rename_i inside
    rw [if_pos inside]
    exact ⟨rfl, Option.some.inj data⟩
  · exact absurd data (by simp)

/-- An answer is a success of its operation or an error, whichever way the server has come
to it. -/
theorem Sound.concludes (sound : browser.Sound platform initial) {index : Nat} {task : ShopTask}
    (present : browser.shop.tasks[index]? = some task) {reply : Reply}
    (replied : task.answer? = some reply) : Concludes task.request.operation reply := by
  obtain ⟨actions, reached⟩ := sound.reached
  rw [reached] at present
  have follows := server.run_traced _ actions (server.idleState_traced initial) task
    (List.mem_of_getElem? present)
  rw [(task.answer_some reply).mp replied] at follows
  exact handle_concludes task.request task.trace reply follows

/-- A `loadProducts` is answered with the whole catalogue, or with an error. -/
theorem Sound.loads (sound : browser.Sound platform initial) {place : Nat} {reply : Reply}
    (answered : browser.answer? place = some (.loadProducts, reply)) :
    (∃ products, reply = ⟨200, .products products⟩ ∧ Catalogue initial products) ∨
      reply = .error 500 "Failed to fetch products" := by
  obtain ⟨index, task, waiting, present, replied⟩ := answer?_eq_some.mp answered
  obtain ⟨found, cart, there, asked⟩ := sound.asked _ index (List.mem_of_getElem? waiting)
  obtain rfl := Option.some.inj (present.symm.trans there)
  obtain ⟨actions, reached⟩ := sound.reached
  rw [reached] at present
  apply getProducts_reply present _ replied
  rw [← Option.some.inj asked]
  rfl

/-- So what the server has answered to a call in flight carries what an answer to that call
should. -/
theorem Sound.carries (sound : browser.Sound platform initial) {place : Nat}
    {call : ContextCall} {reply : Reply} (answered : browser.answer? place = some (call, reply)) :
    (∃ index, browser.inFlight[place]? = some (call, index)) ∧
      Carries initial call (Client.receive reply) := by
  obtain ⟨index, task, waiting, -, -⟩ := answer?_eq_some.mp answered
  refine ⟨⟨index, waiting⟩, ?_⟩
  rintro loaded rfl data
  obtain ⟨-, carried⟩ := receive_carried data
  rcases sound.loads answered with ⟨products, rfl, whole⟩ | rfl
  · obtain rfl := Body.products.inj carried
    exact whole
  · exact absurd carried (by simp [Reply.error])

/-- Every move keeps a browser sound: an answer carries what it should, a lost request
carries nothing. -/
theorem Sound.step (sound : browser.Sound platform initial) (move : Move) :
    (browser.step platform move).Sound platform initial := by
  cases move with
  | call call =>
    rw [Browser.step]
    split
    · rename_i request asked
      exact sound.call asked
    · exact sound
  | serve action => exact sound.serve action
  | receive place =>
    rw [Browser.step]
    split
    · rename_i call reply answered
      obtain ⟨⟨index, waiting⟩, carries⟩ := sound.carries answered
      exact sound.settle waiting carries
    · exact sound
  | lose place message =>
    rw [Browser.step]
    split
    · rename_i call index waiting
      exact sound.settle waiting (carries_failure initial call message.val)
    · exact sound

/-- From an application that has just been loaded, every run keeps the browser sound. -/
theorem run_sound (platform : Platform) (initial : Database) (moves : List Move) :
    ((opened initial).run platform moves).Sound platform initial :=
  Runs.run_always (Sound platform initial) (fun _ move sound => sound.step move) _ moves
    (sound_opened platform initial)

/-- A catalogue that has been loaded stays: whatever replaces it is the catalogue again. -/
theorem Sound.step_catalogue (sound : browser.Sound platform initial)
    (loaded : Catalogue initial browser.app.products) (move : Move) :
    Catalogue initial (browser.step platform move).app.products := by
  have settled {place : Nat} {call : ContextCall} {response : ApiResponse}
      (carries : Carries initial call response) :
      Catalogue initial (browser.settle place call response).app.products := by
    change Catalogue initial (dispatch browser.app (call.finishes response)).products
    rcases finishes_products response browser.app call with same | ⟨products, own, data, set⟩
    · rw [same]
      exact loaded
    · rw [set]
      exact carries products own data
  cases move with
  | call call =>
    rw [Browser.step]
    split
    · exact (begins_app browser.app call).1 ▸ loaded
    · exact loaded
  | serve action => exact loaded
  | receive place =>
    rw [Browser.step]
    split
    · rename_i call reply answered
      exact settled (sound.carries answered).2
    · exact loaded
  | lose place message =>
    rw [Browser.step]
    split
    · exact settled (carries_failure _ _ _)
    · exact loaded

section Causes

/-- A move ends a `loadProducts` that has failed, with the text of its failure: either it has
been answered 500, or it is lost in flight with the message of an exception. -/
def FailsWith (browser : Browser) (text : String) : Move → Prop
  | .receive place => ∃ reply, browser.answer? place = some (.loadProducts, reply) ∧
      reply.status = 500 ∧ text = "HTTP error! status: 500"
  | .lose place message => (∃ index, browser.inFlight[place]? = some (.loadProducts, index)) ∧
      text = message.val
  | _ => False

/-- An error that a move brings is the failure of a `loadProducts` which that move ends. -/
theorem Sound.fails_with (sound : browser.Sound platform initial) {text : String} {move : Move}
    (before : browser.app.error ≠ some text)
    (after : (browser.step platform move).app.error = some text) : browser.FailsWith text move := by
  cases move with
  | call call =>
    rw [Browser.step] at after
    split at after
    · exact absurd ((begins_app browser.app call).2.2.2 text after) before
    · exact absurd after before
  | serve action => exact absurd after before
  | receive place =>
    rw [Browser.step] at after
    split at after
    · rename_i call reply answered
      rcases finishing_error (Client.receive reply) browser.app call with kept | ⟨rfl, failed, set⟩
      · exact absurd (kept.symm.trans after) before
      · have named := Option.some.inj (set.symm.trans after)
        rcases sound.loads answered with ⟨products, rfl, -⟩ | rfl
        · exact absurd rfl (failed products rfl)
        · exact ⟨_, answered, rfl, named.symm⟩
    · exact absurd after before
  | lose place message =>
    rw [Browser.step] at after
    split at after
    · rename_i call index waiting
      rcases finishing_error (failure message.val) browser.app call with kept | ⟨rfl, -, set⟩
      · exact absurd (kept.symm.trans after) before
      · exact ⟨⟨index, waiting⟩, (Option.some.inj (set.symm.trans after)).symm⟩
    · exact absurd after before

/-- The server goes on from where it was, whatever the browser does. -/
theorem run_shop (platform : Platform) (browser : Browser) (moves : List Move) :
    ∃ actions, (browser.run platform moves).shop = server.run browser.shop actions := by
  refine Runs.run_always (fun current => ∃ actions, current.shop = server.run browser.shop actions)
    ?_ browser moves ⟨[], rfl⟩
  rintro current move ⟨actions, reached⟩
  have further (action : Action Request Choice) :
      ∃ actions, server.step current.shop action = server.run browser.shop actions := by
    refine ⟨actions ++ [action], ?_⟩
    rw [server.run_append, ← reached]
    rfl
  cases move with
  | call call =>
    rw [Browser.step]
    split
    · rename_i request asked
      exact further (.start request)
    · exact ⟨actions, reached⟩
  | serve action => exact further action
  | receive place =>
    rw [Browser.step]
    split <;> exact ⟨actions, reached⟩
  | lose place message =>
    rw [Browser.step]
    split <;> exact ⟨actions, reached⟩

/-- A call comes into flight when it is made, at the next place of the server. -/
theorem enters_flight {move : Move} {call : ContextCall} {index : Nat}
    (before : (call, index) ∉ browser.inFlight)
    (after : (call, index) ∈ (browser.step platform move).inFlight) :
    move = .call call ∧ index = browser.shop.tasks.length ∧ ∃ request,
      call.request? platform browser.app.cart = some request ∧
        (browser.step platform move).shop = server.step browser.shop (.start request) := by
  cases move with
  | call other =>
    rw [Browser.step] at after ⊢
    cases asked : other.request? platform browser.app.cart with
    | none =>
      simp only [asked] at after
      exact absurd after before
    | some request =>
      simp only [asked] at after ⊢
      cases List.mem_append.mp after with
      | inl old => exact absurd old before
      | inr new =>
        obtain ⟨rfl, rfl⟩ := Prod.mk.inj (List.mem_singleton.mp new)
        exact ⟨rfl, rfl, request, asked, rfl⟩
  | serve action => exact absurd after before
  | receive place =>
    rw [Browser.step] at after
    split at after
    · exact absurd (List.mem_of_mem_eraseIdx after) before
    · exact absurd after before
  | lose place message =>
    rw [Browser.step] at after
    split at after
    · exact absurd (List.mem_of_mem_eraseIdx after) before
    · exact absurd after before

/-- The calls whose answers bring orders into the application. -/
def BringsOrders : ContextCall → Prop
  | .loadOrders => True
  | .createOrder _ => True
  | _ => False

/-- What the answer to such a call shows of an order is its stored row, and the items it had
at some moment since the request was made. -/
theorem answered_shows {before after : List (Action Request Choice)} {request : Request}
    {task : ShopTask} {cart : List CartLine} {call : ContextCall} {reply : Reply} {body : Body}
    (present : (server.run (Service.idleState initial)
      (before ++ .start request :: after)).tasks[(server.run (Service.idleState initial)
        before).tasks.length]? = some task)
    (asked : call.request? platform cart = some task.request) (brings : BringsOrders call)
    (replied : task.answer? = some reply)
    (concludes : Concludes task.request.operation reply)
    (data : (Client.receive reply).data = some body) :
    ∀ view ∈ body.orderViews, view.Shows (server.run (Service.idleState initial) before).store
      (server.run (Service.idleState initial) (before ++ .start request :: after)).store := by
  obtain ⟨success, rfl⟩ := receive_carried data
  have status := (receive_success concludes).mp success
  cases call with
  | loadOrders =>
    have operation : task.request.operation = .getOrders := by
      rw [← Option.some.inj asked]
      rfl
    rw [operation] at status
    exact listing_shows present operation replied status
  | createOrder formData =>
    have operation : task.request.operation = .postOrders (.fields ⟨none, none, none, none⟩) := by
      rw [submit_some asked]
      rfl
    rw [operation] at status
    exact created_shows present (by rw [operation]; rfl) replied status
  | _ => exact brings.elim

/-- An order that a move brings comes with the answer to a call that brings orders, and that
was in flight. -/
theorem order_comes {move : Move} {view : OrderView} (before : view ∉ browser.app.orders)
    (after : view ∈ (browser.step platform move).app.orders) :
    ∃ place call reply body, move = .receive place ∧ BringsOrders call ∧
      browser.answer? place = some (call, reply) ∧
      (Client.receive reply).data = some body ∧ view ∈ body.orderViews := by
  cases move with
  | call call =>
    rw [Browser.step] at after
    split at after
    · exact absurd ((begins_app browser.app call).2.1 ▸ after) before
    · exact absurd after before
  | serve action => exact absurd after before
  | receive place =>
    rw [Browser.step] at after
    split at after
    · rename_i call reply answered
      change view ∈ (dispatch browser.app (call.finishes (Client.receive reply))).orders at after
      rcases finishing_orders (Client.receive reply) browser.app call with
        same | ⟨views, rfl, data, set⟩ | ⟨formData, added, rfl, data, set⟩
      · exact absurd (same ▸ after) before
      · rw [set] at after
        exact ⟨place, .loadOrders, reply, _, rfl, trivial, answered, data, after⟩
      · rw [set] at after
        cases List.mem_append.mp after with
        | inl old => exact absurd old before
        | inr new => exact ⟨place, .createOrder formData, reply, _, rfl, trivial, answered, data, new⟩
    · exact absurd after before
  | lose place message =>
    rw [Browser.step] at after
    split at after
    · rename_i call index waiting
      change view ∈ (dispatch browser.app (call.finishes (failure message.val))).orders at after
      rcases finishing_orders (failure message.val) browser.app call with
        same | ⟨views, -, data, -⟩ | ⟨formData, added, -, data, -⟩
      · exact absurd (same ▸ after) before
      · exact absurd data (by simp [failure])
      · exact absurd data (by simp [failure])
    · exact absurd after before

/-- An order the client holds was brought by a call of the run, and what is held of it is
its stored row and the items it had at some moment since that call was made. -/
def Holds (platform : Platform) (initial : Database) (moves : List Move) (view : OrderView) : Prop :=
  ∃ before call after, moves = before ++ .call call :: after ∧ BringsOrders call ∧
    view.Shows ((opened initial).run platform before).shop.store
      ((opened initial).run platform moves).shop.store

/-- So it is for every order the client holds. The order came with an answer, whose call came
into flight when it was made; the server has only gone on since then. -/
theorem run_holds (moves : List Move) {view : OrderView}
    (held : view ∈ ((opened initial).run platform moves).app.orders) :
    Holds platform initial moves view := by
  obtain ⟨first, move, last, rfl, absent, since⟩ := Runs.began
    (fun current : Browser => view ∈ current.app.orders) (opened initial) moves
    (by simp [opened, initialState]) held
  obtain ⟨place, call, reply, body, rfl, brings, answered, data, shown⟩ :=
    order_comes absent (since [] List.nil_prefix)
  obtain ⟨index, task, waiting, present, replied⟩ := answer?_eq_some.mp answered
  have sound : ((opened initial).run platform first).Sound platform initial :=
    run_sound platform initial first
  obtain ⟨found, cart, there, asked⟩ := sound.asked call index (List.mem_of_getElem? waiting)
  obtain rfl := Option.some.inj (present.symm.trans there)
  obtain ⟨before, made, after, rfl, away, flying⟩ := Runs.began
    (fun current : Browser => (call, index) ∈ current.inFlight) (opened initial) first
    (by simp [opened]) (List.mem_of_getElem? waiting)
  obtain ⟨rfl, rfl, request, requested, started⟩ := enters_flight away (flying [] List.nil_prefix)
  obtain ⟨early, earlier⟩ := (run_sound platform initial before).reached
  obtain ⟨late, later⟩ := run_shop platform
    (Browser.step platform ((opened initial).run platform before) (.call call)) after
  have ran : ((opened initial).run platform (before ++ .call call :: after)).shop =
      server.run (Service.idleState initial) (early ++ .start request :: late) := by
    rw [Browser.run, Runs.run_append, server.run_append, ← earlier]
    exact later.trans (congrArg (server.run · late) started)
  obtain ⟨rest, ends⟩ := run_shop platform
    ((opened initial).run platform (before ++ .call call :: after)) (.receive place :: last)
  refine ⟨before, call, after ++ .receive place :: last, by simp, brings, ?_⟩
  have whole : ((opened initial).run platform
      (before ++ .call call :: after ++ .receive place :: last)).shop =
        server.run ((opened initial).run platform (before ++ .call call :: after)).shop rest := by
    rw [Browser.run, Runs.run_append]
    exact ends
  have concludes := sound.concludes present replied
  have counted : ((opened initial).run platform before).shop.tasks.length =
      (server.run (Service.idleState initial) early).tasks.length :=
    congrArg (fun state : ShopState => state.tasks.length) earlier
  rw [whole, ran, earlier]
  refine OrderView.Shows.later ?_ rest
  have there : (server.run (Service.idleState initial)
      (early ++ .start request :: late)).tasks[(server.run (Service.idleState initial)
        early).tasks.length]? = some task := by
    rw [← counted, ← ran]
    exact present
  exact answered_shows there asked brings replied concludes data view shown

end Causes

/-- What the products page may show after a run: a spinner while a `loadProducts` is in
flight; the error of a `loadProducts` of the run that has failed, with none called since; or
a grid that is empty or has the whole catalogue. -/
def Shown (platform : Platform) (initial : Database) (moves : List Move) : ProductsPage → Prop
  | .loading => ∃ index, (.loadProducts, index) ∈ ((opened initial).run platform moves).inFlight
  | .error text => ∃ before move after, moves = before ++ move :: after ∧
      ((opened initial).run platform before).FailsWith text move ∧ .call .loadProducts ∉ after
  | .grid products => products = [] ∨ Catalogue initial products

/-- An error that is shown is cleared by the next `loadProducts`, before its request. -/
theorem error_cleared (platform : Platform) (browser : Browser) :
    (browser.step platform (.call .loadProducts)).app.error = none := rfl

/-- At every moment of every run the products page shows a spinner only while the products are
being loaded, an error only of a `loadProducts` that has failed, or a grid that is empty or has
the whole catalogue; an order the client holds is one the server has stored, with its row and
the items it had at some moment since the call that has brought it; and a catalogue that has
been loaded is never lost again. -/
theorem pages_show_what_is_stored (platform : Platform) (initial : Database)
    (moves later : List Move) :
    let browser := (opened initial).run platform moves
    Shown platform initial moves (productsPage browser.app) ∧
      (∀ view ∈ browser.app.orders, Holds platform initial moves view) ∧
      (Catalogue initial browser.app.products →
        Catalogue initial (browser.run platform later).app.products) := by
  intro browser
  have sound : browser.Sound platform initial := run_sound platform initial moves
  refine ⟨?_, fun view held => run_holds moves held, ?_⟩
  · unfold productsPage
    split_ifs with loading
    · exact sound.loading loading
    · split
      · rename_i text failed
        split_ifs
        · exact sound.products
        · obtain ⟨before, move, after, split, absent, since⟩ := Runs.began
            (fun current : Browser => current.app.error = some text) (opened initial) moves
            (by simp [opened, initialState]) failed
          refine ⟨before, move, after, split, ?_, ?_⟩
          · exact (run_sound platform initial before).fails_with absent (since [] List.nil_prefix)
          · intro called
            obtain ⟨first, last, cut⟩ := List.append_of_mem called
            have still := since (first ++ [.call .loadProducts]) (by rw [cut]; simp)
            rw [Runs.run_append] at still
            exact absurd still (by simp [Runs.run, error_cleared])
      · exact sound.products
  · intro loaded
    let Kept (current : Browser) : Prop :=
      current.Sound platform initial ∧ Catalogue initial current.app.products
    have kept : Kept (browser.run platform later) := by
      apply Runs.run_always Kept
      · exact fun current move held =>
          ⟨held.1.step move, held.1.step_catalogue held.2 move⟩
      · exact ⟨sound, loaded⟩
    exact kept.2

end Browser

end ShoppingCS.Client
