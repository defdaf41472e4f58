import ShoppingCS.Client.ApiService
import ShoppingCS.Shop.Routes

/-!
# From the calls to the routes

A call becomes a method, an endpoint and a body. `fetch` parses the endpoint behind
the origin, and the listener parses the target of the request line once more. An id
is put into the endpoint as it is and taken from the path as it is then found, so it
arrives exactly when it is a plain segment. A search has the path of a product.
-/

namespace ShoppingCS.Client

open Shop Web

namespace ApiCall

/-- The method of each call. `fetch` takes GET when none is given. -/
def method : ApiCall → Method
  | .addToCart _ _ => .post
  | .updateCartItem _ _ => .put
  | .removeFromCart _ => .delete
  | .clearCart => .delete
  | .createOrder _ => .post
  | _ => .get

/-- The endpoint. Only the text of a search is encoded. -/
def endpoint : ApiCall → Text
  | .getProducts => "/api/products".toList
  | .getProduct id => "/api/products/".toList ++ id.toList
  | .searchProducts query => "/api/products/search?q=".toList ++ encodeURIComponent query.toList
  | .getCart => "/api/cart".toList
  | .addToCart _ _ => "/api/cart".toList
  | .updateCartItem productId _ => "/api/cart/".toList ++ productId.toList
  | .removeFromCart productId => "/api/cart/".toList ++ productId.toList
  | .clearCart => "/api/cart".toList
  | .createOrder _ => "/api/orders".toList
  | .getOrders => "/api/orders".toList
  | .getOrder id => "/api/orders/".toList ++ id.toList
  | .healthCheck => "/api/health".toList

/-- The body of each call, as whoever parses it reads it on the server's side. -/
def body : ApiCall → ReadBody
  | .addToCart productId quantity =>
      ⟨some ⟨some productId, quantity⟩, some quantity, .fields ⟨none, none, none, none⟩⟩
  | .updateCartItem _ quantity =>
      ⟨some ⟨none, quantity⟩, some quantity, .fields ⟨none, none, none, none⟩⟩
  | .createOrder orderData => ⟨some ⟨none, .missing⟩, some .missing, .fields orderData⟩
  | _ => .absent

/-- The target of the request line, when the base URL is an origin. -/
def target (call : ApiCall) : Text := (parsePath (clean call.endpoint)).target

/-- What the listener makes of a call: no URL at all, or the route it finds. -/
def dispatched (authorityAccepted : Text → Bool) (call : ApiCall) : Option (Option Operation) :=
  (parseReference? authorityAccepted call.target).map (fun url => route call.method url call.body)

/-- The operation a call stands for by its name. For a search it is the listing with its text.
-/
def meant : ApiCall → Operation
  | .searchProducts query => .getProducts (some query)
  | call => call.operation

/-- The call is no search, and an id it puts into its path is a plain segment. -/
def Passes : ApiCall → Prop
  | .getProduct id => Plain id.toList
  | .searchProducts _ => False
  | .updateCartItem productId _ => Plain productId.toList
  | .removeFromCart productId => Plain productId.toList
  | .getOrder id => Plain id.toList
  | _ => True

section Dispatch

variable (authorityAccepted : Text → Bool) (call : ApiCall)

/-- The text after a path stays a query, if it is one. -/
theorem ends_clean {tail : Text} (ends : ∀ character ∈ tail.head?, character = '?') :
    (∀ character ∈ (clean tail).head?, endsPath character = true) ∧ (tail = [] → clean tail = []) := by
  cases tail with
  | nil => exact ⟨by simp [clean], fun _ => rfl⟩
  | cons character rest =>
    obtain rfl : character = '?' := ends character (by simp)
    have kept : clean (['?'] ++ rest) = ['?'] ++ clean rest := by
      refine clean_append ?_ rest
      intro character member
      obtain rfl := List.mem_singleton.mp member
      decide
    refine ⟨?_, by simp⟩
    rw [← List.singleton_append, kept]
    simp [endsPath]

/-- A call whose endpoint is a path of plain segments, and perhaps a query, is
dispatched by these segments. -/
theorem dispatched_join {tail : Text} (first : Text) (segments : List Text)
    (made : call.endpoint = Url.join (first :: segments) ++ tail)
    (plain : ∀ segment ∈ first :: segments, Plain segment) (nonempty : first ≠ [])
    (ends : ∀ character ∈ tail.head?, character = '?') :
    ∃ query, call.dispatched authorityAccepted =
        some (route call.method ⟨first :: segments, query⟩ call.body) ∧
      (tail = [] → query = none) := by
  obtain ⟨sentEnds, sentEmpty⟩ := ends_clean ends
  obtain ⟨path, noQuery⟩ := parsePath_join plain (List.cons_ne_nil first segments) sentEnds
  have sent : ∃ query, call.target = Url.join (first :: segments) ++ query ∧
      (∀ character ∈ query.head?, character = '?') ∧ (tail = [] → query = []) := by
    rw [target, made, clean_join_append plain]
    refine ⟨_, by rw [Url.target, Url.pathname, path], ?_, fun empty => ?_⟩
    · cases (parsePath (Url.join (first :: segments) ++ clean tail)).query <;> simp
    · rw [noQuery (sentEmpty empty)]
  obtain ⟨query, shape, begins, absent⟩ := sent
  obtain ⟨readEnds, readEmpty⟩ := ends_clean begins
  obtain ⟨readPath, readNoQuery⟩ := parsePath_join plain (List.cons_ne_nil first segments) readEnds
  refine ⟨(parsePath (Url.join (first :: segments) ++ clean query)).query, ?_,
    fun empty => readNoQuery (readEmpty (absent empty))⟩
  rw [dispatched, shape, parseReference?_join plain nonempty]
  generalize parsePath (Url.join (first :: segments) ++ clean query) = url at readPath
  cases url
  subst readPath
  rfl

/-- The path of a call without a query is parsed to its segments, if these are plain. -/
theorem dispatched_path (first : Text) (segments : List Text)
    (made : call.endpoint = Url.join (first :: segments))
    (plain : ∀ segment ∈ first :: segments, Plain segment) (nonempty : first ≠ []) :
    call.dispatched authorityAccepted =
      some (route call.method ⟨first :: segments, none⟩ call.body) := by
  obtain ⟨query, dispatched, absent⟩ := dispatched_join authorityAccepted call first segments
    (by rw [made, List.append_nil]) plain nonempty (by simp)
  rw [dispatched, absent rfl]

/-- A call to a collection of the API is routed by its method and the name of the collection.
-/
theorem dispatched_collection (collection : Text) (plain : Plain collection)
    (made : call.endpoint = Url.join ["api".toList, collection]) :
    call.dispatched authorityAccepted =
      some (route call.method ⟨["api".toList, collection], none⟩ call.body) := by
  refine dispatched_path authorityAccepted call _ _ made (fun segment member => ?_) (by decide)
  simp only [List.mem_cons, List.not_mem_nil, or_false] at member
  rcases member with rfl | rfl
  · decide
  · exact plain

/-- A call to a member of a collection is routed by the collection and the id, if the id is a
plain segment. -/
theorem dispatched_member (collection : Text) (id : String) (plain : Plain collection)
    (named : Plain id.toList)
    (made : call.endpoint = Url.join ["api".toList, collection] ++ '/' :: id.toList) :
    call.dispatched authorityAccepted =
      some (route call.method ⟨["api".toList, collection, id.toList], none⟩ call.body) := by
  have whole : call.endpoint = Url.join ["api".toList, collection, id.toList] := by
    simp [made, Url.join]
  refine dispatched_path authorityAccepted call _ _ whole (fun segment member => ?_) (by decide)
  simp only [List.mem_cons, List.not_mem_nil, or_false] at member
  rcases member with rfl | rfl | rfl
  · decide
  · exact plain
  · exact named

/-- The endpoint of a search is the path of a product and a query. -/
theorem endpoint_search (query : String) :
    (ApiCall.searchProducts query).endpoint =
      Url.join ["api".toList, "products".toList, "search".toList] ++
        '?' :: 'q' :: '=' :: encodeURIComponent query.toList := rfl

/-- A search reaches the handler of one product, with the word of its path as the id. -/
theorem dispatched_search (query : String) :
    (ApiCall.searchProducts query).dispatched authorityAccepted = some (some (.getProduct "search")) := by
  obtain ⟨sent, dispatched, -⟩ := dispatched_join authorityAccepted (.searchProducts query)
    "api".toList ["products".toList, "search".toList] (endpoint_search query) (by decide)
    (by decide) (by simp)
  rw [dispatched]
  change some (route .get _ _) = _
  rw [route_product (by decide)]

/-- A call that passes, or a search, is dispatched to its operation. -/
theorem dispatched_operation (passes : call.Passes ∨ ∃ query, call = .searchProducts query) :
    call.dispatched authorityAccepted = some (some call.operation) := by
  rcases passes with passes | ⟨query, rfl⟩
  · cases call with
    | getProducts =>
      rw [dispatched_collection authorityAccepted _ "products".toList (by decide) rfl]
      rfl
    | getProduct id =>
      rw [dispatched_member authorityAccepted _ "products".toList id (by decide) passes rfl]
      change some (route .get _ _) = _
      rw [route_product passes]
      rfl
    | searchProducts query => exact passes.elim
    | getCart =>
      rw [dispatched_collection authorityAccepted _ "cart".toList (by decide) rfl]
      rfl
    | addToCart productId quantity =>
      rw [dispatched_collection authorityAccepted _ "cart".toList (by decide) rfl]
      rfl
    | updateCartItem productId quantity =>
      rw [dispatched_member authorityAccepted _ "cart".toList productId (by decide) passes rfl]
      change some (route .put _ _) = _
      rw [route_cartItem_put passes]
      rfl
    | removeFromCart productId =>
      rw [dispatched_member authorityAccepted _ "cart".toList productId (by decide) passes rfl]
      change some (route .delete _ _) = _
      rw [route_cartItem_delete passes]
      rfl
    | clearCart =>
      rw [dispatched_collection authorityAccepted _ "cart".toList (by decide) rfl]
      rfl
    | createOrder orderData =>
      rw [dispatched_collection authorityAccepted _ "orders".toList (by decide) rfl]
      rfl
    | getOrders =>
      rw [dispatched_collection authorityAccepted _ "orders".toList (by decide) rfl]
      rfl
    | getOrder id =>
      rw [dispatched_member authorityAccepted _ "orders".toList id (by decide) passes rfl]
      change some (route .get _ _) = _
      rw [route_order passes]
      rfl
    | healthCheck =>
      rw [dispatched_collection authorityAccepted _ "health".toList (by decide) rfl]
      rfl
  · exact dispatched_search authorityAccepted query

/-- An id that has arrived at a handler is a plain segment, since it was cut out of a path. -/
theorem plain_of_dispatched {operation : Operation}
    (arrived : call.dispatched authorityAccepted = some (some operation)) :
    ∀ id ∈ operation.pathId?, Plain id.toList := by
  intro id named
  obtain ⟨url, parsed, found⟩ := Option.map_eq_some_iff.mp arrived
  rw [route_pathId found id named]
  exact pathId_plain (parseReference?_plain parsed)

end Dispatch

/-- A call reaches the handler it stands for, with the id or search text it was made
with, exactly when it is no search and an id it puts into its path is a plain
segment. This holds for every way of accepting authorities. -/
theorem dispatched_iff (authorityAccepted : Text → Bool) (call : ApiCall) :
    call.dispatched authorityAccepted = some (some call.meant) ↔ call.Passes := by
  constructor
  · intro arrived
    cases call with
    | getProduct id => exact plain_of_dispatched _ _ arrived id rfl
    | updateCartItem productId quantity => exact plain_of_dispatched _ _ arrived productId rfl
    | removeFromCart productId => exact plain_of_dispatched _ _ arrived productId rfl
    | getOrder id => exact plain_of_dispatched _ _ arrived id rfl
    | searchProducts query =>
      rw [dispatched_search] at arrived
      simp [meant] at arrived
    | _ => trivial
  · intro passes
    rw [dispatched_operation authorityAccepted call (Or.inl passes)]
    cases call with
    | searchProducts query => exact passes.elim
    | _ => rfl

/-- A search for laptops asks for the product named `search`, and the product `a b`
is looked up as `a%20b`. -/
theorem laptops_not_searched :
    (ApiCall.searchProducts "laptop").dispatched (fun _ => true) = some (some (.getProduct "search")) ∧
      (ApiCall.getProduct "a b").dispatched (fun _ => true) = some (some (.getProduct "a%20b")) ∧
      ¬ ∀ call : ApiCall, call.dispatched (fun _ => true) = some (some call.meant) := by
  have looked : (ApiCall.getProduct "a b").dispatched (fun _ => true) =
      some (some (.getProduct "a%20b")) := by decide
  refine ⟨by decide, looked, fun arrives => ?_⟩
  have same := looked.symm.trans (arrives (.getProduct "a b"))
  exact absurd same (by decide)

end ApiCall

end ShoppingCS.Client
