import ShoppingCS.Shop.Server
import ShoppingCS.Web.Url

/-!
# The dispatch of the request listener

The listener parses the target of the request line and compares the path and the
method with one route after the other. An id is the fourth piece of the path between
slashes, as it stands there: the path is percent-encoded and nothing decodes it. So
every id that a handler gets from a path is a plain segment.
-/

namespace ShoppingCS.Shop

open Web

/-- `req.method`, as far as the routes tell methods apart. -/
inductive Method where
  | get
  | post
  | put
  | delete
  | options
  | other
deriving DecidableEq

/-- A request body as the three handlers that parse one read it. -/
structure ReadBody where
  cart : Option CartBody
  quantity : Option Quantity
  order : OrderBody
deriving DecidableEq

/-- No body has arrived, or `JSON.parse` throws on it. -/
def ReadBody.absent : ReadBody := ⟨none, none, .unparsable⟩

/-- `path.split('/')[3]`, the fourth part of the path, and an empty text where there is none.
-/
def pathId (path : Text) : String := String.ofList ((path.splitOn '/')[3]?.getD [])

/-- The chain of comparisons; nothing fits a path without an endpoint. -/
def route (method : Method) (url : Url) (body : ReadBody) : Option Operation :=
  let path := url.pathname
  if path = "/api/health".toList then some .getHealth
  else if path = "/api/products".toList ∧ method = .get then
    some (.getProducts ((url.searchParam "q".toList).map String.ofList))
  else if "/api/products/".toList <+: path ∧ method = .get then some (.getProduct (pathId path))
  else if path = "/api/cart".toList ∧ method = .get then some .getCart
  else if path = "/api/cart".toList ∧ method = .post then some (.postCart body.cart)
  else if "/api/cart/".toList <+: path ∧ method = .put then
    some (.putCart (pathId path) body.quantity)
  else if "/api/cart/".toList <+: path ∧ method = .delete then some (.deleteCartItem (pathId path))
  else if path = "/api/cart".toList ∧ method = .delete then some .deleteCart
  else if path = "/api/orders".toList ∧ method = .get then some .getOrders
  else if path = "/api/orders".toList ∧ method = .post then some (.postOrders body.order)
  else if "/api/orders/".toList <+: path ∧ method = .get then some (.getOrder (pathId path))
  else none

/-- The id a handler gets from the path. The other operations get none. -/
def Operation.pathId? : Operation → Option String
  | .getProduct productId => some productId
  | .putCart productId _ => some productId
  | .deleteCartItem productId => some productId
  | .getOrder orderId => some orderId
  | _ => none

/-- An id in a path is a plain segment if the segments of the path are, or it is the empty
text where the path has no fourth part. -/
theorem pathId_plain {url : Url} (plain : ∀ segment ∈ url.path, Plain segment) :
    Plain (pathId url.pathname).toList := by
  rw [pathId, splitOn_pathname plain, String.toList_ofList]
  cases found : ([] :: url.path)[3]? with
  | none => exact plain_nil
  | some segment =>
    rcases List.mem_cons.mp (List.mem_of_getElem? found) with rfl | member
    · exact plain_nil
    · exact plain segment member

/-- An id that reaches a handler is the one of the path. -/
theorem route_pathId {method : Method} {url : Url} {body : ReadBody} {operation : Operation}
    (dispatched : route method url body = some operation) :
    ∀ id ∈ operation.pathId?, id = pathId url.pathname := by
  have all : ∀ other ∈ route method url body, ∀ id ∈ other.pathId?, id = pathId url.pathname := by
    unfold route
    repeat'
      refine iteInduction
        (motive := fun routed => ∀ other ∈ routed, ∀ id ∈ Operation.pathId? other,
          id = pathId url.pathname) (fun _ => ?_) (fun _ => ?_)
    all_goals simp [Operation.pathId?]
  exact all operation dispatched

/-- A path that begins with a text is not another one. -/
theorem ne_of_begins {front path wanted : Text} (begins : front <+: path)
    (apart : ¬ front <+: wanted) : ¬ path = wanted := by
  rintro rfl
  exact apart begins

theorem not_begins {front path wanted : Text} (begins : front <+: path)
    (apart : ¬ (wanted <+: front ∨ front <+: wanted)) : ¬ wanted <+: path :=
  fun other => apart (List.prefix_or_prefix_of_prefix other begins)

section Paths

variable {id : String} (plain : Plain id.toList) (query : Option Text) (body : ReadBody)

/-- A path of three segments begins with the first two and a slash, as `startsWith` asks. -/
theorem begins_third (first second : Text) :
    ('/' :: first ++ '/' :: second ++ ['/']) <+: Url.pathname ⟨[first, second, id.toList], query⟩ :=
  ⟨id.toList, by simp [Url.pathname, Url.join]⟩

include plain

/-- The id of a path of three plain segments is the third one, by splitting what was joined.
-/
theorem pathId_third (first second : Text) (one : Plain first) (two : Plain second) :
    pathId (Url.pathname ⟨[first, second, id.toList], query⟩) = id := by
  rw [pathId, splitOn_pathname (by simp [one, two, plain])]
  simp

/-- A GET of a product by its id is routed to the handler of one product. -/
theorem route_product :
    route .get ⟨["api".toList, "products".toList, id.toList], query⟩ body =
      some (.getProduct id) := by
  have named := pathId_third plain query "api".toList "products".toList (by decide) (by decide)
  have begins : "/api/products/".toList <+:
      Url.pathname ⟨["api".toList, "products".toList, id.toList], query⟩ :=
    begins_third query "api".toList "products".toList
  simp (disch := decide) only [route, named, begins, ne_of_begins begins, not_begins begins,
    reduceCtorEq, and_self, false_and, if_true, if_false]

/-- A PUT under the cart is routed to the handler that sets a line. -/
theorem route_cartItem_put :
    route .put ⟨["api".toList, "cart".toList, id.toList], query⟩ body =
      some (.putCart id body.quantity) := by
  have named := pathId_third plain query "api".toList "cart".toList (by decide) (by decide)
  have begins : "/api/cart/".toList <+:
      Url.pathname ⟨["api".toList, "cart".toList, id.toList], query⟩ :=
    begins_third query "api".toList "cart".toList
  simp (disch := decide) only [route, named, begins, ne_of_begins begins, not_begins begins,
    reduceCtorEq, and_self, and_false, if_true, if_false]

/-- A DELETE under the cart is routed to the handler that removes a line. -/
theorem route_cartItem_delete :
    route .delete ⟨["api".toList, "cart".toList, id.toList], query⟩ body =
      some (.deleteCartItem id) := by
  have named := pathId_third plain query "api".toList "cart".toList (by decide) (by decide)
  have begins : "/api/cart/".toList <+:
      Url.pathname ⟨["api".toList, "cart".toList, id.toList], query⟩ :=
    begins_third query "api".toList "cart".toList
  simp (disch := decide) only [route, named, begins, ne_of_begins begins, not_begins begins,
    reduceCtorEq, and_self, and_false, false_and, if_true, if_false]

/-- A GET of an order by its id is routed to the handler of one order. -/
theorem route_order :
    route .get ⟨["api".toList, "orders".toList, id.toList], query⟩ body =
      some (.getOrder id) := by
  have named := pathId_third plain query "api".toList "orders".toList (by decide) (by decide)
  have begins : "/api/orders/".toList <+:
      Url.pathname ⟨["api".toList, "orders".toList, id.toList], query⟩ :=
    begins_third query "api".toList "orders".toList
  simp (disch := decide) only [route, named, begins, ne_of_begins begins, not_begins begins,
    reduceCtorEq, and_self, false_and, if_true, if_false]

end Paths

end ShoppingCS.Shop
