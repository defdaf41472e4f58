import ShoppingCS.Client.CartMirror

/-!
# The cart under the reducer

Whatever actions reach the reducer, its cart lists each product once and in a positive
quantity, as long as what is loaded and added does. The lines that stay keep their order.
Since a product has one line, an addition raises its quantity once, so additions count in
any order; the totals of the pages and the number at the cart are sums over these lines.
-/

namespace ShoppingCS.Client

open Shop

/-- The products of the lines, in the order in which the cart shows them. -/
def productIds (lines : List CartLine) : List String := lines.map lineProduct

/-- The lines have one line for a product, in a positive quantity. -/
structure Tidy (lines : List CartLine) : Prop where
  distinct : (productIds lines).Nodup
  positive : ∀ item ∈ lines, 1 ≤ item.quantity

/-- Actions that load and add only tidy lines; all others are free. -/
def AppAction.Sound : AppAction → Prop
  | .setCart payload => Tidy payload
  | .addToCart payload => 1 ≤ payload.quantity
  | _ => True

/-- The cart an action starts from, whatever it was before. -/
def AppAction.resets? : AppAction → Option (List CartLine)
  | .setCart payload => some payload
  | .clearCart => some []
  | _ => none

/-- How much of a product the lines hold together, zero for one without a line. -/
def quantityOf (lines : List CartLine) (productId : String) : Int :=
  ((lines.filter (fun item => decide (item.product.id = productId))).map (·.quantity)).sum

section Lines

variable {lines : List CartLine}

theorem quantityOf_cons (item : CartLine) (lines : List CartLine) (productId : String) :
    quantityOf (item :: lines) productId =
      (if item.product.id = productId then item.quantity else 0) + quantityOf lines productId := by
  unfold quantityOf
  by_cases same : item.product.id = productId <;> simp [same]

theorem quantityOf_append (lines others : List CartLine) (productId : String) :
    quantityOf (lines ++ others) productId =
      quantityOf lines productId + quantityOf others productId := by
  simp [quantityOf]

/-- The order of the lines does not matter for how much of a product they hold. -/
theorem quantityOf_perm {others : List CartLine} (same : lines.Perm others) (productId : String) :
    quantityOf lines productId = quantityOf others productId :=
  List.Perm.sum_eq ((same.filter _).map _)

/-- A change of quantities keeps the products and their order. -/
theorem productIds_change (lines : List CartLine) (productId : String) (change : Int → Int) :
    productIds (lines.map (atProduct productId change)) = productIds lines := by
  unfold productIds
  rw [List.map_map]
  apply List.map_congr_left
  intro item _
  exact lineProduct_atProduct productId change item

/-- Changing the quantity of a product without a line changes nothing. -/
theorem change_unlisted {productId : String} (unlisted : productId ∉ productIds lines)
    (change : Int → Int) : lines.map (atProduct productId change) = lines := by
  have same : lines.map (atProduct productId change) = lines.map id := by
    apply List.map_congr_left
    intro item member
    have different : item.product.id ≠ productId := by
      intro equal
      exact unlisted (List.mem_map.mpr ⟨item, member, equal⟩)
    exact if_neg different
  rw [same, List.map_id]

/-- A listed product is changed once, since it has one line. -/
theorem quantityOf_change (distinct : (productIds lines).Nodup) {productId : String}
    (listed : productId ∈ productIds lines) (amount : Int) (wanted : String) :
    quantityOf (lines.map (atProduct productId (· + amount))) wanted =
      quantityOf lines wanted + (if productId = wanted then amount else 0) := by
  induction lines with
  | nil => exact absurd listed (by simp [productIds])
  | cons item lines inductionHypothesis =>
    obtain ⟨unlisted, later⟩ := List.nodup_cons.mp distinct
    rw [List.map_cons, quantityOf_cons, quantityOf_cons, product_atProduct]
    by_cases same : item.product.id = productId
    · have single : productId ∉ productIds lines := same ▸ unlisted
      rw [change_unlisted single, atProduct, if_pos same, same]
      simp only
      split_ifs <;> omega
    · have rest := inductionHypothesis later
        ((List.mem_cons.mp listed).resolve_left (fun equal => same equal.symm))
      rw [rest, atProduct, if_neg same]
      omega

/-- `ADD_TO_CART` by whether the product has a line: that line is raised, or the new one is
added at the end. -/
theorem addLine_eq (lines : List CartLine) (payload : CartLine) :
    addLine lines payload =
      if payload.product.id ∈ productIds lines then
        lines.map (atProduct payload.product.id (· + payload.quantity))
      else lines ++ [payload] := by
  have found : (lines.find? (fun item => decide (item.product.id = payload.product.id))).isSome =
      true ↔ payload.product.id ∈ productIds lines := by
    simp [productIds, lineProduct]
  unfold addLine
  simp only [found]
  rfl

/-- An addition leaves the lines where they are; a new line goes last. -/
theorem productIds_addLine (lines : List CartLine) (payload : CartLine) :
    productIds (addLine lines payload) =
      if payload.product.id ∈ productIds lines then productIds lines
      else productIds lines ++ [payload.product.id] := by
  rw [addLine_eq]
  split_ifs with listed
  · exact productIds_change lines payload.product.id (· + payload.quantity)
  · simp [productIds, lineProduct]

/-- A removal takes the product's line and leaves the others in their order. -/
theorem productIds_removeLine (lines : List CartLine) (productId : String) :
    productIds (removeLine lines productId) =
      (productIds lines).filter (fun listed => decide (listed ≠ productId)) := by
  unfold productIds removeLine
  rw [List.filter_map]
  rfl

/-- An update takes at most the product's line: the others have positive quantities. -/
theorem productIds_updateLine (positive : ∀ item ∈ lines, 1 ≤ item.quantity) (productId : String)
    (quantity : Int) :
    productIds (updateLine lines productId quantity) =
      (productIds lines).filter (fun listed => decide (listed ≠ productId ∨ 0 < quantity)) := by
  induction lines with
  | nil => rfl
  | cons item lines inductionHypothesis =>
    obtain ⟨here, later⟩ := List.forall_mem_cons.mp positive
    have rest := inductionHypothesis later
    have kept : 0 < item.quantity := here
    unfold productIds updateLine at rest ⊢
    by_cases same : item.product.id = productId
    · by_cases more : 0 < quantity
      · simpa [same, more, lineProduct] using rest
      · simpa [same, more, lineProduct] using rest
    · simpa [same, kept, lineProduct] using rest

end Lines

namespace Tidy

variable {lines : List CartLine}

theorem nil : Tidy [] where
  distinct := List.nodup_nil
  positive := fun item member => absurd member (by simp)

/-- An addition to tidy lines leaves them tidy, if its quantity is positive: it raises a line
or adds the product's first. -/
theorem addLine (tidy : Tidy lines) {payload : CartLine} (sound : 1 ≤ payload.quantity) :
    Tidy (addLine lines payload) := by
  constructor
  · rw [productIds_addLine]
    split_ifs with listed
    · exact tidy.distinct
    · apply List.nodup_append.mpr
      constructor
      · exact tidy.distinct
      constructor
      · simp
      · intro stored member new added same
        obtain rfl := List.mem_singleton.mp added
        exact listed (same ▸ member)
  · rw [addLine_eq]
    split_ifs with listed
    · intro item member
      obtain ⟨source, stored, rfl⟩ := List.mem_map.mp member
      have before := tidy.positive source stored
      unfold atProduct
      split
      · dsimp only
        omega
      · exact before
    · intro item member
      cases List.mem_append.mp member with
      | inl stored => exact tidy.positive item stored
      | inr new =>
        obtain rfl := List.mem_singleton.mp new
        exact sound

/-- An update leaves tidy lines tidy with any quantity, since it filters out what is not
positive. -/
theorem updateLine (tidy : Tidy lines) (productId : String) (quantity : Int) :
    Tidy (updateLine lines productId quantity) := by
  constructor
  · rw [productIds_updateLine tidy.positive]
    exact tidy.distinct.filter _
  · intro item member
    have kept := (List.mem_filter.mp member).2
    exact of_decide_eq_true kept

/-- A removal leaves tidy lines tidy, as it only takes a line away. -/
theorem removeLine (tidy : Tidy lines) (productId : String) : Tidy (removeLine lines productId) := by
  constructor
  · rw [productIds_removeLine]
    exact tidy.distinct.filter _
  · intro item member
    exact tidy.positive item (List.mem_of_mem_filter member)

/-- One sound action leaves a tidy cart tidy, by the lemma for its kind. -/
theorem appReducer {state : AppState} (tidy : Tidy state.cart) {action : AppAction}
    (sound : action.Sound) : Tidy (appReducer state action).cart := by
  cases action with
  | setCart payload => exact sound
  | addToCart payload => exact tidy.addLine sound
  | updateCartItem productId quantity => exact tidy.updateLine productId quantity
  | removeFromCart productId => exact tidy.removeLine productId
  | clearCart => exact nil
  | setLoading payload => exact tidy
  | setError payload => exact tidy
  | setProducts payload => exact tidy
  | setOrders payload => exact tidy
  | addOrder payload => exact tidy

/-- Any number of sound actions leaves a tidy cart tidy, by induction on them. -/
theorem dispatch {state : AppState} (tidy : Tidy state.cart) {actions : List AppAction}
    (sound : ∀ action ∈ actions, action.Sound) : Tidy (dispatch state actions).cart := by
  induction actions generalizing state with
  | nil => exact tidy
  | cons action actions inductionHypothesis =>
    obtain ⟨here, later⟩ := List.forall_mem_cons.mp sound
    exact inductionHypothesis (tidy.appReducer here) later

/-- An addition raises the product's quantity by its own and that of no other product. -/
theorem quantityOf_addLine (tidy : Tidy lines) (payload : CartLine) (productId : String) :
    quantityOf (Client.addLine lines payload) productId =
      quantityOf lines productId + quantityOf [payload] productId := by
  rw [addLine_eq]
  split_ifs with listed
  · rw [quantityOf_change tidy.distinct listed, quantityOf_cons payload []]
    simp [quantityOf]
  · exact quantityOf_append lines [payload] productId

end Tidy

/-- A sequence of additions touches the cart alone, one addition after the other. -/
theorem cart_additions (state : AppState) (payloads : List CartLine) :
    (dispatch state (payloads.map .addToCart)).cart = payloads.foldl addLine state.cart := by
  induction payloads generalizing state with
  | nil => rfl
  | cons payload payloads inductionHypothesis =>
    exact inductionHypothesis (appReducer state (.addToCart payload))

/-- Additions to tidy lines add up, for each product by itself and in any order. -/
theorem Tidy.quantityOf_additions {lines payloads : List CartLine} (tidy : Tidy lines)
    (sound : ∀ payload ∈ payloads, 1 ≤ payload.quantity) (productId : String) :
    quantityOf (payloads.foldl Client.addLine lines) productId =
      quantityOf lines productId + quantityOf payloads productId := by
  induction payloads generalizing lines with
  | nil => simp [quantityOf]
  | cons payload payloads inductionHypothesis =>
    obtain ⟨here, later⟩ := List.forall_mem_cons.mp sound
    rw [List.foldl_cons, inductionHypothesis (tidy.addLine here) later,
      tidy.quantityOf_addLine payload productId, Int.add_assoc,
      ← quantityOf_append [payload] payloads]
    rfl

/-- A reset replaces the cart, whatever came before it. -/
theorem cart_reset {action : AppAction} {lines : List CartLine} (resets : action.resets? = some lines)
    (state : AppState) : (appReducer state action).cart = lines := by
  cases action with
  | setCart payload => exact Option.some.inj resets
  | clearCart => exact Option.some.inj resets
  | _ => exact absurd resets (by simp [AppAction.resets?])

/-- A sound reset leaves tidy lines, as its payload is required to be. -/
theorem AppAction.Sound.reset {action : AppAction} {lines : List CartLine} (sound : action.Sound)
    (resets : action.resets? = some lines) : Tidy lines := by
  cases action with
  | setCart payload => exact Option.some.inj resets ▸ sound
  | clearCart => exact Option.some.inj resets ▸ Tidy.nil
  | _ => exact absurd resets (by simp [AppAction.resets?])

/-- The cart after a reset and additions is that of the reset with the additions, and does not
depend on what came before. -/
theorem cart_reset_additions {reset : AppAction} {lines : List CartLine}
    (resets : reset.resets? = some lines) (state : AppState) (earlier : List AppAction)
    (payloads : List CartLine) :
    (dispatch state (earlier ++ reset :: payloads.map .addToCart)).cart =
      payloads.foldl addLine lines := by
  unfold dispatch
  rw [List.foldl_append, List.foldl_cons, ← dispatch, cart_additions, cart_reset resets]

/-- The cart after any sound actions: tidy, its lines in their order at the next action,
and since the last reset the sum of what was added, in whatever order. -/
theorem reducer_keeps_cart (actions : List AppAction) (sound : ∀ action ∈ actions, action.Sound) :
    Tidy (dispatch initialState actions).cart ∧
      (∀ payload,
        productIds (appReducer (dispatch initialState actions) (.addToCart payload)).cart =
          if payload.product.id ∈ productIds (dispatch initialState actions).cart then
            productIds (dispatch initialState actions).cart
          else productIds (dispatch initialState actions).cart ++ [payload.product.id]) ∧
      (∀ productId quantity,
        productIds (appReducer (dispatch initialState actions)
            (.updateCartItem productId quantity)).cart =
          (productIds (dispatch initialState actions).cart).filter
            (fun listed => decide (listed ≠ productId ∨ 0 < quantity))) ∧
      (∀ productId,
        productIds (appReducer (dispatch initialState actions) (.removeFromCart productId)).cart =
          (productIds (dispatch initialState actions).cart).filter
            (fun listed => decide (listed ≠ productId))) ∧
      (∀ earlier reset lines payloads others, actions = earlier ++ reset :: payloads.map .addToCart →
        reset.resets? = some lines → payloads.Perm others → ∀ productId,
          quantityOf (dispatch initialState
              (earlier ++ reset :: others.map .addToCart)).cart productId =
            quantityOf lines productId + quantityOf payloads productId) := by
  have tidy : Tidy (dispatch initialState actions).cart := Tidy.nil.dispatch sound
  constructor
  · exact tidy
  constructor
  · intro payload
    exact productIds_addLine (dispatch initialState actions).cart payload
  constructor
  · intro productId quantity
    exact productIds_updateLine tidy.positive productId quantity
  constructor
  · intro productId
    exact productIds_removeLine (dispatch initialState actions).cart productId
  · intro earlier reset lines payloads others split resets permuted productId
    subst split
    have started : Tidy lines := (sound reset (by simp)).reset resets
    have added : ∀ payload ∈ others, 1 ≤ payload.quantity := by
      intro payload member
      have before : payload ∈ payloads := permuted.mem_iff.mpr member
      exact sound (.addToCart payload) (by simp [before])
    rw [cart_reset_additions resets, started.quantityOf_additions added,
      quantityOf_perm permuted]

/-- Two smartphones are loaded, three and a laptop are added, in either order. -/
theorem smartphones_add_up :
    Tidy (dispatch initialState
        [.setCart [⟨smartphone, 2⟩], .addToCart ⟨laptop, 1⟩, .addToCart ⟨smartphone, 3⟩]).cart ∧
      quantityOf (dispatch initialState
        [.setCart [⟨smartphone, 2⟩], .addToCart ⟨smartphone, 3⟩, .addToCart ⟨laptop, 1⟩]).cart
          smartphone.id = 5 := by
  have loaded : Tidy [⟨smartphone, 2⟩] := ⟨by simp [productIds], by simp⟩
  have kept := reducer_keeps_cart
    [.setCart [⟨smartphone, 2⟩], .addToCart ⟨laptop, 1⟩, .addToCart ⟨smartphone, 3⟩]
    (by simp [AppAction.Sound, loaded])
  constructor
  · exact kept.1
  · exact (kept.2.2.2.2 [] (.setCart [⟨smartphone, 2⟩]) [⟨smartphone, 2⟩]
      [⟨laptop, 1⟩, ⟨smartphone, 3⟩] [⟨smartphone, 3⟩, ⟨laptop, 1⟩] rfl rfl
      (List.Perm.swap _ _ []) smartphone.id).trans (by decide)

end ShoppingCS.Client
