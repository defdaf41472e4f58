import ShoppingCS.Client.ApiService

/-!
# The checkout form

The data of the form, its validation, and the page that shows it. The page adds up
its own copy of the cart, and once the form is accepted submits it together with the
customer's data. The payment data stays in the form.
-/

namespace ShoppingCS.Client

open Shop

/-- Who orders, by four texts of the form. -/
structure CustomerInfo where
  firstName : String
  lastName : String
  email : String
  phone : String
deriving DecidableEq

/-- Where the order goes. The country has a value from the beginning and no input. -/
structure ShippingAddress where
  street : String
  city : String
  state : String
  zipCode : String
  country : String
deriving DecidableEq

/-- The card that pays. Two of its texts are checked in the form, and none of them is sent. -/
structure PaymentMethod where
  cardNumber : String
  expiryDate : String
  cvv : String
  nameOnCard : String
deriving DecidableEq

/-- `OrderData`, what the form collects in its three sections. -/
structure OrderData where
  customerInfo : CustomerInfo
  shippingAddress : ShippingAddress
  paymentMethod : PaymentMethod
deriving DecidableEq

/-- A message of `newErrors`, under the section and the field it is shown at. -/
structure FormError where
  part : String
  field : String
  message : String
deriving DecidableEq

/-- `\s` of a regular expression, by the code points of white space and line ends. -/
def isSpace (character : Char) : Bool :=
  decide (character.toNat ∈ [9, 10, 11, 12, 13, 32, 160, 5760, 8232, 8233, 8239, 8287, 12288, 65279]) ||
    (decide (8192 ≤ character.toNat) && decide (character.toNat ≤ 8202))

namespace EmailPattern

/-- `\S+` at the front of a text: its first character decides. -/
def solid : List Char → Bool
  | [] => false
  | character :: _ => !isSpace character

/-- `\S*\.\S+` at the front of a text, which is what must follow the sign and one character.
-/
def dotted : List Char → Bool
  | [] => false
  | character :: rest =>
    (decide (character = '.') && solid rest) || (!isSpace character && dotted rest)

/-- `@\S+\.\S+` at the front of a text, where the first of the `\S` is taken off. -/
def addressed : List Char → Bool
  | [] => false
  | [_] => false
  | character :: next :: rest => decide (character = '@') && (!isSpace next && dotted rest)

/-- `/\S+@\S+\.\S+/.test(...)`, which is met when a match starts anywhere in the text. -/
def test : List Char → Bool
  | [] => false
  | character :: rest => (!isSpace character && addressed rest) || test rest

end EmailPattern

/-- The `length` of a string as JavaScript has it, which counts UTF-16 units. -/
def length (text : String) : Nat :=
  (text.toList.map (fun character => if character.toNat < 65536 then 1 else 2)).sum

/-- One condition of `validateForm`: where it is wrong, its message is recorded under its
field. -/
def check (wrong : Bool) (part field message : String) : List FormError :=
  if wrong then [{ part := part, field := field, message := message }] else []

/-- What `validateForm` collects, with the conditions in the order of the source. -/
def newErrors (formData : OrderData) : List FormError :=
  check (formData.customerInfo.firstName = "") "customerInfo" "firstName"
    "First name is required" ++
  check (formData.customerInfo.lastName = "") "customerInfo" "lastName"
    "Last name is required" ++
  check (formData.customerInfo.email = "" || !EmailPattern.test formData.customerInfo.email.toList)
    "customerInfo" "email" "Valid email is required" ++
  check (formData.shippingAddress.street = "") "shippingAddress" "street"
    "Street address is required" ++
  check (formData.shippingAddress.city = "") "shippingAddress" "city" "City is required" ++
  check (formData.shippingAddress.zipCode = "") "shippingAddress" "zipCode"
    "ZIP code is required" ++
  check (formData.paymentMethod.cardNumber = "" || decide (length formData.paymentMethod.cardNumber < 16))
    "paymentMethod" "cardNumber" "Valid card number is required" ++
  check (formData.paymentMethod.cvv = "" || decide (length formData.paymentMethod.cvv < 3))
    "paymentMethod" "cvv" "Valid CVV is required"

/-- `validateForm` accepts the form if nothing has been collected. -/
def validateForm (formData : OrderData) : Bool := (newErrors formData).isEmpty

/-- A condition leaves no message exactly when nothing is wrong. -/
@[simp] theorem check_eq_nil {wrong : Bool} {part field message : String} :
    check wrong part field message = [] ↔ wrong = false := by
  cases wrong <;> simp [check]

namespace EmailPattern

/-- `\S+` has matched when the text starts with a character that is no space. -/
theorem solid_iff (text : List Char) :
    solid text = true ↔ ∃ first rest, text = first :: rest ∧ isSpace first = false := by
  cases text with
  | nil => simp [solid]
  | cons first rest => simp [solid]

/-- `\S*\.\S+` has matched when a point follows characters that are no spaces and
precedes another one. -/
theorem dotted_iff (text : List Char) :
    dotted text = true ↔ ∃ host top rest, text = host ++ '.' :: top :: rest ∧
      (∀ character ∈ host, isSpace character = false) ∧ isSpace top = false := by
  induction text with
  | nil => simp [dotted]
  | cons first text inductionHypothesis =>
    simp only [dotted, Bool.or_eq_true, Bool.and_eq_true, decide_eq_true_eq, solid_iff,
      Bool.not_eq_true', inductionHypothesis]
    constructor
    · rintro (⟨rfl, top, rest, rfl, solid⟩ | ⟨solid, host, top, rest, rfl, solids, last⟩)
      · exact ⟨[], top, rest, rfl, by simp, solid⟩
      · exact ⟨first :: host, top, rest, rfl, by simpa using ⟨solid, solids⟩, last⟩
    · rintro ⟨host, top, rest, same, solids, last⟩
      cases host with
      | nil =>
        obtain ⟨rfl, rfl⟩ := List.cons.inj same
        exact Or.inl ⟨rfl, top, rest, rfl, last⟩
      | cons character host =>
        obtain ⟨rfl, rfl⟩ := List.cons.inj same
        exact Or.inr ⟨solids _ (by simp), host, top, rest, rfl,
          fun other member => solids other (by simp [member]), last⟩

/-- `@\S+\.\S+` has matched when a nonempty host with such a point follows an `@`. -/
theorem addressed_iff (text : List Char) :
    addressed text = true ↔ ∃ host top rest, text = '@' :: (host ++ '.' :: top :: rest) ∧
      host ≠ [] ∧ (∀ character ∈ host, isSpace character = false) ∧ isSpace top = false := by
  rcases text with _ | ⟨first, _ | ⟨next, text⟩⟩
  · simp [addressed]
  · simp [addressed]
  simp only [addressed, Bool.and_eq_true, decide_eq_true_eq, Bool.not_eq_true', dotted_iff]
  constructor
  · rintro ⟨rfl, solid, host, top, rest, rfl, solids, last⟩
    exact ⟨next :: host, top, rest, rfl, by simp, by simpa using ⟨solid, solids⟩, last⟩
  · rintro ⟨host, top, rest, same, nonempty, solids, last⟩
    cases host with
    | nil => exact absurd rfl nonempty
    | cons character host =>
      obtain ⟨rfl, tail⟩ := List.cons.inj same
      obtain ⟨rfl, rfl⟩ := List.cons.inj tail
      exact ⟨rfl, solids _ (by simp), host, top, rest, rfl,
        fun other member => solids other (by simp [member]), last⟩

/-- The pattern occurs in a text: around an `@` there are a character before it, a
nonempty host, a point and a character after it, none of them a space. -/
theorem test_iff (text : List Char) :
    test text = true ↔ ∃ before user host top rest,
      text = before ++ user :: '@' :: (host ++ '.' :: top :: rest) ∧ isSpace user = false ∧
        host ≠ [] ∧ (∀ character ∈ host, isSpace character = false) ∧ isSpace top = false := by
  induction text with
  | nil => simp [test]
  | cons first text inductionHypothesis =>
    simp only [test, Bool.or_eq_true, Bool.and_eq_true, Bool.not_eq_true', addressed_iff,
      inductionHypothesis]
    constructor
    · rintro (⟨solid, host, top, rest, rfl, matched⟩ | ⟨before, user, host, top, rest, rfl, matched⟩)
      · exact ⟨[], first, host, top, rest, rfl, solid, matched⟩
      · exact ⟨first :: before, user, host, top, rest, rfl, matched⟩
    · rintro ⟨before, user, host, top, rest, same, solid, matched⟩
      cases before with
      | nil =>
        obtain ⟨rfl, rfl⟩ := List.cons.inj same
        exact Or.inl ⟨solid, host, top, rest, rfl, matched⟩
      | cons character before =>
        obtain ⟨rfl, rfl⟩ := List.cons.inj same
        exact Or.inr ⟨before, user, host, top, rest, rfl, solid, matched⟩

/-- The empty text is no address, so the check for a missing one is implied by the check of
its form. -/
theorem ne_empty_of_test {text : String} (matched : test text.toList = true) : text ≠ "" := by
  rintro rfl
  simp [test] at matched

end EmailPattern

/-- A form is accepted when all that is required is there, the email address looks
like one, and the two numbers of the card are long enough. -/
theorem validateForm_accepts (formData : OrderData) :
    validateForm formData = true ↔
      formData.customerInfo.firstName ≠ "" ∧ formData.customerInfo.lastName ≠ "" ∧
        EmailPattern.test formData.customerInfo.email.toList = true ∧
        formData.shippingAddress.street ≠ "" ∧ formData.shippingAddress.city ≠ "" ∧
        formData.shippingAddress.zipCode ≠ "" ∧ 16 ≤ length formData.paymentMethod.cardNumber ∧
        3 ≤ length formData.paymentMethod.cvv := by
  have filled {text : String} {bound : Nat} (positive : 0 < bound) (long : bound ≤ length text) :
      text ≠ "" := by
    rintro rfl
    exact absurd long (Nat.not_le.mpr positive)
  simp only [validateForm, newErrors, List.isEmpty_iff, List.append_eq_nil_iff, check_eq_nil,
    decide_eq_false_iff_not, Bool.or_eq_false_iff, Bool.not_eq_false', Nat.not_lt]
  constructor
  · rintro ⟨⟨⟨⟨⟨⟨⟨first, last⟩, -, email⟩, street⟩, city⟩, zipCode⟩, -, cardNumber⟩, -, cvv⟩
    exact ⟨first, last, email, street, city, zipCode, cardNumber, cvv⟩
  · rintro ⟨first, last, email, street, city, zipCode, cardNumber, cvv⟩
    exact ⟨⟨⟨⟨⟨⟨⟨first, last⟩, EmailPattern.ne_empty_of_test email, email⟩, street⟩, city⟩, zipCode⟩,
      filled (by decide) cardNumber, cardNumber⟩, filled (by decide) cvv, cvv⟩

namespace CheckoutPage

/-- The total the page shows, in cents. The source adds floating-point numbers. -/
def total (cart : List CartLine) : Int :=
  cart.foldl (fun sum item => sum + item.product.price.val * item.quantity) 0

/-- The total is what the lines add up to, whatever their order. -/
theorem total_eq_sum (cart : List CartLine) :
    total cart = (cart.map (fun item => item.product.price.val * item.quantity)).sum := by
  rw [List.sum_eq_foldl, List.foldl_map]
  rfl

end CheckoutPage

end ShoppingCS.Client
