import ShoppingCS.Web.Stringify
import ShoppingCS.Shop.OrderBody
import ShoppingCS.Shop.Routes

/-!
# `JSON.stringify` and `JSON.parse`

A value becomes tokens and the tokens become text. How numbers are spelled and what is
made of a literal is not the code's own; a number is read back if its spelling says so.
Reading an object keeps the last value of a name. A value whose objects have distinct
names and whose numbers are read back is what is parsed from its text, and then the
handlers take from the body what is in the value.
-/

namespace ShoppingCS.Shop

open Web

/-- How JavaScript spells a number, what it makes of a literal, and what the driver makes
of the values that are neither. -/
structure Values where
  format : Rat → NumberLiteral
  parse : NumberLiteral → Rat
  prepareValue : Json → String
  otherQuantity : Json → Quantity

namespace Values

variable (values : Values)

mutual

/-- The tokens of a value: its numbers as the digits `JSON.stringify` writes, its strings as
they are. -/
def tokens : Json → JsonValue
  | .null => .null
  | .bool value => .boolean value
  | .number value => .number (values.format value)
  | .string text => .string text.toList
  | .array elements => .array (elementTokens elements)
  | .object members => .object (memberTokens members)

/-- The tokens of the elements of an array, in their order. -/
def elementTokens : List Json → List JsonValue
  | [] => []
  | element :: elements => tokens element :: elementTokens elements

/-- The tokens of the members of an object, in their order. -/
def memberTokens : List (String × Json) → List (Text × JsonValue)
  | [] => []
  | (name, value) :: members => (name.toList, tokens value) :: memberTokens members

end

/-- `JSON.stringify(value)`, the text of the tokens without spaces. -/
def stringify (value : Json) : Text := stringified.value (values.tokens value)

/-- A member whose name is already there takes its place, and a new one comes last, as
assignments to an object do. -/
def setMember (members : List (String × Json)) (member : String × Json) : List (String × Json) :=
  if members.any (fun other => decide (other.1 = member.1)) then
    members.map (fun other => if other.1 = member.1 then member else other)
  else members ++ [member]

mutual

/-- The value of some tokens, as `JSON.parse` makes it. Of several members of one name the
last one counts. -/
def value : JsonValue → Json
  | .null => .null
  | .boolean truth => .bool truth
  | .number literal => .number (values.parse literal)
  | .string text => .string (String.ofList text)
  | .array items => .array (elements items)
  | .object members => .object (setMembers [] members)

/-- The values of the items of an array, in their order. -/
def elements : List JsonValue → List Json
  | [] => []
  | item :: items => value item :: elements items

/-- The members are set one after the other, beginning with what has been read before. -/
def setMembers : List (String × Json) → List (Text × JsonValue) → List (String × Json)
  | read, [] => read
  | read, (name, first) :: members =>
    setMembers (setMember read (String.ofList name, value first)) members

end

/-- `JSON.parse(text)`, which throws where the text is not that of a value. -/
def parseText (text : Text) : Option Json := (readJson text).map values.value

mutual

/-- The names of each object are distinct, and each number is read back. -/
def ReadsBack : Json → Prop
  | .number value => values.parse (values.format value) = value
  | .array elements => AllReadBack elements
  | .object members => (members.map Prod.fst).Nodup ∧ MembersReadBack members
  | _ => True

/-- Each element of the list is read back from its own text as itself. -/
def AllReadBack : List Json → Prop
  | [] => True
  | element :: elements => ReadsBack element ∧ AllReadBack elements

/-- The value of each member is read back from its own text as itself. -/
def MembersReadBack : List (String × Json) → Prop
  | [] => True
  | (_, value) :: members => ReadsBack value ∧ MembersReadBack members

end

/-- A name that is not among the members yet is added behind them. -/
theorem setMember_new {members : List (String × Json)} {member : String × Json}
    (new : member.1 ∉ members.map Prod.fst) : setMember members member = members ++ [member] := by
  rw [setMember, if_neg]
  intro found
  obtain ⟨other, present, same⟩ := List.any_eq_true.mp found
  exact new (of_decide_eq_true same ▸ List.mem_map_of_mem present)

mutual

/-- The tokens of a value have that value. By recursion on the value, with the lemmas for
elements and members beside it. -/
theorem value_tokens : (json : Json) → values.ReadsBack json →
    values.value (values.tokens json) = json
  | .null, _ => rfl
  | .bool _, _ => rfl
  | .number _, readsBack => congrArg Json.number readsBack
  | .string _, _ => congrArg Json.string String.ofList_toList
  | .array elements, readsBack => congrArg Json.array (elements_tokens elements readsBack)
  | .object members, ⟨distinct, readsBack⟩ =>
    congrArg Json.object (setMembers_tokens [] members distinct readsBack)

/-- So do those of the elements, one by one. -/
theorem elements_tokens : (elements : List Json) → values.AllReadBack elements →
    values.elements (values.elementTokens elements) = elements
  | [], _ => rfl
  | element :: elements, ⟨first, later⟩ => by
    rw [elementTokens, Values.elements, value_tokens element first, elements_tokens elements later]

/-- So do those of the members, behind other names. No two names may be the same, or the later
would replace the earlier. -/
theorem setMembers_tokens : (read members : List (String × Json)) →
    ((read ++ members).map Prod.fst).Nodup → values.MembersReadBack members →
      values.setMembers read (values.memberTokens members) = read ++ members
  | read, [], _, _ => (List.append_nil read).symm
  | read, (name, first) :: members, distinct, ⟨readsBack, later⟩ => by
    have new : name ∉ read.map Prod.fst := by
      intro there
      rw [List.map_append, List.nodup_append] at distinct
      exact distinct.2.2 name there name (by simp) rfl
    have set : setMember read (name, first) = read ++ [(name, first)] := setMember_new new
    rw [memberTokens, Values.setMembers, value_tokens first readsBack, String.ofList_toList, set,
      setMembers_tokens (read ++ [(name, first)]) members (by simpa using distinct) later,
      List.append_assoc, List.singleton_append]

end

/-- What is stringified is parsed to the same value, for values whose numbers are read back.
-/
theorem parseText_stringify {json : Json} (readsBack : values.ReadsBack json) :
    values.parseText (values.stringify json) = some json := by
  rw [parseText, stringify, stringified.readJson_value, Option.map_some,
    values.value_tokens json readsBack]

/-- A product id as a parameter; undefined and null are NULL. -/
def productId : Option Json → Option String
  | none => none
  | some .null => none
  | some value => some (value.parameter values.prepareValue)

/-- A quantity. A number that is whole is sent as an integer. -/
def quantity : Option Json → Quantity
  | none => .missing
  | some .null => .null
  | some (.number value) =>
    if value.den = 1 then .integer value.num else .malformed (decide (value ≤ 0))
  | some value => values.otherQuantity value

/-- `const { productId, quantity } = JSON.parse(body)`; null cannot be destructured. -/
def cartBody : Json → Option CartBody
  | .null => none
  | body =>
    some
      { productId := values.productId (body.get? "productId")
        quantity := values.quantity (body.get? "quantity") }

/-- `const { quantity } = JSON.parse(body)`, which throws for `null` and takes what there is
from everything else. -/
def cartQuantity : Json → Option Quantity
  | .null => none
  | body => some (values.quantity (body.get? "quantity"))

/-- What the three handlers with a body take from it once it has been parsed. -/
def taken (body : Json) : ReadBody :=
  { cart := values.cartBody body
    quantity := values.cartQuantity body
    order := .ofJson values.prepareValue body }

/-- What they take from the text of a body, which may not be JSON. -/
def readBody (body : String) : ReadBody :=
  match values.parseText body.toList with
  | some parsed => values.taken parsed
  | none => .absent

/-- From the text of a value they take what is in the value. -/
theorem readBody_stringify {json : Json} (readsBack : values.ReadsBack json) :
    values.readBody (String.ofList (values.stringify json)) = values.taken json := by
  rw [readBody, String.toList_ofList, values.parseText_stringify readsBack]

end Values

end ShoppingCS.Shop
