import ShoppingCS.Auth.Server
import ShoppingCS.Web.Lines

/-!
# The messages of a connection

Requests and responses as they cross the wire, one JSON text in a line each. What the
server needs of its JSON package is a parameter; the package at hand decodes structures
the way it is documented: names are matched without regard to case, unknown members are
skipped, `null` changes nothing, and any other value of the wrong kind is an error.
-/

namespace ShoppingCS.Auth

open Web

/-- `protocol.Request`, as a structure of five texts. No handler reads its `data`, so the
field is left out. -/
structure RequestMessage where
  type : String
  username : String
  email : String
  password : String
  token : String
deriving DecidableEq

/-- The zero value, into which each line is decoded, so that members a line leaves out are
empty texts. -/
def RequestMessage.zero : RequestMessage :=
  { type := "", username := "", email := "", password := "", token := "" }

/-- The handler that `HandleRequest` chooses, and the fields it reads. -/
def RequestMessage.operation (request : RequestMessage) : Operation :=
  if request.type = "register" then .register request.username request.email request.password
  else if request.type = "login" then .login request.username request.password
  else if request.type = "logout" then .logout request.token
  else if request.type = "validate" then .validate request.token
  else if request.type = "refresh" then .refresh request.token
  else .unknown request.type

/-- `protocol.Response`, whose data is a JSON text of its own, or nothing. -/
structure ResponseMessage where
  status : String
  message : String
  data : List UInt8
deriving DecidableEq

/-- `ErrorResponse`, a status and a message without data, for every error of a handler. -/
def errorResponse (message : String) : ResponseMessage :=
  { status := "error", message := message, data := [] }

/-- What the server and its clients use of `encoding/json`. Decoding starts from a given
value and keeps what the text does not mention. -/
structure EncodingJson where
  unmarshalRequest : List UInt8 → RequestMessage → Option RequestMessage
  marshalData : Data → Option (List UInt8)
  unmarshalLogin : List UInt8 → Option LoginResponseData
  marshalResponse : ResponseMessage → Option (List UInt8)
  unmarshalResponse : List UInt8 → Option ResponseMessage

/-- `SuccessResponse`: there is no response if the data cannot be marshalled. -/
def successResponse (json : EncodingJson) (data : Data) : Option ResponseMessage :=
  (json.marshalData data).map (fun text => { status := "success", message := "", data := text })

/-- The message of a response: the handlers end with `SuccessResponse` or
`ErrorResponse`, and the connection answers for a response that is missing. -/
def Response.toMessage (json : EncodingJson) : Response → ResponseMessage
  | .success data => (successResponse json data).getD (errorResponse "internal server error")
  | .error message => errorResponse message

/-- The data of a message is none or has been marshalled. -/
def EncodingJson.Carries (json : EncodingJson) (message : ResponseMessage) : Prop :=
  message.data = [] ∨ ∃ data, json.marshalData data = some message.data

/-- The package is correct: a response with marshalled data has a text, which decodes to
it, and no text contains a newline. -/
structure EncodingJson.Correct (json : EncodingJson) : Prop where
  marshals : ∀ message, json.Carries message → ∃ text, json.marshalResponse message = some text
  one_line : ∀ message text, json.marshalResponse message = some text → newline ∉ text
  unmarshals : ∀ message text, json.Carries message → json.marshalResponse message = some text →
    json.unmarshalResponse text = some message

/-- Every response the server builds carries marshalled data or none, as the correctness of
the package is about such data only. -/
theorem Response.toMessage_carries (json : EncodingJson) (response : Response) :
    json.Carries (response.toMessage json) := by
  cases response with
  | error message => exact Or.inl rfl
  | success data =>
    cases marshalled : json.marshalData data with
    | none =>
      simp only [toMessage, successResponse, marshalled, Option.map_none, Option.getD_none]
      exact Or.inl rfl
    | some text =>
      simp only [toMessage, successResponse, marshalled, Option.map_some, Option.getD_some]
      exact Or.inr ⟨data, marshalled⟩

section Package

/-- The letters that match without regard to case: those of ASCII and two that fold to
one of them. -/
def foldCharacter (character : Char) : Char :=
  if character.toNat = 0x17F then 'S'
  else if character.toNat = 0x212A then 'K'
  else character.toUpper

/-- Whether the name of a member is that of a field. -/
def namesField (name : List Char) (field : String) : Bool :=
  name.map foldCharacter == field.toList.map foldCharacter

/-- Decode a value into a field that holds a string. -/
def setString {α : Type} (value : JsonValue) (unchanged : α) (change : String → α) : Option α :=
  match value with
  | .string text => some (change (String.ofList text))
  | .null => some unchanged
  | _ => none

/-- Decode a value into a field that holds an `int64`. -/
def setInteger {α : Type} (value : JsonValue) (unchanged : α) (change : Int → α) : Option α :=
  match value with
  | .number literal =>
    match literal.int? with
    | some number =>
      if -0x8000000000000000 ≤ number ∧ number < 0x8000000000000000 then some (change number)
      else none
    | none => none
  | .null => some unchanged
  | _ => none

/-- Decode one member after the other into a structure, in their order, so that of two members
for one field the later one counts. A null leaves the structure as it is. -/
def decodeMembers {α : Type} (set : α → List Char × JsonValue → Option α) (text : List UInt8)
    (into : α) : Option α :=
  match readJson (decodeUtf8 none text) with
  | some (.object members) => members.foldlM set into
  | some .null => some into
  | _ => none

/-- A member of a request. Names are compared without regard to case, and members that name no
field are skipped. -/
def setRequest (request : RequestMessage) (member : List Char × JsonValue) :
    Option RequestMessage :=
  if namesField member.1 "type" then
    setString member.2 request (fun text => { request with type := text })
  else if namesField member.1 "username" then
    setString member.2 request (fun text => { request with username := text })
  else if namesField member.1 "email" then
    setString member.2 request (fun text => { request with email := text })
  else if namesField member.1 "password" then
    setString member.2 request (fun text => { request with password := text })
  else if namesField member.1 "token" then
    setString member.2 request (fun text => { request with token := text })
  else some request

/-- A member of login data, for the second decoding of an answer that the handler makes to
remember the login. -/
def setLogin (login : LoginResponseData) (member : List Char × JsonValue) :
    Option LoginResponseData :=
  if namesField member.1 "token" then
    setString member.2 login (fun text => { login with token := text })
  else if namesField member.1 "user_id" then
    setString member.2 login (fun text => { login with userId := text })
  else if namesField member.1 "username" then
    setString member.2 login (fun text => { login with username := text })
  else if namesField member.1 "email" then
    setString member.2 login (fun text => { login with email := text })
  else if namesField member.1 "expires_at" then
    setInteger member.2 login (fun number => { login with expiresAt := number })
  else some login

/-- The text of a value as bytes, which is what goes over the connection. -/
def textOf (value : JsonValue) : List UInt8 := encodeUtf8 value.write

/-- A member of a response. Its data stays as it is written. -/
def setResponse (response : ResponseMessage) (member : List Char × JsonValue) :
    Option ResponseMessage :=
  if namesField member.1 "status" then
    setString member.2 response (fun text => { response with status := text })
  else if namesField member.1 "message" then
    setString member.2 response (fun text => { response with message := text })
  else if namesField member.1 "data" then some { response with data := textOf member.2 }
  else some response

/-- A member that holds a string, as the structures of the protocol mostly have. -/
def stringMember (name value : String) : List Char × JsonValue :=
  (name.toList, .string value.toList)

/-- A member that is left out if its string is empty. -/
def nonemptyMember (name value : String) : List (List Char × JsonValue) :=
  if value = "" then [] else [stringMember name value]

/-- The data of a response as a value, with the names its fields have in the `json` tags. -/
def Data.toJson : Data → JsonValue
  | .register data =>
    .object [stringMember "user_id" data.userId, stringMember "username" data.username,
      stringMember "email" data.email]
  | .login data =>
    .object [stringMember "token" data.token, stringMember "user_id" data.userId,
      stringMember "username" data.username, stringMember "email" data.email,
      ("expires_at".toList, .number (.ofInt data.expiresAt))]
  | .validate data =>
    .object (("valid".toList, .boolean data.valid) ::
      (nonemptyMember "user_id" data.userId ++ nonemptyMember "username" data.username ++
        nonemptyMember "email" data.email))
  | .message text => .object [stringMember "message" text]

/-- The members of a response whose data has been read. -/
def ResponseMessage.members (message : ResponseMessage) (data : List (List Char × JsonValue)) :
    List (List Char × JsonValue) :=
  stringMember "status" message.status :: (nonemptyMember "message" message.message ++ data)

/-- A response in one line. Data that is not JSON cannot be marshalled. -/
def ResponseMessage.marshal (message : ResponseMessage) : Option (List UInt8) :=
  if message.data = [] then some (textOf (.object (message.members [])))
  else
    (readJson (decodeUtf8 none message.data)).map (fun value =>
      textOf (.object (message.members [("data".toList, value)])))

/-- `encoding/json`, as far as it is used here: a parameter of the connection loop made
concrete. -/
def goJson : EncodingJson where
  unmarshalRequest := decodeMembers setRequest
  marshalData data := some (textOf data.toJson)
  unmarshalLogin text :=
    decodeMembers setLogin text { token := "", userId := "", username := "", email := "", expiresAt := 0 }
  marshalResponse := ResponseMessage.marshal
  unmarshalResponse text := decodeMembers setResponse text { status := "", message := "", data := [] }

/-- The text of a value is read back as that value, since the printer's text is what the
parser accepts. -/
theorem readJson_textOf (value : JsonValue) :
    readJson (decodeUtf8 none (textOf value)) = some value := by
  rw [textOf, decodeUtf8_encodeUtf8, readJson_write]

/-- The members of an object are decoded one after the other. -/
theorem decodeMembers_textOf {α : Type} (set : α → List Char × JsonValue → Option α)
    (members : List (List Char × JsonValue)) (into : α) :
    decodeMembers set (textOf (.object members)) into = members.foldlM set into := by
  rw [decodeMembers, readJson_textOf]

/-- A text of JSON has no line break among its bytes, so that one message is one line of the
connection. -/
theorem textOf_one_line (value : JsonValue) : newline ∉ textOf value :=
  (write_printable value).encoded_line

/-- A text of JSON has at least one byte; otherwise it could not be read back. -/
theorem textOf_ne_nil (value : JsonValue) : textOf value ≠ [] := by
  intro empty
  have read := readJson_textOf value
  rw [empty] at read
  have nothing : readJson (decodeUtf8 none []) = none := rfl
  rw [nothing] at read
  exact Option.some_ne_none value read.symm

/-- A string is decoded into its field without loss, as the conversions of texts and
characters cancel. -/
theorem setString_toList {α : Type} (value : String) (unchanged : α) (change : String → α) :
    setString (.string value.toList) unchanged change = some (change value) := by
  rw [setString, String.ofList_toList]

theorem setResponse_status (response : ResponseMessage) (value : String) :
    setResponse response (stringMember "status" value) = some { response with status := value } :=
  setString_toList value response (fun text => { response with status := text })

theorem setResponse_message (response : ResponseMessage) (value : String) :
    setResponse response (stringMember "message" value) =
      some { response with message := value } :=
  setString_toList value response (fun text => { response with message := text })

/-- An integer in the range of an `int64` is decoded into its field; others are an error in
the source too. -/
theorem setInteger_ofInt {α : Type} {number : Int} (low : -0x8000000000000000 ≤ number)
    (high : number < 0x8000000000000000) (unchanged : α) (change : Int → α) :
    setInteger (.number (.ofInt number)) unchanged change = some (change number) := by
  simp only [setInteger, NumberLiteral.int?_ofInt]
  rw [if_pos ⟨low, high⟩]

/-- Login data that is marshalled and decoded again is the same if its expiry is an `int64`,
as it is in the source by its type. -/
theorem goJson_login (login : LoginResponseData) (low : -0x8000000000000000 ≤ login.expiresAt)
    (high : login.expiresAt < 0x8000000000000000) :
    ∃ text, goJson.marshalData (.login login) = some text ∧
      goJson.unmarshalLogin text = some login := by
  have token (data : LoginResponseData) :
      setLogin data (stringMember "token" login.token) = some { data with token := login.token } :=
    setString_toList login.token data (fun text => { data with token := text })
  have userId (data : LoginResponseData) :
      setLogin data (stringMember "user_id" login.userId) =
        some { data with userId := login.userId } :=
    setString_toList login.userId data (fun text => { data with userId := text })
  have username (data : LoginResponseData) :
      setLogin data (stringMember "username" login.username) =
        some { data with username := login.username } :=
    setString_toList login.username data (fun text => { data with username := text })
  have email (data : LoginResponseData) :
      setLogin data (stringMember "email" login.email) = some { data with email := login.email } :=
    setString_toList login.email data (fun text => { data with email := text })
  have expiresAt (data : LoginResponseData) :
      setLogin data ("expires_at".toList, .number (.ofInt login.expiresAt)) =
        some { data with expiresAt := login.expiresAt } :=
    setInteger_ofInt low high data (fun number => { data with expiresAt := number })
  refine ⟨_, rfl, ?_⟩
  change decodeMembers setLogin (textOf (Data.login login).toJson) _ = _
  rw [Data.toJson, decodeMembers_textOf]
  simp only [List.foldlM_cons, List.foldlM_nil, token, userId, username, email, expiresAt,
    Option.bind_eq_bind, Option.bind_some]
  rfl

/-- A response is decoded from its members; an empty message is left out and stays
empty. -/
theorem members_decoded (message : ResponseMessage) (data : List (List Char × JsonValue)) :
    (message.members data).foldlM setResponse { status := "", message := "", data := [] } =
      data.foldlM setResponse { message with data := [] } := by
  rw [ResponseMessage.members, List.foldlM_cons, setResponse_status]
  simp only [Option.bind_eq_bind, Option.bind_some]
  unfold nonemptyMember
  split_ifs with empty
  · rw [List.nil_append, ← empty]
  · rw [List.singleton_append, List.foldlM_cons, setResponse_message]
    rfl

/-- The text of a message whose data is the text of a value. -/
theorem marshal_textOf {message : ResponseMessage} {value : JsonValue}
    (written : message.data = textOf value) :
    message.marshal = some (textOf (.object (message.members [("data".toList, value)]))) := by
  rw [ResponseMessage.marshal, if_neg (written ▸ textOf_ne_nil value), written, readJson_textOf,
    Option.map_some]

/-- A message without data is written without that member, by the `omitempty` of its tag. -/
theorem marshal_bare {message : ResponseMessage} (bare : message.data = []) :
    message.marshal = some (textOf (.object (message.members []))) := by
  rw [ResponseMessage.marshal, if_pos bare]

/-- The data of a message is none or the text of a value. -/
theorem goJson_carries {message : ResponseMessage} (carries : goJson.Carries message) :
    message.data = [] ∨ ∃ value, message.data = textOf value := by
  cases carries with
  | inl bare => exact Or.inl bare
  | inr marshalled =>
    obtain ⟨data, text⟩ := marshalled
    exact Or.inr ⟨data.toJson, (Option.some.inj text).symm⟩

/-- The package at hand is correct in the sense that the loop needs, so the assumption about
the parameter can be met. -/
theorem goJson_correct : goJson.Correct := by
  constructor
  · intro message carries
    cases goJson_carries carries with
    | inl bare => exact ⟨_, marshal_bare bare⟩
    | inr written =>
      obtain ⟨value, same⟩ := written
      exact ⟨_, marshal_textOf same⟩
  · intro message text marshalled
    change message.marshal = some text at marshalled
    unfold ResponseMessage.marshal at marshalled
    split_ifs at marshalled
    · rw [← Option.some.inj marshalled]
      exact textOf_one_line _
    · obtain ⟨value, -, rfl⟩ := Option.map_eq_some_iff.mp marshalled
      exact textOf_one_line _
  · intro message text carries marshalled
    change message.marshal = some text at marshalled
    change decodeMembers setResponse text _ = some message
    cases goJson_carries carries with
    | inl bare =>
      rw [marshal_bare bare] at marshalled
      rw [← Option.some.inj marshalled, decodeMembers_textOf, members_decoded, List.foldlM_nil,
        ← bare]
      rfl
    | inr written =>
      obtain ⟨value, same⟩ := written
      rw [marshal_textOf same] at marshalled
      rw [← Option.some.inj marshalled, decodeMembers_textOf, members_decoded, List.foldlM_cons]
      have decoded : setResponse { message with data := [] } ("data".toList, value) =
          some { message with data := textOf value } := rfl
      rw [decoded, ← same]
      rfl

end Package

end ShoppingCS.Auth
