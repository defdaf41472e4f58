import ShoppingCS.Web.Utf8
import ShoppingCS.Shop.Listener

/-!
# The chunks of a request body

A handler that reads a body decodes each chunk as it arrives and appends the text. The
chunks of a body are cut wherever the connection cut them, also inside a character; then
both halves are decoded to replacement characters, and what is parsed is not what was
sent.
-/

namespace ShoppingCS.Shop.Listener

open Web

/-- `chunk.toString()`, which decodes each chunk by itself, whatever the one before it ended
with. -/
def chunkToString (chunk : List UInt8) : Text := decodeUtf8 none chunk

/-- `body += chunk.toString()`, for each chunk in the order of arrival. -/
def collectBody (chunks : List (List UInt8)) : Text :=
  chunks.foldl (fun body chunk => body ++ chunkToString chunk) []

/-- What `POST /api/cart` passes to `JSON.parse` at the end of the body. -/
def postCartBody (chunks : List (List UInt8)) : Text := collectBody chunks

/-- What `PUT /api/cart/:id` passes to `JSON.parse` when the request has ended. -/
def putCartBody (chunks : List (List UInt8)) : Text := collectBody chunks

/-- What `POST /api/orders` passes to `JSON.parse` when the request has ended. -/
def postOrdersBody (chunks : List (List UInt8)) : Text := collectBody chunks

/-- A request once its chunks have arrived, with the text of its body as the handlers have it.
-/
def IncomingMessage.received (req : IncomingMessage) (chunks : List (List UInt8)) :
    IncomingMessage :=
  { req with body := String.ofList (collectBody chunks) }

/-- The chunks are decoded one by one, so the body is the concatenation of their texts. -/
theorem collectBody_eq (chunks : List (List UInt8)) :
    collectBody chunks = chunks.flatMap (decodeUtf8 none) := by
  have appended : ∀ body : Text,
      chunks.foldl (fun body chunk => body ++ chunkToString chunk) body =
        body ++ chunks.flatMap (decodeUtf8 none) := by
    induction chunks with
    | nil =>
      intro body
      rw [List.foldl_nil, List.flatMap_nil, List.append_nil]
    | cons chunk chunks inductionHypothesis =>
      intro body
      rw [List.foldl_cons, inductionHypothesis, List.flatMap_cons, chunkToString,
        List.append_assoc]
  exact appended []

/-- A body of whole characters is collected exactly when no chunk starts inside one. -/
theorem collectBody_iff {text : Text} {chunks : List (List UInt8)}
    (valid : chunks.flatten = encodeUtf8 text) :
    collectBody chunks = decodeUtf8 none chunks.flatten ↔
      ∀ chunk ∈ chunks, startsInside chunk = false := by
  rw [collectBody_eq, valid, decodeUtf8_encodeUtf8]
  exact decodeUtf8_pieces_iff valid

/-- The three handlers parse the decoding of the whole body exactly when no chunk of it starts
inside a character. The body is assumed to be valid UTF-8, and the three handlers collect it
in the same way. -/
theorem bodies_decoded_iff (text : Text) (chunks : List (List UInt8))
    (valid : chunks.flatten = encodeUtf8 text) :
    (postCartBody chunks = decodeUtf8 none chunks.flatten ∧
      putCartBody chunks = decodeUtf8 none chunks.flatten ∧
      postOrdersBody chunks = decodeUtf8 none chunks.flatten) ↔
      ∀ chunk ∈ chunks, startsInside chunk = false := by
  have each := collectBody_iff valid
  constructor
  · intro decoded
    exact each.mp decoded.1
  · intro starts
    have whole := each.mpr starts
    exact ⟨whole, whole, whole⟩

/-- The first half of a body, up to the middle of the two bytes of its last letter. -/
def firstHalf : List UInt8 :=
  encodeUtf8 "\x7b\"productId\":\"1\",\"quantity\":1,\"customerName\":\"Ren".toList ++ [0xC3]

/-- The rest of that body, which begins in the middle of a character. -/
def secondHalf : List UInt8 := 0xA9 :: encodeUtf8 "\"\x7d".toList

/-- A name cut in the middle of a letter is parsed as another name by each handler. -/
theorem halves_garbled :
    [firstHalf, secondHalf].flatten =
        encodeUtf8 "\x7b\"productId\":\"1\",\"quantity\":1,\"customerName\":\"René\"\x7d".toList ∧
      postCartBody [firstHalf, secondHalf] ≠ decodeUtf8 none [firstHalf, secondHalf].flatten ∧
      putCartBody [firstHalf, secondHalf] ≠ decodeUtf8 none [firstHalf, secondHalf].flatten ∧
      postOrdersBody [firstHalf, secondHalf] ≠ decodeUtf8 none [firstHalf, secondHalf].flatten := by
  decide

/-- The same body arrives whole when it is cut in front of the letter. -/
theorem parts_decoded :
    postCartBody [encodeUtf8 "\x7b\"customerName\":\"Ren".toList, encodeUtf8 "é\"\x7d".toList] =
      decodeUtf8 none (encodeUtf8 "\x7b\"customerName\":\"René\"\x7d".toList) :=
  ((bodies_decoded_iff "\x7b\"customerName\":\"René\"\x7d".toList
    [encodeUtf8 "\x7b\"customerName\":\"Ren".toList, encodeUtf8 "é\"\x7d".toList] (by decide)).mpr
      (by decide)).1

/-- Two ways to cut a body between its characters are the same request to the listener
and its callback. -/
theorem exchange_chunks (runtime : Runtime) (req : IncomingMessage) {text : Text}
    {chunks : List (List UInt8)} (valid : chunks.flatten = encodeUtf8 text)
    (starts : ∀ chunk ∈ chunks, startsInside chunk = false) :
    exchange runtime (req.received chunks) =
      exchange runtime { req with body := String.ofList text } := by
  have whole := (collectBody_iff valid).mpr starts
  rw [IncomingMessage.received, whole, valid, decodeUtf8_encodeUtf8]

end ShoppingCS.Shop.Listener
