import NntpProxy.Framing.Block
import NntpProxy.Protocol.Request

/-!
# Cached payloads

What a cache keeps of a response are its sections, without the status line and without the
closing dot.  A captured response is cut into sections when it is stored; when it is sent the
status line is written anew, the blank line of an article is put back between its sections
and the dot is added.
-/

namespace NntpProxy.Cache

open Protocol NntpProxy.Stream Framing

/-! ## Payloads -/

/-- What is kept of a response. -/
inductive CachedPayload where
  | missing
  | availabilityOnly
  | article (articleNumber : Option UInt64) (headers body : Bytes)
  | head (articleNumber : Option UInt64) (headers : Bytes)
  | body (articleNumber : Option UInt64) (body : Bytes)
  | stat (articleNumber : Option UInt64)
  deriving DecidableEq, Repr

namespace CachedPayload

/-- The request kinds that a payload can answer, one bit each. -/
def answerBits : CachedPayload → UInt8
  | .article .. => 1 ||| 2 ||| 4 ||| 8
  | .head .. => 2 ||| 8
  | .body .. => 4 ||| 8
  | .stat .. => 8
  | .missing | .availabilityOnly => 0

/-- The payload answers every request that the other one answers, and more. -/
def strictlyMoreUsefulThan (payload existing : CachedPayload) : Bool :=
  payload.answerBits &&& existing.answerBits == existing.answerBits &&
    payload.answerBits != existing.answerBits

def len : CachedPayload → Nat
  | .missing | .availabilityOnly | .stat _ => 0
  | .article _ headers content => headers.length + content.length
  | .head _ headers => headers.length
  | .body _ content => content.length

def articleNumber : CachedPayload → Option UInt64
  | .article number _ _ | .head number _ | .body number _ | .stat number => number
  | .missing | .availabilityOnly => none

/-- The kept sections. -/
def sections : CachedPayload → List Bytes
  | .article _ headers content => [headers, content]
  | .head _ headers => [headers]
  | .body _ content => [content]
  | .missing | .availabilityOnly | .stat _ => []

end CachedPayload

/-- Keep the stored payload when it is longer, or as long and no less useful. -/
def keepSameCompleteness (existing new : CachedPayload) : Bool :=
  decide (new.len < existing.len) ||
    (existing.len == new.len && !new.strictlyMoreUsefulThan existing)

/-! ## Sending a cached response -/

/-- A message identifier. -/
structure MessageId where
  text : Bytes
  wellFormed : isMessageId text = true
  deriving DecidableEq, Repr

/-- The key of a message identifier. -/
def MessageId.withoutBrackets (messageId : MessageId) : Bytes :=
  (messageId.text.drop 1).dropLast

namespace StackStatusLine

/-- The room for a status line. -/
def capacity : Nat := 1024

def pushSlice (line part : Bytes) : Option Bytes :=
  if line.length + part.length ≤ capacity then some (line ++ part) else none

/-- The digits of a number. -/
def digits (value : Nat) : Bytes :=
  (Nat.toDigits 10 value).map fun char => char.toNat.toUInt8

def pushU64 (line : Bytes) (value : Nat) : Option Bytes :=
  pushSlice line (digits value)

/-- A status line with code, article number and message identifier, if there is room. -/
def new (code : Nat) (articleNumber : UInt64) (messageId : Bytes) : Option Bytes := do
  let line ← pushU64 [] code
  let line ← pushSlice line [32]
  let line ← pushU64 line articleNumber.toNat
  let line ← pushSlice line [32]
  let line ← pushSlice line messageId
  pushSlice line crlf

end StackStatusLine

inductive CachedResponseWirePayload where
  | none
  | article (headers body : Bytes)
  | head (headers : Bytes)
  | body (body : Bytes)
  deriving DecidableEq, Repr

/-- A cached response that is ready to be sent. -/
structure CachedResponseWire where
  status : Nat
  statusLine : Bytes
  payload : CachedResponseWirePayload
  deriving DecidableEq, Repr

namespace CachedResponseWire

/-- The closing dot. -/
def responseCompletion : Bytes :=
  [dot, cr, lf]

/-- The blank line of an article; an article without any octets has none. -/
def articleSeparator (headers body : Bytes) : Bytes :=
  if headers.isEmpty && body.isEmpty then [] else crlf

variable (response : CachedResponseWire)

/-- The slices that are written, in their order. -/
def slices : List Bytes :=
  match response.payload with
  | .none => [response.statusLine]
  | .article headers body =>
    [response.statusLine, headers, articleSeparator headers body, body, responseCompletion]
  | .head headers => [response.statusLine, headers, responseCompletion]
  | .body body => [response.statusLine, body, responseCompletion]

/-- The octets that are written. -/
def written : Bytes :=
  response.slices.flatten

def payloadLen : Nat :=
  match response.payload with
  | .none => 0
  | .article headers body =>
    headers.length + (articleSeparator headers body).length + body.length +
      responseCompletion.length
  | .head headers => headers.length + responseCompletion.length
  | .body body => body.length + responseCompletion.length

def wireLen : Nat :=
  response.statusLine.length + response.payloadLen

theorem wireLen_eq_length_written :
    response.wireLen = response.written.length := by
  rcases response with ⟨status, statusLine, _ | ⟨headers, body⟩ | headers | body⟩
  · simp [wireLen, payloadLen, written, slices]
  · simp [wireLen, payloadLen, written, slices, Nat.add_assoc]
  · simp [wireLen, payloadLen, written, slices]
  · simp [wireLen, payloadLen, written, slices]

end CachedResponseWire

/-- The response to a request of this kind, if the payload can answer it. -/
def cachedResponseForPayload (payload : CachedPayload) (requestKind : RequestKind)
    (messageId : Bytes) : Option CachedResponseWire :=
  let number := payload.articleNumber.getD 0
  match requestKind, payload with
  | .stat, .article .. | .stat, .head .. | .stat, .body .. | .stat, .stat .. =>
    (StackStatusLine.new 223 number messageId).map (⟨223, ·, .none⟩)
  | .article, .article _ headers body =>
    (StackStatusLine.new 220 number messageId).map (⟨220, ·, .article headers body⟩)
  | .head, .article _ headers _ | .head, .head _ headers =>
    (StackStatusLine.new 221 number messageId).map (⟨221, ·, .head headers⟩)
  | .body, .article _ _ body | .body, .body _ body =>
    (StackStatusLine.new 222 number messageId).map (⟨222, ·, .body body⟩)
  | _, _ => none

/-! ## Storing a captured response -/

/-- A captured response in chunks: its status, the end of its status line and the end of its
payload. -/
structure FramedChunkedResponse where
  status : StatusCode
  statusLineEnd : Nat
  chunks : List Bytes
  payloadEnd : Nat
  deriving DecidableEq, Repr

/-- The article number of a status line. -/
def parseArticleNumber (statusLine : Bytes) : Option UInt64 :=
  if statusLine.length < 4 then none
  else parseU64 ((statusLine.drop 4).takeWhile (· != 32))

/-- Copy up to a number of octets from the front of the chunks. -/
def copyPrefix : Nat → List Bytes → Bytes
  | _, [] => []
  | remaining, chunk :: chunks =>
    if remaining = 0 then []
    else
      let taken := min remaining chunk.length
      chunk.take taken ++ copyPrefix (remaining - taken) chunks

/-- Copy the octets of a range from chunks, the first of which starts here. -/
def copyChunks (start stop : Nat) : Nat → List Bytes → Bytes
  | _, [] => []
  | chunkStart, chunk :: chunks =>
    let chunkEnd := chunkStart + chunk.length
    let copied :=
      if start < chunkEnd ∧ chunkStart < stop then
        (chunk.take (min (stop - chunkStart) chunk.length)).drop (start - chunkStart)
      else []
    if stop ≤ chunkEnd then copied else copied ++ copyChunks start stop chunkEnd chunks

def copyPayloadBytes (chunks : List Bytes) (start stop : Nat) : Bytes :=
  if stop < start then [] else copyChunks start stop 0 chunks

/-- The headers and the body of an article that has a blank line. -/
def capturedArticlePayloadSections (payload : Bytes) : Option (Bytes × Bytes) :=
  if crlf <+: payload then some ([], payload.drop 2)
  else
    (firstMatchEnd headersEnd payload).map fun stop =>
      (payload.take (stop - 2), payload.drop stop)

def payloadForStatusOwned (code : Nat) (articleNumber : Option UInt64) (payload : Bytes) :
    CachedPayload :=
  if code = 220 then
    match capturedArticlePayloadSections payload with
    | some (headers, body) => .article articleNumber headers body
    | none => .article articleNumber [] payload
  else if code = 221 then .head articleNumber payload
  else if code = 222 then .body articleNumber payload
  else .availabilityOnly

/-- What is kept of a captured response. -/
def parseFramedChunkedPayload (response : FramedChunkedResponse) : CachedPayload :=
  let code := response.status.value
  if code = 430 then .missing
  else
    let statusLine := copyPrefix response.statusLineEnd response.chunks
    if statusLine.length ≠ response.statusLineEnd then .availabilityOnly
    else
      let articleNumber := parseArticleNumber statusLine
      if code = 223 then .stat articleNumber
      else if ¬ (220 ≤ code ∧ code ≤ 222) then .availabilityOnly
      else
        payloadForStatusOwned code articleNumber
          (copyPayloadBytes response.chunks response.statusLineEnd response.payloadEnd)

theorem copyPrefix_eq (count : Nat) (chunks : List Bytes) :
    copyPrefix count chunks = chunks.flatten.take count := by
  induction chunks generalizing count with
  | nil => simp [copyPrefix]
  | cons chunk chunks ih =>
    rw [copyPrefix, List.flatten_cons]
    split
    next isZero => simp [isZero]
    · simp only [ih]
      rw [List.take_append]
      congr 1
      · rcases Nat.le_total count chunk.length with short | long
        · rw [Nat.min_eq_left short]
        · rw [Nat.min_eq_right long, List.take_of_length_le le_rfl, List.take_of_length_le long]
      · congr 1
        omega

theorem copyChunks_eq {start stop : Nat} (chunkStart : Nat) (chunks : List Bytes) :
    copyChunks start stop chunkStart chunks =
      (chunks.flatten.take (stop - chunkStart)).drop (start - chunkStart) := by
  induction chunks generalizing chunkStart with
  | nil => simp [copyChunks]
  | cons chunk chunks ih =>
    have copiedEq : (if start < chunkStart + chunk.length ∧ chunkStart < stop then
        (chunk.take (min (stop - chunkStart) chunk.length)).drop (start - chunkStart) else []) =
        (chunk.take (stop - chunkStart)).drop (start - chunkStart) := by
      have takeEq : chunk.take (min (stop - chunkStart) chunk.length) =
          chunk.take (stop - chunkStart) := by
        rw [← List.take_take, List.take_of_length_le (le_refl chunk.length)]
      split
      · rw [takeEq]
      next outside =>
        symm
        apply List.drop_eq_nil_of_le
        rw [List.length_take]
        omega
    simp only [copyChunks, copiedEq, List.flatten_cons]
    split
    next inside =>
      rw [List.take_append_of_le_length (by omega)]
    next beyond =>
      have wholeChunk : chunk.length ≤ stop - chunkStart := by omega
      rw [ih, List.take_append, List.drop_append, List.length_take, Nat.min_eq_right wholeChunk]
      congr 2
      · rw [Nat.sub_sub]
      · rw [Nat.sub_sub]

/-- The copied octets are those of the range, however the response is cut into chunks. -/
theorem copyPayloadBytes_eq (chunks : List Bytes) (start stop : Nat) :
    copyPayloadBytes chunks start stop = (chunks.flatten.take stop).drop start := by
  unfold copyPayloadBytes
  split
  next isEmpty =>
    symm
    apply List.drop_eq_nil_of_le
    rw [List.length_take]
    omega
  · exact copyChunks_eq 0 chunks

end NntpProxy.Cache
