import NntpProxy.Framing.Window
import NntpProxy.Stream.Sink
import NntpProxy.Transport.Connection
import NntpProxy.Transport.Errors

/-!
# Streaming one response

A response is classified from a buffer that holds its status line and is then
passed on window by window.  The state is the connection, the buffer, the framer
and the current window; a window is a front part of what the buffer shows.  When
the client fails, the rest of the response is drained so that the next response
stays aligned.
-/

namespace NntpProxy.Transport

open Protocol Framing NntpProxy.Stream

variable {pool : BufferPool}

/-! ## Classification -/

/-- A classified response: where its status line ends and whether a body follows. -/
inductive ResponseFrame where
  | singleLine (status : StatusCode) (statusLineEnd : Nat)
  | multiline (status : StatusCode) (statusLineEnd : Nat)
  deriving DecidableEq, Repr

/-- Why octets are not classified. -/
inductive ResponseReadError where
  | incomplete
  | invalid
  deriving DecidableEq, Repr

def ResponseFrame.parse (kind : RequestKind) (chunk : Bytes) :
    Except ResponseReadError ResponseFrame :=
  match statusLineLen chunk with
  | none => .error .incomplete
  | some statusLineEnd =>
    match StatusCode.parse chunk with
    | none => .error .invalid
    | some status =>
      if requestKindHasResponseBody kind status then .ok (.multiline status statusLineEnd)
      else .ok (.singleLine status statusLineEnd)

/-- A response with the octets it was classified from, or an invalid one. -/
structure ClassifiedResponse (pool : BufferPool) where
  buffer : PooledBuffer pool
  frame : Except ResponseReadError ResponseFrame
  deriving Repr

/-- The status of a classified response; an invalid one has none. -/
def ClassifiedResponse.statusCode (classified : ClassifiedResponse pool) : Option StatusCode :=
  match classified.frame with
  | .ok (.singleLine status _) | .ok (.multiline status _) => some status
  | .error _ => none

theorem contents_lt_of_readTo {shown : Bytes} {conn : ConnectionStream pool}
    {result : Bytes × PooledBuffer pool × ConnectionStream pool}
    (read : PooledBuffer.ReadTo shown conn result)
    (nonempty : result.1 ≠ []) : result.2.2.contents.length < conn.contents.length := by
  rw [← read.contents, List.length_append]
  have positive := List.length_pos_of_ne_nil nonempty
  omega

/-- Read until the status line is complete.  A full buffer or the end of the stream
is an error. -/
def readUnbound (kind : RequestKind) (buffer : PooledBuffer pool) (conn : ConnectionStream pool) :
    Option (ClassifiedResponse pool) × ConnectionStream pool :=
  match ResponseFrame.parse kind buffer.visible with
  | .error .incomplete =>
    if _stuck : (buffer.readMore conn).1 = [] then (none, (buffer.readMore conn).2.2)
    else readUnbound kind (buffer.readMore conn).2.1 (buffer.readMore conn).2.2
  | frame => (some ⟨buffer, frame⟩, conn)
termination_by conn.contents.length
decreasing_by exact contents_lt_of_readTo (buffer.readTo_readMore conn) _stuck

/-! ## The streaming state -/

/-- The current window: the octets up to `stop` end the response and the rest of the
window belongs to the next one, or the whole window belongs to the response. -/
inductive ResponseWindow where
  | complete (stop windowLen : Nat)
  | incomplete (windowLen : Nat)
  deriving DecidableEq, Repr

/-- Translate progress in a chunk that starts at `origin` of the window. -/
def inWindow (origin windowLen : Nat) : ChunkProgress → ResponseWindow
  | .complete consumed => .complete (origin + consumed) windowLen
  | .incomplete => .incomplete windowLen

inductive ResponseShape where
  | singleLine
  | multiline
  deriving DecidableEq, Repr

/-- A response that is being streamed. -/
structure StreamingResponse (pool : BufferPool) where
  conn : ConnectionStream pool
  buffer : PooledBuffer pool
  framer : MultilineFramer
  window : ResponseWindow
  shape : ResponseShape
  bytesReceived : Nat
  deriving DecidableEq, Repr

/-- A client writer and the kind of error that it fails with. -/
structure ClientWriter where
  sink : Sink UInt8
  failure : IoErrorKind
  deriving DecidableEq, Repr

namespace StreamingResponse

/-- Outcome of an operation on a response: an error or a result, with the state. -/
abbrev Outcome (pool : BufferPool) (α : Type) :=
  Except ResponseTransferError α × StreamingResponse pool

def isComplete (response : StreamingResponse pool) : Bool :=
  match response.window with
  | .complete _ _ => true
  | .incomplete _ => false

/-- Start streaming a classified response. -/
def fromClassification (classified : ClassifiedResponse pool) (conn : ConnectionStream pool) :
    Option (StreamingResponse pool) :=
  let shown := classified.buffer.visible
  match classified.frame with
  | .error _ => none
  | .ok (.singleLine _ statusLineEnd) =>
    some ⟨conn, classified.buffer, .empty, .complete statusLineEnd shown.length, .singleLine,
      shown.length⟩
  | .ok (.multiline _ statusLineEnd) =>
    if shown.length < statusLineEnd then none
    else
      let framer := MultilineFramer.empty.update (shown.take statusLineEnd)
      (framer.splitChunk (shown.drop statusLineEnd) .allowIfStatusPrefix).map
        fun (progress, framer) =>
          ⟨conn, classified.buffer, framer, inWindow statusLineEnd shown.length progress,
            .multiline, shown.length⟩

section

variable (response : StreamingResponse pool)

/-- Frame octets at the end of what the buffer shows. -/
def frameRead (origin : Nat)
    (read : Bytes × PooledBuffer pool × ConnectionStream pool) : Outcome pool Unit :=
  let received := response.bytesReceived + read.1.length
  match response.framer.splitChunk read.1 .allowIfStatusPrefix with
  | none =>
    (.error .io, { response with conn := read.2.2, buffer := read.2.1, bytesReceived := received })
  | some (progress, framer) =>
    (.ok (),
      { response with
        conn := read.2.2
        buffer := read.2.1
        framer := framer
        window := inWindow origin (origin + read.1.length) progress
        bytesReceived := received })

/-- The error of a read that returned nothing. -/
def endOfInput : ResponseTransferError :=
  if response.conn.readFails then .io else .backendEof response.bytesReceived

/-- Extend a window that was retained in place before anything is written. -/
def appendToRetainedPrefixIfWritable : Outcome pool Unit :=
  if response.isComplete || !response.buffer.retainedAppendPermit then (.ok (), response)
  else
    let read := response.buffer.readMore response.conn
    if read.1 = [] then
      (.error response.endOfInput, { response with conn := read.2.2, buffer := read.2.1 })
    else response.frameRead response.buffer.initialized read

/-- Replace the window by the next read. -/
def readNextChunk : Outcome pool Unit :=
  let read := response.buffer.readFrom response.conn
  if read.1 = [] then
    (.error response.endOfInput, { response with conn := read.2.2, buffer := read.2.1 })
  else response.frameRead 0 read

theorem conn_frameRead (origin : Nat) (read : Bytes × PooledBuffer pool × ConnectionStream pool) :
    (response.frameRead origin read).2.conn = read.2.2 := by
  unfold frameRead
  cases response.framer.splitChunk read.1 .allowIfStatusPrefix with
  | none => rfl
  | some framed => rfl

end

theorem contents_lt_of_readNextChunk {response : StreamingResponse pool}
    (succeeded : response.readNextChunk.1 = .ok ()) :
    response.readNextChunk.2.conn.contents.length < response.conn.contents.length := by
  unfold readNextChunk at succeeded ⊢
  by_cases nothing : (response.buffer.readFrom response.conn).1 = []
  · simp only [nothing, if_true] at succeeded
    cases succeeded
  · simp only [nothing, if_false, conn_frameRead]
    exact contents_lt_of_readTo (response.buffer.readTo_readFrom response.conn) nothing

/-- Queue the octets behind a complete window as copies. -/
def queueNextResponseInput (response : StreamingResponse pool) (stop windowLen : Nat) :
    Outcome pool Unit :=
  let next := (response.buffer.visible.take windowLen).drop stop
  match response.conn.queuePendingBytesFirst next with
  | none => (.error .io, response)
  | some conn => (.ok (), { response with conn := conn })

/-- Read the rest of the response without writing it. -/
def drain (response : StreamingResponse pool) : Outcome pool Unit :=
  match response.window with
  | .complete stop windowLen => response.queueNextResponseInput stop windowLen
  | .incomplete _ =>
    match _progress : response.readNextChunk.1 with
    | .error error => (.error error, response.readNextChunk.2)
    | .ok () => response.readNextChunk.2.drain
termination_by response.conn.contents.length
decreasing_by exact contents_lt_of_readNextChunk _progress

/-- Queue the octets behind a complete window together with their buffer. -/
def queuePooledNextResponseInput (response : StreamingResponse pool)
    (stop windowLen : Nat) : Outcome pool Unit :=
  if stop < response.buffer.initialized then
    match response.conn.queuePooledPendingBytesFirst response.buffer stop windowLen with
    | none => (.error .io, { response with buffer := pool.acquire })
    | some conn => (.ok (), { response with buffer := pool.acquire, conn := conn })
  else (.ok (), response)

/-- Read the rest of the response without writing it and keep what follows it. -/
def observe (response : StreamingResponse pool) : Outcome pool Unit :=
  match response.window with
  | .complete stop windowLen => response.queuePooledNextResponseInput stop windowLen
  | .incomplete _ => response.drain

/-! ## Writing to the client -/

/-- Outcome of writing a response: the octets written or an error, the state of the
response and the client. -/
structure Transfer (pool : BufferPool) where
  result : Except ResponseTransferError Nat
  response : StreamingResponse pool
  client : ClientWriter
  deriving Repr

/-- The error of an outcome. -/
def errorOf {α : Type} : Except ResponseTransferError α → Option ResponseTransferError
  | .error error => some error
  | .ok _ => none

/-- A client write failed and the rest of the response was cleaned up by `cleanup`. -/
def failedWrite (client : ClientWriter) (cleanup : Outcome pool Unit) : Transfer pool :=
  ⟨.error (.fromClientWriteAfterCleanup client.failure (errorOf cleanup.1)), cleanup.2, client⟩

/-- Write the last window of a response and keep what belongs to the next one. -/
def writeFrom (response : StreamingResponse pool) (stop windowLen : Nat)
    (client : ClientWriter) (written : Nat) : Transfer pool :=
  let chunk := response.buffer.visible.take stop
  let queued := queuePooledNextResponseInput response stop windowLen
  match client.sink.writeAll chunk with
  | (false, sink) => failedWrite { client with sink := sink } queued
  | (true, sink) =>
    match queued.1 with
    | .error error => ⟨.error error, queued.2, { client with sink := sink }⟩
    | .ok () => ⟨.ok (written + chunk.length), queued.2, { client with sink := sink }⟩

/-- Write the current window and every further one.  `written` octets were written
before. -/
def writeCurrentAndRemainingChunks (response : StreamingResponse pool)
    (client : ClientWriter) (written : Nat) : Transfer pool :=
  match response.window with
  | .complete stop windowLen => response.writeFrom stop windowLen client written
  | .incomplete windowLen =>
    let bytes := response.buffer.visible.take windowLen
    match client.sink.writeAll bytes with
    | (false, sink) => failedWrite { client with sink := sink } response.drain
    | (true, sink) =>
      match _progress : response.readNextChunk.1 with
      | .error error =>
        ⟨.error (if 0 < written + bytes.length then error.afterClientDelivery else error),
          response.readNextChunk.2, { client with sink := sink }⟩
      | .ok () =>
        response.readNextChunk.2.writeCurrentAndRemainingChunks
          { client with sink := sink } (written + bytes.length)
termination_by response.conn.contents.length
decreasing_by exact contents_lt_of_readNextChunk _progress

/-- Write a whole response to the client. -/
def write (response : StreamingResponse pool) (client : ClientWriter) : Transfer pool :=
  let appended := response.appendToRetainedPrefixIfWritable
  match appended.1 with
  | .error error => ⟨.error error, appended.2, client⟩
  | .ok () => appended.2.writeCurrentAndRemainingChunks client 0

/-! ## Writing and keeping a copy -/

/-- The octets of a response that were kept and where its payload ends. -/
structure Capture where
  bytes : Bytes
  payloadEnd : Nat
  deriving DecidableEq, Repr

def maxCapturedMultilineResponseBytes : Nat := 4 * 1024 * 1024

section

variable (response : StreamingResponse pool)

/-- The length of the part of the current window that belongs to the response. -/
def chunkLen : Nat :=
  match response.window with
  | .complete stop _ => stop
  | .incomplete windowLen => windowLen

/-- Keeping the current window would exceed the limit; a single line is always kept. -/
def exceedsLimit (captured : List Bytes) (retentionLimit : Nat) : Bool :=
  match response.shape with
  | .singleLine => false
  | .multiline => retentionLimit < captured.flatten.length + response.chunkLen

/-- Take the buffer of a window away and go on with an empty one. -/
def pushBuffer : StreamingResponse pool :=
  { response with buffer := pool.acquire }

/-- Take the buffer of a complete window away and queue copies of what follows it. -/
def pushFromBuffer (stop windowLen : Nat) : Outcome pool Unit :=
  let queued := response.queueNextResponseInput stop windowLen
  (queued.1, queued.2.pushBuffer)

end

/-- Where the payload of a kept response ends. -/
def payloadEnd (shape : ResponseShape) (bytes : Bytes) : Nat :=
  match shape with
  | .singleLine => bytes.length
  | .multiline => bytes.length - [dot, cr, lf].length

/-- Keep the windows of the response up to the limit and write them at its end; a
longer response is written window by window and not kept. -/
def captureAndWrite (response : StreamingResponse pool) (client : ClientWriter)
    (captured : List Bytes) (retentionLimit : Nat) : Transfer pool × Option Capture :=
  if response.exceedsLimit captured retentionLimit then
    match client.sink.writePieces captured with
    | (false, sink) => (failedWrite { client with sink := sink } response.observe, none)
    | (true, sink) =>
      let rest := response.writeCurrentAndRemainingChunks { client with sink := sink } 0
      ({ rest with result := rest.result.map (captured.flatten.length + ·) }, none)
  else
    match response.window with
    | .complete stop windowLen =>
      let pushed := response.pushFromBuffer stop windowLen
      match pushed.1 with
      | .error error => (⟨.error error, pushed.2, client⟩, none)
      | .ok () =>
        let pieces := captured ++ [response.buffer.visible.take stop]
        match client.sink.writePieces pieces with
        | (false, sink) =>
          (⟨.error (.fromClientWrite client.failure), pushed.2, { client with sink := sink }⟩, none)
        | (true, sink) =>
          (⟨.ok pieces.flatten.length, pushed.2, { client with sink := sink }⟩,
            some ⟨pieces.flatten, payloadEnd response.shape pieces.flatten⟩)
    | .incomplete windowLen =>
      match _progress : response.pushBuffer.readNextChunk.1 with
      | .error error => (⟨.error error, response.pushBuffer.readNextChunk.2, client⟩, none)
      | .ok () =>
        response.pushBuffer.readNextChunk.2.captureAndWrite client
          (captured ++ [response.buffer.visible.take windowLen]) retentionLimit
termination_by response.conn.contents.length
decreasing_by exact contents_lt_of_readNextChunk _progress

end StreamingResponse

/-! ## One exchange on a connection -/

/-- The buffer to start from: queued input of the connection, or an empty buffer.
A queued range that the source could not expose would panic there. -/
def takeQueuedInputOrAcquireEmpty (conn : ConnectionStream pool) :
    PooledBuffer pool × ConnectionStream pool :=
  match conn.takeLeadingPooledPendingInput with
  | (none, conn) => (pool.acquire, conn)
  | (some (buffer, start, stop), conn) =>
    if inside : start < stop ∧ stop ≤ buffer.initialized then
      (buffer.exposeInitializedRange start stop inside, conn)
    else (pool.acquire, conn)

/-- Read into an empty buffer and classify; nothing to read is an error. -/
def readFirst (kind : RequestKind) (buffer : PooledBuffer pool) (conn : ConnectionStream pool) :
    Option (ClassifiedResponse pool) × ConnectionStream pool :=
  let read := buffer.readFrom conn
  if read.1 = [] then (none, read.2.2) else readUnbound kind read.2.1 read.2.2

/-- Read and classify the next response of a connection. -/
def readExchange (kind : RequestKind) (conn : ConnectionStream pool) :
    Option (ClassifiedResponse pool) × ConnectionStream pool :=
  let (buffer, conn) := takeQueuedInputOrAcquireEmpty conn
  if buffer.initialized = 0 then readFirst kind buffer conn else readUnbound kind buffer conn

/-- Outcome of an exchange: the connection left behind, whether the response was
marked complete, and the client. -/
structure ExchangeResult (pool : BufferPool) where
  result : Except ResponseTransferError Nat
  conn : ConnectionStream pool
  responseComplete : Bool
  client : ClientWriter
  deriving Repr

/-- What a transfer leaves of an exchange. -/
def ExchangeResult.ofTransfer (transfer : StreamingResponse.Transfer pool) : ExchangeResult pool :=
  ⟨transfer.result, transfer.response.conn, transfer.response.isComplete, transfer.client⟩

section

variable (classified : ClassifiedResponse pool) (conn : ConnectionStream pool)

/-- Write a classified response to the client. -/
def ClassifiedResponse.write (client : ClientWriter) : ExchangeResult pool :=
  match StreamingResponse.fromClassification classified conn with
  | none => ⟨.error .io, conn, false, client⟩
  | some response => .ofTransfer (response.write client)

/-- Write a classified response to the client and keep a copy of it. -/
def ClassifiedResponse.captureAndWrite (client : ClientWriter) :
    ExchangeResult pool × Option StreamingResponse.Capture :=
  match StreamingResponse.fromClassification classified conn with
  | none => (⟨.error .io, conn, false, client⟩, none)
  | some response =>
    let written := response.captureAndWrite client []
      StreamingResponse.maxCapturedMultilineResponseBytes
    (.ofTransfer written.1, written.2)

/-- Read a classified response without writing it.  The response is complete when
this succeeds. -/
def ClassifiedResponse.observe : Except ResponseTransferError Unit × ConnectionStream pool :=
  match StreamingResponse.fromClassification classified conn with
  | none => (.error .io, conn)
  | some response => (response.observe.1, response.observe.2.conn)

end

/-- Receive the response to an already sent request and write it to the client.
Nothing is returned when no response can be read. -/
def receiveAndWrite (kind : RequestKind) (conn : ConnectionStream pool)
    (client : ClientWriter) : Option (ExchangeResult pool) :=
  match readExchange kind conn with
  | (none, _) => none
  | (some classified, conn) => some (classified.write conn client)

end NntpProxy.Transport
