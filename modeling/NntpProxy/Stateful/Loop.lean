import NntpProxy.Framing.Order
import NntpProxy.Session.Auth
import NntpProxy.Stateful.Reader
import NntpProxy.Stream.Sink

/-!
# The stateful proxy loop

One client and one dedicated backend connection.  Between two inputs the loop
rests: local replies that nothing blocks have been written, and requests that
were written to the backend have been flushed unless a complete client line is
already buffered.  An input is a round of the client reader, a backend read or a
read error; `step` handles it and brings the loop back to rest.  Both transports
are sinks, so that every failing write or flush is one of their budgets.
-/

namespace NntpProxy.Stateful

open Protocol Session Framing NntpProxy.Stream

/-- Requests written to the backend before a flush is forced. -/
abbrev maxUpstreamPipelineDepth : Nat := 16

/-- Why the loop ended. -/
inductive StatefulExit where
  | clientDisconnected
  | clientReadError
  | backendDisconnected
  | backendReadError
  | clientError
  | backendError
  deriving DecidableEq, Repr

/-- State of the proxy loop with its two transports. -/
structure StatefulLoop where
  reader : StatefulCommandReader
  buffered : Bytes
  access : AuthenticationAccess
  authUsername : ClientAuthState
  identity : Option Username
  order : BackendResponseOrder
  pendingBackendWrites : Nat
  client : Sink UInt8
  backend : Sink UInt8
  forwarded : List RequestContext
  unflushed : Nat
  clientToBackend : Nat
  backendToClient : Nat
  exit : Option StatefulExit
  deriving DecidableEq, Repr

/-- What the loop waits for. -/
inductive LoopInput where
  | client (arrived : Bytes)
  | clientReadError
  | backend (read : Bytes)
  | backendReadError
  deriving DecidableEq, Repr

/-! ## Requests of a client with access -/

/-- What happens to a request of a client that may reach the backend. -/
inductive AuthenticatedStatefulAction where
  | forward
  | rejectAuthAlreadyAuthenticated
  | interceptCapabilities
  | reject (response : Bytes)
  deriving DecidableEq, Repr

def classifyAuthenticatedStatefulAction (request : RequestContext)
    (access : AuthenticationAccess) : AuthenticatedStatefulAction :=
  match classifyRequest request access .stateful with
  | .interceptAuth _ =>
    if access.authEnabled then .rejectAuthAlreadyAuthenticated else .forward
  | .interceptCapabilities => .interceptCapabilities
  | .reject response =>
    if request.kind = .post ∨ request.kind = .ihave ∨ request.routeClass = .reject then
      .reject response
    else .forward
  | _ => .forward

variable (loop : StatefulLoop)

namespace StatefulLoop

/-- Flush the client. -/
def flushClient (loop : StatefulLoop) : StatefulLoop :=
  match loop.client.flush with
  | (false, sink) => { loop with client := sink, exit := some .clientError }
  | (true, sink) => { loop with client := sink }

/-- Write one reply to the client and flush it, counting it once it was flushed. -/
def writeReply (loop : StatefulLoop) (reply : Bytes) : StatefulLoop :=
  match loop.client.writeAll reply with
  | (false, sink) => { loop with client := sink, exit := some .clientError }
  | (true, sink) =>
    let flushed := { loop with client := sink }.flushClient
    if flushed.exit.isSome then flushed
    else { flushed with backendToClient := loop.backendToClient + reply.length }

/-- Write several pieces to the client, counting each one written, and flush. -/
def writePieces (loop : StatefulLoop) : List Bytes → StatefulLoop
  | [] => loop.flushClient
  | piece :: pieces =>
    match loop.client.writeAll piece with
    | (false, sink) => { loop with client := sink, exit := some .clientError }
    | (true, sink) =>
      writePieces
        { loop with client := sink, backendToClient := loop.backendToClient + piece.length }
        pieces

section

variable (loop : StatefulLoop)

/-- Flush the requests written to the backend. -/
def flushBackend : StatefulLoop :=
  match loop.backend.flush with
  | (false, sink) => { loop with backend := sink, exit := some .backendError }
  | (true, sink) => { loop with backend := sink, pendingBackendWrites := 0, unflushed := 0 }

/-- Answer a request locally, behind the backend replies that are still owed. -/
def answerLocally (reply : Bytes) : StatefulLoop :=
  if loop.order.hasPendingBackendReplies then
    { loop with order := loop.order.pushDeferredReply reply }
  else loop.writeReply reply

/-- Write a request to the backend and register the reply it owes. -/
def forwardRequest (request : RequestContext) : StatefulLoop :=
  match loop.backend.writeAll request.wire with
  | (false, sink) => { loop with backend := sink, exit := some .backendError }
  | (true, sink) =>
    { loop with
      backend := sink
      forwarded := loop.forwarded ++ [request]
      unflushed := loop.unflushed + 1
      clientToBackend := loop.clientToBackend + request.requestWireLen
      order := loop.order.pushRequest request.kind }

def handleAuthenticatedStatefulRequest (request : RequestContext) :
    StatefulLoop :=
  match classifyAuthenticatedStatefulAction request loop.access with
  | .forward => loop.forwardRequest request
  | .rejectAuthAlreadyAuthenticated => loop.answerLocally authAlreadyAuthenticated
  | .interceptCapabilities => loop.answerLocally capabilitiesWithoutAuthinfoResponse
  | .reject response => loop.answerLocally response

/-- Count a handled request and flush when the pipeline is full. -/
def countBackendWrite : StatefulLoop :=
  let counted := { loop with pendingBackendWrites := loop.pendingBackendWrites + 1 }
  if counted.pendingBackendWrites ≥ maxUpstreamPipelineDepth then counted.flushBackend
  else counted

end

/-! ## Requests before authentication -/

/-- Write a reply without flushing it. -/
def writeAuthReply (loop : StatefulLoop) (reply : Bytes) : StatefulLoop :=
  match loop.client.writeAll reply with
  | (false, sink) => { loop with client := sink, exit := some .clientError }
  | (true, sink) =>
    { loop with client := sink, backendToClient := loop.backendToClient + reply.length }

/-- Commit an answered `AUTHINFO` command once its reply was written. -/
def applyAuthResult (loop : StatefulLoop) (result : AuthResult) : StatefulLoop :=
  let answered := loop.writeAuthReply result.reply
  if answered.exit.isSome then answered
  else if result.authenticated then
    { answered with
      authUsername := result.state
      identity := markAuthenticated loop.identity result.state.username
      access := loop.access.afterSuccess }
  else { answered with authUsername := result.state }

def handleStatefulAuthCheck (handler : AuthHandler) (loop : StatefulLoop)
    (request : RequestContext) : StatefulLoop :=
  match classifyRequest request .required .stateful with
  | .interceptAuth action =>
    match handleAuthCommand handler action loop.authUsername loop.identity with
    | none => { loop with exit := some .clientError }
    | some result => loop.applyAuthResult result
  | .interceptCapabilities => loop.writeAuthReply (capabilitiesResponse true)
  | _ => loop.writeAuthReply authRequiredForCommand

/-! ## Inputs -/

/-- Access refreshed from the published identity. -/
def authenticationAccess (identity : Option Username) (access : AuthenticationAccess) :
    AuthenticationAccess :=
  if identity.isSome then access.afterSuccess else access

/-- Handle a parsed request. -/
def handleRequest (handler : AuthHandler) (loop : StatefulLoop) (request : RequestContext) :
    StatefulLoop :=
  let refreshed := { loop with access := authenticationAccess loop.identity loop.access }
  if refreshed.access.canAccessBackend then
    let handled := refreshed.handleAuthenticatedStatefulRequest request
    if handled.exit.isSome then handled else handled.countBackendWrite
  else handleStatefulAuthCheck handler refreshed request

/-- Handle a completed client line. -/
def handleLine (handler : AuthHandler) (loop : StatefulLoop) : StatefulClientLine → StatefulLoop
  | .eof => { loop with exit := some .clientDisconnected }
  | .oversized => { loop with order := loop.order.pushDeferredReply commandTooLong }
  | .invalid => { loop with order := loop.order.pushDeferredReply commandSyntaxErrorResponse }
  | .ready request => handleRequest handler loop request

section

variable (loop : StatefulLoop)

/-- Pass a backend read on to the client. -/
def writeStatefulBackendBytes (read : Bytes) : StatefulLoop :=
  let (writes, order) := loop.order.clientWritesForBackendRead read
  { loop with order := order }.writePieces writes

/-- Write the local replies that nothing blocks. -/
def flushReadyReplies : StatefulLoop :=
  let (ready, order) := loop.order.takeReady
  if ready = [] then loop else { loop with order := order }.writePieces ready

/-- Flush the backend before the loop may block. -/
def flushBeforeWaiting : StatefulLoop :=
  if loop.pendingBackendWrites ≠ 0 ∧
      (loop.order.shouldDrainBackendReplies ∨ lf ∉ loop.buffered) then loop.flushBackend
  else loop

/-- Bring the loop to the point where it waits for its next input. -/
def rest : StatefulLoop :=
  let replied := loop.flushReadyReplies
  if replied.exit.isSome then replied else replied.flushBeforeWaiting

/-- The octets a round of the client reader works on. -/
def available (arrived : Bytes) : Bytes :=
  if loop.buffered = [] then arrived else loop.buffered

end

/-- Handle one input and come back to rest.  A round that completes no line stays
inside the client reader. -/
def step (handler : AuthHandler) (loop : StatefulLoop) : LoopInput → StatefulLoop
  | .client arrived =>
    let available := loop.available arrived
    let (line, consumed, reader) := loop.reader.readRound available
    let fed := { loop with reader := reader, buffered := available.drop consumed }
    match line with
    | none => fed
    | some line =>
      let handled := handleLine handler fed line
      if handled.exit.isSome then handled else handled.rest
  | .clientReadError => { loop with exit := some .clientReadError }
  | .backend [] => { loop with exit := some .backendDisconnected }
  | .backend (byte :: read) =>
    let handled := loop.writeStatefulBackendBytes (byte :: read)
    if handled.exit.isSome then handled else handled.rest
  | .backendReadError => { loop with exit := some .backendReadError }

/-- The inputs that the loop can be waiting for: while a local reply is blocked
only the backend is read, and the client transport is read only once the buffer
is used up. -/
def Accepts (loop : StatefulLoop) : LoopInput → Prop
  | .client arrived =>
    loop.exit = none ∧ loop.order.shouldDrainBackendReplies = false ∧
      (loop.buffered = [] ∨ arrived = [])
  | .clientReadError => loop.exit = none ∧ loop.order.shouldDrainBackendReplies = false ∧
      loop.buffered = []
  | .backend _ => loop.exit = none
  | .backendReadError => loop.exit = none

/-! ## What the parts of a step can do -/

/-- Octets were sent to the client: all of them, or a part before the client failed. -/
inductive Sent (loop : StatefulLoop) (bytes : Bytes) (next : StatefulLoop) : Prop where
  | whole (client : Sink UInt8) (count : Nat)
      (acceptedEq : client.accepted = loop.client.accepted ++ bytes)
      (nextEq : next = { loop with client := client, backendToClient := count })
  | failed (client : Sink UInt8) (count : Nat) (out : Bytes) (part : out <+: bytes)
      (acceptedEq : client.accepted = loop.client.accepted ++ out)
      (nextEq : next =
        { loop with client := client, backendToClient := count, exit := some .clientError })

/-- The backend was flushed, or was left alone, or failed. -/
inductive Flushed (loop next : StatefulLoop) : Prop where
  | done (backend : Sink UInt8) (pending unflushed : Nat)
      (acceptedEq : backend.accepted = loop.backend.accepted)
      (nextEq : next =
        { loop with
          backend := backend, pendingBackendWrites := pending, unflushed := unflushed })
  | failed (backend : Sink UInt8) (pending : Nat)
      (acceptedEq : backend.accepted = loop.backend.accepted)
      (nextEq : next =
        { loop with
          backend := backend, pendingBackendWrites := pending, exit := some .backendError })

theorem sent_flushClient : Sent loop [] loop.flushClient := by
  have kept := loop.client.accepted_flush
  unfold flushClient
  rcases flushEq : loop.client.flush with ⟨_ | _, sink⟩
  · rw [flushEq] at kept
    exact .failed sink loop.backendToClient [] (List.prefix_refl _) (by simpa using kept) rfl
  · rw [flushEq] at kept
    exact .whole sink loop.backendToClient (by simpa using kept) rfl

theorem sent_writeAuthReply (reply : Bytes) : Sent loop reply (loop.writeAuthReply reply) := by
  unfold writeAuthReply
  rcases loop.client.writeAll_cases reply with ⟨-, writeEq⟩ | ⟨room, -, -, writeEq⟩
  · rw [writeEq]
    exact .whole (loop.client.accept reply) _ rfl rfl
  · rw [writeEq]
    exact .failed _ loop.backendToClient (reply.take room) (List.take_prefix _ _) rfl rfl

theorem sent_writePieces (pieces : List Bytes) :
    Sent loop pieces.flatten (loop.writePieces pieces) := by
  induction pieces generalizing loop with
  | nil => exact sent_flushClient loop
  | cons piece pieces ih =>
    rw [writePieces]
    rcases loop.client.writeAll_cases piece with ⟨-, writeEq⟩ | ⟨room, -, -, writeEq⟩
    · rw [writeEq]
      rcases ih { loop with
        client := loop.client.accept piece
        backendToClient := loop.backendToClient + piece.length } with
        ⟨client, count, laterEq, nextEq⟩ | ⟨client, count, later, laterPart, laterEq, nextEq⟩
      · rw [Sink.accept, List.append_assoc] at laterEq
        exact .whole client count laterEq nextEq
      · rw [Sink.accept, List.append_assoc] at laterEq
        exact .failed client count (piece ++ later)
          ((List.prefix_append_right_inj piece).mpr laterPart) laterEq nextEq
    · rw [writeEq]
      have part : piece.take room <+: piece ++ pieces.flatten :=
        (List.take_prefix _ _).trans (List.prefix_append _ _)
      exact .failed _ loop.backendToClient (piece.take room) part rfl rfl

theorem sent_writeReply {loop : StatefulLoop} (running : loop.exit = none) (reply : Bytes) :
    Sent loop reply (loop.writeReply reply) := by
  unfold writeReply
  rcases loop.client.writeAll_cases reply with ⟨-, writeEq⟩ | ⟨room, -, -, writeEq⟩
  · rw [writeEq]
    have kept := (loop.client.accept reply).accepted_flush
    rcases flushEq : (loop.client.accept reply).flush with ⟨_ | _, flushed⟩
    · rw [flushEq] at kept
      simp only [flushClient, flushEq]
      exact .failed flushed loop.backendToClient reply (List.prefix_refl _) kept rfl
    · rw [flushEq] at kept
      simp only [flushClient, flushEq, running, Option.isSome_none, Bool.false_eq_true, if_false]
      exact .whole flushed (loop.backendToClient + reply.length) kept (by rw [running])
  · rw [writeEq]
    exact .failed _ loop.backendToClient (reply.take room) (List.take_prefix _ _) rfl rfl

theorem flushed_self : Flushed loop loop :=
  .done loop.backend loop.pendingBackendWrites loop.unflushed rfl rfl

theorem flushed_flushBackend : Flushed loop loop.flushBackend := by
  have kept := loop.backend.accepted_flush
  unfold flushBackend
  rcases flushEq : loop.backend.flush with ⟨_ | _, sink⟩
  · rw [flushEq] at kept
    exact .failed sink loop.pendingBackendWrites kept rfl
  · rw [flushEq] at kept
    exact .done sink 0 0 kept rfl

theorem flushed_flushBeforeWaiting : Flushed loop loop.flushBeforeWaiting := by
  unfold flushBeforeWaiting
  split
  · exact flushed_flushBackend loop
  · exact flushed_self loop

theorem flushed_countBackendWrite : Flushed loop loop.countBackendWrite := by
  simp only [countBackendWrite]
  split
  · rcases flushed_flushBackend
      { loop with pendingBackendWrites := loop.pendingBackendWrites + 1 } with
      ⟨backend, pending, unflushed, kept, nextEq⟩ | ⟨backend, pending, kept, nextEq⟩
    · exact .done backend pending unflushed kept nextEq
    · exact .failed backend pending kept nextEq
  · exact .done loop.backend _ loop.unflushed rfl rfl

end StatefulLoop

end NntpProxy.Stateful
