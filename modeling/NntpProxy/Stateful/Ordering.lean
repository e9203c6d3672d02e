import NntpProxy.Framing.Exchange
import NntpProxy.Stateful.Loop

/-!
# Reply order of the stateful loop

A client with access sends lines, and a backend answers the forwarded ones in
order.  Every line with its reply is one exchange, and the state of the loop at
rest is the state of the history of handled lines and of the backend octets that
have arrived.  Along every schedule of client rounds and backend reads the client
therefore has a prefix of one reply per line, in line order.
-/

namespace NntpProxy.Stateful

open Protocol Session Framing NntpProxy.Stream StatefulLoop List BackendResponseOrder

/-! ## The environment -/

/-- A backend that answers its `n`-th request with one well-formed response. -/
structure Backend where
  respond : Nat → (request : RequestContext) → Response request.kind
  lineFits : ∀ n request, (respond n request).LineFits

namespace Backend

variable (backend : Backend)

/-- The exchange of a forwarded request. -/
def exchange (n : Nat) (request : RequestContext) : Exchange :=
  .forwarded request.kind (backend.respond n request) (backend.lineFits n request)

/-- The exchanges of requests forwarded one after the other. -/
def exchanges : Nat → List RequestContext → List Exchange
  | _, [] => []
  | n, request :: requests => backend.exchange n request :: exchanges (n + 1) requests

/-- What the backend may send once these requests were forwarded to it. -/
def responsesTo (requests : List RequestContext) : Bytes :=
  responsesOf (backend.exchanges 0 requests)

/-- The exchange of a client line when `n` requests were forwarded before it.  The
end of the stream is no line. -/
def lineExchange (access : AuthenticationAccess) (n : Nat) : StatefulClientLine → Exchange
  | .eof => .answered []
  | .oversized => .answered commandTooLong
  | .invalid => .answered commandSyntaxErrorResponse
  | .ready request =>
    match classifyAuthenticatedStatefulAction request access with
    | .forward => backend.exchange n request
    | .rejectAuthAlreadyAuthenticated => .answered authAlreadyAuthenticated
    | .interceptCapabilities => .answered capabilitiesWithoutAuthinfoResponse
    | .reject response => .answered response

/-- The requests that a client line forwards. -/
def forwardedBy (access : AuthenticationAccess) : StatefulClientLine → List RequestContext
  | .ready request =>
    match classifyAuthenticatedStatefulAction request access with
    | .forward => [request]
    | _ => []
  | _ => []

/-- One exchange per line, in line order. -/
def history (access : AuthenticationAccess) : Nat → List Bytes → List Exchange
  | _, [] => []
  | n, line :: lines =>
    let item := StatefulCommandReader.lineItem line
    backend.lineExchange access n item ::
      history access (n + (forwardedBy access item).length) lines

end Backend

/-! ## The loop at rest -/

/-- The loop has delivered what a history and the arrived octets determine, up to
local replies that wait at the front of the order. -/
structure Owing (before : Bytes) (history : List Exchange) (arrived : Bytes)
    (loop : StatefulLoop) : Prop where
  order : loop.order.takeReady.2 = orderFor history arrived
  accepted : ∃ sent, loop.client.accepted = before ++ sent ∧
    sent ++ loop.order.takeReady.1.flatten = (delivered history arrived).written

/-- The loop has delivered what a history and the arrived octets determine. -/
structure Holds (before : Bytes) (history : List Exchange) (arrived : Bytes)
    (loop : StatefulLoop) : Prop where
  order : loop.order = orderFor history arrived
  accepted : loop.client.accepted = before ++ (delivered history arrived).written

/-- A transport failed, and the client has a prefix of what it is owed. -/
structure Broken (before : Bytes) (history : List Exchange) (loop : StatefulLoop) : Prop where
  exit : loop.exit = some .clientError ∨ loop.exit = some .backendError
  accepted : ∃ out, out <+: repliesOf history ∧ loop.client.accepted = before ++ out

/-- What the client side of the loop looks like is unchanged. -/
structure SameInput (loop next : StatefulLoop) : Prop where
  reader : next.reader = loop.reader
  buffered : next.buffered = loop.buffered
  access : next.access = loop.access

/-- A step ends at rest with this history, or a transport failed. -/
inductive Settles (before : Bytes) (history : List Exchange) (arrived : Bytes)
    (forwarded : List RequestContext) (loop next : StatefulLoop) : Prop where
  | kept (holds : Holds before history arrived next) (same : SameInput loop next)
      (forwardedEq : next.forwarded = forwarded) (running : next.exit = none)
  | broken (isBroken : Broken before history next)

section Rest

variable {before : Bytes} {history : List Exchange} {arrived : Bytes} {loop next : StatefulLoop}

theorem Broken.isSome_exit (isBroken : Broken before history loop) : loop.exit.isSome = true := by
  rcases isBroken.exit with clientError | backendError
  · rw [clientError]
    rfl
  · rw [backendError]
    rfl

theorem orderFor_takeReady (history : List Exchange) (arrived : Bytes) :
    (orderFor history arrived).takeReady = ([], orderFor history arrived) :=
  takeReady_orderOf (settled_delivered history arrived) _

theorem Holds.owing (holds : Holds before history arrived loop) :
    Owing before history arrived loop := by
  constructor
  · rw [holds.order, orderFor_takeReady]
  · refine ⟨_, holds.accepted, ?_⟩
    rw [holds.order, orderFor_takeReady]
    simp

theorem takeReadyDeferredReplies_of_none {ordered : List OrderedResponse}
    (none : (takeReadyDeferredReplies ordered).1 = []) :
    (takeReadyDeferredReplies ordered).2 = ordered := by
  match ordered with
  | [] => rfl
  | .backend :: _ => rfl
  | .localReply _ :: _ => simp [takeReadyDeferredReplies] at none

theorem takeReady_of_none {order : BackendResponseOrder} (none : order.takeReady.1 = []) :
    order.takeReady.2 = order := by
  have kept := takeReadyDeferredReplies_of_none none
  unfold takeReady
  simp only [kept]

/-- Sending ready replies delivers them, or breaks the client connection. -/
theorem Owing.sent (owing : Owing before history arrived loop)
    (causal : arrived <+: responsesOf history) (running : loop.exit = none)
    (sent : StatefulLoop.Sent { loop with order := loop.order.takeReady.2 }
      loop.order.takeReady.1.flatten next) :
    Settles before history arrived loop.forwarded loop next := by
  rcases owing.accepted with ⟨out, acceptedEq, wholeEq⟩
  rcases sent with ⟨client, count, clientEq, rfl⟩ | ⟨client, count, part, isPart, clientEq, rfl⟩
  · refine .kept ⟨owing.order, ?_⟩ ⟨rfl, rfl, rfl⟩ rfl running
    rw [clientEq, ← wholeEq, ← append_assoc, ← acceptedEq]
  · refine .broken ⟨Or.inl rfl, out ++ part, ?_, ?_⟩
    · have longer := (prefix_append_right_inj out).mpr isPart
      rw [wholeEq] at longer
      exact longer.trans (delivered_isPrefix_replies causal)
    · change client.accepted = _
      rw [clientEq, ← append_assoc, ← acceptedEq]

/-- Flushing the backend keeps the loop at rest, or breaks the backend connection. -/
theorem Settles.flushed {forwarded : List RequestContext} {last : StatefulLoop}
    (settles : Settles before history arrived forwarded loop next) (running : next.exit = none)
    (causal : arrived <+: responsesOf history) (flushed : StatefulLoop.Flushed next last) :
    Settles before history arrived forwarded loop last := by
  cases settles with
  | broken isBroken =>
    have stopped := isBroken.isSome_exit
    rw [running] at stopped
    simp at stopped
  | kept holds same forwardedEq _ =>
    rcases flushed with ⟨backend, pending, unflushed, -, rfl⟩ | ⟨backend, pending, -, rfl⟩
    · exact .kept ⟨holds.order, holds.accepted⟩ ⟨same.reader, same.buffered, same.access⟩
        forwardedEq running
    · exact .broken ⟨Or.inr rfl, _, delivered_isPrefix_replies causal, holds.accepted⟩

/-- Coming to rest delivers the local replies at the front. -/
theorem Owing.rest (owing : Owing before history arrived loop)
    (causal : arrived <+: responsesOf history) (running : loop.exit = none) :
    Settles before history arrived loop.forwarded loop loop.rest := by
  have replied : Settles before history arrived loop.forwarded loop loop.flushReadyReplies := by
    simp only [StatefulLoop.flushReadyReplies]
    by_cases nothing : loop.order.takeReady.1 = []
    · rw [if_pos nothing]
      rcases owing.accepted with ⟨out, acceptedEq, wholeEq⟩
      rw [nothing, flatten_nil, append_nil] at wholeEq
      have orderEq := owing.order
      rw [takeReady_of_none nothing] at orderEq
      exact .kept ⟨orderEq, wholeEq ▸ acceptedEq⟩ ⟨rfl, rfl, rfl⟩ rfl running
    · rw [if_neg nothing]
      exact owing.sent causal running (StatefulLoop.sent_writePieces _ _)
  simp only [StatefulLoop.rest]
  cases exitEq : loop.flushReadyReplies.exit with
  | some exit => simpa using replied
  | none => simpa using replied.flushed exitEq causal (StatefulLoop.flushed_flushBeforeWaiting _)

end Rest

/-! ## Handling a line -/

/-- A line was registered as the last exchange of the history, or a transport failed. -/
inductive Registers (before : Bytes) (history : List Exchange) (arrived : Bytes)
    (forwarded : List RequestContext) (loop next : StatefulLoop) : Prop where
  | owing (owing : Owing before history arrived next) (same : SameInput loop next)
      (forwardedEq : next.forwarded = forwarded) (running : next.exit = none)
  | broken (isBroken : Broken before history next)

section Line

variable {before : Bytes} {past : List Exchange} {arrived : Bytes} {loop next : StatefulLoop}
  {forwarded : List RequestContext}

theorem Registers.rest (registers : Registers before past arrived forwarded loop next)
    (causal : arrived <+: responsesOf past) :
    Settles before past arrived forwarded loop
      (if next.exit.isSome then next else next.rest) := by
  cases registers with
  | broken isBroken =>
    rw [if_pos isBroken.isSome_exit]
    exact .broken isBroken
  | owing owing same forwardedEq running =>
    rw [running]
    rcases owing.rest causal running with ⟨holds, rested, restedEq, stillRunning⟩ | isBroken
    · exact .kept holds
        ⟨rested.reader.trans same.reader, rested.buffered.trans same.buffered,
          rested.access.trans same.access⟩ (restedEq.trans forwardedEq) stillRunning
    · exact .broken isBroken

theorem Registers.flushed {last : StatefulLoop}
    (registers : Registers before past arrived forwarded loop next)
    (causal : arrived <+: responsesOf past) (running : next.exit = none)
    (flushed : StatefulLoop.Flushed next last) :
    Registers before past arrived forwarded loop last := by
  cases registers with
  | broken isBroken =>
    have stopped := isBroken.isSome_exit
    rw [running] at stopped
    simp at stopped
  | owing owing same forwardedEq _ =>
    rcases flushed with ⟨backend, pending, unflushed, -, rfl⟩ | ⟨backend, pending, -, rfl⟩
    · exact .owing ⟨owing.order, owing.accepted⟩ ⟨same.reader, same.buffered, same.access⟩
        forwardedEq running
    · rcases owing.accepted with ⟨sent, acceptedEq, wholeEq⟩
      have part : sent <+: (delivered past arrived).written := ⟨_, wholeEq⟩
      exact .broken ⟨Or.inr rfl, sent, part.trans (delivered_isPrefix_replies causal), acceptedEq⟩

theorem Holds.push (holds : Holds before past arrived loop)
    (causal : arrived <+: responsesOf past) (exchange : Exchange)
    (orderEq : next.order = loop.order.push exchange.queued)
    (clientEq : next.client.accepted = loop.client.accepted) :
    Owing before (past ++ [exchange]) arrived next := by
  have step := takeReady_push_orderFor causal exchange
  rw [holds.order] at orderEq
  constructor
  · rw [orderEq, step.2]
  · exact ⟨_, clientEq.trans holds.accepted, by rw [orderEq, step.1]⟩

theorem causal_append (causal : arrived <+: responsesOf past) (exchange : Exchange) :
    arrived <+: responsesOf (past ++ [exchange]) := by
  rw [responsesOf_append]
  exact causal.trans (prefix_append _ _)

/-- A local reply goes out at once exactly when no backend reply is owed. -/
theorem Holds.answerLocally (holds : Holds before past arrived loop)
    (causal : arrived <+: responsesOf past) (running : loop.exit = none) (reply : Bytes) :
    Registers before (past ++ [.answered reply]) arrived loop.forwarded loop
      (loop.answerLocally reply) := by
  have pendingIff := hasPendingBackendReplies_orderOf
    (settled_delivered past arrived) (delivered past arrived).seen
  unfold StatefulLoop.answerLocally
  by_cases pending : loop.order.hasPendingBackendReplies = true
  · rw [if_pos pending]
    exact .owing (holds.push causal (.answered reply) rfl rfl) ⟨rfl, rfl, rfl⟩ rfl running
  · rw [if_neg pending]
    have unblocked : (delivered past arrived).queue = [] := by
      rw [holds.order] at pending
      exact not_not.mp fun blocked => pending (pendingIff.mpr blocked)
    have longer : delivered (past ++ [.answered reply]) arrived =
        { delivered past arrived with written := (delivered past arrived).written ++ reply } := by
      rw [delivered_append_singleton causal]
      exact if_pos unblocked
    have orderSame : orderFor (past ++ [.answered reply]) arrived = orderFor past arrived := by
      unfold orderFor
      rw [longer]
    rcases StatefulLoop.sent_writeReply running reply with
      ⟨client, count, clientEq, nextEq⟩ | ⟨client, count, out, part, clientEq, nextEq⟩
    · rw [nextEq]
      have heldNext : Holds before (past ++ [.answered reply]) arrived
          { loop with client := client, backendToClient := count } := by
        constructor
        · rw [orderSame]
          exact holds.order
        · rw [longer]
          rw [clientEq, holds.accepted, append_assoc]
      exact .owing heldNext.owing ⟨rfl, rfl, rfl⟩ rfl running
    · rw [nextEq]
      refine .broken ⟨Or.inl rfl, (delivered past arrived).written ++ out, ?_, ?_⟩
      · have whole := delivered_isPrefix_replies (causal_append causal (.answered reply))
        rw [longer] at whole
        exact ((prefix_append_right_inj _).mpr part).trans whole
      · change client.accepted = _
        rw [clientEq, holds.accepted, append_assoc]

theorem Holds.forwardRequest (backend : Backend) (n : Nat) (holds : Holds before past arrived loop)
    (causal : arrived <+: responsesOf past) (running : loop.exit = none)
    (request : RequestContext) :
    Registers before (past ++ [backend.exchange n request]) arrived
      (loop.forwarded ++ [request]) loop (loop.forwardRequest request) := by
  unfold StatefulLoop.forwardRequest
  rcases loop.backend.writeAll request.wire with ⟨_ | _, sink⟩
  · refine .broken ⟨Or.inr rfl, _, ?_, holds.accepted⟩
    rw [repliesOf_append]
    exact (delivered_isPrefix_replies causal).trans (prefix_append _ _)
  · exact .owing (holds.push causal (backend.exchange n request) rfl rfl) ⟨rfl, rfl, rfl⟩ rfl
      running

/-- A handled request counts towards the pipeline and may flush it. -/
theorem Registers.countBackendWrite
    (registers : Registers before past arrived forwarded loop next)
    (causal : arrived <+: responsesOf past) :
    Registers before past arrived forwarded loop
      (if next.exit.isSome then next else next.countBackendWrite) := by
  cases exitEq : next.exit with
  | some exit => simpa using registers
  | none =>
    simpa using registers.flushed causal exitEq (flushed_countBackendWrite next)

theorem handleRequest_of_canAccessBackend (handler : AuthHandler)
    (allowed : loop.access.canAccessBackend = true) (request : RequestContext) :
    handleRequest handler loop request =
      if (loop.handleAuthenticatedStatefulRequest request).exit.isSome then
        loop.handleAuthenticatedStatefulRequest request
      else (loop.handleAuthenticatedStatefulRequest request).countBackendWrite := by
  have refreshed : authenticationAccess loop.identity loop.access = loop.access := by
    unfold authenticationAccess
    split
    · exact AuthenticationAccess.afterSuccess_of_canAccessBackend allowed
    · rfl
  simp only [handleRequest, refreshed, allowed, if_true]

theorem Holds.handleLine (backend : Backend) (n : Nat) (handler : AuthHandler)
    (holds : Holds before past arrived loop) (causal : arrived <+: responsesOf past)
    (running : loop.exit = none) (allowed : loop.access.canAccessBackend = true)
    {item : StatefulClientLine} (isLine : item ≠ .eof) :
    Registers before (past ++ [backend.lineExchange loop.access n item]) arrived
      (loop.forwarded ++ Backend.forwardedBy loop.access item) loop
      (handleLine handler loop item) := by
  cases item with
  | eof => exact absurd rfl isLine
  | oversized =>
    rw [show Backend.forwardedBy loop.access .oversized = [] from rfl, append_nil]
    exact .owing (holds.push causal (.answered commandTooLong) rfl rfl) ⟨rfl, rfl, rfl⟩ rfl
      running
  | invalid =>
    rw [show Backend.forwardedBy loop.access .invalid = [] from rfl, append_nil]
    exact .owing (holds.push causal (.answered commandSyntaxErrorResponse) rfl rfl)
      ⟨rfl, rfl, rfl⟩ rfl running
  | ready request =>
    have later := causal_append causal (backend.lineExchange loop.access n (.ready request))
    change Registers _ _ _ _ _ (handleRequest handler loop request)
    rw [handleRequest_of_canAccessBackend handler allowed]
    apply Registers.countBackendWrite _ later
    simp only [handleAuthenticatedStatefulRequest, Backend.lineExchange,
      Backend.forwardedBy]
    cases action : classifyAuthenticatedStatefulAction request loop.access with
    | forward => exact holds.forwardRequest backend n causal running request
    | rejectAuthAlreadyAuthenticated =>
      rw [append_nil]
      exact holds.answerLocally causal running authAlreadyAuthenticated
    | interceptCapabilities =>
      rw [append_nil]
      exact holds.answerLocally causal running capabilitiesWithoutAuthinfoResponse
    | reject response =>
      rw [append_nil]
      exact holds.answerLocally causal running response

theorem Holds.writeStatefulBackendBytes {read : Bytes} (holds : Holds before past arrived loop)
    (causal : arrived ++ read <+: responsesOf past) (running : loop.exit = none) :
    Registers before past (arrived ++ read) loop.forwarded loop
      (loop.writeStatefulBackendBytes read) := by
  rcases clientWritesForBackendRead_orderFor causal with ⟨writtenEq, orderEq⟩
  have sent := sent_writePieces
    { loop with order := (loop.order.clientWritesForBackendRead read).2 }
    (loop.order.clientWritesForBackendRead read).1
  change StatefulLoop.Sent _ _ (loop.writeStatefulBackendBytes read) at sent
  rw [holds.order] at sent
  rcases sent with ⟨client, count, clientEq, nextEq⟩ | ⟨client, count, out, part, clientEq, nextEq⟩
  · rw [nextEq]
    have heldNext : Holds before past (arrived ++ read)
        { loop with
          order := ((orderFor past arrived).clientWritesForBackendRead read).2
          client := client
          backendToClient := count } := by
      constructor
      · exact orderEq
      · change client.accepted = _
        rw [clientEq, writtenEq, ← append_assoc, ← holds.accepted]
    exact .owing heldNext.owing ⟨rfl, rfl, rfl⟩ rfl running
  · rw [nextEq]
    refine .broken ⟨Or.inl rfl, (delivered past arrived).written ++ out, ?_, ?_⟩
    · have whole := delivered_isPrefix_replies causal
      rw [writtenEq] at whole
      exact ((prefix_append_right_inj _).mpr part).trans whole
    · change client.accepted = _
      rw [clientEq, ← append_assoc, ← holds.accepted]

end Line

end NntpProxy.Stateful
