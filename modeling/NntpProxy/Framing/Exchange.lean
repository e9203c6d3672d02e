import NntpProxy.Framing.Interleaving

/-!
# Exchanges

An exchange is a client line with its one reply: a well-formed backend response
when the line was forwarded, a local reply otherwise.  A history of exchanges
determines what the backend sends, what the client is owed and the queue that the
lines registered.  Whatever part of the backend stream has arrived, the octets
delivered for the history are a prefix of what the client is owed, and all of it
once the whole stream has arrived.
-/

namespace NntpProxy.Framing

open Protocol NntpProxy.Stream BackendResponseOrder List StatusCode

/-! ## Responses -/

/-- A well-formed response to a request: a status line that starts with a valid
code and ends in CRLF, then nothing, or content whose first terminator, counting
the CRLF of the status line, is its end. -/
structure Response (kind : RequestKind) where
  text : Bytes
  status : StatusCode
  body : Bytes
  oneLine : lf ∉ text
  code : parse (text ++ crlf) = some status
  ends : if requestKindHasResponseBody kind status then
      firstEnd (endsWith terminator) (text ++ crlf) body = some body.length
    else body = []

namespace Response

variable {kind : RequestKind}

section

variable (response : Response kind)

/-- The octets of a response. -/
def bytes : Bytes :=
  response.text ++ crlf ++ response.body

/-- A status line that announces a body is one that the tracker interprets.  A
longer one is malformed for the source, which takes it for the whole reply. -/
def LineFits : Prop :=
  requestKindHasResponseBody kind response.status = true →
    (response.text ++ crlf).length ≤ statusLineLimit

theorem statusLineLen_line :
    statusLineLen (response.text ++ crlf) = some (response.text ++ crlf).length := by
  apply statusLineLen_eq_some_iff.mpr
  refine ⟨response.text ++ [cr], [], ?_, by simp, by simp⟩
  have lfNeCr : lf ≠ cr := by decide
  simp [response.oneLine, lfNeCr]

theorem endsAtStatusLine_line :
    endsAtStatusLine kind (response.text ++ crlf) =
      (decide (statusLineLimit < (response.text ++ crlf).length) ||
        !requestKindHasResponseBody kind response.status) := by
  simp only [endsAtStatusLine, response.code]

theorem replyLen_bytes_eq :
    replyLen kind response.bytes =
      if endsAtStatusLine kind (response.text ++ crlf) then some (response.text ++ crlf).length
      else
        (firstEnd (endsWith terminator) (response.text ++ crlf) response.body).map
          ((response.text ++ crlf).length + ·) := by
  have lineFound := statusLineLen_append_of_some response.statusLineLen_line response.body
  unfold replyLen bytes
  rw [firstEnd_replyDone_of_line statusLineLen_nil lineFound, nil_append, take_left' rfl,
    drop_left' rfl]

end

theorem replyLen_bytes {response : Response kind} (fits : response.LineFits) :
    replyLen kind response.bytes = some response.bytes.length := by
  have ends := response.ends
  rw [replyLen_bytes_eq, endsAtStatusLine_line, bytes]
  by_cases hasBody : requestKindHasResponseBody kind response.status = true
  · rw [if_pos hasBody] at ends
    rw [decide_eq_false (Nat.not_lt.mpr (fits hasBody)), hasBody, Bool.not_true, Bool.or_false,
      if_neg Bool.false_ne_true, ends, Option.map_some]
    exact congrArg some length_append.symm
  · rw [if_neg hasBody] at ends
    rw [Bool.not_eq_true] at hasBody
    rw [hasBody, Bool.not_false, Bool.or_true, if_pos rfl, ends, append_nil]

theorem bytes_append_inj {response other : Response kind} {rest otherRest : Bytes}
    (joined : response.bytes ++ rest = other.bytes ++ otherRest) :
    response = other ∧ rest = otherRest := by
  simp only [bytes, append_assoc (_ ++ crlf)] at joined
  have sameLength : (response.text ++ crlf).length = (other.text ++ crlf).length := by
    have lineFound := statusLineLen_append_of_some response.statusLineLen_line
      (response.body ++ rest)
    rw [joined, statusLineLen_append_of_some other.statusLineLen_line] at lineFound
    exact (Option.some.inj lineFound).symm
  rcases append_inj joined sameLength with ⟨sameLine, sameTail⟩
  have sameStatus : response.status = other.status := by
    have code := response.code
    rw [sameLine, other.code] at code
    exact (Option.some.inj code).symm
  have sameBodyLength : response.body.length = other.body.length := by
    have ends := response.ends
    have otherEnds := other.ends
    rw [sameStatus, sameLine] at ends
    split at ends
    next hasBody =>
      rw [if_pos hasBody] at otherEnds
      have found := firstEnd_append_of_some ends rest
      rw [sameTail, firstEnd_append_of_some otherEnds] at found
      exact (Option.some.inj found).symm
    next noBody =>
      rw [if_neg noBody] at otherEnds
      rw [ends, otherEnds]
  rcases append_inj sameTail sameBodyLength with ⟨sameBody, sameRest⟩
  refine ⟨?_, sameRest⟩
  rcases response with ⟨text, status, body, oneLine, code, ends⟩
  rcases other with ⟨otherText, otherStatus, otherBody, otherOneLine, otherCode, otherEnds⟩
  obtain rfl : text = otherText := append_cancel_right sameLine
  obtain rfl : status = otherStatus := sameStatus
  obtain rfl : body = otherBody := sameBody
  rfl

theorem head?_bytes_ne_dot (response : Response kind) : response.bytes.head? ≠ some dot := by
  intro starts
  have code := response.code
  unfold bytes at starts
  rcases lineEq : response.text ++ crlf with _ | ⟨byte, line⟩
  · simp at lineEq
  · rw [lineEq, cons_append, head?_cons, Option.some.injEq] at starts
    rw [lineEq, starts] at code
    rcases line with _ | ⟨second, _ | ⟨third, line⟩⟩
    · simp [parse] at code
    · simp [parse] at code
    · rw [parse, if_pos (Or.inl (by decide))] at code
      simp at code

end Response

/-! ## Histories -/

/-- A client line with its reply. -/
inductive Exchange where
  | forwarded (kind : RequestKind) (response : Response kind) (fits : response.LineFits)
  | answered (reply : Bytes)

namespace Exchange

/-- What the line registered. -/
def queued : Exchange → QueuedReply
  | forwarded kind _ _ => .request kind
  | answered reply => .deferred reply

/-- What the client is owed. -/
def reply : Exchange → Bytes
  | forwarded _ response _ => response.bytes
  | answered reply => reply

/-- What the backend sends. -/
def response : Exchange → Bytes
  | forwarded _ response _ => response.bytes
  | answered _ => []

end Exchange

section

variable (history : List Exchange)

/-- The queue registered by a history. -/
def queueOf : List QueuedReply :=
  history.map Exchange.queued

/-- One reply per line, in line order. -/
def repliesOf : Bytes :=
  (history.map Exchange.reply).flatten

/-- The responses to the forwarded lines, in order. -/
def responsesOf : Bytes :=
  (history.map Exchange.response).flatten

/-- What has been delivered for a history when `arrived` has been read. -/
def delivered (arrived : Bytes) : Delivery :=
  expectedFrom (queueOf history) [] arrived

end

@[simp]
theorem delivered_answered (reply : Bytes) (history : List Exchange) (arrived : Bytes) :
    delivered (.answered reply :: history) arrived = (delivered history arrived).prepend reply :=
  rfl

variable {arrived : Bytes}

section Forwarded

variable {kind : RequestKind} {response : Response kind} (fits : response.LineFits)
  (history : List Exchange)

theorem responsesOf_forwarded :
    responsesOf (.forwarded kind response fits :: history) =
      response.bytes ++ responsesOf history :=
  rfl

theorem delivered_forwarded_closed (arrived : Bytes) :
    delivered (.forwarded kind response fits :: history) (response.bytes ++ arrived) =
      (delivered history arrived).prepend response.bytes := by
  have closed := firstEnd_append_of_some (Response.replyLen_bytes fits) arrived
  change expectedFrom (.request kind :: queueOf history) [] _ = _
  rw [expectedFrom_request_closed closed, take_left' rfl, drop_left' rfl]
  rfl

theorem delivered_forwarded_open (part : arrived <+: response.bytes)
    (short : arrived.length < response.bytes.length) :
    delivered (.forwarded kind response fits :: history) arrived =
      ⟨arrived, .request kind :: queueOf history, arrived⟩ := by
  have stillOpen : firstEnd (replyDone kind) [] arrived = none := by
    rcases part with ⟨rest, joined⟩
    cases closed : firstEnd (replyDone kind) [] arrived with
    | none => rfl
    | some consumed =>
      have whole := firstEnd_append_of_some closed rest
      have bound := (firstEnd_sound closed).2.1
      have full := Response.replyLen_bytes fits
      rw [replyLen, ← joined, whole, Option.some.injEq, joined] at full
      exact absurd full (Nat.ne_of_lt (Nat.lt_of_le_of_lt bound short))
  exact expectedFrom_request_open stillOpen

end Forwarded

theorem prefix_append_cases {first rest : Bytes} (causal : arrived <+: first ++ rest) :
    (∃ later, arrived = first ++ later ∧ later <+: rest) ∨
      (arrived <+: first ∧ arrived.length < first.length) := by
  rcases Nat.lt_or_ge arrived.length first.length with short | long
  · exact Or.inr ⟨prefix_of_prefix_length_le causal (prefix_append _ _)
      (Nat.le_of_lt short), short⟩
  · have firstPart : first <+: arrived :=
      prefix_of_prefix_length_le (prefix_append _ _) causal long
    rcases firstPart with ⟨later, rfl⟩
    exact Or.inl ⟨later, rfl, (prefix_append_right_inj first).mp causal⟩

/-! ## What the client has -/

theorem responsesOf_append (first second : List Exchange) :
    responsesOf (first ++ second) = responsesOf first ++ responsesOf second := by
  simp [responsesOf]

theorem repliesOf_append (first second : List Exchange) :
    repliesOf (first ++ second) = repliesOf first ++ repliesOf second := by
  simp [repliesOf]

variable {history : List Exchange}

theorem delivered_isPrefix_replies (causal : arrived <+: responsesOf history) :
    (delivered history arrived).written <+: repliesOf history := by
  induction history generalizing arrived with
  | nil => exact causal
  | cons exchange history ih =>
    cases exchange with
    | answered reply => exact (prefix_append_right_inj reply).mpr (ih causal)
    | forwarded kind response fits =>
      rw [responsesOf_forwarded] at causal
      rcases prefix_append_cases causal with ⟨later, rfl, laterCausal⟩ | ⟨part, short⟩
      · rw [delivered_forwarded_closed]
        exact (prefix_append_right_inj response.bytes).mpr (ih laterCausal)
      · rw [delivered_forwarded_open fits history part short]
        exact part.trans (prefix_append _ _)

/-- Once every response has arrived, everything owed has been delivered. -/
theorem delivered_all (history : List Exchange) :
    delivered history (responsesOf history) = ⟨repliesOf history, [], []⟩ := by
  induction history with
  | nil => rfl
  | cons exchange history ih =>
    cases exchange with
    | answered reply =>
      change (delivered history (responsesOf history)).prepend reply = _
      rw [ih]
      rfl
    | forwarded kind response fits =>
      rw [responsesOf_forwarded, delivered_forwarded_closed, ih]
      rfl

/-! ## Another line -/

/-- Register one more line on a delivery: a local reply that nothing blocks is
delivered at once. -/
def Delivery.push (delivery : Delivery) : QueuedReply → Delivery
  | .request kind => { delivery with queue := delivery.queue ++ [.request kind] }
  | .deferred reply =>
    if delivery.queue = [] then { delivery with written := delivery.written ++ reply }
    else { delivery with queue := delivery.queue ++ [.deferred reply] }

theorem Delivery.push_prepend (bytes : Bytes) (delivery : Delivery) (item : QueuedReply) :
    (delivery.prepend bytes).push item = (delivery.push item).prepend bytes := by
  cases item with
  | request kind => rfl
  | deferred reply =>
    by_cases unblocked : delivery.queue = []
    · simp [push, prepend, unblocked]
    · simp [push, prepend, unblocked]

/-- A backend that only answers what was forwarded leaves the delivery of a longer
history one step away. -/
theorem delivered_append_singleton (causal : arrived <+: responsesOf history)
    (exchange : Exchange) :
    delivered (history ++ [exchange]) arrived =
      (delivered history arrived).push exchange.queued := by
  induction history generalizing arrived with
  | nil =>
    have nothing : arrived = [] := prefix_nil.mp causal
    subst nothing
    cases exchange with
    | answered reply =>
      simp [delivered, queueOf, Exchange.queued, Delivery.push, Delivery.prepend]
    | forwarded kind response fits =>
      simp [delivered, queueOf, Exchange.queued, Delivery.push, expectedFrom]
  | cons first history ih =>
    cases first with
    | answered reply =>
      rw [cons_append, delivered_answered, delivered_answered, ih causal,
        Delivery.push_prepend]
    | forwarded kind response fits =>
      rw [cons_append]
      rw [responsesOf_forwarded] at causal
      rcases prefix_append_cases causal with ⟨later, rfl, laterCausal⟩ | ⟨part, short⟩
      · rw [delivered_forwarded_closed, delivered_forwarded_closed, ih laterCausal,
          Delivery.push_prepend]
      · rw [delivered_forwarded_open fits _ part short, delivered_forwarded_open fits _ part short]
        cases exchange with
        | answered reply => simp [queueOf, Exchange.queued, Delivery.push]
        | forwarded kind response fits => simp [queueOf, Exchange.queued, Delivery.push]

/-! ## Another read -/

section

variable (history : List Exchange)

/-- What follows a response does not start with a full stop. -/
theorem not_dot_responsesOf :
    ¬ [dot, cr, lf] <+: responsesOf history := by
  induction history with
  | nil => simp [responsesOf]
  | cons exchange history ih =>
    cases exchange with
    | answered reply => exact ih
    | forwarded kind response fits =>
      rintro ⟨rest, joined⟩
      apply response.head?_bytes_ne_dot
      have nonempty : response.bytes ≠ [] := by simp [Response.bytes]
      have starts : (response.bytes ++ responsesOf history).head? = some dot := by
        rw [← responsesOf_forwarded fits, ← joined]
        rfl
      rwa [head?_append_of_ne_nil _ nonempty] at starts

/-- No response is followed by octets that overlap its terminator. -/
theorem closedCleanlyFrom_responsesOf :
    ClosedCleanlyFrom (requestKinds (queueOf history)) [] (responsesOf history) := by
  induction history with
  | nil => trivial
  | cons exchange history ih =>
    cases exchange with
    | answered reply => exact ih
    | forwarded kind response fits =>
      have closed :=
        firstEnd_append_of_some (Response.replyLen_bytes fits) (responsesOf history)
      apply (closedCleanlyFrom_iff_of_closed closed _).mpr
      rw [drop_left' rfl]
      constructor
      · rintro ⟨-, overlap⟩
        exact not_dot_responsesOf history overlap
      · exact ih

theorem delivered_append (arrived read : Bytes) :
    delivered history (arrived ++ read) =
      (expectedFrom (delivered history arrived).queue (delivered history arrived).seen
        read).prepend (delivered history arrived).written :=
  expectedFrom_append (queueOf history) [] arrived read

theorem frontOpen_delivered (arrived : Bytes) :
    FrontOpen (delivered history arrived).queue (delivered history arrived).seen :=
  frontOpen_expectedFrom (frontOpen_nil (queueOf history)) arrived

end

/-- The order of the source that stands for a history and what has arrived. -/
def orderFor (history : List Exchange) (arrived : Bytes) : BackendResponseOrder :=
  .orderOf (delivered history arrived).queue (delivered history arrived).seen

/-- A read of the source writes what the longer stream delivers, and leaves the
order of the longer stream. -/
theorem clientWritesForBackendRead_orderFor {read : Bytes}
    (causal : arrived ++ read <+: responsesOf history) :
    (delivered history (arrived ++ read)).written =
        (delivered history arrived).written ++
          ((orderFor history arrived).clientWritesForBackendRead read).1.flatten ∧
      ((orderFor history arrived).clientWritesForBackendRead read).2 =
        orderFor history (arrived ++ read) := by
  have frontOpen := frontOpen_delivered history arrived
  have clean : ¬ Collision (delivered history arrived).seen read := by
    rcases causal with ⟨rest, joined⟩
    have whole := closedCleanlyFrom_responsesOf history
    rw [← joined, append_assoc] at whole
    exact not_collision_of_closedCleanlyFrom frontOpen (closedCleanlyFrom_expectedFrom whole)
  have step := clientWritesForBackendRead_orderOf frontOpen clean
  simp only [Prod.mk.injEq] at step
  unfold orderFor
  rw [delivered_append]
  exact ⟨congrArg _ step.1.symm, step.2⟩

theorem settled_delivered (history : List Exchange) (arrived : Bytes) :
    Settled (delivered history arrived).queue :=
  settled_expectedFrom _ _ _

/-! ## Registering a line in the source -/

variable {queue : List QueuedReply}

theorem pendingOf_append {seen : Bytes} (frontOpen : FrontOpen queue seen) (item : QueuedReply) :
    pendingOf (queue ++ [item]) seen =
      pendingOf queue seen ++ (requestKinds [item]).map PendingRequestFrame.fresh := by
  induction queue with
  | nil =>
    rw [show seen = [] from frontOpen]
    exact pendingOf_nil_seen [item]
  | cons first queue ih =>
    cases first with
    | deferred reply => exact ih frontOpen
    | request kind => simp [pendingOf, requestKinds_append]

theorem BackendResponseOrder.push_orderOf {seen : Bytes} (frontOpen : FrontOpen queue seen)
    (item : QueuedReply) : (orderOf queue seen).push item = orderOf (queue ++ [item]) seen := by
  unfold BackendResponseOrder.orderOf
  rw [pendingOf_append frontOpen]
  cases item with
  | request kind => simp [push, pushRequest, requestKinds, QueuedReply.ordered]
  | deferred reply => simp [push, pushDeferredReply, requestKinds, QueuedReply.ordered]

theorem BackendResponseOrder.hasPendingBackendReplies_orderOf (settled : Settled queue)
    (seen : Bytes) : (orderOf queue seen).hasPendingBackendReplies = true ↔ queue ≠ [] := by
  match queue, settled with
  | [], _ => simp [hasPendingBackendReplies]
  | .request kind :: queue, _ => simp [hasPendingBackendReplies, QueuedReply.ordered]

theorem BackendResponseOrder.takeReady_orderOf (settled : Settled queue) (seen : Bytes) :
    (orderOf queue seen).takeReady = ([], orderOf queue seen) := by
  match queue, settled with
  | [], _ => rfl
  | .request kind :: queue, _ => rfl

/-- Registering a line and taking what is ready gives the longer history: the
ready replies are what its delivery adds. -/
theorem takeReady_push_orderFor (causal : arrived <+: responsesOf history) (exchange : Exchange) :
    (delivered (history ++ [exchange]) arrived).written =
        (delivered history arrived).written ++
          ((orderFor history arrived).push exchange.queued).takeReady.1.flatten ∧
      ((orderFor history arrived).push exchange.queued).takeReady.2 =
        orderFor (history ++ [exchange]) arrived := by
  have frontOpen := frontOpen_delivered history arrived
  have settled := settled_delivered history arrived
  have later := settled_delivered (history ++ [exchange]) arrived
  unfold orderFor
  rw [push_orderOf frontOpen, delivered_append_singleton causal]
  rw [delivered_append_singleton causal] at later
  cases exchange with
  | forwarded kind response fits =>
    change Settled ((delivered history arrived).queue ++ [.request kind]) at later
    rw [show (Exchange.forwarded kind response fits).queued = .request kind from rfl,
      takeReady_orderOf later]
    simp [Delivery.push]
  | answered reply =>
    by_cases unblocked : (delivered history arrived).queue = []
    · rw [unblocked] at frontOpen
      have nothingSeen : (delivered history arrived).seen = [] := frontOpen
      simp [Delivery.push, Exchange.queued, unblocked, nothingSeen,
        takeReady, takeReadyDeferredReplies, QueuedReply.ordered,
        BackendResponseOrder.orderOf, pendingOf]
    · have settledMore : Settled ((delivered history arrived).queue ++ [.deferred reply]) := by
        rcases queueEq : (delivered history arrived).queue with _ | ⟨first, queue⟩
        · exact absurd queueEq unblocked
        · rw [queueEq] at settled
          cases first with
          | request kind => trivial
          | deferred reply => exact settled.elim
      simp [Delivery.push, Exchange.queued, unblocked,
        takeReady_orderOf settledMore]

end NntpProxy.Framing
