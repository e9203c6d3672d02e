import NntpProxy.Framing.Order

/-!
# Backend streams interleaved with deferred replies

The reference for a queue is computed from the whole backend stream: every
deferred reply follows the end of the last reply registered before it.
`expectedFrom` is the same reference after part of the front reply was seen and
composes over `++`, so that it can be followed read by read.  The source makes
the step of the reference on every read that does not start in a collision, and
reports the reply three octets late on a read that does.
-/

namespace NntpProxy.Framing

open Protocol NntpProxy.Stream BackendResponseOrder PendingRequestFrame

/-! ## The reference -/

/-- Client octets, what stays queued, and what was seen of the front reply. -/
structure Delivery where
  written : Bytes
  queue : List QueuedReply
  seen : Bytes
  deriving DecidableEq, Repr

section

variable (bytes : Bytes) (delivery : Delivery)

/-- Put octets in front of a delivery. -/
def Delivery.prepend : Delivery :=
  { delivery with written := bytes ++ delivery.written }

@[simp]
theorem Delivery.prepend_written :
    (delivery.prepend bytes).written = bytes ++ delivery.written :=
  rfl

@[simp]
theorem Delivery.prepend_queue :
    (delivery.prepend bytes).queue = delivery.queue :=
  rfl

@[simp]
theorem Delivery.prepend_seen :
    (delivery.prepend bytes).seen = delivery.seen :=
  rfl

end

theorem Delivery.prepend_prepend (first second : Bytes) (delivery : Delivery) :
    (delivery.prepend second).prepend first = delivery.prepend (first ++ second) := by
  simp [Delivery.prepend]

/-- Read a stream against a queue whose front reply has been seen up to `seen`. -/
def expectedFrom : List QueuedReply → Bytes → Bytes → Delivery
  | [], _, stream => ⟨stream, [], []⟩
  | .deferred reply :: queue, seen, stream => (expectedFrom queue seen stream).prepend reply
  | .request kind :: queue, seen, stream =>
    match firstEnd (replyDone kind) seen stream with
    | none => ⟨stream, .request kind :: queue, seen ++ stream⟩
    | some consumed =>
      (expectedFrom queue [] (stream.drop consumed)).prepend (stream.take consumed)

@[simp]
theorem expectedFrom_nil (seen stream : Bytes) : expectedFrom [] seen stream = ⟨stream, [], []⟩ :=
  rfl

@[simp]
theorem expectedFrom_deferred (reply : Bytes) (queue : List QueuedReply) (seen stream : Bytes) :
    expectedFrom (.deferred reply :: queue) seen stream =
      (expectedFrom queue seen stream).prepend reply :=
  rfl

variable {seen : Bytes} {queue : List QueuedReply} {kind : RequestKind}

variable {stream : Bytes}

theorem expectedFrom_request_open (stillOpen : firstEnd (replyDone kind) seen stream = none) :
    expectedFrom (.request kind :: queue) seen stream =
      ⟨stream, .request kind :: queue, seen ++ stream⟩ := by
  simp only [expectedFrom, stillOpen]

theorem expectedFrom_request_closed {consumed : Nat}
    (closed : firstEnd (replyDone kind) seen stream = some consumed) :
    expectedFrom (.request kind :: queue) seen stream =
      (expectedFrom queue [] (stream.drop consumed)).prepend (stream.take consumed) := by
  simp only [expectedFrom, closed]

/-- The queue starts with a request, or is empty. -/
def Settled : List QueuedReply → Prop
  | .deferred _ :: _ => False
  | _ => True

/-- Reading leaves no deferred reply at the front. -/
theorem settled_expectedFrom (queue : List QueuedReply) (seen stream : Bytes) :
    Settled (expectedFrom queue seen stream).queue := by
  induction queue generalizing seen stream with
  | nil => trivial
  | cons item queue ih =>
    cases item with
    | deferred reply => exact ih seen stream
    | request kind =>
      cases closed : firstEnd (replyDone kind) seen stream with
      | none =>
        rw [expectedFrom_request_open closed]
        trivial
      | some consumed =>
        rw [expectedFrom_request_closed closed]
        exact ih [] _

/-- The front reply of the queue is still open after `seen`. -/
def FrontOpen : List QueuedReply → Bytes → Prop
  | [], seen => seen = []
  | .deferred _ :: queue, seen => FrontOpen queue seen
  | .request kind :: _, seen => replyLen kind seen = none

theorem frontOpen_nil (queue : List QueuedReply) : FrontOpen queue [] := by
  induction queue with
  | nil => rfl
  | cons item queue ih =>
    cases item with
    | deferred reply => exact ih
    | request kind => rfl

theorem frontOpen_expectedFrom (frontOpen : FrontOpen queue seen) (stream : Bytes) :
    FrontOpen (expectedFrom queue seen stream).queue (expectedFrom queue seen stream).seen := by
  induction queue generalizing seen stream with
  | nil => rfl
  | cons item queue ih =>
    cases item with
    | deferred reply => exact ih frontOpen stream
    | request kind =>
      cases closed : firstEnd (replyDone kind) seen stream with
      | none =>
        rw [expectedFrom_request_open closed]
        change firstEnd (replyDone kind) [] (seen ++ stream) = none
        rw [firstEnd_append_of_none frontOpen, List.nil_append, closed]
        rfl
      | some consumed =>
        rw [expectedFrom_request_closed closed]
        exact ih (frontOpen_nil queue) _

/-- Reading a stream in two parts is reading it whole. -/
theorem expectedFrom_append (queue : List QueuedReply) (seen first second : Bytes) :
    expectedFrom queue seen (first ++ second) =
      (expectedFrom (expectedFrom queue seen first).queue (expectedFrom queue seen first).seen
        second).prepend (expectedFrom queue seen first).written := by
  induction queue generalizing seen first with
  | nil => rfl
  | cons item queue ih =>
    cases item with
    | deferred reply =>
      simp only [expectedFrom_deferred, ih, Delivery.prepend_prepend, Delivery.prepend_queue,
        Delivery.prepend_seen, Delivery.prepend_written]
    | request kind =>
      cases closed : firstEnd (replyDone kind) seen first with
      | some consumed =>
        have inside := (firstEnd_sound closed).2.1
        have closedWhole := firstEnd_append_of_some closed second
        rw [expectedFrom_request_closed closed, expectedFrom_request_closed closedWhole,
          List.drop_append_of_le_length inside, List.take_append_of_le_length inside, ih]
        simp only [Delivery.prepend_prepend, Delivery.prepend_queue, Delivery.prepend_seen,
          Delivery.prepend_written]
      | none =>
        have later := firstEnd_append_of_none closed second
        rw [expectedFrom_request_open closed]
        cases closedSecond : firstEnd (replyDone kind) (seen ++ first) second with
        | none =>
          rw [closedSecond] at later
          rw [expectedFrom_request_open later, expectedFrom_request_open closedSecond]
          simp [Delivery.prepend]
        | some consumed =>
          rw [closedSecond] at later
          rw [expectedFrom_request_closed later, expectedFrom_request_closed closedSecond,
            Delivery.prepend_prepend, List.drop_length_add_append, List.take_length_add_append]

theorem expectedFrom_empty (settled : Settled queue)
    (frontOpen : FrontOpen queue seen) : expectedFrom queue seen [] = ⟨[], queue, seen⟩ := by
  match queue, settled with
  | [], _ =>
    rw [show seen = [] from frontOpen]
    rfl
  | .request kind :: queue, _ => simp [expectedFrom]

/-! ## One read of the source -/

theorem not_collision_nil (chunk : Bytes) : ¬ Collision [] chunk := by
  rintro ⟨suffix, -⟩
  exact absurd suffix.length_le (by simp)

variable {chunk : Bytes}

theorem clientWritesForBackendRead_orderOf (frontOpen : FrontOpen queue seen)
    (clean : ¬ Collision seen chunk) :
    (((orderOf queue seen).clientWritesForBackendRead chunk).1.flatten,
        ((orderOf queue seen).clientWritesForBackendRead chunk).2) =
      ((expectedFrom queue seen chunk).written,
        .orderOf (expectedFrom queue seen chunk).queue (expectedFrom queue seen chunk).seen) := by
  induction queue generalizing seen chunk with
  | nil =>
    cases chunk with
    | nil => rfl
    | cons byte chunk =>
      simp [clientWritesForBackendRead, BackendResponseOrder.orderOf,
        takeReadyDeferredReplies, acceptBackendBytes, writesForReplies, pendingOf]
  | cons item queue ih =>
    cases item with
    | deferred reply =>
      have step := ih frontOpen clean
      simp only [Prod.mk.injEq] at step ⊢
      constructor
      · rw [expectedFrom_deferred, Delivery.prepend_written, ← step.1]
        rfl
      · exact step.2
    | request kind =>
      cases chunk with
      | nil =>
        rw [expectedFrom_request_open (firstEnd_nil _ _), List.append_nil]
        rfl
      | cons byte chunk =>
        have continues := consume_ofSeen frontOpen clean
        rcases consumeEq :
          (ofSeen kind seen).consume (byte :: chunk) with ⟨result, next⟩
        rw [consumeEq] at continues
        rcases continues with ⟨resultEq, nextEq⟩
        simp only at resultEq nextEq
        cases result with
        | none =>
          rw [expectedFrom_request_open resultEq.symm]
          simp [clientWritesForBackendRead,
            BackendResponseOrder.orderOf, takeReadyDeferredReplies, acceptBackendBytes,
            writesForReplies, pendingOf, consumeEq, nextEq rfl, QueuedReply.ordered]
        | some consumed =>
          have step := ih (frontOpen_nil queue)
            (not_collision_nil ((byte :: chunk).drop consumed))
          rw [expectedFrom_request_closed resultEq.symm]
          simp only [Prod.mk.injEq, Delivery.prepend_written, Delivery.prepend_queue,
            Delivery.prepend_seen] at step ⊢
          rw [← step.1, ← step.2]
          simp [clientWritesForBackendRead,
            BackendResponseOrder.orderOf, takeReadyDeferredReplies, acceptBackendBytes,
            writesForReplies, pendingOf, pendingOf_nil_seen, consumeEq, QueuedReply.ordered]

/-! ## Streams without overlapping terminators -/

/-- No reply closed by the terminator is followed at once by `.CRLF`, with the
front reply seen up to `seen`. -/
def ClosedCleanlyFrom : List RequestKind → Bytes → Bytes → Prop
  | [], _, _ => True
  | kind :: kinds, seen, stream =>
    match firstEnd (replyDone kind) seen stream with
    | none => True
    | some consumed =>
      ¬ (terminator <:+ seen ++ stream.take consumed ∧
          [dot, cr, lf] <+: stream.drop consumed) ∧
        ClosedCleanlyFrom kinds [] (stream.drop consumed)

theorem closedCleanlyFrom_of_open (stillOpen : firstEnd (replyDone kind) seen stream = none)
    (kinds : List RequestKind) :
    ClosedCleanlyFrom (kind :: kinds) seen stream := by
  simp [ClosedCleanlyFrom, stillOpen]

theorem closedCleanlyFrom_iff_of_closed {consumed : Nat}
    (closed : firstEnd (replyDone kind) seen stream = some consumed) (kinds : List RequestKind) :
    ClosedCleanlyFrom (kind :: kinds) seen stream ↔
      ¬ (terminator <:+ seen ++ stream.take consumed ∧
          [dot, cr, lf] <+: stream.drop consumed) ∧
        ClosedCleanlyFrom kinds [] (stream.drop consumed) := by
  simp only [ClosedCleanlyFrom, closed]

theorem firstEnd_of_collision (stillOpen : replyLen kind seen = none)
    (collision : Collision seen chunk) :
    firstEnd (replyDone kind) seen chunk = some 1 ∧ terminator <:+ seen ++ [lf] ∧
      [dot, cr, lf] <+: chunk.drop 1 := by
  rcases collision with ⟨⟨front, rfl⟩, ⟨rest, rfl⟩⟩
  have suffix : terminator <:+ front ++ [cr, lf, dot, cr] ++ [lf] :=
    ⟨front, by simp [terminator]⟩
  have hasLine : statusLineLen (front ++ [cr, lf, dot, cr]) ≠ none := by
    rw [Ne, statusLineLen_eq_none_iff]
    simp
  rcases Option.ne_none_iff_exists'.mp hasLine with ⟨lineLen, lineFound⟩
  refine ⟨?_, suffix, ⟨rest, rfl⟩⟩
  rw [firstEnd_replyDone_of_body stillOpen lineFound]
  exact firstEnd_cons_of_done (by simpa using suffix) _

/-- A stream without overlapping terminators is never cut inside a collision. -/
theorem not_collision_of_closedCleanlyFrom {rest : Bytes} (frontOpen : FrontOpen queue seen)
    (clean : ClosedCleanlyFrom (requestKinds queue) seen (chunk ++ rest)) :
    ¬ Collision seen chunk := by
  induction queue with
  | nil =>
    rw [show seen = [] from frontOpen]
    exact not_collision_nil chunk
  | cons item queue ih =>
    cases item with
    | deferred reply => exact ih frontOpen clean
    | request kind =>
      intro collision
      rcases firstEnd_of_collision frontOpen collision with ⟨closed, suffix, follows⟩
      have closedWhole := firstEnd_append_of_some closed rest
      have overlap := ((closedCleanlyFrom_iff_of_closed closedWhole _).mp clean).1
      rcases collision with ⟨-, ⟨later, rfl⟩⟩
      exact overlap ⟨suffix, follows.trans ⟨rest, rfl⟩⟩

/-- What is left of such a stream after a read has no overlapping terminators. -/
theorem closedCleanlyFrom_expectedFrom {rest : Bytes}
    (clean : ClosedCleanlyFrom (requestKinds queue) seen (chunk ++ rest)) :
    ClosedCleanlyFrom (requestKinds (expectedFrom queue seen chunk).queue)
      (expectedFrom queue seen chunk).seen rest := by
  induction queue generalizing seen chunk with
  | nil => trivial
  | cons item queue ih =>
    cases item with
    | deferred reply => exact ih clean
    | request kind =>
      cases closed : firstEnd (replyDone kind) seen chunk with
      | some consumed =>
        have inside := (firstEnd_sound closed).2.1
        have closedWhole := firstEnd_append_of_some closed rest
        have later := ((closedCleanlyFrom_iff_of_closed closedWhole _).mp clean).2
        rw [List.drop_append_of_le_length inside] at later
        rw [expectedFrom_request_closed closed]
        exact ih later
      | none =>
        have whole := firstEnd_append_of_none closed rest
        rw [expectedFrom_request_open closed]
        cases closedRest : firstEnd (replyDone kind) (seen ++ chunk) rest with
        | none => exact closedCleanlyFrom_of_open closedRest _
        | some consumed =>
          rw [closedRest] at whole
          have parts := (closedCleanlyFrom_iff_of_closed whole _).mp clean
          rw [List.drop_length_add_append, List.take_length_add_append,
            ← List.append_assoc] at parts
          exact (closedCleanlyFrom_iff_of_closed closedRest _).mpr parts

/-- Feeding a stream without overlapping terminators, however it is cut, gives
the reference. -/
theorem feed_orderOf (reads : List Bytes) (frontOpen : FrontOpen queue seen)
    (started : Settled queue ∨ reads ≠ [])
    (clean : ClosedCleanlyFrom (requestKinds queue) seen reads.flatten) :
    (orderOf queue seen).feed reads =
      ((expectedFrom queue seen reads.flatten).written,
        .orderOf (expectedFrom queue seen reads.flatten).queue
          (expectedFrom queue seen reads.flatten).seen) := by
  induction reads generalizing queue seen with
  | nil =>
    have settled : Settled queue := started.resolve_right (by simp)
    rw [List.flatten_nil, expectedFrom_empty settled frontOpen]
    rfl
  | cons read reads ih =>
    rw [List.flatten_cons] at clean ⊢
    have step := clientWritesForBackendRead_orderOf frontOpen
      (not_collision_of_closedCleanlyFrom frontOpen clean)
    have later := ih (frontOpen_expectedFrom frontOpen read)
      (Or.inl (settled_expectedFrom queue seen read)) (closedCleanlyFrom_expectedFrom clean)
    simp only [Prod.mk.injEq] at step
    rw [expectedFrom_append, feed]
    simp only [step.1, step.2, later, Delivery.prepend_written, Delivery.prepend_queue,
      Delivery.prepend_seen]

end NntpProxy.Framing
