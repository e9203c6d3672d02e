import NntpProxy.Framing.Interleaving
import NntpProxy.Protocol.Responses

/-!
# Independence of the cutting into reads

The whole-stream reference is stated here without any state: where a reply ends,
which octets the client gets and what stays outstanding.  The ordering layer
agrees with it on every cutting, for every placing of deferred replies, exactly
when no reply closed by the terminator is followed at once by `.CRLF`.
-/

namespace NntpProxy.Framing

open Protocol NntpProxy.Stream List BackendResponseOrder PendingRequestFrame

/-! ## The reference on whole streams -/

/-- End of the reply at the start of a stream: its first line feed when the
reply ends with the status line, otherwise the end of the first `CRLF.CRLF` that
begins no earlier than the line end of the status line. -/
def replyEnd (kind : RequestKind) (stream : Bytes) : Option Nat :=
  match statusLineLen stream with
  | none => none
  | some lineLen =>
    if endsAtStatusLine kind (stream.take lineLen) then some lineLen
    else (firstMatchEnd terminator (stream.drop (lineLen - 2))).map (lineLen - 2 + ·)

/-- Client octets and the replies still outstanding when a stream is read
against a queue: each deferred reply stands right after the last reply to a
request registered before it. -/
def interleave : List QueuedReply → Bytes → Bytes × List QueuedReply
  | [], stream => (stream, [])
  | .deferred reply :: queue, stream =>
    let (written, left) := interleave queue stream
    (reply ++ written, left)
  | .request kind :: queue, stream =>
    match replyEnd kind stream with
    | none => (stream, .request kind :: queue)
    | some consumed =>
      let (written, left) := interleave queue (stream.drop consumed)
      (stream.take consumed ++ written, left)

/-- The reference for feeding a whole stream.  An empty stream has no read, so
nothing is written for it. -/
def expectedWrites (queue : List QueuedReply) (stream : Bytes) : Bytes × List QueuedReply :=
  if stream = [] then ([], queue) else interleave queue stream

/-- No reply closed by the terminator is followed at once by `.CRLF`. -/
def ClosedCleanly : List RequestKind → Bytes → Prop
  | [], _ => True
  | kind :: kinds, stream =>
    match replyEnd kind stream with
    | none => True
    | some consumed =>
      ¬ (terminator <:+ stream.take consumed ∧ [dot, cr, lf] <+: stream.drop consumed) ∧
        ClosedCleanly kinds (stream.drop consumed)

/-- Searching from two octets before the end of the status line finds the
terminator that searching from the status line finds. -/
private theorem firstMatchEnd_line (text rest : Bytes) :
    (firstMatchEnd terminator ((text ++ [lf]).rtake 2 ++ rest)) =
      (firstEnd (endsWith terminator) (text ++ [lf]) rest).map
        (((text ++ [lf]).rtake 2).length + ·) := by
  have nothing : firstEnd (endsWith terminator) [] ((text ++ [lf]).rtake 2) = none := by
    rw [firstEnd_eq_none_iff]
    intro m _ _
    rw [endsWith_eq_false_iff]
    intro suffix
    have := suffix.length_le
    simp only [nil_append, length_take, length_rtake, length_terminator] at this
    omega
  rw [firstMatchEnd_eq_firstEnd terminator_ne_nil, firstEnd_append_of_none nothing,
    nil_append, firstEnd_rtake_line]

/-- The end in words is the first complete prefix. -/
theorem replyEnd_eq_replyLen (kind : RequestKind) (stream : Bytes) :
    replyEnd kind stream = replyLen kind stream := by
  cases lineFound : statusLineLen stream with
  | none =>
    rw [replyEnd, lineFound, replyLen, firstEnd_replyDone_of_noLine statusLineLen_nil lineFound]
  | some lineLen =>
    rw [replyLen, firstEnd_replyDone_of_line statusLineLen_nil lineFound, nil_append]
    simp only [replyEnd, lineFound]
    cases ends : endsAtStatusLine kind (stream.take lineLen) with
    | true => rfl
    | false =>
      rcases take_statusLineLen lineFound with ⟨text, -, lineEq⟩
      have lineLength : (text ++ [lf]).length = lineLen := by
        rw [← lineEq, length_take, Nat.min_eq_left (statusLineLen_le lineFound).2]
      have tailEq : stream.drop (lineLen - 2) = (text ++ [lf]).rtake 2 ++ stream.drop lineLen := by
        rw [rtake, lineLength, ← lineEq, drop_take]
        conv_lhs => rw [← take_append_drop (lineLen - (lineLen - 2))
          (stream.drop (lineLen - 2))]
        rw [drop_drop]
        congr 2
        omega
      rw [tailEq, firstMatchEnd_line, lineEq, length_rtake]
      simp only [Bool.false_eq_true, if_false, Option.map_map]
      congr 1
      funext n
      simp only [Function.comp_apply]
      omega

/-- The reference in words is the reference that is followed read by read. -/
theorem interleave_eq_expectedFrom (queue : List QueuedReply) (stream : Bytes) :
    interleave queue stream =
      ((expectedFrom queue [] stream).written, (expectedFrom queue [] stream).queue) := by
  induction queue generalizing stream with
  | nil => rfl
  | cons item queue ih =>
    cases item with
    | deferred reply => simp only [interleave, ih]; rfl
    | request kind =>
      simp only [interleave, replyEnd_eq_replyLen]
      cases closed : replyLen kind stream with
      | none => rw [expectedFrom_request_open closed]
      | some consumed =>
        rw [expectedFrom_request_closed closed]
        simp only [ih, Delivery.prepend_written, Delivery.prepend_queue]

theorem closedCleanly_iff_from (kinds : List RequestKind) (stream : Bytes) :
    ClosedCleanly kinds stream ↔ ClosedCleanlyFrom kinds [] stream := by
  induction kinds generalizing stream with
  | nil => rfl
  | cons kind kinds ih =>
    simp only [ClosedCleanly, replyEnd_eq_replyLen]
    cases closed : replyLen kind stream with
    | none => simp [closedCleanlyFrom_of_open closed]
    | some consumed => rw [closedCleanlyFrom_iff_of_closed closed, ← ih, nil_append]

/-! ## What feeding a cutting shows -/

/-- Client octets with the outstanding requests and deferred replies. -/
structure Outcome where
  written : Bytes
  requests : List RequestKind
  ordered : List OrderedResponse
  deriving DecidableEq, Repr

/-- The outcome of feeding reads to an order. -/
def BackendResponseOrder.outcome (order : BackendResponseOrder) (reads : List Bytes) : Outcome :=
  let (written, last) := order.feed reads
  ⟨written, last.pending.map (·.kind), last.ordered⟩

/-- The outcome that leaves a queue outstanding. -/
def Outcome.ofQueue (written : Bytes) (queue : List QueuedReply) : Outcome :=
  ⟨written, requestKinds queue, queue.map QueuedReply.ordered⟩

/-- The outcome of the reference. -/
def expectedOutcome (queue : List QueuedReply) (stream : Bytes) : Outcome :=
  let (written, left) := expectedWrites queue stream
  .ofQueue written left

/-- Whatever deferred replies stand between the requests, any two cuttings of the
stream have one outcome, and it is the outcome of the reference. -/
def CutIndependent (kinds : List RequestKind) (stream : Bytes) : Prop :=
  ∀ queue, requestKinds queue = kinds →
    (∀ first second, IsCutting first stream → IsCutting second stream →
      (register queue).outcome first =
        (register queue).outcome second) ∧
    ∀ reads, IsCutting reads stream →
      (register queue).outcome reads = expectedOutcome queue stream

theorem map_kind_pendingOf (queue : List QueuedReply) (seen : Bytes) :
    (pendingOf queue seen).map (·.kind) = requestKinds queue := by
  induction queue with
  | nil => rfl
  | cons item queue ih =>
    cases item with
    | deferred reply => exact ih
    | request kind =>
      simp [pendingOf, requestKinds, Function.comp_def, fresh]

variable {stream : Bytes}

/-- Every cutting of a stream without overlapping terminators has the outcome of
the reference. -/
theorem outcome_eq_expectedOutcome {queue : List QueuedReply}
    (clean : ClosedCleanly (requestKinds queue) stream) {reads : List Bytes}
    (cutting : IsCutting reads stream) :
    (register queue).outcome reads = expectedOutcome queue stream := by
  rw [closedCleanly_iff_from] at clean
  rw [register_eq_orderOf]
  cases reads with
  | nil =>
    rw [(isCutting_nil_iff stream).mp cutting]
    simp [outcome, feed, expectedOutcome,
      expectedWrites, Outcome.ofQueue, map_kind_pendingOf]
  | cons read reads =>
    have fed := feed_orderOf (read :: reads) (frontOpen_nil queue) (Or.inr (by simp))
      (cutting.flatten_eq ▸ clean)
    rw [cutting.flatten_eq] at fed
    simp only [outcome, fed, orderOf_pending,
      orderOf_ordered, expectedOutcome, expectedWrites,
      if_neg cutting.stream_ne_nil, interleave_eq_expectedFrom, Outcome.ofQueue, map_kind_pendingOf]

/-! ## Overlapping terminators -/

/-- A queue and a cut of the stream that put the second read into a collision,
with a deferred reply waiting behind the reply that ends there. -/
structure BadCut (kinds : List RequestKind) (stream mark : Bytes) where
  queue : List QueuedReply
  first : Bytes
  second : Bytes
  kind : RequestKind
  later : List QueuedReply
  seen : Bytes
  kinds_eq : requestKinds queue = kinds
  stream_eq : first ++ second = stream
  first_ne_nil : first ≠ []
  afterFirst : expectedFrom queue [] first = ⟨first, .request kind :: .deferred mark :: later, seen⟩
  stillOpen : replyLen kind seen = none
  collision : Collision seen second

theorem requestKinds_map_request (kinds : List RequestKind) :
    requestKinds (kinds.map .request) = kinds := by
  induction kinds with
  | nil => rfl
  | cons kind kinds ih => simp [requestKinds, ih]

/-- A reply that overlaps what follows it can be cut before its last octet. -/
private theorem badCut_of_overlap {kind : RequestKind} {consumed : Nat}
    (closed : replyLen kind stream = some consumed) (suffix : terminator <:+ stream.take consumed)
    (follows : [dot, cr, lf] <+: stream.drop consumed) (kinds : List RequestKind) (mark : Bytes) :
    Nonempty (BadCut (kind :: kinds) stream mark) := by
  rcases suffix with ⟨front, joined⟩
  rcases follows with ⟨rest, rest_eq⟩
  have split : stream = (front ++ [cr, lf, dot, cr]) ++ (lf :: dot :: cr :: lf :: rest) := by
    rw [← take_append_drop consumed stream, ← joined, ← rest_eq]
    simp [terminator]
  have consumedEq : consumed = (front ++ [cr, lf, dot, cr]).length + 1 := by
    have lengths := congrArg length joined
    rw [length_take, Nat.min_eq_left (firstEnd_sound closed).2.1] at lengths
    simp only [length_append, length_terminator] at lengths
    simp only [length_append, length_cons, length_nil]
    omega
  have openFirst : replyLen kind (front ++ [cr, lf, dot, cr]) = none := by
    cases earlier : replyLen kind (front ++ [cr, lf, dot, cr]) with
    | none => rfl
    | some n =>
      have whole := firstEnd_append_of_some earlier (lf :: dot :: cr :: lf :: rest)
      rw [← split] at whole
      have bound := (firstEnd_sound earlier).2.1
      rw [replyLen, whole, Option.some.injEq] at closed
      omega
  exact ⟨{
    queue := .request kind :: .deferred mark :: kinds.map .request
    first := front ++ [cr, lf, dot, cr]
    second := lf :: dot :: cr :: lf :: rest
    kind := kind
    later := kinds.map .request
    seen := front ++ [cr, lf, dot, cr]
    kinds_eq := by simp [requestKinds, requestKinds_map_request]
    stream_eq := split.symm
    first_ne_nil := by simp
    afterFirst := by rw [expectedFrom_request_open openFirst, nil_append]
    stillOpen := openFirst
    collision := ⟨⟨front, rfl⟩, ⟨rest, rfl⟩⟩ }⟩

variable {kinds : List RequestKind}

/-- A bad cut of what follows the first reply is a bad cut of the whole stream. -/
private theorem BadCut.cons {kind : RequestKind} {mark : Bytes} {consumed : Nat}
    (closed : replyLen kind stream = some consumed)
    (cut : BadCut kinds (stream.drop consumed) mark) :
    Nonempty (BadCut (kind :: kinds) stream mark) := by
  have takeLength : (stream.take consumed).length = consumed := by
    rw [length_take, Nat.min_eq_left (firstEnd_sound closed).2.1]
  have closedFirst : firstEnd (replyDone kind) [] (stream.take consumed ++ cut.first) =
      some consumed :=
    firstEnd_append_of_some (firstEnd_take_of_some closed) cut.first
  exact ⟨{
    queue := .request kind :: cut.queue
    first := stream.take consumed ++ cut.first
    second := cut.second
    kind := cut.kind
    later := cut.later
    seen := cut.seen
    kinds_eq := by simp [requestKinds, cut.kinds_eq]
    stream_eq := by rw [append_assoc, cut.stream_eq, take_append_drop]
    first_ne_nil := by simp [cut.first_ne_nil]
    afterFirst := by
      rw [expectedFrom_request_closed closedFirst, drop_left' takeLength,
        take_left' takeLength, cut.afterFirst]
      rfl
    stillOpen := cut.stillOpen
    collision := cut.collision }⟩

/-- A stream with overlapping terminators has a bad cut. -/
private theorem exists_badCut (overlaps : ¬ ClosedCleanlyFrom kinds [] stream) (mark : Bytes) :
    Nonempty (BadCut kinds stream mark) := by
  induction kinds generalizing stream with
  | nil => exact absurd trivial overlaps
  | cons kind kinds ih =>
    cases closed : replyLen kind stream with
    | none => exact absurd (closedCleanlyFrom_of_open closed kinds) overlaps
    | some consumed =>
      rw [closedCleanlyFrom_iff_of_closed closed, not_and_or, not_not] at overlaps
      rcases overlaps with ⟨suffix, follows⟩ | later
      · exact badCut_of_overlap closed suffix follows kinds mark
      · rcases ih later with ⟨cut⟩
        exact cut.cons closed

/-- The tracker reports the reply three octets late when a read starts in a collision. -/
private theorem consume_of_collision (kind : RequestKind) {seen chunk : Bytes}
    (collision : Collision seen chunk) :
    ((ofSeen kind seen).consume chunk).1 = some 4 := by
  have hasLine : statusLineLen seen ≠ none := by
    rcases collision with ⟨⟨front, rfl⟩, -⟩
    rw [Ne, statusLineLen_eq_none_iff]
    simp
  rcases Option.ne_none_iff_exists'.mp hasLine with ⟨lineLen, lineFound⟩
  simp only [ofSeen_of_line lineFound, consume,
    MultilineFramer.advanceToNextTerminatorEnd,
    MultilineFramer.nextTerminatorEnd_of_collision collision]

/-- A read that starts in a collision passes `.CRLF` on with the reply. -/
private theorem writes_of_collision (kind : RequestKind) (queue : List QueuedReply)
    {seen chunk : Bytes} (collision : Collision seen chunk) :
    ∃ after, ((orderOf (.request kind :: queue)
      seen).clientWritesForBackendRead chunk).1.flatten = lf :: dot :: after := by
  have late := consume_of_collision kind collision
  rcases collision with ⟨-, ⟨rest, rfl⟩⟩
  rcases consumeEq : (ofSeen kind seen).consume
    ([lf, dot, cr, lf] ++ rest) with ⟨result, next⟩
  rw [consumeEq] at late
  subst late
  simp only [cons_append, nil_append] at consumeEq
  simp only [clientWritesForBackendRead, orderOf_pending,
    orderOf_ordered, pendingOf, cons_append, nil_append,
    acceptBackendBytes, consumeEq, map_cons, QueuedReply.ordered, takeReadyDeferredReplies,
    writesForReplies, flatten_cons, take_succ_cons, take_zero]
  exact ⟨_, rfl⟩

/-- On a bad cut the client gets `.CRLF` before the deferred reply. -/
private theorem written_of_badCut {mark : Bytes} (cut : BadCut kinds stream mark) :
    ∃ after, ((register cut.queue).outcome [cut.first, cut.second]).written =
      cut.first ++ lf :: dot :: after := by
  have step := clientWritesForBackendRead_orderOf (frontOpen_nil cut.queue)
    (not_collision_nil cut.first)
  rw [cut.afterFirst, Prod.mk.injEq] at step
  rcases writes_of_collision cut.kind (.deferred mark :: cut.later) cut.collision with
    ⟨after, afterEq⟩
  refine ⟨after, ?_⟩
  rw [register_eq_orderOf]
  simp only [outcome, feed, step.1, step.2, afterEq,
    append_nil]

/-- The reference puts the deferred reply right behind the reply that ends in the
second read. -/
private theorem expected_of_badCut {mark : Bytes} (cut : BadCut kinds stream mark) :
    ∃ after, (expectedOutcome cut.queue stream).written = cut.first ++ lf :: (mark ++ after) := by
  have nonempty : stream ≠ [] := by
    rw [← cut.stream_eq]
    simp [cut.first_ne_nil]
  rcases firstEnd_of_collision cut.stillOpen cut.collision with ⟨closed, -, -⟩
  rcases cut.collision with ⟨-, ⟨rest, restEq⟩⟩
  have secondTake : cut.second.take 1 = [lf] := by rw [← restEq]; rfl
  refine ⟨(expectedFrom cut.later [] (cut.second.drop 1)).written, ?_⟩
  simp only [expectedOutcome, expectedWrites, if_neg nonempty, interleave_eq_expectedFrom,
    Outcome.ofQueue]
  have whole := expectedFrom_append cut.queue [] cut.first cut.second
  rw [cut.stream_eq, cut.afterFirst] at whole
  rw [whole]
  simp only [expectedFrom_request_closed closed, expectedFrom_deferred, Delivery.prepend_written,
    secondTake, singleton_append]

/-- The ordering layer is independent of the cutting, for every placing of
deferred replies, exactly when no reply closed by the terminator is followed at
once by `.CRLF`. -/
theorem cutIndependent_iff_closedCleanly (kinds : List RequestKind) (stream : Bytes) :
    CutIndependent kinds stream ↔ ClosedCleanly kinds stream := by
  constructor
  · intro independent
    by_contra overlaps
    rw [closedCleanly_iff_from] at overlaps
    rcases exists_badCut overlaps commandTooLong with ⟨cut⟩
    have secondNonempty : cut.second ≠ [] := by
      rcases cut.collision with ⟨-, ⟨rest, restEq⟩⟩
      rw [← restEq]
      simp
    have cutting : IsCutting [cut.first, cut.second] stream :=
      ⟨by simpa using cut.stream_eq, (isCutting_pair cut.first_ne_nil secondNonempty).nonempty⟩
    have agree := (independent cut.queue cut.kinds_eq).2 _ cutting
    rcases written_of_badCut cut with ⟨afterCode, codeEq⟩
    rcases expected_of_badCut cut with ⟨afterReference, referenceEq⟩
    rw [agree, referenceEq] at codeEq
    have octets := append_cancel_left codeEq
    exact absurd (cons.inj (cons.inj octets).2).1 (by decide)
  · intro clean queue kindsEq
    subst kindsEq
    constructor
    · intro first second firstCutting secondCutting
      rw [outcome_eq_expectedOutcome clean firstCutting,
        outcome_eq_expectedOutcome clean secondCutting]
    · intro reads cutting
      exact outcome_eq_expectedOutcome clean cutting

/-- One article reply followed by a stray `.CRLF`, with a deferred reply behind
it: cut before the last octet of the terminator, the deferred reply comes late. -/
theorem outcome_depends_on_cutting :
    IsCutting [ascii "220 x\r\n.\r\n.\r\n"] (ascii "220 x\r\n.\r\n.\r\n") ∧
      IsCutting [ascii "220 x\r\n.\r", ascii "\n.\r\n"] (ascii "220 x\r\n.\r\n.\r\n") ∧
      (register [.request .article, .deferred commandTooLong]).outcome
          [ascii "220 x\r\n.\r", ascii "\n.\r\n"] ≠
        (register [.request .article, .deferred commandTooLong]).outcome
          [ascii "220 x\r\n.\r\n.\r\n"] := by
  refine ⟨⟨by decide, by decide⟩, ⟨by decide, by decide⟩, by decide⟩

end NntpProxy.Framing
