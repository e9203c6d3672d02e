import NntpProxy.Framing.Interleaving

/-!
# The two queues of the ordering layer

The order of client replies and the frames of the reply tracker are two queues that different
code pops.  Whatever is registered, drained and read, both stand for the same queue of requests
and deferred replies: the end of all that was registered.  Only the first frame has seen octets
of its reply, and no frame stores more of a status line than the limit.
-/

namespace NntpProxy.Framing

open Protocol NntpProxy.Stream List QueuedReply PendingRequestFrame

/-! ## Operations -/

inductive OrderOperation where
  | pushRequest (kind : RequestKind)
  | pushDeferredReply (reply : Bytes)
  | takeReadyDeferredReplies
  | clientWritesForBackendRead (backendRead : Bytes)
  deriving DecidableEq, Repr

namespace OrderOperation

def apply (order : BackendResponseOrder) : OrderOperation → BackendResponseOrder
  | pushRequest kind => order.pushRequest kind
  | pushDeferredReply reply => order.pushDeferredReply reply
  | takeReadyDeferredReplies => order.takeReady.2
  | clientWritesForBackendRead backendRead => (order.clientWritesForBackendRead backendRead).2

/-- What an operation adds to the queue. -/
def registered : OrderOperation → Option QueuedReply
  | pushRequest kind => some (.request kind)
  | pushDeferredReply reply => some (.deferred reply)
  | _ => none

end OrderOperation

def BackendResponseOrder.operate (operations : List OrderOperation) : BackendResponseOrder :=
  operations.foldl OrderOperation.apply .empty

/-! ## The status line that a frame stores -/

namespace PendingRequestFrame

/-- The frame stores no more of a status line than the limit. -/
def Bounded (frame : PendingRequestFrame) : Prop :=
  frame.statusLine.length ≤ statusLineLimit

variable {frame : PendingRequestFrame}

theorem consumeBody_bounded (line rest : Bytes) :
    (frame.consumeBody line rest).2.kind = frame.kind ∧
      (frame.consumeBody line rest).2.Bounded := by
  unfold consumeBody
  dsimp only
  split <;> exact ⟨rfl, Nat.zero_le _⟩

/-- Reading keeps the kind of a frame and the bound of what it stores, also when the reply ends
with the read. -/
theorem consume_bounded (bounded : frame.Bounded) (chunk : Bytes) :
    (frame.consume chunk).2.kind = frame.kind ∧ (frame.consume chunk).2.Bounded := by
  unfold consume
  split
  · split
    · split
      · exact ⟨rfl, Nat.zero_le _⟩
      next short =>
        refine ⟨rfl, ?_⟩
        rw [Bounded, length_append]
        exact Nat.le_of_not_lt short
    next lineLen lineFound =>
      split
      · exact ⟨rfl, bounded⟩
      next short =>
        have lineBounded : (frame.statusLine ++ chunk.take lineLen).length ≤ statusLineLimit := by
          rw [length_append, length_take]
          omega
        dsimp only
        split
        · exact ⟨rfl, lineBounded⟩
        · split
          · exact consumeBody_bounded _ _
          · exact ⟨rfl, lineBounded⟩
  · exact ⟨rfl, bounded⟩
  · split <;> exact ⟨rfl, bounded⟩

end PendingRequestFrame

/-! ## One queue behind both -/

/-- The frames are those of the requests of a queue, and only the first was started. -/
structure Tracks (queue : List QueuedReply) (pending : List PendingRequestFrame) : Prop where
  kinds : pending.map kind = requestKinds queue
  waiting : ∀ frame ∈ pending.tail, frame = .fresh frame.kind
  bounded : ∀ frame ∈ pending, frame.Bounded

/-- Both queues stand for the end of what was registered. -/
def Lockstep (registered : List QueuedReply) (order : BackendResponseOrder) : Prop :=
  ∃ queue, queue <:+ registered ∧ order.ordered = queue.map ordered ∧
    Tracks queue order.pending

variable {pending : List PendingRequestFrame} {queue registered : List QueuedReply}
  {order : BackendResponseOrder}

theorem count_backend_map (queue : List QueuedReply) :
    (queue.map ordered).count .backend = (requestKinds queue).length := by
  induction queue with
  | nil => rfl
  | cons item queue ih => cases item <;> simp [ordered, requestKinds, ih]

/-- Draining leaves the end of the queue from its first request on. -/
theorem exists_takeReadyDeferredReplies (queue : List QueuedReply) :
    ∃ left, left <:+ queue ∧ Settled left ∧ requestKinds left = requestKinds queue ∧
      (takeReadyDeferredReplies (queue.map ordered)).2 =
        left.map ordered := by
  induction queue with
  | nil => exact ⟨[], suffix_refl _, trivial, rfl, rfl⟩
  | cons item queue ih =>
    cases item with
    | request kind => exact ⟨_, suffix_refl _, trivial, rfl, rfl⟩
    | deferred reply =>
      obtain ⟨left, isLeft, settled, kindsEq, leftEq⟩ := ih
      exact ⟨left, isLeft.trans (suffix_cons _ _), settled, kindsEq, leftEq⟩

theorem Tracks.of_kinds (tracks : Tracks queue pending) {left : List QueuedReply}
    (kindsEq : requestKinds left = requestKinds queue) : Tracks left pending :=
  ⟨tracks.kinds.trans kindsEq.symm, tracks.waiting, tracks.bounded⟩

/-- A read completes replies at the front of both queues. -/
theorem Tracks.read (tracks : Tracks queue pending) (settled : Settled queue) (chunk : Bytes) :
    ∃ left, left <:+ queue ∧ Tracks left (acceptBackendBytes pending chunk).2 ∧
      (writesForReplies (acceptBackendBytes pending chunk).1
        (queue.map ordered)).2 = left.map ordered := by
  induction pending generalizing queue chunk with
  | nil => cases chunk <;> exact ⟨queue, suffix_refl _, tracks, rfl⟩
  | cons front pending ih =>
    cases chunk with
    | nil => exact ⟨queue, suffix_refl _, tracks, rfl⟩
    | cons byte chunk =>
      obtain ⟨frontBounded, restBounded⟩ := forall_mem_cons.mp tracks.bounded
      have kept := consume_bounded frontBounded (byte :: chunk)
      unfold acceptBackendBytes
      split
      next next consumeEq =>
        rw [consumeEq] at kept
        refine ⟨queue, suffix_refl _, ⟨?_, tracks.waiting, ?_⟩, rfl⟩
        · rw [map_cons, kept.1]
          exact tracks.kinds
        · exact forall_mem_cons.mpr ⟨kept.2, restBounded⟩
      next consumed next consumeEq =>
        rcases queue with _ | ⟨kind | reply, rest⟩
        · exact absurd tracks.kinds (cons_ne_nil _ _)
        · have restTracks : Tracks rest pending :=
            ⟨(cons.inj tracks.kinds).2,
              fun frame found => tracks.waiting frame (mem_of_mem_tail found), restBounded⟩
          obtain ⟨ready, isReady, readySettled, kindsEq, readyEq⟩ :=
            exists_takeReadyDeferredReplies rest
          rcases ih (restTracks.of_kinds kindsEq) readySettled ((byte :: chunk).drop consumed) with
            ⟨left, isLeft, leftTracks, leftEq⟩
          rw [← readyEq] at leftEq
          exact ⟨left, isLeft.trans (isReady.trans (suffix_cons _ _)), leftTracks, leftEq⟩
        · exact settled.elim

theorem Tracks.pushRequest (tracks : Tracks queue pending) (kind : RequestKind) :
    Tracks (queue ++ [.request kind]) (pending ++ [.fresh kind]) := by
  refine ⟨?_, ?_, ?_⟩
  · rw [map_append, tracks.kinds, requestKinds_append]
    rfl
  · intro frame found
    cases pending with
    | nil => cases found
    | cons front pending =>
      rcases mem_append.mp found with earlier | last
      · exact tracks.waiting frame earlier
      · rw [mem_singleton.mp last]
        rfl
  · exact forall_mem_append.mpr ⟨tracks.bounded, forall_mem_singleton.mpr (Nat.zero_le _)⟩

theorem Lockstep.apply (lockstep : Lockstep registered order) (operation : OrderOperation) :
    Lockstep (registered ++ operation.registered.toList) (operation.apply order) := by
  obtain ⟨queue, ⟨front, rfl⟩, orderedEq, tracks⟩ := lockstep
  have pushed (item : QueuedReply) : queue ++ [item] <:+ front ++ queue ++ [item] :=
    ⟨front, (append_assoc _ _ _).symm⟩
  cases operation with
  | pushRequest kind =>
    refine ⟨_, pushed _, ?_, tracks.pushRequest kind⟩
    rw [map_append, ← orderedEq]
    rfl
  | pushDeferredReply reply =>
    refine ⟨_, pushed _, ?_, tracks.of_kinds ?_⟩
    · rw [map_append, ← orderedEq]
      rfl
    · rw [requestKinds_append]
      exact append_nil _
  | takeReadyDeferredReplies =>
    obtain ⟨left, isLeft, -, kindsEq, leftEq⟩ := exists_takeReadyDeferredReplies queue
    rw [← orderedEq] at leftEq
    exact ⟨left, append_nil _ ▸ isLeft.trans (suffix_append _ _), leftEq, tracks.of_kinds kindsEq⟩
  | clientWritesForBackendRead backendRead =>
    obtain ⟨ready, isReady, settled, kindsEq, readyEq⟩ := exists_takeReadyDeferredReplies queue
    rcases (tracks.of_kinds kindsEq).read settled backendRead with
      ⟨left, isLeft, leftTracks, leftEq⟩
    rw [← readyEq, ← orderedEq] at leftEq
    exact ⟨left, append_nil _ ▸ isLeft.trans (isReady.trans (suffix_append _ _)), leftEq,
      leftTracks⟩

theorem lockstep_operate (operations : List OrderOperation) :
    Lockstep (operations.filterMap OrderOperation.registered)
      (BackendResponseOrder.operate operations) := by
  induction operations using List.reverseRecOn with
  | nil => exact ⟨[], suffix_refl _, rfl, rfl, nofun, nofun⟩
  | append_singleton operations operation ih =>
    rw [BackendResponseOrder.operate, foldl_append, filterMap_append]
    exact ih.apply operation

/-- After every sequence of operations the two queues are in step. -/
theorem queues_in_step (operations : List OrderOperation) :
    let order := BackendResponseOrder.operate operations
    order.ordered.count .backend = order.pending.length ∧
      (∃ queue, queue <:+ operations.filterMap OrderOperation.registered ∧
        order.ordered = queue.map ordered ∧
        order.pending.map kind = requestKinds queue) ∧
      (∀ frame ∈ order.pending.tail, frame = .fresh frame.kind) ∧
      ∀ frame ∈ order.pending, frame.statusLine.length ≤ statusLineLimit ∧
        ∀ chunk, (frame.consume chunk).2.statusLine.length ≤ statusLineLimit := by
  obtain ⟨queue, isLast, orderedEq, tracks⟩ := lockstep_operate operations
  refine ⟨?_, ⟨queue, isLast, orderedEq, tracks.kinds⟩, tracks.waiting, fun frame found => ?_⟩
  · rw [orderedEq, count_backend_map, ← tracks.kinds, length_map]
  · have bounded := tracks.bounded frame found
    exact ⟨bounded, fun chunk => (consume_bounded bounded chunk).2⟩

end NntpProxy.Framing
