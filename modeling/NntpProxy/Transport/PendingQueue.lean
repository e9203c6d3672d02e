import NntpProxy.Transport.Connection

/-!
# Pending input as one queue

The pending input of a backend connection is a list of segments, copied or pooled, each with a
cursor.  To its callers it is one queue of octets in front of the transport: octets are put at
either end, a pooled range is taken from the front, and reads empty the queue before they
reach the transport.
-/

namespace NntpProxy.Transport

open Protocol PendingBackendInput

variable {pool : BufferPool}

/-! ## Operations -/

/-- The operations on the pending input of a connection. -/
inductive PendingOperation (pool : BufferPool) where
  | queueFirst (bytes : Bytes)
  | queueLast (bytes : Bytes)
  | queuePooledFirst (buffer : PooledBuffer pool) (start stop : Nat)
  | takeLeadingPooled
  | clear
  | read (room : Nat)
  deriving DecidableEq, Repr

/-- What an operation tells its caller. -/
inductive PendingAnswer (pool : BufferPool) where
  | queued (succeeded : Bool)
  | taken (range : Option (PooledBuffer pool × Nat × Nat))
  | cleared
  | read (bytes : Bytes)
  deriving DecidableEq, Repr

namespace ConnectionStream

/-- The connection after an attempt to queue octets: a failure changes nothing. -/
def afterQueueing (conn : ConnectionStream pool) (queued : Option (ConnectionStream pool)) :
    PendingAnswer pool × ConnectionStream pool :=
  (.queued queued.isSome, queued.getD conn)

def operate (conn : ConnectionStream pool) :
    PendingOperation pool → PendingAnswer pool × ConnectionStream pool
  | .queueFirst bytes => conn.afterQueueing (conn.queuePendingBytesFirst bytes)
  | .queueLast bytes => conn.afterQueueing (conn.queuePendingBytes bytes)
  | .queuePooledFirst buffer start stop =>
    conn.afterQueueing (conn.queuePooledPendingBytesFirst buffer start stop)
  | .takeLeadingPooled =>
    (.taken conn.takeLeadingPooledPendingInput.1, conn.takeLeadingPooledPendingInput.2)
  | .clear => (.cleared, conn.clearPendingBytes)
  | .read room => (.read (conn.pollRead room).1, (conn.pollRead room).2)

end ConnectionStream

/-- An operation with its answer and the pending length that is reported after it. -/
structure PendingEvent (pool : BufferPool) where
  operation : PendingOperation pool
  answer : PendingAnswer pool
  pendingLen : Nat
  deriving DecidableEq, Repr

namespace ConnectionStream

def event (conn : ConnectionStream pool) (operation : PendingOperation pool) : PendingEvent pool :=
  ⟨operation, (conn.operate operation).1, (conn.operate operation).2.pendingBytesLen⟩

/-- The events of some operations and the connection after them. -/
def operateAll (conn : ConnectionStream pool) :
    List (PendingOperation pool) → List (PendingEvent pool) × ConnectionStream pool
  | [] => ([], conn)
  | operation :: operations =>
    let rest := (conn.operate operation).2.operateAll operations
    (conn.event operation :: rest.1, rest.2)

end ConnectionStream

/-! ## The queue -/

/-- A queue of octets in front of the octets of a transport. -/
structure ByteQueue where
  queued : Bytes
  transport : Bytes
  deriving DecidableEq, Repr

/-- The octets of a range of a buffer. -/
def PooledBuffer.range (buffer : PooledBuffer pool) (start stop : Nat) : Bytes :=
  (buffer.visible.take stop).drop start

/-- What an operation does to a queue.  A queue refuses copied octets only when they are too many
and a range only when it is none of its buffer; a read takes octets of the queue, at least
one, and reaches the transport when the queue is empty. -/
inductive QueueStep :
    ByteQueue → PendingOperation pool → PendingAnswer pool → ByteQueue → Prop where
  | queuedFirst (queue : ByteQueue) (bytes : Bytes) :
      QueueStep queue (.queueFirst bytes) (.queued true)
        { queue with queued := bytes ++ queue.queued }
  | queuedLast (queue : ByteQueue) (bytes : Bytes) :
      QueueStep queue (.queueLast bytes) (.queued true)
        { queue with queued := queue.queued ++ bytes }
  | queuedPooled (queue : ByteQueue) (buffer : PooledBuffer pool) {start stop : Nat}
      (inOrder : start ≤ stop) (inside : start = stop ∨ stop ≤ buffer.initialized) :
      QueueStep queue (.queuePooledFirst buffer start stop) (.queued true)
        { queue with queued := buffer.range start stop ++ queue.queued }
  | refusedFirst (queue : ByteQueue) (bytes : Bytes)
      (tooMany : maxPendingBackendBytes < queue.queued.length + bytes.length) :
      QueueStep queue (.queueFirst bytes) (.queued false) queue
  | refusedLast (queue : ByteQueue) (bytes : Bytes)
      (tooMany : maxPendingBackendBytes < queue.queued.length + bytes.length) :
      QueueStep queue (.queueLast bytes) (.queued false) queue
  | refusedPooled (queue : ByteQueue) (buffer : PooledBuffer pool) {start stop : Nat}
      (noRange : stop < start ∨ buffer.initialized < stop) :
      QueueStep queue (.queuePooledFirst buffer start stop) (.queued false) queue
  | taken (queue : ByteQueue) (buffer : PooledBuffer pool) {start stop : Nat}
      (inside : start < stop ∧ stop ≤ buffer.initialized) :
      QueueStep { queue with queued := buffer.range start stop ++ queue.queued }
        .takeLeadingPooled (.taken (some (buffer, start, stop))) queue
  | notTaken (queue : ByteQueue) : QueueStep queue .takeLeadingPooled (.taken none) queue
  | cleared (queue : ByteQueue) : QueueStep queue .clear .cleared { queue with queued := [] }
  | readQueued (queue : ByteQueue) {bytes : Bytes} {room : Nat} (some : bytes ≠ [])
      (fits : bytes.length ≤ room) :
      QueueStep { queue with queued := bytes ++ queue.queued } (.read room) (.read bytes) queue
  | readTransport {bytes rest : Bytes} {room : Nat} (fits : bytes.length ≤ room)
      (ended : bytes = [] → rest = []) :
      QueueStep ⟨[], bytes ++ rest⟩ (.read room) (.read bytes) ⟨[], rest⟩
  | readNothing (queue : ByteQueue) : QueueStep queue (.read 0) (.read []) queue

/-- Events that a queue allows, each with the length of the queue behind it. -/
inductive QueueRun : ByteQueue → List (PendingEvent pool) → ByteQueue → Prop where
  | nil (queue : ByteQueue) : QueueRun queue [] queue
  | cons {queue next last : ByteQueue} {event : PendingEvent pool}
      {events : List (PendingEvent pool)}
      (step : QueueStep queue event.operation event.answer next)
      (lengthEq : event.pendingLen = next.queued.length) (rest : QueueRun next events last) :
      QueueRun queue (event :: events) last

variable (conn : ConnectionStream pool)

namespace ConnectionStream

/-- The queue that a connection stands for. -/
def byteQueue (conn : ConnectionStream pool) : ByteQueue :=
  ⟨conn.pendingBytes, conn.transport.flatten⟩

theorem PutsBack.byteQueue {conn next : ConnectionStream pool} {bytes : Bytes}
    (puts : conn.PutsBack bytes next) :
    next.byteQueue = { conn.byteQueue with queued := bytes ++ conn.byteQueue.queued } := by
  simp only [ConnectionStream.byteQueue, puts.pendingBytes, puts.transport]

theorem byteQueue_queueLast (segment : PendingBackendInput pool) (inBuffer : segment.InBuffer)
    (unread : segment.left ≠ []) :
    (conn.queueLast segment inBuffer unread).byteQueue =
      { conn.byteQueue with queued := conn.byteQueue.queued ++ segment.left } := by
  simp [byteQueue, pendingBytes, queueLast]

theorem queueStep_queueFirst (bytes : Bytes) :
    QueueStep conn.byteQueue (.queueFirst bytes) (conn.operate (.queueFirst bytes)).1
      (conn.operate (.queueFirst bytes)).2.byteQueue := by
  simp only [operate, afterQueueing, queuePendingBytesFirst]
  split
  next nothing =>
    subst nothing
    exact .queuedFirst _ []
  next =>
    split
    next few =>
      have puts := conn.putsBack_queueFirst (.copied bytes 0) trivial
      rw [Option.getD_some, puts.byteQueue]
      exact .queuedFirst _ bytes
    next tooMany =>
      rw [Nat.not_le, ← length_pendingBytes] at tooMany
      exact .refusedFirst _ bytes tooMany

theorem queueStep_queueLast (bytes : Bytes) :
    QueueStep conn.byteQueue (.queueLast bytes) (conn.operate (.queueLast bytes)).1
      (conn.operate (.queueLast bytes)).2.byteQueue := by
  simp only [operate, queuePendingBytes]
  split
  next nothing =>
    have step : QueueStep conn.byteQueue (.queueLast [] : PendingOperation pool) _ _ :=
      .queuedLast conn.byteQueue []
    rw [List.append_nil] at step
    rw [nothing]
    exact step
  next unread =>
    split
    next few =>
      have lastEq := conn.byteQueue_queueLast (.copied bytes 0) trivial unread
      exact (congrArg (QueueStep conn.byteQueue _ _) lastEq).mpr (.queuedLast _ bytes)
    next tooMany =>
      rw [Nat.not_le, ← length_pendingBytes] at tooMany
      exact .refusedLast _ bytes tooMany

theorem queueStep_queuePooledFirst (buffer : PooledBuffer pool) (start stop : Nat) :
    QueueStep conn.byteQueue (.queuePooledFirst buffer start stop)
      (conn.operate (.queuePooledFirst buffer start stop)).1
      (conn.operate (.queuePooledFirst buffer start stop)).2.byteQueue := by
  simp only [operate, afterQueueing, queuePooledPendingBytesFirst]
  split
  next reversed => exact .refusedPooled _ buffer (Or.inl reversed)
  next inOrder =>
    split
    next isEmpty =>
      have step := QueueStep.queuedPooled conn.byteQueue buffer (Nat.le_of_not_lt inOrder)
        (Or.inl isEmpty)
      have noOctets : buffer.range start stop = [] := by
        rw [PooledBuffer.range, isEmpty, List.drop_eq_nil_iff, List.length_take]
        exact Nat.min_le_left _ _
      rw [noOctets] at step
      exact step
    next =>
      split
      next outside => exact .refusedPooled _ buffer (Or.inr outside)
      next inside =>
        have puts := conn.putsBack_queueFirst (.pooled buffer start stop 0)
          (Nat.le_of_not_lt inside)
        rw [Option.getD_some, puts.byteQueue]
        exact .queuedPooled _ buffer (Nat.le_of_not_lt inOrder) (Or.inr (Nat.le_of_not_lt inside))

theorem queueStep_takeLeadingPooled :
    QueueStep conn.byteQueue .takeLeadingPooled (conn.operate .takeLeadingPooled).1
      (conn.operate .takeLeadingPooled).2.byteQueue := by
  simp only [operate, takeLeadingPooledPendingInput]
  split
  next buffer start stop pos rest pendingEq =>
    have queueEq : conn.byteQueue =
        ⟨buffer.range (start + pos) stop ++ (rest.map left).flatten,
          conn.transport.flatten⟩ := by
      simp [byteQueue, pendingBytes, pendingEq, left, PooledBuffer.range]
    rw [queueEq]
    exact .taken ⟨_, _⟩ buffer (leadingPooled_inside pendingEq)
  next => exact .notTaken _

theorem queueStep_read (room : Nat) :
    QueueStep conn.byteQueue (.read room) (conn.operate (.read room)).1
      (conn.operate (.read room)).2.byteQueue := by
  simp only [operate, pollRead]
  split
  next noRoom =>
    rw [noRoom]
    exact .readNothing _
  next hasRoom =>
    split
    next segment rest pendingEq =>
      rcases segment.readInto_eq room with ⟨readEq, leftEq⟩
      have unread : segment.left ≠ [] := by
        apply conn.pending_nonempty segment
        rw [pendingEq]
        exact List.mem_cons_self
      have queueEq : conn.byteQueue =
          ⟨segment.left.take room ++
            (segment.left.drop room ++ (rest.map left).flatten),
            conn.transport.flatten⟩ := by
        rw [← List.append_assoc]
        simp [byteQueue, pendingBytes, pendingEq]
      simp only [byteQueue, pendingBytes, flatten_afterSegment] at queueEq ⊢
      rw [queueEq, readEq, leftEq]
      refine .readQueued ⟨_, _⟩ ?_ (List.length_take_le _ _)
      simp [unread, hasRoom]
    next pendingEq transportEq =>
      simp only [byteQueue, pendingBytes, pendingEq, transportEq]
      have step : QueueStep ⟨[], [] ++ []⟩ (.read room : PendingOperation pool) (.read [])
          ⟨[], []⟩ := .readTransport (Nat.zero_le _) fun _ => rfl
      exact step
    next read reads pendingEq transportEq =>
      have unread : read ≠ [] := by
        apply conn.transport_nonempty read
        rw [transportEq]
        exact List.mem_cons_self
      have restEq : (if read.length ≤ room then reads else read.drop room :: reads).flatten =
          read.drop room ++ reads.flatten := by
        split
        next short => rw [List.drop_eq_nil_of_le short, List.nil_append]
        next => rw [List.flatten_cons]
      have streamEq : conn.byteQueue =
          ⟨[], read.take room ++ (read.drop room ++ reads.flatten)⟩ := by
        rw [← List.append_assoc]
        simp [byteQueue, pendingBytes, pendingEq, transportEq]
      simp only [byteQueue, pendingEq, restEq] at streamEq ⊢
      rw [streamEq]
      refine .readTransport (List.length_take_le _ _) ?_
      simp [unread, hasRoom]

theorem queueStep_operate (operation : PendingOperation pool) :
    QueueStep conn.byteQueue operation (conn.operate operation).1
      (conn.operate operation).2.byteQueue := by
  cases operation with
  | queueFirst bytes => exact conn.queueStep_queueFirst bytes
  | queueLast bytes => exact conn.queueStep_queueLast bytes
  | queuePooledFirst buffer start stop => exact conn.queueStep_queuePooledFirst buffer start stop
  | takeLeadingPooled => exact conn.queueStep_takeLeadingPooled
  | clear => exact .cleared _
  | read room => exact conn.queueStep_read room

/-- Through any operations the pending input of a connection is one queue of octets in front of
the transport. -/
theorem operateAll_queueRun (conn : ConnectionStream pool)
    (operations : List (PendingOperation pool)) :
    QueueRun conn.byteQueue (conn.operateAll operations).1
      (conn.operateAll operations).2.byteQueue := by
  induction operations generalizing conn with
  | nil => exact .nil _
  | cons operation operations ih =>
    refine .cons (conn.queueStep_operate operation) ?_ (ih _)
    exact (length_pendingBytes _).symm

end ConnectionStream

end NntpProxy.Transport
