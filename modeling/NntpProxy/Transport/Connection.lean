import NntpProxy.Protocol.Status

/-!
# Pooled buffers and backend connections

A pooled buffer keeps its octets in an allocation of which a front part may be
hidden, and a backend connection keeps octets that were read too early in front
of its transport.  Both stand for plain octet lists, `visible` and `contents`.
Reading moves octets from the contents of a connection to the end of what a
buffer shows, and neither loses nor repeats any.
-/

namespace NntpProxy.Transport

open Protocol List

/-! ## Buffers -/

/-- The sizes of the buffers of a pool: the allocation and the limit for reads. -/
structure BufferPool where
  capacity : Nat
  bufferSize : Nat
  bufferSize_le : bufferSize ≤ capacity
  bufferSize_pos : 0 < bufferSize
  deriving DecidableEq, Repr

/-- A read buffer of a pool: the initialized part of the allocation and the offset
from which it is visible. -/
structure PooledBuffer (pool : BufferPool) where
  stored : Bytes
  visibleFrom : Nat
  visibleFrom_le : visibleFrom ≤ stored.length
  stored_le : stored.length ≤ pool.capacity
  deriving DecidableEq, Repr

/-- Take an empty buffer from the pool. -/
def BufferPool.acquire (pool : BufferPool) : PooledBuffer pool where
  stored := []
  visibleFrom := 0
  visibleFrom_le := Nat.zero_le _
  stored_le := Nat.zero_le _

variable {pool : BufferPool}

variable {buffer : PooledBuffer pool}

namespace PooledBuffer

/-- The octets a buffer shows. -/
def visible (buffer : PooledBuffer pool) : Bytes :=
  buffer.stored.drop buffer.visibleFrom

def initialized (buffer : PooledBuffer pool) : Nat :=
  buffer.stored.length - buffer.visibleFrom

@[simp]
theorem length_visible (buffer : PooledBuffer pool) : buffer.visible.length = buffer.initialized :=
  length_drop

/-- Forget the octets and keep the allocation. -/
def clear (buffer : PooledBuffer pool) : PooledBuffer pool :=
  { buffer with
    stored := []
    visibleFrom := 0
    visibleFrom_le := Nat.zero_le _
    stored_le := Nat.zero_le _ }

/-- Move the visible octets to the front of the allocation. -/
def compactVisible (buffer : PooledBuffer pool) : PooledBuffer pool :=
  { buffer with
    stored := buffer.visible
    visibleFrom := 0
    visibleFrom_le := Nat.zero_le _
    stored_le := by
      rw [length_visible]
      exact Nat.le_trans (Nat.sub_le _ _) buffer.stored_le }

/-- Make room behind the octets when there is none. -/
def compactVisibleIfTailFull (buffer : PooledBuffer pool) : PooledBuffer pool :=
  if buffer.visibleFrom ≠ 0 ∧ pool.capacity = buffer.stored.length then buffer.compactVisible
  else buffer

/-- Show only the octets from `start` to `stop`; the source panics on any other range. -/
def exposeInitializedRange (buffer : PooledBuffer pool) (start stop : Nat)
    (inside : start < stop ∧ stop ≤ buffer.initialized) : PooledBuffer pool :=
  { buffer with
    stored := buffer.stored.take (buffer.visibleFrom + stop)
    visibleFrom := buffer.visibleFrom + start
    visibleFrom_le := by
      have within := buffer.visibleFrom_le
      have bound := inside.2
      unfold initialized at bound
      rw [length_take]
      omega
    stored_le := by
      rw [length_take]
      exact Nat.le_trans (Nat.min_le_right _ _) buffer.stored_le }

/-- Append octets that fit behind the stored ones. -/
def append (buffer : PooledBuffer pool) (bytes : Bytes)
    (fits : buffer.stored.length + bytes.length ≤ pool.capacity) : PooledBuffer pool :=
  { buffer with
    stored := buffer.stored ++ bytes
    visibleFrom_le := by
      rw [length_append]
      exact Nat.le_trans buffer.visibleFrom_le (Nat.le_add_right _ _)
    stored_le := by rwa [length_append] }

@[simp]
theorem visible_compactVisible (buffer : PooledBuffer pool) :
    buffer.compactVisible.visible = buffer.visible :=
  rfl

@[simp]
theorem visible_compactVisibleIfTailFull (buffer : PooledBuffer pool) :
    buffer.compactVisibleIfTailFull.visible = buffer.visible := by
  unfold compactVisibleIfTailFull
  split
  · exact visible_compactVisible buffer
  · rfl

theorem visible_append (buffer : PooledBuffer pool) (bytes : Bytes)
    (fits : buffer.stored.length + bytes.length ≤ pool.capacity) :
    (buffer.append bytes fits).visible = buffer.visible ++ bytes :=
  drop_append_of_le_length buffer.visibleFrom_le

theorem visible_exposeInitializedRange (buffer : PooledBuffer pool) (start stop : Nat)
    (inside : start < stop ∧ stop ≤ buffer.initialized) :
    (buffer.exposeInitializedRange start stop inside).visible =
      (buffer.visible.take stop).drop start := by
  unfold visible exposeInitializedRange
  rw [← drop_drop, drop_take, Nat.add_sub_cancel_left]

@[simp]
theorem take_initialized (buffer : PooledBuffer pool) :
    buffer.visible.take buffer.initialized = buffer.visible :=
  take_of_length_le (Nat.le_of_eq buffer.length_visible)

theorem room_of_lt_readLimit (short : buffer.initialized < pool.bufferSize) :
    buffer.compactVisibleIfTailFull.stored.length < pool.capacity := by
  have limit := pool.bufferSize_le
  unfold compactVisibleIfTailFull
  split
  · change buffer.visible.length < _
    rw [length_visible]
    exact Nat.lt_of_lt_of_le short limit
  · rename_i notFull
    have stored := buffer.stored_le
    unfold initialized at short
    omega

end PooledBuffer

/-! ## Connections -/

/-- Limit for copied pending octets. -/
abbrev maxPendingBackendBytes : Nat := 128 * 1024

/-- Octets read too early: copied, or a range of a pooled buffer, read up to `pos`. -/
inductive PendingBackendInput (pool : BufferPool) where
  | copied (bytes : Bytes) (pos : Nat)
  | pooled (buffer : PooledBuffer pool) (start stop pos : Nat)
  deriving DecidableEq, Repr

variable {segment : PendingBackendInput pool}

namespace PendingBackendInput

/-- The octets of a segment that have not been read. -/
def left : PendingBackendInput pool → Bytes
  | copied bytes pos => bytes.drop pos
  | pooled buffer start stop pos => (buffer.visible.take stop).drop (start + pos)

/-- Read at most `room` octets of a segment. -/
def readInto (room : Nat) : PendingBackendInput pool → Bytes × PendingBackendInput pool
  | copied bytes pos =>
    let n := min (bytes.drop pos).length room
    ((bytes.drop pos).take n, copied bytes (pos + n))
  | pooled buffer start stop pos =>
    let available := (buffer.visible.take stop).drop (start + pos)
    let n := min available.length room
    (available.take n, pooled buffer start stop (pos + n))

/-- A pooled range lies inside its buffer. -/
def InBuffer : PendingBackendInput pool → Prop
  | copied _ _ => True
  | pooled buffer _ stop _ => stop ≤ buffer.initialized

theorem inBuffer_nil : ∀ segment ∈ ([] : List (PendingBackendInput pool)), segment.InBuffer :=
  nofun

theorem InBuffer.readInto (inBuffer : segment.InBuffer)
    (room : Nat) : (segment.readInto room).2.InBuffer := by
  cases segment with
  | copied bytes pos => trivial
  | pooled buffer start stop pos => exact inBuffer

private theorem take_min_length (bytes : Bytes) (room : Nat) :
    bytes.take (min bytes.length room) = bytes.take room := by
  rcases Nat.le_total bytes.length room with short | long
  · rw [Nat.min_eq_left short, take_length, take_of_length_le short]
  · rw [Nat.min_eq_right long]

private theorem drop_min_length (bytes : Bytes) (room : Nat) :
    bytes.drop (min bytes.length room) = bytes.drop room := by
  rcases Nat.le_total bytes.length room with short | long
  · rw [Nat.min_eq_left short, drop_length, drop_eq_nil_of_le short]
  · rw [Nat.min_eq_right long]

theorem readInto_eq (room : Nat) (segment : PendingBackendInput pool) :
    (segment.readInto room).1 = segment.left.take room ∧
      (segment.readInto room).2.left = segment.left.drop room := by
  cases segment with
  | copied bytes pos =>
    constructor
    · exact take_min_length _ _
    · simp only [readInto, left]
      rw [← drop_drop, drop_min_length]
  | pooled buffer start stop pos =>
    constructor
    · exact take_min_length _ _
    · simp only [readInto, left]
      rw [← Nat.add_assoc, ← drop_drop, drop_min_length]

end PendingBackendInput

/-- A backend connection: early octets in front of the reads that the transport
will return. -/
structure ConnectionStream (pool : BufferPool) where
  pendingInput : List (PendingBackendInput pool)
  transport : List Bytes
  readFails : Bool
  pending_nonempty : ∀ segment ∈ pendingInput, segment.left ≠ []
  pending_inBuffer : ∀ segment ∈ pendingInput, segment.InBuffer
  transport_nonempty : ∀ read ∈ transport, read ≠ []
  deriving DecidableEq, Repr

variable {conn : ConnectionStream pool}

variable {bytes : Bytes} {rest : List (PendingBackendInput pool)} {next : ConnectionStream pool}

namespace ConnectionStream

/-- The octets a connection still delivers. -/
def contents (conn : ConnectionStream pool) : Bytes :=
  (conn.pendingInput.map PendingBackendInput.left).flatten ++ conn.transport.flatten

def pendingBytesLen (conn : ConnectionStream pool) : Nat :=
  (conn.pendingInput.map fun segment => segment.left.length).sum

def hasPendingBytes (conn : ConnectionStream pool) : Bool :=
  conn.pendingInput.any fun segment => segment.left ≠ []

theorem pendingBytesLen_eq_zero_iff (conn : ConnectionStream pool) :
    conn.pendingBytesLen = 0 ↔ conn.hasPendingBytes = false := by
  unfold pendingBytesLen hasPendingBytes
  induction conn.pendingInput with
  | nil => simp
  | cons segment rest ih =>
    rw [map_cons, sum_cons, Nat.add_eq_zero_iff, ih]
    simp

/-- The pending segments after reading from the first one. -/
def afterSegment (segment : PendingBackendInput pool) (rest : List (PendingBackendInput pool)) :
    List (PendingBackendInput pool) :=
  if segment.left = [] then rest else segment :: rest

theorem mem_afterSegment {later : PendingBackendInput pool}
    (laterMem : later ∈ afterSegment segment rest) :
    later ∈ rest ∨ (later = segment ∧ segment.left ≠ []) := by
  unfold afterSegment at laterMem
  split at laterMem
  · exact Or.inl laterMem
  · rename_i unread
    rcases mem_cons.mp laterMem with isSegment | inRest
    · exact Or.inr ⟨isSegment, unread⟩
    · exact Or.inl inRest

/-- Read at most `room` octets; no octets mean the end of the stream. -/
def pollRead (conn : ConnectionStream pool) (room : Nat) : Bytes × ConnectionStream pool :=
  if room = 0 then ([], conn)
  else
    match pendingEq : conn.pendingInput, transportEq : conn.transport with
    | segment :: rest, _ =>
      ((segment.readInto room).1,
        { conn with
          pendingInput := afterSegment (segment.readInto room).2 rest
          pending_nonempty := by
            have nonempty := conn.pending_nonempty
            rw [pendingEq] at nonempty
            intro later laterMem
            rcases mem_afterSegment laterMem with inRest | ⟨rfl, unread⟩
            · exact nonempty later (mem_cons_of_mem _ inRest)
            · exact unread
          pending_inBuffer := by
            have inBuffer := conn.pending_inBuffer
            rw [pendingEq] at inBuffer
            intro later laterMem
            rcases mem_afterSegment laterMem with inRest | ⟨rfl, -⟩
            · exact inBuffer later (mem_cons_of_mem _ inRest)
            · exact (inBuffer segment mem_cons_self).readInto room })
    | [], [] => ([], conn)
    | [], read :: reads =>
      (read.take room,
        { conn with
          transport := if read.length ≤ room then reads else read.drop room :: reads
          transport_nonempty := by
            have nonempty := conn.transport_nonempty
            rw [transportEq] at nonempty
            intro later laterMem
            split at laterMem
            · exact nonempty later (mem_cons_of_mem _ laterMem)
            · rename_i long
              rcases mem_cons.mp laterMem with rfl | inReads
              · rw [Ne, drop_eq_nil_iff]
                exact long
              · exact nonempty later (mem_cons_of_mem _ inReads) })

theorem flatten_afterSegment (segment : PendingBackendInput pool)
    (rest : List (PendingBackendInput pool)) :
    ((afterSegment segment rest).map PendingBackendInput.left).flatten =
      segment.left ++ (rest.map PendingBackendInput.left).flatten := by
  unfold afterSegment
  split
  · rename_i usedUp
    rw [usedUp, nil_append]
  · rfl

theorem contents_pollRead (conn : ConnectionStream pool) (room : Nat) :
    (conn.pollRead room).1 ++ (conn.pollRead room).2.contents = conn.contents := by
  unfold pollRead
  split
  · rfl
  · split
    · rename_i segment rest pendingEq
      have parts := segment.readInto_eq room
      simp only [contents, flatten_afterSegment, pendingEq, map_cons, flatten_cons,
        parts.1, parts.2]
      rw [← append_assoc, ← append_assoc, take_append_drop]
    · rfl
    · rename_i read reads pendingEq transportEq
      simp only [contents, pendingEq, transportEq, map_nil, flatten_nil, nil_append,
        flatten_cons]
      split
      · rename_i short
        rw [take_of_length_le short]
      · rw [flatten_cons, ← append_assoc, take_append_drop]

theorem length_pollRead (conn : ConnectionStream pool) (room : Nat) :
    (conn.pollRead room).1.length ≤ room := by
  unfold pollRead
  split
  · exact Nat.zero_le _
  · split
    · rename_i segment rest _
      rw [(segment.readInto_eq room).1, length_take]
      exact Nat.min_le_left _ _
    · exact Nat.zero_le _
    · rw [length_take]
      exact Nat.min_le_left _ _

theorem pollRead_eq_nil_iff {room : Nat} (hasRoom : room ≠ 0) :
    (conn.pollRead room).1 = [] ↔ conn.contents = [] := by
  constructor
  · intro nothing
    unfold pollRead at nothing
    rw [if_neg hasRoom] at nothing
    split at nothing
    · rename_i segment rest pendingEq
      have nonempty := conn.pending_nonempty segment (by rw [pendingEq]; exact mem_cons_self)
      simp only [(segment.readInto_eq room).1, take_eq_nil_iff, hasRoom, nonempty, or_self]
        at nothing
    · rename_i pendingEq transportEq
      simp [contents, pendingEq, transportEq]
    · rename_i read reads pendingEq transportEq
      have nonempty := conn.transport_nonempty read (by rw [transportEq]; exact mem_cons_self)
      simp only [take_eq_nil_iff, hasRoom, nonempty, or_self] at nothing
  · intro ended
    have whole := conn.contents_pollRead room
    rw [ended, append_eq_nil_iff] at whole
    exact whole.1

/-! ## Returning octets -/

/-- Put a segment in front of everything pending; nothing is queued for no octets. -/
def queueFirst (conn : ConnectionStream pool) (segment : PendingBackendInput pool)
    (inBuffer : segment.InBuffer) : ConnectionStream pool :=
  { conn with
    pendingInput := afterSegment segment conn.pendingInput
    pending_nonempty := by
      intro later laterMem
      rcases mem_afterSegment laterMem with inRest | ⟨rfl, unread⟩
      · exact conn.pending_nonempty later inRest
      · exact unread
    pending_inBuffer := by
      intro later laterMem
      rcases mem_afterSegment laterMem with inRest | ⟨rfl, -⟩
      · exact conn.pending_inBuffer later inRest
      · exact inBuffer }

theorem contents_queueFirst (conn : ConnectionStream pool) (segment : PendingBackendInput pool)
    (inBuffer : segment.InBuffer) :
    (conn.queueFirst segment inBuffer).contents = segment.left ++ conn.contents := by
  simp only [contents, queueFirst, flatten_afterSegment, append_assoc]

/-- Queue copied octets; too many are an error. -/
def queuePendingBytesFirst (conn : ConnectionStream pool) (bytes : Bytes) :
    Option (ConnectionStream pool) :=
  if bytes = [] then some conn
  else if conn.pendingBytesLen + bytes.length ≤ maxPendingBackendBytes then
    some (conn.queueFirst (.copied bytes 0) trivial)
  else none

/-- Put a segment behind everything pending. -/
def queueLast (conn : ConnectionStream pool) (segment : PendingBackendInput pool)
    (inBuffer : segment.InBuffer) (unread : segment.left ≠ []) : ConnectionStream pool :=
  { conn with
    pendingInput := conn.pendingInput ++ [segment]
    pending_nonempty := by
      intro later laterMem
      rcases mem_append.mp laterMem with inFront | isLast
      · exact conn.pending_nonempty later inFront
      · rw [mem_singleton.mp isLast]
        exact unread
    pending_inBuffer := by
      intro later laterMem
      rcases mem_append.mp laterMem with inFront | isLast
      · exact conn.pending_inBuffer later inFront
      · rw [mem_singleton.mp isLast]
        exact inBuffer }

/-- Queue copied octets behind those that are pending; too many are an error. -/
def queuePendingBytes (conn : ConnectionStream pool) (bytes : Bytes) :
    Option (ConnectionStream pool) :=
  if nothing : bytes = [] then some conn
  else if conn.pendingBytesLen + bytes.length ≤ maxPendingBackendBytes then
    some (conn.queueLast (.copied bytes 0) trivial nothing)
  else none

def clearPendingBytes (conn : ConnectionStream pool) : ConnectionStream pool :=
  { conn with
    pendingInput := []
    pending_nonempty := nofun
    pending_inBuffer := nofun }

/-- Queue a range of a pooled buffer; the range must lie inside the buffer. -/
def queuePooledPendingBytesFirst (conn : ConnectionStream pool) (buffer : PooledBuffer pool)
    (start stop : Nat) : Option (ConnectionStream pool) :=
  if stop < start then none
  else if start = stop then some conn
  else if outside : buffer.initialized < stop then none
  else some (conn.queueFirst (.pooled buffer start stop 0) (Nat.le_of_not_lt outside))

theorem contents_queuePendingBytesFirst (queued : conn.queuePendingBytesFirst bytes = some next) :
    next.contents = bytes ++ conn.contents := by
  unfold queuePendingBytesFirst at queued
  split at queued
  · rename_i nothing
    rw [← Option.some.inj queued, nothing, nil_append]
  · split at queued
    · rw [← Option.some.inj queued]
      exact contents_queueFirst conn (.copied bytes 0) trivial
    · simp at queued

/-! ## Octets that were read early -/

/-- The octets that were read early. -/
def pendingBytes (conn : ConnectionStream pool) : Bytes :=
  (conn.pendingInput.map PendingBackendInput.left).flatten

@[simp]
theorem length_pendingBytes (conn : ConnectionStream pool) :
    conn.pendingBytes.length = conn.pendingBytesLen := by
  simp [pendingBytes, pendingBytesLen, Function.comp_def]

/-- Octets were put back in front of those that were read early. -/
structure PutsBack (conn : ConnectionStream pool) (bytes : Bytes)
    (next : ConnectionStream pool) : Prop where
  pendingBytes : next.pendingBytes = bytes ++ conn.pendingBytes
  transport : next.transport = conn.transport

theorem PutsBack.contents
    (puts : conn.PutsBack bytes next) : next.contents = bytes ++ conn.contents := by
  change next.pendingBytes ++ next.transport.flatten = bytes ++ (conn.pendingBytes ++ _)
  rw [puts.pendingBytes, puts.transport, append_assoc]

theorem putsBack_nil (conn : ConnectionStream pool) : conn.PutsBack [] conn :=
  ⟨rfl, rfl⟩

theorem putsBack_queueFirst (conn : ConnectionStream pool) (segment : PendingBackendInput pool)
    (inBuffer : segment.InBuffer) : conn.PutsBack segment.left (conn.queueFirst segment inBuffer) :=
  ⟨flatten_afterSegment segment conn.pendingInput, rfl⟩

theorem putsBack_queuePendingBytesFirst
    (few : (bytes ++ conn.pendingBytes).length ≤ maxPendingBackendBytes) :
    ∃ next, conn.queuePendingBytesFirst bytes = some next ∧ conn.PutsBack bytes next := by
  unfold queuePendingBytesFirst
  split
  next nothing =>
    subst nothing
    exact ⟨conn, rfl, conn.putsBack_nil⟩
  next =>
    rw [length_append, length_pendingBytes, Nat.add_comm] at few
    rw [if_pos few]
    exact ⟨_, rfl, conn.putsBack_queueFirst (.copied bytes 0) trivial⟩

theorem putsBack_queuePooledPendingBytesFirst (conn : ConnectionStream pool)
    (buffer : PooledBuffer pool) {start : Nat} (inside : start ≤ buffer.initialized) :
    ∃ next, conn.queuePooledPendingBytesFirst buffer start buffer.initialized = some next ∧
      conn.PutsBack (buffer.visible.drop start) next := by
  unfold queuePooledPendingBytesFirst
  rw [if_neg (Nat.not_lt.mpr inside)]
  split
  next nothing =>
    have noOctets : buffer.visible.drop start = [] := by
      rw [drop_eq_nil_iff, PooledBuffer.length_visible]
      exact Nat.le_of_eq nothing.symm
    rw [noOctets]
    exact ⟨conn, rfl, conn.putsBack_nil⟩
  next =>
    rw [dif_neg (Nat.lt_irrefl _)]
    have puts := conn.putsBack_queueFirst (.pooled buffer start buffer.initialized 0)
      (Nat.le_refl buffer.initialized)
    rw [PendingBackendInput.left, take_of_length_le (Nat.le_of_eq buffer.length_visible)]
      at puts
    exact ⟨_, rfl, puts⟩

end ConnectionStream

/-! ## Reading into a buffer -/

namespace PooledBuffer

/-- The room for a read of at most `readLen` octets. -/
def spareRoom (buffer : PooledBuffer pool) (readLen : Nat) : Nat :=
  min readLen (pool.capacity - buffer.stored.length)

theorem pollRead_fits (buffer : PooledBuffer pool) (conn : ConnectionStream pool) (readLen : Nat) :
    buffer.stored.length + (conn.pollRead (buffer.spareRoom readLen)).1.length ≤
      pool.capacity := by
  have short := conn.length_pollRead (buffer.spareRoom readLen)
  have free : buffer.spareRoom readLen ≤ pool.capacity - buffer.stored.length :=
    Nat.min_le_right _ _
  have stored := buffer.stored_le
  omega

/-- Read at most `readLen` octets into the free end of the allocation.  The result
holds the octets read. -/
def readIntoSpare (buffer : PooledBuffer pool) (conn : ConnectionStream pool) (readLen : Nat) :
    Bytes × PooledBuffer pool × ConnectionStream pool :=
  ((conn.pollRead (buffer.spareRoom readLen)).1,
    buffer.append _ (buffer.pollRead_fits conn readLen),
    (conn.pollRead (buffer.spareRoom readLen)).2)

/-- Replace the octets of a buffer by a read. -/
def readFrom (buffer : PooledBuffer pool) (conn : ConnectionStream pool) :
    Bytes × PooledBuffer pool × ConnectionStream pool :=
  buffer.clear.readIntoSpare conn pool.bufferSize

/-- Append a read to the octets of a buffer. -/
def readMore (buffer : PooledBuffer pool) (conn : ConnectionStream pool) :
    Bytes × PooledBuffer pool × ConnectionStream pool :=
  buffer.compactVisibleIfTailFull.readIntoSpare conn (pool.bufferSize - buffer.initialized)

/-- Whether more may be appended to octets that were retained in place. -/
def retainedAppendPermit (buffer : PooledBuffer pool) : Bool :=
  decide (buffer.visibleFrom ≠ 0 ∧ buffer.initialized < pool.bufferSize)

/-- A read moved octets from the contents of the connection to a buffer that
showed `shown`. -/
structure ReadTo (shown : Bytes) (conn : ConnectionStream pool)
    (result : Bytes × PooledBuffer pool × ConnectionStream pool) : Prop where
  visible : result.2.1.visible = shown ++ result.1
  contents : result.1 ++ result.2.2.contents = conn.contents

section

variable (buffer : PooledBuffer pool) (conn : ConnectionStream pool)

theorem readTo_readIntoSpare
    (readLen : Nat) : ReadTo buffer.visible conn (buffer.readIntoSpare conn readLen) :=
  ⟨visible_append _ _ (buffer.pollRead_fits conn readLen), conn.contents_pollRead _⟩

theorem readTo_readFrom :
    ReadTo [] conn (buffer.readFrom conn) :=
  readTo_readIntoSpare buffer.clear conn _

theorem readTo_readMore :
    ReadTo buffer.visible conn (buffer.readMore conn) := by
  have read := readTo_readIntoSpare buffer.compactVisibleIfTailFull conn
    (pool.bufferSize - buffer.initialized)
  rwa [visible_compactVisibleIfTailFull] at read

theorem length_readIntoSpare_le
    (readLen : Nat) : (buffer.readIntoSpare conn readLen).1.length ≤ readLen :=
  Nat.le_trans (conn.length_pollRead _) (Nat.min_le_left _ _)

theorem initialized_readFrom_le :
    (buffer.readFrom conn).2.1.initialized ≤ pool.bufferSize := by
  exact length_readIntoSpare_le _ _ _

end

theorem initialized_readMore_le (conn : ConnectionStream pool)
    (limited : buffer.initialized ≤ pool.bufferSize) :
    (buffer.readMore conn).2.1.initialized ≤ pool.bufferSize := by
  have short : (buffer.readMore conn).1.length ≤ pool.bufferSize - buffer.initialized :=
    length_readIntoSpare_le _ _ _
  rw [← length_visible, (buffer.readTo_readMore conn).visible, length_append, length_visible]
  omega

theorem readFrom_eq_nil_iff (buffer : PooledBuffer pool) (conn : ConnectionStream pool) :
    (buffer.readFrom conn).1 = [] ↔ conn.contents = [] := by
  apply ConnectionStream.pollRead_eq_nil_iff
  have limit := pool.bufferSize_le
  have positive := pool.bufferSize_pos
  change min pool.bufferSize (pool.capacity - 0) ≠ 0
  omega

theorem readMore_eq_nil_iff (conn : ConnectionStream pool)
    (short : buffer.initialized < pool.bufferSize) :
    (buffer.readMore conn).1 = [] ↔ conn.contents = [] := by
  apply ConnectionStream.pollRead_eq_nil_iff
  have room := room_of_lt_readLimit short
  unfold spareRoom
  omega

end PooledBuffer

/-! ## Taking queued input -/

namespace ConnectionStream

/-- Take the first pending segment when it is pooled, with the range left to read. -/
def takeLeadingPooledPendingInput (conn : ConnectionStream pool) :
    Option (PooledBuffer pool × Nat × Nat) × ConnectionStream pool :=
  match pendingEq : conn.pendingInput with
  | .pooled buffer start stop pos :: rest =>
    (some (buffer, start + pos, stop),
      { conn with
        pendingInput := rest
        pending_nonempty := by
          intro later laterMem
          apply conn.pending_nonempty later
          rw [pendingEq]
          exact mem_cons_of_mem _ laterMem
        pending_inBuffer := by
          intro later laterMem
          apply conn.pending_inBuffer later
          rw [pendingEq]
          exact mem_cons_of_mem _ laterMem })
  | _ => (none, conn)

/-- A pooled segment in front has octets left, which its buffer holds. -/
theorem leadingPooled_inside {start stop pos : Nat}
    (pendingEq : conn.pendingInput = .pooled buffer start stop pos :: rest) :
    start + pos < stop ∧ stop ≤ buffer.initialized := by
  have first : PendingBackendInput.pooled buffer start stop pos ∈ conn.pendingInput := by
    rw [pendingEq]
    exact mem_cons_self
  have inBuffer : stop ≤ buffer.initialized := conn.pending_inBuffer _ first
  have unread : (buffer.visible.take stop).drop (start + pos) ≠ [] :=
    conn.pending_nonempty _ first
  rw [Ne, drop_eq_nil_iff, length_take] at unread
  omega

end ConnectionStream

end NntpProxy.Transport
