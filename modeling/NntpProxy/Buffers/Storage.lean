import NntpProxy.Protocol.Status

/-!
# The storage of a pooled buffer

A pooled buffer shows the end of the initialized part of its allocation.  A read replaces what
it shows, an append adds to it, and both stop at the read limit.  Appending keeps the visible
octets in place; only when the allocation is filled to its end they are moved to its front.
Copied octets may pass the read limit, and an extension may replace the allocation by a larger
one.
-/

namespace NntpProxy.Buffers

open Protocol List

/-! ## Storage -/

/-- An allocation with its initialized octets and the offset from which they are visible. -/
@[ext]
structure BufferStorage where
  bytes : Bytes
  capacity : Nat
  visibleFrom : Nat
  visibleFrom_le : visibleFrom ≤ bytes.length
  bytes_le : bytes.length ≤ capacity
  deriving Repr

instance : DecidableEq BufferStorage := fun _ _ => decidable_of_iff _ BufferStorage.ext_iff.symm

variable (storage : BufferStorage)

namespace BufferStorage

/-- An empty allocation. -/
def new (capacity : Nat) : BufferStorage :=
  ⟨[], capacity, 0, Nat.le_refl 0, Nat.zero_le _⟩

def asSlice (storage : BufferStorage) : Bytes :=
  storage.bytes.drop storage.visibleFrom

def initializedLen (storage : BufferStorage) : Nat :=
  storage.bytes.length - storage.visibleFrom

@[simp]
theorem length_asSlice : storage.asSlice.length = storage.initializedLen :=
  length_drop

section

variable (storage : BufferStorage)

def clear : BufferStorage :=
  new storage.capacity

def compactVisible : BufferStorage :=
  if storage.visibleFrom = 0 then storage
  else
    { storage with
      bytes := storage.asSlice
      visibleFrom := 0
      visibleFrom_le := Nat.zero_le _
      bytes_le := by
        rw [length_asSlice]
        exact Nat.le_trans (Nat.sub_le _ _) storage.bytes_le }

def compactVisibleIfTailFull : BufferStorage :=
  if storage.visibleFrom ≠ 0 ∧ storage.capacity = storage.bytes.length then
    storage.compactVisible
  else storage

/-- Append octets.  When they do not fit, the allocation is replaced by one of `grown` octets, or
of as many as are needed. -/
def append (data : Bytes) (grown : Nat) : BufferStorage :=
  { storage with
    bytes := storage.bytes ++ data
    capacity :=
      if storage.bytes.length + data.length ≤ storage.capacity then storage.capacity
      else max grown (storage.bytes.length + data.length)
    visibleFrom_le := by
      rw [length_append]
      exact Nat.le_trans storage.visibleFrom_le (Nat.le_add_right _ _)
    bytes_le := by
      rw [length_append]
      split
      next fits => exact fits
      next => exact Nat.le_max_right _ _ }

def copyFromSlice (data : Bytes) : BufferStorage :=
  storage.clear.append data 0

def extendFromSlice (data : Bytes) (grown : Nat) : BufferStorage :=
  storage.compactVisible.append data grown

/-- Show only the octets from `start` to `stop`; the source panics on any other range. -/
def retainRange (start stop : Nat)
    (inside : start < stop ∧ stop ≤ storage.initializedLen) : BufferStorage :=
  { storage with
    bytes := storage.bytes.take (storage.visibleFrom + stop)
    visibleFrom := storage.visibleFrom + start
    visibleFrom_le := by
      have within := storage.visibleFrom_le
      have bound := inside.2
      unfold initializedLen at bound
      rw [length_take]
      omega
    bytes_le := by
      rw [length_take]
      exact Nat.le_trans (Nat.min_le_right _ _) storage.bytes_le }

/-- The room for a read of at most `readLen` octets. -/
def spare (readLen : Nat) : Nat :=
  min readLen (storage.capacity - storage.bytes.length)

/-- Put what a reader has ready into the spare part of the allocation, up to `readLen` octets. -/
def readFrom (ready : Bytes) (readLen : Nat) : BufferStorage :=
  storage.append (ready.take (storage.spare readLen)) 0

end

@[simp]
theorem asSlice_compactVisible : storage.compactVisible.asSlice = storage.asSlice := by
  unfold compactVisible
  split
  · rfl
  · rfl

@[simp]
theorem capacity_compactVisible : storage.compactVisible.capacity = storage.capacity := by
  unfold compactVisible
  split
  · rfl
  · rfl

@[simp]
theorem asSlice_compactVisibleIfTailFull :
    storage.compactVisibleIfTailFull.asSlice = storage.asSlice := by
  unfold compactVisibleIfTailFull
  split
  · exact asSlice_compactVisible storage
  · rfl

@[simp]
theorem capacity_compactVisibleIfTailFull :
    storage.compactVisibleIfTailFull.capacity = storage.capacity := by
  unfold compactVisibleIfTailFull
  split
  · exact capacity_compactVisible storage
  · rfl

theorem length_compactVisibleIfTailFull_lt {storage : BufferStorage}
    (short : storage.initializedLen < storage.capacity) :
    storage.compactVisibleIfTailFull.bytes.length < storage.capacity := by
  unfold compactVisibleIfTailFull
  split
  next tailFull =>
    unfold compactVisible
    rw [if_neg tailFull.1]
    rw [← length_asSlice] at short
    exact short
  next tailFree =>
    have bound := storage.bytes_le
    unfold initializedLen at short
    omega

@[simp]
theorem asSlice_append (data : Bytes) (grown : Nat) :
    (storage.append data grown).asSlice = storage.asSlice ++ data :=
  drop_append_of_le_length storage.visibleFrom_le

theorem asSlice_retainRange (start stop : Nat)
    (inside : start < stop ∧ stop ≤ storage.initializedLen) :
    (storage.retainRange start stop inside).asSlice = (storage.asSlice.take stop).drop start := by
  unfold asSlice retainRange
  rw [← drop_drop, drop_take, Nat.add_sub_cancel_left]

theorem capacity_le_append (data : Bytes) (grown : Nat) :
    storage.capacity ≤ (storage.append data grown).capacity := by
  unfold append
  split
  next => exact Nat.le_refl _
  next tooLong => exact Nat.le_trans (Nat.le_of_not_le tooLong) (Nat.le_max_right _ _)

/-- Octets that fit leave the allocation as it is. -/
theorem capacity_append_of_le {storage : BufferStorage} {data : Bytes}
    (fits : storage.bytes.length + data.length ≤ storage.capacity) (grown : Nat) :
    (storage.append data grown).capacity = storage.capacity :=
  if_pos fits

@[simp]
theorem capacity_readFrom (ready : Bytes) (readLen : Nat) :
    (storage.readFrom ready readLen).capacity = storage.capacity := by
  apply capacity_append_of_le
  have bound := storage.bytes_le
  rw [length_take, spare]
  omega

end BufferStorage

/-! ## Pooled buffers -/

/-- A pooled buffer: its storage and how much of it reads may fill, all of it for zero. -/
structure PooledBuffer where
  storage : BufferStorage
  writableLen : Nat
  writable_le : writableLen ≤ storage.capacity
  deriving DecidableEq, Repr

variable (buffer : PooledBuffer)

variable {buffer : PooledBuffer}

namespace PooledBuffer

def visible (buffer : PooledBuffer) : Bytes :=
  buffer.storage.asSlice

def initialized (buffer : PooledBuffer) : Nat :=
  buffer.storage.initializedLen

def readLimit (buffer : PooledBuffer) : Nat :=
  if buffer.writableLen = 0 then buffer.storage.capacity else buffer.writableLen

@[simp]
theorem length_visible : buffer.visible.length = buffer.initialized :=
  buffer.storage.length_asSlice

theorem readLimit_le : buffer.readLimit ≤ buffer.storage.capacity := by
  unfold readLimit
  split
  · exact Nat.le_refl _
  · exact buffer.writable_le

/-- The buffer with other storage that is at least as large. -/
def withStorage (buffer : PooledBuffer) (storage : BufferStorage)
    (larger : buffer.storage.capacity ≤ storage.capacity) : PooledBuffer :=
  { buffer with
    storage := storage
    writable_le := Nat.le_trans buffer.writable_le larger }

/-- What a reader does when it is asked: it fails or the read is given up, or it has octets ready,
none at its end. -/
inductive ReaderAnswer where
  | failed
  | ready (octets : Bytes)
  deriving DecidableEq, Repr

namespace ReaderAnswer

def octets : ReaderAnswer → Bytes
  | failed => []
  | ready octets => octets

def AtEnd (answer : ReaderAnswer) : Prop :=
  answer = .ready []

end ReaderAnswer

/-- What an operation tells its caller. -/
inductive BufferOutcome where
  | done
  | failed
  | read (count : Nat)
  | appended (previousLen : Nat) (newBytes : Bytes)
  | eof
  | noPermit
  deriving DecidableEq, Repr

section

variable (buffer : PooledBuffer)

def clear : PooledBuffer :=
  buffer.withStorage buffer.storage.clear (Nat.le_refl _)

/-- Read octets that are ready into the spare part, and count them. -/
def readIntoSpare (answer : ReaderAnswer) (readLen : Nat) :
    Option Nat × PooledBuffer :=
  match answer with
  | .failed => if buffer.storage.spare readLen = 0 then (some 0, buffer) else (none, buffer)
  | .ready octets =>
    (some (octets.take (buffer.storage.spare readLen)).length,
      buffer.withStorage (buffer.storage.readFrom octets readLen) (by simp))

def compactVisibleIfTailFull : PooledBuffer :=
  buffer.withStorage buffer.storage.compactVisibleIfTailFull (by simp)

def readFrom (answer : ReaderAnswer) : Option Nat × PooledBuffer :=
  let cleared := buffer.clear
  cleared.readIntoSpare answer cleared.readLimit

def readMore (answer : ReaderAnswer) : Option Nat × PooledBuffer :=
  let compacted := buffer.compactVisibleIfTailFull
  compacted.readIntoSpare answer (compacted.readLimit - compacted.initialized)

def retainedAppendPermit : Bool :=
  decide (buffer.storage.visibleFrom ≠ 0 ∧ buffer.initialized < buffer.readLimit)

end

/-- The outcome of a read that was counted. -/
def readOutcome (read : Option Nat × PooledBuffer) : BufferOutcome × PooledBuffer :=
  match read.1 with
  | none => (.failed, read.2)
  | some count => (.read count, read.2)

/-- The outcome of an append behind `previousLen` octets. -/
def appendOutcome (previousLen : Nat) (read : Option Nat × PooledBuffer) :
    BufferOutcome × PooledBuffer :=
  match read.1 with
  | none => (.failed, read.2)
  | some 0 => (.eof, read.2)
  | some _ => (.appended previousLen (read.2.visible.drop previousLen), read.2)

/-- Append a read to a retained buffer, with the length that it had before. -/
def appendRead (buffer : PooledBuffer) (answer : ReaderAnswer) : BufferOutcome × PooledBuffer :=
  if buffer.retainedAppendPermit then
    appendOutcome buffer.initialized (buffer.readMore answer)
  else (.noPermit, buffer)

/-- The operations on a pooled buffer. -/
inductive BufferOperation where
  | readFrom (answer : ReaderAnswer)
  | readMore (answer : ReaderAnswer)
  | appendRead (answer : ReaderAnswer)
  | retainRange (start stop : Nat)
  | copyFromSlice (data : Bytes)
  | extendFromSlice (data : Bytes) (grown : Nat)
  | clear
  deriving DecidableEq, Repr

/-- Run an operation.  The source panics on a range that the buffer does not show, and on copied
octets that are longer than the allocation. -/
def operate (buffer : PooledBuffer) : BufferOperation → Option (BufferOutcome × PooledBuffer)
  | .readFrom answer => some (readOutcome (buffer.readFrom answer))
  | .readMore answer => some (readOutcome (buffer.readMore answer))
  | .appendRead answer => some (buffer.appendRead answer)
  | .retainRange start stop =>
    if inside : start < stop ∧ stop ≤ buffer.initialized then
      some (.done, buffer.withStorage (buffer.storage.retainRange start stop inside)
        (Nat.le_refl _))
    else none
  | .copyFromSlice data =>
    if data.length ≤ buffer.storage.capacity then
      some (.done, buffer.withStorage (buffer.storage.copyFromSlice data)
        (buffer.storage.clear.capacity_le_append data 0))
    else none
  | .extendFromSlice data grown =>
    some (.done, buffer.withStorage (buffer.storage.extendFromSlice data grown) (by
      rw [← BufferStorage.capacity_compactVisible]
      exact BufferStorage.capacity_le_append _ _ _))
  | .clear => some (.done, buffer.clear)

/-! ## One read -/

theorem readLimit_withStorage {storage : BufferStorage}
    (same : storage.capacity = buffer.storage.capacity) :
    (buffer.withStorage storage (Nat.le_of_eq same.symm)).readLimit = buffer.readLimit := by
  unfold readLimit
  split
  next unlimited => exact (same.trans (if_pos unlimited).symm)
  next limited => exact (if_neg limited).symm

@[simp]
theorem visible_compactVisibleIfTailFull :
    buffer.compactVisibleIfTailFull.visible = buffer.visible :=
  buffer.storage.asSlice_compactVisibleIfTailFull

@[simp]
theorem initialized_compactVisibleIfTailFull :
    buffer.compactVisibleIfTailFull.initialized = buffer.initialized := by
  rw [← length_visible, visible_compactVisibleIfTailFull, length_visible]

@[simp]
theorem readLimit_compactVisibleIfTailFull :
    buffer.compactVisibleIfTailFull.readLimit = buffer.readLimit :=
  buffer.readLimit_withStorage (by simp)

theorem readIntoSpare_visible (answer : ReaderAnswer) (readLen : Nat) :
    ∃ newBytes, newBytes <+: answer.octets ∧ newBytes.length ≤ readLen ∧
      (buffer.readIntoSpare answer readLen).2.visible = buffer.visible ++ newBytes ∧
      ((buffer.readIntoSpare answer readLen).1 = some newBytes.length ∨
        (buffer.readIntoSpare answer readLen).1 = none ∧ newBytes = []) := by
  cases answer with
  | failed =>
    refine ⟨[], nil_prefix, Nat.zero_le _, ?_, ?_⟩
    · unfold readIntoSpare
      simp only
      split <;> simp
    · unfold readIntoSpare
      simp only
      split
      · exact Or.inl rfl
      · exact Or.inr ⟨rfl, trivial⟩
  | ready octets =>
    refine ⟨octets.take (buffer.storage.spare readLen), take_prefix _ _, ?_, ?_, ?_⟩
    · have short := length_take_le (buffer.storage.spare readLen) octets
      exact Nat.le_trans short (Nat.min_le_left _ _)
    · exact buffer.storage.asSlice_append _ 0
    · exact Or.inl rfl

@[simp]
theorem readLimit_readIntoSpare (answer : ReaderAnswer) (readLen : Nat) :
    (buffer.readIntoSpare answer readLen).2.readLimit = buffer.readLimit := by
  cases answer with
  | failed =>
    unfold readIntoSpare
    simp only
    split <;> rfl
  | ready octets => exact buffer.readLimit_withStorage (buffer.storage.capacity_readFrom _ _)

theorem readIntoSpare_zero {answer : ReaderAnswer} {readLen : Nat}
    (zero : (buffer.readIntoSpare answer readLen).1 = some 0) :
    answer.AtEnd ∨ buffer.storage.spare readLen = 0 := by
  cases answer with
  | failed =>
    unfold readIntoSpare at zero
    simp only at zero
    split at zero
    next noRoom => exact Or.inr noRoom
    next => cases zero
  | ready octets =>
    have counted : (octets.take (buffer.storage.spare readLen)).length = 0 :=
      Option.some.inj zero
    rw [length_take] at counted
    rcases Nat.min_eq_zero_iff.mp counted with noRoom | nothing
    · exact Or.inr noRoom
    · exact Or.inl (congrArg ReaderAnswer.ready (length_eq_zero_iff.mp nothing))

theorem limit_le_of_spare_eq_zero (noRoom : buffer.compactVisibleIfTailFull.storage.spare
      (buffer.readLimit - buffer.initialized) = 0) : buffer.readLimit ≤ buffer.initialized := by
  rcases Nat.min_eq_zero_iff.mp noRoom with atLimit | full
  · exact Nat.le_of_sub_eq_zero atLimit
  · by_contra below
    have short : buffer.storage.initializedLen < buffer.storage.capacity :=
      Nat.lt_of_lt_of_le (Nat.lt_of_not_le below) buffer.readLimit_le
    have room := BufferStorage.length_compactVisibleIfTailFull_lt short
    have same := buffer.storage.capacity_compactVisibleIfTailFull
    change buffer.storage.compactVisibleIfTailFull.capacity -
      buffer.storage.compactVisibleIfTailFull.bytes.length = 0 at full
    omega

/-! ## Sequences of operations -/

/-- An operation of a sequence, with the buffer before and after it. -/
structure BufferEvent where
  before : PooledBuffer
  operation : BufferOperation
  outcome : BufferOutcome
  after : PooledBuffer
  deriving DecidableEq, Repr

/-- Run a sequence of operations until one panics. -/
def history (buffer : PooledBuffer) : List BufferOperation → List BufferEvent
  | [] => []
  | operation :: rest =>
    match buffer.operate operation with
    | none => []
    | some (outcome, after) => ⟨buffer, operation, outcome, after⟩ :: after.history rest

namespace BufferOutcome

/-- The outcome tells of `newBytes` behind the first `previousLen` octets. -/
def Reports (previousLen : Nat) (newBytes : Bytes) : BufferOutcome → Prop
  | done => False
  | failed => newBytes = []
  | read count => count = newBytes.length
  | appended previous octets => previous = previousLen ∧ octets = newBytes
  | eof => newBytes = []
  | noPermit => newBytes = []

/-- The outcome tells of a read without octets. -/
def ReportsZero : BufferOutcome → Prop
  | read count => count = 0
  | appended _ octets => octets = []
  | eof => True
  | done | failed | noPermit => False

end BufferOutcome

/-- A read that keeps `kept` in front of what it adds. -/
structure BufferEvent.ReadsBehind (event : BufferEvent) (kept : Bytes) (answer : ReaderAnswer) :
    Prop where
  adds : ∃ newBytes, newBytes <+: answer.octets ∧ event.after.visible = kept ++ newBytes ∧
    event.outcome.Reports kept.length newBytes
  limit : event.after.initialized ≤ event.after.readLimit ∨
    event.after.visible = event.before.visible
  zero : event.outcome.ReportsZero →
    answer.AtEnd ∨ event.before.readLimit ≤ event.before.initialized

/-- What each operation does to the visible octets. -/
def BufferEvent.Sound (event : BufferEvent) : Prop :=
  match event.operation with
  | .readFrom answer => event.ReadsBehind [] answer
  | .readMore answer => event.ReadsBehind event.before.visible answer
  | .appendRead answer => event.ReadsBehind event.before.visible answer
  | .retainRange start stop =>
    event.after.visible = (event.before.visible.take stop).drop start
  | .copyFromSlice data => event.after.visible = data
  | .extendFromSlice data _ => event.after.visible = event.before.visible ++ data
  | .clear => event.after.visible = []

/-- What a counted read does, before its count is turned into an outcome. -/
structure CountedRead (before : PooledBuffer) (kept : Bytes) (answer : ReaderAnswer)
    (read : Option Nat × PooledBuffer) : Prop where
  adds : ∃ newBytes, newBytes <+: answer.octets ∧ read.2.visible = kept ++ newBytes ∧
    (read.1 = some newBytes.length ∨ read.1 = none ∧ newBytes = [])
  limit : read.2.initialized ≤ read.2.readLimit ∨ read.2.visible = before.visible
  zero : read.1 = some 0 → answer.AtEnd ∨ before.readLimit ≤ before.initialized

theorem readFrom_counted (answer : ReaderAnswer) :
    CountedRead buffer [] answer (buffer.readFrom answer) := by
  obtain ⟨newBytes, fromReader, short, visible, counted⟩ :=
    buffer.clear.readIntoSpare_visible answer buffer.clear.readLimit
  constructor
  · exact ⟨newBytes, fromReader, visible, counted⟩
  · left
    unfold readFrom
    rw [← length_visible, visible, readLimit_readIntoSpare]
    exact short
  · intro zero
    rcases readIntoSpare_zero zero with atEnd | noRoom
    · exact Or.inl atEnd
    · -- a cleared buffer has all its capacity free, so only a limit of zero leaves no room
      have limit := buffer.readLimit_le
      change min buffer.readLimit (buffer.storage.capacity - 0) = 0 at noRoom
      omega

theorem readMore_counted (answer : ReaderAnswer) :
    CountedRead buffer buffer.visible answer (buffer.readMore answer) := by
  have read := buffer.compactVisibleIfTailFull.readIntoSpare_visible answer
    (buffer.compactVisibleIfTailFull.readLimit - buffer.compactVisibleIfTailFull.initialized)
  obtain ⟨newBytes, fromReader, short, visible, counted⟩ := read
  rw [visible_compactVisibleIfTailFull] at visible
  constructor
  · exact ⟨newBytes, fromReader, visible, counted⟩
  · -- what is added fits below the limit, so beyond the limit nothing is added
    rcases Nat.lt_or_ge buffer.readLimit buffer.initialized with beyond | below
    · right
      have none : newBytes = [] := by
        rw [readLimit_compactVisibleIfTailFull, initialized_compactVisibleIfTailFull] at short
        exact length_eq_zero_iff.mp (by omega)
      rw [none, append_nil] at visible
      exact visible
    · left
      unfold readMore
      rw [← length_visible, visible, readLimit_readIntoSpare, length_append, length_visible]
      rw [initialized_compactVisibleIfTailFull] at short
      rw [readLimit_compactVisibleIfTailFull] at short ⊢
      omega
  · intro zero
    rcases readIntoSpare_zero zero with atEnd | noRoom
    · exact Or.inl atEnd
    · rw [readLimit_compactVisibleIfTailFull, initialized_compactVisibleIfTailFull] at noRoom
      exact Or.inr (limit_le_of_spare_eq_zero noRoom)

variable {read : Option Nat × PooledBuffer}

section CountedRead

variable {before after : PooledBuffer} {kept : Bytes} {answer : ReaderAnswer}

theorem CountedRead.visible_of_failed (counted : CountedRead before kept answer (none, after)) :
    after.visible = kept := by
  obtain ⟨newBytes, fromReader, visible, count | ⟨_, nothing⟩⟩ := counted.adds
  · cases count
  · rw [nothing, append_nil] at visible
    exact visible

theorem CountedRead.adds_of_some {count : Nat}
    (counted : CountedRead before kept answer (some count, after)) :
    ∃ newBytes, newBytes <+: answer.octets ∧ after.visible = kept ++ newBytes ∧
      newBytes.length = count := by
  obtain ⟨newBytes, fromReader, visible, length | ⟨impossible, _⟩⟩ := counted.adds
  · exact ⟨newBytes, fromReader, visible, (Option.some.inj length).symm⟩
  · cases impossible

theorem CountedRead.failed (counted : CountedRead before kept answer (none, after))
    (operation : BufferOperation) :
    BufferEvent.ReadsBehind ⟨before, operation, .failed, after⟩ kept answer := by
  have visible := counted.visible_of_failed
  constructor
  · exact ⟨[], nil_prefix, visible.trans (append_nil kept).symm, rfl⟩
  · exact counted.limit
  · intro zero
    cases zero

variable (counted : CountedRead before kept answer read) (operation : BufferOperation)

include counted

theorem CountedRead.readOutcome :
    BufferEvent.ReadsBehind ⟨before, operation, (readOutcome read).1, (readOutcome read).2⟩
      kept answer := by
  rcases read with ⟨_ | count, after⟩
  · exact counted.failed operation
  · obtain ⟨newBytes, fromReader, visible, length⟩ := counted.adds_of_some
    constructor
    · exact ⟨newBytes, fromReader, visible, length.symm⟩
    · exact counted.limit
    · intro zero
      exact counted.zero (congrArg some zero)

theorem CountedRead.appendOutcome :
    BufferEvent.ReadsBehind ⟨before, operation, (appendOutcome kept.length read).1,
      (appendOutcome kept.length read).2⟩ kept answer := by
  rcases read with ⟨_ | count, after⟩
  · exact counted.failed operation
  · obtain ⟨newBytes, fromReader, visible, length⟩ := counted.adds_of_some
    cases count with
    | zero =>
      constructor
      · exact ⟨newBytes, fromReader, visible, length_eq_zero_iff.mp length⟩
      · exact counted.limit
      · intro _
        exact counted.zero rfl
    | succ more =>
      have added : after.visible.drop kept.length = newBytes := by
        rw [visible, drop_left]
      constructor
      · exact ⟨newBytes, fromReader, visible, rfl, added⟩
      · exact counted.limit
      · intro zero
        have nothing : newBytes = [] := added.symm.trans zero
        rw [nothing] at length
        cases length

end CountedRead

/-- An append that got a permit tells where its octets start, compacted or not. -/
theorem appendRead_readsBehind (answer : ReaderAnswer) :
    BufferEvent.ReadsBehind ⟨buffer, .appendRead answer, (buffer.appendRead answer).1,
      (buffer.appendRead answer).2⟩ buffer.visible answer := by
  unfold appendRead
  split
  next =>
    rw [← length_visible]
    exact (buffer.readMore_counted answer).appendOutcome _
  next =>
    constructor
    · exact ⟨[], nil_prefix, (append_nil _).symm, rfl⟩
    · exact Or.inr rfl
    · intro zero
      cases zero

theorem operate_sound {operation : BufferOperation} {result : BufferOutcome × PooledBuffer}
    (operated : buffer.operate operation = some result) :
    BufferEvent.Sound ⟨buffer, operation, result.1, result.2⟩ := by
  cases operation with
  | readFrom answer =>
    obtain rfl := Option.some.inj operated
    exact (buffer.readFrom_counted answer).readOutcome _
  | readMore answer =>
    obtain rfl := Option.some.inj operated
    exact (buffer.readMore_counted answer).readOutcome _
  | appendRead answer =>
    obtain rfl := Option.some.inj operated
    exact buffer.appendRead_readsBehind answer
  | retainRange start stop =>
    simp only [operate] at operated
    split at operated
    next inside =>
      obtain rfl := Option.some.inj operated
      exact buffer.storage.asSlice_retainRange start stop inside
    next => cases operated
  | copyFromSlice data =>
    simp only [operate] at operated
    split at operated
    next =>
      obtain rfl := Option.some.inj operated
      exact buffer.storage.clear.asSlice_append data 0
    next => cases operated
  | extendFromSlice data grown =>
    obtain rfl := Option.some.inj operated
    have extended := buffer.storage.compactVisible.asSlice_append data grown
    rw [BufferStorage.asSlice_compactVisible] at extended
    exact extended
  | clear =>
    obtain rfl := Option.some.inj operated
    rfl

/-- In every sequence of operations each read keeps what it should, adds what the reader gave up to
the read limit, and is empty only at the reader's end or at the limit. -/
theorem history_sound (buffer : PooledBuffer) (operations : List BufferOperation) :
    ∀ event ∈ buffer.history operations, event.Sound := by
  induction operations generalizing buffer with
  | nil =>
    intro event isEvent
    cases isEvent
  | cons operation rest ih =>
    intro event isEvent
    unfold history at isEvent
    cases operated : buffer.operate operation with
    | none =>
      rw [operated] at isEvent
      cases isEvent
    | some result =>
      rw [operated] at isEvent
      rcases mem_cons.mp isEvent with isFirst | isLater
      · rw [isFirst]
        exact operate_sound operated
      · exact ih result.2 event isLater

/-- Four octets of room and two hidden ones. -/
def retainedPair : PooledBuffer :=
  ⟨⟨[1, 2, 3, 4], 4, 2, by decide, by decide⟩, 4, by decide⟩

/-- The visible pair is moved to the front, and the octets that are read start behind it. -/
theorem retainedPair_appended :
    BufferEvent.Sound ⟨retainedPair, .appendRead (.ready [5, 6, 7]), .appended 2 [5, 6],
      ⟨⟨[3, 4, 5, 6], 4, 0, by decide, by decide⟩, 4, by decide⟩⟩ :=
  history_sound retainedPair [.appendRead (.ready [5, 6, 7])] _ (by decide)

end PooledBuffer

end NntpProxy.Buffers
