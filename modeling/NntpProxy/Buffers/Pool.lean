import NntpProxy.Data.Interleaving
import NntpProxy.Buffers.Storage

/-!
# The buffer pool

A pool keeps returned allocations in a bounded queue, and counts the queued ones and those it
counts as its own in two atomic counters.  An acquisition takes a queued allocation, reserves a
slot for a new one, or falls back to one that is not counted.  A dropped buffer goes back to the
queue if it still has the allocation it was made with.  Each counter update and each queue operation
is a step of its own, and any number of tasks interleave them.

Regular and capture buffers have separate pools that work in the same way.
-/

namespace NntpProxy.Buffers

open Protocol Data.Interleaving System
open PooledBuffer (BufferOperation)

/-! ## Settings and allocations -/

/-- The size of new allocations, the read limit, and the number of allocations a pool counts. -/
structure PoolSettings where
  capacity : Nat
  writableLen : Nat
  maxPoolSize : Nat
  capacity_pos : 0 < capacity
  writableLen_le : writableLen ≤ capacity

namespace PoolSettings

/-- The allocation of a regular buffer: whole pages of 4096 octets. -/
def alignedSize (size : Nat) : Nat :=
  (size + 4095) / 4096 * 4096

theorem le_alignedSize (size : Nat) : size ≤ alignedSize size := by
  unfold alignedSize
  omega

def regular (bufferSize maxPoolSize : Nat) (positive : 0 < bufferSize) : PoolSettings where
  capacity := alignedSize bufferSize
  writableLen := bufferSize
  maxPoolSize := maxPoolSize
  capacity_pos := Nat.lt_of_lt_of_le positive (le_alignedSize bufferSize)
  writableLen_le := le_alignedSize bufferSize

def capture (captureCapacity bufferSize count : Nat) (positive : 0 < bufferSize) :
    PoolSettings where
  capacity := if 0 < captureCapacity then captureCapacity else bufferSize
  writableLen := 0
  maxPoolSize := count
  capacity_pos := by
    split
    next configured => exact configured
    next => exact positive
  writableLen_le := Nat.zero_le _

/-- The number of places in the queue. -/
def queueCapacity (settings : PoolSettings) : Nat :=
  max settings.maxPoolSize 1

end PoolSettings

/-- An allocation outside of a buffer, with the capacity it was made with. -/
structure Allocation (settings : PoolSettings) where
  bytes : Bytes
  capacity : Nat
  originalCapacity : Nat
  bytes_le : bytes.length ≤ capacity
  writableLen_le : settings.writableLen ≤ capacity
  deriving DecidableEq, Repr

/-- A buffer that is in use. -/
structure HeldBuffer (settings : PoolSettings) where
  buffer : PooledBuffer
  expectedCapacity : Nat
  originalCapacity : Nat
  countsTowardPool : Bool
  writableLen_eq : buffer.writableLen = settings.writableLen
  writableLen_le : settings.writableLen ≤ expectedCapacity
  deriving DecidableEq, Repr

/-- What is left of a buffer when it is dropped. -/
structure DroppedBuffer (settings : PoolSettings) where
  storage : BufferStorage
  expectedCapacity : Nat
  originalCapacity : Nat
  countsTowardPool : Bool
  writableLen_le : settings.writableLen ≤ expectedCapacity
  deriving DecidableEq, Repr

variable {settings : PoolSettings}

namespace Allocation

/-- The octets are gone and the capacity is the one the allocation was made with. -/
def Fresh (allocation : Allocation settings) : Prop :=
  allocation.bytes = [] ∧ allocation.capacity = allocation.originalCapacity

/-- A new allocation; the allocator may give more than was asked for. -/
def new (settings : PoolSettings) (given : Nat) : Allocation settings where
  bytes := []
  capacity := max given settings.capacity
  originalCapacity := max given settings.capacity
  bytes_le := Nat.zero_le _
  writableLen_le := Nat.le_trans settings.writableLen_le (Nat.le_max_right _ _)

/-- Wrap an allocation as a buffer. -/
def wrap (allocation : Allocation settings) (countsTowardPool : Bool) : HeldBuffer settings where
  buffer :=
    { storage :=
        ⟨allocation.bytes, allocation.capacity, 0, Nat.zero_le _, allocation.bytes_le⟩
      writableLen := settings.writableLen
      writable_le := allocation.writableLen_le }
  expectedCapacity := allocation.capacity
  originalCapacity := allocation.originalCapacity
  countsTowardPool := countsTowardPool
  writableLen_eq := rfl
  writableLen_le := allocation.writableLen_le

end Allocation

namespace PooledBuffer

@[simp]
theorem writableLen_readIntoSpare (buffer : PooledBuffer) (answer : ReaderAnswer)
    (readLen : Nat) : (buffer.readIntoSpare answer readLen).2.writableLen = buffer.writableLen := by
  cases answer with
  | failed =>
    unfold readIntoSpare
    simp only
    split <;> rfl
  | ready octets => rfl

theorem readOutcome_snd (read : Option Nat × PooledBuffer) : (readOutcome read).2 = read.2 := by
  unfold readOutcome
  split <;> rfl

theorem appendOutcome_snd (previousLen : Nat) (read : Option Nat × PooledBuffer) :
    (appendOutcome previousLen read).2 = read.2 := by
  unfold appendOutcome
  split <;> rfl

theorem writableLen_operate {buffer : PooledBuffer} {operation : BufferOperation}
    {result : BufferOutcome × PooledBuffer} (operated : buffer.operate operation = some result) :
    result.2.writableLen = buffer.writableLen := by
  cases operation with
  | readFrom answer =>
    obtain rfl := Option.some.inj operated
    rw [readOutcome_snd]
    exact buffer.clear.writableLen_readIntoSpare answer _
  | readMore answer =>
    obtain rfl := Option.some.inj operated
    rw [readOutcome_snd]
    exact buffer.compactVisibleIfTailFull.writableLen_readIntoSpare answer _
  | appendRead answer =>
    obtain rfl := Option.some.inj operated
    unfold appendRead
    split
    next =>
      rw [appendOutcome_snd]
      exact buffer.compactVisibleIfTailFull.writableLen_readIntoSpare answer _
    next => rfl
  | retainRange start stop =>
    simp only [operate] at operated
    split at operated
    next =>
      obtain rfl := Option.some.inj operated
      rfl
    next => cases operated
  | copyFromSlice data =>
    simp only [operate] at operated
    split at operated
    next =>
      obtain rfl := Option.some.inj operated
      rfl
    next => cases operated
  | extendFromSlice data grown =>
    obtain rfl := Option.some.inj operated
    rfl
  | clear =>
    obtain rfl := Option.some.inj operated
    rfl

end PooledBuffer

namespace HeldBuffer

section

variable (held : HeldBuffer settings)

/-- Start to drop the buffer with what is now its storage. -/
def dropWith (storage : BufferStorage) : DroppedBuffer settings :=
  { held with storage := storage }

def drop : DroppedBuffer settings :=
  held.dropWith held.buffer.storage

/-- The octets leave with their allocation, and an empty storage is dropped. -/
def freeze : DroppedBuffer settings :=
  held.dropWith (.new 0)

/-- Run an operation on the buffer; `none` for a panic. -/
def operate (operation : BufferOperation) :
    Option (HeldBuffer settings) :=
  match operated : held.buffer.operate operation with
  | none => none
  | some result =>
    some { held with
      buffer := result.2
      writableLen_eq :=
        (PooledBuffer.writableLen_operate operated).trans held.writableLen_eq }

end

theorem operate_eq {held changed : HeldBuffer settings} {operation : BufferOperation}
    (operated : held.operate operation = some changed) :
    changed.expectedCapacity = held.expectedCapacity ∧
      changed.originalCapacity = held.originalCapacity ∧
      changed.countsTowardPool = held.countsTowardPool := by
  unfold operate at operated
  split at operated
  next => cases operated
  next =>
    obtain rfl := Option.some.inj operated
    exact ⟨rfl, rfl, rfl⟩

end HeldBuffer

/-- The cleared allocation of a dropped buffer that has its expected capacity. -/
def DroppedBuffer.cleared (dropped : DroppedBuffer settings)
    (same : dropped.storage.capacity = dropped.expectedCapacity) : Allocation settings where
  bytes := dropped.storage.clear.bytes
  capacity := dropped.storage.clear.capacity
  originalCapacity := dropped.originalCapacity
  bytes_le := dropped.storage.clear.bytes_le
  writableLen_le := Nat.le_trans dropped.writableLen_le (Nat.le_of_eq same.symm)

/-! ## Atomic steps -/

/-- The queue and the two counters of a pool. -/
structure PoolState (settings : PoolSettings) where
  pool : List (Allocation settings)
  poolSize : Nat
  allocatedCount : Nat
  deriving DecidableEq, Repr

/-- `fetch_sub(1)` on a counter of 64 bits. -/
def fetchSub (counter : Nat) : Nat :=
  if counter = 0 then 2 ^ 64 - 1 else counter - 1

theorem fetchSub_add_one {counter : Nat} (positive : 0 < counter) :
    fetchSub counter + 1 = counter := by
  rw [fetchSub, if_neg (Nat.ne_of_gt positive)]
  exact Nat.sub_add_cancel positive

/-- Where a task is between two atomic steps. -/
inductive Activity (settings : PoolSettings) where
  /-- About to pop from the queue. -/
  | acquiring
  /-- Popped an allocation that is still counted as available. -/
  | popped (allocation : Allocation settings)
  /-- Found the queue empty. -/
  | reserving
  /-- Saw a value of the allocated counter. -/
  | sawAllocated (allocated : Nat)
  /-- About to make an allocation, in a reserved slot or as a fallback. -/
  | allocating (countsTowardPool : Bool)
  /-- Has a buffer; no operation of the pool is in progress. -/
  | holding (held : HeldBuffer settings)
  /-- Started to drop a buffer. -/
  | dropping (dropped : DroppedBuffer settings)
  /-- Saw a value of the available counter. -/
  | sawPoolSize (allocation : Allocation settings) (currentSize : Nat)
  /-- Counted an allocation as available, and is about to push it. -/
  | pushing (allocation : Allocation settings)
  /-- Found the queue full. -/
  | pushFailed
  /-- Took back the available count after a failed push. -/
  | releasing
  deriving DecidableEq, Repr

/-- What is up to the surroundings of a task. -/
inductive PoolChoice where
  | proceed
  /-- A weak exchange fails without a reason. -/
  | spurious
  | allocate (given : Nat)
  | operate (operation : BufferOperation)
  | drop
  | freeze
  deriving DecidableEq, Repr

namespace PoolState

variable (state : PoolState settings)

/-- `acquire_now` pops from the queue. -/
def pop : PoolState settings × Activity settings :=
  match state.pool with
  | [] => (state, .reserving)
  | allocation :: rest => ({ state with pool := rest }, .popped allocation)

/-- The loop of `try_reserve_regular_slot` and `try_reserve_capture_slot`. -/
def tryReserveSlot (allocated : Nat) (spurious : Bool) : PoolState settings × Activity settings :=
  if allocated < settings.maxPoolSize then
    if state.allocatedCount = allocated ∧ ¬ spurious then
      ({ state with allocatedCount := allocated + 1 }, .allocating true)
    else (state, .sawAllocated state.allocatedCount)
  else (state, .allocating false)

def release : PoolState settings :=
  { state with allocatedCount := fetchSub state.allocatedCount }

/-- The first part of a drop, up to the load of the available counter. -/
def startDrop (dropped : DroppedBuffer settings) :
    PoolState settings × Option (Activity settings) :=
  if same : dropped.storage.capacity = dropped.expectedCapacity then
    if dropped.countsTowardPool then
      -- no other task sees the allocation before it is pushed, so it is cleared and taken here
      (state, some (.sawPoolSize (dropped.cleared same) state.poolSize))
    else (state, none)
  else if dropped.countsTowardPool then (state.release, none)
  else (state, none)

/-- The loop that counts a returned allocation as available. -/
def tryReturn (allocation : Allocation settings) (currentSize : Nat) (spurious : Bool) :
    PoolState settings × Option (Activity settings) :=
  if currentSize < settings.maxPoolSize then
    if state.poolSize = currentSize ∧ ¬ spurious then
      ({ state with poolSize := currentSize + 1 }, some (.pushing allocation))
    else (state, some (.sawPoolSize allocation state.poolSize))
  else (state.release, none)

def push (allocation : Allocation settings) : PoolState settings × Option (Activity settings) :=
  if state.pool.length < settings.queueCapacity then
    ({ state with pool := state.pool ++ [allocation] }, none)
  else (state, some .pushFailed)

end PoolState

/-- The atomic steps of the tasks that use a pool. -/
def stepActivity (state : PoolState settings) :
    Activity settings → PoolChoice → Option (PoolState settings × Option (Activity settings))
  | .acquiring, .proceed => some (state.pop.1, some state.pop.2)
  | .popped allocation, .proceed =>
    some ({ state with poolSize := fetchSub state.poolSize },
      some (.holding (allocation.wrap true)))
  | .reserving, .proceed => some (state, some (.sawAllocated state.allocatedCount))
  | .sawAllocated allocated, .proceed =>
    let reserved := state.tryReserveSlot allocated false
    some (reserved.1, some reserved.2)
  | .sawAllocated allocated, .spurious =>
    let reserved := state.tryReserveSlot allocated true
    some (reserved.1, some reserved.2)
  | .allocating countsTowardPool, .allocate given =>
    some (state, some (.holding ((Allocation.new settings given).wrap countsTowardPool)))
  | .holding held, .operate operation =>
    match held.operate operation with
    | some held => some (state, some (.holding held))
    -- a panic drops the buffer
    | none => some (state, some (.dropping held.drop))
  | .holding held, .drop => some (state, some (.dropping held.drop))
  | .holding held, .freeze => some (state, some (.dropping held.freeze))
  | .dropping dropped, .proceed => some (state.startDrop dropped)
  | .sawPoolSize allocation currentSize, .proceed =>
    some (state.tryReturn allocation currentSize false)
  | .sawPoolSize allocation currentSize, .spurious =>
    some (state.tryReturn allocation currentSize true)
  | .pushing allocation, .proceed => some (state.push allocation)
  | .pushFailed, .proceed =>
    some ({ state with poolSize := fetchSub state.poolSize }, some .releasing)
  | .releasing, .proceed => some (state.release, none)
  | _, _ => none

/-- Tasks start with an acquisition. -/
def poolProtocol (settings : PoolSettings) :
    Protocol (PoolState settings) (Activity settings) PoolChoice where
  starts
    | .acquiring => true
    | _ => false
  step := stepActivity

def newPool (settings : PoolSettings) : System (PoolState settings) (Activity settings) :=
  ⟨⟨[], 0, 0⟩, []⟩

/-! ## Accounting -/

namespace Activity

/-- The slots of the allocated counter that a task owns. -/
def slots : Activity settings → Nat
  | acquiring | reserving | sawAllocated _ => 0
  | popped _ | sawPoolSize _ _ | pushing _ | pushFailed | releasing => 1
  | allocating countsTowardPool => countsTowardPool.toNat
  | holding held => held.countsTowardPool.toNat
  | dropping dropped => dropped.countsTowardPool.toNat

/-- The available allocations that a task has counted and that are not in the queue. -/
def inTransit : Activity settings → Nat
  | popped _ | pushing _ | pushFailed => 1
  | _ => 0

/-- The allocation a task has in hand is as it should be, and no push failed. -/
def Intact : Activity settings → Prop
  | popped allocation | sawPoolSize allocation _ | pushing allocation => allocation.Fresh
  | holding held => held.expectedCapacity = held.originalCapacity
  | dropping dropped => dropped.expectedCapacity = dropped.originalCapacity
  | pushFailed | releasing => False
  | acquiring | reserving | sawAllocated _ | allocating _ => True

end Activity

/-- Both counters count the queue and what the tasks have in hand. -/
structure Accounted (system : System (PoolState settings) (Activity settings)) : Prop where
  allocated : system.shared.allocatedCount =
    system.shared.pool.length + total Activity.slots system.tasks
  allocated_le : system.shared.allocatedCount ≤ settings.maxPoolSize
  available : system.shared.poolSize =
    system.shared.pool.length + total Activity.inTransit system.tasks
  available_le : system.shared.poolSize ≤ settings.maxPoolSize
  queued : ∀ allocation ∈ system.shared.pool, allocation.Fresh
  intact : ∀ task ∈ system.tasks, task.Intact

theorem accounted_newPool (settings : PoolSettings) : Accounted (newPool settings) where
  allocated := rfl
  allocated_le := Nat.zero_le _
  available := rfl
  available_le := Nat.zero_le _
  queued := by
    intro allocation isQueued
    cases isQueued
  intact := by
    intro task isTask
    cases isTask

/-- What a step of a task changes: the counters and the queue move with what the task has in
hand. -/
structure StepAccounted (before : PoolState settings) (task : Activity settings)
    (after : PoolState settings) (rest : Option (Activity settings)) : Prop where
  allocated : after.allocatedCount + before.pool.length + task.slots =
    before.allocatedCount + after.pool.length + total Activity.slots rest.toList
  allocated_le : after.allocatedCount ≤ settings.maxPoolSize
  available : after.poolSize + before.pool.length + task.inTransit =
    before.poolSize + after.pool.length + total Activity.inTransit rest.toList
  available_le : after.poolSize ≤ settings.maxPoolSize
  queued : ∀ allocation ∈ after.pool, allocation.Fresh
  intact : ∀ activity ∈ rest, activity.Intact

/-- What the accounting says to one of the tasks. -/
structure TaskAccounted (state : PoolState settings) (task : Activity settings) : Prop where
  slots_le : state.pool.length + task.slots ≤ state.allocatedCount
  allocated_le : state.allocatedCount ≤ settings.maxPoolSize
  inTransit_le : state.pool.length + task.inTransit ≤ state.poolSize
  available_le : state.poolSize ≤ settings.maxPoolSize
  queued : ∀ allocation ∈ state.pool, allocation.Fresh
  intact : task.Intact

variable {task : Activity settings}

variable {system : System (PoolState settings) (Activity settings)}

theorem Accounted.taskAccounted (accounted : Accounted system) (isTask : task ∈ system.tasks) :
    TaskAccounted system.shared task where
  slots_le := by
    have part : task.slots ≤ total Activity.slots system.tasks :=
      weight_le_total isTask
    rw [accounted.allocated]
    omega
  allocated_le := accounted.allocated_le
  inTransit_le := by
    have part : task.inTransit ≤ total Activity.inTransit system.tasks :=
      weight_le_total isTask
    rw [accounted.available]
    omega
  available_le := accounted.available_le
  queued := accounted.queued
  intact := accounted.intact task isTask

variable {rest : Option (Activity settings)}

theorem Accounted.step {before after : PoolState settings} {front back : List (Activity settings)}
    (accounted : Accounted ⟨before, front ++ task :: back⟩)
    (stepped : StepAccounted before task after rest) :
    Accounted ⟨after, front ++ rest.toList ++ back⟩ where
  allocated := by
    have sum := accounted.allocated
    have moved := stepped.allocated
    simp only [total_append, total_cons] at sum ⊢
    omega
  allocated_le := stepped.allocated_le
  available := by
    have sum := accounted.available
    have moved := stepped.available
    simp only [total_append, total_cons] at sum ⊢
    omega
  available_le := stepped.available_le
  queued := stepped.queued
  intact := forall_of_others (forall_others accounted.intact) stepped.intact

variable {allocation : Allocation settings}

namespace TaskAccounted

variable {state : PoolState settings}

/-- A step that leaves the pool as it is, when what is left of the task owns the same. -/
theorem unchanged (accounted : TaskAccounted state task)
    (slots : total Activity.slots rest.toList = task.slots)
    (inTransit : total Activity.inTransit rest.toList = task.inTransit)
    (intact : ∀ activity ∈ rest, activity.Intact) : StepAccounted state task state rest where
  allocated := by rw [slots]
  allocated_le := accounted.allocated_le
  available := by rw [inTransit]
  available_le := accounted.available_le
  queued := accounted.queued
  intact := intact

theorem keep {next : Activity settings} (accounted : TaskAccounted state task)
    (slots : next.slots = task.slots) (inTransit : next.inTransit = task.inTransit)
    (intact : next.Intact) : StepAccounted state task state (some next) := by
  apply accounted.unchanged
  · simpa using slots
  · simpa using inTransit
  · rintro activity ⟨⟩
    exact intact

theorem finish (accounted : TaskAccounted state task) (slots : task.slots = 0)
    (inTransit : task.inTransit = 0) : StepAccounted state task state none :=
  accounted.unchanged slots.symm inTransit.symm nofun

theorem release (accounted : TaskAccounted state task) (slots : task.slots = 1)
    (inTransit : task.inTransit = 0) : StepAccounted state task state.release none := by
  have owned := accounted.slots_le
  have bound := accounted.allocated_le
  rw [slots] at owned
  have decremented : fetchSub state.allocatedCount + 1 = state.allocatedCount :=
    fetchSub_add_one (Nat.zero_lt_of_lt owned)
  constructor
  · simp only [PoolState.release, Option.toList_none, total_nil, slots]
    omega
  · simp only [PoolState.release]
    omega
  · simp [PoolState.release, inTransit]
  · exact accounted.available_le
  · exact accounted.queued
  · rintro activity ⟨⟩

theorem pop (accounted : TaskAccounted state .acquiring) :
    StepAccounted state .acquiring state.pop.1 (some state.pop.2) := by
  unfold PoolState.pop
  split
  next => exact accounted.keep rfl rfl trivial
  next allocation rest isPool =>
    have queued := accounted.queued
    rw [isPool] at queued
    constructor
    · simp only [isPool, Option.toList_some, total_cons, total_nil,
        Activity.slots, List.length_cons]
      omega
    · exact accounted.allocated_le
    · simp only [isPool, Option.toList_some, total_cons, total_nil,
        Activity.inTransit, List.length_cons]
      omega
    · exact accounted.available_le
    · intro other isOther
      exact queued other (List.mem_cons_of_mem _ isOther)
    · rintro activity ⟨⟩
      exact queued allocation List.mem_cons_self

theorem takePopped (accounted : TaskAccounted state (.popped allocation)) :
    StepAccounted state (.popped allocation) { state with poolSize := fetchSub state.poolSize }
      (some (.holding (allocation.wrap true))) := by
  have owned := accounted.inTransit_le
  have bound := accounted.available_le
  have decremented : fetchSub state.poolSize + 1 = state.poolSize :=
    fetchSub_add_one (Nat.zero_lt_of_lt owned)
  constructor
  · rfl
  · exact accounted.allocated_le
  · simp only [Option.toList_some, total_cons, total_nil, Activity.inTransit]
    omega
  · simp only
    omega
  · exact accounted.queued
  · rintro activity ⟨⟩
    exact accounted.intact.2

theorem tryReserveSlot {allocated : Nat} (accounted : TaskAccounted state (.sawAllocated allocated))
    (spurious : Bool) :
    StepAccounted state (.sawAllocated allocated) (state.tryReserveSlot allocated spurious).1
      (some (state.tryReserveSlot allocated spurious).2) := by
  unfold PoolState.tryReserveSlot
  split
  next below =>
    split
    next exchanged =>
      constructor
      · simp only [exchanged.1, Option.toList_some, total_cons, total_nil,
          Activity.slots, Bool.toNat_true]
        omega
      · exact below
      · rfl
      · exact accounted.available_le
      · exact accounted.queued
      · rintro activity ⟨⟩
        trivial
    next => exact accounted.keep rfl rfl trivial
  next => exact accounted.keep rfl rfl trivial

theorem startDrop {dropped : DroppedBuffer settings}
    (accounted : TaskAccounted state (.dropping dropped)) :
    StepAccounted state (.dropping dropped) (state.startDrop dropped).1
      (state.startDrop dropped).2 := by
  have original : dropped.expectedCapacity = dropped.originalCapacity := accounted.intact
  unfold PoolState.startDrop
  split
  next same =>
    split
    next counts =>
      exact accounted.keep (by simp [Activity.slots, counts]) rfl ⟨rfl, same.trans original⟩
    next notCounted => exact accounted.finish (by simp [Activity.slots, notCounted]) rfl
  next =>
    split
    next counts => exact accounted.release (by simp [Activity.slots, counts]) rfl
    next notCounted => exact accounted.finish (by simp [Activity.slots, notCounted]) rfl

theorem tryReturn {currentSize : Nat}
    (accounted : TaskAccounted state (.sawPoolSize allocation currentSize)) (spurious : Bool) :
    StepAccounted state (.sawPoolSize allocation currentSize)
      (state.tryReturn allocation currentSize spurious).1
      (state.tryReturn allocation currentSize spurious).2 := by
  unfold PoolState.tryReturn
  split
  next below =>
    split
    next exchanged =>
      constructor
      · rfl
      · exact accounted.allocated_le
      · simp only [exchanged.1, Option.toList_some, total_cons, total_nil,
          Activity.inTransit]
        omega
      · exact below
      · exact accounted.queued
      · rintro activity ⟨⟩
        exact accounted.intact
    next => exact accounted.keep rfl rfl accounted.intact
  next => exact accounted.release rfl rfl

/-- The place of an allocation that is counted as available is free. -/
theorem pool_lt_queueCapacity (accounted : TaskAccounted state (.pushing allocation)) :
    state.pool.length < settings.queueCapacity := by
  have counted := accounted.inTransit_le
  have bound := accounted.available_le
  simp only [Activity.inTransit] at counted
  unfold PoolSettings.queueCapacity
  omega

theorem push (accounted : TaskAccounted state (.pushing allocation)) :
    StepAccounted state (.pushing allocation) (state.push allocation).1
      (state.push allocation).2 := by
  unfold PoolState.push
  rw [if_pos accounted.pool_lt_queueCapacity]
  constructor
  · simp only [List.length_append, List.length_singleton, Option.toList_none, total_nil,
      Activity.slots]
    omega
  · exact accounted.allocated_le
  · simp only [List.length_append, List.length_singleton, Option.toList_none, total_nil,
      Activity.inTransit]
    omega
  · exact accounted.available_le
  · intro queued isQueued
    rcases List.mem_append.mp isQueued with isOld | isNew
    · exact accounted.queued queued isOld
    · rw [List.mem_singleton.mp isNew]
      exact accounted.intact
  · rintro activity ⟨⟩

end TaskAccounted

/-- Every atomic step keeps the books. -/
theorem stepActivity_accounted {state after : PoolState settings} {choice : PoolChoice}
    (stepped : stepActivity state task choice = some (after, rest))
    (accounted : TaskAccounted state task) : StepAccounted state task after rest := by
  cases task with
  | acquiring =>
    cases choice with
    | proceed =>
      cases stepped
      exact accounted.pop
    | _ => cases stepped
  | popped allocation =>
    cases choice with
    | proceed =>
      cases stepped
      exact accounted.takePopped
    | _ => cases stepped
  | reserving =>
    cases choice with
    | proceed =>
      cases stepped
      exact accounted.keep rfl rfl trivial
    | _ => cases stepped
  | sawAllocated allocated =>
    cases choice with
    | proceed =>
      cases stepped
      exact accounted.tryReserveSlot false
    | spurious =>
      cases stepped
      exact accounted.tryReserveSlot true
    | _ => cases stepped
  | allocating countsTowardPool =>
    cases choice with
    | allocate given =>
      cases stepped
      exact accounted.keep rfl rfl rfl
    | _ => cases stepped
  | holding held =>
    cases choice with
    | operate operation =>
      simp only [stepActivity] at stepped
      split at stepped
      next changed operated =>
        cases stepped
        have same := HeldBuffer.operate_eq operated
        exact accounted.keep (by simp [Activity.slots, same.2.2]) rfl
          (same.1.trans (accounted.intact.trans same.2.1.symm))
      next =>
        cases stepped
        exact accounted.keep rfl rfl accounted.intact
    | drop =>
      cases stepped
      exact accounted.keep rfl rfl accounted.intact
    | freeze =>
      cases stepped
      exact accounted.keep rfl rfl accounted.intact
    | _ => cases stepped
  | dropping dropped =>
    cases choice with
    | proceed =>
      have dropStarted := accounted.startDrop
      rw [Option.some.inj stepped] at dropStarted
      exact dropStarted
    | _ => cases stepped
  | sawPoolSize allocation currentSize =>
    cases choice with
    | proceed =>
      have returned := accounted.tryReturn false
      rw [Option.some.inj stepped] at returned
      exact returned
    | spurious =>
      have returned := accounted.tryReturn true
      rw [Option.some.inj stepped] at returned
      exact returned
    | _ => cases stepped
  | pushing allocation =>
    cases choice with
    | proceed =>
      have pushed := accounted.push
      rw [Option.some.inj stepped] at pushed
      exact pushed
    | _ => cases stepped
  | pushFailed => exact accounted.intact.elim
  | releasing => exact accounted.intact.elim

theorem run_accounted {moves : List (Move (Activity settings) PoolChoice)}
    (ran : (poolProtocol settings).run (newPool settings) moves = some system) :
    Accounted system := by
  apply Protocol.run_invariant _ _ ran (accounted_newPool settings)
  · intro state tasks task starts accounted
    have isAcquiring : task = .acquiring := by
      cases task with
      | acquiring => rfl
      | _ => cases starts
    rw [isAcquiring]
    constructor
    · simpa [Activity.slots] using accounted.allocated
    · exact accounted.allocated_le
    · simpa [Activity.inTransit] using accounted.available
    · exact accounted.available_le
    · exact accounted.queued
    · rw [List.forall_mem_append, List.forall_mem_singleton]
      exact ⟨accounted.intact, trivial⟩
  · intro state front task back choice after rest stepped accounted
    have taskAccounted : TaskAccounted state task :=
      accounted.taskAccounted (List.mem_append_right _ List.mem_cons_self)
    exact accounted.step (stepActivity_accounted stepped taskAccounted)

/-! ## The bounds of a pool -/

namespace Activity

/-- No operation of the pool is in progress. -/
def Idle : Activity settings → Prop
  | holding _ => True
  | _ => False

/-- The next step takes one off the available counter. -/
def DecrementsAvailable : Activity settings → Prop
  | popped _ | pushFailed => True
  | _ => False

/-- The next step takes one off the allocated counter. -/
def DecrementsAllocated : Activity settings → Prop
  | dropping dropped =>
    dropped.storage.capacity ≠ dropped.expectedCapacity ∧ dropped.countsTowardPool = true
  | sawPoolSize _ currentSize => settings.maxPoolSize ≤ currentSize
  | releasing => True
  | _ => False

end Activity

/-- What a pool guarantees at every moment.  A buffer counts until its slot is given back. -/
structure PoolGuarantees (system : System (PoolState settings) (Activity settings)) : Prop where
  bounded : total Activity.slots system.tasks + system.shared.pool.length ≤
    settings.maxPoolSize
  allocated : (∀ task ∈ system.tasks, task.Idle) → system.shared.allocatedCount =
    total Activity.slots system.tasks + system.shared.pool.length
  available : system.shared.pool.length ≤ system.shared.poolSize
  availableNonzero : ∀ task ∈ system.tasks, task.DecrementsAvailable → 0 < system.shared.poolSize
  allocatedNonzero : ∀ task ∈ system.tasks, task.DecrementsAllocated →
    0 < system.shared.allocatedCount
  notFull : ∀ allocation, .pushing allocation ∈ system.tasks →
    system.shared.pool.length < settings.queueCapacity
  queued : ∀ allocation ∈ system.shared.pool, allocation.Fresh

theorem Activity.DecrementsAvailable.inTransit
    (decrements : task.DecrementsAvailable) : task.inTransit = 1 := by
  cases task with
  | popped allocation => rfl
  | pushFailed => rfl
  | _ => cases decrements

theorem Activity.DecrementsAllocated.slots
    (decrements : task.DecrementsAllocated) : task.slots = 1 := by
  cases task with
  | dropping dropped => exact congrArg Bool.toNat decrements.2
  | sawPoolSize allocation currentSize => rfl
  | releasing => rfl
  | _ => cases decrements

/-- In every interleaving of acquisitions, drops, freezes and operations that grow buffers, a pool
counts at most its maximum, its counters are right and do not underflow, a returned allocation
finds a place, and what is queued is as good as new. -/
theorem poolProtocol_guarantees (settings : PoolSettings)
    (moves : List (Move (Activity settings) PoolChoice))
    (system : System (PoolState settings) (Activity settings))
    (ran : (poolProtocol settings).run (newPool settings) moves = some system) :
    PoolGuarantees system := by
  have accounted := run_accounted ran
  have allocated := accounted.allocated
  constructor
  · have bound := accounted.allocated_le
    omega
  · intro _
    omega
  · have available := accounted.available
    omega
  · intro task isTask decrements
    have owned := (accounted.taskAccounted isTask).inTransit_le
    rw [decrements.inTransit] at owned
    omega
  · intro task isTask decrements
    have owned := (accounted.taskAccounted isTask).slots_le
    rw [decrements.slots] at owned
    omega
  · intro allocation isPushing
    exact (accounted.taskAccounted isPushing).pool_lt_queueCapacity
  · exact accounted.queued

/-- A pool that counts a single allocation of eight octets. -/
def singlePool : PoolSettings :=
  ⟨8, 4, 1, by decide, by decide⟩

/-- While the first buffer is held a second task falls back; both are dropped, and only the counted
allocation is queued. -/
theorem singlePool_returned : @PoolGuarantees singlePool ⟨⟨[.new singlePool 8], 1, 1⟩, []⟩ :=
  poolProtocol_guarantees singlePool
    [.start .acquiring, .step 0 .proceed, .step 0 .proceed, .step 0 .proceed,
      .step 0 (.allocate 8), .start .acquiring, .step 1 .proceed, .step 1 .proceed,
      .step 1 .proceed, .step 1 (.allocate 8), .step 1 .drop, .step 1 .proceed,
      .step 0 (.operate (.copyFromSlice [1, 2])), .step 0 .drop, .step 0 .proceed,
      .step 0 .spurious, .step 0 .proceed, .step 0 .proceed] _ (by rfl)

end NntpProxy.Buffers
