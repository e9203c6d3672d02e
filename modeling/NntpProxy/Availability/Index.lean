import NntpProxy.Availability.Facts

/-!
# The availability index

The index spreads the blocks of its generations over shards, each with a lock, a filter and
counters of its own.  The hash of a key chooses a block among all of them, and so the shard.
Until the first fact was recorded a latch keeps lookups from looking at a shard at all.

Records and lookups go to one shard.  Taking a snapshot rotates all of them, and counting the
entries rotates one after the other, so that other operations may come between.
-/

namespace NntpProxy.Availability

open Protocol Router Data Cache FilterState ArticleFingerprint

/-! ## Geometry -/

def blockBytes : Nat := 40

/-- What an index is built from. -/
structure Geometry where
  capacityBytes : UInt64
  ttlMillis : UInt64
  generationCount : Nat
  shardCount : Nat
  deriving DecidableEq, Repr

namespace Geometry

variable (geometry : Geometry)

def totalBlocks : Nat :=
  geometry.capacityBytes.toNat / blockBytes

def generations : Nat :=
  min (max geometry.generationCount 1) (max geometry.totalBlocks 1)

def blocksPerGeneration : Nat :=
  if geometry.totalBlocks = 0 then 0 else geometry.totalBlocks / geometry.generations

def rotationIntervalMillis : UInt64 :=
  if geometry.ttlMillis = 0 then 0
  else if geometry.ttlMillis = maxMillis then maxMillis
  else UInt64.ofNat (max (geometry.ttlMillis.toNat / geometry.generations) 1)

def shards : Nat :=
  min (max geometry.shardCount 1) (max geometry.blocksPerGeneration 1)

/-- The blocks of a generation that a shard has. -/
def shardBlocks (shard : Nat) : Nat :=
  geometry.blocksPerGeneration / geometry.shards +
    if shard < geometry.blocksPerGeneration % geometry.shards then 1 else 0

theorem generations_pos : 0 < geometry.generations :=
  Nat.lt_min.mpr ⟨Nat.le_max_right _ _, Nat.le_max_right _ _⟩

theorem shards_pos : 0 < geometry.shards :=
  Nat.lt_min.mpr ⟨Nat.le_max_right _ _, Nat.le_max_right _ _⟩

instance : NeZero geometry.generations :=
  ⟨Nat.ne_of_gt geometry.generations_pos⟩

theorem toNat_rotationIntervalMillis (limited : geometry.ttlMillis ≠ 0)
    (finite : geometry.ttlMillis ≠ maxMillis) :
    geometry.rotationIntervalMillis.toNat =
      max (geometry.ttlMillis.toNat / geometry.generations) 1 := by
  have inClock := geometry.ttlMillis.toNat_lt
  have smaller := Nat.div_le_self geometry.ttlMillis.toNat geometry.generations
  rw [rotationIntervalMillis, if_neg limited, if_neg finite]
  apply UInt64.toNat_ofNat_of_lt'
  rw [UInt64.size]
  omega

theorem rotationIntervalMillis_eq_max (unlimited : geometry.ttlMillis = maxMillis) :
    geometry.rotationIntervalMillis = maxMillis := by
  rw [rotationIntervalMillis, unlimited]
  rfl

variable {geometry} in
theorem rotationIntervalMillis_ne_zero (limited : geometry.ttlMillis ≠ 0) :
    geometry.rotationIntervalMillis ≠ 0 := by
  by_cases unlimited : geometry.ttlMillis = maxMillis
  · rw [geometry.rotationIntervalMillis_eq_max unlimited]
    decide
  · intro zero
    have value := geometry.toNat_rotationIntervalMillis limited unlimited
    rw [zero, UInt64.toNat_zero] at value
    omega

/-- The shard of a block, and its place there. -/
def locateBucket (global : Nat) : Fin geometry.shards × Nat :=
  (⟨global % geometry.shards, Nat.mod_lt _ geometry.shards_pos⟩, global / geometry.shards)

def blockIndex (hash : UInt64) (blockCount : Nat) : Nat :=
  ((hash >>> 32).toNat ^^^ hash.toNat) % blockCount

def locateHash (hash : UInt64) : Fin geometry.shards × Nat :=
  geometry.locateBucket
    (if geometry.blocksPerGeneration = 0 then 0
      else blockIndex hash geometry.blocksPerGeneration)

theorem locateBucket_lt {global : Nat} (allocated : global < geometry.blocksPerGeneration) :
    (geometry.locateBucket global).2 <
      geometry.shardBlocks (geometry.locateBucket global).1 := by
  have divided := Nat.div_add_mod global geometry.shards
  have blocksDivided := Nat.div_add_mod geometry.blocksPerGeneration geometry.shards
  change global / geometry.shards < geometry.blocksPerGeneration / geometry.shards +
    if global % geometry.shards < geometry.blocksPerGeneration % geometry.shards then 1 else 0
  rcases Nat.lt_or_ge (global / geometry.shards)
    (geometry.blocksPerGeneration / geometry.shards) with full | last
  · exact Nat.lt_add_right _ full
  · have same : global / geometry.shards = geometry.blocksPerGeneration / geometry.shards :=
      Nat.le_antisymm (Nat.div_le_div_right (Nat.le_of_lt allocated)) last
    rw [same] at divided
    rw [if_pos (by omega), same]
    exact Nat.lt_succ_self _

theorem locateHash_lt (allocated : geometry.blocksPerGeneration ≠ 0) (hash : UInt64) :
    (geometry.locateHash hash).2 < geometry.shardBlocks (geometry.locateHash hash).1 := by
  rw [locateHash, if_neg allocated]
  apply locateBucket_lt
  exact Nat.mod_lt _ (Nat.pos_of_ne_zero allocated)

end Geometry

/-! ## Hashes -/

/-- The two hash functions of keys. -/
structure Hashing where
  primary : Bytes → UInt64
  tag : Bytes → UInt16

/-- No key has the hash of a free slot. -/
def normalizeHash (hash : UInt64) : UInt64 :=
  if hash = 0 then 1 else hash

def ArticleFingerprint.fromKey (hashing : Hashing) (key : Bytes) : ArticleFingerprint :=
  ⟨normalizeHash (hashing.primary key), hashing.tag key⟩

/-! ## The index -/

/-- The bits of one provider. -/
def slotBit (slot : AvailabilitySlot) : MissingBits :=
  BitSet.empty.insert slot

@[simp]
theorem contains_slotBit (slot provider : AvailabilitySlot) :
    (slotBit slot).contains provider = true ↔ provider = slot := by
  simp [slotBit]

theorem slotBit_ne_empty (slot : AvailabilitySlot) : slotBit slot ≠ .empty := by
  intro empty
  have present : (slotBit slot).contains slot = true := (contains_slotBit slot slot).mpr rfl
  rw [empty, BitSet.contains_empty] at present
  cases present

structure ShardCounters where
  hits : Nat
  misses : Nat
  evictions : Nat
  deriving DecidableEq, Repr

structure ShardState (n : Nat) where
  filter : FilterState n
  counters : ShardCounters

/-- The entry that a lookup answers with. -/
def negativeOnly (bits : MissingBits) (now : UInt64) : CachedArticle :=
  ⟨⟨bits⟩, ((List.finRange maxBackends).filter bits.contains).map (·, now), missingStatus,
    .missing, 0, now⟩

namespace ShardState

variable {n : Nat} [NeZero n]

section

variable (shard : ShardState n) (fingerprint : ArticleFingerprint) (key : Bytes)

def lookup (block : Nat) (now : UInt64) : Option CachedArticle × ShardState n :=
  let (bits, filter, evicted) := shard.filter.lookupMissingBits fingerprint key block now
  let evictions := shard.counters.evictions + evicted
  if bits = .empty then
    (none, ⟨filter,
      { shard.counters with misses := shard.counters.misses + 1, evictions := evictions }⟩)
  else
    (some (negativeOnly bits now), ⟨filter,
      { shard.counters with hits := shard.counters.hits + 1, evictions := evictions }⟩)

def recordMissing (bits : MissingBits) (block : Nat) (now : UInt64) : ShardState n :=
  let (filter, evicted) := shard.filter.insertMissingBits fingerprint key bits block now
  ⟨filter, { shard.counters with evictions := shard.counters.evictions + evicted }⟩

end

/-- The part of snapshots and of entry counts that changes a shard. -/
def rotate (shard : ShardState n) (now : UInt64) : ShardState n :=
  let (filter, evicted) := shard.filter.rotateIfNeeded now
  ⟨filter, { shard.counters with evictions := shard.counters.evictions + evicted }⟩

end ShardState

/-- The shards, and whether a fact was ever recorded. -/
structure AvailabilityIndex (geometry : Geometry) where
  shards : Fin geometry.shards → ShardState geometry.generations
  populated : Bool

/-- What is done to an index, with the time of the clock. -/
inductive IndexEvent (geometry : Geometry) where
  | record (key : Bytes) (slot : AvailabilitySlot) (now : UInt64)
  | lookup (key : Bytes) (now : UInt64)
  | snapshot (now : UInt64)
  | countShard (shard : Fin geometry.shards) (now : UInt64)
  deriving DecidableEq

namespace AvailabilityIndex

variable {geometry : Geometry} (hashing : Hashing)

def withGeometry (geometry : Geometry) : AvailabilityIndex geometry :=
  ⟨fun shard =>
    ⟨.new (geometry.shardBlocks shard) geometry.rotationIntervalMillis, ⟨0, 0, 0⟩⟩, false⟩

section

variable (index : AvailabilityIndex geometry)

/-- Change a shard, under its lock. -/
def setShard (shard : Fin geometry.shards)
    (state : ShardState geometry.generations) : AvailabilityIndex geometry :=
  { index with shards := Function.update index.shards shard state }

def lookupByKey (key : Bytes) (now : UInt64) :
    Option CachedArticle × AvailabilityIndex geometry :=
  if index.populated = false then (none, index)
  else
    let fingerprint := fromKey hashing key
    let (shard, block) := geometry.locateHash fingerprint.hash
    let (found, state) := (index.shards shard).lookup fingerprint key block now
    (found, index.setShard shard state)

def insertMissingBits (key : Bytes) (bits : MissingBits)
    (now : UInt64) : AvailabilityIndex geometry :=
  if key = [] ∨ bits = .empty ∨ geometry.ttlMillis = 0 then index
  else
    let fingerprint := fromKey hashing key
    let (shard, block) := geometry.locateHash fingerprint.hash
    { index.setShard shard ((index.shards shard).recordMissing fingerprint key bits block now) with
      populated := true }

def recordAvailabilityMissing (key : Bytes) (slot : AvailabilitySlot)
    (now : UInt64) : AvailabilityIndex geometry :=
  index.insertMissingBits hashing key (slotBit slot) now

/-- Rotate all shards, as a snapshot does before it reads them. -/
def rotateAll (now : UInt64) : AvailabilityIndex geometry :=
  { index with shards := fun shard => (index.shards shard).rotate now }

/-- The entries of one shard, as an entry count sums them up. -/
def countShard (shard : Fin geometry.shards) (now : UInt64) : Nat × AvailabilityIndex geometry :=
  let state := (index.shards shard).rotate now
  (state.filter.occupiedSlots, index.setShard shard state)

def apply : IndexEvent geometry → AvailabilityIndex geometry
  | .record key slot now => index.recordAvailabilityMissing hashing key slot now
  | .lookup key now => (index.lookupByKey hashing key now).2
  | .snapshot now => index.rotateAll now
  | .countShard shard now => (index.countShard shard now).2

end

/-- The index behind some events. -/
def behind (events : List (IndexEvent geometry)) : AvailabilityIndex geometry :=
  events.foldl (apply hashing) (withGeometry geometry)

theorem behind_concat (events : List (IndexEvent geometry)) (event : IndexEvent geometry) :
    behind hashing (events ++ [event]) = (behind hashing events).apply hashing event := by
  rw [behind, List.foldl_append]
  rfl

end AvailabilityIndex

/-! ## What an event does to a shard -/

namespace FilterState

variable {n : Nat} [NeZero n]

@[simp]
theorem lookupMissingBits_filter (filter : FilterState n) (fingerprint : ArticleFingerprint)
    (key : Bytes) (block : Nat) (now : UInt64) :
    (filter.lookupMissingBits fingerprint key block now).2.1 = (filter.rotateIfNeeded now).1 := by
  simp only [lookupMissingBits]
  split <;> rfl

end FilterState

/-- The entry that was found, if any, says that the provider misses the article. -/
def saysMissing (found : Option CachedArticle) (provider : AvailabilitySlot) : Bool :=
  match found with
  | none => false
  | some entry => entry.backendAvailability.isMissingSlot provider

namespace ShardState

variable {n : Nat} [NeZero n]

variable (shard : ShardState n) (fingerprint : ArticleFingerprint) (key : Bytes) (block : Nat)
    (now : UInt64)

@[simp]
theorem lookup_filter :
    (shard.lookup fingerprint key block now).2.filter = (shard.filter.rotateIfNeeded now).1 := by
  rw [← lookupMissingBits_filter shard.filter fingerprint key block now]
  simp only [lookup]
  split <;> rfl

theorem saysMissing_lookup (provider : AvailabilitySlot) :
    saysMissing (shard.lookup fingerprint key block now).1 provider =
      (shard.filter.lookupMissingBits fingerprint key block now).1.contains provider := by
  simp only [lookup]
  split
  next empty => simp [saysMissing, empty]
  · rfl

end ShardState

namespace AvailabilityIndex

variable {geometry : Geometry} {hashing : Hashing}

/-- An event leaves the filter of a shard as it is, or rotates it, or records a fact there. -/
inductive FilterStep (hashing : Hashing) (filter : FilterState geometry.generations) :
    IndexEvent geometry → FilterState geometry.generations → Prop
  | same (event : IndexEvent geometry) : FilterStep hashing filter event filter
  | rotate (event : IndexEvent geometry) (now : UInt64) :
      FilterStep hashing filter event (filter.rotateIfNeeded now).1
  | record (key : Bytes) (slot : AvailabilitySlot) (now : UInt64) (block : Nat) :
      FilterStep hashing filter (.record key slot now)
        (filter.insertMissingBits (.fromKey hashing key) key (slotBit slot) block now).1

@[simp]
theorem shards_setShard_self (index : AvailabilityIndex geometry) (shard : Fin geometry.shards)
    (state : ShardState geometry.generations) : (index.setShard shard state).shards shard = state :=
  Function.update_self _ _ _

theorem shards_setShard_of_ne (index : AvailabilityIndex geometry)
    {shard touched : Fin geometry.shards} (other : shard ≠ touched)
    (state : ShardState geometry.generations) :
    (index.setShard touched state).shards shard = index.shards shard :=
  Function.update_of_ne other _ _

theorem filterStep_setShard {index : AvailabilityIndex geometry} {event : IndexEvent geometry}
    {touched : Fin geometry.shards} {state : ShardState geometry.generations}
    (step : FilterStep hashing (index.shards touched).filter event state.filter)
    (shard : Fin geometry.shards) :
    FilterStep hashing (index.shards shard).filter event
      ((index.setShard touched state).shards shard).filter := by
  by_cases same : shard = touched
  · subst same
    rw [shards_setShard_self]
    exact step
  · rw [shards_setShard_of_ne index same]
    exact .same event

theorem filterStep_apply (index : AvailabilityIndex geometry) (event : IndexEvent geometry)
    (shard : Fin geometry.shards) :
    FilterStep hashing (index.shards shard).filter event
      ((index.apply hashing event).shards shard).filter := by
  cases event with
  | record key slot now =>
    simp only [apply, recordAvailabilityMissing, insertMissingBits]
    split
    · exact .same _
    · exact filterStep_setShard (.record key slot now _) shard
  | lookup key now =>
    simp only [apply, lookupByKey]
    split
    · exact .same _
    · apply filterStep_setShard
      rw [ShardState.lookup_filter]
      exact .rotate _ now
  | snapshot now => exact .rotate _ now
  | countShard counted now => exact filterStep_setShard (.rotate _ now) shard

/-- A lookup says that the provider misses the article. -/
def reports (hashing : Hashing) (index : AvailabilityIndex geometry) (key : Bytes)
    (provider : AvailabilitySlot) (now : UInt64) : Bool :=
  saysMissing (index.lookupByKey hashing key now).1 provider

/-- Where a key belongs. -/
def partition (hashing : Hashing) (geometry : Geometry) (key : Bytes) : Fin geometry.shards × Nat :=
  geometry.locateHash (fromKey hashing key).hash

/-- What holds of the new filter of a shard and survives rotations and the facts of the events
holds behind the events. -/
theorem filter_behind_induction (property : FilterState geometry.generations → Prop)
    (events : List (IndexEvent geometry)) (shard : Fin geometry.shards)
    (new : property (.new (geometry.shardBlocks shard) geometry.rotationIntervalMillis))
    (rotate : ∀ filter now, property filter → property (filter.rotateIfNeeded now).1)
    (record : ∀ filter key slot now block, IndexEvent.record key slot now ∈ events →
      property filter →
        property (filter.insertMissingBits (.fromKey hashing key) key (slotBit slot) block
          now).1) : property ((behind hashing events).shards shard).filter := by
  induction events using List.reverseRecOn with
  | nil => exact new
  | append_singleton events event ih =>
    have before := ih fun filter key slot now block recorded =>
      record filter key slot now block (List.mem_append_left _ recorded)
    rw [behind_concat]
    have step : FilterStep hashing _ event _ :=
      filterStep_apply (behind hashing events) event shard
    generalize (((behind hashing events).apply hashing event).shards shard).filter = after
      at step ⊢
    cases step with
    | same => exact before
    | rotate _ now => exact rotate _ now before
    | record key slot now block =>
      exact record _ key slot now block (List.mem_append_right _ List.mem_cons_self) before

theorem valid_behind (events : List (IndexEvent geometry)) (shard : Fin geometry.shards) :
    ((behind hashing events).shards shard).filter.Valid := by
  apply filter_behind_induction FilterState.Valid events shard (valid_new _ _)
  · intro filter now valid
    exact valid_rotateIfNeeded valid
  · intro filter key slot now block _ valid
    exact valid_insertMissingBits valid (slotBit_ne_empty slot)

theorem dimensions_behind (events : List (IndexEvent geometry)) (shard : Fin geometry.shards) :
    ((behind hashing events).shards shard).filter.dimensions =
      (geometry.shardBlocks shard, geometry.rotationIntervalMillis) := by
  apply filter_behind_induction
    (fun filter =>
      filter.dimensions = (geometry.shardBlocks shard, geometry.rotationIntervalMillis))
    events shard rfl
  · intro filter now same
    rw [dimensions_rotateIfNeeded, same]
  · intro filter key slot now block _ same
    rw [dimensions_insertMissingBits (slotBit_ne_empty slot), same]

/-! ## The filter of a key -/

def filterOf (hashing : Hashing) (index : AvailabilityIndex geometry) (key : Bytes) :
    FilterState geometry.generations :=
  (index.shards (partition hashing geometry key).1).filter

/-- A filter reports the provider for a key, in the key's own block. -/
def Holds (hashing : Hashing) (filter : FilterState geometry.generations) (key : Bytes)
    (provider : AvailabilitySlot) : Prop :=
  filter.Reports (.fromKey hashing key) key (partition hashing geometry key).2 provider

variable {index : AvailabilityIndex geometry} {key : Bytes} {slot provider : AvailabilitySlot}
  {now : UInt64} {events : List (IndexEvent geometry)}

theorem valid_filterOf : ((behind hashing events).filterOf hashing key).Valid :=
  valid_behind events _

theorem open_filterOf (allocated : geometry.blocksPerGeneration ≠ 0)
    (limited : geometry.ttlMillis ≠ 0) : ((behind hashing events).filterOf hashing key).Open := by
  rcases Prod.ext_iff.mp (dimensions_behind events (partition hashing geometry key).1) with
    ⟨blocks, interval⟩
  constructor
  · intro unallocated
    have room : (partition hashing geometry key).2 <
        geometry.shardBlocks (partition hashing geometry key).1 :=
      geometry.locateHash_lt allocated _
    rw [show geometry.shardBlocks (partition hashing geometry key).1 = 0 from
      blocks.symm.trans unallocated] at room
    exact Nat.not_lt_zero _ room
  · intro zero
    exact Geometry.rotationIntervalMillis_ne_zero limited (interval.symm.trans zero)

theorem finite_of_rotates (rotates : ((behind hashing events).filterOf hashing key).Rotates) :
    geometry.ttlMillis ≠ maxMillis := by
  intro unlimited
  apply rotates.2
  rw [← geometry.rotationIntervalMillis_eq_max unlimited]
  exact congrArg Prod.snd (dimensions_behind events (partition hashing geometry key).1)

theorem reports_iff :
    index.reports hashing key provider now = true ↔
      index.populated = true ∧ (index.filterOf hashing key).blocksPerGeneration ≠ 0 ∧
        Holds hashing ((index.filterOf hashing key).rotateIfNeeded now).1 key provider := by
  rw [reports, lookupByKey, filterOf, Holds, ← contains_lookupMissingBits,
    ← ShardState.saysMissing_lookup]
  cases populated : index.populated with
  | false => simp [saysMissing]
  | true => simp [partition]

theorem filterOf_lookupByKey (populated : index.populated = true) :
    (index.lookupByKey hashing key now).2.filterOf hashing key =
      ((index.filterOf hashing key).rotateIfNeeded now).1 := by
  rw [lookupByKey, if_neg (by rw [populated]; decide), filterOf]
  exact (congrArg ShardState.filter (shards_setShard_self _ _ _)).trans
    (ShardState.lookup_filter _ _ _ _ _)

section
variable (named : key ≠ []) (limited : geometry.ttlMillis ≠ 0)
include named limited

theorem filterOf_record :
    (index.recordAvailabilityMissing hashing key slot now).filterOf hashing key =
      ((index.filterOf hashing key).insertMissingBits (.fromKey hashing key) key (slotBit slot)
        (partition hashing geometry key).2 now).1 := by
  rw [recordAvailabilityMissing, insertMissingBits,
    if_neg (not_or.mpr ⟨named, not_or.mpr ⟨slotBit_ne_empty slot, limited⟩⟩)]
  exact congrArg ShardState.filter (shards_setShard_self _ _ _)

theorem populated_record :
    (index.recordAvailabilityMissing hashing key slot now).populated = true := by
  rw [recordAvailabilityMissing, insertMissingBits,
    if_neg (not_or.mpr ⟨named, not_or.mpr ⟨slotBit_ne_empty slot, limited⟩⟩)]

end

end AvailabilityIndex

end NntpProxy.Availability
