import NntpProxy.Availability.Unlimited

/-!
# Shards make no difference

A hash chooses one block among all blocks of a generation, and the shards only share the blocks out
between them.  With unlimited retention every shard keeps its facts in one generation, so that all
shards together stand for a single generation with all the blocks.  Records and lookups follow this
generation whatever the number of shards is, and two indexes that differ in it alone answer alike.
-/

namespace NntpProxy.Availability

open Protocol Router Data Cache AvailabilityIndex FilterState Geometry Generation ShardState

/-! ## Sharing out the blocks -/

namespace Geometry

variable (geometry : Geometry)

/-- The blocks that are allocated in the shards. -/
def allocatedBlocks : Set (Fin geometry.shards × Nat) :=
  {place | place.2 < geometry.shardBlocks place.1}

theorem locateBucket_injective : Function.Injective geometry.locateBucket := by
  intro first second same
  have sameShard : first % geometry.shards = second % geometry.shards :=
    congrArg (fun place => place.1.val) same
  have sameBlock : first / geometry.shards = second / geometry.shards := congrArg Prod.snd same
  rw [← Nat.div_add_mod first geometry.shards, sameShard, sameBlock, Nat.div_add_mod]

theorem locateBucket_mul_add (shard : Fin geometry.shards) (block : Nat) :
    geometry.locateBucket (geometry.shards * block + shard) = (shard, block) := by
  have positive := geometry.shards_pos
  apply Prod.ext
  · apply Fin.ext
    change (geometry.shards * block + shard) % geometry.shards = shard
    rw [Nat.mul_add_mod, Nat.mod_eq_of_lt shard.isLt]
  · change (geometry.shards * block + shard) / geometry.shards = block
    rw [Nat.mul_add_div positive, Nat.div_eq_of_lt shard.isLt, Nat.add_zero]

theorem mul_add_lt_blocksPerGeneration {shard : Fin geometry.shards} {block : Nat}
    (allocated : block < geometry.shardBlocks shard) :
    geometry.shards * block + shard < geometry.blocksPerGeneration := by
  have divided := Nat.div_add_mod geometry.blocksPerGeneration geometry.shards
  unfold shardBlocks at allocated
  split at allocated
  next longer =>
    have le : geometry.shards * block ≤
        geometry.shards * (geometry.blocksPerGeneration / geometry.shards) :=
      Nat.mul_le_mul_left _ (Nat.le_of_lt_succ allocated)
    omega
  next =>
    have le : geometry.shards * (block + 1) ≤
        geometry.shards * (geometry.blocksPerGeneration / geometry.shards) :=
      Nat.mul_le_mul_left _ allocated
    rw [Nat.mul_succ] at le
    omega

theorem bijOn_locateBucket :
    Set.BijOn geometry.locateBucket {global | global < geometry.blocksPerGeneration}
      geometry.allocatedBlocks := by
  refine ⟨?_, geometry.locateBucket_injective.injOn, ?_⟩
  · intro global allocated
    exact geometry.locateBucket_lt allocated
  · rintro ⟨shard, block⟩ allocated
    exact ⟨geometry.shards * block + shard, geometry.mul_add_lt_blocksPerGeneration allocated,
      geometry.locateBucket_mul_add shard block⟩

end Geometry

/-! ## One block of a generation -/

namespace Generation

variable {generation first second : Generation} {fingerprint : ArticleFingerprint} {key : Bytes}
  {bits : MissingBits} {block firstBlock secondBlock : Nat}

/-- All that a generation has about a block. -/
def cell (generation : Generation) (block : Nat) : Block × (Fin blockSlots → Option Bytes) :=
  (generation.blocks block, generation.keys block)

section

variable (same : first.cell firstBlock = second.cell secondBlock)

include same

theorem exactSlots_congr :
    first.exactSlots fingerprint key firstBlock =
      second.exactSlots fingerprint key secondBlock := by
  obtain ⟨blocks, keys⟩ := Prod.ext_iff.mp same
  simp only [cell] at blocks keys
  unfold exactSlots
  rw [blocks, keys]

theorem lookupMissingBits_congr :
    first.lookupMissingBits fingerprint key firstBlock =
      second.lookupMissingBits fingerprint key secondBlock := by
  unfold lookupMissingBits
  rw [exactSlots_congr same, show first.blocks firstBlock = second.blocks secondBlock from
    congrArg Prod.fst same]

theorem slotFor_congr (hash : UInt64) :
    first.slotFor hash firstBlock = second.slotFor hash secondBlock := by
  unfold slotFor
  rw [show first.blocks firstBlock = second.blocks secondBlock from congrArg Prod.fst same]

end

theorem cell_addBits (generation : Generation) (bits : MissingBits) (block : Nat)
    (slot : Fin blockSlots) :
    (generation.addBits bits block slot).cell block =
      ({ generation.blocks block with
          missing := Function.update (generation.blocks block).missing slot
            (((generation.blocks block).missing slot).union bits) }, generation.keys block) := by
  simp only [cell, addBits, Function.update_self]

theorem cell_takeSlot (generation : Generation) (fingerprint : ArticleFingerprint) (key : Bytes)
    (bits : MissingBits) (block : Nat) (slot : Fin blockSlots) :
    (generation.takeSlot fingerprint key bits block slot).cell block =
      (⟨Function.update (generation.blocks block).hashes slot fingerprint.hash,
          Function.update (generation.blocks block).tags slot fingerprint.tag,
          Function.update (generation.blocks block).missing slot bits⟩,
        Function.update (generation.keys block) slot (some key)) := by
  simp only [cell, takeSlot, Function.update_self]

theorem insertMissingBits_congr (same : first.cell firstBlock = second.cell secondBlock) :
    (first.insertMissingBits fingerprint key bits firstBlock).1.cell firstBlock =
        (second.insertMissingBits fingerprint key bits secondBlock).1.cell secondBlock ∧
      (first.insertMissingBits fingerprint key bits firstBlock).2 =
        (second.insertMissingBits fingerprint key bits secondBlock).2 := by
  have blocks : first.blocks firstBlock = second.blocks secondBlock := congrArg Prod.fst same
  have keys : first.keys firstBlock = second.keys secondBlock := congrArg Prod.snd same
  unfold insertMissingBits
  rw [exactSlots_congr same]
  cases (second.exactSlots fingerprint key secondBlock).head? with
  | some slot =>
    constructor
    · rw [cell_addBits, cell_addBits, blocks, keys]
    · rfl
  | none =>
    rw [slotFor_congr same, blocks]
    constructor
    · rw [cell_takeSlot, cell_takeSlot, blocks, keys]
    · rfl

theorem insertMissingBits_cell_of_ne {other : Nat} (different : other ≠ block) :
    (generation.insertMissingBits fingerprint key bits block).1.cell other =
      generation.cell other := by
  unfold insertMissingBits
  split
  · simp only [cell, addBits, Function.update_of_ne different]
  · simp only [cell, takeSlot, Function.update_of_ne different]

theorem insertMissingBits_occupied :
    (generation.insertMissingBits fingerprint key bits block).1.occupied = generation.occupied := by
  unfold insertMissingBits
  split <;> rfl

@[simp]
theorem cell_countInserted (outcome : InsertOutcome) (generation : Generation) (block : Nat) :
    (countInserted outcome generation).cell block = generation.cell block := by
  cases outcome with
  | inserted => rfl
  | updated => rfl
  | replaced => rfl

/-- The free slot that an outcome counts. -/
def InsertOutcome.added : InsertOutcome → Nat
  | .inserted => 1
  | .updated | .replaced => 0

theorem occupied_countInserted (outcome : InsertOutcome) (generation : Generation) :
    (countInserted outcome generation).occupied =
      generation.occupied + InsertOutcome.added outcome := by
  cases outcome with
  | inserted => rfl
  | updated => rfl
  | replaced => rfl

theorem cell_store_congr (same : first.cell firstBlock = second.cell secondBlock) :
    (first.store fingerprint key bits firstBlock).1.cell firstBlock =
      (second.store fingerprint key bits secondBlock).1.cell secondBlock := by
  simp only [store, cell_countInserted]
  exact (insertMissingBits_congr same).1

theorem cell_store_of_ne {other : Nat} (different : other ≠ block) :
    (generation.store fingerprint key bits block).1.cell other = generation.cell other := by
  simp only [store, cell_countInserted]
  exact insertMissingBits_cell_of_ne different

theorem occupied_store_congr (same : first.cell firstBlock = second.cell secondBlock) :
    ∃ added, (first.store fingerprint key bits firstBlock).1.occupied = first.occupied + added ∧
      (second.store fingerprint key bits secondBlock).1.occupied = second.occupied + added := by
  refine ⟨InsertOutcome.added (second.insertMissingBits fingerprint key bits secondBlock).2, ?_, ?_⟩
  · simp only [store, occupied_countInserted, insertMissingBits_occupied]
    rw [(insertMissingBits_congr same).2]
  · simp only [store, occupied_countInserted, insertMissingBits_occupied]

theorem lookupMissingBits_of_new (fresh : generation.cell block = new.cell block) :
    generation.lookupMissingBits fingerprint key block = .empty := by
  have keys : generation.keys block = fun _ => none := congrArg Prod.snd fresh
  have none : generation.exactSlots fingerprint key block = [] := by
    rw [List.eq_nil_iff_forall_not_mem]
    intro slot exact
    have named := (mem_exactSlots_iff.mp exact).2.2
    rw [keys] at named
    cases named
  rw [lookupMissingBits, none]
  rfl

end Generation

/-! ## The filter of a shard -/

namespace FilterState

variable {n : Nat} [NeZero n] {filter : FilterState n} {fingerprint : ArticleFingerprint}
  {key : Bytes} {bits : MissingBits} {block : Nat} {now : UInt64}

/-- The facts of the filter are in its current generation, all of them. -/
structure OneGeneration (filter : FilterState n) : Prop where
  lasting : filter.Lasting
  unstarted : filter.liveGenerations = 0 →
    filter.current.occupied = 0 ∧ ∀ block, filter.current.cell block = Generation.new.cell block

theorem OneGeneration.occupiedSlots (one : filter.OneGeneration) :
    filter.occupiedSlots = filter.current.occupied := by
  unfold FilterState.occupiedSlots activeGenerations
  rcases Nat.le_one_iff_eq_zero_or_eq_one.mp one.lasting.live_le with none | single
  · rw [none, (one.unstarted none).1]
    rfl
  · simp [single, current]

theorem OneGeneration.lookupMissingBits (one : filter.OneGeneration) :
    filter.lookupMissingBits fingerprint key block now =
      (if filter.blocksPerGeneration = 0 then .empty
        else filter.current.lookupMissingBits fingerprint key block, filter, 0) := by
  unfold FilterState.lookupMissingBits
  simp only [rotateIfNeeded_of_unlimited one.lasting.unlimited]
  split
  next => rfl
  next =>
    congr 1
    unfold activeGenerations
    rcases Nat.le_one_iff_eq_zero_or_eq_one.mp one.lasting.live_le with none | single
    · rw [none, lookupMissingBits_of_new ((one.unstarted none).2 block)]
      rfl
    · have joined : BitSet.empty.union
          (filter.current.lookupMissingBits fingerprint key block) =
            filter.current.lookupMissingBits fingerprint key block := by
        apply BitSet.ext_contains
        simp
      simp only [single, List.range_one, List.map_cons, List.map_nil, lookupIn, ite_self]
      exact joined

/-- All that a record does is to store the fact in the current generation, which it may start. -/
structure Records (filter : FilterState n) (fingerprint : ArticleFingerprint) (key : Bytes)
    (bits : MissingBits) (block : Nat) (after : FilterState n) : Prop where
  one : after.OneGeneration
  blocks : after.blocksPerGeneration = filter.blocksPerGeneration
  current : ∃ started, after.current =
    ({ filter.current with startedAt := started }.store fingerprint key bits block).1

theorem exists_current_insertMissingBits (lasting : filter.Lasting)
    (allocated : filter.blocksPerGeneration ≠ 0) (some : bits ≠ .empty) :
    ∃ started, (filter.insertMissingBits fingerprint key bits block now).1.current =
      ({ filter.current with startedAt := started }.store fingerprint key bits block).1 := by
  rw [insertMissingBits_of_lasting lasting allocated some, current_insertInCurrent]
  unfold ensureCurrentGenerationStarted
  split
  next => exact ⟨filter.current.startedAt, rfl⟩
  next =>
    refine ⟨now, ?_⟩
    rw [current_start]

theorem OneGeneration.records (one : filter.OneGeneration)
    (allocated : filter.blocksPerGeneration ≠ 0) (some : bits ≠ .empty) :
    filter.Records fingerprint key bits block
      (filter.insertMissingBits fingerprint key bits block now).1 := by
  have stores : filter.StoresFact fingerprint key bits block
      (filter.insertMissingBits fingerprint key bits block now).1 :=
    storesFact_insertMissingBits one.lasting allocated some
  constructor
  · refine ⟨stores.lasting one.lasting, fun unstarted => ?_⟩
    rw [stores.live] at unstarted
    cases unstarted
  · exact congrArg Prod.fst stores.dimensions
  · exact exists_current_insertMissingBits one.lasting allocated some

theorem Records.cell_of_ne {after : FilterState n}
    (records : filter.Records fingerprint key bits block after) {other : Nat}
    (different : other ≠ block) : after.current.cell other = filter.current.cell other := by
  rcases records.current with ⟨started, current⟩
  rw [current]
  exact cell_store_of_ne different

section

variable {after : FilterState n} (records : filter.Records fingerprint key bits block after)
    {generation : Generation} {target : Nat}
    (same : filter.current.cell block = generation.cell target)

include records same

theorem Records.cell_congr :
    after.current.cell block = (generation.store fingerprint key bits target).1.cell target := by
  rcases records.current with ⟨started, current⟩
  rw [current]
  exact cell_store_congr same

theorem Records.occupied_congr :
    ∃ added, after.current.occupied = filter.current.occupied + added ∧
      (generation.store fingerprint key bits target).1.occupied = generation.occupied + added := by
  rcases records.current with ⟨started, current⟩
  rw [current]
  exact occupied_store_congr same

end

theorem oneGeneration_new (blocks : Nat) :
    (new blocks maxMillis : FilterState n).OneGeneration where
  lasting := ⟨rfl, Nat.zero_le 1, fun started => absurd rfl started⟩
  unstarted := fun _ => ⟨rfl, fun _ => rfl⟩

end FilterState

/-! ## An index in one piece -/

/-- What is asked of an index, with the time of the clock. -/
inductive IndexRequest where
  | record (key : Bytes) (bits : MissingBits) (now : UInt64)
  | lookup (key : Bytes) (now : UInt64)
  deriving DecidableEq

/-- An index without shards and without rotation: one generation, and whether a fact was ever
recorded. -/
structure WholeIndex where
  generation : Generation
  populated : Bool

namespace WholeIndex

variable (hashing : Hashing) (blocks : Nat)

def new : WholeIndex :=
  ⟨.new, false⟩

def lookup (whole : WholeIndex) (key : Bytes) (now : UInt64) : Option CachedArticle :=
  if whole.populated = false ∨ blocks = 0 then none
  else
    let fingerprint := ArticleFingerprint.fromKey hashing key
    let bits := whole.generation.lookupMissingBits fingerprint key
      (blockIndex fingerprint.hash blocks)
    if bits = .empty then none else some (negativeOnly bits now)

def record (whole : WholeIndex) (key : Bytes) (bits : MissingBits) : WholeIndex :=
  if key = [] ∨ bits = .empty then whole
  else if blocks = 0 then ⟨whole.generation, true⟩
  else
    let fingerprint := ArticleFingerprint.fromKey hashing key
    ⟨(whole.generation.store fingerprint key bits
      (blockIndex fingerprint.hash blocks)).1, true⟩

/-- The answers to the lookups, and the index behind the requests. -/
def serve (whole : WholeIndex) : List IndexRequest → List (Option CachedArticle) × WholeIndex
  | [] => ([], whole)
  | .record key bits _ :: requests => serve (whole.record hashing blocks key bits) requests
  | .lookup key now :: requests =>
    let (answers, last) := serve whole requests
    (whole.lookup hashing blocks key now :: answers, last)

end WholeIndex

namespace AvailabilityIndex

variable {geometry : Geometry}

/-- The answers to the lookups, and the index behind the requests. -/
def serve (hashing : Hashing) (index : AvailabilityIndex geometry) :
    List IndexRequest → List (Option CachedArticle) × AvailabilityIndex geometry
  | [] => ([], index)
  | .record key bits now :: requests =>
    serve hashing (index.insertMissingBits hashing key bits now) requests
  | .lookup key now :: requests =>
    let (found, after) := index.lookupByKey hashing key now
    let (answers, last) := serve hashing after requests
    (found :: answers, last)

/-- The entries of some shards, which are counted one after the other. -/
def countShards (index : AvailabilityIndex geometry) (times : Fin geometry.shards → UInt64) :
    List (Fin geometry.shards) → Nat × AvailabilityIndex geometry
  | [] => (0, index)
  | shard :: shards =>
    let (entries, after) := index.countShard shard (times shard)
    let (others, last) := after.countShards times shards
    (entries + others, last)

/-- The number of entries.  Every shard reads the clock for itself. -/
def entryCount (index : AvailabilityIndex geometry) (times : Fin geometry.shards → UInt64) :
    Nat × AvailabilityIndex geometry :=
  index.countShards times (List.finRange geometry.shards)

/-! ## Shards stand for the whole -/

/-- The shards hold together what the whole index does. -/
structure Represents (index : AvailabilityIndex geometry) (whole : WholeIndex) : Prop where
  populated : index.populated = whole.populated
  filters : ∀ shard, (index.shards shard).filter.OneGeneration
  blocks : ∀ shard, (index.shards shard).filter.blocksPerGeneration = geometry.shardBlocks shard
  cells : ∀ global, global < geometry.blocksPerGeneration →
    (index.shards (geometry.locateBucket global).1).filter.current.cell
        (geometry.locateBucket global).2 =
      whole.generation.cell global
  occupied : ∑ shard, (index.shards shard).filter.current.occupied = whole.generation.occupied

variable {hashing : Hashing} {index : AvailabilityIndex geometry} {whole : WholeIndex}
  {key : Bytes} {bits : MissingBits} {now : UInt64}

theorem represents_withGeometry (unlimited : geometry.ttlMillis = maxMillis) :
    (withGeometry geometry).Represents .new where
  populated := rfl
  filters := by
    intro shard
    change (new _ geometry.rotationIntervalMillis).OneGeneration
    rw [geometry.rotationIntervalMillis_eq_max unlimited]
    exact oneGeneration_new _
  blocks := fun _ => rfl
  cells := fun _ _ => rfl
  occupied := Finset.sum_const_zero

theorem Represents.blocks_locateHash (represents : index.Represents whole) (hash : UInt64) :
    (index.shards (geometry.locateHash hash).1).filter.blocksPerGeneration = 0 ↔
      geometry.blocksPerGeneration = 0 := by
  rw [represents.blocks]
  constructor
  · intro unallocated
    by_contra allocated
    have inShard := geometry.locateHash_lt allocated hash
    rw [unallocated] at inShard
    exact Nat.not_lt_zero _ inShard
  · intro unallocated
    simp [shardBlocks, unallocated]

theorem Represents.cell_locateHash (represents : index.Represents whole)
    (allocated : geometry.blocksPerGeneration ≠ 0) (hash : UInt64) :
    (index.shards (geometry.locateHash hash).1).filter.current.cell (geometry.locateHash hash).2 =
      whole.generation.cell (blockIndex hash geometry.blocksPerGeneration) := by
  rw [locateHash, if_neg allocated]
  exact represents.cells _ (Nat.mod_lt _ (Nat.pos_of_ne_zero allocated))

/-! ### Lookups -/

section

variable (represents : index.Represents whole)

include represents

/-- A change of the counters is no change of what the index stands for. -/
theorem Represents.setShard {shard : Fin geometry.shards} {state : ShardState geometry.generations}
    (same : state.filter = (index.shards shard).filter) :
    (index.setShard shard state).Represents whole := by
  have filters : ∀ other,
      ((index.setShard shard state).shards other).filter = (index.shards other).filter := by
    intro other
    by_cases touched : other = shard
    · rw [touched, shards_setShard_self, same]
    · rw [shards_setShard_of_ne index touched]
  constructor
  · exact represents.populated
  · intro other
    rw [filters]
    exact represents.filters other
  · intro other
    rw [filters]
    exact represents.blocks other
  · intro global allocated
    rw [filters]
    exact represents.cells global allocated
  · simp only [filters]
    exact represents.occupied

theorem Represents.lookupMissingBits (fingerprint : ArticleFingerprint) :
    ((index.shards (geometry.locateHash fingerprint.hash).1).filter.lookupMissingBits fingerprint
        key (geometry.locateHash fingerprint.hash).2 now).1 =
      if geometry.blocksPerGeneration = 0 then .empty
      else whole.generation.lookupMissingBits fingerprint key
        (blockIndex fingerprint.hash geometry.blocksPerGeneration) := by
  rw [(represents.filters _).lookupMissingBits]
  simp only [represents.blocks_locateHash]
  split
  next => rfl
  next allocated =>
    exact lookupMissingBits_congr (represents.cell_locateHash allocated _)

theorem Represents.populate :
    { index with populated := true }.Represents ⟨whole.generation, true⟩ :=
  ⟨rfl, represents.filters, represents.blocks, represents.cells, represents.occupied⟩

theorem Represents.lookup_found :
    (index.lookupByKey hashing key now).1 =
      whole.lookup hashing geometry.blocksPerGeneration key now := by
  unfold lookupByKey WholeIndex.lookup
  rw [represents.populated]
  cases whole.populated with
  | false => rfl
  | true =>
    simp only [Bool.true_eq_false, false_or, if_false, lookup,
      represents.lookupMissingBits]
    by_cases unallocated : geometry.blocksPerGeneration = 0
    · simp only [unallocated, if_true]
    · simp only [unallocated, if_false]
      split <;> rfl

theorem Represents.lookup_behind :
    (index.lookupByKey hashing key now).2.Represents whole := by
  unfold lookupByKey
  split
  · exact represents
  · apply represents.setShard
    rw [lookup_filter,
      rotateIfNeeded_of_unlimited (represents.filters _).lasting.unlimited]

end

/-! ### Records -/

theorem sum_occupied_setShard {shard : Fin geometry.shards}
    {state : ShardState geometry.generations} {added : Nat}
    (more : state.filter.current.occupied = (index.shards shard).filter.current.occupied + added) :
    ∑ other, ((index.setShard shard state).shards other).filter.current.occupied =
      ∑ other, (index.shards other).filter.current.occupied + added := by
  have others : ∀ other ∈ Finset.univ.erase shard,
      ((index.setShard shard state).shards other).filter.current.occupied =
        (index.shards other).filter.current.occupied := by
    intro other different
    rw [shards_setShard_of_ne index (Finset.ne_of_mem_erase different)]
  rw [← Finset.add_sum_erase _ _ (Finset.mem_univ shard), Finset.sum_congr rfl others,
    shards_setShard_self, more, ← Finset.add_sum_erase _ _ (Finset.mem_univ shard)]
  exact Nat.add_right_comm _ _ _

theorem Represents.store (represents : index.Represents whole) {target : Nat}
    (allocated : target < geometry.blocksPerGeneration)
    {state : ShardState geometry.generations} {fingerprint : ArticleFingerprint}
    (records : (index.shards (geometry.locateBucket target).1).filter.Records fingerprint key bits
      (geometry.locateBucket target).2 state.filter) :
    (index.setShard (geometry.locateBucket target).1 state).Represents
      ⟨(whole.generation.store fingerprint key bits target).1, whole.populated⟩ := by
  have same := represents.cells target allocated
  constructor
  · exact represents.populated
  · intro shard
    by_cases touched : shard = (geometry.locateBucket target).1
    · rw [touched, shards_setShard_self]
      exact records.one
    · rw [shards_setShard_of_ne index touched]
      exact represents.filters shard
  · intro shard
    by_cases touched : shard = (geometry.locateBucket target).1
    · rw [touched, shards_setShard_self, records.blocks]
      exact represents.blocks _
    · rw [shards_setShard_of_ne index touched]
      exact represents.blocks shard
  · intro global inGeneration
    by_cases hit : global = target
    · rw [hit, shards_setShard_self]
      exact records.cell_congr same
    · rw [cell_store_of_ne hit, ← represents.cells global inGeneration]
      by_cases touched : (geometry.locateBucket global).1 = (geometry.locateBucket target).1
      · have elsewhere : (geometry.locateBucket global).2 ≠ (geometry.locateBucket target).2 :=
          fun sameBlock => hit (geometry.locateBucket_injective (Prod.ext touched sameBlock))
        rw [touched, shards_setShard_self]
        exact records.cell_of_ne elsewhere
      · rw [shards_setShard_of_ne index touched]
  · rcases records.occupied_congr same with ⟨added, inShard, inWhole⟩
    rw [sum_occupied_setShard inShard, represents.occupied]
    exact inWhole.symm

theorem Represents.record (represents : index.Represents whole)
    (unlimited : geometry.ttlMillis = maxMillis) :
    (index.insertMissingBits hashing key bits now).Represents
      (whole.record hashing geometry.blocksPerGeneration key bits) := by
  have limited : geometry.ttlMillis ≠ 0 := by
    rw [unlimited]
    decide
  unfold insertMissingBits WholeIndex.record
  simp only [limited, or_false]
  split
  next => exact represents
  next storable =>
    have some : bits ≠ .empty := fun empty => storable (.inr empty)
    split
    next unallocated =>
      have shard := (represents.blocks_locateHash
        (ArticleFingerprint.fromKey hashing key).hash).mpr unallocated
      exact (represents.setShard (insertMissingBits_unallocated shard)).populate
    next allocated =>
      have shard := mt (represents.blocks_locateHash
        (ArticleFingerprint.fromKey hashing key).hash).mp allocated
      rw [locateHash, if_neg allocated] at shard ⊢
      exact (represents.store (Nat.mod_lt _ (Nat.pos_of_ne_zero allocated))
        ((represents.filters _).records shard some)).populate

/-! ### Counts -/

theorem Represents.countShard (represents : index.Represents whole)
    (shard : Fin geometry.shards) (time : UInt64) :
    index.countShard shard time = ((index.shards shard).filter.current.occupied, index) := by
  have still : (index.shards shard).rotate time = index.shards shard := by
    unfold rotate
    rw [rotateIfNeeded_of_unlimited (represents.filters shard).lasting.unlimited]
    rfl
  simp only [AvailabilityIndex.countShard, still, (represents.filters shard).occupiedSlots,
    AvailabilityIndex.setShard, Function.update_eq_self]

theorem Represents.countShards (represents : index.Represents whole)
    (times : Fin geometry.shards → UInt64) (shards : List (Fin geometry.shards)) :
    index.countShards times shards =
      ((shards.map fun shard => (index.shards shard).filter.current.occupied).sum, index) := by
  induction shards with
  | nil => rfl
  | cons shard shards inductionHypothesis =>
    simp only [AvailabilityIndex.countShards, represents.countShard, inductionHypothesis,
      List.map_cons, List.sum_cons]

theorem Represents.entryCount (represents : index.Represents whole)
    (times : Fin geometry.shards → UInt64) :
    (index.entryCount times).1 = whole.generation.occupied := by
  rw [AvailabilityIndex.entryCount, represents.countShards, ← represents.occupied, Fin.sum_univ_def]

/-! ### Runs -/

/-- The answers are those of the whole, and the index behind the requests stands for the whole
behind them. -/
theorem Represents.serve (represents : index.Represents whole)
    (unlimited : geometry.ttlMillis = maxMillis) (requests : List IndexRequest) :
    (index.serve hashing requests).1 =
        (whole.serve hashing geometry.blocksPerGeneration requests).1 ∧
      (index.serve hashing requests).2.Represents
        (whole.serve hashing geometry.blocksPerGeneration requests).2 := by
  induction requests generalizing index whole with
  | nil => exact ⟨rfl, represents⟩
  | cons request requests inductionHypothesis =>
    cases request with
    | record key bits now => exact inductionHypothesis (represents.record unlimited)
    | lookup key now =>
      rcases inductionHypothesis represents.lookup_behind with ⟨answers, behind⟩
      constructor
      · exact congrArg₂ List.cons represents.lookup_found answers
      · exact behind

end AvailabilityIndex

/-- However many shards are asked for, an index with unlimited retention answers the lookups of a
run and counts its entries as one with a single shard does, and its shards have the blocks of a
generation between them. -/
theorem shards_indistinguishable (hashing : Hashing) (capacityBytes : UInt64)
    (generationCount shardCount : Nat) (requests : List IndexRequest)
    (times : Fin (mk capacityBytes maxMillis generationCount shardCount).shards → UInt64)
    (singleTimes : Fin (mk capacityBytes maxMillis generationCount 1).shards → UInt64) :
    let sharded : Geometry := ⟨capacityBytes, maxMillis, generationCount, shardCount⟩
    let single : Geometry := ⟨capacityBytes, maxMillis, generationCount, 1⟩
    let shardedRun := (withGeometry sharded).serve hashing requests
    let singleRun := (withGeometry single).serve hashing requests
    shardedRun.1 = singleRun.1 ∧
      (shardedRun.2.entryCount times).1 = (singleRun.2.entryCount singleTimes).1 ∧
      Set.BijOn sharded.locateBucket {global | global < sharded.blocksPerGeneration}
        sharded.allocatedBlocks := by
  intro sharded single shardedRun singleRun
  have shardedStart : (withGeometry sharded).Represents .new :=
    represents_withGeometry rfl
  have singleStart : (withGeometry single).Represents .new :=
    represents_withGeometry rfl
  rcases shardedStart.serve rfl requests with ⟨shardedAnswers, shardedBehind⟩
  rcases singleStart.serve rfl requests with ⟨singleAnswers, singleBehind⟩
  refine ⟨?_, ?_, sharded.bijOn_locateBucket⟩
  · exact shardedAnswers.trans singleAnswers.symm
  · exact (shardedBehind.entryCount times).trans (singleBehind.entryCount singleTimes).symm

end NntpProxy.Availability
