import NntpProxy.Availability.Snapshot

/-!
# Indexes whose facts do not expire

With an unlimited time to live a filter never rotates, so that all its facts are in the
generation at the front.  A fact that is recorded and an entry that is restored do the same
there: they change one slot of the block that the hash calls for.
-/

namespace NntpProxy.Availability

open Protocol Router Data Cache FilterState ArticleFingerprint Generation

/-! ## Slots -/

/-- What a slot holds. -/
structure SlotContent where
  hash : UInt64
  tag : UInt16
  key : Option Bytes
  missing : MissingBits

/-- The slot is of the key and has the bit of the provider. -/
def SlotContent.Names (content : SlotContent) (fingerprint : ArticleFingerprint) (key : Bytes)
    (provider : AvailabilitySlot) : Prop :=
  content.hash = fingerprint.hash ∧ content.tag = fingerprint.tag ∧ content.key = some key ∧
    content.missing.contains provider = true

namespace Generation

variable {generation : Generation} {fingerprint : ArticleFingerprint} {key : Bytes}
  {bits : MissingBits} {block : Nat} {provider : AvailabilitySlot}

def content (generation : Generation) (block : Nat) (slot : Fin blockSlots) : SlotContent :=
  ⟨(generation.blocks block).hashes slot, (generation.blocks block).tags slot,
    generation.keys block slot, (generation.blocks block).missing slot⟩

theorem reports_iff_names :
    generation.Reports fingerprint key block provider ↔
      ∃ slot, (generation.content block slot).Names fingerprint key provider := by
  simp only [reports_iff, mem_exactSlots_iff, and_assoc]
  rfl

theorem content_addBits (generation : Generation) (bits : MissingBits) (block : Nat)
    (taken : Fin blockSlots) (other : Nat) (slot : Fin blockSlots) :
    (generation.addBits bits block taken).content other slot =
      if other = block ∧ slot = taken then
        { generation.content block taken with
          missing := (generation.content block taken).missing.union bits }
      else generation.content other slot := by
  by_cases sameBlock : other = block
  · subst sameBlock
    by_cases sameSlot : slot = taken
    · subst sameSlot
      simp [content, addBits]
    · simp [content, addBits, sameSlot]
  · simp [content, addBits, sameBlock]

theorem content_takeSlot (generation : Generation) (fingerprint : ArticleFingerprint)
    (key : Bytes) (bits : MissingBits) (block : Nat) (taken : Fin blockSlots) (other : Nat)
    (slot : Fin blockSlots) :
    (generation.takeSlot fingerprint key bits block taken).content other slot =
      if other = block ∧ slot = taken then ⟨fingerprint.hash, fingerprint.tag, some key, bits⟩
      else generation.content other slot := by
  by_cases sameBlock : other = block
  · subst sameBlock
    by_cases sameSlot : slot = taken
    · subst sameSlot
      simp [content, takeSlot]
    · simp [content, takeSlot, sameSlot]
  · simp [content, takeSlot, sameBlock]

/-- Storing bits for a key changes one slot: one that is of the key already, or the one that
the key takes. -/
inductive Stores (generation : Generation) (fingerprint : ArticleFingerprint) (key : Bytes)
    (bits : MissingBits) (block : Nat) (after : Generation) : Prop
  | joined (slot : Fin blockSlots) (before : MissingBits)
      (known : generation.content block slot =
        ⟨fingerprint.hash, fingerprint.tag, some key, before⟩)
      (content : ∀ other place, after.content other place =
        if other = block ∧ place = slot then
          ⟨fingerprint.hash, fingerprint.tag, some key, before.union bits⟩
        else generation.content other place)
      (occupied : after.occupied = generation.occupied)
  | took
      (content : ∀ other place, after.content other place =
        if other = block ∧ place = generation.slotFor fingerprint.hash block then
          ⟨fingerprint.hash, fingerprint.tag, some key, bits⟩
        else generation.content other place)
      (occupied : after.occupied = generation.occupied +
        if (generation.content block (generation.slotFor fingerprint.hash block)).hash = 0 then 1
        else 0)

theorem stores_store :
    generation.Stores fingerprint key bits block
      (generation.store fingerprint key bits block).1 := by
  unfold store insertMissingBits
  cases known : generation.exactSlots fingerprint key block with
  | nil =>
    refine .took (fun other place => ?_) ?_
    · rw [← content_takeSlot]
      simp only [List.head?_nil]
      split <;> rfl
    · by_cases free : (generation.blocks block).hashes
          (generation.slotFor fingerprint.hash block) = 0
      · simp [content, free, countInserted, takeSlot]
      · simp [content, free, countInserted, takeSlot]
  | cons slot slots =>
    have exact : slot ∈ generation.exactSlots fingerprint key block := by
      rw [known]
      exact List.mem_cons_self
    rcases mem_exactSlots_iff.mp exact with ⟨hash, tag, named⟩
    have content : generation.content block slot = ⟨fingerprint.hash, fingerprint.tag, some key,
        (generation.blocks block).missing slot⟩ := by
      rw [content, hash, tag, named]
    refine .joined slot _ content (fun other place => ?_) rfl
    have changed := content_addBits generation bits block slot other place
    rw [content] at changed
    exact changed

theorem Stores.of_restarted {started : UInt64} {after : Generation}
    (stores : { generation with startedAt := started }.Stores fingerprint key bits block after) :
    generation.Stores fingerprint key bits block after := by
  cases stores with
  | joined slot before known content occupied => exact .joined slot before known content occupied
  | took content occupied => exact .took content occupied

/-- Every occupied slot has a property, and occupied slots are counted. -/
structure Sound (property : Nat → SlotContent → Prop) (generation : Generation) : Prop where
  counted : generation.occupied = 0 → ∀ block slot, (generation.content block slot).hash = 0
  slots : ∀ block slot, (generation.content block slot).hash ≠ 0 →
    property block (generation.content block slot)

theorem sound_new (property : Nat → SlotContent → Prop) : new.Sound property :=
  ⟨fun _ _ _ => rfl, fun _ _ occupied => absurd rfl occupied⟩

/-- What holds of the stored slot and does not depend on the bits that were there holds of all
slots. -/
theorem Sound.store {property : Nat → SlotContent → Prop} (sound : generation.Sound property)
    {after : Generation} (stores : generation.Stores fingerprint key bits block after)
    (named : fingerprint.hash ≠ 0)
    (holds : property block ⟨fingerprint.hash, fingerprint.tag, some key, bits⟩)
    (joins : ∀ before,
      property block ⟨fingerprint.hash, fingerprint.tag, some key, before⟩ →
        property block ⟨fingerprint.hash, fingerprint.tag, some key, before.union bits⟩) :
    after.Sound property := by
  cases stores with
  | joined taken before known content occupied =>
    have knownHash : (generation.content block taken).hash ≠ 0 := by
      rw [known]
      exact named
    constructor
    · intro nothing
      exact absurd (sound.counted (occupied ▸ nothing) block taken) knownHash
    · intro other slot occupiedSlot
      rw [content] at occupiedSlot ⊢
      by_cases here : other = block ∧ slot = taken
      · have holdsBefore := sound.slots block taken knownHash
        rw [known] at holdsBefore
        rw [if_pos here, here.1]
        exact joins _ holdsBefore
      · rw [if_neg here] at occupiedSlot ⊢
        exact sound.slots other slot occupiedSlot
  | took content occupied =>
    constructor
    · intro nothing
      rw [occupied] at nothing
      have wasEmpty := sound.counted (Nat.eq_zero_of_add_eq_zero_right nothing) block
        (generation.slotFor fingerprint.hash block)
      rw [if_pos wasEmpty] at nothing
      cases nothing
    · intro other slot occupiedSlot
      rw [content] at occupiedSlot ⊢
      by_cases here : other = block ∧ slot = generation.slotFor fingerprint.hash block
      · rw [if_pos here, here.1]
        exact holds
      · rw [if_neg here] at occupiedSlot ⊢
        exact sound.slots other slot occupiedSlot

end Generation

/-! ## Filters -/

namespace FilterState

variable {n : Nat} [NeZero n] {filter after : FilterState n} {fingerprint : ArticleFingerprint}
  {key : Bytes} {bits : MissingBits} {block : Nat} {now : UInt64}

/-- The generation that facts go to. -/
def current (filter : FilterState n) : Generation :=
  filter.generations.behind 0

/-- Only the current generation changes, by one fact. -/
structure StoresFact (filter : FilterState n) (fingerprint : ArticleFingerprint) (key : Bytes)
    (bits : MissingBits) (block : Nat) (after : FilterState n) : Prop where
  stores : filter.current.Stores fingerprint key bits block after.current
  front : after.generations.front = filter.generations.front
  others : ∀ cell, cell ≠ filter.generations.front →
    after.generations.cells cell = filter.generations.cells cell
  live : after.liveGenerations = 1
  dimensions : after.dimensions = filter.dimensions

/-- The facts of the filter do not expire. -/
structure Lasting (filter : FilterState n) : Prop where
  unlimited : filter.rotationIntervalMillis = maxMillis
  live_le : filter.liveGenerations ≤ 1
  live_of_started : filter.current.startedAt ≠ 0 → filter.liveGenerations ≠ 0

theorem rotateIfNeeded_of_unlimited (unlimited : filter.rotationIntervalMillis = maxMillis) :
    filter.rotateIfNeeded now = (filter, 0) := by
  have positive : filter.rotationIntervalMillis ≠ 0 := by
    rw [unlimited]
    decide
  unfold rotateIfNeeded
  rw [if_neg positive, if_pos unlimited, ite_self]

theorem StoresFact.lasting (stores : filter.StoresFact fingerprint key bits block after)
    (lasting : filter.Lasting) : after.Lasting := by
  constructor
  · rw [← lasting.unlimited]
    exact congrArg Prod.snd stores.dimensions
  · rw [stores.live]
  · intro _
    rw [stores.live]
    exact Nat.one_ne_zero

theorem current_insertInCurrent :
    (filter.insertInCurrent fingerprint key bits block).1.current =
      (filter.current.store fingerprint key bits block).1 :=
  RingBuffer.behind_modifyFront_zero

theorem current_start : (filter.start now).current = { filter.current with startedAt := now } :=
  RingBuffer.behind_modifyFront_zero

theorem storesFact_insertInCurrent (live : filter.liveGenerations = 1) :
    filter.StoresFact fingerprint key bits block
      (filter.insertInCurrent fingerprint key bits block).1 where
  stores := by
    rw [current_insertInCurrent]
    exact stores_store
  front := rfl
  others := fun cell other => Function.update_of_ne other _ _
  live := live
  dimensions := rfl

/-- Nothing is rotated away, so that a record only starts the current generation and stores the
fact in it. -/
theorem insertMissingBits_of_lasting (lasting : filter.Lasting)
    (allocated : filter.blocksPerGeneration ≠ 0) (some : bits ≠ .empty) :
    (filter.insertMissingBits fingerprint key bits block now).1 =
      ((filter.ensureCurrentGenerationStarted now).insertInCurrent fingerprint key bits
        block).1 := by
  have positive : filter.rotationIntervalMillis ≠ 0 := by
    rw [lasting.unlimited]
    decide
  simp only [insertMissingBits, rotateIfNeeded_of_unlimited lasting.unlimited, allocated, some,
    positive, or_self, if_false]

theorem storesFact_insertMissingBits (lasting : filter.Lasting)
    (allocated : filter.blocksPerGeneration ≠ 0) (some : bits ≠ .empty) :
    filter.StoresFact fingerprint key bits block
      (filter.insertMissingBits fingerprint key bits block now).1 := by
  rw [insertMissingBits_of_lasting lasting allocated some]
  unfold ensureCurrentGenerationStarted
  split
  next started =>
    have live := lasting.live_le.antisymm (Nat.pos_of_ne_zero (lasting.live_of_started started))
    exact storesFact_insertInCurrent live
  next notStarted =>
    have live : (filter.start now).liveGenerations = 1 := Nat.max_eq_right lasting.live_le
    have inserted : (filter.start now).StoresFact fingerprint key bits block _ :=
      storesFact_insertInCurrent live
    constructor
    · have stores := inserted.stores
      rw [current_start] at stores
      exact stores.of_restarted
    · exact inserted.front
    · intro cell other
      exact (inserted.others cell other).trans (Function.update_of_ne other _ _)
    · exact inserted.live
    · exact inserted.dimensions

theorem insertMissingBits_unallocated (unallocated : filter.blocksPerGeneration = 0) :
    (filter.insertMissingBits fingerprint key bits block now).1 = filter := by
  have still : filter.rotateIfNeeded now = (filter, 0) := if_pos unallocated
  simp only [insertMissingBits, still, unallocated, true_or, if_true]

end FilterState

/-! ## Shards -/

variable {geometry : Geometry} {count : Nat} {shard : Fin geometry.shards}

/-- An occupied slot of a shard stands where its hash calls for, its key can be stored, and its
bits are of this many providers. -/
structure Placed (geometry : Geometry) (count : Nat) (shard : Fin geometry.shards) (block : Nat)
    (content : SlotContent) : Prop where
  located : geometry.locateHash content.hash = (shard, block)
  inShard : block < geometry.shardBlocks shard
  key : ∃ key, content.key = some key ∧ KeyFits key
  known : ∀ provider, content.missing.contains provider = true → provider.val < count

/-- The filter of a shard whose facts do not expire. -/
structure SoundFilter (geometry : Geometry) (count : Nat) (shard : Fin geometry.shards)
    (filter : FilterState geometry.generations) : Prop where
  lasting : filter.Lasting
  blocks : filter.blocksPerGeneration = geometry.shardBlocks shard
  slots : filter.current.Sound (Placed geometry count shard)
  empty : filter.liveGenerations = 0 →
    ∀ block slot, (filter.current.content block slot).hash = 0

theorem soundFilter_of_new {filter : FilterState geometry.generations}
    (unlimited : filter.rotationIntervalMillis = maxMillis)
    (blocks : filter.blocksPerGeneration = geometry.shardBlocks shard)
    (dead : filter.liveGenerations = 0) (new : filter.current = .new) :
    SoundFilter geometry count shard filter where
  lasting := by
    refine ⟨unlimited, dead.trans_le (Nat.zero_le 1), fun started => absurd ?_ started⟩
    rw [new]
    rfl
  blocks := blocks
  slots := new ▸ sound_new _
  empty := by
    intro _ block slot
    rw [new]
    rfl

/-- A fact about this many providers that a shard can store. -/
structure Storable (geometry : Geometry) (count : Nat) (shard : Fin geometry.shards)
    (fingerprint : ArticleFingerprint) (key : Bytes) (bits : MissingBits) (block : Nat) :
    Prop where
  hash : fingerprint.hash ≠ 0
  located : geometry.locateHash fingerprint.hash = (shard, block)
  allocated : geometry.shardBlocks shard ≠ 0
  key : KeyFits key
  known : ∀ provider, bits.contains provider = true → provider.val < count

theorem inShard_of_locateHash {hash : UInt64} {block : Nat}
    (located : geometry.locateHash hash = (shard, block))
    (allocated : geometry.shardBlocks shard ≠ 0) : block < geometry.shardBlocks shard := by
  have positive : geometry.blocksPerGeneration ≠ 0 := by
    intro unallocated
    simp [Geometry.shardBlocks, unallocated] at allocated
  have inShard := geometry.locateHash_lt positive hash
  rwa [located] at inShard

theorem SoundFilter.store {filter after : FilterState geometry.generations}
    {fingerprint : ArticleFingerprint} {key : Bytes} {bits : MissingBits} {block : Nat}
    (sound : SoundFilter geometry count shard filter)
    (stores : filter.StoresFact fingerprint key bits block after)
    (storable : Storable geometry count shard fingerprint key bits block) :
    SoundFilter geometry count shard after where
  lasting := stores.lasting sound.lasting
  blocks := (congrArg Prod.fst stores.dimensions).trans sound.blocks
  slots := by
    have inShard := inShard_of_locateHash storable.located storable.allocated
    apply sound.slots.store stores.stores storable.hash
    · exact ⟨storable.located, inShard, ⟨key, rfl, storable.key⟩, storable.known⟩
    · intro before placed
      refine ⟨placed.located, inShard, ⟨key, rfl, storable.key⟩, fun provider present => ?_⟩
      simp only [BitSet.contains_union, Bool.or_eq_true] at present
      rcases present with old | new
      · exact placed.known provider old
      · exact storable.known provider new
  empty := by
    intro dead
    rw [stores.live] at dead
    cases dead

/-! ## Indexes -/

theorem fromKey_hash_ne_zero (hashing : Hashing) (key : Bytes) :
    (fromKey hashing key).hash ≠ 0 := by
  change normalizeHash _ ≠ 0
  unfold normalizeHash
  split
  · decide
  next nonzero => exact nonzero

namespace AvailabilityIndex

/-- All shards are sound, and none has a fact as long as the latch is open. -/
structure Sound (count : Nat) (index : AvailabilityIndex geometry) : Prop where
  filters : ∀ shard, SoundFilter geometry count shard (index.shards shard).filter
  empty : index.populated = false →
    ∀ shard block slot, ((index.shards shard).filter.current.content block slot).hash = 0

variable {hashing : Hashing} {index : AvailabilityIndex geometry}

theorem Sound.reports_iff (sound : index.Sound count) {key : Bytes}
    {provider : AvailabilitySlot} {now : UInt64} :
    index.reports hashing key provider now = true ↔
      (index.filterOf hashing key).current.Reports (.fromKey hashing key) key
        (partition hashing geometry key).2 provider := by
  have filter := sound.filters (partition hashing geometry key).1
  have lasting : (index.filterOf hashing key).Lasting := filter.lasting
  rw [AvailabilityIndex.reports_iff, rotateIfNeeded_of_unlimited lasting.unlimited]
  constructor
  · rintro ⟨-, -, offset, live, reports⟩
    have first : offset = 0 := Nat.lt_one_iff.mp (Nat.lt_of_lt_of_le live lasting.live_le)
    rw [first] at reports
    exact reports
  · intro reports
    rcases reports_iff_names.mp reports with ⟨slot, names⟩
    have occupied : ((index.filterOf hashing key).current.content
        (partition hashing geometry key).2 slot).hash ≠ 0 := by
      rw [names.1]
      exact fromKey_hash_ne_zero hashing key
    refine ⟨?_, ?_, 0, ?_, reports⟩
    · cases populated : index.populated with
      | false => exact absurd (sound.empty populated _ _ slot) occupied
      | true => rfl
    · have inShard := (filter.slots.slots _ slot occupied).inShard
      change (index.shards _).filter.blocksPerGeneration ≠ 0
      rw [filter.blocks]
      exact Nat.ne_zero_of_lt inShard
    · apply Nat.pos_of_ne_zero
      intro dead
      exact occupied (filter.empty dead _ slot)

theorem sound_withGeometry (unlimited : geometry.ttlMillis = maxMillis) :
    (withGeometry geometry).Sound count where
  filters := fun _ =>
    soundFilter_of_new (geometry.rotationIntervalMillis_eq_max unlimited) rfl rfl rfl
  empty := fun _ _ _ _ => rfl

theorem filter_apply_of_sound (sound : index.Sound count) {event : IndexEvent geometry}
    (noRecord : ∀ key slot now, event ≠ .record key slot now) (shard : Fin geometry.shards) :
    ((index.apply hashing event).shards shard).filter = (index.shards shard).filter := by
  have step : FilterStep hashing _ event _ := filterStep_apply index event shard
  generalize ((index.apply hashing event).shards shard).filter = after at step ⊢
  cases step with
  | same => rfl
  | rotate _ now =>
    rw [rotateIfNeeded_of_unlimited (sound.filters shard).lasting.unlimited]
  | record key slot now block => exact absurd rfl (noRecord key slot now)

theorem populated_apply_of_not_record {event : IndexEvent geometry}
    (noRecord : ∀ key slot now, event ≠ .record key slot now) :
    (index.apply hashing event).populated = index.populated := by
  cases event with
  | record key slot now => exact absurd rfl (noRecord key slot now)
  | lookup key now =>
    simp only [apply, lookupByKey]
    split <;> rfl
  | snapshot now => rfl
  | countShard shard now => rfl

theorem Sound.of_filters {after : AvailabilityIndex geometry} (sound : index.Sound count)
    (filters : ∀ shard, (after.shards shard).filter = (index.shards shard).filter)
    (populated : after.populated = index.populated) : after.Sound count where
  filters := fun shard => (filters shard).symm ▸ sound.filters shard
  empty := by
    intro unpopulated shard
    rw [filters shard]
    exact sound.empty (populated.symm.trans unpopulated) shard

theorem Sound.record (sound : index.Sound count) {key : Bytes} {slot : AvailabilitySlot}
    {now : UInt64} (fits : KeyFits key) (known : slot.val < count) :
    (index.recordAvailabilityMissing hashing key slot now).Sound count := by
  unfold recordAvailabilityMissing insertMissingBits
  split
  · exact sound
  · refine ⟨fun shard => ?_, fun unpopulated => Bool.noConfusion unpopulated⟩
    by_cases same :
        shard = (geometry.locateHash (fromKey hashing key).hash).1
    · subst same
      have filter :=
        sound.filters (geometry.locateHash (fromKey hashing key).hash).1
      simp only [shards_setShard_self, ShardState.recordMissing]
      by_cases unallocated : (index.shards (geometry.locateHash
          (fromKey hashing key).hash).1).filter.blocksPerGeneration = 0
      · rw [insertMissingBits_unallocated unallocated]
        exact filter
      · apply filter.store (storesFact_insertMissingBits filter.lasting unallocated
          (slotBit_ne_empty slot))
        refine ⟨fromKey_hash_ne_zero hashing key, rfl, filter.blocks ▸ unallocated, fits, ?_⟩
        intro provider present
        rw [(contains_slotBit slot provider).mp present]
        exact known
    · rw [shards_setShard_of_ne index same]
      exact sound.filters shard

end AvailabilityIndex

end NntpProxy.Availability
