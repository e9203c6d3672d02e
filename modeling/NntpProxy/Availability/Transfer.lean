import NntpProxy.Availability.Restore

/-!
# From one index to another

An index whose facts do not expire is saved and loaded into another one, with other servers and
another number of shards.  The blocks of both are the same ones, spread over shards in different
ways, so that no block gets more entries than it has slots.  The loaded index therefore reports
a provider of its own for a key exactly when the saved index reported the same provider.
-/

namespace NntpProxy.Availability

open Protocol Router Data Cache List AvailabilityLayout Generation AvailabilityIdentity

variable {geometry : Geometry} {count : Nat}

/-! ## What is saved -/

namespace Generation

variable {generation : Generation} {block : Nat} {slot : Fin blockSlots} {entry : PersistedEntry}

theorem entryAt_eq_some_iff :
    generation.entryAt block slot = some entry ↔
      generation.content block slot = ⟨entry.hash, entry.tag, some entry.key, entry.missing⟩ ∧
        entry.hash ≠ 0 ∧ entry.missing ≠ .empty ∧ entry.insertedAt = generation.startedAt := by
  rcases entry with ⟨hash, tag, key, missing, insertedAt⟩
  simp only [entryAt, content, SlotContent.mk.injEq]
  split
  next free =>
    constructor
    · intro absent
      cases absent
    · rintro ⟨⟨rfl, -, -, rfl⟩, occupied, some, -⟩
      exact absurd free (not_or.mpr ⟨occupied, some⟩)
  next occupied =>
    rw [not_or] at occupied
    rw [Option.map_eq_some_iff]
    constructor
    · rintro ⟨key, named, same⟩
      cases same
      exact ⟨⟨rfl, rfl, named, rfl⟩, occupied.1, occupied.2, rfl⟩
    · rintro ⟨⟨rfl, rfl, named, rfl⟩, -, -, rfl⟩
      exact ⟨key, named, rfl⟩

theorem mem_entries_iff {blocks : Nat} :
    entry ∈ generation.entries blocks ↔
      ∃ block < blocks, ∃ slot, generation.entryAt block slot = some entry := by
  simp [entries]

end Generation

theorem countP_flatMap_le {ι α : Type*} {indices : List ι} {values : ι → List α}
    {property : α → Bool} (index : ι) (nodup : indices.Nodup)
    (only : ∀ other value, value ∈ values other → property value = true → other = index) :
    (indices.flatMap values).countP property ≤ (values index).countP property := by
  have elsewhere : ∀ other, other ≠ index → (values other).countP property = 0 := by
    intro other different
    rw [countP_eq_zero]
    intro value mem holds
    exact different (only other value mem holds)
  induction indices with
  | nil => exact Nat.zero_le _
  | cons first indices ih =>
    rw [nodup_cons] at nodup
    rw [flatMap_cons, countP_append]
    by_cases here : first = index
    · subst here
      have later : (indices.flatMap values).countP property = 0 := by
        rw [countP_eq_zero]
        intro value mem holds
        rcases mem_flatMap.mp mem with ⟨other, inIndices, inValues⟩
        exact nodup.1 (only other value inValues holds ▸ inIndices)
      rw [later]
      exact Nat.le_refl _
    · rw [elsewhere first here, Nat.zero_add]
      exact ih nodup.2

variable {entry : PersistedEntry} {hashing : Hashing}

namespace AvailabilityIndex

variable {index : AvailabilityIndex geometry} {now : UInt64}

variable (sound : index.Sound count)

include sound

theorem Sound.snapshotEntries_eq (shard : Fin geometry.shards) :
    (index.shards shard).filter.snapshotEntries now =
      if (index.shards shard).filter.liveGenerations = 0 then []
      else (index.shards shard).filter.current.entries (geometry.shardBlocks shard) := by
  have filter := sound.filters shard
  simp only [FilterState.snapshotEntries,
    FilterState.rotateIfNeeded_of_unlimited filter.lasting.unlimited, filter.blocks]
  rcases Nat.le_one_iff_eq_zero_or_eq_one.mp filter.lasting.live_le with dead | live
  · simp [FilterState.activeGenerations, dead]
  · simp [FilterState.activeGenerations, live, FilterState.current]

theorem Sound.mem_snapshotEntries_iff :
    entry ∈ (index.snapshotEntries now).1 ↔
      ∃ shard block slot, (index.shards shard).filter.current.entryAt block slot = some entry := by
  simp only [snapshotEntries, mem_flatMap, mem_finRange, true_and,
    sound.snapshotEntries_eq]
  apply exists_congr
  intro shard
  have filter := sound.filters shard
  constructor
  · intro mem
    split at mem
    · cases mem
    · rcases mem_entries_iff.mp mem with ⟨block, -, slot, found⟩
      exact ⟨block, slot, found⟩
  · rintro ⟨block, slot, found⟩
    rcases entryAt_eq_some_iff.mp found with ⟨content, occupied, -⟩
    have occupiedSlot : ((index.shards shard).filter.current.content block slot).hash ≠ 0 := by
      rw [content]
      exact occupied
    have placed := filter.slots.slots block slot occupiedSlot
    rw [if_neg fun dead => occupiedSlot (filter.empty dead block slot)]
    exact mem_entries_iff.mpr ⟨block, placed.inShard, slot, found⟩

theorem Sound.placed_of_entryAt {shard : Fin geometry.shards} {block : Nat} {slot : Fin blockSlots}
    (found : (index.shards shard).filter.current.entryAt block slot = some entry) :
    Placed geometry count shard block ⟨entry.hash, entry.tag, some entry.key, entry.missing⟩ := by
  rcases entryAt_eq_some_iff.mp found with ⟨content, occupied, -⟩
  rw [← content]
  apply (sound.filters shard).slots.slots
  rw [content]
  exact occupied

theorem Sound.reports_iff_snapshotEntries {key : Bytes} {provider : AvailabilitySlot}
    {before : UInt64} :
    index.reports hashing key provider before = true ↔
      ∃ entry ∈ (index.snapshotEntries now).1,
        entry.Reports (.fromKey hashing key) key provider := by
  rw [sound.reports_iff, reports_iff_names]
  constructor
  · rintro ⟨slot, hash, tag, named, present⟩
    refine ⟨⟨(ArticleFingerprint.fromKey hashing key).hash,
      (ArticleFingerprint.fromKey hashing key).tag, key, _,
      (index.filterOf hashing key).current.startedAt⟩, ?_, rfl, rfl, present⟩
    rw [sound.mem_snapshotEntries_iff]
    refine ⟨_, (partition hashing geometry key).2, slot,
      entryAt_eq_some_iff.mpr ⟨?_, ?_, ?_, rfl⟩⟩
    · rw [← hash, ← tag, ← named]
      rfl
    · exact fromKey_hash_ne_zero hashing key
    · exact ne_empty_of_contains present
  · rintro ⟨entry, mem, same, rfl, present⟩
    rcases sound.mem_snapshotEntries_iff.mp mem with ⟨shard, block, slot, found⟩
    have located := (sound.placed_of_entryAt found).located
    have content := (entryAt_eq_some_iff.mp found).1
    have here : partition hashing geometry entry.key = (shard, block) := by
      rw [partition, ← same]
      exact located
    refine ⟨slot, ?_⟩
    rw [filterOf, here, content, ← same]
    exact ⟨rfl, rfl, rfl, present⟩

theorem Sound.countP_snapshotEntries_le (place : Fin geometry.shards × Nat) :
    (index.snapshotEntries now).1.countP (fun entry => geometry.locateHash entry.hash = place) ≤
      blockSlots := by
  have ofSlot : ∀ shard block slot entry,
      (index.shards shard).filter.current.entryAt block slot = some entry →
        decide (geometry.locateHash entry.hash = place) = true → (shard, block) = place := by
    intro shard block slot entry found here
    rw [decide_eq_true_eq] at here
    exact (sound.placed_of_entryAt found).located.symm.trans here
  simp only [snapshotEntries, sound.snapshotEntries_eq]
  apply Nat.le_trans (countP_flatMap_le place.1 (nodup_finRange _) ?_)
  · split
    · exact Nat.zero_le _
    · apply Nat.le_trans (countP_flatMap_le place.2 nodup_range ?_)
      · apply Nat.le_trans countP_le_length
        apply Nat.le_trans (length_filterMap_le _ _)
        rw [length_finRange]
      · intro block entry mem here
        rcases mem_filterMap.mp mem with ⟨slot, -, found⟩
        exact congrArg Prod.snd (ofSlot _ block slot entry found here)
  · intro shard entry mem here
    split at mem
    · cases mem
    · rcases mem_entries_iff.mp mem with ⟨block, -, slot, found⟩
      exact congrArg Prod.fst (ofSlot shard block slot entry found here)

end AvailabilityIndex

/-! ## Slots of two layouts -/

variable {identities : List AvailabilityIdentity}

variable {slot : AvailabilitySlot} {identity : AvailabilityIdentity}

theorem slotIn_eq_some_iff (nodup : identities.Nodup) (few : identities.length ≤ maxBackends) :
    slotIn identities identity = some slot ↔ identities[slot.val]? = some identity := by
  constructor
  · intro found
    rcases Option.bind_eq_some_iff.mp found with ⟨place, placeEq, -⟩
    have mem : identity ∈ identities :=
      List.isSome_idxOf?.mp (by rw [placeEq, Option.isSome_some])
    rcases slotIn_of_mem mem few with ⟨same, sameEq, valEq⟩
    rw [found] at sameEq
    cases sameEq
    rw [valEq]
    exact List.getElem?_idxOf mem
  · intro here
    have mem : identity ∈ identities := List.mem_of_getElem? here
    rcases slotIn_of_mem mem few with ⟨same, sameEq, valEq⟩
    rcases List.getElem?_eq_some_iff.mp here with ⟨inList, atSlot⟩
    have placeEq : same.val = slot.val := by
      rw [valEq, ← atSlot]
      exact nodup.idxOf_getElem slot.val inList
    rw [sameEq, Fin.ext placeEq]

theorem contains_currentBits {layout : AvailabilityLayout} {missing : MissingBits} :
    (currentBits layout identities missing).contains slot = true ↔
      ∃ position : AvailabilitySlot, missing.contains position = true ∧
        ∃ identity, identities[position.val]? = some identity ∧
          layout.slotForIdentity identity = some slot := by
  simp only [currentBits, maskOfSlots, BitSet.contains_foldl_insert, BitSet.contains_empty,
    Bool.false_eq_true, false_or, mem_filterMap, mem_filter]
  constructor
  · rintro ⟨⟨identity, place⟩, ⟨mem, present⟩, slotEq⟩
    rw [mem_zipIdx_iff_getElem?] at mem
    split at present
    next position positionEq =>
      have valEq : position.val = place := by
        unfold availabilitySlot at positionEq
        split at positionEq
        · cases positionEq
          rfl
        · cases positionEq
      exact ⟨position, present, identity, valEq ▸ mem, slotEq⟩
    · cases present
  · rintro ⟨position, present, identity, here, slotEq⟩
    refine ⟨(identity, position.val), ⟨mem_zipIdx_iff_getElem?.mpr here, ?_⟩, slotEq⟩
    simp only [availabilitySlot, position.isLt, dif_pos, present]

namespace AvailabilityLayout

variable {layout : AvailabilityLayout} {servers : List HostName}

theorem isSome_slotIn_of_backendSlotsIn {slots : List AvailabilitySlot}
    (placed : backendSlotsIn identities servers = some slots) :
    ∀ host ∈ servers, (slotIn identities (.ofHost host)).isSome = true := by
  induction servers generalizing slots with
  | nil => exact forall_mem_nil _
  | cons host servers ih =>
    rw [backendSlotsIn, mapM_cons] at placed
    rcases Option.bind_eq_some_iff.mp placed with ⟨slot, slotEq, later⟩
    rcases Option.bind_eq_some_iff.mp later with ⟨others, othersEq, -⟩
    rw [forall_mem_cons, slotEq]
    exact ⟨rfl, ih othersEq⟩

variable (built : fromServers servers = some layout)

include built

theorem identities_fromServers :
    layout.identities = collectIdentities [] servers := by
  rcases Option.map_eq_some_iff.mp built with ⟨slots, -, rfl⟩
  rfl

theorem nodup_fromServers :
    layout.identities.Nodup := by
  rw [identities_fromServers built]
  exact nodup_collectIdentities nodup_nil servers

theorem mem_fromServers_iff :
    identity ∈ layout.identities ↔
      ∃ host ∈ servers, ofHost host = identity := by
  rw [identities_fromServers built, mem_collectIdentities_iff]
  simp

theorem length_fromServers :
    layout.identities.length ≤ maxBackends := by
  by_contra many
  rw [Nat.not_le] at many
  rcases (mem_fromServers_iff built).mp (getElem_mem many) with ⟨host, ofServers, hostEq⟩
  rcases Option.map_eq_some_iff.mp built with ⟨slots, placed, -⟩
  have hasSlot := isSome_slotIn_of_backendSlotsIn placed host ofServers
  rw [← identities_fromServers built, hostEq] at hasSlot
  rcases Option.isSome_iff_exists.mp hasSlot with ⟨slot, found⟩
  rcases Option.bind_eq_some_iff.mp found with ⟨place, placeEq, inRange⟩
  have placeIs : place = maxBackends := by
    have same := (nodup_fromServers built).idxOf_getElem maxBackends many
    rw [idxOf_eq_getD_idxOf?, placeEq] at same
    exact same
  rw [placeIs] at inRange
  cases inRange

theorem storable_fromServers (hosts : ∀ host ∈ servers, host.WellEnded ∧ host.Fits) :
    ∀ identity ∈ layout.identities, identity.Storable := by
  intro identity mem
  rcases (mem_fromServers_iff built).mp mem with ⟨host, ofServers, rfl⟩
  exact ⟨settled_ofHost (hosts host ofServers).1, (hosts host ofServers).2⟩

end AvailabilityLayout

/-! ## Saving and loading -/

theorem length_flatMap_le {ι α : Type*} {indices : List ι} {values : ι → List α} {b : Nat}
    (each : ∀ index ∈ indices, (values index).length ≤ b) :
    (indices.flatMap values).length ≤ indices.length * b := by
  induction indices with
  | nil => simp
  | cons index indices ih =>
    rw [forall_mem_cons] at each
    rw [flatMap_cons, length_append, length_cons, Nat.succ_mul, Nat.add_comm]
    exact Nat.add_le_add (ih each.2) each.1

theorem Geometry.blocksPerGeneration_congr {old new : Geometry}
    (sameCapacity : old.capacityBytes = new.capacityBytes)
    (sameGenerations : old.generationCount = new.generationCount) :
    old.blocksPerGeneration = new.blocksPerGeneration := by
  have sameTotal : old.totalBlocks = new.totalBlocks := by
    rw [totalBlocks, totalBlocks, sameCapacity]
  rw [blocksPerGeneration, blocksPerGeneration, generations, generations, sameTotal,
    sameGenerations]

/-- Blocks that two indexes share are told apart by both. -/
theorem Geometry.locateHash_congr {old new : Geometry}
    (sameBlocks : old.blocksPerGeneration = new.blocksPerGeneration) {hash other : UInt64}
    (same : new.locateHash hash = new.locateHash other) :
    old.locateHash hash = old.locateHash other := by
  have injective : ∀ global second, new.locateBucket global = new.locateBucket second →
      global = second := by
    intro global second sameBucket
    have sameShard := congrArg Fin.val (congrArg Prod.fst sameBucket)
    have samePlace := congrArg Prod.snd sameBucket
    simp only [locateBucket] at sameShard samePlace
    rw [← Nat.div_add_mod global new.shards, ← Nat.div_add_mod second new.shards, sameShard,
      samePlace]
  unfold locateHash at same ⊢
  rw [sameBlocks, injective _ _ same]

variable {snapshot : StoredAvailabilitySnapshot}

namespace AvailabilityIndex

variable {index : AvailabilityIndex geometry} {now : UInt64} {layout : AvailabilityLayout}

theorem Sound.length_snapshotEntries_lt (sound : index.Sound count) :
    (index.snapshotEntries now).1.length < 256 ^ 8 := by
  have inShard : ∀ shard ∈ finRange geometry.shards,
      ((index.shards shard).filter.snapshotEntries now).length ≤
        (geometry.blocksPerGeneration / geometry.shards + 1) * blockSlots := by
    intro shard _
    rw [sound.snapshotEntries_eq]
    split
    · exact Nat.zero_le _
    · apply Nat.le_trans (length_flatMap_le (b := blockSlots) _)
      · rw [length_range]
        apply Nat.mul_le_mul_right
        unfold Geometry.shardBlocks
        split <;> omega
      · intro block _
        apply Nat.le_trans (length_filterMap_le _ _)
        rw [length_finRange]
  have whole := length_flatMap_le inShard
  rw [length_finRange] at whole
  have fewShards : geometry.shards ≤ geometry.blocksPerGeneration + 1 := by
    unfold Geometry.shards
    omega
  have fewBlocks : geometry.blocksPerGeneration ≤ geometry.totalBlocks := by
    unfold Geometry.blocksPerGeneration
    split
    · exact Nat.zero_le _
    · exact Nat.div_le_self _ _
  have capacity := geometry.capacityBytes.toNat_lt
  have divided := Nat.mul_div_le geometry.blocksPerGeneration geometry.shards
  have total : geometry.totalBlocks ≤ geometry.capacityBytes.toNat / 40 := Nat.le_refl _
  apply Nat.lt_of_le_of_lt whole
  rw [← Nat.mul_assoc, Nat.mul_add, blockSlots]
  omega

theorem Sound.allocated_of_snapshotEntries (sound : index.Sound count)
    (some : (index.snapshotEntries now).1 ≠ []) : geometry.blocksPerGeneration ≠ 0 := by
  rcases exists_mem_of_ne_nil _ some with ⟨entry, mem⟩
  rcases sound.mem_snapshotEntries_iff.mp mem with ⟨shard, block, slot, found⟩
  have inShard := (sound.placed_of_entryAt found).inShard
  intro unallocated
  simp [Geometry.shardBlocks, unallocated] at inShard

theorem Sound.room_elsewhere (sound : index.Sound count) {other : Geometry}
    (sameBlocks : geometry.blocksPerGeneration = other.blocksPerGeneration)
    (place : Fin other.shards × Nat) :
    (index.snapshotEntries now).1.countP (fun entry => other.locateHash entry.hash = place) ≤
      blockSlots := by
  by_cases present : ∃ entry ∈ (index.snapshotEntries now).1, other.locateHash entry.hash = place
  · rcases present with ⟨first, -, rfl⟩
    have here : (index.snapshotEntries now).1.countP _ ≤ _ :=
      sound.countP_snapshotEntries_le (geometry.locateHash first.hash)
    apply Nat.le_trans (countP_mono_left _) here
    intro entry _ same
    rw [decide_eq_true_eq] at same ⊢
    exact Geometry.locateHash_congr sameBlocks same
  · have absent : (index.snapshotEntries now).1.countP
        (fun entry => other.locateHash entry.hash = place) = 0 := by
      rw [countP_eq_zero]
      intro entry mem same
      exact present ⟨entry, mem, of_decide_eq_true same⟩
    rw [absent]
    exact Nat.zero_le _

theorem Sound.parse_saveToPath (sound : index.Sound layout.identities.length)
    (nodup : layout.identities.Nodup) (few : layout.identities.length ≤ maxBackends)
    (storable : ∀ identity ∈ layout.identities, identity.Storable) :
    ∃ data, (saveToPath layout index now).1 = some data ∧
      parseSnapshot data = some ⟨layout.identities, (index.snapshotEntries now).1⟩ := by
  have fits : ∀ entry ∈ (index.snapshotEntries now).1, entry.Fits layout.identities.length := by
    intro entry mem
    rcases sound.mem_snapshotEntries_iff.mp mem with ⟨shard, block, slot, found⟩
    have placed := sound.placed_of_entryAt found
    rcases placed.key with ⟨key, named, keyFits⟩
    cases named
    exact ⟨keyFits, placed.known⟩
  rcases exists_writeSnapshot storable fits with ⟨data, written⟩
  exact ⟨data, written, parseSnapshot_writeSnapshot written nodup few storable fits
    sound.length_snapshotEntries_lt⟩

/-- The entries of a snapshot with the slots of a layout, in the order in which they are
restored. -/
def translated (layout : AvailabilityLayout) (snapshot : StoredAvailabilitySnapshot) :
    List PersistedEntry :=
  (snapshot.entries.mergeSort fun first second => first.insertedAt ≤ second.insertedAt).map
    fun entry => { entry with missing := currentBits layout snapshot.identities entry.missing }

theorem mem_translated_iff :
    entry ∈ translated layout snapshot ↔
      ∃ stored ∈ snapshot.entries,
        { stored with missing := currentBits layout snapshot.identities stored.missing } =
          entry := by
  simp [translated]

theorem fits_translated (nodup : layout.identities.Nodup)
    (few : layout.identities.length ≤ maxBackends)
    (fits : ∀ entry ∈ snapshot.entries, KeyFits entry.key) :
    ∀ entry ∈ translated layout snapshot, entry.Fits layout.identities.length := by
  intro entry mem
  rcases mem_translated_iff.mp mem with ⟨stored, storedMem, rfl⟩
  refine ⟨fits stored storedMem, fun slot present => ?_⟩
  rcases contains_currentBits.mp present with ⟨_, -, identity, -, slotEq⟩
  have here := (slotIn_eq_some_iff nodup few).mp slotEq
  exact (List.getElem?_eq_some_iff.mp here).1

theorem Sound.restoreInto (sound : index.Sound layout.identities.length)
    (nodup : layout.identities.Nodup) (few : layout.identities.length ≤ maxBackends)
    (fits : ∀ entry ∈ snapshot.entries, KeyFits entry.key) :
    (restoreInto layout snapshot index now).Sound layout.identities.length :=
  (sound.restoring.foldl (fits_translated nodup few fits)).sound

/-- A fact that the index of a layout is told: about a key that can be stored, and about a
provider of the layout. -/
def Proper (layout : AvailabilityLayout) : IndexEvent geometry → Prop
  | .record key slot _ => KeyFits key ∧ slot.val < layout.identities.length
  | _ => True

/-- An index of a layout behind some events and some files that were loaded. -/
inductive Reached (hashing : Hashing) (layout : AvailabilityLayout) :
    AvailabilityIndex geometry → Prop
  | new : Reached hashing layout (withGeometry geometry)
  | event {index : AvailabilityIndex geometry} (event : IndexEvent geometry)
      (reached : Reached hashing layout index) (proper : Proper layout event) :
      Reached hashing layout (index.apply hashing event)
  | load {index loaded : AvailabilityIndex geometry} (data : Bytes) (now : UInt64)
      (reached : Reached hashing layout index)
      (done : loadFromPath layout index data now = some loaded) :
      Reached hashing layout loaded

theorem Reached.sound (reached : index.Reached hashing layout)
    (unlimited : geometry.ttlMillis = maxMillis) (nodup : layout.identities.Nodup)
    (few : layout.identities.length ≤ maxBackends) : index.Sound layout.identities.length := by
  induction reached with
  | new => exact sound_withGeometry unlimited
  | event event _ proper ih =>
    cases event with
    | record key slot now => exact ih.record proper.1 proper.2
    | lookup | snapshot | countShard =>
      exact ih.of_filters (filter_apply_of_sound ih nofun) (populated_apply_of_not_record nofun)
  | load data now _ done ih =>
    rcases Option.map_eq_some_iff.mp done with ⟨snapshot, parsed, rfl⟩
    exact ih.restoreInto nodup few (keyFits_of_parseSnapshot parsed)

theorem Sound.reports_restoreInto {key : Bytes} {after : UInt64}
    (sound : index.Sound layout.identities.length) (nodup : layout.identities.Nodup)
    (few : layout.identities.length ≤ maxBackends) (unlimited : geometry.ttlMillis = maxMillis)
    (notLast : now ≠ maxMillis) (fits : ∀ entry ∈ snapshot.entries, KeyFits entry.key)
    (allocated : snapshot.entries ≠ [] → geometry.blocksPerGeneration ≠ 0)
    (room : ∀ place, snapshot.entries.countP (fun entry =>
      geometry.locateHash entry.hash = place) ≤ blockSlots) :
    (AvailabilityIndex.restoreInto layout snapshot index now).reports hashing key slot after =
        true ↔
      ∃ entry ∈ translated layout snapshot, entry.Reports (.fromKey hashing key) key slot := by
  have restoring : ((translated layout snapshot).foldl (AvailabilityIndex.restoreEntry now)
      index.resetAll).Restoring layout.identities.length :=
    sound.restoring.foldl (fits_translated nodup few fits)
  have restored : ((translated layout snapshot).foldl (AvailabilityIndex.restoreEntry now)
      index.resetAll).Restored (translated layout snapshot) := by
    by_cases nothing : snapshot.entries = []
    · have noEntries : translated layout snapshot = [] := by simp [translated, nothing]
      rw [noEntries]
      exact restored_nil index
    · apply (restored_nil index).foldl sound.restoring (fits_translated nodup few fits) unlimited
        notLast (allocated nothing)
      intro place
      rw [translated, countP_map, (mergeSort_perm _ _).countP_eq]
      exact room place
  have sameCurrent : ((AvailabilityIndex.restoreInto layout snapshot index now).filterOf hashing
      key).current = (((translated layout snapshot).foldl (AvailabilityIndex.restoreEntry now)
        index.resetAll).filterOf hashing key).current :=
    congrArg (RingBuffer.behind · 0) (generations_reanchorAll restoring _)
  rw [(sound.restoreInto nodup few fits).reports_iff,
    ← restored.reports (fromKey_hash_ne_zero hashing key), sameCurrent]
  rfl

/-- An index that is saved and loaded with other servers and another number of shards, at a time
when the clock is not at its end, reports for every key exactly the providers that it reported
before and that the other servers have. -/
theorem reports_of_transfer {old new : Geometry}
    (sameCapacity : old.capacityBytes = new.capacityBytes)
    (sameGenerations : old.generationCount = new.generationCount)
    (oldUnlimited : old.ttlMillis = maxMillis) (newUnlimited : new.ttlMillis = maxMillis)
    {oldServers newServers : List HostName} {oldLayout newLayout : AvailabilityLayout}
    (oldHosts : ∀ host ∈ oldServers, host.WellEnded ∧ host.Fits)
    (oldBuilt : fromServers oldServers = some oldLayout)
    (newBuilt : fromServers newServers = some newLayout)
    {hashing : Hashing} {index : AvailabilityIndex old} {target : AvailabilityIndex new}
    (reached : index.Reached hashing oldLayout) (targetReached : target.Reached hashing newLayout)
    (savedAt : UInt64) {loadedAt : UInt64} (notLast : loadedAt ≠ maxMillis) :
    ∃ data loaded, (saveToPath oldLayout index savedAt).1 = some data ∧
      loadFromPath newLayout target data loadedAt = some loaded ∧
      ∀ key slot before after, loaded.reports hashing key slot after = true ↔
        ∃ identity oldSlot, newLayout.slotForIdentity identity = some slot ∧
          oldLayout.slotForIdentity identity = some oldSlot ∧
            index.reports hashing key oldSlot before = true := by
  have nodup := nodup_fromServers oldBuilt
  have few := length_fromServers oldBuilt
  have newNodup := nodup_fromServers newBuilt
  have newFew := length_fromServers newBuilt
  have sound := reached.sound oldUnlimited nodup few
  have targetSound := targetReached.sound newUnlimited newNodup newFew
  have sameBlocks := Geometry.blocksPerGeneration_congr sameCapacity sameGenerations
  have storable := storable_fromServers oldBuilt oldHosts
  have saves : ∃ data, (saveToPath oldLayout index savedAt).1 = some data ∧ _ :=
    sound.parse_saveToPath nodup few storable
  rcases saves with ⟨data, saved, parsed⟩
  refine ⟨data, _, saved, by rw [loadFromPath, parsed, Option.map_some], ?_⟩
  intro key slot before after
  rw [targetSound.reports_restoreInto newNodup newFew newUnlimited notLast
    (keyFits_of_parseSnapshot parsed) (sameBlocks ▸ sound.allocated_of_snapshotEntries)
    (sound.room_elsewhere sameBlocks)]
  constructor
  · rintro ⟨entry, mem, sameFingerprint, sameKey, present⟩
    rcases mem_translated_iff.mp mem with ⟨stored, storedMem, rfl⟩
    rcases contains_currentBits.mp present with ⟨oldSlot, missing, identity, here, slotEq⟩
    refine ⟨identity, oldSlot, slotEq, (slotIn_eq_some_iff nodup few).mpr here, ?_⟩
    exact sound.reports_iff_snapshotEntries.mpr
      ⟨stored, storedMem, sameFingerprint, sameKey, missing⟩
  · rintro ⟨identity, oldSlot, slotEq, oldSlotEq, reported⟩
    have savedEntry : ∃ entry ∈ (index.snapshotEntries savedAt).1, _ :=
      sound.reports_iff_snapshotEntries.mp reported
    rcases savedEntry with ⟨stored, storedMem, sameFingerprint, sameKey, missing⟩
    refine ⟨_, mem_translated_iff.mpr ⟨stored, storedMem, rfl⟩, sameFingerprint, sameKey, ?_⟩
    have here := (slotIn_eq_some_iff nodup few).mp oldSlotEq
    exact contains_currentBits.mpr ⟨oldSlot, missing, identity, here, slotEq⟩

/-- Two blocks, in some number of shards. -/
def lastingGeometry (shardCount : Nat) : Geometry :=
  ⟨80, maxMillis, 1, shardCount⟩

/-- Keys that are told apart by their length. -/
def lengthHashing : Hashing :=
  ⟨fun key => UInt64.ofNat key.length, fun _ => 0⟩

/-- Two hosts, each of which has a slot. -/
def pairLayout : AvailabilityLayout :=
  ⟨[0, 1], [⟨ascii "a"⟩, ⟨ascii "b"⟩], maskOfSlots [0, 1], .derived⟩

/-- The second host, which has the first slot now. -/
def soloLayout : AvailabilityLayout :=
  ⟨[0], [⟨ascii "b"⟩], maskOfSlots [0], .derived⟩

/-- Both hosts miss an article. -/
def pairEvents : List (IndexEvent (lastingGeometry 2)) :=
  [.record [97] 0 5, .record [97, 98] 1 6]

theorem pairIndex_reports_after_transfer :
    fromServers [letterHost, otherHost] = some pairLayout ∧
      fromServers [otherHost] = some soloLayout ∧
      ∃ data loaded, (saveToPath pairLayout (behind lengthHashing pairEvents) 7).1 = some data ∧
        loadFromPath soloLayout (withGeometry (lastingGeometry 1)) data 9 = some loaded ∧
        loaded.reports lengthHashing [97, 98] 0 9 = true := by
  have hosts : ∀ host ∈ [letterHost, otherHost], host.WellEnded ∧ host.Fits := by
    have letter : letterHost.WellEnded ∧ letterHost.Fits :=
      ⟨⟨65, by decide +kernel, by decide⟩, by unfold HostName.Fits; decide +kernel⟩
    have other : otherHost.WellEnded ∧ otherHost.Fits :=
      ⟨⟨98, by decide +kernel, by decide⟩, by unfold HostName.Fits; decide +kernel⟩
    simp [letter, other]
  have pairBuilt : fromServers [letterHost, otherHost] = some pairLayout := by
    decide +kernel
  have soloBuilt : fromServers [otherHost] = some soloLayout := by
    decide +kernel
  have fits : ∀ key ∈ [[97], [97, 98]], KeyFits key := by
    have checked : ∀ key ∈ [[97], [97, 98]],
        1 ≤ key.length ∧ key.length ≤ maxMessageIdBytes ∧ (decodeUtf8 key).isSome := by
      decide +kernel
    intro key mem
    rcases checked key mem with ⟨nonempty, short, decodes⟩
    exact ⟨nonempty, short, isUtf8_iff.mp decodes⟩
  have reached : (behind lengthHashing pairEvents).Reached lengthHashing pairLayout :=
    .event (.record [97, 98] 1 6)
      (.event (.record [97] 0 5) .new ⟨fits [97] (by decide), by decide⟩)
      ⟨fits [97, 98] (by decide), by decide⟩
  have target : (withGeometry (lastingGeometry 1)).Reached lengthHashing soloLayout := .new
  have sameCapacity : (lastingGeometry 2).capacityBytes = (lastingGeometry 1).capacityBytes := rfl
  rcases reports_of_transfer sameCapacity rfl rfl rfl hosts pairBuilt soloBuilt reached target 7
    (by decide : (9 : UInt64) ≠ maxMillis) with ⟨data, loaded, saved, done, reports⟩
  refine ⟨pairBuilt, soloBuilt, data, loaded, saved, done, ?_⟩
  exact (reports [97, 98] 0 9 9).mpr ⟨⟨ascii "b"⟩, 1, by decide +kernel, by decide +kernel,
    by decide +kernel⟩

/-- A fact from the first millisecond of the clock. -/
def firstEvents : List (IndexEvent (lastingGeometry 1)) :=
  [.record [97] 0 0]

/-- At the last millisecond of the clock it is as old as facts can be, and is not restored. -/
theorem not_restored_at_last_millisecond :
    (behind lengthHashing firstEvents).reports lengthHashing [97] 0 0 = true ∧
      ((saveToPath soloLayout (behind lengthHashing firstEvents) 1).1.bind fun data =>
          loadFromPath soloLayout (withGeometry (lastingGeometry 1)) data maxMillis).map
        (fun loaded => loaded.reports lengthHashing [97] 0 maxMillis) = some false := by
  decide +kernel

end AvailabilityIndex

end NntpProxy.Availability
