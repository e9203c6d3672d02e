import NntpProxy.Availability.Unlimited

/-!
# Restoring entries

Restoring empties all shards and stores the entries one by one.  The slots of a block are taken
in order, so that the entries of the block that were processed bound the slots that are taken,
and as long as a block gets no more entries than it has slots each of them finds a free one.
The index then reports what the entries say and nothing else.
-/

namespace NntpProxy.Availability

open Protocol Router Data Cache FilterState List

variable {geometry : Geometry} {count : Nat}

/-! ## Entries and free slots -/

/-- The entry reports the provider for the key. -/
def PersistedEntry.Reports (entry : PersistedEntry) (fingerprint : ArticleFingerprint)
    (key : Bytes) (provider : AvailabilitySlot) : Prop :=
  entry.fingerprint = fingerprint ∧ entry.key = key ∧ entry.missing.contains provider = true

variable {provider : AvailabilitySlot}

theorem ne_empty_of_contains {bits : MissingBits}
    (present : bits.contains provider = true) : bits ≠ .empty := by
  rintro rfl
  rw [BitSet.contains_empty] at present
  cases present

namespace Generation

variable {generation after : Generation} {fingerprint : ArticleFingerprint} {key : Bytes}
  {bits : MissingBits} {block : Nat}

theorem slotFor_of_free {hash : UInt64} {free : Fin blockSlots}
    (isFree : (generation.content block free).hash = 0) :
    (generation.content block (generation.slotFor hash block)).hash = 0 ∧
      generation.slotFor hash block ≤ free := by
  change (generation.blocks block).hashes free = 0 at isFree
  unfold slotFor
  cases found : (finRange blockSlots).find? fun slot =>
      (generation.blocks block).hashes slot = 0 with
  | none =>
    rw [find?_eq_none] at found
    exact absurd (decide_eq_true isFree) (found free (mem_finRange free))
  | some slot =>
    have hashEq := find?_some found
    rw [decide_eq_true_eq] at hashEq
    refine ⟨hashEq, ?_⟩
    rw [find?_eq_some_iff_getElem] at found
    rcases found with ⟨-, position, inRange, here, before⟩
    apply Nat.le_of_not_lt
    intro earlier
    have notFree := before free.val (by simpa [← here] using earlier)
    simp [isFree] at notFree

theorem reports_of_changed {slot : Fin blockSlots} {changed : SlotContent}
    (content : ∀ other place, after.content other place =
      if other = block ∧ place = slot then changed else generation.content other place)
    {other : ArticleFingerprint} {otherKey : Bytes} {added : Prop}
    (names : changed.Names other otherKey provider ↔
      (generation.content block slot).Names other otherKey provider ∨ added) {place : Nat} :
    after.Reports other otherKey place provider ↔
      generation.Reports other otherKey place provider ∨ place = block ∧ added := by
  simp only [reports_iff_names, content]
  constructor
  · rintro ⟨here, named⟩
    split at named
    next same =>
      rcases same with ⟨rfl, rfl⟩
      rcases names.mp named with old | new
      · exact Or.inl ⟨here, old⟩
      · exact Or.inr ⟨rfl, new⟩
    · exact Or.inl ⟨here, named⟩
  · rintro (⟨here, old⟩ | ⟨rfl, new⟩)
    · refine ⟨here, ?_⟩
      split
      next same =>
        rcases same with ⟨rfl, rfl⟩
        exact names.mpr (Or.inl old)
      · exact old
    · refine ⟨slot, ?_⟩
      rw [if_pos ⟨rfl, rfl⟩]
      exact names.mpr (Or.inr new)

variable (stores : generation.Stores fingerprint key bits block after)

include stores

theorem Stores.content_of_ne {other : Nat} (different : other ≠ block) (slot : Fin blockSlots) :
    after.content other slot = generation.content other slot := by
  cases stores with
  | joined _ _ _ content _ => rw [content, if_neg fun same => different same.1]
  | took content _ => rw [content, if_neg fun same => different same.1]

theorem Stores.reports_iff {free : Fin blockSlots}
    (isFree : (generation.content block free).hash = 0) {other : ArticleFingerprint}
    (named : other.hash ≠ 0) {otherKey : Bytes} {place : Nat} :
    after.Reports other otherKey place provider ↔
      generation.Reports other otherKey place provider ∨
        place = block ∧ fingerprint = other ∧ key = otherKey ∧ bits.contains provider = true := by
  rcases fingerprint with ⟨hash, tag⟩
  rcases other with ⟨otherHash, otherTag⟩
  cases stores with
  | joined slot before known content occupied =>
    apply reports_of_changed content
    rw [known]
    simp only [SlotContent.Names, Option.some.injEq, BitSet.contains_union, Bool.or_eq_true,
      ArticleFingerprint.mk.injEq]
    constructor
    · rintro ⟨sameHash, sameTag, sameKey, old | new⟩
      · exact Or.inl ⟨sameHash, sameTag, sameKey, old⟩
      · exact Or.inr ⟨⟨sameHash, sameTag⟩, sameKey, new⟩
    · rintro (⟨sameHash, sameTag, sameKey, old⟩ | ⟨⟨sameHash, sameTag⟩, sameKey, new⟩)
      · exact ⟨sameHash, sameTag, sameKey, Or.inl old⟩
      · exact ⟨sameHash, sameTag, sameKey, Or.inr new⟩
  | took content occupied =>
    apply reports_of_changed content
    have wasFree : ¬ (generation.content block (generation.slotFor hash block)).Names
        ⟨otherHash, otherTag⟩ otherKey provider := by
      intro names
      exact named (names.1.symm.trans (slotFor_of_free isFree).1)
    rw [or_iff_right wasFree]
    simp only [SlotContent.Names, Option.some.injEq, ArticleFingerprint.mk.injEq, and_assoc]

theorem Stores.taken_lt {processed : Nat} (room : processed < blockSlots)
    (taken : ∀ slot, (generation.content block slot).hash ≠ 0 → slot.val < processed)
    {slot : Fin blockSlots} (occupied : (after.content block slot).hash ≠ 0) :
    slot.val < processed + 1 := by
  have isFree : (generation.content block ⟨processed, room⟩).hash = 0 := by
    by_contra notFree
    exact Nat.lt_irrefl _ (taken _ notFree)
  cases stores with
  | joined known before knownEq content _ =>
    rw [content] at occupied
    split at occupied
    next here =>
      apply Nat.lt_succ_of_lt
      apply taken
      rw [here.2, knownEq]
      exact occupied
    · exact Nat.lt_succ_of_lt (taken slot occupied)
  | took content _ =>
    rw [content] at occupied
    split at occupied
    next here =>
      rw [here.2]
      exact Nat.lt_succ_of_le (slotFor_of_free isFree).2
    · exact Nat.lt_succ_of_lt (taken slot occupied)

end Generation

/-! ## Filters -/

namespace FilterState

variable {n : Nat} [NeZero n] {filter : FilterState n} {entry : PersistedEntry} {block : Nat}
  {now ttlMillis : UInt64}

/-- What keeps an entry from being restored. -/
def Skips (filter : FilterState n) (entry : PersistedEntry) (now ttlMillis : UInt64) : Prop :=
  filter.blocksPerGeneration = 0 ∨ entry.hash = 0 ∨ entry.missing = .empty ∨
    ttlMillis.toNat ≤ now.toNat - entry.insertedAt.toNat

theorem restoreEntry_of_skips (skips : filter.Skips entry now ttlMillis) :
    (filter.restoreEntry entry block now ttlMillis).1 = filter := by
  unfold Skips at skips
  unfold restoreEntry
  rw [if_pos skips]

theorem storesFact_restoreEntry (lasting : filter.Lasting)
    (accepted : ¬ filter.Skips entry now ttlMillis) :
    filter.StoresFact entry.fingerprint entry.key entry.missing block
      (filter.restoreEntry entry block now ttlMillis).1 := by
  unfold Skips at accepted
  unfold restoreEntry
  rw [if_neg accepted]
  simp only [lasting.unlimited, or_true, if_true, Nat.zero_min, RingBuffer.modifyBehind_zero]
  constructor
  · simp only [current, RingBuffer.behind_modifyFront_zero]
    exact Generation.Stores.of_restarted Generation.stores_store
  · rfl
  · exact fun cell other => Function.update_of_ne other _ _
  · exact Nat.max_eq_right lasting.live_le
  · exact congrArg (Prod.mk _) lasting.unlimited.symm

variable {generations : RingBuffer n Generation}

omit [NeZero n] in
theorem started_foldl_laterStarted {cells : List (Fin n)}
    (all : ∀ cell ∈ cells, (generations.cells cell).startedAt ≠ 0) {first : Option (Fin n)}
    (started : ∀ cell, first = some cell → (generations.cells cell).startedAt ≠ 0) :
    ∀ cell, cells.foldl (laterStarted generations) first = some cell →
      (generations.cells cell).startedAt ≠ 0 := by
  induction cells generalizing first with
  | nil => exact started
  | cons next cells ih =>
    rw [forall_mem_cons] at all
    apply ih all.2
    intro cell chosen
    unfold laterStarted at chosen
    split at chosen
    · cases chosen
      exact all.1
    · split at chosen
      · cases chosen
        exact all.1
      · exact started cell chosen

omit [NeZero n] in
theorem latestStarted_started {cell : Fin n}
    (latest : latestStarted generations = some cell) : (generations.cells cell).startedAt ≠ 0 := by
  apply started_foldl_laterStarted _ _ cell latest
  · intro cell mem
    simpa using (mem_filter.mp mem).2
  · intro cell chosen
    cases chosen

omit [NeZero n]

/-- All generations but the current one are new. -/
def OnlyCurrent (filter : FilterState n) : Prop :=
  ∀ cell, cell ≠ filter.generations.front → filter.generations.cells cell = .new

theorem reanchor_generations (only : filter.OnlyCurrent) :
    filter.reanchorCurrentGeneration.generations = filter.generations := by
  unfold reanchorCurrentGeneration
  split
  · rfl
  next cell latest =>
    have isFront : cell = filter.generations.front := by
      by_contra other
      apply latestStarted_started latest
      rw [only cell other]
      rfl
    rw [isFront]

@[simp]
theorem reanchor_dimensions (filter : FilterState n) :
    filter.reanchorCurrentGeneration.dimensions = filter.dimensions := by
  unfold reanchorCurrentGeneration
  split <;> rfl

@[simp]
theorem reanchor_liveGenerations (filter : FilterState n) :
    filter.reanchorCurrentGeneration.liveGenerations = filter.liveGenerations := by
  unfold reanchorCurrentGeneration
  split <;> rfl

end FilterState

/-! ## Entry after entry -/

variable {entries : List PersistedEntry}

namespace AvailabilityIndex

variable {index : AvailabilityIndex geometry} {now : UInt64}

theorem filter_restoreEntry (entry : PersistedEntry) (shard : Fin geometry.shards) :
    ((restoreEntry now index entry).shards shard).filter =
      if shard = (geometry.locateHash entry.hash).1 then
        ((index.shards shard).filter.restoreEntry entry (geometry.locateHash entry.hash).2 now
          geometry.ttlMillis).1
      else (index.shards shard).filter := by
  unfold restoreEntry
  by_cases here : shard = (geometry.locateHash entry.hash).1
  · subst here
    simp only [shards_setShard_self, if_true]
  · simp only [shards_setShard_of_ne index here, if_neg here]

/-- The shards while entries are restored. -/
structure Restoring (count : Nat) (index : AvailabilityIndex geometry) : Prop where
  filters : ∀ shard, SoundFilter geometry count shard (index.shards shard).filter
  only : ∀ shard, (index.shards shard).filter.OnlyCurrent

theorem Sound.restoring (sound : index.Sound count) : index.resetAll.Restoring count where
  filters := fun shard =>
    soundFilter_of_new (sound.filters shard).lasting.unlimited (sound.filters shard).blocks rfl rfl
  only := fun _ _ _ => rfl

theorem Restoring.restoreEntry (restoring : index.Restoring count) {entry : PersistedEntry}
    (fits : entry.Fits count) : (restoreEntry now index entry).Restoring count := by
  have step : ∀ shard, SoundFilter geometry count shard
      ((AvailabilityIndex.restoreEntry now index entry).shards shard).filter ∧
        ((AvailabilityIndex.restoreEntry now index entry).shards shard).filter.OnlyCurrent := by
    intro shard
    have filter := restoring.filters shard
    rw [filter_restoreEntry]
    split
    next here =>
      by_cases skips : (index.shards shard).filter.Skips entry now geometry.ttlMillis
      · rw [restoreEntry_of_skips skips]
        exact ⟨filter, restoring.only shard⟩
      · have stores : (index.shards shard).filter.StoresFact entry.fingerprint entry.key
            entry.missing (geometry.locateHash entry.hash).2 _ :=
          storesFact_restoreEntry filter.lasting skips
        simp only [FilterState.Skips, not_or] at skips
        refine ⟨filter.store stores ⟨skips.2.1, ?_, filter.blocks ▸ skips.1, fits.key, fits.known⟩,
          ?_⟩
        · rw [here]
          rfl
        · intro cell other
          rw [stores.front] at other
          rw [stores.others cell other]
          exact restoring.only shard cell other
    · exact ⟨filter, restoring.only shard⟩
  exact ⟨fun shard => (step shard).1, fun shard => (step shard).2⟩

theorem Restoring.foldl (restoring : index.Restoring count)
    (fits : ∀ entry ∈ entries, entry.Fits count) :
    (entries.foldl (AvailabilityIndex.restoreEntry now) index).Restoring count := by
  induction entries generalizing index with
  | nil => exact restoring
  | cons entry entries ih =>
    rw [forall_mem_cons] at fits
    exact ih (restoring.restoreEntry fits.1) fits.2

/-- What the shards hold is what the entries say that were restored. -/
structure Restored (entries : List PersistedEntry) (index : AvailabilityIndex geometry) : Prop where
  taken : ∀ shard block slot,
    ((index.shards shard).filter.current.content block slot).hash ≠ 0 →
      slot.val < entries.countP fun entry => geometry.locateHash entry.hash = (shard, block)
  reports : ∀ {fingerprint : ArticleFingerprint} {key provider}, fingerprint.hash ≠ 0 →
    ((index.shards (geometry.locateHash fingerprint.hash).1).filter.current.Reports fingerprint key
        (geometry.locateHash fingerprint.hash).2 provider ↔
      ∃ entry ∈ entries, entry.Reports fingerprint key provider)

theorem restored_nil (index : AvailabilityIndex geometry) : index.resetAll.Restored [] where
  taken := fun _ _ _ occupied => absurd rfl occupied
  reports := by
    intro fingerprint key provider _
    simp only [not_mem_nil, false_and, exists_false, iff_false]
    exact Generation.not_reports_new

theorem Restoring.restoreEntry_cases (restoring : index.Restoring count)
    (unlimited : geometry.ttlMillis = maxMillis) (notLast : now ≠ maxMillis)
    (allocated : geometry.blocksPerGeneration ≠ 0) (entry : PersistedEntry)
    (shard : Fin geometry.shards) :
    ((AvailabilityIndex.restoreEntry now index entry).shards shard).filter =
        (index.shards shard).filter ∧
      (shard = (geometry.locateHash entry.hash).1 → entry.hash = 0 ∨ entry.missing = .empty) ∨
    shard = (geometry.locateHash entry.hash).1 ∧
      (index.shards shard).filter.StoresFact entry.fingerprint entry.key entry.missing
        (geometry.locateHash entry.hash).2
        ((AvailabilityIndex.restoreEntry now index entry).shards shard).filter := by
  rw [filter_restoreEntry]
  by_cases here : shard = (geometry.locateHash entry.hash).1
  · rw [if_pos here]
    by_cases skips : (index.shards shard).filter.Skips entry now geometry.ttlMillis
    · refine Or.inl ⟨restoreEntry_of_skips skips, fun _ => ?_⟩
      have inShard := geometry.locateHash_lt allocated entry.hash
      rw [← here] at inShard
      have young : now.toNat - entry.insertedAt.toNat < u64Max :=
        Nat.lt_of_le_of_lt (Nat.sub_le _ _) (lt_u64Max notLast)
      rcases skips with unallocated | noHash | nothing | old
      · rw [(restoring.filters shard).blocks] at unallocated
        exact absurd inShard (unallocated ▸ Nat.not_lt_zero _)
      · exact Or.inl noHash
      · exact Or.inr nothing
      · rw [unlimited, toNat_maxMillis] at old
        exact absurd young (Nat.not_lt_of_le old)
    · exact Or.inr ⟨here,
        storesFact_restoreEntry (restoring.filters shard).lasting skips⟩
  · rw [if_neg here]
    exact Or.inl ⟨rfl, fun same => absurd same here⟩

theorem Restored.restoreEntry {entry : PersistedEntry} (restored : index.Restored entries)
    (restoring : index.Restoring count) (unlimited : geometry.ttlMillis = maxMillis)
    (notLast : now ≠ maxMillis) (allocated : geometry.blocksPerGeneration ≠ 0)
    (room : entries.countP (fun other =>
      geometry.locateHash other.hash = geometry.locateHash entry.hash) < blockSlots) :
    (AvailabilityIndex.restoreEntry now index entry).Restored (entries ++ [entry]) := by
  have cases := restoring.restoreEntry_cases unlimited notLast allocated entry
  have isFree : ((index.shards (geometry.locateHash entry.hash).1).filter.current.content
      (geometry.locateHash entry.hash).2 ⟨_, room⟩).hash = 0 := by
    by_contra occupied
    exact Nat.lt_irrefl _ (restored.taken _ _ _ occupied)
  constructor
  · intro shard block slot occupied
    rw [countP_append]
    rcases cases shard with ⟨same, -⟩ | ⟨here, stores⟩
    · rw [same] at occupied
      exact Nat.lt_add_right _ (restored.taken shard block slot occupied)
    · by_cases sameBlock : block = (geometry.locateHash entry.hash).2
      · subst here sameBlock
        have counted : [entry].countP (fun other =>
            geometry.locateHash other.hash = geometry.locateHash entry.hash) = 1 := by simp
        rw [counted]
        exact stores.stores.taken_lt room (restored.taken _ _) occupied
      · rw [stores.stores.content_of_ne sameBlock] at occupied
        exact Nat.lt_add_right _ (restored.taken shard block slot occupied)
  · intro fingerprint key provider named
    have before : _ ↔ ∃ entry ∈ entries, entry.Reports fingerprint key provider :=
      restored.reports named
    simp only [mem_append, mem_singleton, or_and_right, exists_or, exists_eq_left]
    rcases cases (geometry.locateHash fingerprint.hash).1 with ⟨same, silent⟩ | ⟨here, stores⟩
    · rw [same, before, or_iff_left]
      rintro ⟨rfl, -, present⟩
      rcases silent rfl with noHash | nothing
      · exact named noHash
      · exact ne_empty_of_contains present nothing
    · rw [here] at before stores ⊢
      rw [stores.stores.reports_iff isFree named, before]
      apply or_congr_right
      constructor
      · rintro ⟨-, reports⟩
        exact reports
      · rintro ⟨rfl, reports⟩
        exact ⟨rfl, rfl, reports⟩

theorem Restored.foldl (restored : index.Restored []) (restoring : index.Restoring count)
    (fits : ∀ entry ∈ entries, entry.Fits count) (unlimited : geometry.ttlMillis = maxMillis)
    (notLast : now ≠ maxMillis) (allocated : geometry.blocksPerGeneration ≠ 0)
    (room : ∀ place, entries.countP (fun entry => geometry.locateHash entry.hash = place) ≤
      blockSlots) :
    (entries.foldl (AvailabilityIndex.restoreEntry now) index).Restored entries := by
  induction entries using reverseRecOn with
  | nil => exact restored
  | append_singleton entries entry ih =>
    have fitsBefore : ∀ entry ∈ entries, entry.Fits count := fun entry mem =>
      fits entry (mem_append_left _ mem)
    have roomBefore : ∀ place,
        entries.countP (fun entry => geometry.locateHash entry.hash = place) ≤ blockSlots := by
      intro place
      apply Nat.le_trans _ (room place)
      rw [countP_append]
      exact Nat.le_add_right _ _
    rw [foldl_concat]
    apply (ih fitsBefore roomBefore).restoreEntry (restoring.foldl fitsBefore) unlimited notLast
      allocated
    have roomHere := room (geometry.locateHash entry.hash)
    have counted : [entry].countP (fun other =>
        geometry.locateHash other.hash = geometry.locateHash entry.hash) = 1 := by simp
    rw [countP_append, counted] at roomHere
    exact roomHere

theorem generations_reanchorAll (restoring : index.Restoring count) (shard : Fin geometry.shards) :
    (index.reanchorAll.shards shard).filter.generations =
      (index.shards shard).filter.generations := by
  simp only [reanchorAll]
  split
  · rfl
  · exact reanchor_generations (restoring.only shard)

theorem Restoring.soundFilter_reanchorAll (restoring : index.Restoring count)
    (shard : Fin geometry.shards) :
    SoundFilter geometry count shard (index.reanchorAll.shards shard).filter := by
  have filter := restoring.filters shard
  have generations := generations_reanchorAll restoring shard
  have live : (index.reanchorAll.shards shard).filter.liveGenerations =
      (index.shards shard).filter.liveGenerations := by
    simp only [reanchorAll]
    split
    · rfl
    · exact reanchor_liveGenerations _
  have dimensions : (index.reanchorAll.shards shard).filter.dimensions =
      (index.shards shard).filter.dimensions := by
    simp only [reanchorAll]
    split
    · rfl
    · exact reanchor_dimensions _
  have current : (index.reanchorAll.shards shard).filter.current =
      (index.shards shard).filter.current := by
    rw [current, generations]
    rfl
  refine ⟨⟨?_, ?_, ?_⟩, ?_, ?_, ?_⟩
  · exact (congrArg Prod.snd dimensions).trans filter.lasting.unlimited
  · rw [live]
    exact filter.lasting.live_le
  · rw [live, current]
    exact filter.lasting.live_of_started
  · exact (congrArg Prod.fst dimensions).trans filter.blocks
  · rw [current]
    exact filter.slots
  · rw [live, current]
    exact filter.empty

/-- The latch is closed when a shard has a fact. -/
theorem Restoring.sound (restoring : index.Restoring count) :
    index.reanchorAll.publishRestored.Sound count where
  filters := restoring.soundFilter_reanchorAll
  empty := by
    intro unpopulated shard
    have filter := restoring.soundFilter_reanchorAll shard
    simp only [publishRestored, Bool.or_eq_false_iff, any_eq_false, mem_finRange,
      true_implies, bne_iff_ne, not_not] at unpopulated
    have nothing := unpopulated.2 shard
    rcases Nat.le_one_iff_eq_zero_or_eq_one.mp filter.lasting.live_le with dead | live
    · exact filter.empty dead
    · apply filter.slots.counted
      simpa [occupiedSlots, activeGenerations, live,
        current] using nothing

end AvailabilityIndex

end NntpProxy.Availability
