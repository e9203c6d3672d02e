import NntpProxy.Availability.Index
import NntpProxy.Availability.Registry

/-!
# Snapshots of the index

The index is saved as a table of its providers and a list of its entries, whose bits are
positions in that table.  Loading empties an index, translates the bits of each entry into the
slots that the same providers have now, and puts the entry into the generation that its age
calls for, in the shard and block that its hash has now.
-/

namespace NntpProxy.Availability

open Protocol Router Data Cache Reader AvailabilityIdentity

/-! ## Entries -/

/-- An entry of a snapshot. -/
structure PersistedEntry where
  hash : UInt64
  tag : UInt16
  key : Bytes
  missing : MissingBits
  insertedAt : UInt64
  deriving DecidableEq, Repr

def PersistedEntry.fingerprint (entry : PersistedEntry) : ArticleFingerprint :=
  ⟨entry.hash, entry.tag⟩

/-- The entry of a slot, if it is occupied. -/
def Generation.entryAt (generation : Generation) (block : Nat) (slot : Fin blockSlots) :
    Option PersistedEntry :=
  let blockState := generation.blocks block
  if blockState.hashes slot = 0 ∨ blockState.missing slot = .empty then none
  else
    (generation.keys block slot).map fun key =>
      ⟨blockState.hashes slot, blockState.tags slot, key, blockState.missing slot,
        generation.startedAt⟩

def Generation.entries (generation : Generation) (blocks : Nat) : List PersistedEntry :=
  (List.range blocks).flatMap fun block =>
    (List.finRange blockSlots).filterMap (generation.entryAt block)

/-- The entries of the live generations, behind the rotation that is due. -/
def FilterState.snapshotEntries {n : Nat} [NeZero n] (filter : FilterState n) (now : UInt64) :
    List PersistedEntry :=
  let filter := (filter.rotateIfNeeded now).1
  filter.activeGenerations.flatMap (·.entries filter.blocksPerGeneration)

namespace AvailabilityIndex

variable {geometry : Geometry}

/-- The entries of all shards, and the index behind the snapshot. -/
def snapshotEntries (index : AvailabilityIndex geometry) (now : UInt64) :
    List PersistedEntry × AvailabilityIndex geometry :=
  ((List.finRange geometry.shards).flatMap fun shard =>
      (index.shards shard).filter.snapshotEntries now, index.rotateAll now)

end AvailabilityIndex

/-! ## The file -/

def persistenceMagic : Bytes := ascii "ANEGSIM7"

/-- The formats of earlier versions, which are read as empty snapshots. -/
def legacyPersistenceMagics : List Bytes :=
  [ascii "ANEGIDX1", ascii "ANEGIDX2", ascii "ANEGSIM1", ascii "ANEGSIM2", ascii "ANEGSIM3",
    ascii "ANEGSIM4", ascii "ANEGSIM5", ascii "ANEGSIM6"]

def maxIdentityFieldBytes : Nat := 1024 * 1024

def maxMessageIdBytes : Nat := 250

/-- Without octets the host is too long. -/
def writeIdentity (identity : AvailabilityIdentity) : Option Bytes :=
  if identity.host.length < 2 ^ 32 then
    some (littleEndian 4 identity.host.length ++ identity.host)
  else none

/-- Without octets the key has no valid length. -/
def writeMessageKey (key : Bytes) : Option Bytes :=
  if 1 ≤ key.length ∧ key.length ≤ maxMessageIdBytes then
    some (littleEndian 2 key.length ++ key)
  else none

def writeEntry (entry : PersistedEntry) : Option Bytes :=
  (writeMessageKey entry.key).map fun key =>
    littleEndian 8 entry.hash.toNat ++ (littleEndian 2 entry.tag.toNat ++
      (key ++ (littleEndian 8 entry.missing.bits.toNat ++
        littleEndian 8 entry.insertedAt.toNat)))

/-- The octets of a snapshot. -/
def writeSnapshot (identities : List AvailabilityIdentity) (entries : List PersistedEntry) :
    Option Bytes :=
  (writeList writeIdentity identities).bind fun table =>
    (writeList writeEntry entries).map fun list =>
      persistenceMagic ++ (littleEndian 8 identities.length ++ (table ++
        (littleEndian 8 entries.length ++ list)))

def readHost : Reader Bytes := do
  let length ← number 4
  if length > maxIdentityFieldBytes then fail
  else
    let octets ← take length
    if (decodeUtf8 octets).isSome ∧ octets ≠ [] then pure octets else fail

def readIdentity : Reader AvailabilityIdentity := do
  let host ← readHost
  match fromPersistedHost host with
  | none => fail
  | some identity => pure identity

def readMessageKey : Reader Bytes := do
  let length ← number 2
  if 1 ≤ length ∧ length ≤ maxMessageIdBytes then
    let octets ← take length
    if (decodeUtf8 octets).isSome then pure octets else fail
  else fail

/-- One bit for each provider of a table. -/
def identityMask (count : Nat) : BitVec maxBackends :=
  if count = maxBackends then BitVec.allOnes maxBackends
  else ((1 : BitVec maxBackends) <<< count) - 1

/-- Read an entry of a snapshot with this many providers. -/
def readEntry (count : Nat) : Reader PersistedEntry := do
  let hash ← number 8
  let tag ← number 2
  let key ← readMessageKey
  let missing ← number 8
  if BitVec.ofNat maxBackends missing &&& ~~~ identityMask count ≠ 0 then fail
  else
    let insertedAt ← number 8
    pure ⟨UInt64.ofNat hash, UInt16.ofNat tag, key, ⟨BitVec.ofNat maxBackends missing⟩,
      UInt64.ofNat insertedAt⟩

/-- Read the table of the providers and the number of the entries. -/
def readTable : Reader (List AvailabilityIdentity × Nat) := do
  let count ← number 8
  if count > maxBackends then fail
  else
    let identities ← readIdentity.list count
    if identities.Nodup then
      let entries ← number 8
      pure (identities, entries)
    else fail

/-- The octets of an entry without its key. -/
def entryWidth : Nat := 8 + 2 * 2 + 8 + 8

/-- The table of the providers and the entries, whose bits are positions in the table. -/
structure StoredAvailabilitySnapshot where
  identities : List AvailabilityIdentity
  entries : List PersistedEntry
  deriving DecidableEq, Repr

/-- Read a file.  Without a result it is not a snapshot. -/
def parseSnapshot (data : Bytes) : Option StoredAvailabilitySnapshot :=
  if data.length < persistenceMagic.length + 8 then none
  else if data.take persistenceMagic.length ∈ legacyPersistenceMagics then some ⟨[], []⟩
  else if data.take persistenceMagic.length ≠ persistenceMagic then none
  else
    match readTable.run (data.drop persistenceMagic.length) with
    | none => none
    | some ((identities, count), rest) =>
      if count > rest.length / entryWidth then none
      else
        match ((readEntry identities.length).list count).run rest with
        | some (entries, []) => some ⟨identities, entries⟩
        | _ => none

/-! ## Restoring -/

/-- The bits of a snapshot as slots of a layout; providers that the layout does not have are
dropped. -/
def currentBits (layout : AvailabilityLayout) (identities : List AvailabilityIdentity)
    (missing : MissingBits) : MissingBits :=
  let present (entry : AvailabilityIdentity × Nat) : Bool :=
    match availabilitySlot entry.2 with
    | some position => missing.contains position
    | none => false
  maskOfSlots ((identities.zipIdx.filter present).filterMap fun entry =>
    layout.slotForIdentity entry.1)

namespace Generation

/-- Insert bits and count the slot if it was free. -/
def store (generation : Generation) (fingerprint : ArticleFingerprint) (key : Bytes)
    (bits : MissingBits) (block : Nat) : Generation × InsertOutcome :=
  let (inserted, outcome) := generation.insertMissingBits fingerprint key bits block
  (FilterState.countInserted outcome inserted, outcome)

/-- A restored entry must not look younger than it is. -/
def restoreStart (generation : Generation) (insertedAt : UInt64) : Generation :=
  { generation with
    startedAt :=
      if generation.startedAt = 0 then insertedAt else min generation.startedAt insertedAt }

end Generation

namespace FilterState

variable {n : Nat} [NeZero n]

/-- Put an entry into the generation that its age calls for. -/
def restoreEntry (filter : FilterState n) (entry : PersistedEntry) (block : Nat)
    (now ttlMillis : UInt64) : FilterState n × Nat :=
  if filter.blocksPerGeneration = 0 ∨ entry.hash = 0 ∨ entry.missing = .empty ∨
      ttlMillis.toNat ≤ now.toNat - entry.insertedAt.toNat then (filter, 0)
  else
    let interval := filter.rotationIntervalMillis
    let offset :=
      min (if interval = 0 ∨ interval = maxMillis then 0
        else (now.toNat - entry.insertedAt.toNat) / interval.toNat) (n - 1)
    let (generation, outcome) :=
      ((filter.generations.behind offset).restoreStart entry.insertedAt).store entry.fingerprint
        entry.key entry.missing block
    ({ filter with
        generations := filter.generations.modifyBehind offset fun _ => generation
        liveGenerations := max filter.liveGenerations (offset + 1) },
      if outcome = .replaced then 1 else 0)

/-- Of two cells the one whose generation started last. -/
def laterStarted (generations : RingBuffer n Generation) (latest : Option (Fin n))
    (cell : Fin n) : Option (Fin n) :=
  match latest with
  | none => some cell
  | some other =>
    if (generations.cells other).startedAt ≤ (generations.cells cell).startedAt then some cell
    else some other

/-- The generation that started last, the one in the highest cell of several. -/
def latestStarted (generations : RingBuffer n Generation) : Option (Fin n) :=
  ((List.finRange n).filter fun cell => (generations.cells cell).startedAt ≠ 0).foldl
    (laterStarted generations) none

/-- Make the generation that started last the current one. -/
def reanchorCurrentGeneration (filter : FilterState n) : FilterState n :=
  match latestStarted filter.generations with
  | none => filter
  | some cell =>
    { filter with
      generations := { filter.generations with front := cell }
      nextRotationAt := filter.rotationAfter (filter.generations.cells cell).startedAt }

end FilterState

namespace AvailabilityIndex

variable {geometry : Geometry}

/-- Empty all shards. -/
def resetAll (index : AvailabilityIndex geometry) : AvailabilityIndex geometry :=
  { index with shards := fun shard => ⟨(index.shards shard).filter.reset, ⟨0, 0, 0⟩⟩ }

/-- Put an entry into its shard. -/
def restoreEntry (now : UInt64) (index : AvailabilityIndex geometry) (entry : PersistedEntry) :
    AvailabilityIndex geometry :=
  let (shard, block) := geometry.locateHash entry.hash
  let state := index.shards shard
  let (filter, evicted) := state.filter.restoreEntry entry block now geometry.ttlMillis
  index.setShard shard
    ⟨filter, { state.counters with evictions := state.counters.evictions + evicted }⟩

/-- Choose the current generation of each shard that has one. -/
def reanchorAll (index : AvailabilityIndex geometry) : AvailabilityIndex geometry :=
  { index with
    shards := fun shard =>
      let state := index.shards shard
      if state.filter.liveGenerations = 0 then state
      else { state with filter := state.filter.reanchorCurrentGeneration } }

/-- Note that there are facts. -/
def publishRestored (index : AvailabilityIndex geometry) : AvailabilityIndex geometry :=
  { index with
    populated := index.populated ||
      (List.finRange geometry.shards).any fun shard =>
        (index.shards shard).filter.occupiedSlots != 0 }

/-- The index with the entries of a snapshot instead of its own. -/
def restoreInto (layout : AvailabilityLayout) (snapshot : StoredAvailabilitySnapshot)
    (index : AvailabilityIndex geometry) (now : UInt64) : AvailabilityIndex geometry :=
  let entries := snapshot.entries.mergeSort fun first second => first.insertedAt ≤ second.insertedAt
  let mapped := entries.map fun entry =>
    { entry with missing := currentBits layout snapshot.identities entry.missing }
  (mapped.foldl (restoreEntry now) index.resetAll).reanchorAll.publishRestored

variable (layout : AvailabilityLayout) (index : AvailabilityIndex geometry)

/-- Save an index with this layout. -/
def saveToPath (now : UInt64) :
    Option Bytes × AvailabilityIndex geometry :=
  let (entries, index) := index.snapshotEntries now
  (writeSnapshot layout.identities entries, index)

/-- Load a file into an index with this layout.  Without an index the file is not a snapshot. -/
def loadFromPath (data : Bytes) (now : UInt64) : Option (AvailabilityIndex geometry) :=
  (parseSnapshot data).map fun snapshot => restoreInto layout snapshot index now

end AvailabilityIndex

/-! ## Reading what was written -/

/-- A key that can be stored. -/
structure KeyFits (key : Bytes) : Prop where
  nonempty : 1 ≤ key.length
  short : key.length ≤ maxMessageIdBytes
  isUtf8 : IsUtf8 key

/-- An entry that can be stored beside this many providers. -/
structure PersistedEntry.Fits (count : Nat) (entry : PersistedEntry) : Prop where
  key : KeyFits entry.key
  known : ∀ provider, entry.missing.contains provider = true → provider.val < count

variable {count : Nat}

theorem getLsbD_identityMask (few : count ≤ maxBackends) {i : Nat}
    (inWord : i < maxBackends) : (identityMask count).getLsbD i = decide (i < count) := by
  unfold identityMask
  split
  next full => simp [full]
  next notFull =>
    have fewer : count < maxBackends := Nat.lt_of_le_of_ne few notFull
    have power : 2 ^ count < 2 ^ maxBackends := Nat.pow_lt_pow_right (by decide) fewer
    have value : (((1 : BitVec maxBackends) <<< count) - 1).toNat = 2 ^ count - 1 := by
      have positive := Nat.two_pow_pos count
      rw [BitVec.toNat_sub_of_le]
      · simp [Nat.shiftLeft_eq, Nat.mod_eq_of_lt power]
      · rw [BitVec.le_def, BitVec.toNat_shiftLeft]
        simp [Nat.shiftLeft_eq, Nat.mod_eq_of_lt power]
        omega
    rw [BitVec.getLsbD, value, Nat.testBit_two_pow_sub_one]

theorem inMask_of_known (few : count ≤ maxBackends) {missing : MissingBits}
    (known : ∀ provider, missing.contains provider = true → provider.val < count) :
    missing.bits &&& ~~~ identityMask count = 0 := by
  apply BitVec.eq_of_getLsbD_eq
  intro i inWord
  rw [BitVec.getLsbD_and, BitVec.getLsbD_not, getLsbD_identityMask few inWord]
  cases present : missing.bits.getLsbD i with
  | false => simp
  | true =>
    have below : i < count :=
      known ⟨i, inWord⟩ (by rw [BitSet.contains_eq_getLsbD, present])
    simp [below]

theorem reads_readHost {host : Bytes} (nonempty : host ≠ [])
    (fits : host.length ≤ maxIdentityFieldBytes) (isUtf8 : IsUtf8 host) :
    readHost.Reads (littleEndian 4 host.length ++ host) host := by
  apply (reads_number (Nat.lt_of_le_of_lt fits (by decide))).bind
  rw [if_neg (Nat.not_lt_of_le fits)]
  exact reads_checked ⟨isUtf8_iff.mpr isUtf8, nonempty⟩

/-- The provider can be written, and it is read as it was. -/
structure AvailabilityIdentity.Storable (identity : AvailabilityIdentity) : Prop where
  settled : identity.Settled
  fits : identity.host.length ≤ maxRegistryFieldBytes

variable {identity : AvailabilityIdentity}

theorem exists_writeIdentity (storable : identity.Storable) :
    ∃ octets, writeIdentity identity = some octets := by
  have inField : identity.host.length < 2 ^ 32 := Nat.lt_of_le_of_lt storable.fits (by decide)
  exact ⟨_, if_pos inField⟩

variable {octets : Bytes}

theorem reads_readIdentity (storable : identity.Storable)
    (written : writeIdentity identity = some octets) :
    readIdentity.Reads octets identity := by
  rcases storable with ⟨settled, fits⟩
  unfold writeIdentity at written
  split at written
  · cases written
    have read := (reads_readHost settled.nonempty fits settled.isUtf8).bind
      (fun host =>
        match fromPersistedHost host with
        | none => fail
        | some identity => pure identity)
      (by
        rw [fromPersistedHost_settled settled fits]
        exact reads_pure identity)
    rwa [List.append_nil] at read
  · cases written

variable {entry : PersistedEntry}

theorem exists_writeEntry_iff :
    (∃ octets, writeEntry entry = some octets) ↔
      1 ≤ entry.key.length ∧ entry.key.length ≤ maxMessageIdBytes := by
  rw [writeEntry, writeMessageKey]
  split
  next inRange => simp [inRange]
  next outside => simp [outside]

variable {identities : List AvailabilityIdentity} {entries : List PersistedEntry}

theorem exists_writeSnapshot (storable : ∀ identity ∈ identities, identity.Storable)
    (fits : ∀ entry ∈ entries, entry.Fits count) :
    ∃ data, writeSnapshot identities entries = some data := by
  rcases exists_writeList_iff.mpr fun identity mem =>
    exists_writeIdentity (storable identity mem) with ⟨table, writtenTable⟩
  rcases exists_writeList_iff.mpr fun entry mem =>
    exists_writeEntry_iff.mpr ⟨(fits entry mem).key.nonempty, (fits entry mem).key.short⟩ with
    ⟨list, writtenList⟩
  rw [writeSnapshot, writtenTable, writtenList]
  exact ⟨_, rfl⟩

theorem reads_readMessageKey {key : Bytes} (fits : KeyFits key) :
    readMessageKey.Reads (littleEndian 2 key.length ++ key) key := by
  apply (reads_number (Nat.lt_of_le_of_lt fits.short (by decide))).bind
  rw [if_pos ⟨fits.nonempty, fits.short⟩]
  exact reads_checked (isUtf8_iff.mpr fits.isUtf8)

theorem reads_readEntry (few : count ≤ maxBackends) (fits : entry.Fits count)
    (written : writeEntry entry = some octets) :
    (readEntry count).Reads octets entry := by
  rcases Option.map_eq_some_iff.mp written with ⟨key, writtenKey, rfl⟩
  rw [writeMessageKey, if_pos ⟨fits.key.nonempty, fits.key.short⟩] at writtenKey
  cases writtenKey
  apply (reads_number (by simpa using entry.hash.toNat_lt)).bind
  apply (reads_number (by simpa using entry.tag.toNat_lt)).bind
  apply (reads_readMessageKey fits.key).bind
  apply (reads_number (Nat.lt_of_lt_of_eq entry.missing.bits.isLt (by decide))).bind
  have inMask : ¬ BitVec.ofNat maxBackends entry.missing.bits.toNat &&& ~~~ identityMask count ≠
      0 := by
    rw [BitVec.ofNat_toNat, not_not]
    exact inMask_of_known few fits.known
  rw [if_neg inMask]
  have inField : entry.insertedAt.toNat < 256 ^ 8 := by simpa using entry.insertedAt.toNat_lt
  have read := (reads_number inField).map fun insertedAt =>
    PersistedEntry.mk (UInt64.ofNat entry.hash.toNat) (UInt16.ofNat entry.tag.toNat) entry.key
      ⟨BitVec.ofNat maxBackends entry.missing.bits.toNat⟩ (UInt64.ofNat insertedAt)
  simpa using read

theorem entryWidth_le_length
    (written : writeEntry entry = some octets) : entryWidth ≤ octets.length := by
  rcases Option.map_eq_some_iff.mp written with ⟨key, writtenKey, rfl⟩
  unfold writeMessageKey at writtenKey
  split at writtenKey
  · cases writtenKey
    simp [entryWidth]
    omega
  · cases writtenKey

theorem reads_readTable {table : Bytes}
    (written : writeList writeIdentity identities = some table) (nodup : identities.Nodup)
    (few : identities.length ≤ maxBackends) (storable : ∀ identity ∈ identities, identity.Storable)
    (inField : count < 256 ^ 8) :
    readTable.Reads (littleEndian 8 identities.length ++ (table ++
      littleEndian 8 count)) (identities, count) := by
  apply (reads_number (Nat.lt_of_le_of_lt few (by decide))).bind
  rw [if_neg (Nat.not_lt_of_le few)]
  apply (reads_list written fun identity mem part => reads_readIdentity
    (storable identity mem)).bind
  rw [if_pos nodup]
  exact (reads_number inField).map fun count => (identities, count)

theorem parseSnapshot_writeSnapshot {data : Bytes}
    (written : writeSnapshot identities entries = some data) (nodup : identities.Nodup)
    (few : identities.length ≤ maxBackends) (storable : ∀ identity ∈ identities, identity.Storable)
    (fits : ∀ entry ∈ entries, entry.Fits identities.length)
    (inField : entries.length < 256 ^ 8) : parseSnapshot data = some ⟨identities, entries⟩ := by
  rcases Option.bind_eq_some_iff.mp written with ⟨table, writtenTable, later⟩
  rcases Option.map_eq_some_iff.mp later with ⟨list, writtenList, rfl⟩
  have readTable := reads_readTable writtenTable nodup few storable inField list
  have readList := reads_list writtenList
    (fun entry mem part => reads_readEntry few (fits entry mem)) []
  have enough : entries.length ≤ list.length / entryWidth :=
    (Nat.le_div_iff_mul_le (by decide)).mpr
      (le_length_writeList writtenList fun entry _ part => entryWidth_le_length)
  rw [List.append_nil] at readList
  rw [List.append_assoc, List.append_assoc] at readTable
  unfold parseSnapshot
  rw [List.take_left, List.drop_left, if_neg, if_neg (by decide), if_neg (not_not.mpr rfl),
    readTable]
  · simp only [if_neg (Nat.not_lt_of_le enough), readList]
  · simp

theorem keyFits_of_parseSnapshot {data : Bytes} {snapshot : StoredAvailabilitySnapshot}
    (parsed : parseSnapshot data = some snapshot) :
    ∀ entry ∈ snapshot.entries, KeyFits entry.key := by
  have readKey : readMessageKey.Yields KeyFits := by
    refine yields_bind fun length => ?_
    split
    next inRange =>
      refine Reader.Yields.bind (yields_take length) fun octets lengthEq => ?_
      split
      next decodes =>
        exact yields_pure ⟨lengthEq ▸ inRange.1, lengthEq ▸ inRange.2, isUtf8_iff.mp decodes⟩
      · exact yields_fail _
    · exact yields_fail _
  have readEntry (count : Nat) : (readEntry count).Yields fun entry => KeyFits entry.key := by
    refine yields_bind fun hash => yields_bind fun tag => ?_
    refine Reader.Yields.bind readKey fun key fits => yields_bind fun missing => ?_
    split
    · exact yields_fail _
    · exact yields_bind fun insertedAt => yields_pure fits
  unfold parseSnapshot at parsed
  split at parsed
  · cases parsed
  split at parsed
  · cases parsed
    exact List.forall_mem_nil _
  split at parsed
  · cases parsed
  split at parsed
  · cases parsed
  next identities count rest _ =>
    split at parsed
    · cases parsed
    split at parsed
    next entries read =>
      cases parsed
      exact yields_list (readEntry _) count _ _ _ read
    · cases parsed

end NntpProxy.Availability
