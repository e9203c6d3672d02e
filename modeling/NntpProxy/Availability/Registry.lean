import NntpProxy.Availability.Identity
import NntpProxy.Data.Binary
import NntpProxy.Protocol.Responses

/-!
# The slot registry

A process with a disk cache keeps its providers in a registry, so that what was stored under
a slot keeps its meaning when the servers change.  At its start it reads the registry of the
process before it, appends the providers that are new, and publishes the result.  The slot of
a provider is its place in the registry, and the registry keeps the epoch that it was first
published with.
-/

namespace NntpProxy.Availability

open Protocol Router Data List Reader AvailabilityIdentity AvailabilityLayout

/-! ## The file -/

def registryMagic : Bytes := ascii "ANEGREG2"

def readString : Reader Bytes := do
  let length ← number 4
  if length = 0 ∨ length > maxRegistryFieldBytes then fail
  else
    let octets ← take length
    if (decodeUtf8 octets).isSome then pure octets else fail

/-- Without octets the value is too long. -/
def writeString (value : Bytes) : Option Bytes :=
  if value.length > maxRegistryFieldBytes then none
  else some (littleEndian 4 value.length ++ value)

/-- Read a number of providers behind those that were read. -/
def readIdentities : Nat → List AvailabilityIdentity → Reader (List AvailabilityIdentity)
  | 0, identities => pure identities
  | count + 1, identities => do
      let host ← readString
      match fromPersistedHost host with
      | none => fail
      | some identity =>
        if identity ∈ identities then fail
        else readIdentities count (identities ++ [identity])

/-- Read what stands behind the magic octets. -/
def readRegistry : Reader (List AvailabilityIdentity × RegistryEpoch) := do
  let epoch ← number 8
  if nonzero : UInt64.ofNat epoch ≠ 0 then
    let count ← number 8
    if count > maxBackends then fail
    else
      let identities ← readIdentities count []
      pure (identities, ⟨UInt64.ofNat epoch, nonzero⟩)
  else fail

def parseRegistry (data : Bytes) : Option (List AvailabilityIdentity × RegistryEpoch) :=
  if data.length < registryMagic.length + 2 * 8 ∨
      data.take registryMagic.length ≠ registryMagic then none
  else
    match readRegistry.run (data.drop registryMagic.length) with
    | some (registry, []) => some registry
    | _ => none

def writeIdentities (identities : List AvailabilityIdentity) : Option Bytes :=
  writeList (fun identity => writeString identity.host) identities

/-- The octets of a registry.  Without them a host is too long. -/
def publishRegistry (epoch : RegistryEpoch) (identities : List AvailabilityIdentity) :
    Option Bytes :=
  (writeIdentities identities).map fun fields =>
    registryMagic ++ (littleEndian 8 epoch.value.toNat ++
      (littleEndian 8 identities.length ++ fields))

/-! ## Starts -/

/-- The layout of a process that starts with this file, and the file that it leaves.  A new
registry gets the `fresh` epoch.  Without a layout the process does not start. -/
def AvailabilityLayout.fromHybridRegistry (servers : List HostName) (fresh : RegistryEpoch)
    (stored : Option Bytes) : Option (AvailabilityLayout × Option Bytes) :=
  let loaded := stored.bind parseRegistry
  let (known, epoch) := loaded.getD ([], fresh)
  let identities := collectIdentities known servers
  if identities.length > maxBackends then none
  else
    let published :=
      if loaded.isNone ∨ identities ≠ known then (publishRegistry epoch identities).map some
      else some stored
    published.bind fun stored =>
      (backendSlotsIn identities servers).map fun slots =>
        (⟨slots, identities, maskOfSlots slots, .registered epoch⟩, stored)

/-- Processes that start one after the other, each with the file that the one before left: the
servers of each, and its layout if it started. -/
def runProcesses (fresh : Nat → RegistryEpoch) :
    Nat → Option Bytes → List (List HostName) → List (List HostName × Option AvailabilityLayout)
  | _, _, [] => []
  | index, stored, servers :: later =>
    match fromHybridRegistry servers (fresh index) stored with
    | none => (servers, none) :: runProcesses fresh (index + 1) stored later
    | some (layout, stored) =>
      (servers, some layout) :: runProcesses fresh (index + 1) stored later

/-! ## Reading what was written -/

theorem reads_readString {value : Bytes} (nonempty : value ≠ [])
    (fits : value.length ≤ maxRegistryFieldBytes) (isUtf8 : IsUtf8 value) :
    readString.Reads (littleEndian 4 value.length ++ value) value := by
  have inField : value.length < 256 ^ 4 := Nat.lt_of_le_of_lt fits (by decide)
  have accepted : ¬ (value.length = 0 ∨ value.length > maxRegistryFieldBytes) := by
    rintro (isEmpty | tooLong)
    · exact nonempty (length_eq_zero_iff.mp isEmpty)
    · exact absurd fits (Nat.not_le_of_lt tooLong)
  apply (reads_number inField).bind
  rw [if_neg accepted]
  exact reads_checked (isUtf8_iff.mpr isUtf8)

variable {identities : List AvailabilityIdentity}

/-- The providers can be written exactly when no host is too long. -/
theorem exists_writeIdentities_iff :
    (∃ fields, writeIdentities identities = some fields) ↔
      ∀ identity ∈ identities, identity.host.length ≤ maxRegistryFieldBytes := by
  rw [writeIdentities, exists_writeList_iff]
  apply forall₂_congr
  intro identity _
  rw [writeString]
  split
  next tooLong => simp [Nat.not_le_of_lt tooLong]
  next fits => simp [Nat.le_of_not_lt fits]

theorem reads_readIdentities {fields : Bytes} (written : writeIdentities identities = some fields)
    (settled : ∀ identity ∈ identities, identity.Settled) {before : List AvailabilityIdentity}
    (nodup : (before ++ identities).Nodup) :
    (readIdentities identities.length before).Reads fields (before ++ identities) := by
  induction identities generalizing before fields with
  | nil =>
    cases written
    rw [append_nil]
    exact reads_pure before
  | cons identity identities ih =>
    have fits := exists_writeIdentities_iff.mp ⟨fields, written⟩ identity mem_cons_self
    rw [forall_mem_cons] at settled
    rw [writeIdentities, writeList, writeString, if_neg (Nat.not_lt_of_le fits),
      Option.bind_some] at written
    rcases Option.map_eq_some_iff.mp written with ⟨later, writtenLater, rfl⟩
    rw [← singleton_append, ← append_assoc] at nodup
    have isNew : identity ∉ before := by
      have front := (nodup_append.mp nodup).1
      rw [← concat_eq_append, nodup_concat] at front
      exact front.1
    apply (reads_readString settled.1.nonempty fits settled.1.isUtf8).bind
    simp only [fromPersistedHost_settled settled.1 fits, if_neg isNew]
    have readLater := ih writtenLater settled.2 nodup
    rwa [append_assoc, singleton_append] at readLater

theorem parseRegistry_publishRegistry {epoch : RegistryEpoch} {data : Bytes}
    (published : publishRegistry epoch identities = some data) (nodup : identities.Nodup)
    (few : identities.length ≤ maxBackends) (settled : ∀ identity ∈ identities, identity.Settled) :
    parseRegistry data = some (identities, epoch) := by
  rcases Option.map_eq_some_iff.mp published with ⟨fields, written, rfl⟩
  have epochEq : UInt64.ofNat epoch.value.toNat = epoch.value := UInt64.ofNat_toNat
  have inField : identities.length < 256 ^ 8 := Nat.lt_of_le_of_lt few (by decide)
  have reads : readRegistry.Reads (littleEndian 8 epoch.value.toNat ++
      (littleEndian 8 identities.length ++ fields)) (identities, epoch) := by
    apply (reads_number (by simpa using epoch.value.toNat_lt)).bind
    rw [dif_pos (epochEq.symm ▸ epoch.nonzero)]
    apply (reads_number inField).bind
    rw [if_neg (Nat.not_lt_of_le few)]
    have readAll : (readIdentities identities.length []).Reads fields ([] ++ identities) :=
      reads_readIdentities written settled nodup
    simpa [epochEq] using readAll.map fun identities => (identities, epoch)
  have whole := reads []
  rw [append_nil] at whole
  have longEnough : ¬ ((registryMagic ++ (littleEndian 8 epoch.value.toNat ++
      (littleEndian 8 identities.length ++ fields))).length < registryMagic.length + 2 * 8 ∨
      (registryMagic ++ (littleEndian 8 epoch.value.toNat ++
        (littleEndian 8 identities.length ++ fields))).take registryMagic.length ≠
          registryMagic) := by
    simp
    omega
  rw [parseRegistry, if_neg longEnough, drop_left, whole]

/-! ## One start -/

theorem backendSlotsIn_of_mem {servers : List HostName} (few : identities.length ≤ maxBackends)
    (known : ∀ host ∈ servers, ofHost host ∈ identities) :
    ∃ slots, backendSlotsIn identities servers = some slots ∧
      slots.map some = servers.map fun host => slotIn identities (.ofHost host) := by
  induction servers with
  | nil => exact ⟨[], rfl, rfl⟩
  | cons host servers ih =>
    rw [forall_mem_cons] at known
    rcases slotIn_of_mem known.1 few with ⟨slot, slotEq, -⟩
    rcases ih known.2 with ⟨slots, slotsEq, same⟩
    unfold backendSlotsIn at slotsEq ⊢
    refine ⟨slot :: slots, ?_, ?_⟩
    · rw [mapM_cons, slotEq, slotsEq]
      rfl
    · rw [map_cons, map_cons, slotEq, same]

/-- What a layout says about the servers that it was made from. -/
structure AvailabilityLayout.Places (layout : AvailabilityLayout) (servers : List HostName) :
    Prop where
  known : ∀ host ∈ servers, ofHost host ∈ layout.identities
  slots : layout.backendSlots.map some =
    servers.map fun host => layout.slotForIdentity (.ofHost host)

/-- The providers of a registry: some of these, none of them twice and none too long. -/
structure Registered (all : Finset AvailabilityIdentity) (identities : List AvailabilityIdentity) :
    Prop where
  nodup : identities.Nodup
  among : ∀ identity ∈ identities, identity ∈ all
  fits : ∀ identity ∈ identities, identity.host.length ≤ maxRegistryFieldBytes

/-- The host can be stored. -/
def HostName.Fits (host : HostName) : Prop :=
  (canonicalizeHost host.text).length ≤ maxRegistryFieldBytes

variable {runs : List (List HostName × Option AvailabilityLayout)}

variable {host : HostName} {starts : List (List HostName)}

section

variable {all : Finset AvailabilityIdentity} {identities : List AvailabilityIdentity}
variable {servers : List HostName} {fresh epoch : RegistryEpoch} {stored : Option Bytes}

theorem Registered.length_le (registered : Registered all identities) :
    identities.length ≤ all.card := by
  rw [← toFinset_card_of_nodup registered.nodup]
  apply Finset.card_le_card
  intro identity mem
  exact registered.among identity (mem_toFinset.mp mem)

theorem Registered.collect (registered : Registered all identities)
    (among : ∀ host ∈ servers, ofHost host ∈ all)
    (fits : ∀ host ∈ servers, host.Fits) :
    Registered all (collectIdentities identities servers) := by
  refine ⟨nodup_collectIdentities registered.nodup servers, ?_, ?_⟩
  · simp only [mem_collectIdentities_iff]
    rintro identity (known | ⟨host, mem, rfl⟩)
    · exact registered.among identity known
    · exact among host mem
  · simp only [mem_collectIdentities_iff]
    rintro identity (known | ⟨host, mem, rfl⟩)
    · exact registered.fits identity known
    · exact fits host mem

/-- A start with the providers and the epoch that were loaded, or with none and a fresh epoch,
leaves a file with all providers and the same epoch. -/
theorem fromHybridRegistry_of_fits (few : all.card ≤ maxBackends)
    (settled : ∀ identity ∈ all, identity.Settled)
    (loaded : (stored.bind parseRegistry).getD ([], fresh) = (identities, epoch))
    (registered : Registered all identities)
    (among : ∀ host ∈ servers, ofHost host ∈ all)
    (fits : ∀ host ∈ servers, host.Fits) :
    ∃ layout left,
      fromHybridRegistry servers fresh stored = some (layout, left) ∧
        left.bind parseRegistry = some (layout.identities, epoch) ∧
        layout.identities = collectIdentities identities servers ∧
        layout.epoch = .registered epoch ∧ layout.Places servers := by
  have collected := registered.collect among fits
  have fewCollected := Nat.le_trans collected.length_le few
  have known : ∀ host ∈ servers,
      ofHost host ∈ collectIdentities identities servers :=
    fun host mem => mem_collectIdentities_iff.mpr (Or.inr ⟨host, mem, rfl⟩)
  rcases backendSlotsIn_of_mem fewCollected known with ⟨slots, slotsEq, sameSlots⟩
  rcases exists_writeIdentities_iff.mpr collected.fits with ⟨fields, written⟩
  unfold fromHybridRegistry
  simp only [loaded, if_neg (Nat.not_lt_of_le fewCollected), slotsEq]
  split
  next changed =>
    have published : publishRegistry epoch (collectIdentities identities servers) = some _ :=
      congrArg (Option.map _) written
    rw [published]
    refine ⟨_, _, rfl, ?_, rfl, rfl, known, sameSlots⟩
    rw [Option.bind_some]
    exact parseRegistry_publishRegistry published collected.nodup fewCollected
      fun identity mem => settled identity (collected.among identity mem)
  next unchanged =>
    rw [not_or, not_not] at unchanged
    refine ⟨_, _, rfl, ?_, rfl, rfl, known, sameSlots⟩
    cases start : stored.bind parseRegistry with
    | none =>
      rw [start] at unchanged
      exact absurd rfl unchanged.1
    | some registry =>
      rw [start, Option.getD_some] at loaded
      rw [loaded, unchanged.2]

theorem fromHybridRegistry_of_not_fits
    (loaded : (stored.bind parseRegistry).getD ([], fresh) = (identities, epoch))
    (registered : Registered all identities) (mem : host ∈ servers) (tooLong : ¬ host.Fits) :
    fromHybridRegistry servers fresh stored = none := by
  have known : ofHost host ∈ collectIdentities identities servers :=
    mem_collectIdentities_iff.mpr (Or.inr ⟨host, mem, rfl⟩)
  have isNew : collectIdentities identities servers ≠ identities := by
    intro same
    rw [same] at known
    exact tooLong (registered.fits _ known)
  have unwritten : writeIdentities (collectIdentities identities servers) = none := by
    rw [Option.eq_none_iff_forall_ne_some]
    intro fields written
    exact tooLong (exists_writeIdentities_iff.mp ⟨fields, written⟩ _ known)
  unfold fromHybridRegistry
  simp only [loaded]
  split
  · rfl
  · rw [if_pos (Or.inr isNew), publishRegistry, unwritten]
    rfl

/-! ## Start after start -/

/-- The file is not a registry, or it is one of some of these providers. -/
def Readable (all : Finset AvailabilityIdentity) (stored : Option Bytes) : Prop :=
  ∀ identities epoch, stored.bind parseRegistry = some (identities, epoch) →
    Registered all identities

theorem Readable.registered (readable : Readable all stored)
    (loaded : (stored.bind parseRegistry).getD ([], fresh) = (identities, epoch)) :
    Registered all identities := by
  cases start : stored.bind parseRegistry with
  | none =>
    rw [start] at loaded
    cases loaded
    exact ⟨nodup_nil, by simp, by simp⟩
  | some registry =>
    rw [start] at loaded
    exact readable identities epoch (start.trans (congrArg some loaded))

/-- What the processes that start have in common: their epoch, and a list of providers that
begins with the providers of each. -/
structure SharedRegistry (epoch : RegistryEpoch) (identities : List AvailabilityIdentity)
    (runs : List (List HostName × Option AvailabilityLayout)) : Prop where
  nodup : identities.Nodup
  few : identities.length ≤ maxBackends
  starts : ∀ servers, (servers, none) ∈ runs → ∃ host ∈ servers, ¬ host.Fits
  fits : ∀ servers layout, (servers, some layout) ∈ runs → ∀ host ∈ servers, host.Fits
  sameEpoch : ∀ servers layout, (servers, some layout) ∈ runs → layout.epoch = .registered epoch
  front : ∀ servers layout, (servers, some layout) ∈ runs → layout.identities <+: identities
  places : ∀ servers layout, (servers, some layout) ∈ runs → layout.Places servers

theorem SharedRegistry.cons_none (shared : SharedRegistry epoch identities runs)
    (mem : host ∈ servers)
    (tooLong : ¬ host.Fits) : SharedRegistry epoch identities ((servers, none) :: runs) := by
  refine ⟨shared.nodup, shared.few, ?_, ?_, ?_, ?_, ?_⟩
  · rintro others isRun
    rcases mem_cons.mp isRun with isFirst | later
    · cases isFirst
      exact ⟨host, mem, tooLong⟩
    · exact shared.starts others later
  · exact fun others layout isRun => shared.fits others layout (by simpa using isRun)
  · exact fun others layout isRun => shared.sameEpoch others layout (by simpa using isRun)
  · exact fun others layout isRun => shared.front others layout (by simpa using isRun)
  · exact fun others layout isRun => shared.places others layout (by simpa using isRun)

theorem SharedRegistry.cons_some {layout : AvailabilityLayout}
    (shared : SharedRegistry epoch identities runs) (fits : ∀ host ∈ servers, host.Fits)
    (epochEq : layout.epoch = .registered epoch) (front : layout.identities <+: identities)
    (places : layout.Places servers) :
    SharedRegistry epoch identities ((servers, some layout) :: runs) := by
  refine ⟨shared.nodup, shared.few, ?_, ?_, ?_, ?_, ?_⟩
  · exact fun others isRun => shared.starts others (by simpa using isRun)
  all_goals
    rintro others other isRun
    rcases mem_cons.mp isRun with isFirst | later
  · cases isFirst
    exact fits
  · exact shared.fits others other later
  · cases isFirst
    exact epochEq
  · exact shared.sameEpoch others other later
  · cases isFirst
    exact front
  · exact shared.front others other later
  · cases isFirst
    exact places
  · exact shared.places others other later

/-- All processes that start use one epoch and take their slots from one list of providers,
which goes on where the file ends. -/
theorem runProcesses_shared (few : all.card ≤ maxBackends)
    (settled : ∀ identity ∈ all, identity.Settled) (freshEpochs : Nat → RegistryEpoch)
    (among : ∀ servers ∈ starts, ∀ host ∈ servers, ofHost host ∈ all)
    (index : Nat) (readable : Readable all stored) :
    ∃ epoch identities,
      SharedRegistry epoch identities (runProcesses freshEpochs index stored starts) ∧
      ∀ known knownEpoch, stored.bind parseRegistry = some (known, knownEpoch) →
        knownEpoch = epoch ∧ known <+: identities := by
  induction starts generalizing index stored with
  | nil =>
    rcases loaded : (stored.bind parseRegistry).getD ([], freshEpochs index) with ⟨known, epoch⟩
    have registered := readable.registered loaded
    refine ⟨epoch, known, ⟨registered.nodup, Nat.le_trans registered.length_le few, ?_, ?_, ?_,
      ?_, ?_⟩, ?_⟩
    iterate 5 exact fun _ => by simp [runProcesses]
    intro other otherEpoch start
    rw [start] at loaded
    cases loaded
    exact ⟨rfl, prefix_refl _⟩
  | cons servers starts ih =>
    rw [forall_mem_cons] at among
    rcases loaded : (stored.bind parseRegistry).getD ([], freshEpochs index) with ⟨known, epoch⟩
    have registered := readable.registered loaded
    by_cases fits : ∀ host ∈ servers, host.Fits
    · rcases fromHybridRegistry_of_fits few settled loaded registered among.1 fits with
        ⟨layout, left, started, leftEq, collected, epochEq, places⟩
      have readableLeft : Readable all left := by
        intro identities leftEpoch start
        cases leftEq.symm.trans start
        rw [collected]
        exact registered.collect among.1 fits
      rcases ih among.2 (index + 1) readableLeft with ⟨shared, identities, runs, goesOn⟩
      rcases goesOn _ _ leftEq with ⟨rfl, front⟩
      rw [runProcesses, started]
      refine ⟨epoch, identities, runs.cons_some fits epochEq front places, ?_⟩
      intro other otherEpoch start
      rw [start] at loaded
      cases loaded
      exact ⟨rfl, (prefix_collectIdentities _ servers).trans (collected ▸ front)⟩
    · simp only [not_forall] at fits
      rcases fits with ⟨host, mem, tooLong⟩
      rcases ih among.2 (index + 1) readable with ⟨shared, identities, runs, goesOn⟩
      rw [runProcesses, fromHybridRegistry_of_not_fits loaded registered mem tooLong]
      exact ⟨shared, identities, runs.cons_none mem tooLong, goesOn⟩

theorem SharedRegistry.slot {layout : AvailabilityLayout}
    (shared : SharedRegistry epoch identities runs) (isRun : (servers, some layout) ∈ runs)
    (mem : host ∈ servers) :
    ∃ slot : AvailabilitySlot, layout.slotForIdentity (.ofHost host) = some slot ∧
      slot.val = identities.idxOf (.ofHost host) ∧ .ofHost host ∈ identities := by
  have front := shared.front servers layout isRun
  have known := (shared.places servers layout isRun).known host mem
  rcases slotIn_of_mem known (Nat.le_trans front.length_le shared.few) with ⟨slot, slotEq, place⟩
  refine ⟨slot, slotEq, ?_, front.subset known⟩
  rcases front with ⟨later, rfl⟩
  rw [idxOf_append_of_mem known, place]

end

/-- The providers of all starts. -/
def providersOf (starts : List (List HostName)) : Finset AvailabilityIdentity :=
  (starts.flatten.map ofHost).toFinset

theorem mem_providersOf_iff {identity : AvailabilityIdentity} :
    identity ∈ providersOf starts ↔
      ∃ servers ∈ starts, ∃ host ∈ servers, ofHost host = identity := by
  simp only [providersOf, mem_toFinset, mem_map, mem_flatten]
  constructor
  · rintro ⟨host, ⟨servers, isStart, mem⟩, rfl⟩
    exact ⟨servers, isStart, host, mem, rfl⟩
  · rintro ⟨servers, isStart, host, mem, rfl⟩
    exact ⟨host, ⟨servers, isStart, mem⟩, rfl⟩

/-- Processes that start one after the other, with any servers of at most 64 hosts in all: each
starts unless a host is too long for the registry; they all use one epoch; servers have the
slots of their hosts; and two configured hosts, of one process or of two, have the same slot
exactly when they are the same canonical host. -/
theorem slots_stable (freshEpochs : Nat → RegistryEpoch) (stored : Option Bytes)
    (absent : stored.bind parseRegistry = none) (starts : List (List HostName))
    (few : (providersOf starts).card ≤ maxBackends)
    (wellEnded : ∀ servers ∈ starts, ∀ host ∈ servers, host.WellEnded) :
    (∀ servers outcome, (servers, outcome) ∈ runProcesses freshEpochs 0 stored starts →
        (outcome = none ↔ ∃ host ∈ servers, ¬ host.Fits)) ∧
      ∀ servers layout others other,
        (servers, some layout) ∈ runProcesses freshEpochs 0 stored starts →
        (others, some other) ∈ runProcesses freshEpochs 0 stored starts →
          layout.epoch = other.epoch ∧
          (layout.backendSlots.map some =
            servers.map fun host => layout.slotForIdentity (.ofHost host)) ∧
          ∀ host ∈ servers, ∀ otherHost ∈ others, ∃ slot otherSlot,
            layout.slotForIdentity (.ofHost host) = some slot ∧
            other.slotForIdentity (.ofHost otherHost) = some otherSlot ∧
            (slot = otherSlot ↔ canonicalizeHost host.text = canonicalizeHost otherHost.text) := by
  have among : ∀ servers ∈ starts, ∀ host ∈ servers,
      AvailabilityIdentity.ofHost host ∈ providersOf starts :=
    fun servers isStart host mem => mem_providersOf_iff.mpr ⟨servers, isStart, host, mem, rfl⟩
  have settled : ∀ identity ∈ providersOf starts, identity.Settled := by
    intro identity isProvider
    rcases mem_providersOf_iff.mp isProvider with ⟨servers, isStart, host, mem, rfl⟩
    exact AvailabilityIdentity.settled_ofHost (wellEnded servers isStart host mem)
  have readable : Readable (providersOf starts) stored :=
    fun _ _ loaded => nomatch absent.symm.trans loaded
  rcases runProcesses_shared few settled freshEpochs among 0 readable with
    ⟨epoch, identities, shared, -⟩
  constructor
  · intro servers outcome isRun
    cases outcome with
    | none => exact iff_of_true rfl (shared.starts servers isRun)
    | some layout =>
      refine iff_of_false nofun ?_
      rintro ⟨host, mem, tooLong⟩
      exact tooLong (shared.fits servers layout isRun host mem)
  · intro servers layout others other isRun isOther
    refine ⟨?_, (shared.places servers layout isRun).slots, ?_⟩
    · rw [shared.sameEpoch servers layout isRun, shared.sameEpoch others other isOther]
    · intro host mem otherHost otherMem
      rcases shared.slot isRun mem with ⟨slot, slotEq, place, known⟩
      rcases shared.slot isOther otherMem with ⟨otherSlot, otherEq, otherPlace, -⟩
      refine ⟨slot, otherSlot, slotEq, otherEq, ?_⟩
      rw [Fin.ext_iff, place, otherPlace, idxOf_inj known, AvailabilityIdentity.ofHost,
        AvailabilityIdentity.ofHost, AvailabilityIdentity.mk.injEq]

/-- A host name of one letter. -/
def letterHost : HostName :=
  ⟨ascii "A.", [65, 46], by decide +kernel, by decide, by decide +kernel⟩

/-- Another host name of one letter. -/
def otherHost : HostName :=
  ⟨ascii "b", [98], by decide +kernel, by decide, by decide +kernel⟩

theorem letterHosts_slots_stable :
    (Option.none : Option Bytes).bind parseRegistry = none ∧
      (∀ servers ∈ [[letterHost], [otherHost, letterHost]], ∀ host ∈ servers, host.WellEnded) ∧
      ∀ servers layout others other,
        (servers, some layout) ∈
          runProcesses (fun _ => ⟨1, by decide⟩) 0 none [[letterHost], [otherHost, letterHost]] →
        (others, some other) ∈
          runProcesses (fun _ => ⟨1, by decide⟩) 0 none [[letterHost], [otherHost, letterHost]] →
          layout.epoch = other.epoch := by
  have wellEnded : ∀ servers ∈ [[letterHost], [otherHost, letterHost]], ∀ host ∈ servers,
      host.WellEnded := by
    have letter : letterHost.WellEnded := ⟨65, by decide +kernel, by decide⟩
    have other : otherHost.WellEnded := ⟨98, by decide +kernel, by decide⟩
    simp [letter, other]
  have stable := slots_stable (fun _ => ⟨1, by decide⟩) none rfl
    [[letterHost], [otherHost, letterHost]] (by decide +kernel) wellEnded
  refine ⟨rfl, wellEnded, ?_⟩
  intro servers layout others other isRun isOther
  exact (stable.2 servers layout others other isRun isOther).1

end NntpProxy.Availability
