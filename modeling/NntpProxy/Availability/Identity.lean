import NntpProxy.Protocol.Text
import NntpProxy.Router.Selection

/-!
# Provider identities

What one backend says about an article holds for all backends of the same provider.  A
provider is known by its host name, without regard to letter case and to one dot at the end.
A layout gives each provider a slot, which is its place in a list of identities; servers of
one host share their slot.
-/

namespace NntpProxy.Availability

open Protocol Router Data

/-! ## Hosts -/

/-- A configured host: text that is trimmed and not empty. -/
structure HostName where
  text : Bytes
  validated : ∃ points, decodeUtf8 text = some points ∧ points ≠ [] ∧ trim points = points

theorem HostName.isUtf8 (host : HostName) : IsUtf8 host.text := by
  rcases host.validated with ⟨points, decodes, -⟩
  exact isUtf8_iff.mp (by rw [decodes, Option.isSome_some])

def dot : UInt8 := 46

/-- A host without the dot at its end. -/
def stripDot (host : Bytes) : Bytes :=
  if host.getLast? = some dot then host.dropLast else host

def canonicalizeHost (host : Bytes) : Bytes :=
  (stripDot host).map asciiLower

/-- The host has an end that is not a dot when one dot was taken away. -/
def HostName.WellEnded (host : HostName) : Prop :=
  ∃ last, (stripDot host.text).getLast? = some last ∧ last ≠ dot

/-- A provider. -/
structure AvailabilityIdentity where
  host : Bytes
  deriving DecidableEq, Repr

def maxRegistryFieldBytes : Nat := 1024 * 1024

namespace AvailabilityIdentity

def ofHost (host : HostName) : AvailabilityIdentity :=
  ⟨canonicalizeHost host.text⟩

/-- The provider of a host that was stored. -/
def fromPersistedHost (host : Bytes) : Option AvailabilityIdentity :=
  let host := canonicalizeHost host
  if host = [] ∨ host.length > maxRegistryFieldBytes then none else some ⟨host⟩

/-- The identity can be stored and is found again under the same name. -/
structure Settled (identity : AvailabilityIdentity) : Prop where
  nonempty : identity.host ≠ []
  canonical : canonicalizeHost identity.host = identity.host
  isUtf8 : IsUtf8 identity.host

theorem asciiLower_asciiLower (byte : UInt8) : asciiLower (asciiLower byte) = asciiLower byte := by
  unfold asciiLower
  grind

theorem asciiLower_eq_dot {byte : UInt8} (isDot : asciiLower byte = dot) : byte = dot := by
  unfold asciiLower dot at *
  grind

theorem settled_ofHost {host : HostName} (wellEnded : host.WellEnded) : (ofHost host).Settled := by
  rcases wellEnded with ⟨last, isLast, notDot⟩
  have lastEq : (canonicalizeHost host.text).getLast? = some (asciiLower last) := by
    rw [canonicalizeHost, List.getLast?_map, isLast, Option.map_some]
  have otherEnd : (canonicalizeHost host.text).getLast? ≠ some dot := by
    rw [lastEq]
    rintro isDot
    exact notDot (asciiLower_eq_dot (Option.some.inj isDot))
  constructor
  · intro isEmpty
    rw [show canonicalizeHost host.text = [] from isEmpty] at lastEq
    cases lastEq
  · change ((stripDot (canonicalizeHost host.text)).map asciiLower) = canonicalizeHost host.text
    rw [stripDot, if_neg otherEnd, canonicalizeHost, List.map_map]
    exact List.map_congr_left fun byte _ => asciiLower_asciiLower byte
  · apply IsUtf8.map_asciiLower
    unfold stripDot
    split
    next endsInDot =>
      have whole := List.dropLast_append_getLast? dot endsInDot
      exact IsUtf8.of_concat (by decide) (whole.symm ▸ host.isUtf8)
    next => exact host.isUtf8

theorem fromPersistedHost_settled {identity : AvailabilityIdentity} (settled : identity.Settled)
    (fits : identity.host.length ≤ maxRegistryFieldBytes) :
    fromPersistedHost identity.host = some identity := by
  unfold fromPersistedHost
  simp only [settled.canonical]
  rw [if_neg]
  rintro (isEmpty | tooLong)
  · exact settled.nonempty isEmpty
  · exact absurd fits (Nat.not_le_of_lt tooLong)

end AvailabilityIdentity

/-! ## Layouts -/

/-- A registry generation, which is never zero. -/
structure RegistryEpoch where
  value : UInt64
  nonzero : value ≠ 0
  deriving DecidableEq, Repr

inductive LayoutEpoch where
  | derived
  | registered (epoch : RegistryEpoch)
  deriving DecidableEq, Repr

/-- The slots of the configured backends, and the providers by slot. -/
structure AvailabilityLayout where
  backendSlots : List AvailabilitySlot
  identities : List AvailabilityIdentity
  mask : BitSet maxBackends
  epoch : LayoutEpoch
  deriving DecidableEq, Repr

/-- The slot with a number. -/
def availabilitySlot (index : Nat) : Option AvailabilitySlot :=
  if inMask : index < maxBackends then some ⟨index, inMask⟩ else none

def maskOfSlots (slots : List AvailabilitySlot) : BitSet maxBackends :=
  slots.foldl BitSet.insert .empty

/-- Add the providers of some servers that are not there yet. -/
def collectIdentities (identities : List AvailabilityIdentity) (servers : List HostName) :
    List AvailabilityIdentity :=
  servers.foldl
    (fun identities host =>
      if AvailabilityIdentity.ofHost host ∈ identities then identities
      else identities ++ [.ofHost host])
    identities

/-- The place of a provider as a slot. -/
def slotIn (identities : List AvailabilityIdentity) (identity : AvailabilityIdentity) :
    Option AvailabilitySlot :=
  (identities.idxOf? identity).bind availabilitySlot

namespace AvailabilityLayout

/-- The slots of some servers.  Without them there are too many providers. -/
def backendSlotsIn (identities : List AvailabilityIdentity) (servers : List HostName) :
    Option (List AvailabilitySlot) :=
  servers.mapM fun host => slotIn identities (.ofHost host)

/-- The layout of a process by itself. -/
def fromServers (servers : List HostName) : Option AvailabilityLayout :=
  let identities := collectIdentities [] servers
  (backendSlotsIn identities servers).map fun slots =>
    ⟨slots, identities, maskOfSlots ((List.range identities.length).filterMap availabilitySlot),
      .derived⟩

def slotForIdentity (layout : AvailabilityLayout) (identity : AvailabilityIdentity) :
    Option AvailabilitySlot :=
  slotIn layout.identities identity

end AvailabilityLayout

/-! ## Collecting providers -/

section Collecting

variable {identities : List AvailabilityIdentity} {identity : AvailabilityIdentity}

theorem prefix_collectIdentities (identities : List AvailabilityIdentity)
    (servers : List HostName) : identities <+: collectIdentities identities servers := by
  induction servers generalizing identities with
  | nil => exact List.prefix_refl _
  | cons host servers ih =>
    rw [collectIdentities, List.foldl_cons]
    split
    · exact ih identities
    · exact (List.prefix_append _ _).trans (ih _)

theorem nodup_collectIdentities (nodup : identities.Nodup) (servers : List HostName) :
    (collectIdentities identities servers).Nodup := by
  induction servers generalizing identities with
  | nil => exact nodup
  | cons host servers ih =>
    rw [collectIdentities, List.foldl_cons]
    split
    · exact ih nodup
    next isNew => exact ih (List.concat_eq_append ▸ nodup.concat isNew)

theorem mem_collectIdentities_iff {servers : List HostName} :
    identity ∈ collectIdentities identities servers ↔
      identity ∈ identities ∨ ∃ host ∈ servers, AvailabilityIdentity.ofHost host = identity := by
  induction servers generalizing identities with
  | nil => simp [collectIdentities]
  | cons host servers ih =>
    rw [collectIdentities, List.foldl_cons, List.exists_mem_cons_iff]
    split
    next present =>
      rw [← collectIdentities, ih]
      constructor
      · exact Or.imp_right Or.inr
      · rintro (known | rfl | later)
        · exact Or.inl known
        · exact Or.inl present
        · exact Or.inr later
    next =>
      rw [← collectIdentities, ih, List.mem_append, List.mem_singleton, or_assoc, eq_comm]

/-- A provider of the list has its place there as its slot. -/
theorem slotIn_of_mem (mem : identity ∈ identities) (few : identities.length ≤ maxBackends) :
    ∃ slot : AvailabilitySlot, slotIn identities identity = some slot ∧
      slot.val = identities.idxOf identity := by
  have inList := List.idxOf_lt_length_iff.mpr mem
  have inMask := Nat.lt_of_lt_of_le inList few
  refine ⟨⟨identities.idxOf identity, inMask⟩, ?_, rfl⟩
  rcases Option.isSome_iff_exists.mp (List.isSome_idxOf?.mpr mem) with ⟨index, found⟩
  have indexEq : identities.idxOf identity = index := by
    rw [List.idxOf_eq_getD_idxOf?, found, Option.getD_some]
  rw [slotIn, found, ← indexEq]
  exact dif_pos inMask

end Collecting

end NntpProxy.Availability
