import NntpProxy.Cache.Article
import NntpProxy.Data.RingBuffer

/-!
# The rotating fingerprint filter

A shard of the availability index keeps for some articles the providers that miss them.  An
article is found by a fingerprint of its key in a block of two slots; the key itself stands
beside the slot, so that a fingerprint that two keys share does no harm.  The blocks of a shard
come in generations.  Facts go to the current generation, a lookup reads the live ones, and
the oldest generation is cleared whenever the filter rotates.  A generation starts with its
first fact, and the next rotation is due one interval after that.
-/

namespace NntpProxy.Availability

open Protocol Router Data Cache

/-! ## Times -/

def maxMillis : UInt64 := UInt64.ofNat u64Max

def saturatingAdd (left right : UInt64) : UInt64 :=
  UInt64.ofNat (min (left.toNat + right.toNat) u64Max)

def saturatingMul (times : Nat) (value : UInt64) : UInt64 :=
  UInt64.ofNat (min (times * value.toNat) u64Max)

theorem toNat_ofNat_min (value : Nat) :
    (UInt64.ofNat (min value u64Max)).toNat = min value u64Max := by
  apply UInt64.toNat_ofNat_of_lt'
  simp only [u64Max, UInt64.size]
  omega

@[simp]
theorem toNat_maxMillis : maxMillis.toNat = u64Max :=
  rfl

theorem toNat_saturatingAdd (left right : UInt64) :
    (saturatingAdd left right).toNat = min (left.toNat + right.toNat) u64Max :=
  toNat_ofNat_min _

theorem toNat_saturatingMul (times : Nat) (value : UInt64) :
    (saturatingMul times value).toNat = min (times * value.toNat) u64Max :=
  toNat_ofNat_min _

theorem toNat_le_u64Max (value : UInt64) : value.toNat ≤ u64Max := by
  have inRange := value.toNat_lt
  simp only [u64Max]
  omega

theorem lt_u64Max {value : UInt64} (inRange : value ≠ maxMillis) : value.toNat < u64Max := by
  apply Nat.lt_of_le_of_ne (toNat_le_u64Max value)
  intro last
  exact inRange (UInt64.toNat_inj.mp last)

/-! ## Generations -/

abbrev blockSlots : Nat := 2

/-- One bit for every provider that misses an article. -/
abbrev MissingBits := BitSet maxBackends

/-- The slots of a block. -/
structure Block where
  hashes : Fin blockSlots → UInt64
  tags : Fin blockSlots → UInt16
  missing : Fin blockSlots → MissingBits

/-- No slot is occupied. -/
def Block.default : Block :=
  ⟨fun _ => 0, fun _ => 0, fun _ => .empty⟩

/-- What a key is found by. -/
structure ArticleFingerprint where
  hash : UInt64
  tag : UInt16
  deriving DecidableEq, Repr

inductive InsertOutcome where
  | inserted
  | updated
  | replaced
  deriving DecidableEq, Repr

/-- The blocks of a shard, with the key of every occupied slot. -/
structure Generation where
  startedAt : UInt64
  occupied : Nat
  blocks : Nat → Block
  keys : Nat → Fin blockSlots → Option Bytes

def victimSlot (hash : UInt64) : Fin blockSlots :=
  Fin.ofNat blockSlots (hash.toNat >>> 48)

/-- The slots with this fingerprint. -/
def matchingSlots (block : Block) (fingerprint : ArticleFingerprint) : List (Fin blockSlots) :=
  (List.finRange blockSlots).filter fun slot =>
    block.hashes slot = fingerprint.hash ∧ block.tags slot = fingerprint.tag

namespace Generation

def new : Generation :=
  ⟨0, 0, fun _ => .default, fun _ _ => none⟩

variable (generation : Generation)

/-- Forget everything, and tell how many slots that were. -/
def clear : Generation × Nat :=
  (new, generation.occupied)

/-- The slots with this fingerprint that are of exactly this key. -/
def exactSlots (fingerprint : ArticleFingerprint) (key : Bytes)
    (block : Nat) : List (Fin blockSlots) :=
  (matchingSlots (generation.blocks block) fingerprint).filter fun slot =>
    generation.keys block slot = some key

def lookupMissingBits (fingerprint : ArticleFingerprint) (key : Bytes)
    (block : Nat) : MissingBits :=
  (generation.exactSlots fingerprint key block).foldl
    (fun bits slot => bits.union ((generation.blocks block).missing slot)) .empty

/-- Add bits to a slot that is of the key already. -/
def addBits (bits : MissingBits) (block : Nat) (slot : Fin blockSlots) : Generation :=
  let blockState := generation.blocks block
  { generation with
    blocks := Function.update generation.blocks block
      { blockState with
        missing := Function.update blockState.missing slot
          ((blockState.missing slot).union bits) } }

/-- Take a slot for a key. -/
def takeSlot (fingerprint : ArticleFingerprint) (key : Bytes) (bits : MissingBits) (block : Nat)
    (slot : Fin blockSlots) : Generation :=
  let blockState := generation.blocks block
  { generation with
    blocks := Function.update generation.blocks block
      { hashes := Function.update blockState.hashes slot fingerprint.hash
        tags := Function.update blockState.tags slot fingerprint.tag
        missing := Function.update blockState.missing slot bits }
    keys := Function.update generation.keys block
      (Function.update (generation.keys block) slot (some key)) }

/-- The slot that a new key takes: a free one, or else one that its hash chooses. -/
def slotFor (hash : UInt64) (block : Nat) : Fin blockSlots :=
  ((List.finRange blockSlots).find? fun slot => (generation.blocks block).hashes slot = 0).getD
    (victimSlot hash)

def insertMissingBits (fingerprint : ArticleFingerprint) (key : Bytes) (bits : MissingBits)
    (block : Nat) : Generation × InsertOutcome :=
  match (generation.exactSlots fingerprint key block).head? with
  | some slot => (generation.addBits bits block slot, .updated)
  | none =>
    let slot := generation.slotFor fingerprint.hash block
    (generation.takeSlot fingerprint key bits block slot,
      if (generation.blocks block).hashes slot = 0 then .inserted else .replaced)

end Generation

/-! ## The filter of a shard -/

/-- The generations of a shard, the front one of which is current. -/
structure FilterState (n : Nat) where
  generations : RingBuffer n Generation
  blocksPerGeneration : Nat
  liveGenerations : Nat
  rotationIntervalMillis : UInt64
  nextRotationAt : UInt64

/-- A lookup in some generations, which ends when every bit is set. -/
def lookupIn (fingerprint : ArticleFingerprint) (key : Bytes) (block : Nat) :
    MissingBits → List Generation → MissingBits
  | bits, [] => bits
  | bits, generation :: generations =>
    let joined := bits.union (generation.lookupMissingBits fingerprint key block)
    if joined = .full then joined else lookupIn fingerprint key block joined generations

/-- Rotate some times, and tell how many slots were cleared. -/
def rotateTimes {n : Nat} [NeZero n] :
    Nat → RingBuffer n Generation → Nat → RingBuffer n Generation × Nat
  | 0, generations, evicted => (generations, evicted)
  | times + 1, generations, evicted =>
    let (fresh, cleared) := generations.oldest.clear
    rotateTimes times (generations.advance fresh) (evicted + cleared)

namespace FilterState

variable {n : Nat} [NeZero n]

def new (blocksPerGeneration : Nat) (rotationIntervalMillis : UInt64) : FilterState n :=
  ⟨⟨fun _ => .new, 0⟩, blocksPerGeneration, 0, rotationIntervalMillis, 0⟩

section

variable (filter : FilterState n)

/-- The generations that lookups read, the current one first. -/
def activeGenerations : List Generation :=
  (List.range filter.liveGenerations).map filter.generations.behind

def occupiedSlots : Nat :=
  (filter.activeGenerations.map (·.occupied)).sum

def reset : FilterState n :=
  { filter with
    generations := ⟨fun _ => .new, 0⟩
    liveGenerations := 0
    nextRotationAt := 0 }

/-- When a generation that starts now ends. -/
def rotationAfter (now : UInt64) : UInt64 :=
  if filter.rotationIntervalMillis = 0 ∨ filter.rotationIntervalMillis = maxMillis then 0
  else saturatingAdd now filter.rotationIntervalMillis

/-- Start the current generation. -/
def start (now : UInt64) : FilterState n :=
  { filter with
    generations := filter.generations.modifyFront ({ · with startedAt := now })
    liveGenerations := max filter.liveGenerations 1
    nextRotationAt := filter.rotationAfter now }

def ensureCurrentGenerationStarted (now : UInt64) : FilterState n :=
  if (filter.generations.behind 0).startedAt ≠ 0 then filter else filter.start now

/-- Rotate as often as is due, though never more often than there are generations, and tell
how many slots were cleared. -/
def rotateIfNeeded (now : UInt64) : FilterState n × Nat :=
  if filter.blocksPerGeneration = 0 then (filter, 0)
  else if filter.rotationIntervalMillis = 0 then
    (filter.reset, ((List.ofFn filter.generations.cells).map (·.occupied)).sum)
  else if filter.rotationIntervalMillis = maxMillis then (filter, 0)
  else if filter.liveGenerations = 0 ∨ filter.nextRotationAt = 0 ∨
      now < filter.nextRotationAt then (filter, 0)
  else
    let rotations :=
      min (1 + (now.toNat - filter.nextRotationAt.toNat) / filter.rotationIntervalMillis.toNat) n
    let (generations, evicted) := rotateTimes rotations filter.generations 0
    ({ filter with
        generations := generations
        liveGenerations := min (filter.liveGenerations + rotations) n
        nextRotationAt :=
          saturatingAdd filter.nextRotationAt
            (saturatingMul rotations filter.rotationIntervalMillis) }, evicted)

/-- The bits of a key, the filter behind the lookup, and how many slots it cleared. -/
def lookupMissingBits (fingerprint : ArticleFingerprint) (key : Bytes) (block : Nat)
    (now : UInt64) : MissingBits × FilterState n × Nat :=
  let (filter, evicted) := filter.rotateIfNeeded now
  if filter.blocksPerGeneration = 0 then (.empty, filter, evicted)
  else (lookupIn fingerprint key block .empty filter.activeGenerations, filter, evicted)

end

/-- Count a slot that was free. -/
def countInserted (outcome : InsertOutcome) (generation : Generation) : Generation :=
  match outcome with
  | .inserted => { generation with occupied := generation.occupied + 1 }
  | .updated | .replaced => generation

variable (filter : FilterState n) (fingerprint : ArticleFingerprint) (key : Bytes)
    (bits : MissingBits) (block : Nat)

def insertInCurrent : FilterState n × InsertOutcome :=
  let (current, outcome) :=
    (filter.generations.behind 0).insertMissingBits fingerprint key bits block
  ({ filter with
      generations := filter.generations.modifyFront fun _ => countInserted outcome current },
    outcome)

/-- The filter behind a fact, and how many slots it cleared or took from another key. -/
def insertMissingBits (now : UInt64) : FilterState n × Nat :=
  let (filter, evicted) := filter.rotateIfNeeded now
  if filter.blocksPerGeneration = 0 ∨ bits = .empty ∨ filter.rotationIntervalMillis = 0 then
    (filter, evicted)
  else
    let (filter, outcome) :=
      (filter.ensureCurrentGenerationStarted now).insertInCurrent fingerprint key bits block
    (filter, if outcome = .replaced then evicted + 1 else evicted)

end FilterState

end NntpProxy.Availability
