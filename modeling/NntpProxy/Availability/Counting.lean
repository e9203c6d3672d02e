import NntpProxy.Availability.Exact
import NntpProxy.Availability.Unlimited

/-!
# The entry count

Every generation counts the slots that it has taken, and an entry count adds these counters up
instead of looking at the slots.  Slots are taken, shared by later facts of their key, taken over
by other keys and cleared with their generation.  The counters follow: what is reported is the
number of occupied slots in the live generations.
-/

namespace NntpProxy.Availability

open Protocol Router Data RingBuffer ArticleFingerprint

variable {hashing : Hashing} {key : Bytes} {bits : MissingBits} {block : Nat}

namespace Generation

/-- The places of the occupied slots. -/
def places (generation : Generation) : Set (Nat × Fin blockSlots) :=
  {place | (generation.content place.1 place.2).hash ≠ 0}

/-- As many slots are occupied as the generation says. -/
def Counted (generation : Generation) : Prop :=
  generation.places.encard = generation.occupied

theorem counted_new : new.Counted := by
  have none : new.places = ∅ := Set.eq_empty_of_forall_notMem fun _ taken => taken rfl
  rw [Counted, none, Set.encard_empty]
  rfl

variable {generation after : Generation}

theorem places_of_content {slot : Fin blockSlots} {filled : SlotContent}
    (occupied : filled.hash ≠ 0) (content : ∀ other place, after.content other place =
      if other = block ∧ place = slot then filled else generation.content other place) :
    after.places = insert (block, slot) generation.places := by
  ext ⟨other, place⟩
  rw [Set.mem_insert_iff, Prod.mk.injEq]
  change (after.content other place).hash ≠ 0 ↔ _ ∨ (generation.content other place).hash ≠ 0
  rw [content]
  split
  next here => exact iff_of_true occupied (Or.inl here)
  next elsewhere => exact (or_iff_right elsewhere).symm

/-- A fact joins a slot that is occupied, takes a free one or takes over an occupied one. -/
theorem Counted.store (counted : generation.Counted) :
    (generation.store (fromKey hashing key) key bits block).1.Counted := by
  have notFree := fromKey_hash_ne_zero hashing key
  have stores := @stores_store generation (fromKey hashing key) key bits block
  unfold Counted at counted ⊢
  cases stores with
  | joined slot before known content occupied =>
    have isTaken : (block, slot) ∈ generation.places := by
      change (generation.content block slot).hash ≠ 0
      rw [known]
      exact notFree
    rw [places_of_content notFree content, Set.insert_eq_of_mem isTaken, occupied, counted]
  | took content occupied =>
    rw [places_of_content notFree content, occupied]
    split
    next free =>
      rw [Set.encard_insert_of_notMem (not_not_intro free), counted]
      rfl
    next taken => rw [Set.insert_eq_of_mem taken, counted, Nat.add_zero]

end Generation

namespace FilterState

variable {n : Nat} [NeZero n] {filter : FilterState n} {now : UInt64}

def Counted (filter : FilterState n) : Prop :=
  filter.generations.All Generation.Counted

variable (counted : filter.Counted)

include counted

theorem Counted.rotateIfNeeded : (filter.rotateIfNeeded now).1.Counted := by
  rcases filter.rotateIfNeeded_cases now with ⟨same, -⟩ | ⟨same, -⟩ | ⟨same, -⟩
  · rw [same]
    exact counted
  · rw [same]
    exact All.iterate_advance counted Generation.counted_new _
  · rw [same]
    exact fun _ => Generation.counted_new

theorem Counted.ensureCurrentGenerationStarted :
    (filter.ensureCurrentGenerationStarted now).Counted := by
  rcases filter.start_or_started now with ⟨same, -⟩ | ⟨same, -⟩
  · rw [same]
    exact counted
  · rw [same]
    simp only [Counted, start]
    apply All.modifyFront counted
    exact All.behind counted 0

theorem Counted.insertInCurrent :
    (filter.insertInCurrent (fromKey hashing key) key bits block).1.Counted := by
  simp only [Counted, FilterState.insertInCurrent]
  apply All.modifyFront counted
  exact (All.behind counted 0).store

theorem Counted.insertMissingBits (nonempty : bits ≠ .empty) :
    (filter.insertMissingBits (fromKey hashing key) key bits block now).1.Counted := by
  by_cases takesFacts : filter.Open
  · rw [insertMissingBits_eq takesFacts nonempty]
    exact counted.rotateIfNeeded.ensureCurrentGenerationStarted.insertInCurrent
  · rw [insertMissingBits_of_closed takesFacts]
    exact counted.rotateIfNeeded

end FilterState

namespace AvailabilityIndex

variable {geometry : Geometry}

theorem counted_behind (hashing : Hashing) (events : List (IndexEvent geometry))
    (shard : Fin geometry.shards) : ((behind hashing events).shards shard).filter.Counted := by
  apply filter_behind_induction FilterState.Counted events shard (fun _ => Generation.counted_new)
  · intro filter now counted
    exact counted.rotateIfNeeded
  · intro filter key slot now block _ counted
    exact counted.insertMissingBits (slotBit_ne_empty slot)

/-- Whatever was recorded, looked up and rotated before, an entry count of a shard is the number of
occupied slots in its live generations. -/
theorem countShard_exact (hashing : Hashing) (events : List (IndexEvent geometry))
    (shard : Fin geometry.shards) (now : UInt64) :
    let after := (behind hashing events).countShard shard now
    after.1 = ((after.2.shards shard).filter.activeGenerations.map (·.places.ncard)).sum := by
  have counted :=
    @FilterState.Counted.rotateIfNeeded _ _ _ now (counted_behind hashing events shard)
  simp only [countShard, shards_setShard_self, FilterState.occupiedSlots, ShardState.rotate]
  congr 1
  refine List.map_congr_left fun generation isActive => ?_
  obtain ⟨offset, -, rfl⟩ := List.mem_map.mp isActive
  exact (congrArg ENat.toNat (RingBuffer.All.behind counted offset)).symm

end AvailabilityIndex

end NntpProxy.Availability
