import NntpProxy.Availability.Index

/-!
# Lookups are exact

Hashes may collide, slots are taken over by other keys and generations are cleared, but a
lookup never reports a provider for a key that was not recorded for exactly this key.  Right
after a record a lookup reports the provider together with everything it reported before.
The second part needs room for a block, and a clock that can still show when the next rotation
is due: at the last millisecond of the clock every operation rotates.
-/

namespace NntpProxy.Availability

open Protocol Router Data Cache FilterState

namespace AvailabilityIndex

variable {geometry : Geometry} {hashing : Hashing} {key : Bytes} {slot provider : AvailabilitySlot}
  {now : UInt64}

/-- The provider was recorded for the key. -/
def Recorded (events : List (IndexEvent geometry)) (key : Bytes) (provider : AvailabilitySlot) :
    Prop :=
  ∃ recordedAt, .record key provider recordedAt ∈ events

theorem keeps_behind (events : List (IndexEvent geometry)) (shard : Fin geometry.shards) :
    ((behind hashing events).shards shard).filter.Keeps
      (Recorded events) := by
  apply filter_behind_induction (FilterState.Keeps (Recorded events)) events shard
    (keeps_new _ _)
  · intro filter now keeps
    exact keeps.rotateIfNeeded
  · intro filter key slot now block recorded keeps
    apply keeps.insertMissingBits (slotBit_ne_empty slot)
    intro provider present
    rw [contains_slotBit] at present
    subst present
    exact ⟨now, recorded⟩

theorem recorded_of_reports {events : List (IndexEvent geometry)}
    (reported : (behind hashing events).reports hashing key provider now = true) :
    Recorded events key provider := by
  rcases reports_iff.mp reported with ⟨-, -, held⟩
  exact (keeps_behind events _).rotateIfNeeded.of_reports held

theorem reports_record {index : AvailabilityIndex geometry} (named : key ≠ [])
    (limited : geometry.ttlMillis ≠ 0) (valid : (index.filterOf hashing key).Valid)
    (takesFacts : (index.filterOf hashing key).Open)
    (inRange : (index.filterOf hashing key).Rotates → now ≠ maxMillis)
    (reported : Holds hashing ((index.filterOf hashing key).rotateIfNeeded now).1 key provider ∨
      provider = slot) :
    (index.recordAvailabilityMissing hashing key slot now).reports hashing key provider now =
      true := by
  have nonempty : slotBit slot ≠ .empty := slotBit_ne_empty slot
  have stillOpen : ((index.filterOf hashing key).insertMissingBits (.fromKey hashing key) key
      (slotBit slot) (partition hashing geometry key).2 now).1.Open :=
    (open_congr (dimensions_insertMissingBits nonempty)).mpr takesFacts
  rw [reports_iff, filterOf_record named limited, populated_record named limited,
    rotateIfNeeded_of_not_due stillOpen
      (not_due_insertMissingBits takesFacts nonempty inRange)]
  refine ⟨rfl, stillOpen.1, ?_⟩
  apply reports_insertMissingBits valid takesFacts nonempty
  rw [contains_slotBit]
  exact reported

/-- The index behind a lookup of a key and a record for it at the same time. -/
def lookupThenRecord (hashing : Hashing) (index : AvailabilityIndex geometry) (key : Bytes)
    (slot : AvailabilitySlot) (now : UInt64) : AvailabilityIndex geometry :=
  (index.lookupByKey hashing key now).2.recordAvailabilityMissing hashing key slot now

theorem holds_behind_lookup {index : AvailabilityIndex geometry}
    (valid : (index.filterOf hashing key).Valid)
    (inRange : (index.filterOf hashing key).Rotates → now ≠ maxMillis)
    (reported : index.reports hashing key provider now = true) :
    Holds hashing (((index.lookupByKey hashing key now).2.filterOf hashing key).rotateIfNeeded
      now).1 key provider := by
  rcases reports_iff.mp reported with ⟨populated, -, held⟩
  rw [filterOf_lookupByKey populated]
  exact reports_rotateIfNeeded_again valid inRange held

/-- A lookup reports only what was recorded for its key, and behind a record at the same time
it reports the provider of the record and whatever it reported before. -/
theorem lookups_exact (hashing : Hashing) (geometry : Geometry)
    (events : List (IndexEvent geometry)) (key : Bytes) (slot : AvailabilitySlot)
    (now : UInt64) :
    (∀ provider, (behind hashing events).reports hashing key provider now = true →
      Recorded events key provider) ∧
    (key ≠ [] → geometry.blocksPerGeneration ≠ 0 → geometry.ttlMillis ≠ 0 →
      (geometry.ttlMillis ≠ maxMillis → now ≠ maxMillis) →
        ((behind hashing events).lookupThenRecord hashing key slot now).reports hashing key slot
            now = true ∧
          ∀ provider, (behind hashing events).reports hashing key provider now = true →
            ((behind hashing events).lookupThenRecord hashing key slot now).reports hashing key
              provider now = true) := by
  constructor
  · intro provider reported
    exact recorded_of_reports reported
  intro named allocated limited inClock
  -- The lookup before the record is one more event.
  have asEvent : ((behind hashing events).lookupByKey hashing key now).2 =
      behind hashing (events ++ [.lookup key now]) :=
    (behind_concat hashing events (.lookup key now)).symm
  have recorded : ∀ provider,
      Holds hashing (((behind hashing (events ++ [.lookup key now])).filterOf hashing
        key).rotateIfNeeded now).1 key provider ∨ provider = slot →
      ((behind hashing events).lookupThenRecord hashing key slot now).reports hashing key
        provider now = true := by
    intro provider reported
    rw [lookupThenRecord, asEvent]
    exact reports_record named limited valid_filterOf (open_filterOf allocated limited)
      (fun rotates => inClock (finite_of_rotates rotates)) reported
  constructor
  · exact recorded slot (Or.inr rfl)
  · intro provider reported
    apply recorded provider
    rw [← asEvent]
    exact Or.inl (holds_behind_lookup valid_filterOf
      (fun rotates => inClock (finite_of_rotates rotates)) reported)

/-- Every key has the same fingerprint. -/
def collidingHashing : Hashing :=
  ⟨fun _ => 0, fun _ => 0⟩

/-- Two generations of one block, for a second. -/
def smallGeometry : Geometry :=
  ⟨80, 1000, 2, 1⟩

def collidingEvents : List (IndexEvent smallGeometry) :=
  [.record [97] 3 5, .record [98] 4 5]

/-- Both parts for a key that another one collides with. -/
theorem collidingEvents_exact :
    Recorded collidingEvents [97] 3 ∧
      ((behind collidingHashing collidingEvents).lookupThenRecord collidingHashing [97] 7
        5).reports collidingHashing [97] 7 5 = true := by
  have exact := lookups_exact collidingHashing smallGeometry collidingEvents [97] 7 5
  constructor
  · exact exact.1 3 (by decide +kernel)
  · exact (exact.2 (by decide) (by decide) (by decide) (by decide)).1

/-- Not enough for a block. -/
def tinyGeometry : Geometry :=
  ⟨39, 1000, 2, 1⟩

/-- The first fact comes at the last millisecond of the clock. -/
def lastEvents : List (IndexEvent smallGeometry) :=
  [.record [97] 3 maxMillis]

/-- A capacity below one block stores nothing, and at the last millisecond of the clock a record
takes what a lookup reported just before. -/
theorem record_not_reported_at_limits :
    ((behind collidingHashing ([] : List (IndexEvent tinyGeometry))).lookupThenRecord
        collidingHashing [97] 3 5).reports collidingHashing [97] 3 5 = false ∧
      (behind collidingHashing lastEvents).reports collidingHashing [97] 3 maxMillis = true ∧
      ((behind collidingHashing lastEvents).lookupThenRecord collidingHashing [97] 7
        maxMillis).reports collidingHashing [97] 3 maxMillis = false := by
  decide +kernel

end AvailabilityIndex

end NntpProxy.Availability
