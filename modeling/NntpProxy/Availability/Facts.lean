import NntpProxy.Availability.Filter

/-!
# What a filter reports

A generation reports a provider for a key when a slot of the key's block with the key's
fingerprint has exactly this key and the bit of the provider.  Taking a slot for a key adds the
new bits to what is reported for the key, whatever fingerprints the other keys have.

A filter reports what a live generation reports.  A generation some places behind the current
one is cleared at a time that the schedule of the rotations tells beforehand, and a lookup
reports exactly what the generations hold that are not to be cleared by its time.
-/

namespace NntpProxy.Availability

open Protocol Router Data Cache RingBuffer RingBuffer.All Generation BitSet

/-! ## Generations -/

variable {taken : Fin blockSlots}

namespace Generation

variable {generation : Generation} {fingerprint : ArticleFingerprint} {key : Bytes}
  {bits : MissingBits} {block : Nat} {provider : AvailabilitySlot}

/-- A lookup in the generation reports the provider. -/
def Reports (generation : Generation) (fingerprint : ArticleFingerprint) (key : Bytes)
    (block : Nat) (provider : AvailabilitySlot) : Prop :=
  (generation.lookupMissingBits fingerprint key block).contains provider = true

theorem mem_exactSlots_iff {slot : Fin blockSlots} :
    slot ∈ generation.exactSlots fingerprint key block ↔
      (generation.blocks block).hashes slot = fingerprint.hash ∧
        (generation.blocks block).tags slot = fingerprint.tag ∧
          generation.keys block slot = some key := by
  simp only [exactSlots, matchingSlots, List.mem_filter, List.mem_finRange, decide_eq_true_eq,
    true_and, and_assoc]

theorem reports_iff :
    generation.Reports fingerprint key block provider ↔
      ∃ slot ∈ generation.exactSlots fingerprint key block,
        ((generation.blocks block).missing slot).contains provider = true := by
  simp [Reports, lookupMissingBits, contains_foldl_union]

theorem not_reports_new : ¬new.Reports fingerprint key block provider := by
  rw [reports_iff]
  rintro ⟨slot, exact, -⟩
  cases (mem_exactSlots_iff.mp exact).2.2

theorem mem_exactSlots_addBits {slot : Fin blockSlots} :
    slot ∈ (generation.addBits bits block taken).exactSlots fingerprint key block ↔
      slot ∈ generation.exactSlots fingerprint key block := by
  simp [mem_exactSlots_iff, addBits]

theorem reports_addBits (exact : taken ∈ generation.exactSlots fingerprint key block) :
    (generation.addBits bits block taken).Reports fingerprint key block provider ↔
      generation.Reports fingerprint key block provider ∨ bits.contains provider = true := by
  have missing : ∀ slot, (((generation.addBits bits block taken).blocks block).missing
      slot).contains provider = true ↔
        ((generation.blocks block).missing slot).contains provider = true ∨
          slot = taken ∧ bits.contains provider = true := by
    intro slot
    by_cases same : slot = taken
    · subst same
      simp [addBits]
    · simp [addBits, same]
  simp only [reports_iff, mem_exactSlots_addBits, missing, and_or_left, exists_or]
  apply or_congr_right
  constructor
  · rintro ⟨slot, -, -, present⟩
    exact present
  · intro present
    exact ⟨taken, exact, rfl, present⟩

theorem reports_takeSlot (unknown : generation.exactSlots fingerprint key block = []) :
    (generation.takeSlot fingerprint key bits block taken).Reports fingerprint key block provider ↔
      generation.Reports fingerprint key block provider ∨ bits.contains provider = true := by
  have nothing : ¬generation.Reports fingerprint key block provider := by
    rw [reports_iff, unknown]
    simp
  rw [or_iff_right nothing, reports_iff]
  constructor
  · rintro ⟨slot, exact, present⟩
    by_cases same : slot = taken
    · subst same
      simpa [takeSlot] using present
    · have before : slot ∈ generation.exactSlots fingerprint key block := by
        simpa [mem_exactSlots_iff, takeSlot, same] using exact
      rw [unknown] at before
      cases before
  · intro present
    refine ⟨taken, ?_, ?_⟩
    · simp [mem_exactSlots_iff, takeSlot]
    · simpa [takeSlot] using present

theorem reports_insertMissingBits :
    (generation.insertMissingBits fingerprint key bits block).1.Reports fingerprint key block
        provider ↔
      generation.Reports fingerprint key block provider ∨ bits.contains provider = true := by
  unfold insertMissingBits
  cases known : generation.exactSlots fingerprint key block with
  | nil => exact reports_takeSlot known
  | cons slot slots =>
    apply reports_addBits
    rw [known]
    exact List.mem_cons_self

@[simp]
theorem startedAt_insertMissingBits :
    (generation.insertMissingBits fingerprint key bits block).1.startedAt =
      generation.startedAt := by
  unfold insertMissingBits
  split <;> rfl

/-- Every bit beside a key is of a fact of the key. -/
def Keeps (facts : Bytes → AvailabilitySlot → Prop) (generation : Generation) : Prop :=
  ∀ block slot key, generation.keys block slot = some key →
    ∀ provider, ((generation.blocks block).missing slot).contains provider = true →
      facts key provider

variable {facts : Bytes → AvailabilitySlot → Prop}

theorem keeps_new : new.Keeps facts := by
  intro block slot key occupied
  cases occupied

theorem Keeps.of_reports (keeps : generation.Keeps facts)
    (reports : generation.Reports fingerprint key block provider) : facts key provider := by
  rcases reports_iff.mp reports with ⟨slot, exact, present⟩
  exact keeps block slot key (mem_exactSlots_iff.mp exact).2.2 provider present

variable (keeps : generation.Keeps facts)
    (recorded : ∀ provider, bits.contains provider = true → facts key provider)

include keeps recorded

theorem Keeps.addBits (exact : generation.keys block taken = some key) :
    (generation.addBits bits block taken).Keeps facts := by
  intro other slot otherKey occupied provider present
  -- Only the slot that was of the key already has other bits than before.
  by_cases changed : other = block ∧ slot = taken
  · rcases changed with ⟨rfl, rfl⟩
    rw [show otherKey = key from Option.some.inj (occupied.symm.trans exact)]
    simp only [Generation.addBits, Function.update_self, contains_union,
      Bool.or_eq_true] at present
    rcases present with before | new
    · exact keeps other slot key exact provider before
    · exact recorded provider new
  · apply keeps other slot otherKey occupied provider
    by_cases sameBlock : other = block
    · subst sameBlock
      have otherSlot : slot ≠ taken := fun same => changed ⟨rfl, same⟩
      simpa [Generation.addBits, otherSlot] using present
    · simpa [Generation.addBits, sameBlock] using present

theorem Keeps.takeSlot (taken : Fin blockSlots) :
    (generation.takeSlot fingerprint key bits block taken).Keeps facts := by
  intro other slot otherKey occupied provider present
  by_cases sameBlock : other = block
  · subst sameBlock
    by_cases sameSlot : slot = taken
    · subst sameSlot
      simp only [Generation.takeSlot, Function.update_self, Option.some.injEq] at occupied present
      subst occupied
      exact recorded provider present
    · simp only [Generation.takeSlot, Function.update_self, ne_eq, sameSlot, not_false_eq_true,
        Function.update_of_ne] at occupied present
      exact keeps other slot otherKey occupied provider present
  · simp only [Generation.takeSlot, ne_eq, sameBlock, not_false_eq_true,
      Function.update_of_ne] at occupied present
    exact keeps other slot otherKey occupied provider present

theorem Keeps.insertMissingBits :
    (generation.insertMissingBits fingerprint key bits block).1.Keeps facts := by
  unfold Generation.insertMissingBits
  cases known : generation.exactSlots fingerprint key block with
  | nil => exact keeps.takeSlot recorded _
  | cons slot slots =>
    apply keeps.addBits recorded
    have exact : slot ∈ generation.exactSlots fingerprint key block := by
      rw [known]
      exact List.mem_cons_self
    exact (mem_exactSlots_iff.mp exact).2.2

end Generation

/-! ## Filters -/

theorem contains_lookupIn {fingerprint : ArticleFingerprint} {key : Bytes} {block : Nat}
    {bits : MissingBits} {generations : List Generation} {provider : AvailabilitySlot} :
    (lookupIn fingerprint key block bits generations).contains provider = true ↔
      bits.contains provider = true ∨
        ∃ generation ∈ generations, generation.Reports fingerprint key block provider := by
  induction generations generalizing bits with
  | nil => simp [lookupIn]
  | cons generation generations ih =>
    have joined : (bits.union (generation.lookupMissingBits fingerprint key block)).contains
        provider = true ↔
          bits.contains provider = true ∨ generation.Reports fingerprint key block provider := by
      simp [Generation.Reports]
    simp only [lookupIn]
    split
    next full =>
      -- The search ends early only when there is nothing left to find.
      have found := joined.mp (by rw [full, contains_full])
      rw [full]
      simp only [contains_full, List.exists_mem_cons_iff, ← or_assoc, found, true_or]
    · rw [ih, joined, List.exists_mem_cons_iff, or_assoc]

theorem rotateTimes_fst {n : Nat} [NeZero n] (times : Nat) (generations : RingBuffer n Generation)
    (evicted : Nat) :
    (rotateTimes times generations evicted).1 =
      (advance new)^[times] generations := by
  induction times generalizing generations evicted with
  | zero => rfl
  | succ times ih => exact ih _ _

variable {offset : Nat}

variable (filter : FilterState n)

namespace FilterState

variable {n : Nat} [NeZero n] {filter : FilterState n} {fingerprint : ArticleFingerprint}
  {key : Bytes} {bits : MissingBits} {block : Nat} {provider : AvailabilitySlot} {now : UInt64}

/-- A live generation reports the provider. -/
def Reports (filter : FilterState n) (fingerprint : ArticleFingerprint) (key : Bytes)
    (block : Nat) (provider : AvailabilitySlot) : Prop :=
  ∃ offset < filter.liveGenerations,
    (filter.generations.behind offset).Reports fingerprint key block provider

theorem contains_lookupIn_activeGenerations :
    (lookupIn fingerprint key block .empty filter.activeGenerations).contains provider = true ↔
      filter.Reports fingerprint key block provider := by
  simp [contains_lookupIn, activeGenerations, Reports]

/-- The filter takes facts. -/
def Open (filter : FilterState n) : Prop :=
  filter.blocksPerGeneration ≠ 0 ∧ filter.rotationIntervalMillis ≠ 0

/-- The filter rotates from time to time. -/
def Rotates (filter : FilterState n) : Prop :=
  filter.Open ∧ filter.rotationIntervalMillis ≠ maxMillis

/-- What never changes about a filter. -/
def dimensions (filter : FilterState n) : Nat × UInt64 :=
  (filter.blocksPerGeneration, filter.rotationIntervalMillis)

omit [NeZero n] in
theorem open_congr {other : FilterState n} (same : filter.dimensions = other.dimensions) :
    filter.Open ↔ other.Open := by
  rcases Prod.ext_iff.mp same with ⟨sameBlocks, sameInterval⟩
  rw [Open, Open, ← show filter.blocksPerGeneration = other.blocksPerGeneration from sameBlocks,
    ← show filter.rotationIntervalMillis = other.rotationIntervalMillis from sameInterval]

omit [NeZero n] in
theorem rotates_congr {other : FilterState n} (same : filter.dimensions = other.dimensions) :
    filter.Rotates ↔ other.Rotates := by
  rw [Rotates, Rotates, open_congr same,
    show filter.rotationIntervalMillis = other.rotationIntervalMillis from
      congrArg Prod.snd same]

/-- The live generations are counted and scheduled. -/
structure Valid (filter : FilterState n) : Prop where
  live_le : filter.liveGenerations ≤ n
  live_of_started : (filter.generations.behind 0).startedAt ≠ 0 → filter.liveGenerations ≠ 0
  scheduled : filter.Rotates → filter.liveGenerations ≠ 0 → filter.nextRotationAt ≠ 0
  open_of_live : filter.liveGenerations ≠ 0 → filter.Open

theorem valid_new (blocksPerGeneration : Nat) (rotationIntervalMillis : UInt64) :
    (new (n := n) blocksPerGeneration rotationIntervalMillis).Valid where
  live_le := Nat.zero_le n
  live_of_started := fun started => absurd rfl started
  scheduled := fun _ live => absurd rfl live
  open_of_live := fun live => absurd rfl live

/-! ### Rotating -/

section

variable (filter : FilterState n)

/-- When the generation that many places behind the current one is cleared. -/
def clearedAt (offset : Nat) : Nat :=
  filter.nextRotationAt.toNat + (n - 1 - offset) * filter.rotationIntervalMillis.toNat

/-- The filter behind some rotations. -/
def rotated (rotations : Nat) : FilterState n :=
  { filter with
    generations := (advance .new)^[rotations] filter.generations
    liveGenerations := min (filter.liveGenerations + rotations) n
    nextRotationAt :=
      saturatingAdd filter.nextRotationAt
        (saturatingMul rotations filter.rotationIntervalMillis) }

/-- How many rotations are due. -/
def dueRotations (now : UInt64) : Nat :=
  min (1 + (now.toNat - filter.nextRotationAt.toNat) / filter.rotationIntervalMillis.toNat) n

/-- A rotation is due. -/
def Due (now : UInt64) : Prop :=
  filter.Rotates ∧ filter.liveGenerations ≠ 0 ∧ filter.nextRotationAt ≠ 0 ∧
    filter.nextRotationAt ≤ now

end

theorem rotateIfNeeded_of_due (due : filter.Due now) :
    (filter.rotateIfNeeded now).1 = filter.rotated (filter.dueRotations now) := by
  rcases due with ⟨⟨⟨allocated, rotating⟩, finite⟩, live, scheduled, reached⟩
  have notEarly : ¬now < filter.nextRotationAt := UInt64.not_lt.mpr reached
  simp only [rotateIfNeeded, allocated, rotating, finite, live, scheduled, notEarly, or_self,
    if_false, rotated, dueRotations, rotateTimes_fst]

theorem rotateIfNeeded_of_not_due (takesFacts : filter.Open) (notDue : ¬filter.Due now) :
    filter.rotateIfNeeded now = (filter, 0) := by
  rcases takesFacts with ⟨allocated, rotating⟩
  simp only [rotateIfNeeded, allocated, rotating, if_false]
  split
  · rfl
  next finite =>
    split
    · rfl
    next waiting =>
      rw [not_or, not_or, UInt64.not_lt] at waiting
      exact absurd ⟨⟨⟨allocated, rotating⟩, finite⟩, waiting⟩ notDue

/-- Whatever the time is, the filter stays as it is, or it rotates, or it is emptied because it
takes no facts. -/
theorem rotateIfNeeded_cases (now : UInt64) :
    (filter.rotateIfNeeded now).1 = filter ∧ ¬filter.Due now ∨
      (filter.rotateIfNeeded now).1 = filter.rotated (filter.dueRotations now) ∧ filter.Due now ∨
        (filter.rotateIfNeeded now).1 = filter.reset ∧ ¬filter.Open := by
  by_cases due : filter.Due now
  · exact Or.inr (Or.inl ⟨rotateIfNeeded_of_due due, due⟩)
  by_cases takesFacts : filter.Open
  · left
    rw [rotateIfNeeded_of_not_due takesFacts due]
    exact ⟨rfl, due⟩
  · have closed := takesFacts
    simp only [Open, not_and_or, not_not] at closed
    simp only [rotateIfNeeded]
    split
    · exact Or.inl ⟨rfl, due⟩
    next allocated =>
      rw [if_pos (closed.resolve_left allocated)]
      exact Or.inr (Or.inr ⟨rfl, takesFacts⟩)

theorem dimensions_rotateIfNeeded (now : UInt64) :
    (filter.rotateIfNeeded now).1.dimensions = filter.dimensions := by
  rcases filter.rotateIfNeeded_cases now with ⟨same, -⟩ | ⟨same, -⟩ | ⟨same, -⟩ <;>
    rw [same] <;> rfl

theorem open_rotateIfNeeded : (filter.rotateIfNeeded now).1.Open ↔ filter.Open :=
  open_congr (filter.dimensions_rotateIfNeeded now)

theorem contains_lookupMissingBits :
    (filter.lookupMissingBits fingerprint key block now).1.contains provider = true ↔
      filter.blocksPerGeneration ≠ 0 ∧
        (filter.rotateIfNeeded now).1.Reports fingerprint key block provider := by
  have sameBlocks : (filter.rotateIfNeeded now).1.blocksPerGeneration =
      filter.blocksPerGeneration := congrArg Prod.fst (filter.dimensions_rotateIfNeeded now)
  simp only [lookupMissingBits, sameBlocks]
  split
  next unallocated => simp [unallocated]
  next allocated => rw [contains_lookupIn_activeGenerations, and_iff_right allocated]

theorem dueRotations_pos : 0 < filter.dueRotations now :=
  Nat.lt_min.mpr ⟨Nat.add_pos_left Nat.one_pos _, Nat.pos_of_neZero n⟩

theorem behind_zero_rotated : (filter.rotated (filter.dueRotations now)).generations.behind 0 =
    .new := by
  rw [rotated, behind_iterate_advance (Nat.pos_of_neZero n), if_pos dueRotations_pos]

/-- The generations move back, and those that leave the ring are cleared. -/
theorem reports_rotated_iff {rotations : Nat} :
    (filter.rotated rotations).Reports fingerprint key block provider ↔
      ∃ offset < filter.liveGenerations, offset + rotations < n ∧
        (filter.generations.behind offset).Reports fingerprint key block provider := by
  constructor
  · rintro ⟨offset, live, reports⟩
    rcases Nat.lt_min.mp live with ⟨inLive, inRing⟩
    rw [rotated, behind_iterate_advance inRing] at reports
    split at reports
    · exact absurd reports not_reports_new
    · refine ⟨offset - rotations, ?_, ?_, reports⟩ <;> omega
  · rintro ⟨offset, live, inRing, reports⟩
    refine ⟨offset + rotations, Nat.lt_min.mpr ⟨Nat.add_lt_add_right live _, inRing⟩, ?_⟩
    rw [rotated, behind_iterate_advance inRing,
      if_neg (Nat.not_lt.mpr (Nat.le_add_left _ _)), Nat.add_sub_cancel]
    exact reports

omit [NeZero n] in
theorem interval_pos (rotates : filter.Rotates) : 0 < filter.rotationIntervalMillis.toNat := by
  apply Nat.pos_of_ne_zero
  intro zero
  exact rotates.1.2 (UInt64.toNat_inj.mp zero)

omit [NeZero n] in
/-- A generation leaves the ring at its time. -/
theorem add_dueRotations_lt_iff (due : filter.Due now) (inRing : offset < n) :
    offset + filter.dueRotations now < n ↔ now.toNat < filter.clearedAt offset := by
  have reached : filter.nextRotationAt.toNat ≤ now.toNat := due.2.2.2
  have inPlaces :
      (now.toNat - filter.nextRotationAt.toNat) / filter.rotationIntervalMillis.toNat <
          n - 1 - offset ↔
        now.toNat - filter.nextRotationAt.toNat <
          (n - 1 - offset) * filter.rotationIntervalMillis.toNat :=
    Nat.div_lt_iff_lt_mul (interval_pos due.1)
  simp only [dueRotations, clearedAt]
  omega

theorem lt_clearedAt_of_not_due (valid : filter.Valid) (rotates : filter.Rotates)
    (notDue : ¬filter.Due now) (live : offset < filter.liveGenerations) :
    now.toNat < filter.clearedAt offset := by
  have isLive : filter.liveGenerations ≠ 0 := Nat.ne_zero_of_lt live
  have early : now < filter.nextRotationAt := by
    rw [← UInt64.not_le]
    intro reached
    exact notDue ⟨rotates, isLive, valid.scheduled rotates isLive, reached⟩
  exact Nat.lt_add_right _ early

/-- Behind the rotations of a time the filter reports what the generations hold that are
cleared later. -/
theorem reports_rotateIfNeeded_iff (valid : filter.Valid) (rotates : filter.Rotates) :
    (filter.rotateIfNeeded now).1.Reports fingerprint key block provider ↔
      ∃ offset < filter.liveGenerations, now.toNat < filter.clearedAt offset ∧
        (filter.generations.behind offset).Reports fingerprint key block provider := by
  rcases filter.rotateIfNeeded_cases now with ⟨same, notDue⟩ | ⟨same, due⟩ | ⟨-, closed⟩
  · rw [same]
    constructor
    · rintro ⟨offset, live, reports⟩
      exact ⟨offset, live, lt_clearedAt_of_not_due valid rotates notDue live, reports⟩
    · rintro ⟨offset, live, -, reports⟩
      exact ⟨offset, live, reports⟩
  · rw [same, reports_rotated_iff]
    apply exists_congr
    intro offset
    apply and_congr_right
    intro live
    rw [add_dueRotations_lt_iff due (Nat.lt_of_lt_of_le live valid.live_le)]
  · exact absurd rotates.1 closed

theorem valid_reset : filter.reset.Valid where
  live_le := Nat.zero_le n
  live_of_started := fun started => absurd rfl started
  scheduled := fun _ live => absurd rfl live
  open_of_live := fun live => absurd rfl live

theorem valid_rotateIfNeeded (valid : filter.Valid) : (filter.rotateIfNeeded now).1.Valid := by
  rcases filter.rotateIfNeeded_cases now with ⟨same, -⟩ | ⟨same, due⟩ | ⟨same, -⟩
  · rw [same]
    exact valid
  · rw [same]
    constructor
    · exact Nat.min_le_right _ _
    · intro started
      rw [behind_zero_rotated] at started
      exact absurd rfl started
    · rintro - -
      have scheduled : filter.nextRotationAt.toNat ≠ 0 := by
        intro zero
        exact due.2.2.1 (UInt64.toNat_inj.mp zero)
      intro zero
      have sum := congrArg UInt64.toNat zero
      rw [rotated, toNat_saturatingAdd, u64Max, UInt64.toNat_zero] at sum
      omega
    · rintro -
      exact due.1.1
  · rw [same]
    exact valid_reset

/-- The schedule moves on by as many intervals as a generation moves back, as far as the clock
goes. -/
theorem min_clearedAt_le {rotations : Nat} (inRing : offset + rotations < n) :
    min (filter.clearedAt offset) u64Max ≤
      (filter.rotated rotations).clearedAt (offset + rotations) := by
  have places : (n - 1 - offset) * filter.rotationIntervalMillis.toNat =
      rotations * filter.rotationIntervalMillis.toNat +
        (n - 1 - (offset + rotations)) * filter.rotationIntervalMillis.toNat := by
    rw [← Nat.add_mul]
    congr 1
    omega
  simp only [clearedAt, rotated, toNat_saturatingAdd, toNat_saturatingMul]
  omega

/-- Rotations of the same time again take nothing more, unless the clock has come to the end
of its range. -/
theorem reports_rotateIfNeeded_again (valid : filter.Valid)
    (inRange : filter.Rotates → now ≠ maxMillis)
    (reports : (filter.rotateIfNeeded now).1.Reports fingerprint key block provider) :
    ((filter.rotateIfNeeded now).1.rotateIfNeeded now).1.Reports fingerprint key block
      provider := by
  rcases filter.rotateIfNeeded_cases now with ⟨same, -⟩ | ⟨same, due⟩ | ⟨same, -⟩
  · rw [same] at reports ⊢
    rw [same]
    exact reports
  · rw [same] at reports ⊢
    have stillValid : (filter.rotated (filter.dueRotations now)).Valid := by
      rw [← same]
      exact valid_rotateIfNeeded valid
    rcases reports_rotated_iff.mp reports with ⟨offset, live, inRing, held⟩
    have notCleared : now.toNat < filter.clearedAt offset :=
      (add_dueRotations_lt_iff due (Nat.lt_of_lt_of_le live valid.live_le)).mp inRing
    rw [reports_rotateIfNeeded_iff stillValid due.1]
    refine ⟨offset + filter.dueRotations now,
      Nat.lt_min.mpr ⟨Nat.add_lt_add_right live _, inRing⟩, ?_, ?_⟩
    · exact Nat.lt_of_lt_of_le (Nat.lt_min.mpr ⟨notCleared, lt_u64Max (inRange due.1)⟩)
        (min_clearedAt_le inRing)
    · rw [rotated, behind_iterate_advance inRing,
        if_neg (Nat.not_lt.mpr (Nat.le_add_left _ _)), Nat.add_sub_cancel]
      exact held
  · rw [same] at reports
    rcases reports with ⟨offset, live, -⟩
    exact absurd live (Nat.not_lt_zero offset)

/-! ### Taking facts -/

theorem start_or_started (now : UInt64) :
    filter.ensureCurrentGenerationStarted now = filter ∧
        (filter.generations.behind 0).startedAt ≠ 0 ∨
      filter.ensureCurrentGenerationStarted now = filter.start now ∧
        (filter.generations.behind 0).startedAt = 0 := by
  by_cases started : (filter.generations.behind 0).startedAt = 0
  · exact Or.inr ⟨if_neg (not_not.mpr started), started⟩
  · exact Or.inl ⟨if_pos started, started⟩

theorem reports_behind_start (inRing : offset < n) :
    ((filter.start now).generations.behind offset).Reports fingerprint key block provider ↔
      (filter.generations.behind offset).Reports fingerprint key block provider := by
  cases offset with
  | zero =>
    rw [start, behind_modifyFront_zero]
    exact Iff.rfl
  | succ offset => rw [start, behind_modifyFront_of_pos (Nat.succ_pos offset) inRing]

theorem Reports.ensureCurrentGenerationStarted (valid : filter.Valid)
    (reports : filter.Reports fingerprint key block provider) :
    (filter.ensureCurrentGenerationStarted now).Reports fingerprint key block provider := by
  rcases filter.start_or_started now with ⟨same, -⟩ | ⟨same, -⟩
  · rw [same]
    exact reports
  · rcases reports with ⟨offset, live, held⟩
    rw [same]
    refine ⟨offset, Nat.lt_of_lt_of_le live (Nat.le_max_left _ _), ?_⟩
    rw [reports_behind_start (Nat.lt_of_lt_of_le live valid.live_le)]
    exact held

theorem live_ensureCurrentGenerationStarted (valid : filter.Valid) :
    (filter.ensureCurrentGenerationStarted now).liveGenerations ≠ 0 := by
  rcases filter.start_or_started now with ⟨same, started⟩ | ⟨same, -⟩
  · rw [same]
    exact valid.live_of_started started
  · rw [same]
    exact Nat.ne_of_gt (Nat.lt_of_lt_of_le Nat.one_pos (Nat.le_max_right _ _))

omit [NeZero n] in
theorem rotationAfter_toNat (rotates : filter.Rotates) :
    (filter.rotationAfter now).toNat =
      min (now.toNat + filter.rotationIntervalMillis.toNat) u64Max := by
  rw [rotationAfter, if_neg (not_or.mpr ⟨rotates.1.2, rotates.2⟩), toNat_saturatingAdd]

theorem valid_start (valid : filter.Valid) (takesFacts : filter.Open) :
    (filter.start now).Valid where
  live_le := Nat.max_le.mpr ⟨valid.live_le, Nat.pos_of_neZero n⟩
  live_of_started := fun _ =>
    Nat.ne_of_gt (Nat.lt_of_lt_of_le Nat.one_pos (Nat.le_max_right _ _))
  scheduled := by
    intro rotates _ zero
    have sameRotates : filter.Rotates := rotates
    have positive := interval_pos sameRotates
    have sum : (filter.rotationAfter now).toNat = 0 := congrArg UInt64.toNat zero
    rw [rotationAfter_toNat sameRotates, u64Max] at sum
    omega
  open_of_live := fun _ => takesFacts

theorem valid_ensureCurrentGenerationStarted (valid : filter.Valid) (takesFacts : filter.Open) :
    (filter.ensureCurrentGenerationStarted now).Valid := by
  rcases filter.start_or_started now with ⟨same, -⟩ | ⟨same, -⟩
  · rw [same]
    exact valid
  · rw [same]
    exact valid_start valid takesFacts

@[simp]
theorem startedAt_countInserted (outcome : InsertOutcome) (generation : Generation) :
    (countInserted outcome generation).startedAt = generation.startedAt := by
  cases outcome <;> rfl

theorem reports_countInserted {outcome : InsertOutcome} {generation : Generation} :
    (countInserted outcome generation).Reports fingerprint key block provider ↔
      generation.Reports fingerprint key block provider := by
  cases outcome <;> exact Iff.rfl

theorem startedAt_insertInCurrent :
    ((filter.insertInCurrent fingerprint key bits block).1.generations.behind 0).startedAt =
      (filter.generations.behind 0).startedAt := by
  rw [insertInCurrent, behind_modifyFront_zero, startedAt_countInserted,
    startedAt_insertMissingBits]

theorem valid_insertInCurrent (valid : filter.Valid) :
    (filter.insertInCurrent fingerprint key bits block).1.Valid where
  live_le := valid.live_le
  live_of_started := by
    intro started
    rw [startedAt_insertInCurrent] at started
    exact valid.live_of_started started
  scheduled := valid.scheduled
  open_of_live := valid.open_of_live

theorem reports_insertInCurrent_iff (valid : filter.Valid)
    (live : filter.liveGenerations ≠ 0) :
    (filter.insertInCurrent fingerprint key bits block).1.Reports fingerprint key block provider ↔
      filter.Reports fingerprint key block provider ∨ bits.contains provider = true := by
  have front : ((filter.insertInCurrent fingerprint key bits block).1.generations.behind 0).Reports
      fingerprint key block provider ↔
        (filter.generations.behind 0).Reports fingerprint key block provider ∨
          bits.contains provider = true := by
    rw [insertInCurrent, behind_modifyFront_zero, reports_countInserted,
      reports_insertMissingBits]
  have others : ∀ offset, offset + 1 < filter.liveGenerations →
      (filter.insertInCurrent fingerprint key bits block).1.generations.behind (offset + 1) =
        filter.generations.behind (offset + 1) := by
    intro offset inLive
    exact behind_modifyFront_of_pos (Nat.succ_pos offset)
      (Nat.lt_of_lt_of_le inLive valid.live_le)
  constructor
  · rintro ⟨offset, inLive, held⟩
    cases offset with
    | zero =>
      rcases front.mp held with before | added
      · exact Or.inl ⟨0, inLive, before⟩
      · exact Or.inr added
    | succ offset =>
      rw [others offset inLive] at held
      exact Or.inl ⟨offset + 1, inLive, held⟩
  · rintro (⟨offset, inLive, held⟩ | added)
    · refine ⟨offset, inLive, ?_⟩
      cases offset with
      | zero => exact front.mpr (Or.inl held)
      | succ offset =>
        rw [others offset inLive]
        exact held
    · exact ⟨0, Nat.pos_of_ne_zero live, front.mpr (Or.inr added)⟩

/-- What happens to a fact: the filter rotates, the current generation starts, and the fact
goes there. -/
theorem insertMissingBits_eq (takesFacts : filter.Open) (nonempty : bits ≠ .empty) :
    (filter.insertMissingBits fingerprint key bits block now).1 =
      (((filter.rotateIfNeeded now).1.ensureCurrentGenerationStarted now).insertInCurrent
        fingerprint key bits block).1 := by
  have stillOpen : (filter.rotateIfNeeded now).1.Open := open_rotateIfNeeded.mpr takesFacts
  simp only [insertMissingBits]
  rw [if_neg (not_or.mpr ⟨stillOpen.1, not_or.mpr ⟨nonempty, stillOpen.2⟩⟩)]

theorem insertMissingBits_of_closed (closed : ¬filter.Open) :
    (filter.insertMissingBits fingerprint key bits block now).1 =
      (filter.rotateIfNeeded now).1 := by
  have stillClosed : ¬(filter.rotateIfNeeded now).1.Open := mt open_rotateIfNeeded.mp closed
  simp only [Open, not_and_or, not_not] at stillClosed
  simp only [insertMissingBits]
  rw [if_pos (stillClosed.imp_right Or.inr)]

theorem dimensions_insertMissingBits (nonempty : bits ≠ .empty) :
    (filter.insertMissingBits fingerprint key bits block now).1.dimensions = filter.dimensions := by
  by_cases takesFacts : filter.Open
  · rw [insertMissingBits_eq takesFacts nonempty, ← filter.dimensions_rotateIfNeeded now]
    rcases (filter.rotateIfNeeded now).1.start_or_started now with ⟨same, -⟩ | ⟨same, -⟩ <;>
      rw [same] <;> rfl
  · rw [insertMissingBits_of_closed takesFacts, dimensions_rotateIfNeeded]

theorem valid_insertMissingBits (valid : filter.Valid) (nonempty : bits ≠ .empty) :
    (filter.insertMissingBits fingerprint key bits block now).1.Valid := by
  have rotatedValid : (filter.rotateIfNeeded now).1.Valid := valid_rotateIfNeeded valid
  by_cases takesFacts : filter.Open
  · rw [insertMissingBits_eq takesFacts nonempty]
    exact valid_insertInCurrent (valid_ensureCurrentGenerationStarted rotatedValid
      (open_rotateIfNeeded.mpr takesFacts))
  · rw [insertMissingBits_of_closed takesFacts]
    exact rotatedValid

theorem reports_insertMissingBits (valid : filter.Valid) (takesFacts : filter.Open)
    (nonempty : bits ≠ .empty)
    (reported : (filter.rotateIfNeeded now).1.Reports fingerprint key block provider ∨
      bits.contains provider = true) :
    (filter.insertMissingBits fingerprint key bits block now).1.Reports fingerprint key block
      provider := by
  have rotatedValid : (filter.rotateIfNeeded now).1.Valid := valid_rotateIfNeeded valid
  have startedValid : ((filter.rotateIfNeeded now).1.ensureCurrentGenerationStarted now).Valid :=
    valid_ensureCurrentGenerationStarted rotatedValid (open_rotateIfNeeded.mpr takesFacts)
  rw [insertMissingBits_eq takesFacts nonempty,
    reports_insertInCurrent_iff startedValid (live_ensureCurrentGenerationStarted rotatedValid)]
  exact reported.imp_left (Reports.ensureCurrentGenerationStarted rotatedValid)

/-- Right behind a fact no rotation is due, unless the clock has come to the end of its
range. -/
theorem not_due_insertMissingBits (takesFacts : filter.Open) (nonempty : bits ≠ .empty)
    (inRange : filter.Rotates → now ≠ maxMillis) :
    ¬(filter.insertMissingBits fingerprint key bits block now).1.Due now := by
  rw [insertMissingBits_eq takesFacts nonempty]
  rintro ⟨rotates, live, scheduled, reached⟩
  rcases (filter.rotateIfNeeded now).1.start_or_started now with ⟨same, started⟩ | ⟨same, -⟩
  · rw [same] at rotates live scheduled reached
    -- A generation that has started was not made by a rotation of this time.
    rcases filter.rotateIfNeeded_cases now with ⟨stays, notDue⟩ | ⟨rotates, -⟩ | ⟨-, closed⟩
    · rw [stays] at rotates live scheduled reached
      exact notDue ⟨rotates, live, scheduled, reached⟩
    · rw [rotates, behind_zero_rotated] at started
      exact absurd rfl started
    · exact absurd takesFacts closed
  · rw [same] at rotates reached
    have sameRotates : (filter.rotateIfNeeded now).1.Rotates := rotates
    have positive := interval_pos sameRotates
    have notLast : now.toNat < u64Max :=
      lt_u64Max (inRange ((rotates_congr (filter.dimensions_rotateIfNeeded now)).mp sameRotates))
    have reachedNat : ((filter.rotateIfNeeded now).1.rotationAfter now).toNat ≤ now.toNat :=
      reached
    rw [rotationAfter_toNat sameRotates] at reachedNat
    omega

/-! ### Facts behind the bits -/

/-- Every bit beside a key, in every generation, is of a fact of the key. -/
def Keeps (facts : Bytes → AvailabilitySlot → Prop) (filter : FilterState n) : Prop :=
  filter.generations.All (Generation.Keeps facts)

variable {facts : Bytes → AvailabilitySlot → Prop}

theorem keeps_new (blocksPerGeneration : Nat) (rotationIntervalMillis : UInt64) :
    (new (n := n) blocksPerGeneration rotationIntervalMillis).Keeps facts :=
  fun _ => Generation.keeps_new

variable (keeps : filter.Keeps facts)

include keeps

theorem Keeps.of_reports
    (reports : filter.Reports fingerprint key block provider) : facts key provider := by
  rcases reports with ⟨offset, -, held⟩
  exact (behind keeps offset).of_reports held

theorem Keeps.rotateIfNeeded :
    (filter.rotateIfNeeded now).1.Keeps facts := by
  rcases filter.rotateIfNeeded_cases now with ⟨same, -⟩ | ⟨same, -⟩ | ⟨same, -⟩
  · rw [same]
    exact keeps
  · rw [same]
    exact iterate_advance keeps Generation.keeps_new _
  · rw [same]
    exact fun _ => Generation.keeps_new

theorem Keeps.ensureCurrentGenerationStarted :
    (filter.ensureCurrentGenerationStarted now).Keeps facts := by
  rcases filter.start_or_started now with ⟨same, -⟩ | ⟨same, -⟩
  · rw [same]
    exact keeps
  · rw [same]
    simp only [Keeps, start]
    apply modifyFront keeps
    exact behind keeps 0

theorem Keeps.insertInCurrent
    (recorded : ∀ provider, bits.contains provider = true → facts key provider) :
    (filter.insertInCurrent fingerprint key bits block).1.Keeps facts := by
  simp only [Keeps, FilterState.insertInCurrent]
  apply modifyFront keeps
  have current : ((filter.generations.behind 0).insertMissingBits fingerprint key bits
      block).1.Keeps facts :=
    (behind keeps 0).insertMissingBits recorded
  unfold countInserted
  split <;> exact current

theorem Keeps.insertMissingBits (nonempty : bits ≠ .empty)
    (recorded : ∀ provider, bits.contains provider = true → facts key provider) :
    (filter.insertMissingBits fingerprint key bits block now).1.Keeps facts := by
  by_cases takesFacts : filter.Open
  · rw [insertMissingBits_eq takesFacts nonempty]
    exact keeps.rotateIfNeeded.ensureCurrentGenerationStarted.insertInCurrent recorded
  · rw [insertMissingBits_of_closed takesFacts]
    exact keeps.rotateIfNeeded

end FilterState

end NntpProxy.Availability
