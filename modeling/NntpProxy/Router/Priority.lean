import NntpProxy.Router.Selection

/-!
# What the router chooses

A request for an article belongs to the lowest tier with a backend that is not known to miss
it.  The router chooses a backend of that tier that has not failed for the request, prefers
those within the hard queue limit, and chooses nothing when all of them failed.  The delay of
a request goes through the tiers by a rule of its own, which passes over a tier whose backends
failed.
-/

namespace NntpProxy.Router.BackendSelector

open ArticleAvailability List

variable {router : BackendSelector} {snapshot : Snapshot} {availability : ArticleAvailability}
  {suppressed : SuppressedBackends} {tier : Nat} {backend : BackendInfo}

/-! ## The policy -/

/-- The backend of this tier is not known to miss the article. -/
structure MayHave (router : BackendSelector) (availability : ArticleAvailability) (tier : Nat)
    (backend : BackendInfo) : Prop where
  mem : backend ∈ router.backends
  inTier : backend.tier = tier
  notMissing : availability.isMissingSlot backend.availabilitySlot = false

/-- The backend of this tier is neither known to miss the article nor suppressed. -/
structure Selectable (router : BackendSelector) (availability : ArticleAvailability)
    (suppressed : SuppressedBackends) (tier : Nat) (backend : BackendInfo) : Prop
    extends MayHave router availability tier backend where
  notSuppressed : suppressed.contains backend.id = false

/-- The lowest tier with a backend that is not known to miss the article. -/
structure IsPriorityTier (router : BackendSelector) (availability : ArticleAvailability)
    (tier : Nat) : Prop where
  exists_mayHave : ∃ backend, router.MayHave availability tier backend
  least : ∀ other backend, router.MayHave availability other backend → tier ≤ other

/-- The queue of a backend is above the hard limit. -/
def OverHard (router : BackendSelector) (snapshot : Snapshot) (backend : BackendInfo) : Prop :=
  router.exceedsHardQueueDepth (snapshot.load backend.id) = true

theorem OverHard.enabled (isOver : router.OverHard snapshot backend) :
    router.backpressure.enabled = true := by
  by_contra disabled
  simp [OverHard, exceedsHardQueueDepth, disabled] at isOver

theorem OverHard.connections (isOver : router.OverHard snapshot backend) :
    0 < (snapshot.load backend.id).status.maxSize := by
  apply Nat.pos_of_ne_zero
  intro noConnections
  simp [OverHard, exceedsHardQueueDepth, noConnections] at isOver

/-! ## Choosing from candidates -/

variable {candidates : List BackendInfo}

theorem exists_atPosition {position : Nat} (cumulative : Nat)
    (inside : position < cumulative + (candidates.map (·.maxSize)).sum)
    (behind : cumulative ≤ position) :
    ∃ backend, atPosition position cumulative candidates = some backend := by
  induction candidates generalizing cumulative with
  | nil => exact absurd inside (Nat.not_lt_of_le behind)
  | cons first rest ih =>
    rw [atPosition]
    split
    · exact ⟨first, rfl⟩
    next notHere =>
      rw [map_cons, sum_cons, ← Nat.add_assoc] at inside
      exact ih (cumulative + first.maxSize) inside (Nat.le_of_not_lt notHere)

theorem exists_selectByWeight_iff (counter : Nat) (candidates : List BackendInfo) :
    (∃ backend, selectByWeight counter candidates = some backend) ↔
      0 < (candidates.map (·.maxSize)).sum := by
  unfold selectByWeight
  simp only
  split
  next noWeight => simp [noWeight]
  next weight =>
    have positive := Nat.pos_of_ne_zero weight
    have inside := Nat.mod_lt counter positive
    rw [← Nat.zero_add (candidates.map (·.maxSize)).sum] at inside
    rcases exists_atPosition 0 inside (Nat.zero_le _) with ⟨backend, found⟩
    rw [Nat.zero_add] at found
    exact iff_of_true ⟨backend, by rw [found, Option.some_or]⟩ positive

/-- Some backend is chosen, or none had connections. -/
def LeastLoaded.Searching (search : LeastLoaded) : Prop :=
  (∃ backend, search.selected = some backend) ∨ search.load.connections = 0

theorem compare_idle {load : Load} {ratio : LoadRatio} (connections : 0 < load.status.maxSize)
    (idle : ratio.connections = 0) : (router.backendLoadRatio load).compare ratio = .lt := by
  rcases Nat.exists_eq_succ_of_ne_zero (Nat.ne_of_gt connections) with ⟨count, countEq⟩
  simp only [LoadRatio.compare, backendLoadRatio, countEq, idle]

theorem LeastLoaded.Searching.step {search : LeastLoaded} (searching : search.Searching)
    (backend : BackendInfo) :
    (LeastLoaded.step router snapshot.load search backend).Searching ∧
      (0 < (snapshot.load backend.id).status.maxSize ∨ (∃ chosen, search.selected = some chosen) →
        ∃ chosen, (LeastLoaded.step router snapshot.load search backend).selected =
          some chosen) := by
  -- without a choice so far a backend with connections has the lowest load
  have kept (notLower : (router.backendLoadRatio (snapshot.load backend.id)).compare search.load ≠
      .lt) : 0 < (snapshot.load backend.id).status.maxSize ∨
        (∃ chosen, search.selected = some chosen) → ∃ chosen, search.selected = some chosen := by
    rintro (connections | chosen)
    · rcases searching with chosen | idle
      · exact chosen
      · exact absurd (compare_idle connections idle) notLower
    · exact chosen
  unfold LeastLoaded.step
  simp only
  split
  · exact ⟨Or.inl ⟨backend, rfl⟩, fun _ => ⟨backend, rfl⟩⟩
  next isEqual =>
    rcases shouldReplaceTie search.tieBreaker (search.ties + 1) with ⟨_ | _, tieBreaker⟩
    · exact ⟨searching, kept (by simp [isEqual])⟩
    · exact ⟨Or.inl ⟨backend, rfl⟩, fun _ => ⟨backend, rfl⟩⟩
  next isGreater => exact ⟨searching, kept (by simp [isGreater])⟩

theorem exists_selected_foldl {search : LeastLoaded} (searching : search.Searching)
    (someLoad : (∃ backend ∈ candidates, 0 < (snapshot.load backend.id).status.maxSize) ∨
      ∃ chosen, search.selected = some chosen) :
    ∃ chosen, (candidates.foldl (LeastLoaded.step router snapshot.load) search).selected =
      some chosen := by
  induction candidates generalizing search with
  | nil => simpa using someLoad
  | cons first rest ih =>
    rcases searching.step first with ⟨next, chooses⟩
    apply ih next
    rcases someLoad with ⟨backend, isCandidate, connections⟩ | chosen
    · rcases mem_cons.mp isCandidate with rfl | later
      · exact Or.inr (chooses (Or.inl connections))
      · exact Or.inl ⟨backend, later, connections⟩
    · exact Or.inr (chooses (Or.inr chosen))

theorem exists_selectLeastLoaded (router : BackendSelector) (candidate : backend ∈ candidates)
    (connections : 0 < (snapshot.load backend.id).status.maxSize) :
    ∃ chosen, router.selectLeastLoaded snapshot candidates = some chosen :=
  exists_selected_foldl (Or.inr rfl) (Or.inl ⟨backend, candidate, connections⟩)

theorem exists_selectByWeight (counter : Nat) (candidate : backend ∈ candidates)
    (weight : 0 < backend.maxSize) : ∃ chosen, selectByWeight counter candidates = some chosen := by
  rw [exists_selectByWeight_iff]
  exact Nat.lt_of_lt_of_le weight
    (le_sum_of_mem (mem_map_of_mem candidate))

theorem exists_selectWeighted (router : BackendSelector) (candidate : backend ∈ candidates)
    (weight : 0 < backend.maxSize) (connections : 0 < (snapshot.load backend.id).status.maxSize) :
    ∃ chosen, router.selectWeighted snapshot candidates = some chosen := by
  unfold selectWeighted
  split
  · exact exists_selectByWeight _ candidate weight
  · exact exists_selectLeastLoaded router candidate connections

theorem exists_selectInTier {availability : Option ArticleAvailability}
    (candidate : backend ∈ router.candidatesInTier snapshot availability suppressed tier)
    (weight : 0 < backend.maxSize)
    (connections : 0 < (snapshot.load backend.id).status.maxSize) :
    ∃ chosen, router.selectInTier snapshot availability suppressed tier = some chosen := by
  unfold selectInTier
  split
  · split
    · exact exists_selectByWeight _ candidate weight
    · exact exists_selectWeighted router candidate weight connections
  · exact exists_selectWeighted router candidate weight connections

/-! ## Choosing from a tier -/

theorem isAvailable_iff :
    isAvailable (some availability) suppressed backend = true ↔
      suppressed.contains backend.id = false ∧
        availability.isMissingSlot backend.availabilitySlot = false := by
  simp [isAvailable, shouldTrySlot]

/-- The candidates of a tier are its selectable backends, without those over the hard limit
unless all of them are. -/
theorem mem_candidatesInTier_iff :
    backend ∈ router.candidatesInTier snapshot (some availability) suppressed tier ↔
      router.Selectable availability suppressed tier backend ∧
        (router.OverHard snapshot backend →
          ∀ other, router.Selectable availability suppressed tier other →
            router.OverHard snapshot other) := by
  have eligible : ∀ other, (other ∈ router.backends.filter fun backend =>
      backend.tier == tier && isAvailable (some availability) suppressed backend) ↔
      router.Selectable availability suppressed tier other := by
    intro other
    rw [mem_filter, Bool.and_eq_true, beq_iff_eq, isAvailable_iff]
    constructor
    · rintro ⟨mem, inTier, notSuppressed, notMissing⟩
      exact ⟨⟨mem, inTier, notMissing⟩, notSuppressed⟩
    · rintro ⟨⟨mem, inTier, notMissing⟩, notSuppressed⟩
      exact ⟨mem, inTier, notSuppressed, notMissing⟩
  unfold candidatesInTier
  simp only
  split
  next someWithin =>
    rw [Bool.and_eq_true, any_eq_true] at someWithin
    rcases someWithin with ⟨-, within, isCandidate, notOver⟩
    rw [mem_filter, eligible, Bool.not_eq_true']
    apply and_congr_right
    intro _
    constructor
    · intro notOver isOver
      exact absurd isOver (Bool.eq_false_iff.mp notOver)
    · intro allOver
      by_contra isOver
      have overToo := allOver (Bool.eq_true_of_not_eq_false isOver) within
        ((eligible within).mp isCandidate)
      rw [overToo] at notOver
      cases notOver
  next noneWithin =>
    rw [eligible]
    constructor
    · intro selectable
      refine ⟨selectable, fun isOver other otherSelectable => ?_⟩
      by_contra notOver
      apply noneWithin
      rw [Bool.and_eq_true, any_eq_true]
      exact ⟨isOver.enabled, other, (eligible other).mpr otherSelectable, by
        simpa [OverHard] using notOver⟩
    · exact And.left

theorem selectable_of_selectInTier
    (selected : router.selectInTier snapshot (some availability) suppressed tier = some backend) :
    router.Selectable availability suppressed tier backend ∧
      (router.OverHard snapshot backend →
        ∀ other, router.Selectable availability suppressed tier other →
          router.OverHard snapshot other) :=
  mem_candidatesInTier_iff.mp (selectInTier_mem selected)

theorem exists_mem_candidatesInTier
    (selectable : router.Selectable availability suppressed tier backend) :
    ∃ candidate,
      candidate ∈ router.candidatesInTier snapshot (some availability) suppressed tier := by
  by_cases within : ∃ other, router.Selectable availability suppressed tier other ∧
      ¬ router.OverHard snapshot other
  · rcases within with ⟨other, otherSelectable, notOver⟩
    refine ⟨other, mem_candidatesInTier_iff.mpr ⟨otherSelectable, ?_⟩⟩
    exact fun isOver => absurd isOver notOver
  · refine ⟨backend, mem_candidatesInTier_iff.mpr ⟨selectable, fun _ other otherSelectable => ?_⟩⟩
    by_contra notOver
    exact within ⟨other, otherSelectable, notOver⟩

/-! ## Choosing a tier -/

/-- The tier has a backend that is not known to miss the article. -/
def mayHaveInTier (router : BackendSelector) (availability : ArticleAvailability) (tier : Nat) :
    Bool :=
  router.backends.any fun backend =>
    backend.tier == tier && availability.shouldTrySlot backend.availabilitySlot

theorem mayHaveInTier_iff :
    router.mayHaveInTier availability tier = true ↔
      ∃ backend, router.MayHave availability tier backend := by
  unfold mayHaveInTier
  rw [any_eq_true]
  constructor
  · rintro ⟨backend, mem, triable⟩
    rw [Bool.and_eq_true, beq_iff_eq, shouldTrySlot,
      Bool.not_eq_true'] at triable
    exact ⟨backend, mem, triable.1, triable.2⟩
  · rintro ⟨backend, mem, inTier, notMissing⟩
    refine ⟨backend, mem, ?_⟩
    simp [inTier, shouldTrySlot, notMissing]

theorem selectInTiers_eq (router : BackendSelector) (snapshot : Snapshot)
    (availability : ArticleAvailability) (suppressed : SuppressedBackends) (tiers : List Nat) :
    router.selectInTiers snapshot (some availability) suppressed tiers =
      (tiers.find? (router.mayHaveInTier availability)).bind
        (router.selectInTier snapshot (some availability) suppressed) := by
  induction tiers with
  | nil => rfl
  | cons tier tiers ih =>
    have stops : ((some availability).isSome && router.backends.any fun backend =>
        backend.tier == tier && ((some availability).map
          (·.shouldTrySlot backend.availabilitySlot)).getD true) =
        router.mayHaveInTier availability tier := rfl
    rw [selectInTiers, stops]
    cases mayHave : router.mayHaveInTier availability tier with
    | true =>
      rw [find?_cons_of_pos mayHave, Option.bind_some]
      cases router.selectInTier snapshot (some availability) suppressed tier with
      | none => rfl
      | some chosen => rfl
    | false =>
      rw [find?_cons_of_neg (by simp [mayHave]), ih]
      cases selected : router.selectInTier snapshot (some availability) suppressed tier with
      | none => rfl
      | some chosen =>
        have selectable := (selectable_of_selectInTier selected).1
        rw [mayHaveInTier_iff.mpr ⟨chosen, selectable.toMayHave⟩] at mayHave
        cases mayHave

theorem find?_sortedTiers_iff {property : Nat → Bool}
    (known : ∀ tier, property tier = true → tier ∈ router.sortedTiers) :
    router.sortedTiers.find? property = some tier ↔
      property tier = true ∧ ∀ other, property other = true → tier ≤ other := by
  have sorted := router.sorted
  rw [find?_eq_some_iff_append]
  apply and_congr_right
  intro holds
  constructor
  · rintro ⟨before, after, tiersEq, noneBefore⟩ other otherToo
    have otherMem := known other otherToo
    rw [tiersEq] at otherMem sorted
    rcases mem_append.mp otherMem with isBefore | isAfter
    · have isNone := noneBefore other isBefore
      rw [otherToo] at isNone
      cases isNone
    · rcases mem_cons.mp isAfter with rfl | later
      · exact Nat.le_refl _
      · exact Nat.le_of_lt ((pairwise_cons.mp (pairwise_append.mp sorted).2.1).1 _ later)
  · intro least
    rcases append_of_mem (known tier holds) with ⟨before, after, tiersEq⟩
    refine ⟨before, after, tiersEq, fun other isBefore => ?_⟩
    rw [tiersEq] at sorted
    have lower : other < tier :=
      (pairwise_append.mp sorted).2.2 other isBefore tier mem_cons_self
    rw [Bool.not_eq_true', Bool.eq_false_iff]
    intro otherToo
    exact absurd (least other otherToo) (Nat.not_le_of_lt lower)

theorem MayHave.mem_sortedTiers (mayHave : router.MayHave availability tier backend) :
    tier ∈ router.sortedTiers :=
  mayHave.inTier ▸ router.tier_mem backend mayHave.mem

theorem find?_mayHaveInTier_iff :
    router.sortedTiers.find? (router.mayHaveInTier availability) = some tier ↔
      router.IsPriorityTier availability tier := by
  rw [find?_sortedTiers_iff]
  · simp only [mayHaveInTier_iff]
    constructor
    · rintro ⟨someBackend, least⟩
      exact ⟨someBackend, fun other backend mayHave => least other ⟨backend, mayHave⟩⟩
    · rintro ⟨someBackend, least⟩
      exact ⟨someBackend, fun other ⟨backend, mayHave⟩ => least other backend mayHave⟩
  · intro other otherToo
    rcases mayHaveInTier_iff.mp otherToo with ⟨backend, mayHave⟩
    exact mayHave.mem_sortedTiers

theorem selectBackend_eq_some_iff :
    router.selectBackend snapshot (some availability) suppressed = some backend ↔
      ∃ tier, router.IsPriorityTier availability tier ∧
        router.selectInTier snapshot (some availability) suppressed tier = some backend := by
  rw [selectBackend, selectInTiers_eq, Option.bind_eq_some_iff]
  simp only [find?_mayHaveInTier_iff]

/-- Every pool of the router has room for a connection. -/
def Sized (router : BackendSelector) (snapshot : Snapshot) : Prop :=
  ∀ backend ∈ router.backends,
    1 ≤ backend.maxSize ∧ 1 ≤ (snapshot.load backend.id).status.maxSize

/-- A backend is chosen exactly when the priority tier has a selectable one; it is a selectable
backend of that tier, and over the hard queue limit only if all of those are. -/
theorem selectBackend_chooses_from_priorityTier (router : BackendSelector) (snapshot : Snapshot)
    (availability : ArticleAvailability) (suppressed : SuppressedBackends)
    (sized : router.Sized snapshot) :
    ((∃ backend, router.selectBackend snapshot (some availability) suppressed = some backend) ↔
        ∃ tier backend, router.IsPriorityTier availability tier ∧
          router.Selectable availability suppressed tier backend) ∧
      ∀ backend, router.selectBackend snapshot (some availability) suppressed = some backend →
        ∃ tier, router.IsPriorityTier availability tier ∧
          router.Selectable availability suppressed tier backend ∧
          (router.OverHard snapshot backend →
            ∀ other, router.Selectable availability suppressed tier other →
              router.OverHard snapshot other) := by
  have chosen : ∀ backend,
      router.selectBackend snapshot (some availability) suppressed = some backend →
        ∃ tier, router.IsPriorityTier availability tier ∧
          router.Selectable availability suppressed tier backend ∧
          (router.OverHard snapshot backend →
            ∀ other, router.Selectable availability suppressed tier other →
              router.OverHard snapshot other) := by
    intro backend selected
    rcases selectBackend_eq_some_iff.mp selected with ⟨tier, priority, inTier⟩
    exact ⟨tier, priority, selectable_of_selectInTier inTier⟩
  refine ⟨?_, chosen⟩
  constructor
  · rintro ⟨backend, selected⟩
    rcases chosen backend selected with ⟨tier, priority, selectable, -⟩
    exact ⟨tier, backend, priority, selectable⟩
  · rintro ⟨tier, backend, priority, selectable⟩
    rcases exists_mem_candidatesInTier selectable with ⟨candidate, isCandidate⟩
    have mem := (mem_candidatesInTier isCandidate).1
    rcases exists_selectInTier isCandidate (sized candidate mem).1 (sized candidate mem).2 with
      ⟨backend, selected⟩
    exact ⟨backend, selectBackend_eq_some_iff.mpr ⟨tier, priority, selected⟩⟩

/-- Three backends: one in the first tier and two in the second. -/
def threeBackends : BackendSelector :=
  (((withStrategy .weightedRoundRobin ⟨true, 100, 200⟩).addBackendWithSlot 0 2 false 0
    (by decide)).addBackendWithSlot 1 1 false 1 (by decide)).addBackendWithSlot 1 1 false 2
    (by decide)

/-- The second backend has three requests for its one connection. -/
def busySecond : Snapshot :=
  ⟨fun id => if id = 1 then ⟨⟨0, 1, 1, 3⟩, 4⟩ else ⟨⟨0, 0, 1, 0⟩, 0⟩, 0, 0, 0⟩

theorem threeBackends_choose_from_priorityTier :
    threeBackends.Sized busySecond ∧
      ((∃ backend, threeBackends.selectBackend busySecond
          (some (new.recordMissingSlot 0)) .empty = some backend) ↔
        ∃ tier backend,
          threeBackends.IsPriorityTier (new.recordMissingSlot 0) tier ∧
            threeBackends.Selectable (new.recordMissingSlot 0) .empty tier
              backend) := by
  have sized : threeBackends.Sized busySecond := by
    unfold Sized
    decide
  exact ⟨sized, (selectBackend_chooses_from_priorityTier threeBackends busySecond _ _ sized).1⟩

example : threeBackends.selectBackend busySecond
    (some (new.recordMissingSlot 0)) .empty = some ⟨2, 2, 1, 1, false⟩ := by
  decide

/-! ## Delays -/

/-- The lowest tier with a selectable backend. -/
structure IsFirstSelectable (router : BackendSelector) (availability : ArticleAvailability)
    (suppressed : SuppressedBackends) (tier : Nat) : Prop where
  exists_selectable : ∃ backend, router.Selectable availability suppressed tier backend
  least : ∀ other backend, router.Selectable availability suppressed other backend → tier ≤ other

theorem IsFirstSelectable.unique {other : Nat}
    (first : router.IsFirstSelectable availability suppressed tier)
    (alsoFirst : router.IsFirstSelectable availability suppressed other) : tier = other := by
  rcases first.exists_selectable with ⟨backend, selectable⟩
  rcases alsoFirst.exists_selectable with ⟨another, alsoSelectable⟩
  exact Nat.le_antisymm (first.least other another alsoSelectable)
    (alsoFirst.least tier backend selectable)

end NntpProxy.Router.BackendSelector
