import NntpProxy.Data.BitSet

/-!
# Choosing a backend

A router knows its backends by tier.  A request for an article carries the provider
slots that are known to miss it and the backends that already failed for it; the
router looks for a backend of the lowest tier that is neither, prefers backends whose
queue is not too long, and chooses among them by weight or by load.  Loads and counters
are shared with other sessions, so every choice is made on a snapshot of them.
-/

namespace NntpProxy.Router

open Data List

/-- The width of the bitmaps. -/
abbrev maxBackends : Nat := 64

instance : NeZero maxBackends :=
  ⟨by decide⟩

theorem maxBackends_pos : 0 < maxBackends := by
  decide

abbrev BackendId := Fin maxBackends

abbrev AvailabilitySlot := Fin maxBackends

/-! ## Availability -/

/-- The provider slots that are known to miss an article. -/
structure ArticleAvailability where
  missing : BitSet maxBackends
  deriving DecidableEq, Repr

namespace ArticleAvailability

def new : ArticleAvailability :=
  ⟨.empty⟩

variable (availability : ArticleAvailability)

def recordMissingSlot (slot : AvailabilitySlot) :
    ArticleAvailability :=
  ⟨availability.missing.insert slot⟩

def isMissingSlot (slot : AvailabilitySlot) : Bool :=
  availability.missing.contains slot

def shouldTrySlot (slot : AvailabilitySlot) : Bool :=
  !availability.isMissingSlot slot

/-- Every configured slot is known to miss the article. -/
def allExhausted (configured : BitSet maxBackends) : Bool :=
  availability.missing.containsAll configured

@[simp]
theorem isMissingSlot_recordMissingSlot (added slot : AvailabilitySlot) :
    (availability.recordMissingSlot added).isMissingSlot slot =
      (availability.isMissingSlot slot || slot == added) :=
  BitSet.contains_insert _ _ _

end ArticleAvailability

/-- The backends that failed for a request. -/
structure SuppressedBackends where
  bits : BitSet maxBackends
  deriving DecidableEq, Repr

namespace SuppressedBackends

def empty : SuppressedBackends :=
  ⟨.empty⟩

variable (suppressed : SuppressedBackends)

def suppress (id : BackendId) : SuppressedBackends :=
  ⟨suppressed.bits.insert id⟩

def contains (id : BackendId) : Bool :=
  suppressed.bits.contains id

@[simp]
theorem contains_suppress (added id : BackendId) :
    (suppressed.suppress added).contains id = (suppressed.contains id || id == added) :=
  BitSet.contains_insert _ _ _

end SuppressedBackends

/-! ## Routers -/

/-- A configured backend. -/
structure BackendInfo where
  id : BackendId
  availabilitySlot : AvailabilitySlot
  tier : Nat
  maxSize : Nat
  statMissingEnabled : Bool
  deriving DecidableEq, Repr

/-- How a backend is chosen within a tier. -/
inductive SelectionStrategy where
  | weightedRoundRobin
  | leastLoaded
  deriving DecidableEq, Repr

/-- When queues count as too long, in percent of the connections of a backend. -/
structure QueueBackpressure where
  enabled : Bool
  softPercent : Nat
  hardPercent : Nat
  deriving DecidableEq, Repr

/-- A router: its backends, numbered in the order they were added, their tiers in
increasing order and the set of their slots. -/
structure BackendSelector where
  backends : List BackendInfo
  sortedTiers : List Nat
  availabilityMask : BitSet maxBackends
  strategy : SelectionStrategy
  backpressure : QueueBackpressure
  ids_eq : backends.map (·.id.val) = range backends.length
  tier_mem : ∀ backend ∈ backends, backend.tier ∈ sortedTiers
  sorted : sortedTiers.Pairwise (· < ·)
  mask_iff : ∀ slot, availabilityMask.contains slot = true ↔
    ∃ backend ∈ backends, backend.availabilitySlot = slot

namespace BackendSelector

def withStrategy (strategy : SelectionStrategy) (backpressure : QueueBackpressure) :
    BackendSelector where
  backends := []
  sortedTiers := []
  availabilityMask := .empty
  strategy := strategy
  backpressure := backpressure
  ids_eq := rfl
  tier_mem := by simp
  sorted := List.Pairwise.nil
  mask_iff := by simp

/-- Insert a tier unless it is there. -/
def insertTier (tier : Nat) : List Nat → List Nat
  | [] => [tier]
  | first :: rest =>
    if tier < first then tier :: first :: rest
    else if tier = first then first :: rest
    else first :: insertTier tier rest

theorem mem_insertTier (tier other : Nat) (tiers : List Nat) :
    other ∈ insertTier tier tiers ↔ other = tier ∨ other ∈ tiers := by
  induction tiers with
  | nil => simp [insertTier]
  | cons first rest ih =>
    rw [insertTier]
    split
    · simp
    · split
      · rename_i same
        simp [same]
      · rw [mem_cons, ih, mem_cons]
        tauto

theorem sorted_insertTier {tier : Nat} {tiers : List Nat} (sorted : tiers.Pairwise (· < ·)) :
    (insertTier tier tiers).Pairwise (· < ·) := by
  induction tiers with
  | nil => simp [insertTier]
  | cons first rest ih =>
    rcases pairwise_cons.mp sorted with ⟨below, restSorted⟩
    rw [insertTier]
    split
    · rename_i less
      refine pairwise_cons.mpr ⟨fun later laterMem => ?_, sorted⟩
      rcases mem_cons.mp laterMem with rfl | inRest
      · exact less
      · exact Nat.lt_trans less (below later inRest)
    · split
      · exact sorted
      · rename_i notLess notSame
        refine pairwise_cons.mpr ⟨fun later laterMem => ?_, ih restSorted⟩
        rcases (mem_insertTier _ _ _).mp laterMem with rfl | inRest
        · omega
        · exact below later inRest

variable (router : BackendSelector)

/-- Add a backend; it gets the next number. -/
def addBackendWithSlot (tier maxSize : Nat) (statMissingEnabled : Bool) (slot : AvailabilitySlot)
    (room : router.backends.length < maxBackends) : BackendSelector :=
  { router with
    backends := router.backends ++
      [⟨⟨router.backends.length, room⟩, slot, tier, maxSize, statMissingEnabled⟩]
    sortedTiers := insertTier tier router.sortedTiers
    availabilityMask := router.availabilityMask.insert slot
    ids_eq := by
      rw [map_append, router.ids_eq, length_append, length_singleton,
        range_succ]
      rfl
    tier_mem := by
      intro backend backendMem
      rw [mem_insertTier]
      rcases mem_append.mp backendMem with older | newest
      · exact Or.inr (router.tier_mem backend older)
      · rw [mem_singleton.mp newest]
        exact Or.inl rfl
    sorted := sorted_insertTier router.sorted
    mask_iff := by
      intro other
      simp only [BitSet.contains_insert, Bool.or_eq_true, router.mask_iff, mem_append,
        mem_singleton, beq_iff_eq]
      constructor
      · rintro (⟨backend, backendMem, slotEq⟩ | rfl)
        · exact ⟨backend, Or.inl backendMem, slotEq⟩
        · exact ⟨_, Or.inr rfl, rfl⟩
      · rintro ⟨backend, older | rfl, slotEq⟩
        · exact Or.inl ⟨backend, older, slotEq⟩
        · exact Or.inr slotEq.symm }

def findBackend (id : BackendId) : Option BackendInfo :=
  router.backends.find? (·.id == id)

def availabilitySlot (id : BackendId) : Option AvailabilitySlot :=
  (router.findBackend id).map (·.availabilitySlot)

def backendIdsInTier (tier : Nat) : List BackendId :=
  (router.backends.filter (·.tier == tier)).map (·.id)

theorem nodup_ids : (router.backends.map (·.id)).Nodup := by
  have numbers : ((router.backends.map (·.id)).map Fin.val).Nodup := by
    rw [map_map]
    exact router.ids_eq ▸ nodup_range
  exact numbers.of_map

end BackendSelector

/-! ## Queues -/

/-- The state of a connection pool. -/
structure PoolStatus where
  available : Nat
  size : Nat
  maxSize : Nat
  waiting : Nat
  deriving DecidableEq, Repr

/-- The load of a backend: its pool and its pending requests. -/
structure Load where
  status : PoolStatus
  pending : Nat
  deriving DecidableEq, Repr

/-- What a choice is made on: the loads and the shared counters. -/
structure Snapshot where
  load : BackendId → Load
  weightedCounter : Nat
  initialArticleProbeCounter : Nat
  tieBreaker : UInt64

def maxUsize : Nat := 2 ^ 64 - 1

namespace Load

def checkedOut (load : Load) : Nat :=
  load.status.size - load.status.available

/-- The requests that use or wait for a connection. -/
def activeForScore (pending checkedOut waiting : Nat) : Nat :=
  max pending (min (checkedOut + waiting) maxUsize)

/-- The requests that wait for a connection. -/
def queueDepthForScore (load : Load) : Nat :=
  activeForScore load.pending load.checkedOut load.status.waiting - load.checkedOut

/-- The queue limit of a pool, rounded up. -/
def queueDepthLimit (maxConnections percent : Nat) : Nat :=
  (min (maxConnections * percent) maxUsize + 99) / 100

end Load

variable {backend : BackendInfo} {router : BackendSelector} {snapshot : Snapshot}
    {candidates : List BackendInfo} {availability : Option ArticleAvailability}
    {suppressed : SuppressedBackends}

namespace BackendSelector

def exceedsHardQueueDepth (router : BackendSelector) (load : Load) : Bool :=
  if router.backpressure.enabled = false ∨ load.status.maxSize = 0 then false
  else Load.queueDepthLimit load.status.maxSize router.backpressure.hardPercent <
    load.queueDepthForScore

/-- How far a queue is above the soft limit. -/
def queueSoftPressurePenalty (router : BackendSelector) (load : Load) : Nat :=
  if router.backpressure.enabled = false ∨ load.status.maxSize = 0 then 0
  else load.queueDepthForScore -
    Load.queueDepthLimit load.status.maxSize router.backpressure.softPercent

/-! ## Choosing by weight -/

/-- The backend at a position of the weights laid end to end. -/
def atPosition (position : Nat) : Nat → List BackendInfo → Option BackendInfo
  | _, [] => none
  | cumulative, backend :: rest =>
    if position < cumulative + backend.maxSize then some backend
    else atPosition position (cumulative + backend.maxSize) rest

/-- Choose by weight with a counter; nothing is chosen when there is no weight. -/
def selectByWeight (counter : Nat) (candidates : List BackendInfo) : Option BackendInfo :=
  let totalWeight := (candidates.map (·.maxSize)).sum
  if totalWeight = 0 then none
  else (atPosition (counter % totalWeight) 0 candidates).or candidates.head?

/-! ## Choosing by load -/

/-- Active requests over connections; no connections are the highest load. -/
structure LoadRatio where
  active : Nat
  connections : Nat
  deriving DecidableEq, Repr

def LoadRatio.compare (first second : LoadRatio) : Ordering :=
  match first.connections, second.connections with
  | 0, 0 => .eq
  | 0, _ + 1 => .gt
  | _ + 1, 0 => .lt
  | _ + 1, _ + 1 =>
    compareOfLessAndEq (first.active * second.connections) (second.active * first.connections)

def backendLoadRatio (router : BackendSelector) (load : Load) : LoadRatio where
  active := Load.activeForScore load.pending load.checkedOut
    (min (load.status.waiting + router.queueSoftPressurePenalty load) maxUsize)
  connections := load.status.maxSize

/-- Scramble the counter that breaks ties. -/
def mix (value : UInt64) : UInt64 :=
  let value := value ^^^ (value >>> 16)
  let value := value * 0x7feb352d
  let value := value ^^^ (value >>> 15)
  let value := value * 0x846ca68b
  value ^^^ (value >>> 16)

/-- Whether the latest of some equally loaded backends replaces the chosen one. -/
def shouldReplaceTie (tieBreaker : UInt64) (ties : Nat) : Bool × UInt64 :=
  if ties ≤ 1 then (false, tieBreaker)
  else ((mix tieBreaker).toNat % ties == 0, tieBreaker + 0x9e3779b97f4a7c15)

/-- The state of the search for the least loaded backend. -/
structure LeastLoaded where
  selected : Option BackendInfo
  load : LoadRatio
  ties : Nat
  tieBreaker : UInt64

/-- Look at one more backend. -/
def LeastLoaded.step (router : BackendSelector) (loads : BackendId → Load) (search : LeastLoaded)
    (backend : BackendInfo) : LeastLoaded :=
  let load := router.backendLoadRatio (loads backend.id)
  match load.compare search.load with
  | .lt => { search with selected := some backend, load := load, ties := 1 }
  | .eq =>
    let ties := search.ties + 1
    let (replace, tieBreaker) := shouldReplaceTie search.tieBreaker ties
    { search with
      selected := if replace then some backend else search.selected
      ties := ties
      tieBreaker := tieBreaker }
  | .gt => search

def selectLeastLoaded (router : BackendSelector) (snapshot : Snapshot)
    (candidates : List BackendInfo) : Option BackendInfo :=
  (candidates.foldl (LeastLoaded.step router snapshot.load)
    ⟨none, ⟨0, 0⟩, 0, snapshot.tieBreaker⟩).selected

/-! ## Choosing by tier -/

def selectWeighted (router : BackendSelector) (snapshot : Snapshot)
    (candidates : List BackendInfo) : Option BackendInfo :=
  match router.strategy with
  | .weightedRoundRobin => selectByWeight snapshot.weightedCounter candidates
  | .leastLoaded => router.selectLeastLoaded snapshot candidates

/-- A backend is not suppressed and not known to miss the article. -/
def isAvailable (availability : Option ArticleAvailability) (suppressed : SuppressedBackends)
    (backend : BackendInfo) : Bool :=
  !suppressed.contains backend.id &&
    (availability.map (·.shouldTrySlot backend.availabilitySlot)).getD true

def availabilityMissingInTier (router : BackendSelector) (availability : ArticleAvailability)
    (tier : Nat) : Bool :=
  router.backends.any fun backend =>
    backend.tier == tier && availability.isMissingSlot backend.availabilitySlot

section

variable (router : BackendSelector) (snapshot : Snapshot)
    (availability : Option ArticleAvailability) (suppressed : SuppressedBackends) (tier : Nat)

/-- The backends of a tier to choose from.  Those with too long a queue are left out
unless all of them have one. -/
def candidatesInTier :
    List BackendInfo :=
  let eligible := router.backends.filter fun backend =>
    backend.tier == tier && isAvailable availability suppressed backend
  let overHard backend := router.exceedsHardQueueDepth (snapshot.load backend.id)
  if router.backpressure.enabled && eligible.any (!overHard ·) then eligible.filter (!overHard ·)
  else eligible

def selectInTier :
    Option BackendInfo :=
  let candidates := router.candidatesInTier snapshot availability suppressed tier
  if (availability.map fun availability =>
      !router.availabilityMissingInTier availability tier).getD false then
    match router.strategy with
    | .weightedRoundRobin => selectByWeight snapshot.initialArticleProbeCounter candidates
    | .leastLoaded => router.selectWeighted snapshot candidates
  else router.selectWeighted snapshot candidates

end

/-- Go through the tiers.  A tier with a backend that may have the article ends the
search even when all of these are suppressed. -/
def selectInTiers (router : BackendSelector) (snapshot : Snapshot)
    (availability : Option ArticleAvailability) (suppressed : SuppressedBackends) :
    List Nat → Option BackendInfo
  | [] => none
  | tier :: tiers =>
    match router.selectInTier snapshot availability suppressed tier with
    | some backend => some backend
    | none =>
      if availability.isSome && router.backends.any fun backend =>
          backend.tier == tier &&
            (availability.map (·.shouldTrySlot backend.availabilitySlot)).getD true then none
      else router.selectInTiers snapshot availability suppressed tiers

def selectBackend (router : BackendSelector) (snapshot : Snapshot)
    (availability : Option ArticleAvailability) (suppressed : SuppressedBackends) :
    Option BackendInfo :=
  router.selectInTiers snapshot availability suppressed router.sortedTiers

/-! ## The chosen backend -/

theorem atPosition_mem {position cumulative : Nat}
    (found : atPosition position cumulative candidates = some backend) : backend ∈ candidates := by
  induction candidates generalizing cumulative with
  | nil => simp [atPosition] at found
  | cons first rest ih =>
    rw [atPosition] at found
    split at found
    · rw [← Option.some.inj found]
      exact mem_cons_self
    · exact mem_cons_of_mem _ (ih found)

theorem selectByWeight_mem {counter : Nat}
    (selected : selectByWeight counter candidates = some backend) : backend ∈ candidates := by
  unfold selectByWeight at selected
  simp only at selected
  split at selected
  · cases selected
  · rcases Option.or_eq_some_iff.mp selected with found | ⟨-, first⟩
    · exact atPosition_mem found
    · exact mem_of_mem_head? first

theorem selectLeastLoaded_mem
    (selected : router.selectLeastLoaded snapshot candidates = some backend) :
    backend ∈ candidates := by
  -- the invariant of the search: it selected one of the backends it has looked at
  have invariant : ∀ (seen rest : List BackendInfo) (search : LeastLoaded),
      (∀ chosen, search.selected = some chosen → chosen ∈ seen) →
      ∀ chosen, (rest.foldl (LeastLoaded.step router snapshot.load) search).selected =
        some chosen → chosen ∈ seen ++ rest := by
    intro seen rest
    induction rest generalizing seen with
    | nil =>
      intro search holds chosen final
      rw [append_nil]
      exact holds chosen final
    | cons next rest ih =>
      intro search holds chosen final
      rw [append_cons]
      apply ih (seen ++ [next]) (LeastLoaded.step router snapshot.load search next) _ chosen final
      intro later laterEq
      rw [mem_append, mem_singleton]
      simp only [LeastLoaded.step] at laterEq
      split at laterEq
      · exact Or.inr (Option.some.inj laterEq).symm
      · simp only at laterEq
        split at laterEq
        · exact Or.inr (Option.some.inj laterEq).symm
        · exact Or.inl (holds later laterEq)
      · exact Or.inl (holds later laterEq)
  exact invariant [] candidates _ (by simp) backend selected

theorem selectWeighted_mem (selected : router.selectWeighted snapshot candidates = some backend) :
    backend ∈ candidates := by
  unfold selectWeighted at selected
  split at selected
  · exact selectByWeight_mem selected
  · exact selectLeastLoaded_mem selected

theorem selectInTier_mem {tier : Nat}
    (selected : router.selectInTier snapshot availability suppressed tier = some backend) :
    backend ∈ router.candidatesInTier snapshot availability suppressed tier := by
  simp only [selectInTier] at selected
  split at selected
  · split at selected
    · exact selectByWeight_mem selected
    · exact selectWeighted_mem selected
  · exact selectWeighted_mem selected

theorem mem_candidatesInTier {tier : Nat}
    (candidate : backend ∈ router.candidatesInTier snapshot availability suppressed tier) :
    backend ∈ router.backends ∧ backend.tier = tier ∧
      isAvailable availability suppressed backend = true := by
  simp only [candidatesInTier] at candidate
  have eligible : backend ∈ router.backends.filter fun backend =>
      backend.tier == tier && isAvailable availability suppressed backend := by
    split at candidate
    · exact mem_of_mem_filter candidate
    · exact candidate
  simpa using eligible

/-- A chosen backend belongs to the router, is not suppressed and is not known to miss
the article. -/
theorem selectBackend_isAvailable
    (selected : router.selectBackend snapshot availability suppressed = some backend) :
    backend ∈ router.backends ∧ isAvailable availability suppressed backend = true := by
  unfold selectBackend at selected
  generalize router.sortedTiers = tiers at selected
  induction tiers with
  | nil => simp [selectInTiers] at selected
  | cons tier tiers ih =>
    rw [selectInTiers] at selected
    split at selected
    · rename_i chosen found
      rw [← Option.some.inj selected]
      have candidate := mem_candidatesInTier (selectInTier_mem found)
      exact ⟨candidate.1, candidate.2.2⟩
    · split at selected
      · cases selected
      · exact ih selected

end BackendSelector

end NntpProxy.Router
