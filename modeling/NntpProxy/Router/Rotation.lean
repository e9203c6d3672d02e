import NntpProxy.Router.Selection

/-!
# Turns of the weighted round robin

The sessions of the proxy choose backends one tier at a time, and a choice by weight takes the
next value of a counter that all of them share.  First attempts for an article have a counter of
their own.  Whatever the counter starts at, as many choices as the backends have connections are
one turn: every backend is chosen once for each of its connections.
-/

namespace NntpProxy.Router

open Data

/-! ## Counters -/

/-- The two counters of a router. -/
inductive Counter where
  | weighted
  | initialArticleProbe
  deriving DecidableEq, Repr

abbrev Counters := Counter → UInt64

/-- What a session chooses a backend of a tier on. -/
structure TierCall where
  load : BackendId → Load
  tieBreaker : UInt64
  availability : Option ArticleAvailability
  suppressed : SuppressedBackends
  tier : Nat

/-- A choice by weight: the counter, the backends to choose from and the chosen one. -/
structure Selection where
  counter : Counter
  eligible : List BackendInfo
  chosen : Option BackendInfo
  deriving DecidableEq

def totalWeight (candidates : List BackendInfo) : Nat :=
  (candidates.map (·.maxSize)).sum

namespace TierCall

def snapshot (call : TierCall) (counters : Counters) : Snapshot where
  load := call.load
  weightedCounter := (counters .weighted).toNat
  initialArticleProbeCounter := (counters .initialArticleProbe).toNat
  tieBreaker := call.tieBreaker

/-- First attempts for an article are those in a tier where nothing is known to miss it. -/
def counter (call : TierCall) (router : BackendSelector) : Counter :=
  if (call.availability.map fun availability =>
      !router.availabilityMissingInTier availability call.tier).getD false then
    .initialArticleProbe
  else .weighted

end TierCall

variable {router : BackendSelector} {candidates : List BackendInfo} {backend : BackendInfo}

namespace BackendSelector

/-- The backends of a tier to choose from depend on the loads, and on no counter. -/
def eligibleFor (router : BackendSelector) (call : TierCall) : List BackendInfo :=
  router.candidatesInTier (call.snapshot fun _ => 0) call.availability call.suppressed call.tier

/-- Choose a backend of a tier.  A choice by weight among backends with connections takes the
next value of its counter, which wraps. -/
def selectInTierNext (router : BackendSelector) (counters : Counters) (call : TierCall) :
    Option BackendInfo × Counters :=
  let chosen := router.selectInTier (call.snapshot counters) call.availability call.suppressed
    call.tier
  if router.strategy = .weightedRoundRobin ∧ totalWeight (router.eligibleFor call) ≠ 0 then
    let counter := call.counter router
    (chosen, Function.update counters counter (counters counter + 1))
  else (chosen, counters)

/-- The choices of all sessions in the order in which they take values of the counters. -/
def selections (router : BackendSelector) : Counters → List TierCall → List Selection
  | _, [] => []
  | counters, call :: calls =>
    let next := router.selectInTierNext counters call
    ⟨call.counter router, router.eligibleFor call, next.1⟩ :: router.selections next.2 calls

theorem selectInTier_of_roundRobin (roundRobin : router.strategy = .weightedRoundRobin)
    (counters : Counters) (call : TierCall) :
    router.selectInTier (call.snapshot counters) call.availability call.suppressed call.tier =
      selectByWeight (counters (call.counter router)).toNat (router.eligibleFor call) := by
  simp only [selectInTier, selectWeighted, roundRobin, TierCall.counter]
  split
  · rfl
  · rfl

/-! ## One turn -/

theorem atPosition_add (offset position cumulative : Nat) (candidates : List BackendInfo) :
    atPosition (offset + position) (offset + cumulative) candidates =
      atPosition position cumulative candidates := by
  induction candidates generalizing cumulative with
  | nil => rfl
  | cons backend rest ih =>
    simp only [atPosition, Nat.add_assoc, Nat.add_lt_add_iff_left, ih]

theorem atPosition_of_lt {position : Nat} (inside : position < backend.maxSize)
    (rest : List BackendInfo) : atPosition position 0 (backend :: rest) = some backend := by
  rw [atPosition, Nat.zero_add, if_pos inside]

theorem atPosition_behind (backend : BackendInfo) (position : Nat) (rest : List BackendInfo) :
    atPosition (backend.maxSize + position) 0 (backend :: rest) = atPosition position 0 rest := by
  rw [atPosition, Nat.zero_add, if_neg (Nat.not_lt.mpr (Nat.le_add_right _ _))]
  exact atPosition_add backend.maxSize position 0 rest

theorem totalWeight_cons (backend : BackendInfo) (rest : List BackendInfo) :
    totalWeight (backend :: rest) = backend.maxSize + totalWeight rest :=
  List.sum_cons

theorem isSome_atPosition {position : Nat}
    (inside : position < totalWeight candidates) : (atPosition position 0 candidates).isSome := by
  induction candidates generalizing position with
  | nil => cases inside
  | cons backend rest ih =>
    rcases Nat.lt_or_ge position backend.maxSize with front | behind
    · rw [atPosition_of_lt front]
      rfl
    · obtain ⟨left, rfl⟩ := Nat.exists_eq_add_of_le behind
      rw [atPosition_behind]
      exact ih (Nat.lt_of_add_lt_add_left inside)

theorem count_atPosition (distinct : candidates.Nodup) (isCandidate : backend ∈ candidates) :
    Nat.count (fun position => atPosition position 0 candidates = some backend)
      (totalWeight candidates) = backend.maxSize := by
  induction candidates with
  | nil => cases isCandidate
  | cons first rest ih =>
    rcases List.nodup_cons.mp distinct with ⟨notAgain, distinctRest⟩
    rw [totalWeight_cons, Nat.count_add]
    simp only [atPosition_behind]
    by_cases isFirst : backend = first
    · have front : Nat.count (fun position =>
          atPosition position 0 (first :: rest) = some backend) first.maxSize = first.maxSize := by
        apply Nat.count_of_forall
        intro position inside
        rw [atPosition_of_lt inside, isFirst]
      have behind : Nat.count (fun position => atPosition position 0 rest = some backend)
          (totalWeight rest) = 0 := by
        apply Nat.count_of_forall_not
        intro position _ found
        exact notAgain (isFirst ▸ atPosition_mem found)
      rw [front, behind, isFirst, Nat.add_zero]
    · have front : Nat.count (fun position =>
          atPosition position 0 (first :: rest) = some backend) first.maxSize = 0 := by
        apply Nat.count_of_forall_not
        intro position inside found
        rw [atPosition_of_lt inside] at found
        exact isFirst (Option.some.inj found).symm
      have isRest : backend ∈ rest := (List.mem_cons.mp isCandidate).resolve_left isFirst
      rw [front, ih distinctRest isRest, Nat.zero_add]

theorem selectByWeight_eq_atPosition (weighs : totalWeight candidates ≠ 0) (counter : Nat) :
    selectByWeight counter candidates =
      atPosition (counter % totalWeight candidates) 0 candidates := by
  have inside : counter % totalWeight candidates < totalWeight candidates :=
    Nat.mod_lt counter (Nat.pos_of_ne_zero weighs)
  obtain ⟨backend, found⟩ := Option.isSome_iff_exists.mp (isSome_atPosition inside)
  rw [totalWeight] at weighs found
  rw [selectByWeight, totalWeight, if_neg weighs, found]
  rfl

theorem selectByWeight_add (counter : Nat) (candidates : List BackendInfo) :
    selectByWeight (totalWeight candidates + counter) candidates =
      selectByWeight counter candidates := by
  simp [selectByWeight, totalWeight]

/-- From any value of the counter on, one turn chooses a backend once for each connection. -/
theorem count_selectByWeight (distinct : candidates.Nodup) (isCandidate : backend ∈ candidates)
    (start : Nat) :
    Nat.count (fun turn => selectByWeight (start + turn) candidates = some backend)
      (totalWeight candidates) = backend.maxSize := by
  have firstTurn : Nat.count (fun turn => selectByWeight turn candidates = some backend)
      (totalWeight candidates) = backend.maxSize := by
    rw [← count_atPosition distinct isCandidate, Nat.count_eq_card_filter_range,
      Nat.count_eq_card_filter_range]
    congr 1
    apply Finset.filter_congr
    intro turn inside
    have positive := Finset.mem_range.mp inside
    rw [selectByWeight_eq_atPosition (Nat.ne_zero_of_lt positive), Nat.mod_eq_of_lt positive]
  -- counting up to the end of the turn is counting one turn, and then up to its start
  have upToEnd := Nat.count_add (fun turn => selectByWeight turn candidates = some backend)
    start (totalWeight candidates)
  rw [Nat.add_comm start, Nat.count_add] at upToEnd
  simp only [selectByWeight_add] at upToEnd
  omega

/-! ## Turns of the shared counters -/

theorem nodup_eligibleFor (router : BackendSelector) (call : TierCall) :
    (router.eligibleFor call).Nodup := by
  have distinct : router.backends.Nodup := router.nodup_ids.of_map
  unfold eligibleFor candidatesInTier
  simp only
  split
  · exact (distinct.filter _).filter _
  · exact distinct.filter _

theorem selectInTierNext_eq (roundRobin : router.strategy = .weightedRoundRobin)
    (counters : Counters) (call : TierCall) (weighs : totalWeight (router.eligibleFor call) ≠ 0) :
    router.selectInTierNext counters call =
      (selectByWeight (counters (call.counter router)).toNat (router.eligibleFor call),
        Function.update counters (call.counter router)
          (counters (call.counter router) + 1)) := by
  rw [selectInTierNext, if_pos ⟨roundRobin, weighs⟩, selectInTier_of_roundRobin roundRobin]

theorem selectInTierNext_other (router : BackendSelector) (counters : Counters) {call : TierCall}
    {counter : Counter} (other : call.counter router ≠ counter) :
    (router.selectInTierNext counters call).2 counter = counters counter := by
  unfold selectInTierNext
  split
  · exact Function.update_of_ne other.symm _ _
  · rfl

/-- The choices through one counter. -/
def through (counter : Counter) (selections : List Selection) : List Selection :=
  selections.filter (·.counter == counter)

theorem through_selections_cons_of_ne {call : TierCall} {counter : Counter}
    (other : call.counter router ≠ counter) (counters : Counters) (calls : List TierCall) :
    through counter (router.selections counters (call :: calls)) =
      through counter (router.selections (router.selectInTierNext counters call).2 calls) := by
  rw [selections, through, List.filter_cons_of_neg]
  · rfl
  · simpa using other

theorem through_selections_cons (router : BackendSelector) (call : TierCall) (counters : Counters)
    (calls : List TierCall) :
    through (call.counter router) (router.selections counters (call :: calls)) =
      ⟨call.counter router, router.eligibleFor call,
        (router.selectInTierNext counters call).1⟩ ::
          through (call.counter router)
            (router.selections (router.selectInTierNext counters call).2 calls) := by
  rw [selections, through, List.filter_cons_of_pos]
  · rfl
  · simp

/-- Through a counter that does not wrap, the choices among the same backends are those of the
values behind its first one, whatever is chosen through the other counter in between. -/
theorem chosen_through (roundRobin : router.strategy = .weightedRoundRobin) {counters : Counters}
    {calls : List TierCall} {counter : Counter} {eligible : List BackendInfo}
    (weighs : totalWeight eligible ≠ 0)
    (unchanged : ∀ selection ∈ through counter (router.selections counters calls),
      selection.eligible = eligible) (noWrap : (counters counter).toNat +
      (through counter (router.selections counters calls)).length < 2 ^ 64) :
    (through counter (router.selections counters calls)).map (·.chosen) =
      (List.range (through counter (router.selections counters calls)).length).map fun turn =>
        selectByWeight ((counters counter).toNat + turn) eligible := by
  induction calls generalizing counters with
  | nil => rfl
  | cons call calls ih =>
    by_cases other : call.counter router = counter
    · subst other
      rw [through_selections_cons] at unchanged noWrap ⊢
      rw [List.forall_mem_cons] at unchanged
      rcases unchanged with ⟨rfl, unchangedRest⟩
      simp only [selectInTierNext_eq roundRobin counters call weighs] at unchangedRest noWrap ⊢
      rw [List.length_cons] at noWrap ⊢
      have advanced : (counters (call.counter router) + 1).toNat =
          (counters (call.counter router)).toNat + 1 := by
        rw [UInt64.toNat_add]
        simp only [UInt64.toNat_one]
        omega
      have rest := ih unchangedRest (by rw [Function.update_self]; omega)
      rw [Function.update_self, advanced] at rest
      rw [List.map_cons, rest, List.range_succ_eq_map, List.map_cons, List.map_map]
      simp only [Function.comp_def, Nat.add_zero, Nat.succ_eq_add_one, Nat.add_assoc,
        Nat.add_comm 1]
    · rw [through_selections_cons_of_ne other] at unchanged noWrap ⊢
      rw [← router.selectInTierNext_other counters other] at noWrap ⊢
      exact ih unchanged noWrap

theorem nodup_of_mem_selections {counters : Counters} {calls : List TierCall}
    {selection : Selection}
    (isSelection : selection ∈ router.selections counters calls) : selection.eligible.Nodup := by
  induction calls generalizing counters with
  | nil => cases isSelection
  | cons call calls ih =>
    rcases List.mem_cons.mp isSelection with rfl | later
    · exact router.nodup_eligibleFor call
    · exact ih later

theorem maxSize_le_totalWeight
    (isCandidate : backend ∈ candidates) : backend.maxSize ≤ totalWeight candidates := by
  obtain ⟨front, back, rfl⟩ := List.append_of_mem isCandidate
  simp only [totalWeight, List.map_append, List.map_cons, List.sum_append, List.sum_cons]
  omega

/-- As many choices through a counter as the eligible backends have connections choose each of
them once for each of its connections. -/
theorem count_chosen_of_turn {router : BackendSelector}
    (roundRobin : router.strategy = .weightedRoundRobin) {counters : Counters}
    {calls : List TierCall} {counter : Counter} {eligible : List BackendInfo}
    (unchanged : ∀ selection ∈ through counter (router.selections counters calls),
      selection.eligible = eligible)
    (turn : (through counter (router.selections counters calls)).length = totalWeight eligible)
    (noWrap : (counters counter).toNat + totalWeight eligible < 2 ^ 64)
    {backend : BackendInfo} (isEligible : backend ∈ eligible) :
    ((through counter (router.selections counters calls)).map (·.chosen)).count (some backend) =
      backend.maxSize := by
  cases selectionsEq : through counter (router.selections counters calls) with
  | nil =>
    rw [selectionsEq] at turn
    have part := maxSize_le_totalWeight isEligible
    rw [← turn] at part
    exact (Nat.eq_zero_of_le_zero part).symm
  | cons first rest =>
    have isFirst : first ∈ through counter (router.selections counters calls) := by
      rw [selectionsEq]
      exact List.mem_cons_self
    have distinct : eligible.Nodup := by
      rw [← unchanged first isFirst]
      exact nodup_of_mem_selections (List.mem_of_mem_filter isFirst)
    have weighs : totalWeight eligible ≠ 0 := by
      rw [← turn, selectionsEq]
      exact Nat.succ_ne_zero _
    rw [← selectionsEq, chosen_through roundRobin weighs unchanged (turn.symm ▸ noWrap), turn,
      ← count_selectByWeight distinct isEligible (counters counter).toNat, Nat.count, List.count,
      List.countP_map]
    simp only [Function.comp_def, beq_eq_decide]

/-- Two backends of one tier, with two connections and with one. -/
def twoBackends : BackendSelector :=
  ((withStrategy .weightedRoundRobin ⟨false, 0, 0⟩).addBackendWithSlot 0 2 false 0
    maxBackends_pos).addBackendWithSlot 0 1 false 1 (by decide)

/-- A choice in the only tier, for a request without an article. -/
def anyBackend : TierCall where
  load := fun _ => ⟨⟨0, 0, 0, 0⟩, 0⟩
  tieBreaker := 0
  availability := none
  suppressed := .empty
  tier := 0

/-- Three choices from the middle of a turn on. -/
theorem count_chosen_twoBackends :
    ((through .weighted (twoBackends.selections (fun _ => 7)
        [anyBackend, anyBackend, anyBackend])).map (·.chosen)).count
      (some ⟨0, 0, 0, 2, false⟩) = 2 := by
  have unchanged : ∀ selection ∈ through .weighted (twoBackends.selections (fun _ => 7)
      [anyBackend, anyBackend, anyBackend]), selection.eligible = twoBackends.backends := by
    decide +kernel
  exact count_chosen_of_turn rfl unchanged (by decide +kernel) (by decide +kernel)
    (by decide +kernel)

end BackendSelector

end NntpProxy.Router
