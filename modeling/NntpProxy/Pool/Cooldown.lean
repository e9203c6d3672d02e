import NntpProxy.Data.Interleaving

/-!
# Cooldowns of a connection pool

When a broken connection is removed, the maximum of its pool is reduced for a while.  A counter has
the number of active cooldowns; a removal and the end of a cooldown first update the counter and
then set the maximum from the value they saw, and clearing the idle connections sets it from a
value that was loaded before.  Between the two steps the value can become stale.  The bounds on the
maximum are kept when these operations do not overlap; with an overlap, and a pool large enough to
be reduced, they are lost.
-/

namespace NntpProxy.Pool

open Data.Interleaving List System

/-! ## Atomic steps -/

/-- The original size of a pool, and whether removed connections have a cooldown. -/
structure CooldownSettings where
  originalMaxSize : Nat
  hasCooldown : Bool
  deriving DecidableEq, Repr

/-- The counter, the maximum, and every value that was set as the maximum for longer than a
moment. -/
structure PoolLimits where
  activeCooldowns : Nat
  maxSize : Nat
  settled : List Nat
  deriving DecidableEq, Repr

/-- Where an operation is between two atomic steps. -/
inductive CooldownTask where
  /-- `remove_with_cooldown` is called. -/
  | removing
  /-- The pool is not shutting down and has a cooldown. -/
  | checking
  /-- Saw a number of active cooldowns. -/
  | sawCooldowns (current : Nat)
  /-- Counted its cooldown, and is about to set the maximum. -/
  | reducing (newMax : Nat)
  /-- The operation is over and the cooldown is active. -/
  | cooling
  /-- The cooldown ended with others remaining. -/
  | restoring (remaining : Nat)
  /-- `clear_idle_connections` is called. -/
  | clearing
  /-- There are idle connections. -/
  | loading
  /-- Has computed the maximum, and is about to set it to zero. -/
  | zeroing (targetMax : Nat)
  /-- Has set the maximum to zero. -/
  | settling (targetMax : Nat)
  deriving DecidableEq, Repr

/-- What an operation finds: whether the pool is shutting down, and whether a connection is idle. -/
structure CooldownChoice where
  isShuttingDown : Bool
  hasIdle : Bool
  deriving DecidableEq, Repr

namespace PoolLimits

/-- The maximum for a number of cooldowns, as removals and clearing compute it. -/
def reducedMax (settings : CooldownSettings) (cooldowns : Nat) : Nat :=
  max (settings.originalMaxSize - cooldowns) 1

def resize (limits : PoolLimits) (maxSize : Nat) : PoolLimits :=
  { limits with maxSize := maxSize, settled := maxSize :: limits.settled }

/-- Set the maximum to zero to drop the idle connections. -/
def dropIdle (limits : PoolLimits) : PoolLimits :=
  { limits with maxSize := 0 }

end PoolLimits

open PoolLimits

def stepCooldown (settings : CooldownSettings) (limits : PoolLimits) :
    CooldownTask → CooldownChoice → Option (PoolLimits × Option CooldownTask)
  | .removing, choice =>
    if choice.isShuttingDown ∨ ¬ settings.hasCooldown then some (limits, none)
    else some (limits, some .checking)
  | .checking, _ => some (limits, some (.sawCooldowns limits.activeCooldowns))
  | .sawCooldowns current, _ =>
    if settings.originalMaxSize / 2 ≤ current then some (limits, none)
    else
      let cooldowns := limits.activeCooldowns + 1
      some ({ limits with activeCooldowns := cooldowns },
        some (.reducing (reducedMax settings cooldowns)))
  | .reducing newMax, _ => some (limits.resize newMax, some .cooling)
  | .cooling, _ =>
    let remaining := limits.activeCooldowns - 1
    some ({ limits with activeCooldowns := remaining }, some (.restoring remaining))
  | .restoring remaining, _ => some (limits.resize (settings.originalMaxSize - remaining), none)
  | .clearing, choice =>
    -- a pool of size zero has no connections
    if choice.hasIdle ∧ 0 < settings.originalMaxSize then some (limits, some .loading)
    else some (limits, none)
  | .loading, _ => some (limits, some (.zeroing (reducedMax settings limits.activeCooldowns)))
  | .zeroing targetMax, _ => some (limits.dropIdle, some (.settling targetMax))
  | .settling targetMax, _ => some (limits.resize targetMax, none)

/-- Removals and clearing may start at any time. -/
def cooldownProtocol (settings : CooldownSettings) :
    Protocol PoolLimits CooldownTask CooldownChoice where
  starts
    | .removing | .clearing => true
    | _ => false
  step := stepCooldown settings

def fullPool (settings : CooldownSettings) : System PoolLimits CooldownTask :=
  ⟨⟨0, settings.originalMaxSize, []⟩, []⟩

namespace CooldownTask

/-- Every task but an active cooldown is an operation in progress. -/
def inProgress : CooldownTask → Bool
  | cooling => false
  | _ => true

/-- The cooldowns of a task that the counter includes. -/
def counted : CooldownTask → Nat
  | reducing _ | cooling => 1
  | _ => 0

end CooldownTask

/-- At most `overlap` operations are in progress. -/
def overlapsAtMost (overlap : Nat) (system : System PoolLimits CooldownTask) : Bool :=
  decide (system.tasks.countP CooldownTask.inProgress ≤ overlap)

/-- The maximum was never set below the original size less a half of it, and it is the original
size when no operation is in progress and no cooldown is active. -/
def LimitsKept (settings : CooldownSettings) (system : System PoolLimits CooldownTask) : Prop :=
  (∀ maxSize ∈ system.shared.settled,
      settings.originalMaxSize - settings.originalMaxSize / 2 ≤ maxSize) ∧
    (system.tasks = [] → system.shared.maxSize = settings.originalMaxSize)

/-! ## The counter -/

variable {settings : CooldownSettings} {task : CooldownTask} {limits after : PoolLimits}
    {choice : CooldownChoice}

theorem stepCooldown_counted {rest : Option CooldownTask}
    (stepped : stepCooldown settings limits task choice = some (after, rest))
    (counts : task.counted ≤ limits.activeCooldowns) :
    after.activeCooldowns + task.counted =
      limits.activeCooldowns + total CooldownTask.counted rest.toList := by
  cases task with
  | removing =>
    simp only [stepCooldown] at stepped
    split at stepped <;> cases stepped <;> rfl
  | checking =>
    cases stepped
    rfl
  | sawCooldowns current =>
    simp only [stepCooldown] at stepped
    split at stepped <;> cases stepped <;> rfl
  | reducing newMax =>
    cases stepped
    rfl
  | cooling =>
    cases stepped
    exact Nat.sub_add_cancel counts
  | restoring remaining =>
    cases stepped
    rfl
  | clearing =>
    simp only [stepCooldown] at stepped
    split at stepped <;> cases stepped <;> rfl
  | loading =>
    cases stepped
    rfl
  | zeroing targetMax =>
    cases stepped
    rfl
  | settling targetMax =>
    cases stepped
    rfl

/-! ## Pools that are never reduced -/

/-- The steps that a task can reach when no cooldown begins. -/
def CooldownTask.Unreduced (settings : CooldownSettings) : CooldownTask → Prop
  | removing | clearing => True
  | loading => 0 < settings.originalMaxSize
  | checking | sawCooldowns _ => settings.originalMaxSize ≤ 1
  | zeroing targetMax | settling targetMax => targetMax = settings.originalMaxSize
  | reducing _ | cooling | restoring _ => False

/-- No cooldown has begun, and the maximum is the original size unless a task is about to set it
so. -/
structure Unreduced (settings : CooldownSettings) (system : System PoolLimits CooldownTask) :
    Prop where
  activeCooldowns : system.shared.activeCooldowns = 0
  settled : ∀ maxSize ∈ system.shared.settled, maxSize = settings.originalMaxSize
  maxSize : system.shared.maxSize = settings.originalMaxSize ∨
    ∃ targetMax, .settling targetMax ∈ system.tasks
  tasks : ∀ task ∈ system.tasks, task.Unreduced settings

/-- What a step can do to the maximum of a pool that is not reduced. -/
inductive UnreducedStep (settings : CooldownSettings) (limits : PoolLimits) (task : CooldownTask) :
    PoolLimits → Option CooldownTask → Prop where
  | keep {rest} (other : ∀ targetMax, task ≠ .settling targetMax)
      (reached : ∀ next ∈ rest, next.Unreduced settings) :
      UnreducedStep settings limits task limits rest
  | dropIdle : UnreducedStep settings limits task limits.dropIdle
      (some (.settling settings.originalMaxSize))
  | settle : UnreducedStep settings limits task (limits.resize settings.originalMaxSize) none

theorem stepCooldown_unreduced (never : settings.originalMaxSize ≤ 1 ∨ settings.hasCooldown = false)
    {rest : Option CooldownTask}
    (stepped : stepCooldown settings limits task choice = some (after, rest))
    (none : limits.activeCooldowns = 0) (unreduced : task.Unreduced settings) :
    UnreducedStep settings limits task after rest := by
  cases task with
  | removing =>
    simp only [stepCooldown] at stepped
    split at stepped
    next =>
      cases stepped
      exact .keep (by simp) (by simp)
    next proceeds =>
      cases stepped
      refine .keep (by simp) ?_
      rintro next ⟨⟩
      rcases never with small | disabled
      · exact small
      · exact absurd (Or.inr (by simp [disabled])) proceeds
  | checking =>
    cases stepped
    refine .keep (by simp) ?_
    rintro next ⟨⟩
    exact unreduced
  | sawCooldowns current =>
    -- half of a pool of at most one connection is nothing
    have half : settings.originalMaxSize / 2 ≤ current := by
      have small : settings.originalMaxSize ≤ 1 := unreduced
      omega
    simp only [stepCooldown, if_pos half] at stepped
    cases stepped
    exact .keep (by simp) (by simp)
  | reducing newMax => exact unreduced.elim
  | cooling => exact unreduced.elim
  | restoring remaining => exact unreduced.elim
  | clearing =>
    simp only [stepCooldown] at stepped
    split at stepped
    next found =>
      cases stepped
      refine .keep (by simp) ?_
      rintro next ⟨⟩
      exact found.2
    next =>
      cases stepped
      exact .keep (by simp) (by simp)
  | loading =>
    cases stepped
    refine .keep (by simp) ?_
    rintro next ⟨⟩
    have positive : 0 < settings.originalMaxSize := unreduced
    simp only [CooldownTask.Unreduced, reducedMax]
    omega
  | zeroing targetMax =>
    cases stepped
    obtain rfl : targetMax = settings.originalMaxSize := unreduced
    exact .dropIdle
  | settling targetMax =>
    cases stepped
    obtain rfl : targetMax = settings.originalMaxSize := unreduced
    exact .settle

variable {front back : List CooldownTask}

theorem Unreduced.step {rest : Option CooldownTask}
    (unreduced : Unreduced settings ⟨limits, front ++ task :: back⟩)
    (stepped : UnreducedStep settings limits task after rest) :
    Unreduced settings ⟨after, front ++ rest.toList ++ back⟩ := by
  have others : ∀ other ∈ front ++ back, other.Unreduced settings :=
    forall_others unreduced.tasks
  cases stepped with
  | keep other reached =>
    constructor
    · exact unreduced.activeCooldowns
    · exact unreduced.settled
    · rcases unreduced.maxSize with full | ⟨targetMax, isTask⟩
      · exact Or.inl full
      · right
        refine ⟨targetMax, ?_⟩
        simp only [mem_append, mem_cons] at isTask ⊢
        rcases isTask with isFront | isThis | isBack
        · exact Or.inl (Or.inl isFront)
        · exact absurd isThis.symm (other targetMax)
        · exact Or.inr isBack
    · exact forall_of_others others reached
  | dropIdle =>
    constructor
    · exact unreduced.activeCooldowns
    · exact unreduced.settled
    · right
      exact ⟨settings.originalMaxSize, by simp⟩
    · apply forall_of_others others
      rintro next ⟨⟩
      rfl
  | settle =>
    constructor
    · exact unreduced.activeCooldowns
    · intro maxSize isSettled
      rcases mem_cons.mp isSettled with isNew | isOld
      · exact isNew
      · exact unreduced.settled maxSize isOld
    · exact Or.inl rfl
    · apply forall_of_others others
      rintro next ⟨⟩

variable {system : System PoolLimits CooldownTask}

theorem Unreduced.limitsKept (unreduced : Unreduced settings system) :
    LimitsKept settings system := by
  constructor
  · intro maxSize isSettled
    rw [unreduced.settled maxSize isSettled]
    exact Nat.sub_le _ _
  · intro noTasks
    rcases unreduced.maxSize with full | ⟨targetMax, isTask⟩
    · exact full
    · rw [noTasks] at isTask
      cases isTask

variable {moves : List (Move CooldownTask CooldownChoice)}

theorem limitsKept_of_never (never : settings.originalMaxSize ≤ 1 ∨ settings.hasCooldown = false)
    {allowed : System PoolLimits CooldownTask → Bool} (isAllowed : allowed (fullPool settings))
    (ran : (cooldownProtocol settings).runWithin allowed (fullPool settings) moves = some system) :
    LimitsKept settings system := by
  apply Unreduced.limitsKept
  apply Protocol.runWithin_invariant _ _ ran isAllowed
  · exact ⟨rfl, by simp [fullPool], Or.inl rfl, by simp [fullPool]⟩
  · intro limits tasks task starts _ unreduced
    have startable : task.Unreduced settings := by
      cases task with
      | removing => trivial
      | clearing => trivial
      | _ => cases starts
    constructor
    · exact unreduced.activeCooldowns
    · exact unreduced.settled
    · rcases unreduced.maxSize with full | ⟨targetMax, isTask⟩
      · exact Or.inl full
      · exact Or.inr ⟨targetMax, mem_append_left _ isTask⟩
    · rw [forall_mem_append, forall_mem_singleton]
      exact ⟨unreduced.tasks, startable⟩
  · intro limits front task back choice after rest stepped _ _ unreduced
    have isTask : task ∈ front ++ task :: back := mem_append_right _ mem_cons_self
    exact unreduced.step (stepCooldown_unreduced never stepped unreduced.activeCooldowns
      (unreduced.tasks task isTask))

/-! ## Operations one after the other -/

/-- What a task relies on while no other operation is in progress. -/
def CooldownTask.Alone (settings : CooldownSettings) (limits : PoolLimits) : CooldownTask → Prop
  | removing | checking | clearing =>
    limits.maxSize = settings.originalMaxSize - limits.activeCooldowns
  | loading =>
    0 < settings.originalMaxSize ∧
      limits.maxSize = settings.originalMaxSize - limits.activeCooldowns
  | sawCooldowns current =>
    current = limits.activeCooldowns ∧
      limits.maxSize = settings.originalMaxSize - limits.activeCooldowns
  | reducing newMax => newMax = settings.originalMaxSize - limits.activeCooldowns
  | cooling => True
  | restoring remaining => remaining = limits.activeCooldowns
  | zeroing targetMax | settling targetMax =>
    targetMax = settings.originalMaxSize - limits.activeCooldowns

/-- The invariant of runs without overlap. -/
structure Sequential (settings : CooldownSettings) (system : System PoolLimits CooldownTask) :
    Prop where
  counted : system.shared.activeCooldowns = total CooldownTask.counted system.tasks
  half : system.shared.activeCooldowns ≤ settings.originalMaxSize / 2
  settled : ∀ maxSize ∈ system.shared.settled,
    settings.originalMaxSize - settings.originalMaxSize / 2 ≤ maxSize
  tasks : ∀ task ∈ system.tasks, task.Alone settings system.shared
  idle : (∀ task ∈ system.tasks, task = .cooling) →
    system.shared.maxSize = settings.originalMaxSize - system.shared.activeCooldowns

/-- What a step without overlap leaves behind. -/
structure SequentialStep (settings : CooldownSettings) (after : PoolLimits)
    (rest : Option CooldownTask) : Prop where
  half : after.activeCooldowns ≤ settings.originalMaxSize / 2
  settled : ∀ maxSize ∈ after.settled,
    settings.originalMaxSize - settings.originalMaxSize / 2 ≤ maxSize
  reached : ∀ next ∈ rest, next.Alone settings after
  idle : (∀ next ∈ rest, next = .cooling) →
    after.maxSize = settings.originalMaxSize - after.activeCooldowns

namespace SequentialStep

variable {settings : CooldownSettings} {limits : PoolLimits}

/-- An operation goes on. -/
theorem goOn {next : CooldownTask} (half : limits.activeCooldowns ≤ settings.originalMaxSize / 2)
    (settled : ∀ maxSize ∈ limits.settled,
      settings.originalMaxSize - settings.originalMaxSize / 2 ≤ maxSize)
    (alone : next.Alone settings limits) (inProgress : next ≠ .cooling) :
    SequentialStep settings limits (some next) where
  half := half
  settled := settled
  reached := by
    rintro other ⟨⟩
    exact alone
  idle := fun cooling => absurd (cooling next rfl) inProgress

/-- An operation ends without a change. -/
theorem finish (half : limits.activeCooldowns ≤ settings.originalMaxSize / 2)
    (settled : ∀ maxSize ∈ limits.settled,
      settings.originalMaxSize - settings.originalMaxSize / 2 ≤ maxSize)
    (maxSize : limits.maxSize = settings.originalMaxSize - limits.activeCooldowns) :
    SequentialStep settings limits none where
  half := half
  settled := settled
  reached := by
    rintro other ⟨⟩
  idle := fun _ => maxSize

theorem resize {maxSize : Nat} {rest : Option CooldownTask}
    (half : limits.activeCooldowns ≤ settings.originalMaxSize / 2)
    (settled : ∀ maxSize ∈ limits.settled,
      settings.originalMaxSize - settings.originalMaxSize / 2 ≤ maxSize)
    (current : maxSize = settings.originalMaxSize - limits.activeCooldowns)
    (cooling : ∀ next ∈ rest, next = .cooling) :
    SequentialStep settings (limits.resize maxSize) rest where
  half := half
  settled := by
    intro other isSettled
    rcases mem_cons.mp isSettled with isNew | isOld
    · rw [isNew, current]
      omega
    · exact settled other isOld
  reached := by
    intro next isNext
    rw [cooling next isNext]
    trivial
  idle := fun _ => current

end SequentialStep

theorem stepCooldown_sequential {rest : Option CooldownTask}
    (stepped : stepCooldown settings limits task choice = some (after, rest))
    (half : limits.activeCooldowns ≤ settings.originalMaxSize / 2)
    (settled : ∀ maxSize ∈ limits.settled,
      settings.originalMaxSize - settings.originalMaxSize / 2 ≤ maxSize)
    (alone : task.Alone settings limits) : SequentialStep settings after rest := by
  cases task with
  | removing =>
    simp only [stepCooldown] at stepped
    split at stepped
    · cases stepped
      exact .finish half settled alone
    · cases stepped
      exact .goOn half settled alone (by simp)
  | checking =>
    cases stepped
    exact .goOn half settled ⟨rfl, alone⟩ (by simp)
  | sawCooldowns current =>
    obtain ⟨isCurrent, maxSize⟩ := alone
    simp only [stepCooldown] at stepped
    split at stepped
    next =>
      cases stepped
      exact .finish half settled maxSize
    next below =>
      -- the value is not stale, so the counter stays within a half
      cases stepped
      refine .goOn ?_ settled ?_ (by simp)
      · simp only
        omega
      · simp only [CooldownTask.Alone, reducedMax]
        omega
  | reducing newMax =>
    cases stepped
    refine .resize half settled alone ?_
    rintro next ⟨⟩
    rfl
  | cooling =>
    cases stepped
    exact .goOn (Nat.le_trans (Nat.sub_le _ _) half) settled rfl (by simp)
  | restoring remaining =>
    cases stepped
    refine .resize half settled (congrArg (settings.originalMaxSize - ·) alone) ?_
    rintro next ⟨⟩
  | clearing =>
    simp only [stepCooldown] at stepped
    split at stepped
    next found =>
      cases stepped
      exact .goOn half settled ⟨found.2, alone⟩ (by simp)
    next =>
      cases stepped
      exact .finish half settled alone
  | loading =>
    cases stepped
    obtain ⟨positive, maxSize⟩ := alone
    refine .goOn half settled ?_ (by simp)
    simp only [CooldownTask.Alone, reducedMax]
    omega
  | zeroing targetMax =>
    cases stepped
    exact .goOn half settled alone (by simp)
  | settling targetMax =>
    cases stepped
    refine .resize half settled alone ?_
    rintro next ⟨⟩

theorem CooldownTask.eq_cooling (idle : ¬ task.inProgress = true) : task = .cooling := by
  cases task with
  | cooling => rfl
  | _ => exact absurd rfl idle

variable {overlap : Nat}

theorem others_cooling (single : overlap ≤ 1)
    (allowed : overlapsAtMost overlap ⟨limits, front ++ task :: back⟩ = true)
    (inProgress : task.inProgress = true) : ∀ other ∈ front ++ back, other = .cooling := by
  have bound := of_decide_eq_true allowed
  rw [countP_append, countP_cons_of_pos inProgress] at bound
  have none : (front ++ back).countP CooldownTask.inProgress = 0 := by
    rw [countP_append]
    omega
  intro other isOther
  exact CooldownTask.eq_cooling (countP_eq_zero.mp none other isOther)

theorem Sequential.step {rest : Option CooldownTask}
    (sequential : Sequential settings ⟨limits, front ++ task :: back⟩)
    (stepped : stepCooldown settings limits task choice = some (after, rest))
    (others : ∀ other ∈ front ++ back, other = .cooling) :
    Sequential settings ⟨after, front ++ rest.toList ++ back⟩ := by
  have alone := sequential.tasks task (mem_append_right _ mem_cons_self)
  have result := stepCooldown_sequential stepped sequential.half sequential.settled alone
  have counted := sequential.counted
  simp only [total_append, total_cons] at counted
  have moved := stepCooldown_counted stepped (by omega)
  constructor
  · simp only [total_append]
    omega
  · exact result.half
  · exact result.settled
  · apply forall_of_others _ result.reached
    intro other isOther
    rw [others other isOther]
    trivial
  · intro cooling
    apply result.idle
    intro next isNext
    apply cooling next
    simp [Option.mem_def.mp isNext]

theorem limitsKept_of_sequential (single : overlap ≤ 1)
    (ran : (cooldownProtocol settings).runWithin (overlapsAtMost overlap) (fullPool settings)
      moves = some system) : LimitsKept settings system := by
  have sequential : Sequential settings system := by
    apply Protocol.runWithin_invariant _ _ ran (by simp [overlapsAtMost, fullPool])
    · exact ⟨rfl, Nat.zero_le _, by simp [fullPool], by simp [fullPool], fun _ => rfl⟩
    · intro limits tasks task starts allowed sequential
      have inProgress : task.inProgress = true := by
        cases task with
        | cooling => cases starts
        | _ => rfl
      have cooling := others_cooling single allowed inProgress
      rw [append_nil] at cooling
      have maxSize := sequential.idle cooling
      have startable : task.Alone settings limits ∧ task.counted = 0 := by
        cases task with
        | removing => exact ⟨maxSize, rfl⟩
        | clearing => exact ⟨maxSize, rfl⟩
        | _ => cases starts
      constructor
      · simpa [startable.2] using sequential.counted
      · exact sequential.half
      · exact sequential.settled
      · rw [forall_mem_append, forall_mem_singleton]
        exact ⟨sequential.tasks, startable.1⟩
      · intro _
        exact maxSize
    · intro limits front task back choice after rest stepped allowed allowedAfter sequential
      apply sequential.step stepped
      by_cases inProgress : task.inProgress = true
      · exact others_cooling single allowed inProgress
      · -- a cooldown that ends becomes an operation in progress
        obtain rfl := CooldownTask.eq_cooling inProgress
        cases stepped
        simp only [append_assoc] at allowedAfter
        exact others_cooling single allowedAfter rfl
  constructor
  · exact sequential.settled
  · intro noTasks
    have maxSize := sequential.idle (by simp [noTasks])
    rw [sequential.counted, noTasks] at maxSize
    exact maxSize

/-! ## Overlapping operations -/

/-- A removal, and a clearing that has computed the maximum when the cooldown ends. -/
def staleClearing : List (Move CooldownTask CooldownChoice) :=
  [.start .removing, .step 0 ⟨false, true⟩, .step 0 ⟨false, true⟩, .step 0 ⟨false, true⟩,
    .step 0 ⟨false, true⟩, .start .clearing, .step 1 ⟨false, true⟩, .step 1 ⟨false, true⟩,
    .step 0 ⟨false, true⟩, .step 0 ⟨false, true⟩, .step 0 ⟨false, true⟩, .step 0 ⟨false, true⟩]

/-- The maximum of a pool that can be reduced stays reduced for ever. -/
theorem staleClearing_run (reducible : 2 ≤ settings.originalMaxSize)
    (enabled : settings.hasCooldown = true) (overlapping : 2 ≤ overlap) :
    ∃ settled, (cooldownProtocol settings).runWithin (overlapsAtMost overlap) (fullPool settings)
      staleClearing = some ⟨⟨0, settings.originalMaxSize - 1, settled⟩, []⟩ := by
  have go : ∀ {system after : System PoolLimits CooldownTask} {move moves},
      (cooldownProtocol settings).next system move = some after →
      after.tasks.countP CooldownTask.inProgress ≤ 2 →
      (cooldownProtocol settings).runWithin (overlapsAtMost overlap) system (move :: moves) =
        (cooldownProtocol settings).runWithin (overlapsAtMost overlap) after moves := by
    intro system after move moves moved few
    exact Protocol.runWithin_cons moved (decide_eq_true (Nat.le_trans few overlapping)) moves
  have reduced : reducedMax settings 1 = settings.originalMaxSize - 1 := by
    unfold reducedMax
    omega
  -- the three steps that depend on the settings and on what the operations find
  have proceeds : ∀ limits, stepCooldown settings limits .removing ⟨false, true⟩ =
      some (limits, some .checking) := by
    intro limits
    simp [stepCooldown, enabled]
  have counts : ∀ maxSize settled, stepCooldown settings ⟨0, maxSize, settled⟩ (.sawCooldowns 0)
      ⟨false, true⟩ = some (⟨1, maxSize, settled⟩, some (.reducing (reducedMax settings 1))) := by
    intro maxSize settled
    exact if_neg (by omega)
  have finds : ∀ limits, stepCooldown settings limits .clearing ⟨false, true⟩ =
      some (limits, some .loading) := by
    intro limits
    exact if_pos ⟨rfl, by omega⟩
  have single : ∀ {limits after task rest choice},
      stepCooldown settings limits task choice = some (after, some rest) →
      (cooldownProtocol settings).next ⟨limits, [task]⟩ (.step 0 choice) =
        some ⟨after, [rest]⟩ := by
    intro limits after task rest choice stepped
    exact congrArg (Option.map _) stepped
  have second : ∀ {limits after first task rest choice},
      stepCooldown settings limits task choice = some (after, some rest) →
      (cooldownProtocol settings).next ⟨limits, [first, task]⟩ (.step 1 choice) =
        some ⟨after, [first, rest]⟩ := by
    intro limits after first task rest choice stepped
    exact congrArg (Option.map _) stepped
  refine ⟨[settings.originalMaxSize - 1, settings.originalMaxSize,
    settings.originalMaxSize - 1], ?_⟩
  rw [← reduced]
  refine (go rfl (Nat.le_of_ble_eq_true rfl)).trans ?_
  refine (go (single (proceeds _)) (Nat.le_of_ble_eq_true rfl)).trans ?_
  refine (go (single rfl) (Nat.le_of_ble_eq_true rfl)).trans ?_
  refine (go (single (counts _ _)) (Nat.le_of_ble_eq_true rfl)).trans ?_
  refine (go (single rfl) (Nat.le_of_ble_eq_true rfl)).trans ?_
  refine (go rfl (Nat.le_of_ble_eq_true rfl)).trans ?_
  refine (go (second (finds _)) (Nat.le_of_ble_eq_true rfl)).trans ?_
  refine (go (second rfl) (Nat.le_of_ble_eq_true rfl)).trans ?_
  refine (go rfl (Nat.le_of_ble_eq_true rfl)).trans ?_
  refine (go rfl (Nat.le_of_ble_eq_true rfl)).trans ?_
  refine (go (single rfl) (Nat.le_of_ble_eq_true rfl)).trans ?_
  refine (go rfl (Nat.le_of_ble_eq_true rfl)).trans ?_
  rfl

/-- The limits are kept in all interleavings with a given overlap exactly when the pool is too
small to be reduced, has no cooldown, or runs one operation at a time. -/
theorem limitsKept_iff (settings : CooldownSettings) (overlap : Nat) :
    (∀ moves system,
        (cooldownProtocol settings).runWithin (overlapsAtMost overlap) (fullPool settings) moves =
          some system → LimitsKept settings system) ↔
      settings.originalMaxSize ≤ 1 ∨ settings.hasCooldown = false ∨ overlap ≤ 1 := by
  constructor
  · intro kept
    by_contra not
    simp only [not_or, Nat.not_le, Bool.not_eq_false] at not
    obtain ⟨reducible, enabled, overlapping⟩ := not
    obtain ⟨settled, ran⟩ := staleClearing_run reducible enabled overlapping
    have restored := (kept _ _ ran).2 rfl
    simp only at restored
    omega
  · rintro (small | disabled | single) moves system ran
    · exact limitsKept_of_never (Or.inl small) (by simp [overlapsAtMost, fullPool]) ran
    · exact limitsKept_of_never (Or.inr disabled) (by simp [overlapsAtMost, fullPool]) ran
    · exact limitsKept_of_sequential single ran

/-- Two removals that see no cooldown set the maximum of a pool of three to one, and a stale
clearing leaves the maximum of a pool of four at three. -/
theorem overlappingOperations_lose_limits :
    (∃ system, (cooldownProtocol ⟨3, true⟩).run (fullPool ⟨3, true⟩)
        [.start .removing, .start .removing, .step 0 ⟨false, true⟩, .step 1 ⟨false, true⟩,
          .step 0 ⟨false, true⟩, .step 1 ⟨false, true⟩, .step 0 ⟨false, true⟩,
          .step 1 ⟨false, true⟩, .step 1 ⟨false, true⟩] = some system ∧
        system.shared.settled = [1]) ∧
      (cooldownProtocol ⟨4, true⟩).run (fullPool ⟨4, true⟩) staleClearing =
        some ⟨⟨0, 3, [3, 4, 3]⟩, []⟩ := by
  constructor
  · exact ⟨_, rfl, rfl⟩
  · rfl

end NntpProxy.Pool
