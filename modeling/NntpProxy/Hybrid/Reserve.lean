import NntpProxy.Data.Interleaving
import NntpProxy.Router.Selection

/-!
# Connections that are dedicated to stateful sessions

In hybrid mode a session borrows a connection for each request, and after a handoff it keeps one to
its end.  The router has a counter of stateful slots that leaves one connection of each pool to the
other sessions, but a handoff does not take a slot: it is routed and checks a connection out like a
request.  As many sessions as a pool has connections can thus dedicate all of them.
-/

namespace NntpProxy.Hybrid

open Data.Interleaving Router BackendSelector Protocol

/-- What sessions share: for each backend the pending requests, the stateful slots that are taken
and the connections that are checked out. -/
structure BackendUse where
  pendingCount : BackendId → Nat
  statefulCount : BackendId → Nat
  checkedOut : BackendId → Nat

/-! ## The reservation -/

/-- The loop of `try_acquire_stateful` after a value of the counter was seen; without an answer it
goes on with the value that it finds. -/
def tryAcquireStateful (backend : BackendInfo) (current : Nat) (spurious : Bool)
    (use : BackendUse) : Option Bool × BackendUse :=
  if backend.maxSize - 1 ≤ current then (some false, use)
  else if use.statefulCount backend.id = current ∧ ¬ spurious then
    (some true,
      { use with statefulCount := Function.update use.statefulCount backend.id (current + 1) })
  else (none, use)

def releaseStateful (backend : BackendInfo) (use : BackendUse) : BackendUse :=
  { use with
    statefulCount := Function.update use.statefulCount backend.id
      (use.statefulCount backend.id - 1) }

variable {use : BackendUse}

/-- A slot is only taken when that leaves a connection. -/
theorem tryAcquireStateful_lt {backend : BackendInfo} {current : Nat} {spurious : Bool}
    (taken : (tryAcquireStateful backend current spurious use).1 = some true) :
    (tryAcquireStateful backend current spurious use).2.statefulCount backend.id <
      backend.maxSize := by
  unfold tryAcquireStateful at taken ⊢
  split at taken
  next => cases taken
  next below =>
    split at taken
    next free =>
      rw [if_neg below, if_pos free]
      simp only [Function.update_self]
      omega
    next => cases taken

/-! ## Sessions -/

/-- Where a session is.  The flag tells a handoff from a request. -/
inductive SessionPhase where
  | perCommand
  | routing (stateful : Bool)
  | routed (stateful : Bool) (id : BackendId)
  | connected (stateful : Bool) (id : BackendId)
  deriving DecidableEq, Repr

/-- What a session does next, or what it meets. -/
inductive SessionChoice where
  | request
  | handoff
  | leave
  /-- The router chooses on a snapshot; the count it saw may be out of date. -/
  | select (snapshot : Snapshot) (availability : Option ArticleAvailability)
      (suppressed : SuppressedBackends) (reserved : Bool)
  | checkout
  | fail
  | finish

namespace BackendUse

def unused : BackendUse :=
  ⟨fun _ => 0, fun _ => 0, fun _ => 0⟩

variable (use : BackendUse) (id : BackendId)

def addPending : BackendUse :=
  { use with pendingCount := Function.update use.pendingCount id (use.pendingCount id + 1) }

def completeCommand : BackendUse :=
  { use with pendingCount := Function.update use.pendingCount id (use.pendingCount id - 1) }

def checkOut : BackendUse :=
  { use with checkedOut := Function.update use.checkedOut id (use.checkedOut id + 1) }

def giveBack : BackendUse :=
  { use with checkedOut := Function.update use.checkedOut id (use.checkedOut id - 1) }

end BackendUse

/-- A request leaves the session in the per-command loop; a stateful session ends. -/
def afterConnection (stateful : Bool) : Option SessionPhase :=
  if stateful then none else some .perCommand

/-- The backend of a request or a handoff; a handoff has no article. -/
def routeFor (router : BackendSelector) (stateful : Bool) (snapshot : Snapshot)
    (availability : Option ArticleAvailability) (suppressed : SuppressedBackends) :
    Option BackendInfo :=
  if stateful then router.selectBackend snapshot none .empty
  else router.selectBackend snapshot availability suppressed

def stepSession (router : BackendSelector) (use : BackendUse) :
    SessionPhase → SessionChoice → Option (BackendUse × Option SessionPhase)
  | .perCommand, .request => some (use, some (.routing false))
  | .perCommand, .handoff => some (use, some (.routing true))
  | .perCommand, .leave => some (use, none)
  | .routing stateful, .select snapshot availability suppressed reserved =>
    match routeFor router stateful snapshot availability suppressed with
    | none => some (use, afterConnection stateful)
    | some backend =>
      if reserved then some (use.addPending backend.id, some (.routed stateful backend.id))
      else some (use, some (.routing stateful))
  | .routed stateful id, .checkout =>
    match router.findBackend id with
    | none => some (use.completeCommand id, afterConnection stateful)
    | some backend =>
      -- a pool with all its connections checked out lets the session wait
      if use.checkedOut id < backend.maxSize then
        some (use.checkOut id, some (.connected stateful id))
      else none
  | .routed stateful id, .fail => some (use.completeCommand id, afterConnection stateful)
  | .connected stateful id, .finish =>
    some ((use.giveBack id).completeCommand id, afterConnection stateful)
  | _, _ => none

def sessionProtocol (router : BackendSelector) :
    Protocol BackendUse SessionPhase SessionChoice where
  starts
    | .perCommand => true
    | _ => false
  step := stepSession router

def noSessions : System BackendUse SessionPhase :=
  ⟨.unused, []⟩

/-- The connections of a backend that are dedicated to stateful sessions. -/
def dedicated (id : BackendId) (system : System BackendUse SessionPhase) : Nat :=
  system.tasks.countP fun phase => decide (phase = .connected true id)

def sessionsAtMost (sessions : Nat) (system : System BackendUse SessionPhase) : Bool :=
  decide (system.tasks.length ≤ sessions)

variable {router : BackendSelector}

theorem stepSession_statefulCount {after : BackendUse} {phase : SessionPhase}
    {choice : SessionChoice} {rest : Option SessionPhase}
    (stepped : stepSession router use phase choice = some (after, rest)) :
    after.statefulCount = use.statefulCount := by
  unfold stepSession at stepped
  split at stepped
  case h_4 =>
    split at stepped
    · cases stepped
      rfl
    · split at stepped <;> cases stepped <;> rfl
  case h_5 =>
    split at stepped
    · cases stepped
      rfl
    · split at stepped
      · cases stepped
        rfl
      · cases stepped
  case h_8 => cases stepped
  all_goals
    cases stepped
    rfl

variable {moves : List (Move SessionPhase SessionChoice)} {system : System BackendUse SessionPhase}

theorem run_statefulCount (ran : (sessionProtocol router).run noSessions moves = some system)
    (id : BackendId) :
    system.shared.statefulCount id = 0 := by
  apply run_invariant _ _ ran
  · rfl
  · intro use phases phase _ zero
    exact zero
  · intro use front phase back choice after rest stepped zero
    simp only [stepSession_statefulCount stepped]
    exact zero

/-! ## How many connections are dedicated -/

variable {sessions : Nat}

theorem dedicated_le_sessions
    (ran : (sessionProtocol router).runWithin (sessionsAtMost sessions) noSessions moves =
      some system) (id : BackendId) : dedicated id system ≤ sessions := by
  have few : system.tasks.length ≤ sessions := by
    apply runWithin_invariant _ _ ran (by simp [sessionsAtMost, noSessions])
    · exact Nat.zero_le _
    · intro use phases phase _ allowed _
      exact of_decide_eq_true allowed
    · intro use front phase back choice after rest _ _ allowed _
      exact of_decide_eq_true allowed
  exact Nat.le_trans List.countP_le_length few

/-- A router with one backend that has `size` connections. -/
def singleBackend (size : Nat) : BackendSelector :=
  (withStrategy .weightedRoundRobin ⟨false, 0, 0⟩).addBackendWithSlot 0 size false 0
    maxBackends_pos

/-- A snapshot of idle backends. -/
def idleSnapshot : Snapshot :=
  ⟨fun _ => ⟨⟨0, 0, 0, 0⟩, 0⟩, 0, 0, 0⟩

/-- A session starts and is handed over. -/
def handoffOf (index : Nat) : List (Move SessionPhase SessionChoice) :=
  [.start .perCommand, .step index .handoff,
    .step index (.select idleSnapshot none .empty true), .step index .checkout]

theorem routeFor_singleBackend {size : Nat} (connections : 0 < size) :
    routeFor (singleBackend size) true idleSnapshot none .empty = some ⟨0, 0, 0, size, false⟩ := by
  have weight : size ≠ 0 := Nat.ne_of_gt connections
  simp [routeFor, singleBackend, selectBackend, addBackendWithSlot,
    withStrategy, insertTier, selectInTiers,
    selectInTier, candidatesInTier,
    selectWeighted, selectByWeight, atPosition,
    isAvailable, SuppressedBackends.contains, SuppressedBackends.empty,
    idleSnapshot, weight, connections]

theorem findBackend_singleBackend (size : Nat) :
    (singleBackend size).findBackend 0 = some ⟨0, 0, 0, size, false⟩ := by
  rfl

/-- One more session gets a connection while one is left. -/
theorem handoffOf_run {size : Nat} {phases : List SessionPhase} (free : use.checkedOut 0 < size)
    (room : phases.length < sessions) :
    (sessionProtocol (singleBackend size)).runWithin (sessionsAtMost sessions) ⟨use, phases⟩
        (handoffOf phases.length) =
      some ⟨(use.addPending 0).checkOut 0, phases ++ [.connected true 0]⟩ := by
  have route := routeFor_singleBackend (Nat.lt_of_le_of_lt (Nat.zero_le _) free)
  have allowed : ∀ use phase, sessionsAtMost sessions ⟨use, phases ++ [phase]⟩ = true := by
    intro use phase
    simp only [sessionsAtMost, List.length_append, decide_eq_true_eq]
    exact room
  have last : ∀ {use after phase rest choice},
      stepSession (singleBackend size) use phase choice = some (after, some rest) →
      (sessionProtocol (singleBackend size)).next ⟨use, phases ++ [phase]⟩
        (.step phases.length choice) = some ⟨after, phases ++ [rest]⟩ := by
    intro use after phase rest choice stepped
    rw [next_step_last]
    simp only [sessionProtocol, stepped, Option.map_some, Option.toList_some]
  have routed : stepSession (singleBackend size) use (.routing true)
      (.select idleSnapshot none .empty true) = some (use.addPending 0, some (.routed true 0)) := by
    simp only [stepSession, route, if_true]
  have connected : stepSession (singleBackend size) (use.addPending 0) (.routed true 0) .checkout =
      some ((use.addPending 0).checkOut 0, some (.connected true 0)) := by
    exact if_pos free
  have started : (sessionProtocol (singleBackend size)).next ⟨use, phases⟩ (.start .perCommand) =
      some ⟨use, phases ++ [.perCommand]⟩ := rfl
  rw [handoffOf, runWithin_cons started (allowed _ _),
    runWithin_cons (last rfl) (allowed _ _),
    runWithin_cons (last routed) (allowed _ _),
    runWithin_cons (last connected) (allowed _ _)]
  rfl

/-- As many sessions as a pool has connections take all of them. -/
theorem handoffs_run {size count : Nat} (within : count ≤ size) (room : count ≤ sessions) :
    ∃ use, use.checkedOut 0 = count ∧
      (sessionProtocol (singleBackend size)).runWithin (sessionsAtMost sessions) noSessions
          ((List.range count).flatMap handoffOf) =
        some ⟨use, List.replicate count (.connected true 0)⟩ := by
  induction count with
  | zero => exact ⟨.unused, rfl, rfl⟩
  | succ count ih =>
    obtain ⟨use, taken, ran⟩ := ih (Nat.le_of_succ_le within) (Nat.le_of_succ_le room)
    have free : use.checkedOut 0 < size := by
      rw [taken]
      exact within
    have shorter : (List.replicate count (SessionPhase.connected true 0)).length < sessions := by
      rw [List.length_replicate]
      exact room
    have next := handoffOf_run free shorter
    rw [List.length_replicate] at next
    refine ⟨(use.addPending 0).checkOut 0, ?_, ?_⟩
    · simp only [BackendUse.checkOut, BackendUse.addPending, Function.update_self, taken]
    · rw [List.range_succ, List.flatMap_append, runWithin_append, ran, Option.bind_some,
        List.flatMap_singleton, next, List.replicate_succ']

/-- A pool of at least one connection has one left for requests in every interleaving of a number
of sessions, over all routers, exactly when there are fewer sessions than connections. -/
theorem dedicated_lt_iff {size : Nat} (connections : 1 ≤ size) (sessions : Nat) :
    (∀ (router : BackendSelector) (backend : BackendInfo), backend ∈ router.backends →
        backend.maxSize = size →
        ∀ moves system, (sessionProtocol router).runWithin (sessionsAtMost sessions) noSessions
            moves = some system → dedicated backend.id system ≤ size - 1) ↔ sessions < size := by
  constructor
  · intro reserved
    by_contra many
    obtain ⟨use, taken, ran⟩ := handoffs_run (Nat.le_refl size) (Nat.le_of_not_lt many)
    have bound := reserved (singleBackend size) ⟨0, 0, 0, size, false⟩
      (List.mem_of_find?_eq_some (findBackend_singleBackend size)) rfl _ _ ran
    simp only [dedicated, List.countP_replicate, decide_true, if_true] at bound
    omega
  · intro few router backend _ _ moves system ran
    have bound := dedicated_le_sessions ran backend.id
    omega

/-- With one session at a time, a pool of two connections keeps one for requests. -/
theorem oneSession_leaves_connection :
    1 ≤ 2 ∧ ∀ (router : BackendSelector) (backend : BackendInfo), backend ∈ router.backends →
      backend.maxSize = 2 →
      ∀ moves system, (sessionProtocol router).runWithin (sessionsAtMost 1) noSessions
          moves = some system → dedicated backend.id system ≤ 2 - 1 :=
  ⟨by decide, (dedicated_lt_iff (by decide) 1).mpr (by decide)⟩

/-- Two sessions are handed over to a pool of two connections and dedicate both. -/
theorem twoHandoffs_dedicate_both :
    ∃ system, (sessionProtocol (singleBackend 2)).run noSessions (handoffOf 0 ++ handoffOf 1) =
      some system ∧ dedicated 0 system = 2 :=
  ⟨_, rfl, rfl⟩

end NntpProxy.Hybrid
