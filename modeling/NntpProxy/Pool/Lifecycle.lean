import NntpProxy.Pool.Guard

/-!
# The life of a checked-out connection

A checked-out connection is held idle, by the guard of an exchange, as a lease for the next
request, or by a health check; at last the pool is told what became of it.  Handlers are
sequences of operations on the holder, and a holder can be dropped at any point, by an
error, a panic or the cancellation of its task.  Whatever the sequence is, the pool is told
once.  A connection comes back to the pool, or is kept, when the framer marked its last
response complete and nothing is pending.  There are two more ways back: a connection that
was never used, and one that was handed to the health check after an invalid response.
-/

namespace NntpProxy.Pool

open Transport ConnectionGuard

variable {pool : BufferPool}

/-! ## Operations -/

/-- Who holds a checked-out connection. -/
inductive Custody (pool : BufferPool) where
  | idle (conn : ConnectionStream pool)
  | active (guard : ConnectionGuard pool)
  | leased (guard : ConnectionGuard pool)
  | salvaging (conn : ConnectionStream pool)
  | given
  deriving DecidableEq, Repr

/-- What can be done with a checked-out connection. -/
inductive Operation (pool : BufferPool) where
  /-- Begin to use an idle connection. -/
  | activate
  /-- Return an idle connection. -/
  | releaseIdle
  /-- Read or write, which leaves the connection like this. -/
  | streamMut (after : ConnectionStream pool)
  /-- Look whether the socket is alive. -/
  | checkTcpAlive
  /-- The framer read a response to its end. -/
  | markResponseComplete
  /-- Take the guard out of an exchange whose response was read. -/
  | intoConnection
  | completeSuccess
  | failClient
  | failBackend
  /-- Decide after a transfer that failed. -/
  | transferFailed (error : ResponseTransferError)
  /-- Decide after a transfer that succeeded, with an empty place for a lease or without. -/
  | transferSucceeded (hasPlace : Bool)
  /-- Keep the connection behind the last reply of a window. -/
  | endWindow
  /-- Use a lease for the next request. -/
  | reuseLease
  /-- Hand the connection to the health check after an invalid response. -/
  | intoHealthCheck
  /-- The health check ended. -/
  | dateChecked (passed : Bool) (after : ConnectionStream pool)
  /-- The holder is dropped. -/
  | drop
  deriving DecidableEq, Repr

/-- Drop whoever holds the connection.  A lease that is dropped fails its backend; a
connection without a guard goes back to the pool by itself. -/
def abandon : Custody pool → List (PoolEvent pool)
  | .idle conn => (⟨conn, .idle⟩ : ConnectionGuard pool).drop
  | .active guard => guard.drop
  | .leased guard => guard.failBackend
  | .salvaging conn => [.returned conn]
  | .given => []

/-- Decide after a transfer that succeeded. -/
def afterSuccess (guard : ConnectionGuard pool) (hasPlace : Bool) :
    Custody pool × List (PoolEvent pool) :=
  match releaseOrReuseConnection guard 0 (if hasPlace then some none else none) with
  | (events, some (some lease)) => (.leased lease.connection, events)
  | (events, _) => (.given, events)

/-- One operation, for who can do it.  A window keeps its connection behind a reply only,
where the exchange is complete. -/
def operate : Custody pool → Operation pool → Option (Custody pool × List (PoolEvent pool))
  | .given, _ => none
  | custody, .drop => some (.given, abandon custody)
  | .idle conn, .activate => some (.active ⟨conn, .idle⟩, [])
  | .idle conn, .releaseIdle => some (.given, (⟨conn, .idle⟩ : ConnectionGuard pool).releaseIdle)
  | .active guard, .streamMut after => some (.active (guard.streamMut after), [])
  | .active guard, .checkTcpAlive => some (.active guard, [])
  | .active guard, .markResponseComplete =>
    match guard.markResponseComplete with
    | none => some (.given, guard.drop)
    | some marked => some (.active marked, [])
  | .active guard, .intoConnection =>
    if guard.responseIsComplete then some (.active guard, []) else some (.given, guard.drop)
  | .active guard, .completeSuccess => some (.given, guard.completeSuccess)
  | .active guard, .failClient => some (.given, guard.failClient)
  | .active guard, .failBackend => some (.given, guard.failBackend)
  | .active guard, .transferFailed error =>
    some (.given, (handleResponseTransferError guard error).2)
  | .active guard, .transferSucceeded hasPlace => some (afterSuccess guard hasPlace)
  | .active guard, .endWindow =>
    if guard.responseIsComplete then
      if guard.conn.hasPendingBytes then some (.given, guard.failClient)
      else some (.leased guard, [])
    else none
  | .active guard, .intoHealthCheck => some (.salvaging guard.conn, [])
  | .leased guard, .checkTcpAlive => some (.leased guard, [])
  | .leased guard, .reuseLease => some (.active guard, [])
  | .leased guard, .completeSuccess => some (.given, guard.completeSuccess)
  | .leased guard, .failBackend => some (.given, guard.failBackend)
  | .salvaging _, .dateChecked passed after =>
    some (.given, if passed then [.returned after] else [.removedWithCooldown after])
  | _, _ => none

/-- Operations one after the other, and what the pool was told. -/
def operateAll : Custody pool → List (Operation pool) →
    Option (Custody pool × List (PoolEvent pool))
  | custody, [] => some (custody, [])
  | custody, operation :: operations =>
    match operate custody operation with
    | none => none
    | some (next, events) =>
      (operateAll next operations).map fun (final, later) => (final, events ++ later)

/-! ## Histories -/

/-- The operation reads from or writes to the connection. -/
def Operation.isUse : Operation pool → Bool
  | .streamMut _ => true
  | _ => false

/-- The framer marked a response complete and the connection was not used after that. -/
def LastResponseComplete (history : List (Operation pool)) : Prop :=
  ∃ before after, history = before ++ .markResponseComplete :: after ∧
    ∀ operation ∈ after, operation.isUse = false

variable {history : List (Operation pool)} {operation : Operation pool}

theorem LastResponseComplete.snoc (complete : LastResponseComplete history)
    (noUse : operation.isUse = false) : LastResponseComplete (history ++ [operation]) := by
  rcases complete with ⟨before, after, rfl, notUsed⟩
  refine ⟨before, after ++ [operation], by simp, ?_⟩
  intro other isOther
  rcases List.mem_append.mp isOther with earlier | last
  · exact notUsed other earlier
  · rw [List.mem_singleton.mp last]
    exact noUse

theorem lastResponseComplete_snoc_mark (history : List (Operation pool)) :
    LastResponseComplete (history ++ [.markResponseComplete]) :=
  ⟨history, [], rfl, by simp⟩

/-- Why a connection may come back to the pool. -/
inductive MayReturn (history : List (Operation pool)) (conn : ConnectionStream pool) : Prop where
  | complete (complete : LastResponseComplete history) (nothingPending : conn.pendingBytesLen = 0)
  | unused (unused : ∀ operation ∈ history, operation.isUse = false)
      (released : .releaseIdle ∈ history)
  | checked (handed : .intoHealthCheck ∈ history)

/-- What is known of a connection after these operations: the pool was not told anything
while somebody holds it, and was told once when nobody does. -/
inductive Holding (history : List (Operation pool)) :
    Custody pool → List (PoolEvent pool) → Prop where
  | idle (conn : ConnectionStream pool) (unused : ∀ operation ∈ history, operation.isUse = false) :
      Holding history (.idle conn) []
  | active (guard : ConnectionGuard pool)
      (complete : guard.phase = .complete → LastResponseComplete history) :
      Holding history (.active guard) []
  | leased (guard : ConnectionGuard pool) (complete : LastResponseComplete history)
      (nothingPending : guard.conn.pendingBytesLen = 0) : Holding history (.leased guard) []
  | salvaging (conn : ConnectionStream pool) (handed : .intoHealthCheck ∈ history) :
      Holding history (.salvaging conn) []
  | removedWithCooldown (conn : ConnectionStream pool) :
      Holding history .given [.removedWithCooldown conn]
  | removedWithoutCooldown (conn : ConnectionStream pool) :
      Holding history .given [.removedWithoutCooldown conn]
  | returned (conn : ConnectionStream pool) (mayReturn : MayReturn history conn) :
      Holding history .given [.returned conn]

section Steps

variable {history : List (Operation pool)} {guard : ConnectionGuard pool}

variable (complete : guard.phase = .complete → LastResponseComplete history)

include complete

/-- Returning a connection after an exchange returns it only when it may. -/
theorem holding_completeSuccess :
    Holding history .given guard.completeSuccess := by
  unfold completeSuccess
  split
  next mayReturn => exact .returned _ (.complete (complete mayReturn.1) mayReturn.2)
  · exact .removedWithCooldown _

theorem holding_transferFailed (error : ResponseTransferError) :
    Holding history .given (handleResponseTransferError guard error).2 := by
  unfold handleResponseTransferError
  split
  · exact .removedWithCooldown _
  · exact .removedWithoutCooldown _
  · cases phaseEq : guard.phase with
    | idle =>
      simp only [markResponseComplete, phaseEq]
      exact .removedWithCooldown _
    | complete =>
      simp only [markResponseComplete, phaseEq]
      exact holding_completeSuccess complete
    | inFlight =>
      -- a healthy fate is decided only for a complete exchange
      next healthy =>
        simp only [poolFate, connectionReuseAfterResponse, responseIsComplete,
          phaseEq] at healthy
        cases error <;> simp at healthy

/-- A transfer that succeeded gives the connection up or keeps it. -/
theorem holding_afterSuccess (hasPlace : Bool) :
    Holding history (afterSuccess guard hasPlace).1 (afterSuccess guard hasPlace).2 := by
  unfold afterSuccess releaseOrReuseConnection connectionReuseAfterResponse
  by_cases isComplete : guard.responseIsComplete = false
  · simp only [isComplete, if_true, ResponseConnectionReuse.poolFate]
    cases hasPlace <;> exact .removedWithCooldown _
  · rw [if_neg isComplete]
    have phaseEq : guard.phase = .complete := by
      simpa [responseIsComplete] using isComplete
    by_cases pending : guard.conn.hasPendingBytes = true
    · rw [if_pos pending]
      cases hasPlace <;> exact .removedWithoutCooldown _
    · rw [if_neg pending]
      cases hasPlace with
      | true =>
        refine .leased _ (complete phaseEq) ?_
        rw [ConnectionStream.pendingBytesLen_eq_zero_iff]
        exact Bool.eq_false_iff.mpr pending
      | false => exact holding_completeSuccess complete

end Steps

/-! ## Runs -/

variable {custody : Custody pool}

/-- Whoever is dropped tells the pool once. -/
theorem holding_abandon
    (holding : Holding history custody []) : Holding history .given (abandon custody) := by
  cases holding with
  | idle conn unused => exact .removedWithCooldown _
  | active guard complete => exact .removedWithCooldown _
  | leased guard complete nothingPending => exact .removedWithCooldown _
  | salvaging conn handed => exact .returned _ (.checked handed)

theorem Holding.snoc (holding : Holding history custody [])
    (noUse : operation.isUse = false) : Holding (history ++ [operation]) custody [] := by
  cases holding with
  | idle conn unused =>
    refine .idle conn fun other isOther => ?_
    rcases List.mem_append.mp isOther with earlier | last
    · exact unused other earlier
    · rw [List.mem_singleton.mp last]
      exact noUse
  | active guard complete => exact .active guard fun isComplete => (complete isComplete).snoc noUse
  | leased guard complete nothingPending => exact .leased guard (complete.snoc noUse) nothingPending
  | salvaging conn handed => exact .salvaging conn (List.mem_append_left _ handed)

variable {events : List (PoolEvent pool)} {next : Custody pool}

variable {conn : ConnectionStream pool}

theorem holding_operate_idle (unused : ∀ operation ∈ history, operation.isUse = false)
    (operated : operate (.idle conn) operation = some (next, events)) :
    Holding (history ++ [operation]) next events := by
  have idle : Holding history (.idle conn) [] := .idle conn unused
  cases operation with
  | activate =>
    cases operated
    exact .active _ nofun
  | releaseIdle =>
    cases operated
    have stillIdle : Holding (history ++ [.releaseIdle]) (.idle conn) [] := idle.snoc rfl
    cases stillIdle with
    | idle _ unused => exact .returned _ (.unused unused (by simp))
  | drop =>
    cases operated
    exact holding_abandon (idle.snoc rfl)
  | _ => cases operated

variable {guard : ConnectionGuard pool}

theorem holding_operate_active (complete : guard.phase = .complete → LastResponseComplete history)
    (operated : operate (.active guard) operation = some (next, events)) :
    Holding (history ++ [operation]) next events := by
  have kept {operation : Operation pool} (noUse : operation.isUse = false) :
      guard.phase = .complete → LastResponseComplete (history ++ [operation]) :=
    fun isComplete => (complete isComplete).snoc noUse
  cases operation with
  | streamMut after =>
    cases operated
    exact .active _ nofun
  | checkTcpAlive =>
    cases operated
    exact .active guard (kept rfl)
  | markResponseComplete =>
    simp only [operate] at operated
    split at operated
    · cases operated
      exact .removedWithCooldown _
    · cases operated
      exact .active _ fun _ => lastResponseComplete_snoc_mark history
  | intoConnection =>
    simp only [operate] at operated
    split at operated
    · cases operated
      exact .active guard (kept rfl)
    · cases operated
      exact .removedWithCooldown _
  | completeSuccess =>
    cases operated
    exact holding_completeSuccess (kept rfl)
  | failClient =>
    cases operated
    exact .removedWithoutCooldown _
  | failBackend =>
    cases operated
    exact .removedWithCooldown _
  | transferFailed error =>
    cases operated
    exact holding_transferFailed (kept rfl) error
  | transferSucceeded hasPlace =>
    have held : Holding (history ++ [.transferSucceeded hasPlace]) (afterSuccess guard hasPlace).1
        (afterSuccess guard hasPlace).2 := holding_afterSuccess (kept rfl) hasPlace
    rwa [Option.some.inj operated] at held
  | endWindow =>
    simp only [operate] at operated
    split at operated
    next isComplete =>
      split at operated
      · cases operated
        exact .removedWithoutCooldown _
      next nothingPending =>
        cases operated
        refine .leased guard (kept rfl (by simpa [responseIsComplete]
          using isComplete)) ?_
        rw [ConnectionStream.pendingBytesLen_eq_zero_iff]
        exact Bool.eq_false_iff.mpr nothingPending
    · cases operated
  | intoHealthCheck =>
    cases operated
    exact .salvaging _ (by simp)
  | drop =>
    cases operated
    exact .removedWithCooldown _
  | _ => cases operated

theorem holding_operate_leased (complete : LastResponseComplete history)
    (nothingPending : guard.conn.pendingBytesLen = 0)
    (operated : operate (.leased guard) operation = some (next, events)) :
    Holding (history ++ [operation]) next events := by
  cases operation with
  | checkTcpAlive =>
    cases operated
    exact .leased guard (complete.snoc rfl) nothingPending
  | reuseLease =>
    cases operated
    exact .active guard fun _ => complete.snoc rfl
  | completeSuccess =>
    cases operated
    exact holding_completeSuccess fun _ => complete.snoc rfl
  | failBackend =>
    cases operated
    exact .removedWithCooldown _
  | drop =>
    cases operated
    exact .removedWithCooldown _
  | _ => cases operated

theorem holding_operate_salvaging (handed : .intoHealthCheck ∈ history)
    (operated : operate (.salvaging conn) operation = some (next, events)) :
    Holding (history ++ [operation]) next events := by
  have checked {operation : Operation pool} {conn : ConnectionStream pool} :
      MayReturn (history ++ [operation]) conn := .checked (List.mem_append_left _ handed)
  cases operation with
  | dateChecked passed after =>
    cases operated
    cases passed with
    | true => exact .returned after checked
    | false => exact .removedWithCooldown after
  | drop =>
    cases operated
    exact .returned conn checked
  | _ => cases operated

variable {earlier : List (PoolEvent pool)}

theorem Holding.operate (holding : Holding history custody earlier)
    (operated : operate custody operation = some (next, events)) :
    Holding (history ++ [operation]) next (earlier ++ events) := by
  cases holding with
  | idle conn unused => exact holding_operate_idle unused operated
  | active guard complete => exact holding_operate_active complete operated
  | leased guard complete nothingPending =>
    exact holding_operate_leased complete nothingPending operated
  | salvaging conn handed => exact holding_operate_salvaging handed operated
  | _ => cases operated

theorem Holding.operateAll {operations : List (Operation pool)} {final : Custody pool}
    (holding : Holding history custody earlier)
    (operated : operateAll custody operations = some (final, events)) :
    Holding (history ++ operations) final (earlier ++ events) := by
  induction operations generalizing history custody earlier events with
  | nil =>
    cases operated
    simpa using holding
  | cons operation operations ih =>
    rw [Pool.operateAll] at operated
    split at operated
    · cases operated
    next next told stepped =>
      rcases Option.map_eq_some_iff.mp operated with ⟨⟨last, later⟩, rest, outcome⟩
      cases outcome
      have behind := ih (holding.operate stepped) rest
      rwa [List.append_assoc, List.singleton_append, List.append_assoc] at behind

end NntpProxy.Pool
