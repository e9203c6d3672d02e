import NntpProxy.Transport.Streaming

/-!
# Connection guards

A guard owns a connection that was checked out of a pool.  Every way to give the
guard up consumes it: the connection goes back to the pool, or it is taken out of the
pool, and dropping the guard takes it out as well.  A guard that was emptied before it
is dropped tells the pool nothing more.  Whether a connection may be used again is
decided from the phase of its exchange and from what it has pending.
-/

namespace NntpProxy.Pool

open Transport

variable {pool : BufferPool}

/-! ## Guards -/

/-- Where the exchange of a checked-out connection is. -/
inductive ConnectionPhase where
  | idle
  | inFlight
  | complete
  deriving DecidableEq, Repr

/-- What a pool is told about a connection. -/
inductive PoolEvent (pool : BufferPool) where
  | returned (conn : ConnectionStream pool)
  | removedWithoutCooldown (conn : ConnectionStream pool)
  | removedWithCooldown (conn : ConnectionStream pool)
  deriving DecidableEq, Repr

/-- A checked-out connection and the phase of its exchange. -/
structure ConnectionGuard (pool : BufferPool) where
  conn : ConnectionStream pool
  phase : ConnectionPhase
  deriving DecidableEq, Repr

/-- Drop a guard that still holds a connection or was emptied before. -/
def dropGuard : Option (ConnectionStream pool) → List (PoolEvent pool)
  | some conn => [.removedWithCooldown conn]
  | none => []

namespace ConnectionGuard

section

variable (guard : ConnectionGuard pool)

/-- Drop a guard that was not given up before. -/
def drop : List (PoolEvent pool) :=
  dropGuard (some guard.conn)

/-- Return a connection on which no exchange was started.  A failed assertion drops the
guard. -/
def releaseIdle : List (PoolEvent pool) :=
  if guard.phase = .idle then .returned guard.conn :: dropGuard none else guard.drop

/-- Return a connection after a complete exchange.  A failed assertion drops the guard. -/
def completeSuccess : List (PoolEvent pool) :=
  if guard.phase = .complete ∧ guard.conn.pendingBytesLen = 0 then
    .returned guard.conn :: dropGuard none
  else guard.drop

def failClient : List (PoolEvent pool) :=
  .removedWithoutCooldown guard.conn :: dropGuard none

def failBackend : List (PoolEvent pool) :=
  .removedWithCooldown guard.conn :: dropGuard none

end

/-- Use the connection for an exchange. -/
def streamMut (guard : ConnectionGuard pool) (conn : ConnectionStream pool) :
    ConnectionGuard pool :=
  { guard with conn := conn, phase := .inFlight }

/-- Starting an exchange or not, the connection is the same. -/
@[simp]
theorem conn_ite_streamMut (guard : ConnectionGuard pool) (isIdle : Prop) [Decidable isIdle] :
    (if isIdle then guard else guard.streamMut guard.conn).conn = guard.conn := by
  split <;> rfl

/-- Record that a response was read to its end; it panics when no exchange was started. -/
def markResponseComplete (guard : ConnectionGuard pool) : Option (ConnectionGuard pool) :=
  match guard.phase with
  | .inFlight => some { guard with phase := .complete }
  | .complete => some guard
  | .idle => none

def responseIsComplete (guard : ConnectionGuard pool) : Bool :=
  guard.phase == .complete

end ConnectionGuard

/-- The guard of a connection after an exchange on it. -/
def guardAfter (exchange : ExchangeResult pool) : ConnectionGuard pool :=
  ⟨exchange.conn, if exchange.responseComplete then .complete else .inFlight⟩

/-! ## Fates -/

/-- The fate of a connection after a transfer. -/
inductive BackendConnectionOutcome where
  | backendHealthy
  | backendDirty
  | backendFailed
  deriving DecidableEq, Repr

/-- Whether a connection can be used again. -/
inductive ResponseConnectionReuse where
  | incomplete
  | reusable
  | queuedBytes (len : Nat)
  deriving DecidableEq, Repr

def connectionReuseAfterResponse (guard : ConnectionGuard pool) : ResponseConnectionReuse :=
  if guard.responseIsComplete = false then .incomplete
  else if guard.conn.hasPendingBytes then .queuedBytes guard.conn.pendingBytesLen
  else .reusable

/-- The fate after a transfer that succeeded. -/
def ResponseConnectionReuse.poolFate : ResponseConnectionReuse → BackendConnectionOutcome
  | .incomplete => .backendFailed
  | .reusable => .backendHealthy
  | .queuedBytes _ => .backendDirty

/-- The fate after a transfer that failed. -/
def poolFate (error : ResponseTransferError) (reuse : ResponseConnectionReuse) :
    BackendConnectionOutcome :=
  match error with
  | .clientWriteUnpreserved _ | .deliveredPrefix _ => .backendFailed
  | _ =>
    match reuse with
    | .incomplete => .backendFailed
    | .queuedBytes _ => .backendDirty
    | .reusable =>
      match error with
      | .clientDisconnect _ | .clientWrite _ => .backendHealthy
      | _ => .backendFailed

/-- Give up a connection after a failed transfer. -/
def handleResponseTransferError (guard : ConnectionGuard pool) (error : ResponseTransferError) :
    SessionError × List (PoolEvent pool) :=
  (.ofTransfer error,
    match poolFate error (connectionReuseAfterResponse guard) with
    | .backendFailed => guard.failBackend
    | .backendDirty => guard.failClient
    | .backendHealthy =>
      match guard.markResponseComplete with
      | none => guard.drop
      | some marked => marked.completeSuccess)

/-- A connection kept for the next request to the same backend. -/
structure BackendLease (pool : BufferPool) where
  backendId : Nat
  connection : ConnectionGuard pool
  deriving DecidableEq, Repr

/-- Give up a connection after a transfer that succeeded, or keep it when the caller
has an empty place for it. -/
def releaseOrReuseConnection (guard : ConnectionGuard pool) (backendId : Nat)
    (slot : Option (Option (BackendLease pool))) :
    List (PoolEvent pool) × Option (Option (BackendLease pool)) :=
  match (connectionReuseAfterResponse guard).poolFate with
  | .backendDirty => (guard.failClient, slot)
  | .backendHealthy =>
    match slot with
    | some none => ([], some (some ⟨backendId, guard⟩))
    | _ => (guard.completeSuccess, slot)
  | .backendFailed => (guard.failBackend, slot)

end NntpProxy.Pool
