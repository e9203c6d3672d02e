import NntpProxy.Pool.Guard
import NntpProxy.Protocol.Request
import NntpProxy.Protocol.Responses
import NntpProxy.Router.Selection
import NntpProxy.Transport.Windows

/-!
# The article retry loop

A request for an article is tried on one backend after the other.  A backend that says
that it misses the article, or that fails before the client received anything, leaves the
request to the next one; a response is written to the client and ends the request.  When
no backend is left the client is told that there is no such article, if every provider
is known to miss it, and that the backends failed otherwise.

What the surroundings do is given for every pass of the loop: the loads on which a
backend is chosen, the connections that can be checked out and what arrives on them, and
the requests that cannot be sent.
-/

namespace NntpProxy.Retry

open Protocol Framing Transport Router Pool

variable {pool : BufferPool}

/-! ## Surroundings -/

/-- What a backend sends in answer to requests of these kinds, up to the end of the
stream: well-formed responses, the last of which may be cut off, or a status line that
is not valid. -/
inductive Answers : List RequestKind → Bytes → Prop where
  | done (later : Bytes) : Answers [] later
  | whole {kind : RequestKind} {kinds : List RequestKind} {later : Bytes} (response : Response kind)
      (follows : requestKindHasResponseBody kind response.status = true → Follows later)
      (rest : Answers kinds later) : Answers (kind :: kinds) (response.bytes ++ later)
  | cut {kind : RequestKind} {kinds : List RequestKind} {stream lost : Bytes}
      (response : Response kind) (joined : stream ++ lost = response.bytes) (isLost : lost ≠ []) :
      Answers (kind :: kinds) stream
  | invalid {kind : RequestKind} {kinds : List RequestKind} {stream : Bytes}
      (noStatus : StatusCode.parse stream = none) : Answers (kind :: kinds) stream

/-- A connection to a backend that answers requests of these kinds. -/
structure BackendConnection (pool : BufferPool) (kinds : List RequestKind) where
  conn : ConnectionStream pool
  answers : Answers kinds conn.contents

/-- One try to use a backend: the connection that is checked out for the requests that
are to be sent on it, if there is one, and whether each request can be sent. -/
structure Try (pool : BufferPool) where
  connect : (kinds : List RequestKind) → Option (BackendConnection pool kinds)
  sends : Nat → Bool

/-- The surroundings of one pass of the loop: what the router chooses on, the tries of
the chosen backend and the probes of a sweep. -/
structure Pass (pool : BufferPool) where
  snapshot : Snapshot
  first : BackendId → Try pool
  again : BackendId → Try pool
  probe : BackendId → Try pool

/-! ## One try -/

/-- Send a request and classify its response. -/
def executeAndReadResponse (kind : RequestKind) (conn : ConnectionStream pool) (sent : Bool) :
    Option (ClassifiedResponse pool × ConnectionStream pool) :=
  if sent then
    match readFirst kind pool.acquire conn with
    | (some classified, next) => some (classified, next)
    | (none, _) => none
  else none

section

variable (backend : BackendInfo) (request : RequestContext) (isRetryAttempt : Bool)

/-- Ask with STAT first whether a backend has the article. -/
def shouldUseStatMissingProbe : Bool :=
  backend.statMissingEnabled && isRetryAttempt && request.hasMessageId &&
    [RequestKind.article, .body, .head].contains request.kind

/-- The requests of one try. -/
def requestsOf :
    List RequestKind :=
  if shouldUseStatMissingProbe backend request isRetryAttempt then [.stat, request.kind]
  else [request.kind]

def executeBackendAttempt (attempt : Try pool) :
    Option (ClassifiedResponse pool × ConnectionStream pool) :=
  match attempt.connect (requestsOf backend request isRetryAttempt) with
  | none => none
  | some ⟨conn, _⟩ =>
    if shouldUseStatMissingProbe backend request isRetryAttempt then
      match executeAndReadResponse .stat conn (attempt.sends 0) with
      | none => none
      | some (probe, conn) =>
        if probe.statusCode.any (·.isArticleMissing) then some (probe, conn)
        else
          match probe.observe conn with
          | (.error _, _) => none
          | (.ok (), conn) => executeAndReadResponse request.kind conn (attempt.sends 1)
    else executeAndReadResponse request.kind conn (attempt.sends 0)

end

/-! ## The state of the loop -/

/-- An attempt on a backend and what was known when it was made. -/
structure Attempt where
  backend : BackendInfo
  availability : ArticleAvailability
  suppressed : SuppressedBackends
  deriving DecidableEq, Repr

/-- The state of the loop, with a record of the attempts. -/
structure RetryState where
  availability : ArticleAvailability
  unavailableBackends : SuppressedBackends
  isRetryAttempt : Bool
  retryStatSweepDone : Bool
  client : ClientWriter
  attempts : List Attempt
  deriving DecidableEq, Repr

/-- Outcome of an attempt that did not fail. -/
inductive BackendAttemptResult where
  | success
  | articleNotFound
  | backendUnavailable
  | noRetryableBackend
  deriving DecidableEq, Repr

namespace RetryState

def suppress (state : RetryState) (id : BackendId) : RetryState :=
  { state with unavailableBackends := state.unavailableBackends.suppress id }

/-- Record an attempt on a backend. -/
def note (state : RetryState) (backend : BackendInfo) : RetryState :=
  { state with
    attempts := state.attempts ++ [⟨backend, state.availability, state.unavailableBackends⟩] }

def recordMissing (state : RetryState) (slot : AvailabilitySlot) : RetryState :=
  { state with availability := state.availability.recordMissingSlot slot }

end RetryState

/-! ## The sweep -/

inductive RetryStatProbeOutcome where
  | missing
  | present
  | unavailable
  deriving DecidableEq, Repr

/-- Ask one backend with STAT. -/
def statProbe (attempt : Try pool) : RetryStatProbeOutcome :=
  match attempt.connect [.stat] with
  | none => .unavailable
  | some ⟨conn, _⟩ =>
    match executeAndReadResponse .stat conn (attempt.sends 0) with
    | none => .unavailable
    | some (probe, conn) =>
      match probe.observe conn with
      | (.error _, _) => .unavailable
      | (.ok (), _) =>
        if probe.statusCode.any (·.isArticleMissing) then .missing else .present

/-- The backends that are asked in a sweep. -/
def sweepCandidates (router : BackendSelector) (state : RetryState) : List BackendInfo :=
  router.sortedTiers.flatMap fun tier => router.backends.filter fun backend =>
    backend.tier == tier && !state.unavailableBackends.contains backend.id &&
      state.availability.shouldTrySlot backend.availabilitySlot && backend.statMissingEnabled

/-- Record the outcome of one probe. -/
def recordProbe (pass : Pass pool) (state : RetryState) (backend : BackendInfo) : RetryState :=
  match statProbe (pass.probe backend.id) with
  | .missing => state.recordMissing backend.availabilitySlot
  | .present => state
  | .unavailable => state.suppress backend.id

/-- Ask all remaining backends at once.  The outcomes add to the two sets only, so that
their order does not matter. -/
def parallelRetryStatSweep (router : BackendSelector) (request : RequestContext)
    (pass : Pass pool) (state : RetryState) : RetryState :=
  if !request.hasMessageId || !([RequestKind.article, .body, .head].contains request.kind) then
    state
  else if (sweepCandidates router state).length < 2 then state
  else (sweepCandidates router state).foldl (recordProbe pass) state

/-! ## One pass -/

/-- Write a response to the client and flush it, and give back the guard of the connection.
The retention decides whether a copy of the response is kept. -/
def writeSuccessfulBackendResponse (retains : Bool) (classified : ClassifiedResponse pool)
    (conn : ConnectionStream pool) (client : ClientWriter) :
    Except SessionError (ConnectionGuard pool) × ClientWriter :=
  let exchange :=
    if retains then (classified.captureAndWrite conn client).1 else classified.write conn client
  match exchange.result with
  | .error error => (.error (handleResponseTransferError (guardAfter exchange) error).1,
      exchange.client)
  | .ok _ =>
    match exchange.client.sink.flush with
    | (false, sink) =>
      (.error (handleResponseTransferError (guardAfter exchange)
        (.fromClientWrite exchange.client.failure)).1, { exchange.client with sink := sink })
    | (true, sink) => (.ok (guardAfter exchange), { exchange.client with sink := sink })

/-- Execute a request on a backend, at most twice, and suppress the backend for this
request when there is no valid response. -/
def prepareBackendAttempt (backend : BackendInfo) (request : RequestContext) (pass : Pass pool)
    (state : RetryState) :
    Option (StatusCode × ClassifiedResponse pool × ConnectionStream pool) × RetryState :=
  match (executeBackendAttempt backend request state.isRetryAttempt (pass.first backend.id)).or
      (executeBackendAttempt backend request state.isRetryAttempt (pass.again backend.id)) with
  | none => (none, state.suppress backend.id)
  | some (classified, conn) =>
    match classified.statusCode with
    | none => (none, state.suppress backend.id)
    | some status => (some (status, classified, conn), state)

/-- Try the next backend.  `retains` says for which statuses a copy of the response is
kept. -/
def tryBackendForArticle (router : BackendSelector) (request : RequestContext)
    (retains : StatusCode → Bool) (pass : Pass pool) (state : RetryState) :
    Except SessionError BackendAttemptResult × RetryState :=
  match router.selectBackend pass.snapshot (some state.availability)
      state.unavailableBackends with
  | none => (.ok .noRetryableBackend, state)
  | some backend =>
    match prepareBackendAttempt backend request pass (state.note backend) with
    | (none, state) => (.ok .backendUnavailable, state)
    | (some (status, classified, conn), state) =>
      if status.isArticleMissing then
        let state := state.recordMissing backend.availabilitySlot
        match classified.observe conn with
        | (.error error, _) => (.error (.ofTransfer error), state)
        | (.ok (), _) => (.ok .articleNotFound, state)
      else
        match writeSuccessfulBackendResponse (retains status) classified conn
            state.client with
        | (.ok _, client) => (.ok .success, { state with client := client })
        | (.error (.clientDisconnect error), client) =>
          (.error (.clientDisconnect error), { state with client := client })
        | (.error error, client) =>
          (.error error, { state with client := client }.suppress backend.id)

/-! ## The loop -/

/-- How the client was answered. -/
inductive Answer where
  | backend
  | noSuchArticle
  | backendError
  deriving DecidableEq, Repr

/-- Write the local line for an article that no backend has. -/
def send430ToClient (state : RetryState) : Except SessionError Answer × RetryState :=
  match state.client.sink.writeAll noSuchArticle with
  | (false, sink) =>
    (.error (.ofIo state.client.failure), { state with client := { state.client with sink } })
  | (true, sink) => (.ok .noSuchArticle, { state with client := { state.client with sink } })

/-- Write and flush the local line for a request that no backend could answer. -/
def writeBackendErrorResponse (state : RetryState) : Except SessionError Answer × RetryState :=
  match state.client.sink.writeAll backendError with
  | (false, sink) =>
    (.error (.ofIo state.client.failure), { state with client := { state.client with sink } })
  | (true, sink) =>
    match sink.flush with
    | (false, sink) =>
      (.error (.ofIo state.client.failure), { state with client := { state.client with sink } })
    | (true, sink) =>
      (.ok .backendError, { state with client := { state.client with sink } })

/-- An error after which the client gets no other response. -/
def endsRequest : SessionError → Bool
  | .clientDisconnect _ => true
  | error => error.blocksAnotherResponse

/-- The sweep of the first pass after a failed attempt. -/
def sweepBeforeRetry (router : BackendSelector) (request : RequestContext) (pass : Pass pool)
    (state : RetryState) : RetryState :=
  if state.isRetryAttempt && !state.retryStatSweepDone then
    { parallelRetryStatSweep router request pass state with retryStatSweepDone := true }
  else state

/-- The loop, from a pass on.  `none` means that it ran out of `fuel`. -/
def retryLoop (router : BackendSelector) (request : RequestContext) (retains : StatusCode → Bool)
    (passes : Nat → Pass pool) :
    Nat → Nat → RetryState → Option (Except SessionError Answer × RetryState)
  | 0, _, _ => none
  | fuel + 1, index, state =>
    if state.availability.allExhausted router.availabilityMask then
      some (send430ToClient state)
    else
      match tryBackendForArticle router request retains (passes index)
          (sweepBeforeRetry router request (passes index) state) with
      | (.ok .success, state) => some (.ok .backend, state)
      | (.ok .articleNotFound, state) | (.ok .backendUnavailable, state) =>
        retryLoop router request retains passes fuel (index + 1)
          { state with isRetryAttempt := true }
      | (.ok .noRetryableBackend, state) => some (writeBackendErrorResponse state)
      | (.error error, state) =>
        if endsRequest error then some (.error error, state)
        else retryLoop router request retains passes fuel (index + 1) state

/-- The state before the first pass. -/
def RetryState.start (availability : Option ArticleAvailability) (client : ClientWriter) :
    RetryState where
  availability := availability.getD .new
  unavailableBackends := .empty
  isRetryAttempt := false
  retryStatSweepDone := false
  client := client
  attempts := []

/-- Answer a request for an article.  One pass more than there are backends is enough. -/
def executeArticleRetryLoop (router : BackendSelector) (request : RequestContext)
    (retains : StatusCode → Bool) (passes : Nat → Pass pool)
    (availability : Option ArticleAvailability) (client : ClientWriter) :
    Option (Except SessionError Answer × RetryState) :=
  retryLoop router request retains passes (router.backends.length + 1) 0
    (.start availability client)

end NntpProxy.Retry
