import NntpProxy.Missing.World

/-!
# Attempts, sweeps and prefetches

The programs by which a request for an article is answered by backends: an attempt on the backend
that the router chooses, the loop over attempts, the sweep that asks all remaining backends with
STAT before the second attempt, and the prefetch that asks the backends of the further tiers in the
background.  A probe asks for the article of the request that it is made for: it has the arguments
of the request behind another verb.
-/

namespace NntpProxy.Missing

open Data.Interaction Protocol Router Pool Session Transport PerCommand
open Retry (BackendAttemptResult shouldUseStatMissingProbe endsRequest)

/-! ## Requests -/

def fromVerbArgs (verb args : Bytes) : RequestContext :=
  ⟨classifyVerb verb, verb, args, findMessageId args⟩

/-- The request that asks for the same article without its text. -/
def statProbeRequest (request : RequestContext) : RequestContext :=
  fromVerbArgs (ascii "STAT") request.args

/-- The requests for articles by their message identifiers: which article is meant. -/
def articleLookupRequest (request : RequestContext) : Option Bytes :=
  if request.isPipelineable then messageIdText request else none

/-- Record that a provider misses the article of a request, if the request is for one. -/
def recordArticleMissing (request : RequestContext) (slot : AvailabilitySlot) : Work Unit :=
  match articleLookupRequest request with
  | some messageId => recordAvailabilityMissing messageId slot
  | none => return ()

/-! ## Connections -/

/-- Return a connection to its pool.  The last response on it has to be read, with nothing queued
behind it. -/
def completeSuccess (conn : Connection) : Work Unit :=
  match conn.reuseAfterResponse with
  | .reusable => giveBack conn
  | _ => halt

def checkoutDirectBackendConnection (id : BackendId) (lease : Option BackendLease) :
    Work (Option Connection × Option BackendLease) := do
  let canExpandOrUseIdle ← consult .poolHasRoom
  match lease with
  | none => return (← checkout id, none)
  | some cached =>
    if cached.backendId = id then
      if ← consult .leaseIsHealthy then
        if canExpandOrUseIdle then
          match ← checkout id with
          | some conn => return (some conn, some cached)
          | none => return (some cached.connection, none)
        else return (some cached.connection, none)
      else return (← checkout id, none)
    else
      completeSuccess cached.connection
      return (← checkout id, none)

/-- Send a request and read the status of its response. -/
def executeRequestExchange (conn : Connection) (request : RequestContext) :
    Work (Option (Option StatusCode × Connection)) := do
  match ← write conn request with
  | none => return none
  | some conn => readStatus conn

def releaseOrReuseConnection (conn : Connection) (id : BackendId) (lease : Option BackendLease) :
    Work (Option BackendLease) :=
  match conn.reuseAfterResponse.poolFate with
  | .backendHealthy =>
    match lease with
    | none => return some ⟨id, conn⟩
    | some kept => do
        completeSuccess conn
        return some kept
  | .backendDirty | .backendFailed => return lease

/-- Give up a connection after a failed transfer. -/
def handleResponseTransferError (conn : Connection) (error : ResponseTransferError) : Work Unit :=
  match poolFate error conn.reuseAfterResponse with
  | .backendHealthy => completeSuccess conn
  | .backendDirty | .backendFailed => return ()

/-- Use a connection again behind an invalid response when it answers DATE. -/
def salvageWithHealthCheck (conn : Connection) : Work Outcome := do
  match ← executeRequestExchange conn (fromVerbArgs (ascii "DATE") []) with
  | some (some status, conn) =>
    if status.value = 111 then do
      giveBack conn
      return .nothing
    else return .nothing
  | _ => return .nothing

/-! ## Attempts -/

/-- What is carried from attempt to attempt of a request. -/
structure AttemptState where
  availability : ArticleAvailability
  unavailableBackends : SuppressedBackends
  lease : Option BackendLease
  deriving DecidableEq, Repr

namespace AttemptState

def suppress (state : AttemptState) (id : BackendId) : AttemptState :=
  { state with unavailableBackends := state.unavailableBackends.suppress id }

def recordMissing (state : AttemptState) (slot : AvailabilitySlot) : AttemptState :=
  { state with availability := state.availability.recordMissingSlot slot }

def withLease (state : AttemptState) (lease : Option BackendLease) : AttemptState :=
  { state with lease := lease }

end AttemptState

def executeBackendAttempt (backend : BackendInfo) (request : RequestContext)
    (isRetryAttempt : Bool) (lease : Option BackendLease) :
    Work (Option (Option StatusCode × Connection) × Option BackendLease) := do
  match ← checkoutDirectBackendConnection backend.id lease with
  | (none, lease) => return (none, lease)
  | (some conn, lease) =>
    if shouldUseStatMissingProbe backend request isRetryAttempt then
      match ← executeRequestExchange conn (statProbeRequest request) with
      | none => return (none, lease)
      | some (status, conn) =>
        if status.any (·.isArticleMissing) then return (some (status, conn), lease)
        else
          match ← receive conn with
          | (.error _, _) => return (none, lease)
          | (.ok (), conn) => return (← executeRequestExchange conn request, lease)
    else return (← executeRequestExchange conn request, lease)

/-- Try a second time when the first attempt failed. -/
def retryOnce {Result : Type}
    (attempt : Option BackendLease → Work (Option Result × Option BackendLease))
    (lease : Option BackendLease) : Work (Option Result × Option BackendLease) := do
  match ← attempt lease with
  | (none, lease) => attempt lease
  | (some result, lease) => return (some result, lease)

/-- Execute a request, at most twice, and suppress the backend when there is no valid response. -/
def prepareBackendAttempt (backend : BackendInfo) (request : RequestContext)
    (isRetryAttempt : Bool) (state : AttemptState) :
    Work (Option (StatusCode × Connection) × AttemptState) := do
  match ← retryOnce (executeBackendAttempt backend request isRetryAttempt) state.lease with
  | (none, lease) => return (none, (state.withLease lease).suppress backend.id)
  | (some (none, conn), lease) =>
    let _ ← spawn (.salvage conn)
    return (none, (state.withLease lease).suppress backend.id)
  | (some (some status, conn), lease) => return (some (status, conn), state.withLease lease)

def tryBackendForArticle (router : BackendSelector) (request : RequestContext)
    (isRetryAttempt : Bool) (state : AttemptState) :
    Work (Except SessionError BackendAttemptResult × AttemptState) := do
  match router.selectBackend (← snapshot) (some state.availability) state.unavailableBackends with
  | none => return (.ok .noRetryableBackend, state)
  | some backend =>
    match ← prepareBackendAttempt backend request isRetryAttempt state with
    | (none, state) => return (.ok .backendUnavailable, state)
    | (some (status, conn), state) =>
      if status.isArticleMissing then
        recordArticleMissing request backend.availabilitySlot
        let state := state.recordMissing backend.availabilitySlot
        match ← receive conn with
        | (.error error, _) => return (.error (.ofTransfer error), state)
        | (.ok (), conn) =>
          let lease ← releaseOrReuseConnection conn backend.id state.lease
          return (.ok .articleNotFound, state.withLease lease)
      else
        match ← receive conn with
        | (.ok (), conn) =>
          let lease ← releaseOrReuseConnection conn backend.id state.lease
          return (.ok .success, state.withLease lease)
        | (.error error, conn) =>
          handleResponseTransferError conn error
          match SessionError.ofTransfer error with
          | .clientDisconnect cause => return (.error (.clientDisconnect cause), state)
          | error => return (.error error, state.suppress backend.id)

/-! ## Probes -/

/-- Ask one backend with STAT; the connection is dropped behind the response. -/
def statProbe (id : BackendId) (statRequest : RequestContext) : Work RetryStatProbeOutcome := do
  match ← checkout id with
  | none => return .unavailable id
  | some conn =>
    match ← executeRequestExchange conn statRequest with
    | none => return .unavailable id
    | some (status, conn) =>
      match ← receive conn with
      | (.error _, _) => return .unavailable id
      | (.ok (), _) =>
        if status.any (·.isArticleMissing) then return .missing id else return .present

/-- The backends that are asked with STAT, of the tiers from the first one on. -/
def probeCandidates (router : BackendSelector) (firstTier : Nat)
    (availability : ArticleAvailability) (unavailableBackends : SuppressedBackends) :
    List BackendInfo :=
  (router.sortedTiers.filter (firstTier ≤ ·)).flatMap fun tier =>
    router.backends.filter fun backend =>
      backend.tier == tier && !unavailableBackends.contains backend.id &&
        availability.shouldTrySlot backend.availabilitySlot && backend.statMissingEnabled

/-- Record the outcome of a probe of a sweep. -/
def recordProbe (router : BackendSelector) (request : RequestContext) (state : AttemptState) :
    Option Outcome → Work AttemptState
  | some (.probed (.missing id)) =>
    match router.availabilitySlot id with
    | none => return state
    | some slot => do
        recordArticleMissing request slot
        return state.recordMissing slot
  | some (.probed (.unavailable id)) => return state.suppress id
  | _ => return state

/-- Take so many outcomes of probes as they come. -/
def recordProbes (router : BackendSelector) (request : RequestContext) :
    Nat → List Ticket → AttemptState → Work AttemptState
  | 0, _, state => return state
  | count + 1, probes, state => do
      let (ticket, outcome) ← join probes
      let state ← recordProbe router request state outcome
      recordProbes router request count (probes.erase ticket) state

def parallelRetryStatSweep (router : BackendSelector) (request : RequestContext)
    (state : AttemptState) : Work AttemptState :=
  let candidates := probeCandidates router 0 state.availability state.unavailableBackends
  if !request.hasMessageId || !([RequestKind.article, .body, .head].contains request.kind) then
    return state
  else if candidates.length < 2 then return state
  else do
    let probes ← spawnAll
      (candidates.map fun backend => .retryProbe backend.id (statProbeRequest request))
    recordProbes router request probes.length probes state

def prefetchProbe (backend : ArticleBackend) (statRequest : RequestContext) (messageId : Bytes) :
    Work Outcome := do
  match ← checkout backend.backendId with
  | none => return .nothing
  | some conn =>
    match ← executeRequestExchange conn statRequest with
    | none => return .nothing
    | some (status, conn) =>
      match ← receive conn with
      | (.error _, _) => return .nothing
      | (.ok (), _) =>
        if status.any (·.isArticleMissing) then do
          recordAvailabilityMissing messageId backend.availabilitySlot
          return .nothing
        else return .nothing

/-- Ask the backends of the further tiers in the background, each by a task of its own. -/
def spawnNonPrimaryTierStatPrefetch (router : BackendSelector) (request : RequestContext)
    (availability : ArticleAvailability) (unavailableBackends : SuppressedBackends) : Work Unit :=
  if !([RequestKind.article, .body].contains request.kind) then return ()
  else
    match messageIdText request with
    | none => return ()
    | some messageId => do
        let _ ← spawnAll ((probeCandidates router 1 availability unavailableBackends).map
          fun backend => .prefetchProbe ⟨backend.id, backend.availabilitySlot⟩
            (statProbeRequest request) messageId)
        return ()

/-! ## The loop -/

/-- Write a local line to the client. -/
def writeLocalLine : Work (Except SessionError Unit) := do
  match ← writeClient with
  | .ok () => return .ok ()
  | .error error => return .error (.ofIo error)

/-- The sweep of the first pass after a failed attempt. -/
def sweepBeforeRetry (router : BackendSelector) (request : RequestContext)
    (isRetryAttempt retryStatSweepDone : Bool) (state : AttemptState) : Work AttemptState :=
  if isRetryAttempt && !retryStatSweepDone then parallelRetryStatSweep router request state
  else return state

/-- The loop, for no more than this many passes. -/
def retryLoop (router : BackendSelector) (request : RequestContext) :
    Nat → (isRetryAttempt retryStatSweepDone : Bool) → AttemptState →
      Work (Except SessionError Unit × Option BackendLease)
  | 0, _, _, _ => halt
  | passes + 1, isRetryAttempt, retryStatSweepDone, state =>
    if state.availability.allExhausted router.availabilityMask then do
      return (← writeLocalLine, state.lease)
    else do
      let state ← sweepBeforeRetry router request isRetryAttempt retryStatSweepDone state
      match ← tryBackendForArticle router request isRetryAttempt state with
      | (.ok .success, state) => return (.ok (), state.lease)
      | (.ok .articleNotFound, state) | (.ok .backendUnavailable, state) =>
        retryLoop router request passes true (isRetryAttempt || retryStatSweepDone) state
      | (.ok .noRetryableBackend, state) => return (← writeLocalLine, state.lease)
      | (.error error, state) =>
        if endsRequest error then return (.error error, state.lease)
        else
          retryLoop router request passes isRetryAttempt (isRetryAttempt || retryStatSweepDone)
            state

/-- The prefetch of the first pass. -/
def prefetchBeforeAttempt (router : BackendSelector) (request : RequestContext)
    (availability : ArticleAvailability) : Work Unit :=
  if availability.allExhausted router.availabilityMask then return ()
  else spawnNonPrimaryTierStatPrefetch router request availability .empty

/-- Answer a request for an article.  One pass more than there are backends is enough. -/
def executeArticleRetryLoop (router : BackendSelector) (request : RequestContext)
    (availability : Option ArticleAvailability) (lease : Option BackendLease) :
    Work (Except SessionError Unit × Option BackendLease) := do
  prefetchBeforeAttempt router request (availability.getD .new)
  retryLoop router request (router.backends.length + 1) false false
    ⟨availability.getD .new, .empty, lease⟩

end NntpProxy.Missing
