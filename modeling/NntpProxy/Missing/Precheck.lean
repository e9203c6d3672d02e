import NntpProxy.Missing.Attempts

/-!
# Prechecks

A precheck asks the backends of a tier at the same time and goes on with the next tier only when
all of them miss the article.  A race ends with the first backend that has it; a task in the
background then takes what the others answer.  A precheck in the background waits for all of them
and records what they answered.
-/

namespace NntpProxy.Missing

open Data.Interaction Protocol Router Pool Session Transport PerCommand

/-! ## One backend -/

def classifyPrecheckResult (backend : ArticleBackend) (status : StatusCode) : QueryResult :=
  if 220 ≤ status.value ∧ status.value ≤ 223 then .found backend.backendId
  else if status.isArticleMissing then .missing backend
  else .error

/-- One attempt.  Without a result it may be made again. -/
def executeBackendQuery (backend : ArticleBackend) (request : RequestContext) :
    Work (Option QueryResult) := do
  match ← checkout backend.backendId with
  | none => return some .error
  | some conn =>
    match ← executeRequestExchange conn request with
    | some (some status, conn) =>
      match ← receive conn with
      | (.error _, _) => return none
      | (.ok (), conn) =>
        completeSuccess conn
        return some (classifyPrecheckResult backend status)
    | _ => return none

def queryBackend (backend : ArticleBackend) (request : RequestContext) : Work QueryResult := do
  match ← executeBackendQuery backend request with
  | some result => return result
  | none => return (← executeBackendQuery backend request).getD .error

/-- The backends of a tier that may have the article. -/
def eligibleBackendsInTier (router : BackendSelector) (tier : Nat)
    (availability : ArticleAvailability) : List ArticleBackend :=
  (router.backends.filter fun backend =>
    backend.tier == tier && availability.shouldTrySlot backend.availabilitySlot).map
      fun backend => ⟨backend.id, backend.availabilitySlot⟩

/-- Ask the backends of a tier, each by a task of its own. -/
def spawnBackendQueriesForTier (router : BackendSelector) (request : RequestContext) (tier : Nat)
    (availability : ArticleAvailability) : Work (List Ticket) :=
  spawnAll ((eligibleBackendsInTier router tier availability).map fun backend =>
    .queryBackend backend request)

/-! ## All backends -/

/-- Take so many results as they come. -/
def collectResults : Nat → List Ticket → Work (List QueryResult)
  | 0, _ => return []
  | count + 1, pending => do
      let (ticket, outcome) ← join pending
      let results ← collectResults count (pending.erase ticket)
      match outcome with
      | some (.queried result) => return result :: results
      | _ => return results

/-- Every backend misses the article. -/
def isExhausted (results : List QueryResult) : Bool :=
  results.all fun
    | .missing _ => true
    | _ => false

/-- Ask the backends tier by tier. -/
def queryAllBackends (router : BackendSelector) (request : RequestContext)
    (availability : ArticleAvailability) : List Nat → Work (List QueryResult)
  | [] => return []
  | tier :: tiers => do
      let pending ← spawnBackendQueriesForTier router request tier availability
      let results ← collectResults pending.length pending
      if isExhausted results then
        return results ++ (← queryAllBackends router request availability tiers)
      else return results

/-- Record what backends answered. -/
def recordPrecheckResults (messageId : Bytes) : List QueryResult → Work Unit
  | [] => return ()
  | .missing backend :: results => do
      recordAvailabilityMissing messageId backend.availabilitySlot
      recordPrecheckResults messageId results
  | _ :: results => recordPrecheckResults messageId results

/-- A precheck in the background. -/
def backgroundPrecheck (router : BackendSelector) (request : RequestContext) (messageId : Bytes) :
    Work Outcome := do
  if ← consult .cacheServes then return .nothing
  else
    match ← lookUp request with
    | .partialHit availability =>
      recordPrecheckResults messageId
        (← queryAllBackends router request availability router.sortedTiers)
      return .nothing
    | _ =>
      recordPrecheckResults messageId
        (← queryAllBackends router request .new router.sortedTiers)
      return .nothing

/-! ## Races -/

inductive RacingQueryOutcome where
  | hit
  | missing
  | inconclusive
  deriving DecidableEq, Repr

/-- The race of a tier, with so many results to come. -/
def raceTier (messageId : Bytes) : Nat → List Ticket → (exhausted : Bool) → Work RacingQueryOutcome
  | 0, _, exhausted => return if exhausted then .missing else .inconclusive
  | count + 1, pending, exhausted => do
      let (ticket, outcome) ← join pending
      match outcome with
      | some (.queried (.found _)) =>
        let _ ← spawn (.finishRace messageId (pending.erase ticket))
        return .hit
      | some (.queried (.missing backend)) =>
        recordAvailabilityMissing messageId backend.availabilitySlot
        raceTier messageId count (pending.erase ticket) exhausted
      | some (.queried .error) => raceTier messageId count (pending.erase ticket) false
      | _ => raceTier messageId count (pending.erase ticket) exhausted

/-- Race the backends tier by tier. -/
def queryAllBackendsRacing (router : BackendSelector) (request : RequestContext)
    (messageId : Bytes) (availability : ArticleAvailability) : List Nat → Work RacingQueryOutcome
  | [] => return .missing
  | tier :: tiers => do
      let pending ← spawnBackendQueriesForTier router request tier availability
      match ← raceTier messageId pending.length pending true with
      | .missing => queryAllBackendsRacing router request messageId availability tiers
      | outcome => return outcome

/-- Take what the backends answer that lost a race. -/
def finishRace (messageId : Bytes) (pending : List Ticket) : Work Outcome := do
  recordPrecheckResults messageId (← collectResults pending.length pending)
  return .nothing

/-! ## Before a request is routed -/

/-- What is found before a backend is chosen: the response was written, or could not be written, or
what is known about the article. -/
inductive PreparedRequest where
  | served
  | failed (error : SessionError)
  | goOn (availability : Option ArticleAvailability)
  deriving DecidableEq, Repr

/-- Write the response that a precheck found, unless there is none for the request. -/
def servePrecheck (availability : ArticleAvailability) : Work PreparedRequest := do
  if ← consult .cacheServes then
    match ← writeLocalLine with
    | .ok () => return .served
    | .error error => return .failed error
  else return .goOn (some availability)

variable (session : ClientSession) (request : RequestContext)

def tryAdaptivePrecheck (messageId : Bytes)
    (availability : ArticleAvailability) : Work PreparedRequest :=
  if session.prechecks request then do
    if ← consult .cacheServes then servePrecheck availability
    else
      match ← queryAllBackendsRacing session.router request messageId availability
          session.router.sortedTiers with
      | .hit => servePrecheck availability
      | _ => return .goOn (some availability)
  else return .goOn (some availability)

/-- Check the backends in the background when the cache has only what is known about them. -/
def spawnBackgroundPrecheck (messageId : Bytes) : Work Unit :=
  if !session.storesPayloads && session.adaptivePrecheck && request.kind == .stat then do
    let _ ← spawn (.backgroundPrecheck request messageId)
    return ()
  else return ()

def prepareRequestExecution :
    Work PreparedRequest :=
  match messageIdText request with
  | none => return .goOn none
  | some messageId => do
      match ← lookUp request with
      | .hit => return .served
      | .failed error => return .failed (.ofIo error)
      | .partialHit availability =>
        spawnBackgroundPrecheck session request messageId
        spawnNonPrimaryTierStatPrefetch session.router request availability .empty
        tryAdaptivePrecheck session request messageId availability
      | .miss =>
        spawnNonPrimaryTierStatPrefetch session.router request .new .empty
        tryAdaptivePrecheck session request messageId .new

/-- Answer a request from the cache, by a precheck or by a backend. -/
def routeAndExecuteRequest
    (lease : Option BackendLease) : Work (Except SessionError Unit × Option BackendLease) := do
  match ← prepareRequestExecution session request with
  | .served => return (.ok (), lease)
  | .failed error => return (.error error, lease)
  | .goOn availability => executeArticleRetryLoop session.router request availability lease

end NntpProxy.Missing
