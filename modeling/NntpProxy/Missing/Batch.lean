import NntpProxy.Missing.Precheck

/-!
# Batches

A batch of requests goes through the article window of the only backend, or its requests are
executed one after the other.  All requests that a window sends share one connection, which answers
them in their order.  Many batches of many clients run at the same time, together with the tasks
that they spawn.
-/

namespace NntpProxy.Missing

open Data.Interaction Protocol Router Pool Session Transport PerCommand

/-! ## Commands -/

/-- Execute a command.  A command that is not forwarded is answered locally. -/
def processSingleCommand (session : ClientSession) (access : AuthenticationAccess)
    (request : RequestContext) (lease : Option BackendLease) :
    Work (Except SessionError Unit × Option BackendLease) :=
  if request.kind ≠ .quit ∧ classifyRequest request access session.routingMode = .forward then
    routeAndExecuteRequest session request lease
  else do
    return (← writeLocalLine, lease)

/-- Execute commands one after the other. -/
def executePipelineableCommands (session : ClientSession) (access : AuthenticationAccess) :
    List RequestContext → Option BackendLease →
      Work (Except SessionError Unit × Option BackendLease)
  | [], lease => return (.ok (), lease)
  | request :: requests, lease => do
      match ← processSingleCommand session access request lease with
      | (.error error, lease) => return (.error error, lease)
      | (.ok (), lease) => executePipelineableCommands session access requests lease

/-! ## Responses of a window -/

/-- Give up the connection of a window behind a response that the client did not get. -/
def failTransfer (conn : Connection) (error : ResponseTransferError) :
    Work (Except AlreadySentResponseError Connection) := do
  handleResponseTransferError conn error
  return .error (.transfer (.ofTransfer error))

/-- Read a response to its end and write to the client. -/
def finishResponse (conn : Connection) : Work (Except AlreadySentResponseError Connection) := do
  match ← receive conn with
  | (.error error, conn) => failTransfer conn error
  | (.ok (), conn) =>
    match ← writeClient with
    | .ok () => return .ok conn
    | .error error => failTransfer conn (.fromClientWrite error)

/-- Read the response to a request that was sent and forward it. -/
def forwardResponseForAlreadySentRequest (slot : AvailabilitySlot) (request : RequestContext)
    (conn : Connection) : Work (Except AlreadySentResponseError Connection) := do
  match ← readStatus conn with
  | some (some status, conn) =>
    if status.isArticleMissing then
      recordArticleMissing request slot
      finishResponse conn
    else finishResponse conn
  | _ => return .error .read

/-! ## Requests of a window -/

/-- What writing requests up to the size of the window did. -/
structure Filled where
  conn : Connection
  entries : List WindowEntry
  inFlight : Nat
  refilled : Bool
  deriving DecidableEq, Repr

namespace Filled

/-- An entry in front that was not sent now. -/
def skip (filled : Filled) (entry : WindowEntry) : Filled :=
  { filled with entries := entry :: filled.entries }

/-- An entry in front that was sent. -/
def send (filled : Filled) (entry : WindowEntry) : Filled :=
  { filled with
    entries := { entry with route := .sendUpstream true } :: filled.entries
    refilled := true }

end Filled

/-- Write requests that were not sent, in their order, until the window is full. -/
def fillWindow : Nat → Connection → List WindowEntry → Work (Option Filled)
  | inFlight, conn, [] => return some ⟨conn, [], inFlight, false⟩
  | inFlight, conn, entry :: rest =>
    if maxUpstreamArticleWindow ≤ inFlight then
      return some ⟨conn, entry :: rest, inFlight, false⟩
    else
      match entry.route with
      | .sendUpstream false => do
          match ← write conn entry.request with
          | none => return none
          | some conn => return (← fillWindow (inFlight + 1) conn rest).map (·.send entry)
      | _ => do
          return (← fillWindow inFlight conn rest).map (·.skip entry)

/-- Write requests behind a response; they are flushed only when there are some. -/
def refillWindow (inFlight : Nat) (conn : Connection) (entries : List WindowEntry) :
    Work (Option Filled) := do
  match ← fillWindow inFlight conn entries with
  | none => return none
  | some filled =>
    if filled.refilled then
      if ← consult .requestsFlushed then return some filled else return none
    else return some filled

/-- A request that was not sent with the others is written and flushed before its response is
read. -/
def writeUnsentRequest (inFlight : Nat) (conn : Connection) (request : RequestContext)
    (sent : Bool) : Work (Option (Nat × Connection)) :=
  if sent then return some (inFlight, conn)
  else do
    match ← write conn request with
    | none => return none
    | some conn =>
      if ← consult .requestsFlushed then return some (inFlight + 1, conn) else return none

/-! ## The window -/

/-- Read and forward the responses, for no more than this many requests.  When the connection
fails the requests without a response are executed one after the other. -/
def forwardSentArticleWindowResponses (session : ClientSession) (access : AuthenticationAccess)
    (backend : ArticleBackend) (lease : Option BackendLease) :
    Nat → Nat → Connection → List WindowEntry →
      Work (Except SessionError Unit × Option BackendLease)
  | _, _, conn, [] => do
      match ← writeLocalLine with
      | .error error => return (.error error, lease)
      | .ok () =>
        if conn.pending = 0 then return (.ok (), some ⟨backend.backendId, conn⟩)
        else return (.ok (), lease)
  | 0, _, _, _ :: _ => halt
  | size + 1, inFlight, conn, entry :: rest =>
    match entry.route with
    | .knownMissing => do
        match ← writeLocalLine with
        | .error error => return (.error error, lease)
        | .ok () =>
          forwardSentArticleWindowResponses session access backend lease size inFlight conn rest
    | .sendUpstream sent => do
        match ← writeUnsentRequest inFlight conn entry.request sent with
        | none =>
          executePipelineableCommands session access
            ((entry :: rest).map (·.request)) lease
        | some (inFlight, conn) =>
          match ← forwardResponseForAlreadySentRequest backend.availabilitySlot entry.request
              conn with
          | .error .read =>
            executePipelineableCommands session access ((entry :: rest).map (·.request)) lease
          | .error (.transfer error) => return (.error error, lease)
          | .ok conn =>
            match ← refillWindow (inFlight - 1) conn rest with
            | none => executePipelineableCommands session access (rest.map (·.request)) lease
            | some filled =>
              forwardSentArticleWindowResponses session access backend lease size
                filled.inFlight filled.conn filled.entries

/-- What is known about the articles of the requests. -/
def loadCachedArticleAvailability :
    List RequestContext → Work (List (RequestContext × ArticleAvailability))
  | [] => return []
  | request :: requests => do
      match ← lookUp request with
      | .partialHit availability =>
        return (request, availability) :: (← loadCachedArticleAvailability requests)
      | _ => return (request, .new) :: (← loadCachedArticleAvailability requests)

/-- Answer a batch that is known to be missing. -/
def writeKnownMissingResponses : Nat → Work (Except SessionError Unit)
  | 0 => writeLocalLine
  | count + 1 => do
      match ← writeLocalLine with
      | .error error => return .error error
      | .ok () => writeKnownMissingResponses count

section

variable (session : ClientSession) (access : AuthenticationAccess) (backend : ArticleBackend)

/-- Send the first requests of a window.  When they cannot be sent all requests are executed one
after the other. -/
def transitionRoutedArticleWindowToSent (entries : List WindowEntry) (lease : Option BackendLease) :
    Work (Except SessionError Unit × Option BackendLease) := do
  match ← checkoutDirectBackendConnection backend.backendId lease with
  | (none, lease) => executePipelineableCommands session access (entries.map (·.request)) lease
  | (some conn, lease) =>
    match ← fillWindow 0 conn entries with
    | none => executePipelineableCommands session access (entries.map (·.request)) lease
    | some filled =>
      if ← consult .requestsFlushed then
        forwardSentArticleWindowResponses session access backend lease entries.length
          filled.inFlight filled.conn filled.entries
      else executePipelineableCommands session access (entries.map (·.request)) lease

/-- Execute a batch through the window of its backend. -/
def forwardSingleBackendArticleWindow (requests : List RequestContext)
    (lease : Option BackendLease) :
    Work (Except SessionError Unit × Option BackendLease) := do
  let known ← loadCachedArticleAvailability requests
  let entries := routeArticleWindowRequests backend.availabilitySlot known
  if (upstreamKinds entries).isEmpty then
    return (← writeKnownMissingResponses entries.length, lease)
  else transitionRoutedArticleWindowToSent session access backend entries lease

end

/-! ## Batches -/

section

variable (session : ClientSession) (access : AuthenticationAccess)

/-- The only backend, when the batch can go through its window. -/
def selectSingleBackendArticleWindow
    (requests : List PipelineableRequest) : Option ArticleBackend :=
  match PerCommand.selectSingleBackendArticleWindow session access requests with
  | none => none
  | some slot => session.router.backends.head?.map fun backend => ⟨backend.id, slot⟩

def executePipelineableBatch (requests : List PipelineableRequest) (lease : Option BackendLease) :
    Work (Except SessionError Unit × Option BackendLease) :=
  match selectSingleBackendArticleWindow session access requests with
  | none => executePipelineableCommands session access (requests.map (·.request)) lease
  | some backend =>
    forwardSingleBackendArticleWindow session access backend (requests.map (·.request)) lease

/-- Execute what stands behind the requests of a batch. -/
def handleTrailingCommand (trailing : BatchTail) (lease : Option BackendLease) :
    Work (Except SessionError Unit × Option BackendLease) :=
  match trailing with
  | .none => return (.ok (), lease)
  | .rejection _ => do
      return (← writeLocalLine, lease)
  | .context request => processSingleCommand session access request lease

/-- The end of a batch.  The connection that it kept is returned unless the batch failed. -/
def finishCommandBatch
    (trailing : BatchTail) : Except SessionError Unit × Option BackendLease → Work Outcome
  | (.error _, _) => return .nothing
  | (.ok (), lease) => do
      match ← handleTrailingCommand session access trailing lease with
      | (.ok (), some kept) =>
        completeSuccess kept.connection
        return .nothing
      | _ => return .nothing

/-- Execute a batch. -/
def handleCommandBatch (requests : List PipelineableRequest)
    (trailing : BatchTail) : Work Outcome := do
  finishCommandBatch session access trailing
    (← executePipelineableBatch session access requests none)

end

/-! ## The machine -/

/-- The tasks: the batches of the clients and the tasks that were spawned. -/
inductive Label where
  | batch (access : AuthenticationAccess) (requests : List PipelineableRequest)
      (trailing : BatchTail)
  | child (ticket : Ticket) (job : Job)
  deriving DecidableEq, Repr

/-- The requests of a batch. -/
def batchRequests (requests : List PipelineableRequest) (trailing : BatchTail) :
    List RequestContext :=
  requests.map (·.request) ++
    match trailing with
    | .context request => [request]
    | _ => []

/-- The program of a task that was spawned. -/
def runJob (router : BackendSelector) : Job → Work Outcome
  | .salvage conn => salvageWithHealthCheck conn
  | .retryProbe id statRequest => do
      return .probed (← statProbe id statRequest)
  | .prefetchProbe backend statRequest messageId => prefetchProbe backend statRequest messageId
  | .queryBackend backend request => do
      return .queried (← queryBackend backend request)
  | .finishRace messageId pending => finishRace messageId pending
  | .backgroundPrecheck request messageId => backgroundPrecheck router request messageId

/-- All tasks of a proxy whose sessions are like this one.  A session in stateful mode has no
batches, and the requests of a batch are as they were parsed. -/
def machine (session : ClientSession) :
    Machine World Label Question Answer Outcome Choice where
  starts
    | .batch _ requests trailing =>
      session.routingMode != .stateful &&
        (batchRequests requests trailing).all fun request =>
          request.messageId == findMessageId request.args
    | .child _ _ => true
  launch world
    | .batch access requests trailing =>
      some (world, handleCommandBatch session access requests trailing)
    | .child ticket job =>
      if (ticket, job) ∈ world.waiting then
        some ({ world with waiting := world.waiting.erase (ticket, job) },
          runJob session.router job)
      else none
  answer := answer
  finish world
    | .batch _ _ _, _ => world
    | .child ticket _, outcome => world.note [.finished ticket outcome]

end NntpProxy.Missing
