import NntpProxy.Cache.Article
import NntpProxy.PerCommand.Reader
import NntpProxy.PerCommand.Window
import NntpProxy.Session.Transcript
import NntpProxy.Stateful.Loop

/-!
# The per-command session loop

The loop reads a batch of commands, executes it and reads the next one.  A command is
answered locally, from the cache, by a precheck or by a backend; the requests of a batch go
through the article window when there is only one backend.  A command that needs a dedicated
backend ends the loop in hybrid mode.

What the surroundings do is given for every command: what the cache knows about its article,
what a precheck finds and what the retry loop meets.  The loop keeps a record of its turns; a
command that is routed counts as written to a backend, wherever its answer comes from.
-/

namespace NntpProxy.PerCommand

open Protocol Session Framing Transport Router Pool Retry Cache NntpProxy.Stream

variable {pool : BufferPool}

/-! ## Sessions and their surroundings -/

/-- What a session works with. -/
structure ClientSession where
  router : BackendSelector
  authHandler : AuthHandler
  routingMode : RoutingMode
  storesPayloads : Bool
  adaptivePrecheck : Bool

/-- What a precheck found: an entry that the cache has now, or the response of a backend. -/
inductive PrecheckResponse (kind : RequestKind) where
  | cached (entry : CachedArticle)
  | direct (response : Response kind)

/-- The surroundings of a command: the entry of its article, what a precheck finds and what
its retry loop meets. -/
structure RequestWorld (pool : BufferPool) where
  cached : Option CachedArticle
  precheck : (kind : RequestKind) → Option (PrecheckResponse kind)
  passes : Nat → Pass pool

/-- The surroundings of a batch: what is known about the articles of a window, the window, and
the commands. -/
structure BatchWorld (pool : BufferPool) where
  availability : Nat → ArticleAvailability
  window : WindowWorld pool
  requests : Nat → RequestWorld pool
  trailing : RequestWorld pool

/-! ## The state of the loop -/

/-- The state of the loop with the client's writer, and a record of its turns. -/
structure PerCommandLoopState where
  client : ClientWriter
  access : AuthenticationAccess
  authUsername : ClientAuthState
  identity : Option Username
  clientToBackend : Nat
  turns : List Turn

/-- Why a command ended the session without leaving the loop. -/
inductive CommandError where
  | session (error : SessionError)
  | invalidUsername
  | statefulCommand
  | unexpectedQuit
  deriving DecidableEq, Repr

inductive SingleCommandResult where
  | goOn
  | quit
  deriving DecidableEq, Repr

namespace PerCommandLoopState

/-- The state before the first command. -/
def new (handler : AuthHandler) (client : ClientWriter) : PerCommandLoopState where
  client := client
  access := .fromAuthEnabled handler.isEnabled
  authUsername := .anonymous
  identity := none
  clientToBackend := 0
  turns := []

variable (state : PerCommandLoopState)

/-- Record a turn after which the client's writer and the user are these. -/
def turn (request : Option RequestContext) (toBackend : Bytes) (client : ClientWriter)
    (identity : Option Username) : PerCommandLoopState :=
  { state with
    client := client
    identity := identity
    turns := state.turns ++
      [⟨request, toBackend, client.sink.accepted.drop state.client.sink.accepted.length,
        identity⟩] }

/-- Access refreshed from the published identity. -/
def refreshed : PerCommandLoopState :=
  { state with access := Stateful.StatefulLoop.authenticationAccess state.identity state.access }

/-- Count a request. -/
def counted (request : RequestContext) : PerCommandLoopState :=
  { state with clientToBackend := state.clientToBackend + request.requestWireLen }

/-- Count the octets of a window. -/
def countedWindow (octets : Nat) : PerCommandLoopState :=
  { state with clientToBackend := state.clientToBackend + octets }

/-- Write a local reply. -/
def writeLocal (request : Option RequestContext) (reply : Bytes) :
    Except CommandError Unit × PerCommandLoopState :=
  match state.client.sink.writeAll reply with
  | (false, sink) =>
    (.error (.session (.ofIo state.client.failure)),
      state.turn request [] { state.client with sink := sink } state.identity)
  | (true, sink) =>
    (.ok (), state.turn request [] { state.client with sink := sink } state.identity)

end PerCommandLoopState

/-! ## Routing a request -/

/-- The text of the message identifier. -/
def messageIdText (request : RequestContext) : Option Bytes :=
  request.messageId.map fun (start, stop) => (request.args.take stop).drop start

inductive CacheAction where
  | captureArticle
  | trackAvailability
  | trackStat
  | none
  deriving DecidableEq, Repr

/-- What a response means for the cache. -/
def determineCacheActionForRequest (request : RequestContext) (status : StatusCode)
    (storesPayloads : Bool) : CacheAction :=
  if !request.isPipelineable then .none
  else
    let hasResponseBody := requestKindHasResponseBody request.kind status
    if storesPayloads && hasResponseBody && (status.value == 220 || status.value == 222) then
      .captureArticle
    else if hasResponseBody && decide (220 ≤ status.value ∧ status.value ≤ 223) then
      .trackAvailability
    else if status.value == 223 then .trackStat
    else .none

/-- The response need not be kept while it is written. -/
def canDiscardResponseAfterWrite (request : RequestContext) (action : CacheAction) : Bool :=
  [RequestKind.article, .body, .head].contains request.kind &&
    (action == .trackAvailability || action == .none)

/-- The response is kept while it is written. -/
def ClientSession.retains (session : ClientSession) (request : RequestContext)
    (status : StatusCode) : Bool :=
  !canDiscardResponseAfterWrite request
    (determineCacheActionForRequest request status session.storesPayloads)

/-- A precheck is made for the request. -/
def ClientSession.prechecks (session : ClientSession) (request : RequestContext) : Bool :=
  session.adaptivePrecheck &&
    (request.kind == .stat || (request.kind == .head && session.storesPayloads))

/-- What is found before a backend is chosen: the pieces of a response, or what is known about
the article. -/
inductive PreparedRequest where
  | served (pieces : List Bytes)
  | goOn (availability : Option ArticleAvailability)

/-- Look for a response in the cache and with a precheck. -/
def prepareRequestExecution (session : ClientSession) (world : RequestWorld pool)
    (request : RequestContext) : PreparedRequest :=
  match messageIdText request with
  | none => .goOn none
  | some messageId =>
    let fromEntry (entry : CachedArticle) : Option (List Bytes) :=
      (entry.cachedResponseFor request.kind messageId).map (·.slices)
    let stored := if session.storesPayloads then world.cached.bind fromEntry else none
    let prechecked :=
      if session.prechecks request then
        match world.precheck request.kind with
        | none => none
        | some (.cached entry) => fromEntry entry
        | some (.direct response) => some [response.bytes]
      else none
    match stored.or prechecked with
    | some pieces => .served pieces
    | none => .goOn (some ((world.cached.map (·.backendAvailability)).getD .new))

/-- Write the pieces of a response and flush them. -/
def writeAndFlush (client : ClientWriter) (pieces : List Bytes) :
    Except CommandError Unit × ClientWriter :=
  match client.sink.writePieces pieces with
  | (false, sink) => (.error (.session (.ofIo client.failure)), { client with sink := sink })
  | (true, sink) =>
    match sink.flush with
    | (false, sink) => (.error (.session (.ofIo client.failure)), { client with sink := sink })
    | (true, sink) => (.ok (), { client with sink := sink })

/-- Answer a request from the cache, by a precheck or by a backend. -/
def routeAndExecuteRequest (session : ClientSession) (world : RequestWorld pool)
    (request : RequestContext) (client : ClientWriter) :
    Option (Except CommandError Unit × ClientWriter) :=
  match prepareRequestExecution session world request with
  | .served pieces => some (writeAndFlush client pieces)
  | .goOn availability =>
    match executeArticleRetryLoop session.router request (session.retains request) world.passes
        availability client with
    | none => none
    | some (.error error, state) => some (.error (.session error), state.client)
    | some (.ok _, state) => some (.ok (), state.client)

/-! ## One command -/

/-- Answer an `AUTHINFO` command; the state is kept only once the reply was written. -/
def handleInterceptAuth (session : ClientSession) (action : AuthAction) (request : RequestContext)
    (state : PerCommandLoopState) : Except CommandError Unit × PerCommandLoopState :=
  match handleAuthCommand session.authHandler action state.authUsername state.identity with
  | none => (.error .invalidUsername, state.turn (some request) [] state.client state.identity)
  | some result =>
    match state.client.sink.writeAll result.reply with
    | (false, sink) =>
      (.error (.session (.ofIo state.client.failure)),
        state.turn (some request) [] { state.client with sink := sink } state.identity)
    | (true, sink) =>
      (.ok (),
        { state.turn (some request) [] { state.client with sink := sink }
            (result.recorded state.identity) with
          authUsername := result.state })

section

variable (session : ClientSession) (world : RequestWorld pool) (request : RequestContext)

/-- Route a request and record that it was. -/
def handleForwardDecision (state : PerCommandLoopState) :
    Option (Except CommandError Unit × PerCommandLoopState) :=
  (routeAndExecuteRequest session world request state.client).map fun (result, client) =>
    (result, state.turn (some request) request.wire client state.identity)

/-- Execute a command whose plan is known. -/
def processSingleCommandWithPlan (plan : CommandPlan) (state : PerCommandLoopState) :
    Option (Except CommandError SingleCommandResult × PerCommandLoopState) :=
  let goOn (outcome : Except CommandError Unit × PerCommandLoopState) :
      Except CommandError SingleCommandResult × PerCommandLoopState :=
    (outcome.1.map fun _ => .goOn, outcome.2)
  if request.kind = .quit then
    let outcome := state.writeLocal (some request) connectionClosing
    some (outcome.1.map fun _ => .quit, outcome.2)
  else
    match plan with
    | .interceptAuth action => some (goOn (handleInterceptAuth session action request state))
    | .forward => (handleForwardDecision session world request state).map goOn
    | .requireAuth => some (goOn (state.writeLocal (some request) authRequiredForCommand))
    | .switchToStateful _ =>
      some (.error .statefulCommand, state.turn (some request) [] state.client state.identity)
    | .reject response => some (goOn (state.writeLocal (some request) response))
    | .interceptCapabilities =>
      some (goOn (state.writeLocal (some request)
        (capabilitiesResponse (!state.access.canAccessBackend))))

def processSingleCommand (state : PerCommandLoopState) :
    Option (Except CommandError SingleCommandResult × PerCommandLoopState) :=
  processSingleCommandWithPlan session world request
    (classifyRequest request state.access session.routingMode) state

end

/-! ## The requests of a batch -/

/-- The slot of the only backend, when the batch can go through its window. -/
def selectSingleBackendArticleWindow (session : ClientSession) (access : AuthenticationAccess)
    (requests : List PipelineableRequest) : Option AvailabilitySlot :=
  if requests.length < 2 || session.router.backends.length != 1 || session.storesPayloads ||
      !access.canAccessBackend || requests.any (fun request =>
        !([RequestKind.article, .body, .head].contains request.request.kind) ||
          classifyRequest request.request access session.routingMode != .forward) then none
  else
    match (session.router.sortedTiers.flatMap fun tier =>
        session.router.backends.filter (·.tier == tier)).head? with
    | none => none
    | some backend => if backend.statMissingEnabled then none else some backend.availabilitySlot

/-- The requests of a window, each with what is known about its article. -/
def windowBatch (world : BatchWorld pool) (requests : List PipelineableRequest) :
    List (RequestContext × ArticleAvailability) :=
  requests.mapIdx fun index request => (request.request, world.availability index)

/-- Execute requests one after the other, the first of which has this number. -/
def executePipelineableCommands (session : ClientSession) (world : BatchWorld pool) :
    Nat → List PipelineableRequest → PerCommandLoopState →
      Option (Except CommandError Unit × PerCommandLoopState)
  | _, [], state => some (.ok (), state)
  | index, request :: requests, state =>
    match processSingleCommand session (world.requests index) request.request
        (state.counted request.request).refreshed with
    | none => none
    | some (.error error, state) => some (.error error, state)
    | some (.ok .quit, state) => some (.error .unexpectedQuit, state)
    | some (.ok .goOn, state) =>
      executePipelineableCommands session world (index + 1) requests state

/-- Execute the requests of a batch, through the window if there is one for them. -/
def executePipelineableBatch (session : ClientSession) (world : BatchWorld pool)
    (requests : List PipelineableRequest) (state : PerCommandLoopState) :
    Option (Except CommandError Unit × PerCommandLoopState) :=
  let state := state.refreshed
  match selectSingleBackendArticleWindow session state.access requests with
  | none => executePipelineableCommands session world 0 requests state
  | some slot =>
    match executeArticleWindow session.router session.retains world.window slot
        (windowBatch world requests) state.client with
    | none => none
    | some run =>
      let wires := requests.flatMap (·.request.wire)
      let octets := windowRequestBytes session.router session.retains world.window slot
        (windowBatch world requests) state.client
      let state := (state.turn none wires run.client state.identity).countedWindow octets
      match run.result with
      | .error error => some (.error (.session error), state)
      | .ok () => some (.ok (), state)

/-! ## Batches -/

inductive BatchLoopAction where
  | goOn
  | leave
  | switchToStateful (request : RequestContext)
  deriving DecidableEq, Repr

/-- The reply to a line that is no command. -/
def rejectionReply : RequestRejection → Bytes
  | .oversized _ => commandTooLong
  | .invalid => commandSyntaxErrorResponse

/-- Write the reply to a line that is no command. -/
def rejectLine (rejection : RequestRejection) (state : PerCommandLoopState) :
    Except CommandError BatchLoopAction × PerCommandLoopState :=
  let outcome := state.writeLocal none (rejectionReply rejection)
  (outcome.1.map fun _ => .goOn, outcome.2)

/-- Execute what stands behind the requests of a batch. -/
def handleTrailingCommand (session : ClientSession) (world : BatchWorld pool)
    (trailing : BatchTail) (state : PerCommandLoopState) :
    Option (Except CommandError BatchLoopAction × PerCommandLoopState) :=
  match trailing with
  | .none => some (.ok .goOn, state)
  | .rejection rejection => some (rejectLine rejection state)
  | .context request =>
    let state := (state.counted request).refreshed
    match classifyRequest request state.access session.routingMode with
    | .switchToStateful _ => some (.ok (.switchToStateful request), state)
    | plan =>
      match processSingleCommandWithPlan session world.trailing request plan state with
      | none => none
      | some (.error error, state) => some (.error error, state)
      | some (.ok .quit, state) => some (.ok .leave, state)
      | some (.ok .goOn, state) => some (.ok .goOn, state)

/-- Execute a batch. -/
def handleCommandBatch (session : ClientSession) (world : BatchWorld pool) (batch : RequestBatch)
    (state : PerCommandLoopState) :
    Option (Except CommandError BatchLoopAction × PerCommandLoopState) :=
  match batch.contents with
  | .rejected rejection => some (rejectLine rejection state)
  | .empty =>
    if batch.trailing = .none then some (.ok .leave, state)
    else handleTrailingCommand session world batch.trailing state
  | .contexts requests =>
    match executePipelineableBatch session world requests state with
    | none => none
    | some (.error error, state) => some (.error error, state)
    | some (.ok (), state) => handleTrailingCommand session world batch.trailing state

/-! ## The loop -/

/-- How the loop ends. -/
inductive LoopEnd where
  | closed
  | readFailed
  | failed (error : CommandError)
  | switched (request : RequestContext)
  deriving DecidableEq, Repr

/-- The loop, from a batch on: how it ends, with the reader and the state that it leaves.
`none` means that it ran out of `fuel`. -/
def runPerCommandLoop (session : ClientSession) (worlds : Nat → BatchWorld pool) :
    Nat → Nat → ClientReader → PerCommandLoopState →
      Option (LoopEnd × ClientReader × PerCommandLoopState)
  | 0, _, _, _ => none
  | fuel + 1, index, reader, state =>
    match readCommandBatch reader with
    | (none, reader) => some (.readFailed, reader, state)
    | (some batch, reader) =>
      match handleCommandBatch session (worlds index) batch state with
      | none => none
      | some (.error error, state) => some (.failed error, reader, state)
      | some (.ok .leave, state) => some (.closed, reader, state)
      | some (.ok (.switchToStateful request), state) =>
        some (.switched request, reader, state)
      | some (.ok .goOn, state) =>
        runPerCommandLoop session worlds fuel (index + 1) reader state

/-- A session until its loop ends.  Every batch consumes an octet, or the loop ends. -/
def handlePerCommandRouting (session : ClientSession) (worlds : Nat → BatchWorld pool)
    (reader : ClientReader) (client : ClientWriter) :
    Option (LoopEnd × ClientReader × PerCommandLoopState) :=
  runPerCommandLoop session worlds (reader.contents.length + 1) 0 reader
    (.new session.authHandler client)

end NntpProxy.PerCommand
