import NntpProxy.Data.Fifo
import NntpProxy.Retry.Loop

/-!
# The article window of a single backend

A batch of article requests for the only backend is pipelined on one connection.  A few
requests are written first; then the replies are read in order, and after each of them
further requests are written.  Requests for articles that are known to be missing are
answered without the backend.  When the connection fails between replies the requests that
have no reply are executed one after the other, each with its own retries.
-/

namespace NntpProxy.PerCommand

open Protocol Framing Transport Router Pool Retry Data NntpProxy.Stream

variable {pool : BufferPool}

/-! ## Requests of a window -/

def maxUpstreamArticleWindow : Nat := 16

/-- How a request of a window is answered. -/
inductive ArticleWindowRequest where
  | knownMissing
  | sendUpstream (sent : Bool)
  deriving DecidableEq, Repr

/-- A request together with its route. -/
structure WindowEntry where
  request : RequestContext
  route : ArticleWindowRequest
  deriving DecidableEq, Repr

/-- Route the requests of a batch, each with what is known about its article. -/
def routeArticleWindowRequests (slot : AvailabilitySlot)
    (batch : List (RequestContext × ArticleAvailability)) : List WindowEntry :=
  batch.map fun (request, availability) =>
    ⟨request, if availability.isMissingSlot slot then .knownMissing else .sendUpstream false⟩

/-- The kinds of the requests that go to the backend. -/
def upstreamKinds (entries : List WindowEntry) : List RequestKind :=
  entries.filterMap fun entry =>
    match entry.route with
    | .knownMissing => none
    | .sendUpstream _ => some entry.request.kind

theorem upstreamKinds_cons_of_missing {entry : WindowEntry} {rest : List WindowEntry}
    (missing : entry.route = .knownMissing) :
    upstreamKinds (entry :: rest) = upstreamKinds rest := by
  simp [upstreamKinds, missing]

theorem upstreamKinds_cons_of_upstream {entry : WindowEntry} {rest : List WindowEntry} {sent : Bool}
    (upstream : entry.route = .sendUpstream sent) :
    upstreamKinds (entry :: rest) = entry.request.kind :: upstreamKinds rest := by
  simp [upstreamKinds, upstream]

/-- The surroundings of a window: the connection that is checked out for the requests that
go to the backend; which requests can be written; whether the first requests, the requests
written behind a reply and a request written late can be flushed; and, for each request,
what its retry loop meets. -/
structure WindowWorld (pool : BufferPool) where
  checkout : (kinds : List RequestKind) → Option (BackendConnection pool kinds)
  writes : Nat → Bool
  firstFlush : Bool
  refillFlush : Nat → Bool
  lateFlush : Nat → Bool
  passes : Nat → Nat → Pass pool
  availability : Nat → Option ArticleAvailability

/-! ## One reply -/

/-- Why there is no reply to a request that was sent: no response could be read, and then
the client has nothing of it, or the transfer failed. -/
inductive AlreadySentResponseError where
  | read
  | transfer (error : SessionError)
  deriving DecidableEq, Repr

/-- Read the response to a request that was sent and forward it.  A response that says that
the article is missing is replaced by the local line. -/
def forwardResponseForAlreadySentRequest (kind : RequestKind) (retains : StatusCode → Bool)
    (conn : ConnectionStream pool) (client : ClientWriter) :
    Except AlreadySentResponseError (ConnectionGuard pool) × ClientWriter :=
  match readExchange kind conn with
  | (none, _) => (.error .read, client)
  | (some classified, conn) =>
    match classified.statusCode with
    | none => (.error .read, client)
    | some status =>
      if status.isArticleMissing then
        match classified.observe conn with
        | (.error error, _) => (.error (.transfer (.ofTransfer error)), client)
        | (.ok (), conn) =>
          let written := client.sink.writeAll noSuchArticle
          if written.1 && written.2.flush.1 then
            (.ok ⟨conn, .complete⟩, { client with sink := written.2.flush.2 })
          else
            (.error (.transfer (.ofTransfer (.fromClientWrite client.failure))),
              { client with sink := written.2 })
      else
        match writeSuccessfulBackendResponse (retains status) classified conn client with
        | (.error error, client) => (.error (.transfer error), client)
        | (.ok guard, client) => (.ok guard, client)

/-! ## Writing requests -/

/-- What writing requests up to the size of the window did: the requests with their routes,
the number of requests without a reply, the requests that were written, and whether a write
failed. -/
structure Filled where
  entries : List WindowEntry
  inFlight : Nat
  written : List Nat
  failed : Bool
  deriving DecidableEq, Repr

/-- Write requests that were not sent, in their order, until the window is full. -/
def fillWindow (writes : Nat → Bool) : Nat → Nat → List WindowEntry → Filled
  | inFlight, _, [] => ⟨[], inFlight, [], false⟩
  | inFlight, index, entry :: rest =>
    if maxUpstreamArticleWindow ≤ inFlight then ⟨entry :: rest, inFlight, [], false⟩
    else
      match entry.route with
      | .sendUpstream false =>
        if writes index then
          let filled := fillWindow writes (inFlight + 1) (index + 1) rest
          ⟨{ entry with route := .sendUpstream true } :: filled.entries, filled.inFlight,
            index :: filled.written, filled.failed⟩
        else ⟨entry :: rest, inFlight, [], true⟩
      | _ =>
        let filled := fillWindow writes inFlight (index + 1) rest
        ⟨entry :: filled.entries, filled.inFlight, filled.written, filled.failed⟩

theorem length_fillWindow (writes : Nat → Bool) (inFlight index : Nat)
    (entries : List WindowEntry) :
    (fillWindow writes inFlight index entries).entries.length = entries.length := by
  induction entries generalizing inFlight index with
  | nil => rfl
  | cons entry rest ih =>
    unfold fillWindow
    split
    · rfl
    split
    · split
      · simp [ih]
      · rfl
    · simp [ih]

/-! ## The window -/

/-- Outcome of a window: its result, the client, what happened on the connection, and the
connection when it is kept for the next request. -/
structure WindowRun (pool : BufferPool) where
  result : Except SessionError Unit
  client : ClientWriter
  trace : List (Fifo.Event Nat)
  lease : Option (ConnectionGuard pool)

/-- Execute requests one after the other, the first of which has this number. -/
def executeSequentially (router : BackendSelector) (retains : RequestContext → StatusCode → Bool)
    (world : WindowWorld pool) : Nat → List RequestContext → ClientWriter →
    Option (Except SessionError Unit × ClientWriter)
  | _, [], client => some (.ok (), client)
  | index, request :: requests, client =>
    match executeArticleRetryLoop router request (retains request) (world.passes index)
        (world.availability index) client with
    | none => none
    | some (.error error, state) => some (.error error, state.client)
    | some (.ok _, state) =>
      executeSequentially router retains world (index + 1) requests state.client

/-- Give up the connection and execute the requests from this one on by themselves. -/
def retrySequentially (router : BackendSelector) (retains : RequestContext → StatusCode → Bool)
    (world : WindowWorld pool) (index : Nat) (entries : List WindowEntry) (client : ClientWriter)
    (trace : List (Fifo.Event Nat)) : Option (WindowRun pool) :=
  (executeSequentially router retains world index (entries.map (·.request)) client).map
    fun (result, client) => ⟨result, client, trace, none⟩

/-- A request that was not sent with the others is written and flushed before its reply is
read.  The counter and the events; without the counter when the connection failed. -/
def writeUnsentRequest (world : WindowWorld pool) (index inFlight : Nat) (sent : Bool)
    (trace : List (Fifo.Event Nat)) :
    Except (List (Fifo.Event Nat)) (Nat × List (Fifo.Event Nat)) :=
  if sent then .ok (inFlight, trace)
  else if !world.writes index then .error trace
  else if !world.lateFlush index then .error (trace ++ [.issue index])
  else .ok (inFlight + 1, trace ++ [.issue index])

/-- Read and forward the replies from this request on.  `none` means that the counter of
requests without a reply would have become negative. -/
def forwardSentArticleWindowResponses (router : BackendSelector)
    (retains : RequestContext → StatusCode → Bool) (world : WindowWorld pool)
    (index inFlight : Nat) (entries : List WindowEntry) (guard : ConnectionGuard pool)
    (client : ClientWriter) (trace : List (Fifo.Event Nat)) : Option (WindowRun pool) :=
  match entries with
  | [] =>
    match client.sink.flush with
    | (false, sink) =>
      some ⟨.error (.ofIo client.failure), { client with sink := sink }, trace, none⟩
    | (true, sink) =>
      some ⟨.ok (), { client with sink := sink }, trace,
        if guard.conn.hasPendingBytes then none else some guard⟩
  | entry :: rest =>
    match entry.route with
    | .knownMissing =>
      match client.sink.writeAll noSuchArticle with
      | (false, sink) =>
        some ⟨.error (.ofIo client.failure), { client with sink := sink }, trace, none⟩
      | (true, sink) =>
        forwardSentArticleWindowResponses router retains world (index + 1) inFlight rest guard
          { client with sink := sink } trace
    | .sendUpstream sent =>
      match writeUnsentRequest world index inFlight sent trace with
      | .error trace =>
        retrySequentially router retains world index (entry :: rest) client trace
      | .ok (inFlight, trace) =>
        let trace := trace ++ [.await index]
        match forwardResponseForAlreadySentRequest entry.request.kind (retains entry.request)
            guard.conn client with
        | (.error .read, client) =>
          retrySequentially router retains world index (entry :: rest) client trace
        | (.error (.transfer error), client) => some ⟨.error error, client, trace, none⟩
        | (.ok guard, client) =>
          match inFlight with
          | 0 => none
          | inFlight + 1 =>
            let filled := fillWindow world.writes inFlight (index + 1) rest
            let trace := trace ++ [.settle index] ++ filled.written.map .issue
            if filled.failed || (!filled.written.isEmpty && !world.refillFlush index) then
              retrySequentially router retains world (index + 1) filled.entries client
                trace
            else
              forwardSentArticleWindowResponses router retains world (index + 1)
                filled.inFlight filled.entries
                (if filled.written.isEmpty then guard else guard.streamMut guard.conn)
                client trace
termination_by entries.length
decreasing_by
  · exact Nat.lt_succ_self _
  · rw [length_fillWindow]
    exact Nat.lt_succ_self _

/-- Answer a batch that is known to be missing. -/
def writeKnownMissingResponses (client : ClientWriter) :
    Nat → Except SessionError Unit × ClientWriter
  | 0 =>
    match client.sink.flush with
    | (false, sink) => (.error (.ofIo client.failure), { client with sink := sink })
    | (true, sink) => (.ok (), { client with sink := sink })
  | count + 1 =>
    match client.sink.writeAll noSuchArticle with
    | (false, sink) => (.error (.ofIo client.failure), { client with sink := sink })
    | (true, sink) => writeKnownMissingResponses { client with sink := sink } count

/-- Execute a batch through the window. -/
def executeArticleWindow (router : BackendSelector) (retains : RequestContext → StatusCode → Bool)
    (world : WindowWorld pool) (slot : AvailabilitySlot)
    (batch : List (RequestContext × ArticleAvailability)) (client : ClientWriter) :
    Option (WindowRun pool) :=
  let entries := routeArticleWindowRequests slot batch
  if (upstreamKinds entries).isEmpty then
    let written := writeKnownMissingResponses client entries.length
    some ⟨written.1, written.2, [], none⟩
  else
    match world.checkout (upstreamKinds entries) with
    | none => retrySequentially router retains world 0 entries client []
    | some ⟨conn, _⟩ =>
      let filled := fillWindow world.writes 0 0 entries
      let trace := filled.written.map .issue
      if filled.failed || !world.firstFlush then
        retrySequentially router retains world 0 entries client trace
      else
        forwardSentArticleWindowResponses router retains world 0 filled.inFlight filled.entries
          ⟨conn, .inFlight⟩ client trace

/-! ## Counting the requests -/

/-- The octets counted for requests that are executed one after the other: each is counted
before it is executed. -/
def sequentialRequestBytes (router : BackendSelector)
    (retains : RequestContext → StatusCode → Bool) (world : WindowWorld pool) :
    Nat → List RequestContext → ClientWriter → Nat
  | _, [], _ => 0
  | index, request :: requests, client =>
    request.requestWireLen +
      match executeArticleRetryLoop router request (retains request) (world.passes index)
          (world.availability index) client with
      | some (.ok _, state) =>
        sequentialRequestBytes router retains world (index + 1) requests state.client
      | _ => 0

/-- The octets counted for all requests of a window at once. -/
def recordArticleWindowRequestBytes (entries : List WindowEntry) : Nat :=
  (entries.map (·.request.requestWireLen)).sum

/-- The octets counted for a batch that is executed through the window.  The requests are
counted when all are answered without the backend, or when the first of them were sent; what
is executed one after the other behind that is not counted again.  When nothing could be
sent each request is counted as it is executed. -/
def windowRequestBytes (router : BackendSelector) (retains : RequestContext → StatusCode → Bool)
    (world : WindowWorld pool) (slot : AvailabilitySlot)
    (batch : List (RequestContext × ArticleAvailability)) (client : ClientWriter) : Nat :=
  let entries := routeArticleWindowRequests slot batch
  let oneByOne := sequentialRequestBytes router retains world 0 (entries.map (·.request)) client
  if (upstreamKinds entries).isEmpty then
    match (writeKnownMissingResponses client entries.length).1 with
    | .error _ => 0
    | .ok () => recordArticleWindowRequestBytes entries
  else
    match world.checkout (upstreamKinds entries) with
    | none => oneByOne
    | some _ =>
      let filled := fillWindow world.writes 0 0 entries
      if filled.failed || !world.firstFlush then oneByOne
      else recordArticleWindowRequestBytes entries

variable {retains : RequestContext → StatusCode → Bool}

theorem sequentialRequestBytes_of_ok {router : BackendSelector} {world : WindowWorld pool}
    {index : Nat} {requests : List RequestContext} {client last : ClientWriter}
    (executed : executeSequentially router retains world index requests client =
      some (.ok (), last)) :
    sequentialRequestBytes router retains world index requests client =
      (requests.map RequestContext.requestWireLen).sum := by
  induction requests generalizing index client with
  | nil => rfl
  | cons request requests ih =>
    rw [executeSequentially] at executed
    rw [sequentialRequestBytes]
    split at executed
    · cases executed
    · cases executed
    next retried =>
      rw [retried]
      exact congrArg (request.requestWireLen + ·) (ih executed)

theorem windowRequestBytes_of_ok {router : BackendSelector} {world : WindowWorld pool}
    {slot : AvailabilitySlot} {batch : List (RequestContext × ArticleAvailability)}
    {client : ClientWriter} {run : WindowRun pool}
    (executed : executeArticleWindow router retains world slot batch client = some run)
    (isOk : run.result = .ok ()) :
    windowRequestBytes router retains world slot batch client =
      (batch.map (·.1.requestWireLen)).sum := by
  have all : recordArticleWindowRequestBytes (routeArticleWindowRequests slot batch) =
      (batch.map (·.1.requestWireLen)).sum := by
    simp [recordArticleWindowRequestBytes, routeArticleWindowRequests, Function.comp_def]
  have oneByOne {trace : List (Fifo.Event Nat)}
      (retried : retrySequentially router retains world 0 (routeArticleWindowRequests slot batch)
        client trace = some run) :
      sequentialRequestBytes router retains world 0
          ((routeArticleWindowRequests slot batch).map (·.request)) client =
        (batch.map (·.1.requestWireLen)).sum := by
    rcases Option.map_eq_some_iff.mp retried with ⟨⟨result, last⟩, oneAfterOther, rfl⟩
    obtain rfl : result = .ok () := isOk
    rw [sequentialRequestBytes_of_ok oneAfterOther, List.map_map]
    exact all
  unfold executeArticleWindow at executed
  unfold windowRequestBytes
  simp only at executed ⊢
  split at executed
  next noneUpstream =>
    cases executed
    simp only at isOk
    rw [if_pos noneUpstream, isOk]
    exact all
  next someUpstream =>
    rw [if_neg someUpstream]
    split at executed
    next refused =>
      rw [refused]
      exact oneByOne executed
    next connected =>
      rw [connected]
      split at executed
      next unsent =>
        rw [if_pos unsent]
        exact oneByOne executed
      next wasSent =>
        rw [if_neg wasSent]
        exact all

end NntpProxy.PerCommand
