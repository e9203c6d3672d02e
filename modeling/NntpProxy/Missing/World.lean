import NntpProxy.Data.Interaction
import NntpProxy.PerCommand.Session

/-!
# Tasks, connections and the facts they record

Many tasks of the proxy talk to backends at the same time: the batches of the clients, probes and
prechecks, some of which go on in the background.  They share the pools of idle connections and the
cache, to which they report that a provider misses an article.

A task is a program that asks its surroundings: for a connection, for the status of the next
response on a connection that it owns, for the outcome of a task that it spawned.  A backend
answers the requests on a connection in their order, so that the next response that is read on it
is the answer to the oldest request that has none.  The history has what backends answered and what
was recorded in the cache.
-/

namespace NntpProxy.Missing

open Data.Interaction Protocol Router Pool Session Transport PerCommand Program

/-! ## Connections -/

/-- A connection that a task or a pool owns: its backend, the requests on it without an answer, the
oldest first, whether the last response was read to its end, and the octets queued behind it. -/
structure Connection where
  backend : BackendId
  unanswered : List RequestContext
  complete : Bool
  pending : Nat
  deriving DecidableEq, Repr

namespace Connection

def new (id : BackendId) : Connection :=
  ⟨id, [], false, 0⟩

variable (conn : Connection)

/-- Check out a connection of a pool; no exchange was started on it. -/
def activate : Connection :=
  { conn with complete := false }

/-- Write a request. -/
def wrote (request : RequestContext) : Connection :=
  { conn with unanswered := conn.unanswered ++ [request], complete := false }

/-- Read the status of a response. -/
def answered : Connection :=
  { conn with unanswered := conn.unanswered.tail, complete := false }

def reuseAfterResponse : ResponseConnectionReuse :=
  if conn.complete = false then .incomplete
  else if conn.pending ≠ 0 then .queuedBytes conn.pending
  else .reusable

end Connection

/-- A connection that is kept for the next request of a batch. -/
structure BackendLease where
  backendId : BackendId
  connection : Connection
  deriving DecidableEq, Repr

/-! ## Tasks that are spawned -/

/-- A backend that may be asked for an article, with the slot of its provider. -/
structure ArticleBackend where
  backendId : BackendId
  availabilitySlot : AvailabilitySlot
  deriving DecidableEq, Repr

abbrev Ticket := Nat

inductive Job where
  | salvage (conn : Connection)
  | retryProbe (id : BackendId) (statRequest : RequestContext)
  | prefetchProbe (backend : ArticleBackend) (statRequest : RequestContext) (messageId : Bytes)
  | queryBackend (backend : ArticleBackend) (request : RequestContext)
  | finishRace (messageId : Bytes) (pending : List Ticket)
  | backgroundPrecheck (request : RequestContext) (messageId : Bytes)
  deriving DecidableEq, Repr

inductive RetryStatProbeOutcome where
  | missing (id : BackendId)
  | present
  | unavailable (id : BackendId)
  deriving DecidableEq, Repr

/-- Result of querying a backend for an article. -/
inductive QueryResult where
  | found (id : BackendId)
  | missing (backend : ArticleBackend)
  | error
  deriving DecidableEq, Repr

/-- What a task leaves for the task that spawned it. -/
inductive Outcome where
  | nothing
  | probed (outcome : RetryStatProbeOutcome)
  | queried (result : QueryResult)
  deriving DecidableEq, Repr

/-! ## The world -/

inductive Event where
  | answered (backend : BackendId) (request : RequestContext) (status : Option StatusCode)
  | recorded (messageId : Bytes) (slot : AvailabilitySlot)
  | spawned (ticket : Ticket) (job : Job)
  | finished (ticket : Ticket) (outcome : Outcome)
  deriving DecidableEq, Repr

/-- What the tasks share: the idle connections, the tasks that were spawned and not launched, the
next ticket, and what happened. -/
structure World where
  idle : List Connection
  waiting : List (Ticket × Job)
  tickets : Ticket
  history : List Event

namespace World

def initial : World :=
  ⟨[], [], 0, []⟩

def note (world : World) (events : List Event) : World :=
  { world with history := world.history ++ events }

def giveBack (world : World) (conn : Connection) : World :=
  { world with idle := world.idle ++ [conn] }

def spawn (world : World) (job : Job) : World :=
  { world.note [.spawned world.tickets job] with
    waiting := world.waiting ++ [(world.tickets, job)]
    tickets := world.tickets + 1 }

/-- What a task that has this ticket left. -/
def outcomeOf (world : World) (ticket : Ticket) : Option Outcome :=
  world.history.findSome? fun
    | .finished other outcome => if other = ticket then some outcome else none
    | _ => none

end World

/-! ## Questions -/

/-- What only the surroundings know. -/
inductive Doubt where
  | poolHasRoom
  | leaseIsHealthy
  | requestsFlushed
  | cacheServes
  deriving DecidableEq, Repr

/-- What the cache has about the article of a request: nothing, what is known about the backends, or
an entry that was written to the client or could not be written. -/
inductive CacheLookup where
  | miss
  | partialHit (availability : ArticleAvailability)
  | hit
  | failed (error : IoErrorKind)
  deriving DecidableEq, Repr

inductive Question where
  | checkout (id : BackendId)
  | write (conn : Connection) (request : RequestContext)
  | readStatus (conn : Connection)
  | receive (conn : Connection)
  | giveBack (conn : Connection)
  | recordMissing (messageId : Bytes) (slot : AvailabilitySlot)
  | spawn (job : Job)
  | join (tickets : List Ticket)
  | snapshot
  | lookUp (request : RequestContext)
  | consult (doubt : Doubt)
  | writeClient
  | halt
  deriving DecidableEq, Repr

/-- The status of a response is missing when its first line is not valid, and there is no response
when the connection failed.  Receiving a response reads it to its end, and may write it to the
client.  A task that failed an assertion gets no answer any more. -/
def Answer : Question → Type
  | .checkout _ => Option Connection
  | .write _ _ => Option Connection
  | .readStatus _ => Option (Option StatusCode × Connection)
  | .receive _ => Except ResponseTransferError Unit × Connection
  | .giveBack _ => Unit
  | .recordMissing _ _ => Unit
  | .spawn _ => Ticket
  | .join _ => Ticket × Option Outcome
  | .snapshot => Snapshot
  | .lookUp _ => CacheLookup
  | .consult _ => Bool
  | .writeClient => Except IoErrorKind Unit
  | .halt => Empty

/-- What the surroundings choose: which idle connection is taken, whether an operation works, what
a backend sends, which spawned task is done or was aborted, and what else a task comes to know. -/
inductive Choice where
  | reuse (index : Nat)
  | connect
  | works
  | fails
  | reply (status : Option StatusCode)
  | received (result : Except ResponseTransferError Unit) (complete : Bool) (pending : Nat)
  | joined (ticket : Ticket)
  | aborted (ticket : Ticket)
  | loads (snapshot : Snapshot)
  | cached (lookup : CacheLookup)
  | clientFails (error : IoErrorKind)

/-- The answer to the oldest request of a connection, if it has one. -/
def answerEvents (conn : Connection) (status : Option StatusCode) : List Event :=
  (conn.unanswered.head?.map fun request => .answered conn.backend request status).toList

/-- Answer a question.  An idle connection with octets queued is not used again. -/
def answer (world : World) : (question : Question) → Choice → Option (World × Answer question)
  | .checkout id, .reuse index =>
    match world.idle[index]? with
    | none => none
    | some conn =>
      if conn.backend = id ∧ conn.pending = 0 then
        some ({ world with idle := world.idle.eraseIdx index }, some conn.activate)
      else none
  | .checkout id, .connect => some (world, some (.new id))
  | .checkout _, .fails => some (world, none)
  | .write conn request, .works => some (world, some (conn.wrote request))
  | .write _ _, .fails => some (world, none)
  | .readStatus conn, .reply status =>
    some (world.note (answerEvents conn status), some (status, conn.answered))
  | .readStatus _, .fails => some (world, none)
  | .receive conn, .received result complete pending =>
    some (world, result, { conn with complete := complete, pending := pending })
  | .giveBack conn, .works => some (world.giveBack conn, ())
  | .recordMissing messageId slot, .works => some (world.note [.recorded messageId slot], ())
  | .spawn job, .works => some (world.spawn job, world.tickets)
  | .join tickets, .joined ticket =>
    if ticket ∈ tickets then
      (world.outcomeOf ticket).map fun outcome => (world, ticket, some outcome)
    else none
  | .join tickets, .aborted ticket =>
    if ticket ∈ tickets then some (world, ticket, none) else none
  | .snapshot, .loads snapshot => some (world, snapshot)
  | .lookUp _, .cached lookup => some (world, lookup)
  | .consult _, .works => some (world, true)
  | .consult _, .fails => some (world, false)
  | .writeClient, .works => some (world, .ok ())
  | .writeClient, .clientFails error => some (world, .error error)
  | _, _ => none

/-! ## Work -/

abbrev Work := Program Question Answer

def checkout (id : BackendId) : Work (Option Connection) :=
  call (Question.checkout id)

def write (conn : Connection) (request : RequestContext) : Work (Option Connection) :=
  call (Question.write conn request)

def readStatus (conn : Connection) : Work (Option (Option StatusCode × Connection)) :=
  call (Question.readStatus conn)

def receive (conn : Connection) : Work (Except ResponseTransferError Unit × Connection) :=
  call (Question.receive conn)

def giveBack (conn : Connection) : Work Unit :=
  call (Question.giveBack conn)

def recordAvailabilityMissing (messageId : Bytes) (slot : AvailabilitySlot) : Work Unit :=
  call (Question.recordMissing messageId slot)

def spawn (job : Job) : Work Ticket :=
  call (Question.spawn job)

def join (tickets : List Ticket) : Work (Ticket × Option Outcome) :=
  call (Question.join tickets)

def snapshot : Work Snapshot :=
  call Question.snapshot

def lookUp (request : RequestContext) : Work CacheLookup :=
  call (Question.lookUp request)

def consult (doubt : Doubt) : Work Bool :=
  call (Question.consult doubt)

/-- Write a local line to the client and flush it. -/
def writeClient : Work (Except IoErrorKind Unit) :=
  call Question.writeClient

/-- Fail an assertion. -/
def halt {Result : Type} : Work Result :=
  ask Question.halt fun stopped : Empty => stopped.elim

def spawnAll : List Job → Work (List Ticket)
  | [] => return []
  | job :: jobs => do
      let ticket ← spawn job
      return ticket :: (← spawnAll jobs)

end NntpProxy.Missing
