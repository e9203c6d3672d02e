import NntpProxy.Missing.Attempts

/-!
# What is written to a backend is flushed before its reply is awaited

A backend connection is set up and then used, one use behind the other, until one of them fails.
Setup and uses are programs that write, flush and wait for replies; a transport may hold back what
was not flushed, so that a program may wait only when it has flushed all that it wrote.
-/

namespace NntpProxy.Connecting

open Data.Interaction Protocol Router PerCommand ExceptT
open Missing (fromVerbArgs statProbeRequest)
open Program (keeps_bind)

/-! ## Calls on the stream of a connection -/

inductive Call where
  | write (bytes : Bytes)
  | flush
  | receive

/-- Whether a write or a flush succeeded, and the reply that was received. -/
def Answer : Call → Type
  | .write _ | .flush => Bool
  | .receive => Option Bytes

/-- Why a connection is given up.  The replies stand for the messages that are made of them. -/
inductive ConnectionError where
  | ioError
  | invalidGreeting (greeting : Bytes)
  | passwordRequired
  | connectionLimitExceeded (response : Bytes)
  | authenticationFailed (response : Bytes)
  | unexpectedAuthResponse (response : Bytes)
  | compressionRequired (response : Bytes)
  | unexpectedResponse (response : Bytes)
  deriving DecidableEq, Repr

abbrev Work := ExceptT ConnectionError (Program Call Answer)

def writeAll (bytes : Bytes) : Work Unit :=
  .mk (.ask (.write bytes) fun written : Bool =>
    .done (if written then .ok () else .error .ioError))

def flush : Work Unit :=
  .mk (.ask .flush fun flushed : Bool => .done (if flushed then .ok () else .error .ioError))

/-- Wait for a reply. -/
def receive : Work Bytes :=
  .mk (.ask .receive fun reply : Option Bytes => .done (reply.elim (.error .ioError) .ok))

def writeWireTo (request : RequestContext) : Work Unit :=
  writeAll request.wire

def sendTo (request : RequestContext) : Work Unit := do
  writeWireTo request
  flush

/-! ## Setup -/

inductive CompressionMode where
  | disabled | auto | required
  deriving DecidableEq, Repr

/-- What the setup of a connection depends on, with what earlier connections have found out about
compression. -/
structure TcpManager where
  username : Option Bytes
  password : Option Bytes
  sendModeReader : Bool
  compression : CompressionMode
  compressionSupport : Option Bool
  deriving DecidableEq, Repr

def hasStatus (reply : Bytes) (codes : List Nat) : Bool :=
  (StatusCode.parse reply).any fun status => codes.contains status.value

def consumeGreeting : Work Unit := do
  let greeting ← receive
  unless hasStatus greeting [200, 201] do throw (.invalidGreeting greeting)

def authinfoUser (username : Bytes) : RequestContext :=
  fromVerbArgs (ascii "AUTHINFO") (ascii "USER " ++ username)

def authinfoPass (password : Bytes) : RequestContext :=
  fromVerbArgs (ascii "AUTHINFO") (ascii "PASS " ++ password)

def sendPassword (password : Bytes) : Work Unit := do
  writeWireTo (authinfoPass password)
  let response ← receive
  if hasStatus response [281] then return
  else if hasStatus response [482] then throw (.connectionLimitExceeded response)
  else throw (.authenticationFailed response)

namespace TcpManager

def negotiateAuth (manager : TcpManager) : Work Unit :=
  match manager.username with
  | none => return
  | some username => do
    writeWireTo (authinfoUser username)
    let response ← receive
    if hasStatus response [381, 480] then
      match manager.password with
      | none => throw .passwordRequired
      | some password => sendPassword password
    else if hasStatus response [281] then return
    else throw (.unexpectedAuthResponse response)

def negotiateModeReader : Work Unit := do
  writeAll (ascii "MODE READER\r\n")
  flush
  let response ← receive
  unless hasStatus response [200, 201] do throw (.invalidGreeting response)

def probeCompression (manager : TcpManager) : Work Bool := do
  writeAll (ascii "COMPRESS DEFLATE\r\n")
  flush
  let response ← receive
  if hasStatus response [206] then return true
  else if manager.compression = .required then throw (.compressionRequired response)
  else return false

/-- Whether the connection is compressed from now on. -/
def negotiateCompression (manager : TcpManager) : Work Bool :=
  if manager.compression = .disabled ∨
      manager.compression = .auto ∧ manager.compressionSupport = some false then return false
  else manager.probeCompression

def create (manager : TcpManager) : Work Bool := do
  consumeGreeting
  manager.negotiateAuth
  if manager.sendModeReader then negotiateModeReader
  manager.negotiateCompression

end TcpManager

/-! ## Uses -/

def checkDateResponse : Work Unit := do
  sendTo (fromVerbArgs (ascii "DATE") [])
  let response ← receive
  unless hasStatus response [111] ∧ response[3]? = some 32 do throw (.unexpectedResponse response)

def executeRequestExchange (request : RequestContext) : Work Unit := do
  sendTo request
  let _ ← receive

/-- Write the requests at these places. -/
def writeRequests (entries : List WindowEntry) : List Nat → Work Unit
  | [] => return
  | index :: rest => do
    if let some entry := entries[index]? then writeWireTo entry.request
    writeRequests entries rest

/-- Write requests that were not sent, up to the size of the window. -/
def filled (inFlight : Nat) (entries : List WindowEntry) : Filled :=
  fillWindow (fun _ => true) inFlight 0 entries

/-- A request that was not sent with the others is sent before its response is awaited. -/
def writeUnsentRequest (request : RequestContext) (sent : Bool) : Work Unit :=
  if sent then return else sendTo request

/-- Write requests behind a response, and flush them when there are some. -/
def refillWindow (entries : List WindowEntry) (indices : List Nat) : Work Unit :=
  if indices = [] then return
  else do
    writeRequests entries indices
    flush

def forwardSentArticleWindowResponses (inFlight : Nat) : List WindowEntry → Work Unit
  | [] => return
  | entry :: rest =>
    match entry.route with
    | .knownMissing => forwardSentArticleWindowResponses inFlight rest
    | .sendUpstream sent => do
      writeUnsentRequest entry.request sent
      let _ ← receive
      let refill := filled ((if sent then inFlight else inFlight + 1) - 1) rest
      refillWindow rest refill.written
      forwardSentArticleWindowResponses refill.inFlight refill.entries
  termination_by entries => entries.length
  decreasing_by all_goals simp [filled, length_fillWindow]

def forwardArticleWindow (entries : List WindowEntry) : Work Unit :=
  if upstreamKinds entries = [] then return
  else do
    writeRequests entries (filled 0 entries).written
    flush
    forwardSentArticleWindowResponses (filled 0 entries).inFlight (filled 0 entries).entries

/-- What a connection is used for. -/
inductive Use where
  | healthCheck
  | direct (request : RequestContext)
  | statProbe (request : RequestContext)
  | articleWindow (slot : AvailabilitySlot) (batch : List (RequestContext × ArticleAvailability))
  | handoff (request : RequestContext)

def Use.perform : Use → Work Unit
  | .healthCheck => checkDateResponse
  | .direct request | .handoff request => executeRequestExchange request
  | .statProbe request => executeRequestExchange (statProbeRequest request)
  | .articleWindow slot batch => forwardArticleWindow (routeArticleWindowRequests slot batch)

/-- A connection that is set up and used until it is given up. -/
def lifetime (manager : TcpManager) (uses : List Use) : Work Unit := do
  let _ ← manager.create
  uses.forM Use.perform

/-! ## Nothing unflushed -/

/-- What is known of a transport is what was written and not flushed: of a failed write some of the
bytes, and after a failed flush all that were there. -/
def contract : Contract Call Answer Bytes where
  allows
    | unflushed, .receive => unflushed = []
    | _, _ => True
  learns
    | unflushed, .write bytes, (written : Bool), later =>
      ∃ taken, taken <+: bytes ∧ (written = true → taken = bytes) ∧ later = unflushed ++ taken
    | unflushed, .flush, (flushed : Bool), later => later = if flushed then [] else unflushed
    | unflushed, .receive, _, later => later = unflushed

variable {α β : Type} {unflushed : Bytes}

/-- The work waits only when everything is flushed, and leaves everything flushed unless it
fails. -/
def Flushes (work : Work α) (unflushed : Bytes) : Prop :=
  work.run.Keeps contract (fun later result => ∀ value, result = .ok value → later = []) unflushed

theorem flushes_pure (value : α) : Flushes (pure value) [] :=
  fun _ _ => rfl

theorem flushes_throw (error : ConnectionError) : Flushes (throw error : Work α) unflushed :=
  nofun

/-- The work does not wait. -/
def Writes (work : Work α) : Prop :=
  ∀ unflushed, work.run.Keeps contract (fun _ _ => True) unflushed

section

variable {work : Work α} {next : α → Work β}

theorem Flushes.bind (first : Flushes work unflushed) (rest : ∀ value, Flushes (next value) []) :
    Flushes (work >>= next) unflushed := by
  rw [Flushes, run_bind, keeps_bind]
  refine first.mono ?_
  rintro later (error | value) isFlushed
  · exact nofun
  · rw [isFlushed value rfl]
    exact rest value

theorem Writes.flushes (first : Writes work)
    (rest : ∀ value unflushed, Flushes (next value) unflushed) :
    Flushes (work >>= next) unflushed := by
  rw [Flushes, run_bind, keeps_bind]
  refine (first unflushed).mono ?_
  rintro later (error | value) -
  · exact nofun
  · exact rest value later

theorem Writes.bind (first : Writes work) (rest : ∀ value, Writes (next value)) :
    Writes (work >>= next) := by
  intro unflushed
  rw [run_bind, keeps_bind]
  refine (first unflushed).mono ?_
  rintro later (error | value) -
  · trivial
  · exact rest value later

end

theorem writes_writeAll (bytes : Bytes) : Writes (writeAll bytes) :=
  fun _ => ⟨trivial, fun _ _ _ => trivial⟩

theorem writes_writeRequests (entries : List WindowEntry) (indices : List Nat) :
    Writes (writeRequests entries indices) := by
  induction indices with
  | nil => exact fun _ => trivial
  | cons index rest ih =>
    unfold writeRequests
    split
    · exact (writes_writeAll _).bind fun _ => ih
    · exact ih

theorem flushes_flush : Flushes flush unflushed := by
  refine ⟨trivial, fun flushed later learns => ?_⟩
  cases flushed with
  | false => exact nofun
  | true => exact fun _ _ => learns

theorem flushes_receive : Flushes receive [] :=
  ⟨rfl, fun _ _ learns _ _ => learns⟩

variable (request : RequestContext)

theorem flushes_sendTo : Flushes (sendTo request) [] :=
  (writes_writeAll _).flushes fun _ _ => flushes_flush

/-! ## Uses leave nothing unflushed -/

theorem flushes_checkDateResponse : Flushes checkDateResponse [] := by
  refine (flushes_sendTo _).bind fun _ => flushes_receive.bind fun response => ?_
  split
  · exact flushes_pure ()
  · exact flushes_throw _

theorem flushes_executeRequestExchange :
    Flushes (executeRequestExchange request) [] :=
  (flushes_sendTo request).bind fun _ => flushes_receive.bind fun _ => flushes_pure ()

theorem flushes_writeUnsentRequest (sent : Bool) :
    Flushes (writeUnsentRequest request sent) [] := by
  cases sent with
  | false => exact flushes_sendTo request
  | true => exact flushes_pure ()

theorem flushes_refillWindow (entries : List WindowEntry) (indices : List Nat) :
    Flushes (refillWindow entries indices) [] := by
  unfold refillWindow
  split
  · exact flushes_pure ()
  · exact (writes_writeRequests entries indices).flushes fun _ _ => flushes_flush

theorem flushes_forwardSentArticleWindowResponses (inFlight : Nat) (entries : List WindowEntry) :
    Flushes (forwardSentArticleWindowResponses inFlight entries) [] := by
  fun_induction forwardSentArticleWindowResponses inFlight entries with
  | case1 => exact flushes_pure ()
  | case2 inFlight entry rest missing ih => exact ih
  | case3 inFlight entry rest sent upstream ih =>
    refine (flushes_writeUnsentRequest _ sent).bind fun _ => flushes_receive.bind fun _ => ?_
    exact (flushes_refillWindow _ _).bind fun _ => ih

theorem Use.flushes_perform (use : Use) : Flushes use.perform [] := by
  cases use with
  | healthCheck => exact flushes_checkDateResponse
  | direct request => exact flushes_executeRequestExchange request
  | statProbe request => exact flushes_executeRequestExchange (statProbeRequest request)
  | handoff request => exact flushes_executeRequestExchange request
  | articleWindow slot batch =>
    simp only [perform, forwardArticleWindow]
    split
    · exact flushes_pure ()
    · refine (writes_writeRequests _ _).flushes fun _ _ => flushes_flush.bind fun _ => ?_
      exact flushes_forwardSentArticleWindowResponses _ _

theorem flushes_uses (uses : List Use) : Flushes (uses.forM Use.perform) [] := by
  induction uses with
  | nil => exact flushes_pure ()
  | cons use rest ih => exact use.flushes_perform.bind fun _ => ih

/-! ## Setup -/

variable {manager : TcpManager}

theorem flushes_negotiateModeReader : Flushes TcpManager.negotiateModeReader [] := by
  refine (writes_writeAll _).flushes fun _ _ => flushes_flush.bind fun _ =>
    flushes_receive.bind fun response => ?_
  split
  · exact flushes_pure ()
  · exact flushes_throw _

theorem flushes_negotiateCompression : Flushes manager.negotiateCompression [] := by
  unfold TcpManager.negotiateCompression
  split
  · exact flushes_pure false
  · refine (writes_writeAll _).flushes fun _ _ => flushes_flush.bind fun _ =>
      flushes_receive.bind fun response => ?_
    split
    · exact flushes_pure true
    split
    · exact flushes_throw _
    · exact flushes_pure false

theorem flushes_create (noUser : manager.username = none) : Flushes manager.create [] := by
  refine Flushes.bind (flushes_receive.bind fun greeting => ?_) fun _ => ?_
  · split
    · exact flushes_pure ()
    · exact flushes_throw _
  rw [TcpManager.negotiateAuth, noUser]
  refine (flushes_pure ()).bind fun _ => ?_
  split
  · exact flushes_negotiateModeReader.bind fun _ => flushes_negotiateCompression
  · exact flushes_negotiateCompression

/-- The connection never waits for a reply with something unflushed. -/
def NeverWaitsUnflushed (manager : TcpManager) (uses : List Use) : Prop :=
  (lifetime manager uses).run.Keeps contract (fun _ _ => True) []

theorem not_neverWaitsUnflushed_of_username {username : Bytes}
    (isUser : manager.username = some username) (uses : List Use) :
    ¬ NeverWaitsUnflushed manager uses := by
  intro never
  -- the backend greets, the user name is written, and then its reply is awaited
  simp only [NeverWaitsUnflushed, lifetime, TcpManager.create, TcpManager.negotiateAuth, isUser,
    consumeGreeting, writeWireTo, writeAll, receive, run_bind, run_mk, keeps_bind]
    at never
  have behind := never.2 (some (ascii "200 ok\r\n")) [] rfl
  have waits : (authinfoUser username).wire = [] :=
    (behind.2 true _ ⟨_, List.prefix_refl _, fun _ => rfl, rfl⟩).1
  have lengthEq := (authinfoUser username).requestWireLen_eq
  rw [waits] at lengthEq
  cases lengthEq

/-- With credentials the user name is written and its reply awaited without a flush; without them a
connection waits only when everything is flushed. -/
theorem neverWaitsUnflushed_iff (manager : TcpManager) (uses : List Use) :
    NeverWaitsUnflushed manager uses ↔ manager.username = none := by
  constructor
  · intro never
    by_contra isUser
    obtain ⟨username, isUser⟩ := Option.ne_none_iff_exists'.mp isUser
    exact not_neverWaitsUnflushed_of_username isUser uses never
  · intro noUser
    exact ((flushes_create noUser).bind fun _ => flushes_uses uses).mono fun _ _ _ => trivial

/-- A configuration with a user name. -/
theorem not_neverWaitsUnflushed_reader :
    ¬ NeverWaitsUnflushed ⟨some (ascii "reader"), none, false, .disabled, none⟩ [] :=
  not_neverWaitsUnflushed_of_username rfl []

end NntpProxy.Connecting
