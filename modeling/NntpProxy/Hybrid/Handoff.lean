import NntpProxy.PerCommand.Access
import NntpProxy.Stateful.Access
import NntpProxy.Transport.Pipeline

/-!
# Sessions of the three routing modes

In stateful mode a session is one stateful loop.  In per-command mode it is one per-command
loop, and in hybrid mode the per-command loop may hand over to a stateful loop: a dedicated
backend is acquired, the command that needs it is sent there, and the stateful loop goes on
with what the reader has buffered, with a new authentication state and with the identity of
the session.
-/

namespace NntpProxy.Hybrid

open Protocol Session Framing Transport NntpProxy.Stream Stateful PerCommand

variable {pool : BufferPool}

/-! ## The handoff -/

/-- The surroundings of a stateful loop: its backend, if one can be acquired, what was reported
for the client before, and what the loop meets. -/
structure StatefulWorld where
  backend : Option (Sink UInt8)
  backendToClient : Nat
  inputs : List LoopInput

def statefulInitialClientBytes (carriedClientToBackend : Nat) (request : RequestContext) : Nat :=
  carriedClientToBackend + request.requestWireLen

/-- The stateful loop of a session at its start. -/
def statefulLoop (handler : AuthHandler) (client backend : Sink UInt8) : StatefulLoop where
  reader := .fresh
  buffered := []
  access := .fromAuthEnabled handler.isEnabled
  authUsername := .anonymous
  identity := none
  order := .empty
  pendingBackendWrites := 0
  client := client
  backend := backend
  forwarded := []
  unflushed := 0
  clientToBackend := 0
  backendToClient := 0
  exit := none

/-- Send a request to a backend and flush it. -/
def sendTo (backend : Sink UInt8) (request : RequestContext) : Bool × Sink UInt8 :=
  match backend.writeAll request.wire with
  | (false, sink) => (false, sink)
  | (true, sink) => sink.flush

/-- Hand a session over to a stateful loop: the turns of the handoff, and the loop when the
request could be sent. -/
def switchToStatefulMode (session : ClientSession) (world : StatefulWorld)
    (request : RequestContext) (reader : ClientReader) (state : PerCommandLoopState) :
    List Turn × Option StatefulLoop :=
  match world.backend with
  | none => ([], none)
  | some backend =>
    let sent := sendTo backend request
    let turn : Turn :=
      ⟨some request, sent.2.accepted.drop backend.accepted.length, [], state.identity⟩
    if sent.1 then
      ([turn], some { statefulLoop session.authHandler state.client.sink sent.2 with
        buffered := reader.buffered
        identity := state.identity
        order := BackendResponseOrder.empty.pushRequest request.kind
        forwarded := [request]
        clientToBackend := statefulInitialClientBytes state.clientToBackend request
        backendToClient := world.backendToClient })
    else ([turn], none)

/-! ## Sessions -/

/-- The turns of the stateful part of a session. -/
def statefulTurns (handler : AuthHandler) (world : StatefulWorld) : Option StatefulLoop → List Turn
  | none => []
  | some loop => loop.transcript handler world.inputs

section

variable (session : ClientSession) (worlds : Nat → BatchWorld pool) (dedicated : StatefulWorld)
    (reader : ClientReader) (client : ClientWriter)

/-- The turns of a session that starts with the per-command loop. -/
def routedTurns :
    Option (List Turn) :=
  match handlePerCommandRouting session worlds reader client with
  | none => none
  | some (.switched request, reader, state) =>
    let handoff := switchToStatefulMode session dedicated request reader state
    some (state.turns ++ handoff.1 ++ statefulTurns session.authHandler dedicated handoff.2)
  | some (_, _, state) => some state.turns

/-- The turns of a session, in the mode of the session. -/
def sessionTurns :
    Option (List Turn) :=
  match session.routingMode with
  | .stateful =>
    some (statefulTurns session.authHandler dedicated
      (dedicated.backend.map (statefulLoop session.authHandler client.sink)))
  | .perCommand | .hybrid => routedTurns session worlds dedicated reader client

end

/-! ## Access -/

variable {session : ClientSession}

theorem watched_statefulLoop {handler : AuthHandler} (enabled : handler.isEnabled = true)
    (client backend : Sink UInt8) :
    StatefulLoop.Watched handler [] (statefulLoop handler client backend) := by
  constructor
  · exact .start handler
  · exact fun _ => ⟨rfl, by simp [statefulLoop]⟩
  · intro
    simp [statefulLoop, AuthenticationAccess.fromAuthEnabled, enabled]
  · exact fun _ => rfl

theorem guarded_switchToStatefulMode (enabled : session.authHandler.isEnabled = true)
    {state : PerCommandLoopState} {user : Username} (known : state.identity = some user)
    (standing : Standing session.authHandler state.turns (some user)) (world : StatefulWorld)
    (request : RequestContext) (reader : ClientReader) :
    Guarded session.authHandler (state.turns ++
      (switchToStatefulMode session world request reader state).1 ++
        statefulTurns session.authHandler world
          (switchToStatefulMode session world request reader state).2) := by
  unfold switchToStatefulMode
  cases world.backend with
  | none => simpa [statefulTurns] using standing.guarded
  | some backend =>
    simp only
    split
    · apply StatefulLoop.Watched.guarded enabled
      refine ⟨?_, ?_, ?_, ?_⟩
      · rw [known]
        exact standing.goOn rfl
      all_goals
        intro noUser
        cases known.symm.trans noUser
    · rw [statefulTurns, List.append_nil]
      exact (standing.goOn known).guarded

theorem guarded_routedTurns (enabled : session.authHandler.isEnabled = true)
    (worlds : Nat → BatchWorld pool) (dedicated : StatefulWorld) (reader : ClientReader)
    (client : ClientWriter) :
    ∃ turns, routedTurns session worlds dedicated reader client = some turns ∧
      Guarded session.authHandler turns := by
  rcases runPerCommandLoop_standing enabled worlds (watched_new enabled client)
    (Nat.lt_succ_self reader.contents.length) with ⟨ended, rest, last, ran, standing, handedOver⟩
  rw [routedTurns, handlePerCommandRouting, ran]
  cases ended with
  | switched request =>
    rcases handedOver request rfl with ⟨user, known⟩
    rw [known] at standing
    exact ⟨_, rfl, guarded_switchToStatefulMode enabled known standing dedicated request rest⟩
  | _ => exact ⟨_, rfl, standing.guarded⟩

/-- In every mode, for every client stream in every chunking and all surroundings, a session
with authentication is guarded. -/
theorem sessions_guarded (session : ClientSession) (enabled : session.authHandler.isEnabled = true)
    (worlds : Nat → BatchWorld pool) (dedicated : StatefulWorld) (reader : ClientReader)
    (client : ClientWriter) :
    ∃ turns, sessionTurns session worlds dedicated reader client = some turns ∧
      Guarded session.authHandler turns := by
  have routed := guarded_routedTurns enabled worlds dedicated reader client
  unfold sessionTurns
  cases session.routingMode with
  | perCommand => exact routed
  | hybrid => exact routed
  | stateful =>
    refine ⟨_, rfl, ?_⟩
    cases dedicated.backend with
    | none => exact (Standing.start session.authHandler).guarded
    | some backend =>
      exact (watched_statefulLoop enabled client.sink backend).guarded enabled dedicated.inputs

/-! ## A session that is handed over -/

/-- One user with a password of one letter. -/
def oneUser : AuthHandler where
  users := [(⟨[117], by decide, by decide⟩, ascii "p")]
  nodup := by simp

/-- A hybrid session without backends for single commands. -/
def hybridSession : ClientSession where
  router := .withStrategy .leastLoaded ⟨false, 0, 0⟩
  authHandler := oneUser
  routingMode := .hybrid
  storesPayloads := false
  adaptivePrecheck := false

/-- Surroundings without connections and without cached articles. -/
def quietBatch (pool : BufferPool) : BatchWorld pool :=
  let nothing : Retry.Try pool := ⟨fun _ => none, fun _ => false⟩
  let pass : Retry.Pass pool :=
    ⟨⟨fun _ => ⟨⟨0, 0, 0, 0⟩, 0⟩, 0, 0, 0⟩, fun _ => nothing, fun _ => nothing, fun _ => nothing⟩
  let request : RequestWorld pool := ⟨none, fun _ => none, fun _ => pass⟩
  { availability := fun _ => .new
    window := ⟨fun _ => none, fun _ => false, false, fun _ => false, fun _ => false,
      fun _ _ => pass, fun _ => none⟩
    requests := fun _ => request
    trailing := request }

/-- The client asks for a group, authenticates and asks again. -/
def groupReader : ClientReader where
  buffered := []
  arrivals :=
    [⟨ascii "GROUP a\r\nAUTHINFO US", by decide +kernel, 0⟩,
      ⟨ascii "ER u\r\nauthinfo pass p\r\nGROUP a\r\n", by decide +kernel, 1⟩]
  ending := .eof

theorem hybridSession_guarded :
    oneUser.isEnabled = true ∧
      ∃ turns, sessionTurns hybridSession (fun _ => quietBatch smallPool)
        ⟨some ⟨[], none, none⟩, 0, []⟩ groupReader ⟨⟨[], none, none⟩, .brokenPipe⟩ = some turns ∧
        Guarded oneUser turns :=
  ⟨rfl, sessions_guarded hybridSession rfl _ _ _ _⟩

example : (sessionTurns hybridSession (fun _ => quietBatch smallPool)
    ⟨some ⟨[], none, none⟩, 0, []⟩ groupReader ⟨⟨[], none, none⟩, .brokenPipe⟩).map
      (·.map fun turn => (turn.toBackend, turn.toClient)) =
    some [([], authRequiredForCommand), ([], authRequired), ([], authAccepted),
      (ascii "GROUP a\r\n", [])] := by
  decide +kernel

end NntpProxy.Hybrid
