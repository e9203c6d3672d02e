import NntpProxy.PerCommand.Session
import NntpProxy.PerCommand.WindowOrder

/-!
# Access in the per-command loop

Before the client proved an identity no command is routed: the window is not chosen, and the
plan of every command is a local reply.  An answered `AUTHINFO` command proves an identity or
leaves the client without one; a recorded user stays.
-/

namespace NntpProxy.PerCommand

open Protocol Session Transport Router Retry NntpProxy.Stream PerCommandLoopState

variable {pool : BufferPool} {handler : AuthHandler} {session : ClientSession}

/-! ## The invariant -/

/-- Where a loop stands that has not been ended by an error. -/
structure Watched (handler : AuthHandler) (state : PerCommandLoopState) : Prop where
  standing : Standing handler state.turns state.identity
  awaits : state.identity = none → Awaits state.turns state.authUsername
  required : state.identity = none → state.access = .required

/-- An outcome that keeps the invariant; after an error only the turns count. -/
structure Keeps {α : Type} (handler : AuthHandler)
    (outcome : Except CommandError α × PerCommandLoopState) : Prop where
  standing : Standing handler outcome.2.turns outcome.2.identity
  watched : ∀ value, outcome.1 = .ok value → Watched handler outcome.2

theorem Watched.keeps {α : Type} {state : PerCommandLoopState} (watched : Watched handler state)
    (result : Except CommandError α) : Keeps handler (result, state) :=
  ⟨watched.standing, fun _ _ => watched⟩

theorem Keeps.map {α β : Type} {outcome : Except CommandError α × PerCommandLoopState}
    (keeps : Keeps handler outcome) (f : α → β) : Keeps handler (outcome.1.map f, outcome.2) := by
  refine ⟨keeps.standing, fun value succeeded => ?_⟩
  rcases outcome with ⟨error | value, state⟩
  · cases succeeded
  · exact keeps.watched value rfl

theorem watched_new (enabled : handler.isEnabled = true) (client : ClientWriter) :
    Watched handler (.new handler client) := by
  constructor
  · exact .start handler
  · exact fun _ => ⟨rfl, by simp [new]⟩
  · intro
    simp [new, AuthenticationAccess.fromAuthEnabled, enabled]

variable {state : PerCommandLoopState}

section

variable (watched : Watched handler state)

include watched

theorem Watched.refreshed : Watched handler state.refreshed := by
  refine ⟨watched.standing, watched.awaits, fun noUser => ?_⟩
  have noUser : state.identity = none := noUser
  simp [PerCommandLoopState.refreshed, Stateful.StatefulLoop.authenticationAccess, noUser,
    watched.required noUser]

theorem Watched.counted (request : RequestContext) :
    Watched handler (state.counted request) :=
  ⟨watched.standing, watched.awaits, watched.required⟩

theorem Watched.exists_user
    (allowed : state.access.canAccessBackend = true) : ∃ user, state.identity = some user := by
  cases known : state.identity with
  | some user => exact ⟨user, rfl⟩
  | none => simp [watched.required known, AuthenticationAccess.canAccessBackend] at allowed

theorem Watched.turn {request : Option RequestContext}
    (otherCommand : state.identity = none → ∀ command, request = some command →
      command.kind ≠ .authInfo) {toBackend : Bytes}
    (closed : state.identity = none → toBackend = []) (client : ClientWriter) :
    Watched handler (state.turn request toBackend client state.identity) := by
  have standing := watched.standing
  cases known : state.identity with
  | some user =>
    rw [known] at standing
    refine ⟨standing.goOn rfl, ?_, ?_⟩
    · rintro ⟨⟩
    · rintro ⟨⟩
  | none =>
    rw [known] at standing
    obtain rfl := closed known
    refine ⟨standing.quiet ⟨rfl, rfl⟩ (Or.inr (otherCommand known)), fun _ => ?_,
      fun _ => watched.required known⟩
    cases request with
    | none => exact (watched.awaits known).noCommand _ _ _
    | some command => exact (watched.awaits known).other (otherCommand known command rfl) _ _ _

end

/-! ## Commands -/

theorem keeps_writeLocal (watched : Watched handler state) {request : Option RequestContext}
    (otherCommand : ∀ command, request = some command → command.kind ≠ .authInfo)
    (reply : Bytes) : Keeps handler (state.writeLocal request reply) := by
  unfold writeLocal
  split
  · exact (watched.turn (fun _ => otherCommand) (fun _ => rfl) _).keeps _
  · exact (watched.turn (fun _ => otherCommand) (fun _ => rfl) _).keeps _

theorem recorded_some (result : AuthResult) (user : Username) :
    result.recorded (some user) = some user := by
  simp [AuthResult.recorded]

variable {request : RequestContext}

section

variable (enabled : session.authHandler.isEnabled = true)
    (watched : Watched session.authHandler state)

include enabled watched

/-- An `AUTHINFO` command of a client without an identity. -/
theorem keeps_handleInterceptAuth_unknown (unknown : state.identity = none)
    (isAuthInfo : request.kind = .authInfo) :
    Keeps session.authHandler
      (handleInterceptAuth session (classifyAuth request.args) request state) := by
  have standing := watched.standing
  have awaits := watched.awaits unknown
  rw [unknown] at standing
  unfold handleInterceptAuth
  rw [unknown]
  cases answered : handleAuthCommand session.authHandler (classifyAuth request.args)
      state.authUsername none with
  | none =>
    refine ⟨standing.quiet ⟨rfl, rfl⟩ (Or.inl ?_), by simp⟩
    simpa using (by decide +kernel : authAccepted ≠ []).symm
  | some result =>
    simp only
    rcases state.client.sink.writeAll_cases result.reply with
      ⟨-, writeEq⟩ | ⟨room, -, short, writeEq⟩
    · rw [writeEq]
      have toClient : (state.client.sink.accept result.reply).accepted.drop
          state.client.sink.accepted.length = result.reply := by
        simp [Sink.accept]
      rcases standing.answer enabled awaits isAuthInfo answered with ⟨proven, goesOn⟩
      simp only [turn, toClient]
      refine ⟨proven, fun _ _ => ⟨proven, goesOn, fun noUser => ?_⟩⟩
      exact watched.required unknown
    · rw [writeEq]
      have toClient : (state.client.sink.accept (result.reply.take room)).accepted.drop
          state.client.sink.accepted.length = result.reply.take room := by
        simp [Sink.accept]
      simp only [turn, toClient]
      refine ⟨standing.cutShort enabled awaits answered (List.take_prefix room _) ?_, by simp⟩
      intro same
      have lengths := congrArg List.length same
      rw [List.length_take] at lengths
      omega

theorem keeps_handleInterceptAuth (isAuthInfo : request.kind = .authInfo) :
    Keeps session.authHandler
      (handleInterceptAuth session (classifyAuth request.args) request state) := by
  cases known : state.identity with
  | none => exact keeps_handleInterceptAuth_unknown enabled watched known isAuthInfo
  | some user =>
    have turned (client : ClientWriter) :
        Watched session.authHandler (state.turn (some request) [] client state.identity) :=
      watched.turn (by simp [known]) (by simp [known]) client
    unfold handleInterceptAuth
    split
    · exact (turned _).keeps _
    next result answered =>
      split
      · exact (turned _).keeps _
      next sink writeEq =>
        rw [known, recorded_some, ← known]
        have watchedNext := turned { state.client with sink := sink }
        refine ⟨watchedNext.standing, fun _ _ => ⟨watchedNext.standing, ?_, ?_⟩⟩
        all_goals
          intro noUser
          cases known.symm.trans noUser

end

/-- The retry loop of a request always comes to an end. -/
theorem exists_routeAndExecuteRequest (session : ClientSession) (world : RequestWorld pool)
    (request : RequestContext) (client : ClientWriter) :
    ∃ result after, routeAndExecuteRequest session world request client = some (result, after) := by
  unfold routeAndExecuteRequest
  split
  · exact ⟨_, _, rfl⟩
  next availability _ =>
    rcases executeArticleRetryLoop_ran session.router request (session.retains request)
      world.passes availability client with ⟨result, final, -, finished⟩
    rw [finished]
    cases result with
    | error error => exact ⟨_, _, rfl⟩
    | ok answer => exact ⟨_, _, rfl⟩

theorem keeps_handleForwardDecision (watched : Watched handler state) {user : Username}
    (known : state.identity = some user) (world : RequestWorld pool) (request : RequestContext) :
    ∃ outcome, handleForwardDecision session world request state = some outcome ∧
      Keeps handler outcome := by
  rcases exists_routeAndExecuteRequest session world request state.client with
    ⟨result, after, routed⟩
  rw [handleForwardDecision, routed]
  refine ⟨_, rfl, Watched.keeps (watched.turn ?_ ?_ after) result⟩
  · simp [known]
  · simp [known]

theorem keeps_processSingleCommandWithPlan (enabled : session.authHandler.isEnabled = true)
    (watched : Watched session.authHandler state) (world : RequestWorld pool) {plan : CommandPlan}
    (planned : Planned request state.access plan) :
    ∃ outcome, processSingleCommandWithPlan session world request plan state = some outcome ∧
      Keeps session.authHandler outcome := by
  unfold processSingleCommandWithPlan
  by_cases isQuit : request.kind = .quit
  · rw [if_pos isQuit]
    exact ⟨_, rfl, (keeps_writeLocal watched (by simp [isQuit]) _).map _⟩
  · rw [if_neg isQuit]
    by_cases isAuthInfo : request.kind = .authInfo
    · rw [planned.auth isAuthInfo]
      exact ⟨_, rfl, (keeps_handleInterceptAuth enabled watched isAuthInfo).map _⟩
    · have otherCommand : ∀ command, some request = some command → command.kind ≠ .authInfo := by
        rintro command ⟨⟩
        exact isAuthInfo
      cases plan with
      | interceptAuth action => exact absurd (planned.onlyAuth action rfl) isAuthInfo
      | forward =>
        rcases planned.forward rfl with quits | allowed
        · exact absurd quits isQuit
        · rcases watched.exists_user allowed with ⟨user, known⟩
          rcases keeps_handleForwardDecision watched known world request with
            ⟨outcome, routed, keeps⟩
          exact ⟨_, by rw [routed]; rfl, keeps.map _⟩
      | switchToStateful handed =>
        exact ⟨_, rfl, (watched.turn (fun _ => otherCommand) (fun _ => rfl) _).keeps _⟩
      | _ => exact ⟨_, rfl, (keeps_writeLocal watched otherCommand _).map _⟩

/-! ## Batches -/

theorem keeps_executePipelineableCommands (enabled : session.authHandler.isEnabled = true)
    (watched : Watched session.authHandler state) (world : BatchWorld pool) (index : Nat)
    (requests : List PipelineableRequest) :
    ∃ outcome, executePipelineableCommands session world index requests state = some outcome ∧
      Keeps session.authHandler outcome := by
  induction requests generalizing index state with
  | nil => exact ⟨_, rfl, watched.keeps _⟩
  | cons request requests ih =>
    rcases keeps_processSingleCommandWithPlan enabled (watched.counted request.request).refreshed
      (world.requests index) (classifyRequest_planned request.request _ session.routingMode) with
      ⟨⟨result, next⟩, processed, keeps⟩
    rw [executePipelineableCommands, processSingleCommand, processed]
    cases result with
    | error error => exact ⟨_, rfl, keeps.standing, by simp⟩
    | ok value =>
      have watchedNext := keeps.watched value rfl
      cases value with
      | quit => exact ⟨_, rfl, watchedNext.keeps _⟩
      | goOn => exact ih watchedNext (index + 1)

theorem allowed_of_selectSingleBackendArticleWindow {access : AuthenticationAccess}
    {requests : List PipelineableRequest} {slot : AvailabilitySlot}
    (selected : selectSingleBackendArticleWindow session access requests = some slot) :
    access.canAccessBackend = true := by
  unfold selectSingleBackendArticleWindow at selected
  split at selected
  · cases selected
  next eligible =>
    simp only [Bool.or_eq_true, not_or, Bool.not_eq_true, Bool.not_eq_false'] at eligible
    exact eligible.1.2

theorem keeps_executePipelineableBatch (enabled : session.authHandler.isEnabled = true)
    (watched : Watched session.authHandler state) (world : BatchWorld pool)
    (requests : List PipelineableRequest) :
    ∃ outcome, executePipelineableBatch session world requests state = some outcome ∧
      Keeps session.authHandler outcome := by
  have watched := watched.refreshed
  unfold executePipelineableBatch
  cases selected : selectSingleBackendArticleWindow session state.refreshed.access requests with
  | none =>
    simp only [selected]
    exact keeps_executePipelineableCommands enabled watched world 0 requests
  | some slot =>
    have allowed := allowed_of_selectSingleBackendArticleWindow selected
    rcases watched.exists_user allowed with ⟨user, known⟩
    rcases executeArticleWindow_served session.router session.retains world.window slot
      (windowBatch world requests) state.refreshed.client with ⟨run, executed, -⟩
    have turned : Watched session.authHandler
        (state.refreshed.turn none (requests.flatMap (·.request.wire)) run.client
          state.refreshed.identity) :=
      watched.turn (by simp) (by simp [known]) run.client
    simp only [selected, executed]
    cases run.result with
    | error error => exact ⟨_, rfl, turned.standing, by simp⟩
    | ok value =>
      exact ⟨_, rfl, turned.standing, fun _ _ =>
        ⟨turned.standing, turned.awaits, turned.required⟩⟩

theorem keeps_rejectLine (watched : Watched handler state) (rejection : RequestRejection) :
    Keeps handler (rejectLine rejection state) :=
  (keeps_writeLocal watched (by simp) _).map _

section

variable (enabled : session.authHandler.isEnabled = true)
    (watched : Watched session.authHandler state) (world : BatchWorld pool)

include enabled watched

/-- What stands behind a batch; only a client that may reach a backend becomes stateful. -/
theorem keeps_handleTrailingCommand (trailing : BatchTail) :
    ∃ outcome, handleTrailingCommand session world trailing state = some outcome ∧
      Keeps session.authHandler outcome ∧
      ∀ request, outcome.1 = .ok (.switchToStateful request) →
        ∃ user, outcome.2.identity = some user := by
  cases trailing with
  | none => exact ⟨_, rfl, watched.keeps _, by simp⟩
  | rejection rejection =>
    refine ⟨_, rfl, keeps_rejectLine watched rejection, ?_⟩
    intro request switched
    cases written : (state.writeLocal none (rejectionReply rejection)).1 <;>
      simp [rejectLine, written, Except.map] at switched
  | context request =>
    have watched := (watched.counted request).refreshed
    have planned := classifyRequest_planned request (state.counted request).refreshed.access
      session.routingMode
    unfold handleTrailingCommand
    simp only
    split
    next handed planEq =>
      rw [planEq] at planned
      exact ⟨_, rfl, watched.keeps _, fun _ _ => watched.exists_user (planned.stateful _ rfl)⟩
    next notStateful =>
      rcases keeps_processSingleCommandWithPlan enabled watched world.trailing planned with
        ⟨⟨result, next⟩, processed, keeps⟩
      rw [processed]
      cases result with
      | error error => exact ⟨_, rfl, ⟨keeps.standing, by simp⟩, by simp⟩
      | ok value =>
        have watchedNext := keeps.watched value rfl
        cases value with
        | quit => exact ⟨_, rfl, watchedNext.keeps _, by simp⟩
        | goOn => exact ⟨_, rfl, watchedNext.keeps _, by simp⟩

theorem keeps_handleCommandBatch (batch : RequestBatch) :
    ∃ outcome, handleCommandBatch session world batch state = some outcome ∧
      Keeps session.authHandler outcome ∧
      ∀ request, outcome.1 = .ok (.switchToStateful request) →
        ∃ user, outcome.2.identity = some user := by
  rcases batch with ⟨contents, trailing⟩
  cases contents with
  | rejected rejection =>
    exact keeps_handleTrailingCommand enabled watched world (.rejection rejection)
  | empty =>
    unfold handleCommandBatch
    simp only
    split
    · exact ⟨_, rfl, watched.keeps _, by simp⟩
    · exact keeps_handleTrailingCommand enabled watched world trailing
  | contexts requests =>
    rcases keeps_executePipelineableBatch enabled watched world requests with
      ⟨⟨result, next⟩, executed, keeps⟩
    unfold handleCommandBatch
    simp only [executed]
    cases result with
    | error error => exact ⟨_, rfl, ⟨keeps.standing, by simp⟩, by simp⟩
    | ok value =>
      exact keeps_handleTrailingCommand enabled (keeps.watched value rfl) world trailing

end

/-! ## The loop -/

/-- The loop goes on only behind a batch that took octets off the stream. -/
theorem handleCommandBatch_goOn {world : BatchWorld pool} {batch : RequestBatch}
    {state next : PerCommandLoopState}
    (handled : handleCommandBatch session world batch state = some (.ok .goOn, next)) :
    batch ≠ ⟨.empty, .none⟩ := by
  rintro rfl
  cases handled

theorem runPerCommandLoop_standing (enabled : session.authHandler.isEnabled = true)
    (worlds : Nat → BatchWorld pool) {fuel index : Nat} {reader : ClientReader}
    (watched : Watched session.authHandler state) (enough : reader.contents.length < fuel) :
    ∃ ended rest last, runPerCommandLoop session worlds fuel index reader state =
        some (ended, rest, last) ∧
      Standing session.authHandler last.turns last.identity ∧
      ∀ request, ended = .switched request → ∃ user, last.identity = some user := by
  induction fuel generalizing index reader state with
  | zero => exact absurd enough (Nat.not_lt_zero _)
  | succ fuel ih =>
    unfold runPerCommandLoop
    rcases readEq : readCommandBatch reader with ⟨_ | batch, rest⟩
    · exact ⟨_, _, _, rfl, watched.standing, by simp⟩
    · rcases keeps_handleCommandBatch enabled watched (worlds index) batch with
        ⟨⟨result, next⟩, handled, keeps, known⟩
      simp only [handled]
      cases result with
      | error error => exact ⟨_, _, _, rfl, keeps.standing, by simp⟩
      | ok action =>
        cases action with
        | leave => exact ⟨_, _, _, rfl, keeps.standing, by simp⟩
        | switchToStateful request =>
          exact ⟨_, _, _, rfl, keeps.standing, fun _ _ => known _ rfl⟩
        | goOn =>
          apply ih (keeps.watched _ rfl)
          rcases length_readCommandBatch readEq with isEmpty | shorter
          · exact absurd isEmpty (handleCommandBatch_goOn handled)
          · exact Nat.lt_of_lt_of_le shorter (Nat.le_of_lt_succ enough)

end NntpProxy.PerCommand
