import NntpProxy.Cache.Reply
import NntpProxy.PerCommand.Access
import NntpProxy.PerCommand.WindowSuccess
import NntpProxy.Session.Replies
import NntpProxy.Transport.Pipeline

/-!
# One reply to every line

When backends send whole responses and the client takes everything, the per-command loop
answers line by line: every line gets one reply, in the order of the lines, up to `QUIT`.  The
one line without a reply is an `AUTHINFO USER` that names nobody while no user is recorded; it
ends the session.
-/

namespace NntpProxy.PerCommand

open Protocol Session Framing Transport Router Retry Cache NntpProxy.Stream List CommandLine

variable {pool : BufferPool} {handler : AuthHandler} {session : ClientSession}

/-! ## Surroundings -/

/-- Backends send whole responses, and the cache holds what was captured of such. -/
structure RequestWorld.Whole (world : RequestWorld pool) : Prop where
  passes : ∀ index, (world.passes index).Whole
  cached : ∀ entry, world.cached = some entry → entry.payload.Blocks
  precheck : ∀ kind entry, world.precheck kind = some (.cached entry) → entry.payload.Blocks

structure BatchWorld.Whole (world : BatchWorld pool) : Prop where
  window : world.window.Whole
  requests : ∀ index, (world.requests index).Whole
  trailing : world.trailing.Whole

/-! ## Lines -/

/-- The kind of the request in a line; a line that is no request has no known kind. -/
def CommandLine.kind : CommandLine → RequestKind
  | .parsed request => request.kind
  | _ => .unknown

/-- How far the client is with its authentication. -/
structure AuthProgress where
  authUsername : ClientAuthState
  identity : Option Username

namespace AuthProgress

/-- The progress of a client that connected. -/
def start : AuthProgress :=
  ⟨.anonymous, none⟩

/-- The progress behind a line, unless the line has no reply. -/
def after (handler : AuthHandler) (progress : AuthProgress) : CommandLine → Option AuthProgress
  | .parsed request =>
    if request.kind = .authInfo then
      (handleAuthCommand handler (classifyAuth request.args) progress.authUsername
        progress.identity).map fun result =>
          ⟨result.state, result.recorded progress.identity⟩
    else some progress
  | _ => some progress

end AuthProgress

def PerCommandLoopState.progress (state : PerCommandLoopState) : AuthProgress :=
  ⟨state.authUsername, state.identity⟩

/-- The lines that are answered, and the progress behind them unless the session ends. -/
def serve (handler : AuthHandler) :
    AuthProgress → List CommandLine → List CommandLine × Option AuthProgress
  | progress, [] => ([], some progress)
  | progress, item :: items =>
    if item.kind = .quit then ([item], none)
    else
      match progress.after handler item with
      | none => ([], none)
      | some next => (item :: (serve handler next items).1, (serve handler next items).2)

variable {items : List CommandLine}

theorem serve_append_of_ended {progress : AuthProgress}
    (ended : (serve handler progress items).2 = none) (more : List CommandLine) :
    serve handler progress (items ++ more) = serve handler progress items := by
  induction items generalizing progress with
  | nil => cases ended
  | cons item items ih =>
    rw [cons_append, serve, serve]
    rw [serve] at ended
    split
    · rfl
    next notQuit =>
      rw [if_neg notQuit] at ended
      cases behind : progress.after handler item with
      | none => rfl
      | some next =>
        simp only [behind] at ended ⊢
        rw [ih ended]

theorem serve_append_of_some {progress next : AuthProgress}
    (goesOn : (serve handler progress items).2 = some next) (more : List CommandLine) :
    serve handler progress (items ++ more) =
      ((serve handler progress items).1 ++ (serve handler next more).1,
        (serve handler next more).2) := by
  induction items generalizing progress with
  | nil =>
    obtain rfl : progress = next := Option.some.inj goesOn
    rfl
  | cons item items ih =>
    rw [cons_append, serve, serve]
    rw [serve] at goesOn
    by_cases isQuit : item.kind = .quit
    · rw [if_pos isQuit] at goesOn
      cases goesOn
    · rw [if_neg isQuit] at goesOn ⊢
      rw [if_neg isQuit]
      cases behind : progress.after handler item with
      | none =>
        rw [behind] at goesOn
        cases goesOn
      | some between =>
        simp only [behind] at goesOn ⊢
        rw [ih goesOn]
        rfl

variable {item : CommandLine}

theorem AuthProgress.after_of_ne (notAuth : item.kind ≠ .authInfo) (handler : AuthHandler)
    (progress : AuthProgress) : progress.after handler item = some progress := by
  cases item with
  | parsed request => exact if_neg notAuth
  | _ => rfl

theorem serve_of_ne (others : ∀ item ∈ items, item.kind ≠ .quit ∧ item.kind ≠ .authInfo)
    (handler : AuthHandler)
    (progress : AuthProgress) : serve handler progress items = (items, some progress) := by
  induction items with
  | nil => rfl
  | cons item items ih =>
    rw [forall_mem_cons] at others
    rw [serve, if_neg others.1.1, AuthProgress.after_of_ne others.1.2]
    simp only [ih others.2]

/-! ## Answers -/

/-- What a part of the loop does with lines: it writes one reply for each of them that is
answered, and the loop goes on exactly when the session does. -/
structure Answered (handler : AuthHandler) (progress : AuthProgress) (client : ClientWriter)
    (items : List CommandLine) (goesOn : Prop) (next : PerCommandLoopState) : Prop where
  replies : ∃ replies,
    List.Forall₂ IsReply ((serve handler progress items).1.map kind) replies ∧
      next.client.sink.accepted = client.sink.accepted ++ replies.flatten
  unlimited : Unlimited next.client
  goesOn_iff : ∀ after,
    (serve handler progress items).2 = some after ↔ goesOn ∧ next.progress = after

variable {reply : Bytes}

namespace Answered

variable {progress : AuthProgress} {client : ClientWriter} {items more : List CommandLine}
  {goesOn : Prop} {state next : PerCommandLoopState}

theorem nothing (unlimited : Unlimited state.client) :
    Answered handler state.progress state.client [] True state := by
  refine ⟨⟨[], .nil, by simp⟩, unlimited, fun after => ?_⟩
  simp [serve]

theorem of_iff {alsoGoesOn : Prop}
    (answered : Answered handler progress client items goesOn next) (same : alsoGoesOn ↔ goesOn) :
    Answered handler progress client items alsoGoesOn next := by
  refine ⟨answered.replies, answered.unlimited, fun after => ?_⟩
  rw [answered.goesOn_iff after, same]

theorem single (notQuit : item.kind ≠ .quit) (isReply : IsReply item.kind reply)
    (acceptedEq : next.client.sink.accepted = client.sink.accepted ++ reply)
    (unlimited : Unlimited next.client) (behind : progress.after handler item = some next.progress)
    (went : goesOn) : Answered handler progress client [item] goesOn next := by
  have served : serve handler progress [item] = ([item], some next.progress) := by
    rw [serve, if_neg notQuit, behind]
    rfl
  refine ⟨⟨[reply], ?_, by simpa using acceptedEq⟩, unlimited, fun after => ?_⟩
  · rw [served]
    exact .cons isReply .nil
  · rw [served]
    simp [went]

/-- The line that closes the session. -/
theorem quit (isQuit : item.kind = .quit) (isReply : IsReply item.kind reply)
    (acceptedEq : next.client.sink.accepted = client.sink.accepted ++ reply)
    (unlimited : Unlimited next.client) (ended : ¬ goesOn) :
    Answered handler progress client [item] goesOn next := by
  have served : serve handler progress [item] = ([item], none) := by
    rw [serve, if_pos isQuit]
  refine ⟨⟨[reply], ?_, by simpa using acceptedEq⟩, unlimited, fun after => ?_⟩
  · rw [served]
    exact .cons isReply .nil
  · rw [served]
    simp [ended]

/-- The line without a reply. -/
theorem unanswered (notQuit : item.kind ≠ .quit) (behind : progress.after handler item = none)
    (sameClient : next.client = client) (unlimited : Unlimited client) (ended : ¬ goesOn) :
    Answered handler progress client [item] goesOn next := by
  have served : serve handler progress [item] = ([], none) := by
    rw [serve, if_neg notQuit, behind]
  refine ⟨⟨[], ?_, by simp [sameClient]⟩, sameClient ▸ unlimited, fun after => ?_⟩
  · rw [served]
    exact .nil
  · rw [served]
    simp [ended]

/-- Lines behind lines after which the session goes on. -/
theorem append {between : PerCommandLoopState} {wentOn : Prop}
    (first : Answered handler progress client items wentOn between) (went : wentOn)
    (second : Answered handler between.progress between.client more goesOn next) :
    Answered handler progress client (items ++ more) goesOn next := by
  have served := serve_append_of_some ((first.goesOn_iff _).mpr ⟨went, rfl⟩) more
  rcases first.replies with ⟨replies, isReplies, acceptedEq⟩
  rcases second.replies with ⟨others, areOthers, othersEq⟩
  refine ⟨⟨replies ++ others, ?_, ?_⟩, second.unlimited, fun after => ?_⟩
  · rw [served, map_append]
    exact rel_append isReplies areOthers
  · rw [othersEq, acceptedEq, flatten_append, append_assoc]
  · rw [served]
    exact second.goesOn_iff after

theorem append_ended {wentOn : Prop} (first : Answered handler progress client items wentOn next)
    (ended : ¬ wentOn) (more : List CommandLine) (alsoEnded : ¬ goesOn) :
    Answered handler progress client (items ++ more) goesOn next := by
  have noneLeft : (serve handler progress items).2 = none := by
    rw [Option.eq_none_iff_forall_not_mem]
    intro after isSome
    exact ended ((first.goesOn_iff after).mp isSome).1
  have served := serve_append_of_ended noneLeft more
  refine ⟨served ▸ first.replies, first.unlimited, fun after => ?_⟩
  rw [served, noneLeft]
  simp [alsoEnded]

end Answered

/-! ## Routed requests -/

/-- The request was parsed from a line. -/
def FromLine (request : RequestContext) : Prop :=
  ∃ line, RequestContext.parse line = some request

variable {request : RequestContext}

theorem FromLine.exists_messageId (fromLine : FromLine request) {text : Bytes}
    (found : messageIdText request = some text) :
    ∃ messageId : MessageId, messageId.text = text := by
  rcases fromLine with ⟨line, parsed⟩
  rcases Option.map_eq_some_iff.mp found with ⟨⟨start, stop⟩, position, rfl⟩
  rw [RequestContext.findMessageId_of_parse parsed] at position
  exact ⟨⟨_, isMessageId_of_findMessageId position⟩, rfl⟩

/-- Replies of the retry loop. -/
theorem isReply_of_answerText {passes : Nat → Pass pool} {kind : RequestKind} {answer : Answer}
    {text : Bytes} (isAnswer : AnswerText passes kind answer [] text) : IsReply kind text := by
  cases isAnswer with
  | backend index id response sends => exact ⟨response, rfl⟩
  | noSuchArticle => exact isErrorLine_noSuchArticle.isReply kind
  | backendError => exact isErrorLine_backendError.isReply kind

theorem isReply_of_entry (fromLine : FromLine request) {messageId : Bytes}
    (isId : messageIdText request = some messageId) {entry : CachedArticle}
    (blocks : entry.payload.Blocks) {pieces : List Bytes}
    (found : (entry.cachedResponseFor request.kind messageId).map (·.slices) = some pieces) :
    IsReply request.kind pieces.flatten := by
  rcases fromLine.exists_messageId isId with ⟨messageId, rfl⟩
  rcases Option.map_eq_some_iff.mp found with ⟨reply, replyEq, rfl⟩
  exact exists_response_of_cached blocks replyEq

variable {world : RequestWorld pool}

theorem isReply_of_served (isWhole : world.Whole) (fromLine : FromLine request)
    {pieces : List Bytes} (found : prepareRequestExecution session world request = .served pieces) :
    IsReply request.kind pieces.flatten := by
  unfold prepareRequestExecution at found
  split at found
  · cases found
  next messageId isId =>
    simp only at found
    split at found
    next pieces' servedEq =>
      cases found
      rw [Option.or_eq_some_iff] at servedEq
      rcases servedEq with stored | ⟨-, prechecked⟩
      · split at stored
        · rcases Option.bind_eq_some_iff.mp stored with ⟨entry, cached, fromEntry⟩
          exact isReply_of_entry fromLine isId (isWhole.cached entry cached) fromEntry
        · cases stored
      · split at prechecked
        · split at prechecked
          · cases prechecked
          next entry isCached =>
            exact isReply_of_entry fromLine isId (isWhole.precheck _ entry isCached) prechecked
          next response _ =>
            obtain rfl := Option.some.inj prechecked
            exact ⟨response, by simp⟩
        · cases prechecked
    · cases found

theorem routeAndExecuteRequest_answers (session : ClientSession) (isWhole : world.Whole)
    (fromLine : FromLine request) {client : ClientWriter} (unlimited : Unlimited client) :
    ∃ after reply, routeAndExecuteRequest session world request client = some (.ok (), after) ∧
      IsReply request.kind reply ∧
      after.sink.accepted = client.sink.accepted ++ reply ∧ Unlimited after := by
  unfold routeAndExecuteRequest
  split
  next pieces found =>
    have accepted := unlimited.accept pieces.flatten
    have flushed := accepted.flush
    refine ⟨client.accept pieces.flatten, pieces.flatten, ?_,
      isReply_of_served isWhole fromLine found, rfl, accepted⟩
    unfold writeAndFlush
    rw [Sink.writePieces_eq, unlimited.writeAll]
    simp only [ClientWriter.accept] at flushed ⊢
    rw [flushed]
  next availability _ =>
    rcases executeArticleRetryLoop_answers session.router request (session.retains request)
      isWhole.passes availability unlimited with
      ⟨answer, final, text, finished, isAnswer, acceptedEq, unlimitedAfter⟩
    rw [finished]
    exact ⟨_, text, rfl, isReply_of_answerText isAnswer, acceptedEq, unlimitedAfter⟩

/-! ## Commands -/

variable {state : PerCommandLoopState}

theorem writeLocal_unlimited (unlimited : Unlimited state.client) (request : Option RequestContext)
    (reply : Bytes) :
    state.writeLocal request reply =
      (.ok (), state.turn request [] (state.client.accept reply) state.identity) := by
  unfold PerCommandLoopState.writeLocal
  rw [unlimited.writeAll]
  rfl

theorem Answered.of_local {goesOn : Prop} (unlimited : Unlimited state.client)
    (notQuit : item.kind ≠ .quit) (notAuth : item.kind ≠ .authInfo)
    (isReply : IsReply item.kind reply) (request : Option RequestContext) (went : goesOn) :
    Answered handler state.progress state.client [item] goesOn
      (state.turn request [] (state.client.accept reply) state.identity) := by
  exact .single notQuit isReply rfl (unlimited.accept reply) (AuthProgress.after_of_ne notAuth _ _)
    went

theorem handleInterceptAuth_answered (session : ClientSession)
    (isAuthInfo : request.kind = .authInfo) (unlimited : Unlimited state.client) :
    Answered session.authHandler state.progress state.client [.parsed request]
      ((handleInterceptAuth session (classifyAuth request.args) request state).1 = .ok ())
      (handleInterceptAuth session (classifyAuth request.args) request state).2 := by
  have notQuit : (parsed request).kind ≠ .quit := by simp [kind, isAuthInfo]
  have behind : state.progress.after session.authHandler (.parsed request) = _ := if_pos isAuthInfo
  unfold handleInterceptAuth
  cases answered : handleAuthCommand session.authHandler (classifyAuth request.args)
      state.authUsername state.identity with
  | none =>
    refine .unanswered notQuit ?_ rfl unlimited (by simp)
    rw [behind]
    exact congrArg _ answered
  | some result =>
    simp only [unlimited.writeAll]
    refine .single notQuit ?_ rfl (unlimited.accept result.reply) ?_ trivial
    · have isReply := isReply_handleAuthCommand answered
      rwa [← isAuthInfo] at isReply
    · rw [behind]
      exact congrArg _ answered

theorem classifyRequest_perCommand (request : RequestContext) (access : AuthenticationAccess)
    (handed : RequestContext) :
    classifyRequest request access .perCommand ≠ .switchToStateful handed := by
  unfold classifyRequest
  split
  · simp
  · simp
  · simp
  · split
    · split <;> simp
    · split <;> simp
    · rw [if_neg (by decide)]
      split <;> simp
    · split <;> simp
    · simp

variable {access : AuthenticationAccess}

theorem kind_of_interceptCapabilities {mode : RoutingMode}
    (planEq : classifyRequest request access mode = .interceptCapabilities) :
    request.kind = .capabilities := by
  unfold classifyRequest at planEq
  split at planEq
  · cases planEq
  · assumption
  · cases planEq
  · split at planEq
    · split at planEq <;> cases planEq
    · split at planEq <;> cases planEq
    · split at planEq
      · split at planEq <;> cases planEq
      · split at planEq <;> cases planEq
    · split at planEq <;> cases planEq
    · split at planEq <;> cases planEq

theorem processSingleCommand_answered (perCommand : session.routingMode = .perCommand)
    (isWhole : world.Whole) (fromLine : FromLine request) (unlimited : Unlimited state.client) :
    ∃ result next, processSingleCommand session world request state = some (result, next) ∧
      Answered session.authHandler state.progress state.client [.parsed request]
        (result = .ok .goOn) next := by
  have planned := classifyRequest_planned request state.access session.routingMode
  have kindEq : (parsed request).kind = request.kind := rfl
  unfold processSingleCommand processSingleCommandWithPlan
  simp only [writeLocal_unlimited unlimited]
  by_cases isQuit : request.kind = .quit
  · rw [if_pos isQuit]
    refine ⟨_, _, rfl, .quit (kindEq.trans isQuit) ?_ rfl (unlimited.accept connectionClosing) ?_⟩
    · rw [kindEq, isQuit]
      exact isReply_connectionClosing
    · simp [Except.map]
  · rw [if_neg isQuit]
    by_cases isAuthInfo : request.kind = .authInfo
    · rw [planned.auth isAuthInfo]
      have answered := handleInterceptAuth_answered session isAuthInfo unlimited
      refine ⟨_, _, rfl, answered.of_iff ?_⟩
      cases (handleInterceptAuth session (classifyAuth request.args) request state).1 <;>
        simp [Except.map]
    · have notQuit : (parsed request).kind ≠ .quit := isQuit
      have notAuth : (parsed request).kind ≠ .authInfo := isAuthInfo
      cases planEq : classifyRequest request state.access session.routingMode with
      | interceptAuth action => exact absurd (planned.onlyAuth action planEq) isAuthInfo
      | forward =>
        rcases routeAndExecuteRequest_answers session isWhole fromLine unlimited with
          ⟨after, reply, routed, isReply, acceptedEq, unlimitedAfter⟩
        rw [handleForwardDecision, routed]
        exact ⟨_, _, rfl, .single notQuit isReply acceptedEq unlimitedAfter
          (AuthProgress.after_of_ne notAuth _ _) rfl⟩
      | switchToStateful handed =>
        rw [perCommand] at planEq
        exact absurd planEq (classifyRequest_perCommand _ _ _)
      | requireAuth =>
        exact ⟨_, _, rfl, .of_local unlimited notQuit notAuth
          (isErrorLine_authRequiredForCommand.isReply _) _ rfl⟩
      | reject response =>
        exact ⟨_, _, rfl, .of_local unlimited notQuit notAuth
          ((isErrorLine_of_reject planEq).isReply _) _ rfl⟩
      | interceptCapabilities =>
        refine ⟨_, _, rfl, .of_local unlimited notQuit notAuth ?_ _ rfl⟩
        rw [kindEq, kind_of_interceptCapabilities planEq]
        exact isReply_capabilitiesResponse _

/-! ## The requests of a batch -/

variable {world : BatchWorld pool}

theorem executePipelineableCommands_answered (perCommand : session.routingMode = .perCommand)
    (isWhole : world.Whole) (index : Nat) (requests : List PipelineableRequest)
    (fromLines : ∀ request ∈ requests, FromLine request.request)
    (unlimited : Unlimited state.client) :
    ∃ result next, executePipelineableCommands session world index requests state =
        some (result, next) ∧
      Answered session.authHandler state.progress state.client
        (requests.map fun request => .parsed request.request) (result = .ok ()) next := by
  induction requests generalizing index state with
  | nil => exact ⟨_, _, rfl, (Answered.nothing unlimited).of_iff (by simp)⟩
  | cons request requests ih =>
    rw [forall_mem_cons] at fromLines
    have unlimitedCounted : Unlimited (state.counted request.request).refreshed.client :=
      unlimited
    rcases processSingleCommand_answered perCommand (isWhole.requests index) fromLines.1
      unlimitedCounted with ⟨result, between, processed, answered⟩
    rw [executePipelineableCommands, processed]
    rcases result with error | _ | _
    · exact ⟨_, _, rfl, answered.append_ended (by simp) _ (by simp)⟩
    · rcases ih (index + 1) fromLines.2 answered.unlimited with ⟨result, next, executed, more⟩
      exact ⟨result, next, executed, answered.append rfl more⟩
    · exact ⟨_, _, rfl, answered.append_ended (by simp) _ (by simp)⟩

variable {replies : List Bytes}

theorem Sequential.isReplies {world : WindowWorld pool} {index : Nat}
    {requests : List RequestContext} (sequential : Sequential world index requests replies) :
    List.Forall₂ IsReply (requests.map (·.kind)) replies := by
  induction sequential with
  | nil index => exact .nil
  | cons answer text isAnswer rest ih => exact .cons (isReply_of_answerText isAnswer) ih

theorem Replies.isReplies {world : WindowWorld pool} {index : Nat}
    {requests : List (RequestContext × Bool)} {stream : Bytes}
    (isReplies : Replies world index requests stream replies) :
    List.Forall₂ IsReply (requests.map (·.1.kind)) replies := by
  induction isReplies with
  | nil index stream => exact .nil
  | knownMissing rest ih => exact .cons (isErrorLine_noSuchArticle.isReply _) ih
  | forwarded response rest ih =>
    refine .cons ?_ ih
    split
    · exact isErrorLine_noSuchArticle.isReply _
    · exact ⟨response, rfl⟩
  | sequential rest =>
    have isReplies := rest.isReplies
    rwa [map_map] at isReplies

theorem kinds_windowBatch (world : BatchWorld pool) (requests : List PipelineableRequest) :
    (windowBatch world requests).map (·.1.kind) = requests.map (·.request.kind) := by
  apply ext_getElem?
  simp [windowBatch, Function.comp_def]

/-- The responses of a window are not kept. -/
theorem discards_retains (noPayloads : session.storesPayloads = false) {kinds : List RequestKind}
    (parts : ∀ kind ∈ kinds, [RequestKind.article, .body, .head].contains kind = true) :
    Discards session.retains kinds := by
  intro request isKind response fits
  have isPart := parts _ isKind
  have notStat : response.status.value ≠ 223 := by
    intro isStat
    rw [fits isStat] at isPart
    cases isPart
  have action : determineCacheActionForRequest request response.status false = .trackAvailability ∨
      determineCacheActionForRequest request response.status false = .none := by
    unfold determineCacheActionForRequest
    split
    · exact Or.inr rfl
    · simp only [Bool.false_and, Bool.false_eq_true, if_false]
      split
      · exact Or.inl rfl
      · rw [if_neg (by simpa using notStat)]
        exact Or.inr rfl
  rw [ClientSession.retains, noPayloads, canDiscardResponseAfterWrite, isPart]
  rcases action with isTracked | isNone
  · rw [isTracked]
    rfl
  · rw [isNone]
    rfl

variable {requests : List PipelineableRequest}

theorem window_of_selectSingleBackendArticleWindow {slot : AvailabilitySlot}
    (selected : selectSingleBackendArticleWindow session access requests = some slot) :
    session.storesPayloads = false ∧ ∀ request ∈ requests,
      [RequestKind.article, .body, .head].contains request.request.kind = true := by
  unfold selectSingleBackendArticleWindow at selected
  split at selected
  · cases selected
  next eligible =>
    simp only [Bool.or_eq_true, not_or, Bool.not_eq_true, any_eq_false] at eligible
    refine ⟨eligible.1.1.2, fun request isRequest => ?_⟩
    have notOther := eligible.2 request isRequest
    simp only [Bool.not_eq_false'] at notOther
    exact notOther.1

theorem executePipelineableBatch_answered (perCommand : session.routingMode = .perCommand)
    (isWhole : world.Whole) (fromLines : ∀ request ∈ requests, FromLine request.request)
    (unlimited : Unlimited state.client) :
    ∃ result next, executePipelineableBatch session world requests state =
        some (result, next) ∧
      Answered session.authHandler state.progress state.client
        (requests.map fun request => .parsed request.request) (result = .ok ()) next := by
  have unlimitedRefreshed : Unlimited state.refreshed.client := unlimited
  unfold executePipelineableBatch
  cases selected : selectSingleBackendArticleWindow session state.refreshed.access requests with
  | none =>
    simp only [selected]
    exact executePipelineableCommands_answered perCommand isWhole 0 requests fromLines
      unlimitedRefreshed
  | some slot =>
    rcases window_of_selectSingleBackendArticleWindow selected with ⟨noPayloads, parts⟩
    have discards : Discards session.retains
        ((windowBatch world requests).map (·.1.kind)) := by
      apply discards_retains noPayloads
      rw [kinds_windowBatch]
      simpa using parts
    have others : ∀ item ∈ requests.map fun request => parsed request.request,
        item.kind ≠ .quit ∧ item.kind ≠ .authInfo := by
      simp only [mem_map]
      rintro item ⟨request, isRequest, rfl⟩
      have isPart := parts request isRequest
      constructor
      · intro isQuit
        rw [show request.request.kind = .quit from isQuit] at isPart
        cases isPart
      · intro isAuthInfo
        rw [show request.request.kind = .authInfo from isAuthInfo] at isPart
        cases isPart
    have succeeds := executeArticleWindow_succeeds session.router isWhole.window slot
      (windowBatch world requests) unlimitedRefreshed discards
    rcases executeArticleWindow_served session.router session.retains world.window slot
      (windowBatch world requests) state.refreshed.client with ⟨run, executed, served⟩
    have succeeded := succeeds.result run executed
    rcases served.replies succeeded with ⟨replies, isReplies, acceptedEq⟩
    simp only [selected, executed, succeeded]
    have served := serve_of_ne others session.authHandler state.progress
    refine ⟨_, _, rfl, ⟨replies, ?_, acceptedEq⟩, succeeds.unlimited run executed, fun after => ?_⟩
    · have isReplies := isReplies.isReplies
      rw [asked_route, map_map] at isReplies
      rw [served, map_map]
      exact kinds_windowBatch world requests ▸ isReplies
    · rw [served]
      simp only [true_and]
      exact Option.some_inj

/-! ## Batches -/

theorem isErrorLine_rejectionReply (rejection : RequestRejection) :
    IsErrorLine (rejectionReply rejection) := by
  have tooLong : IsErrorLine commandTooLong := ⟨⟨501, by decide, by decide⟩, by decide +kernel⟩
  cases rejection with
  | oversized wireLen => exact tooLong
  | invalid => exact ⟨⟨501, by decide, by decide⟩, by decide +kernel⟩

theorem rejectLine_answered (handler : AuthHandler) (rejection : RequestRejection)
    (unlimited : Unlimited state.client) :
    ∃ next, rejectLine rejection state = (.ok .goOn, next) ∧
      Answered handler state.progress state.client [rejection.item] True next := by
  unfold rejectLine
  simp only [writeLocal_unlimited unlimited]
  refine ⟨_, rfl, .of_local unlimited ?_ ?_
    ((isErrorLine_rejectionReply rejection).isReply _) none trivial⟩
  · cases rejection <;> simp [RequestRejection.item, kind]
  · cases rejection <;> simp [RequestRejection.item, kind]

theorem handleTrailingCommand_answered (perCommand : session.routingMode = .perCommand)
    (isWhole : world.Whole) {trailing : BatchTail}
    (fromLines : ∀ request, .parsed request ∈ trailing.items → FromLine request)
    (unlimited : Unlimited state.client) :
    ∃ result next, handleTrailingCommand session world trailing state = some (result, next) ∧
      Answered session.authHandler state.progress state.client trailing.items
        (result = .ok .goOn) next ∧ ∀ request, result ≠ .ok (.switchToStateful request) := by
  cases trailing with
  | none => exact ⟨_, _, rfl, (Answered.nothing unlimited).of_iff (by simp), by simp⟩
  | rejection rejection =>
    rcases rejectLine_answered session.authHandler rejection unlimited with
      ⟨next, rejected, answered⟩
    exact ⟨_, next, congrArg some rejected, answered.of_iff (by simp), by simp⟩
  | context request =>
    have unlimitedCounted : Unlimited (state.counted request).refreshed.client := unlimited
    rcases processSingleCommand_answered perCommand isWhole.trailing
      (fromLines request (by simp [BatchTail.items])) unlimitedCounted with
      ⟨result, next, processed, answered⟩
    unfold handleTrailingCommand
    unfold processSingleCommand at processed
    simp only
    split
    next handed planEq =>
      rw [perCommand] at planEq
      exact absurd planEq (classifyRequest_perCommand _ _ _)
    · rw [processed]
      rcases result with error | _ | _
      · exact ⟨_, _, rfl, answered.of_iff (by simp), by simp⟩
      · exact ⟨_, _, rfl, answered.of_iff (by simp), by simp⟩
      · exact ⟨_, _, rfl, answered.of_iff (by simp), by simp⟩

theorem handleCommandBatch_answered (perCommand : session.routingMode = .perCommand)
    (isWhole : world.Whole) {batch : RequestBatch}
    (fromLines : ∀ request, .parsed request ∈ batch.items → FromLine request)
    (nonempty : batch ≠ ⟨.empty, .none⟩)
    (alone : ∀ rejection, batch.contents = .rejected rejection → batch.trailing = .none)
    (unlimited : Unlimited state.client) :
    ∃ result next, handleCommandBatch session world batch state = some (result, next) ∧
      Answered session.authHandler state.progress state.client batch.items
        (result = .ok .goOn) next ∧ ∀ request, result ≠ .ok (.switchToStateful request) := by
  rcases batch with ⟨contents, trailing⟩
  have fromTrailing : ∀ request, .parsed request ∈ trailing.items → FromLine request :=
    fun request isItem => fromLines request (mem_append_right _ isItem)
  cases contents with
  | empty =>
    have someTrailing : trailing ≠ .none := fun isNone => nonempty (isNone ▸ rfl)
    simp only [handleCommandBatch, if_neg someTrailing]
    exact handleTrailingCommand_answered perCommand isWhole fromTrailing unlimited
  | rejected rejection =>
    obtain rfl : trailing = .none := alone rejection rfl
    rcases rejectLine_answered session.authHandler rejection unlimited with
      ⟨next, rejected, answered⟩
    exact ⟨_, next, congrArg some rejected, answered.of_iff (by simp), by simp⟩
  | contexts requests =>
    have fromContexts : ∀ request ∈ requests, FromLine request.request := by
      intro request isRequest
      apply fromLines
      apply mem_append_left
      exact mem_map_of_mem isRequest
    rcases executePipelineableBatch_answered perCommand isWhole fromContexts unlimited with
      ⟨result, between, executed, answered⟩
    simp only [handleCommandBatch, executed]
    cases result with
    | error error => exact ⟨_, _, rfl, answered.append_ended (by simp) _ (by simp), by simp⟩
    | ok value =>
      rcases handleTrailingCommand_answered perCommand isWhole fromTrailing
        answered.unlimited with ⟨result, next, handled, more, notStateful⟩
      exact ⟨result, next, handled, answered.append rfl more, notStateful⟩

/-! ## The loop -/

theorem fromLine_of_lineItem {line : Bytes}
    (itemEq : lineItem line = .parsed request) : FromLine request := by
  unfold lineItem at itemEq
  split at itemEq
  · cases itemEq
  · refine ⟨line, ?_⟩
    cases parsed : RequestContext.parse line with
    | none =>
      rw [parsed] at itemEq
      cases itemEq
    | some other =>
      rw [parsed] at itemEq
      cases itemEq
      rfl

/-- A whole session of a client that closes its connection in the end: the replies are those
to the lines that are answered. -/
theorem runPerCommandLoop_replies (perCommand : session.routingMode = .perCommand)
    {worlds : Nat → BatchWorld pool} (areWhole : ∀ index, (worlds index).Whole) {fuel index : Nat}
    {reader : ClientReader} (isEof : reader.ending = .eof)
    (enough : reader.contents.length < fuel) (unlimited : Unlimited state.client) :
    ∃ ended rest last replies, runPerCommandLoop session worlds fuel index reader state =
        some (ended, rest, last) ∧
      List.Forall₂ IsReply
        ((serve session.authHandler state.progress (reader.lines.map lineItem)).1.map
          kind) replies ∧
      last.client.sink.accepted = state.client.sink.accepted ++ replies.flatten := by
  induction fuel generalizing index reader state with
  | zero => exact absurd enough (Nat.not_lt_zero _)
  | succ fuel ih =>
    rcases readCommandBatch_eof isEof with ⟨batch, next, readEq, takes, isEmpty⟩
    unfold runPerCommandLoop
    rw [readEq]
    by_cases nothing : reader.lines = []
    · rw [isEmpty.mpr nothing, nothing]
      exact ⟨_, _, _, [], rfl, .nil, by simp⟩
    · have nonempty := mt isEmpty.mp nothing
      rcases takes.joined with ⟨taken, linesEq, itemsEq⟩
      have fromLines : ∀ request, .parsed request ∈ batch.items → FromLine request := by
        rw [itemsEq]
        intro request isItem
        rcases mem_map.mp isItem with ⟨line, -, itemEq⟩
        exact fromLine_of_lineItem itemEq
      rcases handleCommandBatch_answered perCommand (areWhole index) fromLines nonempty
        (trailing_of_rejected readEq) unlimited with
        ⟨result, between, handled, answered, notStateful⟩
      simp only [handled]
      rw [linesEq, map_append, ← itemsEq]
      have ended : result ≠ .ok .goOn → Answered session.authHandler state.progress state.client
          (batch.items ++ next.lines.map lineItem) False between :=
        fun stopped => answered.append_ended stopped _ not_false
      rcases result with error | _ | _ | request
      · rcases (ended (by simp)).replies with ⟨replies, isReplies, acceptedEq⟩
        exact ⟨_, _, _, replies, rfl, isReplies, acceptedEq⟩
      · have shorter : next.contents.length < fuel := by
          rcases length_readCommandBatch readEq with isNothing | shorter
          · exact absurd isNothing nonempty
          · exact Nat.lt_of_lt_of_le shorter (Nat.le_of_lt_succ enough)
        rcases answered.replies with ⟨replies, isReplies, acceptedEq⟩
        rcases ih takes.isEof shorter answered.unlimited with
          ⟨endedBy, rest, last, others, ran, areOthers, othersEq⟩
        refine ⟨endedBy, rest, last, replies ++ others, ran, ?_, ?_⟩
        · rw [serve_append_of_some ((answered.goesOn_iff _).mpr ⟨rfl, rfl⟩), map_append]
          exact rel_append isReplies areOthers
        · rw [othersEq, acceptedEq, flatten_append, append_assoc]
      · rcases (ended (by simp)).replies with ⟨replies, isReplies, acceptedEq⟩
        exact ⟨_, _, _, replies, rfl, isReplies, acceptedEq⟩
      · exact absurd rfl (notStateful request)

/-! ## What the client sends -/

/-- The kind of the request in a line of the client. -/
def lineKind (line : Bytes) : RequestKind :=
  (lineItem line).kind

/-- The complete lines that the client sends before its first `QUIT`. -/
def ClientReader.sent (reader : ClientReader) : List Bytes :=
  reader.lines.takeWhile fun line => line.getLast? == some lf && lineKind line != .quit

/-- The octets are one reply to each line that was sent, in the order of the lines, and at most
one more: the reply to `QUIT` or to a line that was not completed. -/
def OneReplyEach (reader : ClientReader) (output : Bytes) : Prop :=
  ∃ answered replies, reader.sent <+: answered ∧
    answered <+: reader.lines.take (reader.sent.length + 1) ∧
    List.Forall₂ IsReply (answered.map lineKind) replies ∧ output = replies.flatten

/-- The line is an `AUTHINFO USER` with an empty name. -/
def NamesNobody (line : Bytes) : Prop :=
  ∃ request name, lineItem line = .parsed request ∧ request.kind = .authInfo ∧
    classifyAuth request.args = .requestPassword name ∧ Username.tryNew name = none

namespace AuthProgress

section

variable (handler : AuthHandler) (progress : AuthProgress) (lines : List Bytes)

/-- The progress behind lines. -/
def behind : AuthProgress :=
  lines.foldl (fun progress line => (progress.after handler (lineItem line)).getD progress) progress

/-- A line names nobody only where a user is recorded already. -/
def NamesSomebody : Prop :=
  ∀ before line after, lines = before ++ line :: after → NamesNobody line →
    (progress.behind handler before).identity.isSome = true

end

variable {progress next : AuthProgress} {line : Bytes} {lines : List Bytes}

theorem after_eq_none_iff :
    progress.after handler (lineItem line) = none ↔
      NamesNobody line ∧ progress.identity = none := by
  unfold NamesNobody
  cases lineItem line with
  | parsed request =>
    by_cases isAuthInfo : request.kind = .authInfo
    · simp only [after, if_pos isAuthInfo, Option.map_eq_none_iff, handleAuthCommand_eq_none_iff]
      constructor
      · rintro ⟨noUser, name, isUser, invalid⟩
        exact ⟨⟨request, name, rfl, isAuthInfo, isUser, invalid⟩, noUser⟩
      · rintro ⟨⟨_, name, ⟨⟩, -, isUser, invalid⟩, noUser⟩
        exact ⟨noUser, name, isUser, invalid⟩
    · simp [after, isAuthInfo]
  | _ => simp [after]

theorem namesSomebody_cons (answered : progress.after handler (lineItem line) = some next) :
    progress.NamesSomebody handler (line :: lines) ↔ next.NamesSomebody handler lines := by
  have behindEq : ∀ before, progress.behind handler (line :: before) =
      next.behind handler before := by
    intro before
    rw [behind, foldl_cons, answered]
    rfl
  constructor
  · rintro names before other after rfl namesNobody
    have known := names (line :: before) other after rfl namesNobody
    rwa [behindEq] at known
  · rintro names (_ | ⟨first, before⟩) other after split namesNobody
    · obtain ⟨rfl, -⟩ := cons.inj split
      by_contra noUser
      have unanswered : progress.after handler (lineItem line) = none :=
        after_eq_none_iff.mpr ⟨namesNobody, Option.not_isSome_iff_eq_none.mp noUser⟩
      cases unanswered.symm.trans answered
    · obtain ⟨rfl, rfl⟩ := cons.inj split
      rw [behindEq]
      exact names before other after rfl namesNobody

/-- Lines before a `QUIT` are all answered, or those before the first one that names nobody
while no user is recorded. -/
theorem serve_lines (noQuit : ∀ line ∈ lines, lineKind line ≠ .quit) (handler : AuthHandler)
    (progress : AuthProgress) :
    (progress.NamesSomebody handler lines ∧
        ∃ last, serve handler progress (lines.map lineItem) = (lines.map lineItem, some last)) ∨
      (¬ progress.NamesSomebody handler lines ∧ ∃ front rest, lines = front ++ rest ∧ rest ≠ [] ∧
        serve handler progress (lines.map lineItem) = (front.map lineItem, none)) := by
  induction lines generalizing progress with
  | nil =>
    left
    refine ⟨?_, progress, rfl⟩
    rintro before line after split
    simp at split
  | cons line lines ih =>
    rw [forall_mem_cons] at noQuit
    have notQuit : (lineItem line).kind ≠ .quit := noQuit.1
    rw [map_cons, serve, if_neg notQuit]
    cases answered : progress.after handler (lineItem line) with
    | none =>
      right
      rcases after_eq_none_iff.mp answered with ⟨namesNobody, noUser⟩
      refine ⟨fun names => ?_, [], line :: lines, rfl, by simp, rfl⟩
      have known := names [] line lines rfl namesNobody
      rw [show (progress.behind handler []).identity = none from noUser] at known
      cases known
    | some next =>
      rw [namesSomebody_cons answered]
      rcases ih noQuit.2 next with
        ⟨names, last, served⟩ | ⟨notNamed, front, rest, rfl, more, served⟩
      · left
        exact ⟨names, last, by simp only [served]⟩
      · right
        exact ⟨notNamed, line :: front, rest, rfl, more, by simp only [served]; rfl⟩

end AuthProgress

/-! ## The lines that are answered -/

theorem lines_eq_sent (reader : ClientReader) :
    ∃ rest, reader.lines = reader.sent ++ rest ∧
      ∀ first more, rest = first :: more → lineKind first = .quit ∨ more = [] := by
  refine ⟨_, (takeWhile_append_dropWhile).symm, fun first more restEq => ?_⟩
  have stops := head?_dropWhile_not
    (fun line => line.getLast? == some lf && lineKind line != .quit) reader.lines
  rw [restEq] at stops
  by_cases isQuit : lineKind first = .quit
  · exact Or.inl isQuit
  · right
    by_contra isMore
    have split : reader.lines = reader.sent ++ first :: more := by
      rw [← restEq]
      exact takeWhile_append_dropWhile.symm
    have complete := Stateful.StatefulCommandReader.getLast?_of_linesFrom split isMore
    simp [complete, isQuit] at stops

theorem lineKind_sent {reader : ClientReader} {line : Bytes} (isSent : line ∈ reader.sent) :
    lineKind line ≠ .quit := by
  have kept := mem_takeWhile_imp isSent
  simp only [Bool.and_eq_true, bne_iff_ne] at kept
  exact kept.2

theorem serve_rest {rest : List Bytes}
    (stops : ∀ first more, rest = first :: more → lineKind first = .quit ∨ more = [])
    (handler : AuthHandler) (progress : AuthProgress) :
    ∃ front, front <+: rest.take 1 ∧
      (serve handler progress (rest.map lineItem)).1 = front.map lineItem := by
  cases rest with
  | nil => exact ⟨[], nil_prefix, rfl⟩
  | cons first more =>
    rw [map_cons, serve]
    by_cases isQuit : (lineItem first).kind = .quit
    · rw [if_pos isQuit]
      exact ⟨[first], prefix_rfl, rfl⟩
    · rw [if_neg isQuit]
      rcases stops first more rfl with quits | rfl
      · exact absurd quits isQuit
      · cases progress.after handler (lineItem first) with
        | none => exact ⟨[], nil_prefix, rfl⟩
        | some next => exact ⟨[first], prefix_rfl, rfl⟩

/-- Replies to the lines that are answered are one to each that was sent exactly when each of
those is answered. -/
theorem oneReplyEach_iff (handler : AuthHandler) (reader : ClientReader)
    (isReplies : List.Forall₂ IsReply
      ((serve handler .start (reader.lines.map lineItem)).1.map kind) replies) :
    OneReplyEach reader replies.flatten ↔ AuthProgress.start.NamesSomebody handler reader.sent := by
  rcases lines_eq_sent reader with ⟨rest, linesEq, stops⟩
  rw [linesEq, map_append] at isReplies
  have noQuit : ∀ line ∈ reader.sent, lineKind line ≠ .quit := fun line => lineKind_sent
  rcases AuthProgress.serve_lines noQuit handler .start with
    ⟨names, last, served⟩ | ⟨notNamed, front, left, sentEq, more, served⟩
  · refine iff_of_true ?_ names
    rcases serve_rest stops handler last with ⟨front, atMostOne, servedRest⟩
    rw [serve_append_of_some (by rw [served]), served, servedRest, ← map_append,
      map_map] at isReplies
    refine ⟨reader.sent ++ front, replies, prefix_append _ _, ?_, isReplies, rfl⟩
    rw [linesEq, take_length_add_append]
    exact (prefix_append_right_inj _).mpr atMostOne
  · refine iff_of_false ?_ notNamed
    rintro ⟨answered, others, ⟨tail, rfl⟩, -, areOthers, same⟩
    rw [serve_append_of_ended (by rw [served]), served, map_map] at isReplies
    -- What was written are the replies to the first lines only, and no reply is empty.
    have firsts := forall₂_take front.length areOthers
    have lasts := forall₂_drop front.length areOthers
    simp only [sentEq, append_assoc, map_append] at firsts lasts
    rw [take_left' (length_map _)] at firsts
    rw [drop_left' (length_map _)] at lasts
    have joined : replies.flatten ++ [] =
        (others.take front.length).flatten ++ (others.drop front.length).flatten := by
      rw [append_nil, ← flatten_append, take_append_drop, same]
    have nothingLeft := (replies_unique isReplies firsts joined).2
    rcases left with _ | ⟨line, left⟩
    · exact more rfl
    · rw [map_cons, cons_append] at lasts
      cases lastsEq : others.drop front.length with
      | nil =>
        rw [lastsEq] at lasts
        cases lasts
      | cons reply replies =>
        rw [lastsEq] at lasts nothingLeft
        cases lasts with
        | cons isReply _ =>
          exact isReply.ne_nil (append_eq_nil_iff.mp nothingLeft.symm).1

/-- Every line that a client sends before `QUIT` gets one reply, in the order of the lines,
exactly when no line names nobody while no user is recorded. -/
theorem handlePerCommandRouting_oneReplyEach_iff (session : ClientSession)
    (perCommand : session.routingMode = .perCommand) (worlds : Nat → BatchWorld pool)
    (areWhole : ∀ index, (worlds index).Whole) (reader : ClientReader)
    (isEof : reader.ending = .eof) (client : ClientWriter) (unlimited : Unlimited client) :
    ∃ ended rest last output, handlePerCommandRouting session worlds reader client =
        some (ended, rest, last) ∧
      last.client.sink.accepted = client.sink.accepted ++ output ∧
      (OneReplyEach reader output ↔
        AuthProgress.start.NamesSomebody session.authHandler reader.sent) := by
  have unlimitedStart : Unlimited (PerCommandLoopState.new session.authHandler client).client :=
    unlimited
  rcases runPerCommandLoop_replies perCommand areWhole isEof (Nat.lt_succ_self _) unlimitedStart
    with ⟨ended, rest, last, replies, ran, isReplies, acceptedEq⟩
  exact ⟨ended, rest, last, replies.flatten, ran, acceptedEq,
    oneReplyEach_iff session.authHandler reader isReplies⟩

/-! ## A backend that knows no command -/

/-- The response of a backend that knows no command. -/
def unknownCommand (kind : RequestKind) : Response kind where
  text := ascii "500 What?"
  status := .unknown
  body := []
  oneLine := by decide +kernel
  code := by decide +kernel
  ends := by
    rw [requestKindHasResponseBody_of_isError (by decide)]
    rfl

variable (kinds : List RequestKind)

theorem wholeAnswers_unknownCommand :
    WholeAnswers kinds (kinds.map fun kind => (unknownCommand kind).bytes).flatten := by
  induction kinds with
  | nil => exact .done _
  | cons kind kinds ih => exact .whole (unknownCommand kind) (fun isStat => by cases isStat) ih

theorem answers_unknownCommand :
    Answers kinds (kinds.map fun kind => (unknownCommand kind).bytes).flatten := by
  induction kinds with
  | nil => exact .done _
  | cons kind kinds ih =>
    refine .whole (unknownCommand kind) (fun hasBody => ?_) ih
    cases hasBody

/-- A connection on which each response arrives by itself. -/
def unknowing (kinds : List RequestKind) : BackendConnection smallPool kinds where
  conn :=
    { pendingInput := []
      transport := kinds.map fun kind => (unknownCommand kind).bytes
      readFails := false
      pending_nonempty := by simp
      pending_inBuffer := by simp
      transport_nonempty := by simp [Response.bytes] }
  answers := answers_unknownCommand kinds

theorem wholeAnswers_unknowing :
    WholeAnswers kinds (unknowing kinds).conn.contents :=
  wholeAnswers_unknownCommand kinds

/-- Every pass finds the backend idle and gets a new connection to it. -/
def unknowingPass : Pass smallPool :=
  let attempt : Try smallPool := ⟨fun kinds => some (unknowing kinds), fun _ => true⟩
  ⟨⟨fun _ => ⟨⟨0, 0, 0, 0⟩, 0⟩, 0, 0, 0⟩, fun _ => attempt, fun _ => attempt, fun _ => attempt⟩

def unknowingBatch : BatchWorld smallPool :=
  let request : RequestWorld smallPool := ⟨none, fun _ => none, fun _ => unknowingPass⟩
  { availability := fun _ => .new
    window := ⟨fun kinds => some (unknowing kinds), fun _ => true, true, fun _ => true,
      fun _ => true, fun _ _ => unknowingPass, fun _ => none⟩
    requests := fun _ => request
    trailing := request }

theorem unknowingBatch_whole : unknowingBatch.Whole := by
  have attempt : ∀ kinds connection, some (unknowing kinds) = some connection →
      WholeAnswers kinds connection.conn.contents := by
    rintro kinds _ ⟨⟩
    exact wholeAnswers_unknowing kinds
  have pass : unknowingPass.Whole := ⟨fun _ => attempt, fun _ => attempt, fun _ => attempt⟩
  have request : unknowingBatch.trailing.Whole := ⟨fun _ => pass, nofun, nofun⟩
  exact ⟨⟨attempt, fun _ _ => pass⟩, fun _ => request, request⟩

/-- A session without configured users, with one backend. -/
def openSession : ClientSession where
  router := (BackendSelector.withStrategy .leastLoaded ⟨false, 0, 0⟩).addBackendWithSlot 0 1 false 0
    maxBackends_pos
  authHandler := ⟨[], nodup_nil⟩
  routingMode := .perCommand
  storesPayloads := false
  adaptivePrecheck := false

/-- A client that names itself and asks for two articles at once. -/
def namedUser : ClientReader where
  buffered := []
  arrivals :=
    [⟨ascii "AUTHINFO USER u\r\nARTICLE <a@b>\r", by decide +kernel, 0⟩,
      ⟨ascii "\nBODY <a@b>\r\nQUIT\r\n", by decide +kernel, 0⟩]
  ending := .eof

theorem namedUser_oneReplyEach_iff :
    openSession.routingMode = .perCommand ∧ unknowingBatch.Whole ∧
      Unlimited ⟨⟨[], none, none⟩, .brokenPipe⟩ ∧
      ∃ ended rest last output,
        handlePerCommandRouting openSession (fun _ => unknowingBatch) namedUser
            ⟨⟨[], none, none⟩, .brokenPipe⟩ = some (ended, rest, last) ∧
          last.client.sink.accepted = [] ++ output ∧
          (OneReplyEach namedUser output ↔
            AuthProgress.start.NamesSomebody openSession.authHandler namedUser.sent) :=
  ⟨rfl, unknowingBatch_whole, ⟨rfl, rfl⟩, handlePerCommandRouting_oneReplyEach_iff openSession rfl _
    (fun _ => unknowingBatch_whole) namedUser rfl _ ⟨rfl, rfl⟩⟩

example : (handlePerCommandRouting openSession (fun _ => unknowingBatch) namedUser
    ⟨⟨[], none, none⟩, .brokenPipe⟩).map (fun outcome =>
      (outcome.1, outcome.2.2.client.sink.accepted)) =
    some (.closed, authRequired ++ line "500 What?" ++ line "500 What?" ++ connectionClosing) := by
  decide +kernel

/-- A client that names nobody and asks for the date. -/
def unnamedUser : ClientReader :=
  ⟨ascii "AUTHINFO USER\r\nDATE\r\n", [], .eof⟩

/-- The first line ends the session, and neither line has a reply. -/
theorem unnamedUser_unanswered :
    openSession.routingMode = .perCommand ∧ unknowingBatch.Whole ∧ unnamedUser.ending = .eof ∧
      Unlimited ⟨⟨[], none, none⟩, .brokenPipe⟩ ∧
      unnamedUser.sent = [ascii "AUTHINFO USER\r\n", ascii "DATE\r\n"] ∧
      (handlePerCommandRouting openSession (fun _ => unknowingBatch) unnamedUser
          ⟨⟨[], none, none⟩, .brokenPipe⟩).map (fun outcome =>
            (outcome.1, outcome.2.2.client.sink.accepted)) =
        some (.failed .invalidUsername, []) ∧ ¬ OneReplyEach unnamedUser [] := by
  have sentEq : unnamedUser.sent = [ascii "AUTHINFO USER\r\n", ascii "DATE\r\n"] := by
    decide +kernel
  refine ⟨rfl, unknowingBatch_whole, rfl, ⟨rfl, rfl⟩, sentEq, by decide +kernel, ?_⟩
  rintro ⟨answered, replies, ⟨tail, rfl⟩, -, isReplies, nothing⟩
  rw [sentEq] at isReplies
  cases isReplies with
  | cons isReply _ =>
    exact isReply.ne_nil (append_eq_nil_iff.mp nothing.symm).1

end NntpProxy.PerCommand
