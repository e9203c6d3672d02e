import NntpProxy.Missing.Safety

/-!
# A stale answer

When the client of a window goes away behind a response that was read to its end, the connection is
returned to its pool although it carries the requests behind it.  The next window that takes it
reads the answer to one of them for the answer to its own first request.
-/

namespace NntpProxy.Missing

open Data.Interaction Data.Interleaving Protocol Router Pool Session Transport PerCommand Machine

variable {session : ClientSession}

/-! ## Two batches -/

/-- A request for an article by its message identifier. -/
def articleRequest (messageId : Bytes) : RequestContext :=
  fromVerbArgs (ascii "ARTICLE") messageId

def firstRequest : PipelineableRequest :=
  ⟨articleRequest (ascii "<a@x>"), by decide +kernel⟩

def unreadRequest : PipelineableRequest :=
  ⟨articleRequest (ascii "<b@x>"), by decide +kernel⟩

def laterRequest : PipelineableRequest :=
  ⟨articleRequest (ascii "<c@x>"), by decide +kernel⟩

def articleFollows : StatusCode :=
  .article

def noArticle : StatusCode :=
  .missing

/-- Behind the first batch: the connection that was returned carries the second request. -/
def returnedWorld (id : BackendId) : World where
  idle := [⟨id, [unreadRequest.request], true, 0⟩]
  waiting := []
  tickets := 0
  history := [.answered id firstRequest.request (some articleFollows)]

/-- The answer to the second request is taken for the answer to the later one. -/
def staleHistory (id : BackendId) (slot : AvailabilitySlot) : List Event :=
  [.answered id firstRequest.request (some articleFollows),
    .answered id unreadRequest.request (some noArticle), .recorded (ascii "<c@x>") slot]

/-- The client goes away behind the first response. -/
def abandonedChoices : List Choice :=
  [.cached .miss, .cached .miss] ++
    [.works, .connect, .works, .works, .works,
      .reply (some articleFollows), .received (.ok ()) true 0, .clientFails .brokenPipe, .works]

theorem routeArticleWindowRequests_new (slot : AvailabilitySlot) (first second : RequestContext) :
    routeArticleWindowRequests slot [(first, .new), (second, .new)] =
      [⟨first, .sendUpstream false⟩, ⟨second, .sendUpstream false⟩] := by
  simp [routeArticleWindowRequests, ArticleAvailability.new, ArticleAvailability.isMissingSlot]

theorem follow_forwardSingleBackendArticleWindow (access : AuthenticationAccess)
    (backend : ArticleBackend) (world : World) (first second : RequestContext)
    (more : List Choice) :
    (machine session).follow ([.cached .miss, .cached .miss] ++ more) world
        (forwardSingleBackendArticleWindow session access backend [first, second] none) =
      (machine session).follow more world
        (transitionRoutedArticleWindowToSent session access backend
          [⟨first, .sendUpstream false⟩, ⟨second, .sendUpstream false⟩] none) := by
  have loaded : (machine session).follow [.cached .miss, .cached .miss] world
      (loadCachedArticleAvailability [first, second]) =
        some (world, .done [(first, .new), (second, .new)]) := rfl
  rw [forwardSingleBackendArticleWindow, follow_bind loaded, Program.done_bind,
    routeArticleWindowRequests_new]
  rfl

theorem follow_abandoned (session : ClientSession) (access : AuthenticationAccess)
    (backend : ArticleBackend) :
    ∃ error, (machine session).follow abandonedChoices World.initial
      (forwardSingleBackendArticleWindow session access backend
        [firstRequest.request, unreadRequest.request] none) =
        some (returnedWorld backend.backendId, .done (.error error, none)) := by
  rw [abandonedChoices, follow_forwardSingleBackendArticleWindow]
  exact ⟨_, rfl⟩

/-- The connection is taken again, and the response that is read on it is the one to the request
that it carries. -/
def staleChoices : List Choice :=
  [.cached .miss, .cached .miss] ++ ([.works, .reuse 0] ++ ([.works, .works] ++ ([.works] ++
    [.reply (some noArticle), .works])))

theorem articleLookupRequest_later :
    articleLookupRequest laterRequest.request = some (ascii "<c@x>") := by
  decide +kernel

theorem follow_reuse (id : BackendId) :
    (machine session).follow [.works, .reuse 0] (returnedWorld id)
        (checkoutDirectBackendConnection id none) =
      some ({ returnedWorld id with idle := [] },
        .done (some ⟨id, [unreadRequest.request], false, 0⟩, none)) := by
  have taken : answer (returnedWorld id) (.checkout id) (.reuse 0) =
      some ({ returnedWorld id with idle := [] }, some ⟨id, [unreadRequest.request], false, 0⟩) :=
    if_pos ⟨rfl, rfl⟩
  change ((answer (returnedWorld id) (.checkout id) (.reuse 0)).bind fun answered => _) = _
  rw [taken]
  rfl

theorem follow_forwardLater (world : World) (slot : AvailabilitySlot) (conn : Connection) :
    (machine session).follow [.reply (some noArticle), .works] world
        (forwardResponseForAlreadySentRequest slot laterRequest.request conn) =
      some ((world.note (answerEvents conn (some noArticle))).note
          [.recorded (ascii "<c@x>") slot], finishResponse conn.answered) := by
  have recorded {noted : World} : (machine session).follow [.works] noted
      (recordArticleMissing laterRequest.request slot) =
        some (noted.note [.recorded (ascii "<c@x>") slot], .done ()) := by
    rw [recordArticleMissing, articleLookupRequest_later]
    rfl
  change (machine session).follow ([.works] ++ []) _
    (recordArticleMissing laterRequest.request slot >>= fun _ => finishResponse conn.answered) = _
  rw [follow_bind recorded]
  rfl

theorem follow_stale (session : ClientSession) (access : AuthenticationAccess)
    (backend : ArticleBackend) :
    ∃ world rest, (machine session).follow staleChoices (returnedWorld backend.backendId)
      (forwardSingleBackendArticleWindow session access backend
        [laterRequest.request, firstRequest.request] none) = some (world, rest) ∧
      world.history = staleHistory backend.backendId backend.availabilitySlot := by
  let taken : World := { returnedWorld backend.backendId with idle := [] }
  let carrying : Connection := ⟨backend.backendId,
    [unreadRequest.request, laterRequest.request, firstRequest.request], false, 0⟩
  -- both requests are written behind the one that the connection carries
  have filled : (machine session).follow [.works, .works] taken
      (fillWindow 0 ⟨backend.backendId, [unreadRequest.request], false, 0⟩
        [⟨laterRequest.request, .sendUpstream false⟩,
          ⟨firstRequest.request, .sendUpstream false⟩]) =
      some (taken, .done (some ⟨carrying, [⟨laterRequest.request, .sendUpstream true⟩,
        ⟨firstRequest.request, .sendUpstream true⟩], 2, true⟩)) := rfl
  have flushed : (machine session).follow [.works] taken (consult .requestsFlushed) =
      some (taken, .done true) := rfl
  rw [staleChoices, follow_forwardSingleBackendArticleWindow, transitionRoutedArticleWindowToSent,
    follow_bind (follow_reuse backend.backendId)]
  change ∃ world rest, (machine session).follow _ taken (fillWindow 0 _ _ >>= _) = _ ∧ _
  rw [follow_bind filled]
  change ∃ world rest, (machine session).follow _ taken (consult .requestsFlushed >>= _) = _ ∧ _
  rw [follow_bind flushed]
  change ∃ world rest, (machine session).follow ([.reply (some noArticle), .works] ++ []) taken
    (forwardResponseForAlreadySentRequest backend.availabilitySlot laterRequest.request carrying >>=
      _) = _ ∧ _
  rw [follow_bind (follow_forwardLater taken backend.availabilitySlot carrying)]
  exact ⟨_, _, rfl, rfl⟩

/-! ## The run -/

theorem not_evident_staleHistory (router : BackendSelector) (id : BackendId)
    (slot : AvailabilitySlot) : ¬ Evident router (staleHistory id slot) := by
  intro evident
  rcases evident [_, _] (ascii "<c@x>") slot [] rfl with
    ⟨backend, -, -, request, status, answered, isMissing, names⟩
  simp only [List.mem_cons, Event.answered.injEq, Option.some.injEq, List.not_mem_nil,
    or_false] at answered
  rcases answered with ⟨-, -, rfl⟩ | ⟨-, rfl, -⟩
  · cases isMissing
  · exact absurd names.args (by decide +kernel)

theorem classifyRequest_of_article {request : PipelineableRequest}
    (isArticle : request.request.kind = .article) (mode : RoutingMode) :
    classifyRequest request.request .unrestricted mode = .forward := by
  have byMessageId : request.request.routeClass = .articleByMessageId :=
    beq_iff_eq.mp request.isPipelineable
  simp [classifyRequest, isArticle, byMessageId, AuthenticationAccess.canAccessBackend]

variable {requests : List PipelineableRequest}

theorem selectSingleBackendArticleWindow_of_windows (windows : AllowsWindows session)
    {info : BackendInfo} (only : session.router.backends = [info]) (several : 2 ≤ requests.length)
    (areArticles : ∀ request ∈ requests, request.request.kind = .article) :
    selectSingleBackendArticleWindow session .unrestricted requests =
      some ⟨info.id, info.availabilitySlot⟩ := by
  have noStat : info.statMissingEnabled = false := windows.noStat info (by simp [only])
  have forwarded : ∀ request ∈ requests, request.request.kind = .article ∧
      classifyRequest request.request .unrestricted session.routingMode = .forward :=
    fun request isRequest => ⟨areArticles request isRequest,
      classifyRequest_of_article (areArticles request isRequest) _⟩
  have notShort : ¬ requests.length < 2 := Nat.not_lt.mpr several
  have selected : PerCommand.selectSingleBackendArticleWindow session .unrestricted requests =
      some info.availabilitySlot := by
    unfold PerCommand.selectSingleBackendArticleWindow
    rw [if_neg, head_of_oneBackend only]
    · simp [noStat]
    · simp only [Bool.or_eq_true, not_or, decide_eq_true_eq, List.any_eq_true, not_exists]
      refine ⟨⟨⟨⟨notShort, by simp [windows.oneBackend]⟩, by simp [windows.noPayloads]⟩,
        by simp [AuthenticationAccess.canAccessBackend]⟩, ?_⟩
      rintro request ⟨isRequest, excluded⟩
      rcases forwarded request isRequest with ⟨isArticle, isForwarded⟩
      rcases excluded with otherKind | otherPlan
      · simp [isArticle] at otherKind
      · simp [isForwarded] at otherPlan
  simp [selectSingleBackendArticleWindow, selected, only]

theorem follow_handleCommandBatch {backend : ArticleBackend} {world after : World}
    {choices : List Choice} {rest : Work (Except SessionError Unit × Option BackendLease)}
    (selected : selectSingleBackendArticleWindow session .unrestricted requests = some backend)
    (followed : (machine session).follow choices world
      (forwardSingleBackendArticleWindow session .unrestricted backend (requests.map (·.request))
        none) = some (after, rest)) :
    (machine session).follow choices world
        (handleCommandBatch session .unrestricted requests .none) =
      some (after, rest >>= finishCommandBatch session .unrestricted .none) := by
  rw [handleCommandBatch, executePipelineableBatch, selected]
  simp only
  rw [← List.append_nil choices, follow_bind followed]
  rfl

theorem starts_batch (perCommand : session.routingMode ≠ .stateful)
    (parsed : ∀ request ∈ requests, Parsed request.request) :
    (machine session).starts (.batch .unrestricted requests .none) = true := by
  simp only [machine, batchRequests, List.append_nil, Bool.and_eq_true, bne_iff_ne, ne_eq,
    List.all_map, List.all_eq_true, Function.comp_apply, beq_iff_eq]
  exact ⟨perCommand, parsed⟩

theorem exists_run_staleHistory (windows : AllowsWindows session) {info : BackendInfo}
    (only : session.router.backends = [info]) :
    ∃ moves system, (machine session).protocol.run initialSystem moves = some system ∧
      system.shared.history = staleHistory info.id info.availabilitySlot := by
  have selects (first second : PipelineableRequest) (firstArticle : first.request.kind = .article)
      (secondArticle : second.request.kind = .article) :
      selectSingleBackendArticleWindow session .unrestricted [first, second] =
        some ⟨info.id, info.availabilitySlot⟩ := by
    refine selectSingleBackendArticleWindow_of_windows windows only (Nat.le_refl _) ?_
    simp [firstArticle, secondArticle]
  have isArticle (messageId : Bytes) : (articleRequest messageId).kind = .article := by
    change classifyVerb (ascii "ARTICLE") = .article
    decide +kernel
  rcases follow_abandoned session .unrestricted ⟨info.id, info.availabilitySlot⟩ with
    ⟨error, abandoned⟩
  rcases follow_stale session .unrestricted ⟨info.id, info.availabilitySlot⟩ with
    ⟨world, left, stale, history⟩
  have starts (first second : PipelineableRequest) (firstParsed : Parsed first.request)
      (secondParsed : Parsed second.request) :
      (machine session).starts (.batch .unrestricted [first, second] .none) = true := by
    apply starts_batch windows.perCommand
    simp [firstParsed, secondParsed]
  have firstBatch := run_start_follow
    (starts firstRequest unreadRequest (parsed_fromVerbArgs _ _) (parsed_fromVerbArgs _ _)) rfl
    (follow_handleCommandBatch (selects firstRequest unreadRequest (isArticle _) (isArticle _))
      abandoned) .works
  have secondBatch := run_start_follow
    (starts laterRequest firstRequest (parsed_fromVerbArgs _ _) (parsed_fromVerbArgs _ _)) rfl
    (follow_handleCommandBatch (selects laterRequest firstRequest (isArticle _) (isArticle _))
      stale) .works
  have firstEnds : (machine session).protocol.run
      ⟨returnedWorld info.id, [.running (.batch .unrestricted [firstRequest, unreadRequest] .none)
        (.done .nothing)]⟩ [.step 0 (some .works)] = some ⟨returnedWorld info.id, []⟩ := rfl
  exact ⟨_, _, Protocol.run_trans firstBatch (Protocol.run_trans firstEnds secondBatch), history⟩

/-- In every run of a proxy, a provider is recorded to miss an article only behind the answer of one
of its backends that says so, if and only if no batch of its sessions goes through a window. -/
theorem recorded_only_behind_430_iff (session : ClientSession) :
    (∀ moves system, (machine session).protocol.run initialSystem moves = some system →
      Evident session.router system.shared.history) ↔ ¬ AllowsWindows session := by
  constructor
  · intro evident windows
    obtain ⟨info, only⟩ := List.length_eq_one_iff.mp windows.oneBackend
    rcases exists_run_staleHistory windows only with ⟨moves, system, ran, history⟩
    apply not_evident_staleHistory session.router info.id info.availabilitySlot
    rw [← history]
    exact evident moves system ran
  · intro noWindows moves system ran
    exact evident_of_noWindows noWindows ran

/-! ## One backend -/

/-- A session with one backend and a cache that has no articles. -/
def oneBackendSession : ClientSession where
  router := (BackendSelector.withStrategy .leastLoaded ⟨false, 0, 0⟩).addBackendWithSlot 0 1 false 0
    maxBackends_pos
  authHandler := ⟨[], List.nodup_nil⟩
  routingMode := .perCommand
  storesPayloads := false
  adaptivePrecheck := false

theorem oneBackendSession_records_stale_answer :
    ∃ moves system,
      (machine oneBackendSession).protocol.run initialSystem moves = some system ∧
        system.shared.history = staleHistory 0 0 ∧
        ¬ Evident oneBackendSession.router system.shared.history := by
  have windows : AllowsWindows oneBackendSession := by
    refine ⟨by decide, rfl, rfl, ?_⟩
    rintro backend isBackend
    rw [List.mem_singleton.mp isBackend]
  rcases exists_run_staleHistory windows rfl with ⟨moves, system, ran, history⟩
  refine ⟨moves, system, ran, history, ?_⟩
  rw [history]
  exact not_evident_staleHistory oneBackendSession.router 0 0

end NntpProxy.Missing
