import NntpProxy.Missing.Evidence

/-!
# Single requests record what is evident

Every program that answers one request, in the foreground or in the background, keeps the contract:
it starts on connections without unanswered requests and returns only such connections, and what it
records was answered on one of them.
-/

namespace NntpProxy.Missing

open Data.Interaction Protocol Router Pool Session Transport PerCommand Event
open Retry (BackendAttemptResult)

variable {strict : Prop} {router : BackendSelector} {known : List Event}

/-! ## Connections -/

/-- A connection that is kept has no unanswered requests. -/
def LeaseSettled (lease : Option BackendLease) : Prop :=
  ∀ kept ∈ lease, Settled kept.backendId kept.connection

variable {id : BackendId} {conn : Connection}

theorem Settled.of_same {next : Connection} (settled : Settled id conn)
    (sameBackend : next.backend = conn.backend)
    (sameUnanswered : next.unanswered = conn.unanswered) : Settled id next :=
  ⟨sameBackend.trans settled.backend, sameUnanswered.trans settled.unanswered⟩

theorem leaseSettled_none : LeaseSettled none :=
  fun _ isKept => nomatch isKept

theorem leaseSettled_some (settled : Settled id conn) : LeaseSettled (some ⟨id, conn⟩) := by
  rintro _ ⟨⟩
  exact settled

theorem safe_completeSuccess (settled : Settled id conn) :
    Safe strict router known (completeSuccess conn) := by
  unfold completeSuccess
  split
  · exact ⟨fun _ => settled.unanswered, fun _ _ _ => trivial⟩
  · exact ensures_halt

variable {request : RequestContext}

theorem ensures_executeRequestExchange (settled : Settled id conn) :
    Ensures strict router known (executeRequestExchange conn request) fun learned result =>
      ∀ response ∈ result, Settled id response.2 ∧
        answered id request response.1 ∈ learned := by
  refine (ensures_call (.write conn request) trivial).bind ?_
  intro written next growsWritten wrote
  cases next with
  | none => exact fun _ isResponse => nomatch isResponse
  | some next =>
    obtain rfl := wrote next rfl
    have only : (conn.wrote request).unanswered = [request] := by
      simp [Connection.wrote, settled.unanswered]
    refine Program.Keeps.mono (ensures_call (.readStatus _) trivial) ?_
    intro learned reply replies response isReply
    rcases replies response isReply with ⟨answered, events⟩
    refine ⟨⟨?_, ?_⟩, events ?_⟩
    · rw [answered]
      exact settled.backend
    · rw [answered]
      simp [Connection.answered, only]
    · have sameBackend : (conn.wrote request).backend = id := settled.backend
      simp [answerEvents, only, sameBackend]

variable {lease : Option BackendLease}

theorem ensures_checkoutDirectBackendConnection (leaseSettled : LeaseSettled lease) :
    Ensures strict router known (checkoutDirectBackendConnection id lease) fun _ result =>
      (∀ conn ∈ result.1, Settled id conn) ∧ LeaseSettled result.2 := by
  -- a checkout that leaves nothing kept
  have fresh {known : List Event} : Ensures strict router known
      (do return (← checkout id, none) : Work (Option Connection × Option BackendLease))
      fun _ result => (∀ conn ∈ result.1, Settled id conn) ∧ LeaseSettled result.2 :=
    (ensures_call (.checkout id) trivial).bind fun _ _ _ settled => ⟨settled, leaseSettled_none⟩
  refine (ensures_call (.consult _) trivial).bind ?_
  rintro asked canExpandOrUseIdle - -
  cases lease with
  | none => exact fresh
  | some cached =>
    have settled := leaseSettled cached rfl
    simp only
    split
    next sameBackend =>
      rw [sameBackend] at settled
      have kept : (∀ conn ∈ some cached.connection, Settled id conn) ∧ LeaseSettled none := by
        refine ⟨?_, leaseSettled_none⟩
        rintro _ ⟨⟩
        exact settled
      refine (ensures_call (.consult _) trivial).bind ?_
      rintro checked isHealthy - -
      cases isHealthy with
      | false => exact fresh
      | true =>
        simp only [if_true]
        split
        · refine (ensures_call (.checkout id) trivial).bind ?_
          rintro learned found - foundSettled
          cases found with
          | none => exact kept
          | some conn => exact ⟨foundSettled, leaseSettled⟩
        · exact kept
    next => exact (safe_completeSuccess settled).bind fun _ _ _ _ => fresh

theorem ensures_releaseOrReuseConnection (settled : Settled id conn)
    (leaseSettled : LeaseSettled lease) :
    Ensures strict router known (releaseOrReuseConnection conn id lease) fun _ next =>
      LeaseSettled next := by
  unfold releaseOrReuseConnection
  split
  · cases lease with
    | none => exact leaseSettled_some settled
    | some kept => exact (safe_completeSuccess settled).bind fun _ _ _ _ => leaseSettled
  · exact leaseSettled
  · exact leaseSettled

theorem safe_handleResponseTransferError {error : ResponseTransferError}
    (clean : strict → conn.unanswered = []) :
    Safe strict router known (handleResponseTransferError conn error) := by
  unfold handleResponseTransferError completeSuccess
  split
  · split
    · exact ⟨clean, fun _ _ _ => trivial⟩
    · exact ensures_halt
  · trivial
  · trivial

/-! ## Records -/

/-- What the status of a response to a request tells about its article. -/
def Tells (known : List Event) (id : BackendId) (request : RequestContext)
    (status : StatusCode) : Prop :=
  ∀ messageId, articleLookupRequest request = some messageId → status.isArticleMissing = true →
    MissedBy known id messageId

theorem tells_of_answered {status : StatusCode} (parsed : Parsed request)
    (answered : answered id request (some status) ∈ known) : Tells known id request status :=
  fun _ isLookup isMissing =>
    ⟨request, status, answered, of_decide_eq_true isMissing, parsed.names isLookup⟩

theorem tells_of_probe {status : StatusCode} (parsed : Parsed request)
    (answered : answered id (statProbeRequest request) (some status) ∈ known) :
    Tells known id request status :=
  fun _ isLookup isMissing =>
    ⟨statProbeRequest request, status, answered, of_decide_eq_true isMissing,
      parsed.names_statProbeRequest (messageIdText_of_articleLookupRequest isLookup)⟩

theorem safe_recordArticleMissing {slot : AvailabilitySlot}
    (missed : ∀ messageId, articleLookupRequest request = some messageId →
      Missed router known messageId slot) :
    Safe strict router known (recordArticleMissing request slot) := by
  unfold recordArticleMissing
  split
  next messageId isLookup => exact ⟨missed messageId isLookup, fun _ _ _ => trivial⟩
  next => trivial

/-! ## Attempts -/

/-- A response to an attempt: the connection has no unanswered requests, and the status tells about
the article. -/
structure Responds (known : List Event) (id : BackendId) (request : RequestContext)
    (response : Option StatusCode × Connection) : Prop where
  settled : Settled id response.2
  tells : ∀ status ∈ response.1, Tells known id request status

/-- What an attempt leads to. -/
structure Attempted (id : BackendId) (request : RequestContext) (known : List Event)
    (result : Option (Option StatusCode × Connection) × Option BackendLease) : Prop where
  leaseSettled : LeaseSettled result.2
  responds : ∀ response ∈ result.1, Responds known id request response

variable {isRetryAttempt : Bool} {backend : BackendInfo}

theorem ensures_executeBackendAttempt (parsed : Parsed request)
    (leaseSettled : LeaseSettled lease) :
    Ensures strict router known (executeBackendAttempt backend request isRetryAttempt lease)
      (Attempted backend.id request) := by
  refine (ensures_checkoutDirectBackendConnection leaseSettled).bind ?_
  rintro checkedOut ⟨found, lease⟩ - ⟨foundSettled, leaseSettled⟩
  have failed {learned : List Event} : Attempted backend.id request learned (none, lease) :=
    ⟨leaseSettled, fun _ isResult => nomatch isResult⟩
  -- the exchange of the request itself, on a connection without unanswered requests
  have exchange {before : List Event} {conn : Connection} (settled : Settled backend.id conn) :
      Ensures strict router before
        (do return (← executeRequestExchange conn request, lease) :
          Work (Option (Option StatusCode × Connection) × Option BackendLease))
        (Attempted backend.id request) := by
    refine (ensures_executeRequestExchange settled).bind ?_
    refine fun learned result _ responds => ⟨leaseSettled, fun response isResult => ?_⟩
    rcases responds response isResult with ⟨nextSettled, answered⟩
    exact ⟨nextSettled, fun status isStatus => tells_of_answered parsed (isStatus ▸ answered)⟩
  cases found with
  | none => exact failed
  | some conn =>
    have settled := foundSettled conn rfl
    simp only
    split
    · refine (ensures_executeRequestExchange settled).bind ?_
      rintro probed result - responds
      cases result with
      | none => exact failed
      | some response =>
        rcases response with ⟨status, conn⟩
        rcases responds _ rfl with ⟨settled, answered⟩
        simp only
        split
        next isMissing =>
          refine ⟨leaseSettled, ?_⟩
          rintro _ ⟨⟩
          exact ⟨settled, fun found isFound => tells_of_probe parsed (isFound ▸ answered)⟩
        next =>
          refine (ensures_call (.receive conn) trivial).bind ?_
          rintro learned ⟨result, next⟩ - ⟨sameBackend, sameUnanswered⟩
          cases result with
          | error error => exact failed
          | ok _ => exact exchange (settled.of_same sameBackend sameUnanswered)
    · exact exchange settled

theorem ensures_retryOnce (parsed : Parsed request) (leaseSettled : LeaseSettled lease) :
    Ensures strict router known
      (retryOnce (executeBackendAttempt backend request isRetryAttempt) lease)
      (Attempted backend.id request) := by
  refine (ensures_executeBackendAttempt parsed leaseSettled).bind ?_
  rintro tried ⟨result, lease⟩ - attempted
  cases result with
  | none => exact ensures_executeBackendAttempt parsed attempted.leaseSettled
  | some response => exact attempted

variable {state : AttemptState}

theorem ensures_prepareBackendAttempt (parsed : Parsed request)
    (leaseSettled : LeaseSettled state.lease) :
    Ensures strict router known (prepareBackendAttempt backend request isRetryAttempt state)
      fun learned result => LeaseSettled result.2.lease ∧ ∀ response ∈ result.1,
        Settled backend.id response.2 ∧ Tells learned backend.id request response.1 := by
  refine (ensures_retryOnce parsed leaseSettled).bind ?_
  rintro tried ⟨result, lease⟩ - ⟨leaseSettled, responds⟩
  cases result with
  | none => exact ⟨leaseSettled, fun _ isNone => nomatch isNone⟩
  | some response =>
    rcases response with ⟨status, conn⟩
    have responds := responds _ rfl
    cases status with
    | none =>
      refine (ensures_call (.spawn (.salvage conn)) responds.settled.unanswered).bind ?_
      exact fun _ _ _ _ => ⟨leaseSettled, fun _ isNone => nomatch isNone⟩
    | some status =>
      refine ⟨leaseSettled, ?_⟩
      rintro _ ⟨⟩
      exact ⟨responds.settled, responds.tells status rfl⟩

theorem ensures_tryBackendForArticle (parsed : Parsed request)
    (leaseSettled : LeaseSettled state.lease) :
    Ensures strict router known (tryBackendForArticle router request isRetryAttempt state)
      fun _ result => LeaseSettled result.2.lease := by
  refine (ensures_call .snapshot trivial).bind ?_
  rintro loaded snapshot - -
  cases selected : router.selectBackend snapshot (some state.availability)
      state.unavailableBackends with
  | none => exact leaseSettled
  | some backend =>
    have isBackend := (BackendSelector.selectBackend_isAvailable selected).1
    refine (ensures_prepareBackendAttempt parsed leaseSettled).bind ?_
    rintro prepared ⟨response, state⟩ - ⟨leaseSettled, responds⟩
    cases response with
    | none => exact leaseSettled
    | some response =>
      rcases response with ⟨status, conn⟩
      rcases responds _ rfl with ⟨settled, tells⟩
      simp only
      split
      next isMissing =>
        refine (safe_recordArticleMissing fun messageId isLookup =>
          ⟨backend, isBackend, rfl, tells messageId isLookup isMissing⟩).bind ?_
        rintro recorded _ - -
        refine (ensures_call (.receive conn) trivial).bind ?_
        rintro received ⟨result, next⟩ - ⟨sameBackend, sameUnanswered⟩
        cases result with
        | error error => exact leaseSettled
        | ok _ =>
          exact (ensures_releaseOrReuseConnection (settled.of_same sameBackend sameUnanswered)
            leaseSettled).bind fun _ _ _ nextSettled => nextSettled
      next =>
        refine (ensures_call (.receive conn) trivial).bind ?_
        rintro received ⟨result, next⟩ - ⟨sameBackend, sameUnanswered⟩
        have settled := settled.of_same sameBackend sameUnanswered
        cases result with
        | ok _ =>
          exact (ensures_releaseOrReuseConnection settled leaseSettled).bind
            fun _ _ _ nextSettled => nextSettled
        | error error =>
          refine (safe_handleResponseTransferError fun _ => settled.unanswered).bind ?_
          rintro learned _ - -
          cases SessionError.ofTransfer error with
          | clientDisconnect cause => exact leaseSettled
          | backend cause => exact leaseSettled

/-! ## Probes -/

variable {statRequest : RequestContext}

/-- A probe on a connection that is not used for anything else. -/
theorem ensures_probe {Result : Type} {post : List Event → Result → Prop} {fails : Work Result}
    {answers : Option StatusCode → Work Result}
    (failed : ∀ learned, Ensures strict router learned fails post)
    (answered : ∀ learned status, answered id statRequest status ∈ learned →
      Ensures strict router learned (answers status) post) :
    Ensures strict router known (do
      match ← checkout id with
      | none => fails
      | some conn =>
        match ← executeRequestExchange conn statRequest with
        | none => fails
        | some (status, conn) =>
          match ← receive conn with
          | (.error _, _) => fails
          | (.ok (), _) => answers status) post := by
  refine (ensures_call (.checkout id) trivial).bind ?_
  rintro checkedOut found - settled
  cases found with
  | none => exact failed checkedOut
  | some conn =>
    refine (ensures_executeRequestExchange (settled conn rfl)).bind ?_
    rintro exchanged result - responds
    cases result with
    | none => exact failed exchanged
    | some response =>
      refine (ensures_call (.receive response.2) trivial).bind ?_
      rintro learned ⟨result, _⟩ grows -
      cases result with
      | error error => exact failed learned
      | ok _ => exact answered learned response.1 (grows (responds response rfl).2)

theorem denied_of_any {status : Option StatusCode}
    (answered : answered id request status ∈ known)
    (isMissing : status.any (·.isArticleMissing) = true) : Denied known id request := by
  cases status with
  | none => cases isMissing
  | some code => exact ⟨code, answered, of_decide_eq_true isMissing⟩

theorem ensures_statProbe :
    Ensures strict router known (statProbe id statRequest) fun learned outcome =>
      Reports learned (.retryProbe id statRequest) (.probed outcome) := by
  refine ensures_probe (fun _ => trivial) fun learned status answered => ?_
  split
  next isMissing => exact ⟨rfl, denied_of_any answered isMissing⟩
  next => trivial

theorem ensures_prefetchProbe {backend : ArticleBackend} {messageId : Bytes}
    (registered : Registered router backend) (names : Names statRequest messageId) :
    Ensures strict router known (prefetchProbe backend statRequest messageId) fun _ outcome =>
      outcome = .nothing := by
  refine ensures_probe (fun _ => rfl) fun learned status answered => ?_
  split
  next isMissing =>
    have missed := registered.missed ((denied_of_any answered isMissing).missedBy names)
    exact (ensures_call (.recordMissing _ _) missed).bind fun _ _ _ _ => rfl
  next => rfl

/-! ## The sweep and the prefetch -/

theorem Denied.missed_of_availabilitySlot {messageId : Bytes} {slot : AvailabilitySlot}
    (denied : Denied known id request) (names : Names request messageId)
    (hasSlot : router.availabilitySlot id = some slot) : Missed router known messageId slot := by
  obtain ⟨backend, found, sameSlot⟩ := Option.map_eq_some_iff.mp hasSlot
  have sameId : backend.id = id := by simpa using List.find?_some found
  exact ⟨backend, List.mem_of_find?_eq_some found, sameSlot, sameId ▸ denied.missedBy names⟩

theorem ensures_recordProbe {outcome : Option Outcome} (parsed : Parsed request)
    (reports : ∀ left ∈ outcome, ∃ id,
      Reports known (.retryProbe id (statProbeRequest request)) left) :
    Ensures strict router known (recordProbe router request state outcome) fun _ next =>
      next.lease = state.lease := by
  unfold recordProbe
  split
  next id =>
    rcases reports _ rfl with ⟨_, rfl, denied⟩
    split
    · rfl
    next slot hasSlot =>
      exact (safe_recordArticleMissing fun messageId isLookup =>
        denied.missed_of_availabilitySlot (parsed.names_statProbeRequest
          (messageIdText_of_articleLookupRequest isLookup)) hasSlot).bind fun _ _ _ _ => rfl
  · rfl
  · rfl

/-- The tickets are those of probes for a request. -/
def ProbesFor (known : List Event) (request : RequestContext) (probes : List Ticket) : Prop :=
  ∀ ticket ∈ probes, ∃ id,
    spawned ticket (.retryProbe id (statProbeRequest request)) ∈ known

theorem ensures_recordProbes {count : Nat} {probes : List Ticket} (parsed : Parsed request)
    (areProbes : ProbesFor known request probes) :
    Ensures strict router known (recordProbes router request count probes state) fun _ next =>
      next.lease = state.lease := by
  induction count generalizing known probes state with
  | zero => rfl
  | succ count ih =>
    refine (ensures_call (.join probes) trivial).bind ?_
    rintro joined ⟨ticket, outcome⟩ growsJoined ⟨isProbe, reports⟩
    rcases areProbes ticket isProbe with ⟨id, spawned⟩
    refine (ensures_recordProbe parsed fun left isLeft =>
      ⟨id, reports left isLeft _ spawned⟩).bind ?_
    intro recorded next growsRecorded sameLease
    rw [← sameLease]
    refine ih fun other isOther => ?_
    rcases areProbes other (List.mem_of_mem_erase isOther) with ⟨id, spawned⟩
    exact ⟨id, growsRecorded (growsJoined spawned)⟩

theorem ensures_parallelRetryStatSweep (parsed : Parsed request) :
    Ensures strict router known (parallelRetryStatSweep router request state) fun _ next =>
      next.lease = state.lease := by
  unfold parallelRetryStatSweep
  simp only
  split
  · rfl
  split
  · rfl
  · refine (ensures_spawnAll ?_).bind ?_
    · intro job isJob
      obtain ⟨backend, -, rfl⟩ := List.mem_map.mp isJob
      trivial
    · rintro spawned probes - areSpawned
      refine ensures_recordProbes parsed fun ticket isProbe => ?_
      rcases areSpawned ticket isProbe with ⟨job, isJob, isSpawned⟩
      obtain ⟨backend, -, rfl⟩ := List.mem_map.mp isJob
      exact ⟨backend.id, isSpawned⟩

variable {availability : ArticleAvailability} {suppressed : SuppressedBackends}

theorem registered_of_mem_probeCandidates {firstTier : Nat}
    (isCandidate : backend ∈ probeCandidates router firstTier availability suppressed) :
    Registered router ⟨backend.id, backend.availabilitySlot⟩ := by
  obtain ⟨tier, -, inTier⟩ := List.mem_flatMap.mp isCandidate
  exact ⟨backend, List.mem_of_mem_filter inTier, rfl, rfl⟩

theorem safe_spawnNonPrimaryTierStatPrefetch (parsed : Parsed request) :
    Safe strict router known
      (spawnNonPrimaryTierStatPrefetch router request availability suppressed) := by
  unfold spawnNonPrimaryTierStatPrefetch
  split
  · trivial
  split
  · trivial
  next messageId text =>
    refine (ensures_spawnAll ?_).bind fun _ _ _ _ => trivial
    intro job isJob
    obtain ⟨backend, isCandidate, rfl⟩ := List.mem_map.mp isJob
    exact ⟨registered_of_mem_probeCandidates isCandidate, parsed.names_statProbeRequest text⟩

/-! ## The loop -/

theorem safe_writeLocalLine : Safe strict router known writeLocalLine := by
  refine (ensures_call .writeClient trivial).bind ?_
  rintro learned written - -
  cases written with
  | ok _ => trivial
  | error error => trivial

theorem ensures_sweepBeforeRetry {retryStatSweepDone : Bool} (parsed : Parsed request) :
    Ensures strict router known
      (sweepBeforeRetry router request isRetryAttempt retryStatSweepDone state) fun _ next =>
        next.lease = state.lease := by
  unfold sweepBeforeRetry
  split
  · exact ensures_parallelRetryStatSweep parsed
  · rfl

/-- No matter what a request led to, a connection that is kept has no unanswered requests. -/
abbrev EndsSettled (_ : List Event) (result : Except SessionError Unit × Option BackendLease) :
    Prop :=
  LeaseSettled result.2

theorem ensures_retryLoop {passes : Nat} {retryStatSweepDone : Bool} (parsed : Parsed request)
    (leaseSettled : LeaseSettled state.lease) :
    Ensures strict router known
      (retryLoop router request passes isRetryAttempt retryStatSweepDone state) EndsSettled := by
  -- a local line ends the loop
  have ends {known : List Event} {state : AttemptState} (leaseSettled : LeaseSettled state.lease) :
      Ensures strict router known (do return (← writeLocalLine, state.lease) :
        Work (Except SessionError Unit × Option BackendLease)) EndsSettled :=
    safe_writeLocalLine.bind fun _ _ _ _ => leaseSettled
  induction passes generalizing known isRetryAttempt retryStatSweepDone state with
  | zero => exact ensures_halt
  | succ passes ih =>
    rw [retryLoop]
    split
    · exact ends leaseSettled
    · refine (ensures_sweepBeforeRetry parsed).bind ?_
      rintro swept state - sameLease
      rw [← sameLease] at leaseSettled
      refine (ensures_tryBackendForArticle parsed leaseSettled).bind ?_
      rintro tried ⟨result, state⟩ - leaseSettled
      cases result with
      | ok outcome =>
        cases outcome with
        | success => exact leaseSettled
        | articleNotFound => exact ih leaseSettled
        | backendUnavailable => exact ih leaseSettled
        | noRetryableBackend => exact ends leaseSettled
      | error error =>
        simp only
        split
        · exact leaseSettled
        · exact ih leaseSettled

theorem ensures_executeArticleRetryLoop {availability : Option ArticleAvailability}
    (parsed : Parsed request) (leaseSettled : LeaseSettled lease) :
    Ensures strict router known (executeArticleRetryLoop router request availability lease)
      EndsSettled := by
  have prefetch : Safe strict router known
      (prefetchBeforeAttempt router request (availability.getD .new)) := by
    unfold prefetchBeforeAttempt
    split
    · trivial
    · exact safe_spawnNonPrimaryTierStatPrefetch parsed
  exact prefetch.bind fun _ _ _ _ => ensures_retryLoop parsed leaseSettled

end NntpProxy.Missing
