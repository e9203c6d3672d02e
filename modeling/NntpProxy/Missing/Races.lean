import NntpProxy.Missing.Requests

/-!
# Prechecks record what is evident

A precheck learns what backends answered from the outcomes of its queries.  Each query is for the
article of the precheck and goes to one of the backends, so that an outcome that says that a
backend misses the article is evidence for the slot of this backend.
-/

namespace NntpProxy.Missing

open Data.Interaction Protocol Router Pool Session Transport PerCommand

variable {strict : Prop} {router : BackendSelector} {known : List Event} {messageId : Bytes}

/-! ## Queries -/

variable {request : RequestContext} {backend : ArticleBackend}

theorem reports_classifyPrecheckResult {status : StatusCode}
    (answered : Event.answered backend.backendId request (some status) ∈ known) :
    Reports known (.queryBackend backend request)
      (.queried (classifyPrecheckResult backend status)) := by
  unfold classifyPrecheckResult
  split
  · trivial
  split
  next isMissing => exact ⟨rfl, status, answered, of_decide_eq_true isMissing⟩
  next => trivial

theorem ensures_executeBackendQuery :
    Ensures strict router known (executeBackendQuery backend request) fun learned result =>
      ∀ found ∈ result, Reports learned (.queryBackend backend request) (.queried found) := by
  refine (ensures_call (.checkout _) trivial).bind ?_
  rintro checkedOut found - settled
  cases found with
  | none =>
    rintro _ ⟨⟩
    trivial
  | some conn =>
    refine (ensures_executeRequestExchange (settled conn rfl)).bind ?_
    rintro exchanged result - responds
    cases result with
    | none => exact fun _ isFound => nomatch isFound
    | some response =>
      rcases response with ⟨status, conn⟩
      rcases responds _ rfl with ⟨settled, answered⟩
      cases status with
      | none => exact fun _ isFound => nomatch isFound
      | some status =>
        refine (ensures_call (.receive conn) trivial).bind ?_
        rintro received ⟨result, next⟩ growsReceived ⟨sameBackend, sameUnanswered⟩
        cases result with
        | error error => exact fun _ isFound => nomatch isFound
        | ok _ =>
          refine (safe_completeSuccess (settled.of_same sameBackend sameUnanswered)).bind ?_
          rintro learned _ grows - _ ⟨⟩
          exact reports_classifyPrecheckResult (grows (growsReceived answered))

theorem ensures_queryBackend :
    Ensures strict router known (queryBackend backend request) fun learned result =>
      Reports learned (.queryBackend backend request) (.queried result) := by
  refine ensures_executeBackendQuery.bind ?_
  rintro tried result - reports
  cases result with
  | some result => exact reports result rfl
  | none =>
    refine ensures_executeBackendQuery.bind ?_
    rintro learned result - reports
    cases result with
    | none => trivial
    | some result => exact reports result rfl

variable {availability : ArticleAvailability}

theorem registered_of_mem_eligibleBackendsInTier {tier : Nat}
    (isEligible : backend ∈ eligibleBackendsInTier router tier availability) :
    Registered router backend := by
  obtain ⟨info, inTier, rfl⟩ := List.mem_map.mp isEligible
  exact ⟨info, List.mem_of_mem_filter inTier, rfl, rfl⟩

theorem ensures_spawnBackendQueriesForTier {tier : Nat} (names : Names request messageId) :
    Ensures strict router known (spawnBackendQueriesForTier router request tier availability)
      fun learned pending => QueriesFor router learned messageId pending := by
  refine Program.Keeps.mono (ensures_spawnAll ?_) ?_
  · intro job isJob
    obtain ⟨backend, -, rfl⟩ := List.mem_map.mp isJob
    trivial
  · intro learned pending areSpawned ticket isPending
    rcases areSpawned ticket isPending with ⟨job, isJob, spawned⟩
    obtain ⟨backend, isEligible, rfl⟩ := List.mem_map.mp isJob
    exact ⟨backend, request, spawned, registered_of_mem_eligibleBackendsInTier isEligible, names⟩

variable {pending : List Ticket}

/-- The outcome of a query is evidence. -/
theorem QueriesFor.missed {learned : List Event} {ticket : Ticket}
    (queries : QueriesFor router known messageId pending) (isPending : ticket ∈ pending)
    (reports : ∀ job, Event.spawned ticket job ∈ known →
      Reports learned job (.queried (.missing backend))) :
    Missed router learned messageId backend.availabilitySlot := by
  rcases queries ticket isPending with ⟨asked, request, spawned, registered, names⟩
  rcases reports _ spawned with ⟨rfl, denied⟩
  exact registered.missed (denied.missedBy names)

/-! ## Results -/

/-- What the results of queries say about an article is evident. -/
def ResultsEvident (router : BackendSelector) (known : List Event) (messageId : Bytes)
    (results : List QueryResult) : Prop :=
  ∀ backend, .missing backend ∈ results →
    Missed router known messageId backend.availabilitySlot

theorem ResultsEvident.mono {learned : List Event} {results : List QueryResult}
    (evident : ResultsEvident router known messageId results) (grows : known ⊆ learned) :
    ResultsEvident router learned messageId results :=
  fun backend isResult => (evident backend isResult).mono grows

theorem ensures_collectResults {count : Nat}
    (queries : QueriesFor router known messageId pending) :
    Ensures strict router known (collectResults count pending) fun learned results =>
      ResultsEvident router learned messageId results := by
  induction count generalizing known pending with
  | zero => exact fun _ isResult => nomatch isResult
  | succ count ih =>
    refine (ensures_call (.join pending) trivial).bind ?_
    rintro joined ⟨ticket, outcome⟩ growsJoined ⟨isPending, reports⟩
    refine (ih (queries.mono growsJoined List.erase_subset)).bind ?_
    intro learned results grows evident
    split
    next result =>
      intro backend isResult
      rcases List.mem_cons.mp isResult with rfl | older
      · exact (queries.missed isPending (reports _ rfl)).mono grows
      · exact evident backend older
    next => exact evident

theorem safe_recordPrecheckResults {results : List QueryResult}
    (evident : ResultsEvident router known messageId results) :
    Safe strict router known (recordPrecheckResults messageId results) := by
  induction results generalizing known with
  | nil => trivial
  | cons result results ih =>
    have evidentRest : ResultsEvident router known messageId results :=
      fun backend isResult => evident backend (List.mem_cons_of_mem result isResult)
    cases result with
    | missing backend =>
      refine (ensures_call (.recordMissing _ _) (evident backend List.mem_cons_self)).bind ?_
      exact fun _ _ grows _ => ih (evidentRest.mono grows)
    | found id => exact ih evidentRest
    | error => exact ih evidentRest

theorem ensures_queryAllBackends {tiers : List Nat} (names : Names request messageId) :
    Ensures strict router known (queryAllBackends router request availability tiers)
      fun learned results => ResultsEvident router learned messageId results := by
  induction tiers generalizing known with
  | nil => exact fun _ isResult => nomatch isResult
  | cons tier tiers ih =>
    refine (ensures_spawnBackendQueriesForTier names).bind fun spawned pending _ queries => ?_
    refine (ensures_collectResults queries).bind fun collected results _ evident => ?_
    split
    · refine ih.bind fun learned more grows evidentMore backend isResult => ?_
      rcases List.mem_append.mp isResult with older | newer
      · exact (evident backend older).mono grows
      · exact evidentMore backend newer
    · exact evident

/-! ## Races -/

theorem safe_raceTier {count : Nat} {exhausted : Bool}
    (queries : QueriesFor router known messageId pending) :
    Safe strict router known (raceTier messageId count pending exhausted) := by
  induction count generalizing known pending exhausted with
  | zero => trivial
  | succ count ih =>
    refine (ensures_call (.join pending) trivial).bind ?_
    rintro joined ⟨ticket, outcome⟩ growsJoined ⟨isPending, reports⟩
    have rest : QueriesFor router joined messageId (pending.erase ticket) :=
      queries.mono growsJoined List.erase_subset
    simp only
    split
    next => exact (ensures_call (.spawn (.finishRace _ _)) rest).bind fun _ _ _ _ => trivial
    next backend =>
      refine (ensures_call (.recordMissing _ _) (queries.missed isPending (reports _ rfl))).bind ?_
      exact fun _ _ grows _ => ih (rest.mono grows (List.Subset.refl _))
    next => exact ih rest
    next => exact ih rest

theorem safe_queryAllBackendsRacing {tiers : List Nat} (names : Names request messageId) :
    Safe strict router known
      (queryAllBackendsRacing router request messageId availability tiers) := by
  induction tiers generalizing known with
  | nil => trivial
  | cons tier tiers ih =>
    refine (ensures_spawnBackendQueriesForTier names).bind fun spawned pending _ queries => ?_
    refine (safe_raceTier queries).bind fun raced outcome _ _ => ?_
    cases outcome with
    | missing => exact ih
    | hit => trivial
    | inconclusive => trivial

theorem ensures_finishRace (queries : QueriesFor router known messageId pending) :
    Ensures strict router known (finishRace messageId pending) fun _ outcome =>
      outcome = .nothing := by
  refine (ensures_collectResults queries).bind fun collected results _ evident => ?_
  exact (safe_recordPrecheckResults evident).bind fun _ _ _ _ => rfl

theorem ensures_backgroundPrecheck (names : Names request messageId) :
    Ensures strict router known (backgroundPrecheck router request messageId) fun _ outcome =>
      outcome = .nothing := by
  have checks {known : List Event} (availability : ArticleAvailability) :
      Ensures strict router known (do
        recordPrecheckResults messageId
          (← queryAllBackends router request availability router.sortedTiers)
        return .nothing : Work Outcome) fun _ outcome => outcome = .nothing := by
    refine (ensures_queryAllBackends names).bind fun queried results _ evident => ?_
    exact (safe_recordPrecheckResults evident).bind fun _ _ _ _ => rfl
  refine (ensures_call (.consult _) trivial).bind ?_
  rintro asked serves - -
  cases serves with
  | true => rfl
  | false =>
    refine (ensures_call (.lookUp request) trivial).bind ?_
    rintro looked found - -
    cases found with
    | partialHit availability => exact checks availability
    | _ => exact checks .new

/-! ## Before a request is routed -/

theorem safe_servePrecheck : Safe strict router known (servePrecheck availability) := by
  refine (ensures_call (.consult _) trivial).bind ?_
  rintro asked serves - -
  cases serves with
  | false => trivial
  | true =>
    refine safe_writeLocalLine.bind ?_
    rintro learned result - -
    cases result with
    | ok _ => trivial
    | error error => trivial

variable {session : ClientSession} {request : RequestContext}

theorem safe_tryAdaptivePrecheck (parsed : Parsed request)
    (text : messageIdText request = some messageId) :
    Safe strict session.router known
      (tryAdaptivePrecheck session request messageId availability) := by
  unfold tryAdaptivePrecheck
  split
  next prechecks =>
    have names : Names request messageId := by
      refine ⟨parsed.trimAscii_eq text, ?_⟩
      simp only [ClientSession.prechecks, Bool.and_eq_true, Bool.or_eq_true,
        beq_iff_eq] at prechecks
      rcases prechecks.2 with isStat | ⟨isHead, -⟩
      · simp [isStat]
      · simp [isHead]
    refine (ensures_call (.consult _) trivial).bind ?_
    rintro asked serves - -
    cases serves with
    | true => exact safe_servePrecheck
    | false =>
      refine (safe_queryAllBackendsRacing names).bind fun raced outcome _ _ => ?_
      cases outcome with
      | hit => exact safe_servePrecheck
      | missing => trivial
      | inconclusive => trivial
  next => trivial

theorem safe_spawnBackgroundPrecheck (parsed : Parsed request)
    (text : messageIdText request = some messageId) :
    Safe strict router known (spawnBackgroundPrecheck session request messageId) := by
  unfold spawnBackgroundPrecheck
  split
  next spawns =>
    have isStat : request.kind = .stat := by
      simp only [Bool.and_eq_true, beq_iff_eq] at spawns
      exact spawns.2
    have names : Names request messageId := ⟨parsed.trimAscii_eq text, by simp [isStat]⟩
    exact (ensures_call (.spawn (.backgroundPrecheck _ _)) names).bind fun _ _ _ _ => trivial
  next => trivial

theorem safe_prepareRequestExecution (parsed : Parsed request) :
    Safe strict session.router known (prepareRequestExecution session request) := by
  unfold prepareRequestExecution
  split
  next => trivial
  next messageId text =>
    -- what follows when the cache has no response
    have goesOn {known : List Event} (availability : ArticleAvailability) :
        Safe strict session.router known (do
          spawnNonPrimaryTierStatPrefetch session.router request availability .empty
          tryAdaptivePrecheck session request messageId availability : Work PreparedRequest) :=
      (safe_spawnNonPrimaryTierStatPrefetch parsed).bind fun _ _ _ _ =>
        safe_tryAdaptivePrecheck parsed text
    refine (ensures_call (.lookUp request) trivial).bind ?_
    rintro looked found - -
    cases found with
    | hit => trivial
    | failed error => trivial
    | miss => exact goesOn .new
    | partialHit availability =>
      exact (safe_spawnBackgroundPrecheck parsed text).bind fun _ _ _ _ => goesOn availability

theorem ensures_routeAndExecuteRequest {lease : Option BackendLease} (parsed : Parsed request)
    (leaseSettled : LeaseSettled lease) :
    Ensures strict session.router known (routeAndExecuteRequest session request lease)
      EndsSettled := by
  refine (safe_prepareRequestExecution parsed).bind fun prepared outcome _ _ => ?_
  cases outcome with
  | served => exact leaseSettled
  | failed error => exact leaseSettled
  | goOn availability => exact ensures_executeArticleRetryLoop parsed leaseSettled

end NntpProxy.Missing
