import NntpProxy.Missing.Races

/-!
# Windows and whole systems

The connection of a window carries the requests that were sent and have no response, in the order
of the batch, so that each response that is read belongs to the request that it is taken for.  With
the rules for single requests this gives the contract for every task.  Records are then evident in
every run of a proxy whose sessions have no windows, and in every run in which no connection is
returned while it carries requests.
-/

namespace NntpProxy.Missing

open Data.Interaction Data.Interleaving Protocol Router Pool Session Transport PerCommand

variable {strict : Prop} {router : BackendSelector} {known : List Event}
variable {session : ClientSession} {access : AuthenticationAccess}

/-! ## Commands -/

variable {request : RequestContext}

theorem ensures_processSingleCommand {lease : Option BackendLease} (parsed : Parsed request)
    (leaseSettled : LeaseSettled lease) :
    Ensures strict session.router known (processSingleCommand session access request lease)
      EndsSettled := by
  unfold processSingleCommand
  split
  · exact ensures_routeAndExecuteRequest parsed leaseSettled
  · exact safe_writeLocalLine.bind fun _ _ _ _ => leaseSettled

variable {requests : List RequestContext}

theorem ensures_executePipelineableCommands {lease : Option BackendLease}
    (parsed : ∀ request ∈ requests, Parsed request) (leaseSettled : LeaseSettled lease) :
    Ensures strict session.router known
      (executePipelineableCommands session access requests lease) EndsSettled := by
  induction requests generalizing known lease with
  | nil => exact leaseSettled
  | cons request requests ih =>
    refine (ensures_processSingleCommand (parsed request List.mem_cons_self) leaseSettled).bind ?_
    rintro executed ⟨result, next⟩ - nextSettled
    cases result with
    | error error => exact nextSettled
    | ok _ =>
      exact ih (fun other isOther => parsed other (List.mem_cons_of_mem request isOther))
        nextSettled

/-! ## What a connection carries -/

/-- The request of an entry that was sent. -/
def sentOf (entry : WindowEntry) : List RequestContext :=
  if entry.route = .sendUpstream true then [entry.request] else []

/-- The requests that were sent. -/
def sentRequests (entries : List WindowEntry) : List RequestContext :=
  entries.flatMap sentOf

@[simp]
theorem sentRequests_nil : sentRequests [] = [] :=
  rfl

@[simp]
theorem sentRequests_cons (entry : WindowEntry) (rest : List WindowEntry) :
    sentRequests (entry :: rest) = sentOf entry ++ sentRequests rest :=
  List.flatMap_cons

variable {entries : List WindowEntry}

theorem sentRequests_eq_nil
    (notSent : ∀ entry ∈ entries, entry.route ≠ .sendUpstream true) : sentRequests entries = [] :=
  List.flatMap_eq_nil_iff.mpr fun entry isEntry => if_neg (notSent entry isEntry)

/-- A connection carries some requests and behind them those of a window that were sent.  The
window is sent in its order. -/
structure Carries (id : BackendId) (ahead : List RequestContext) (conn : Connection)
    (entries : List WindowEntry) : Prop where
  backend : conn.backend = id
  unanswered : conn.unanswered = ahead ++ sentRequests entries
  inOrder : entries.Pairwise fun first second =>
    first.route = .sendUpstream false → second.route ≠ .sendUpstream true

namespace Carries

variable {id : BackendId} {ahead : List RequestContext} {conn next : Connection}
variable {entry : WindowEntry} {rest : List WindowEntry}

theorem of_same (carries : Carries id ahead conn rest) (sameBackend : next.backend = conn.backend)
    (sameUnanswered : next.unanswered = conn.unanswered) : Carries id ahead next rest :=
  ⟨sameBackend.trans carries.backend, sameUnanswered.trans carries.unanswered, carries.inOrder⟩

theorem tail (carries : Carries id ahead conn (entry :: rest)) :
    Carries id (ahead ++ sentOf entry) conn rest where
  backend := carries.backend
  unanswered := by simp [carries.unanswered]
  inOrder := carries.inOrder.tail

theorem cons (carries : Carries id (ahead ++ sentOf entry) conn rest)
    (notWaiting : entry.route ≠ .sendUpstream false) : Carries id ahead conn (entry :: rest) where
  backend := carries.backend
  unanswered := by simp [carries.unanswered]
  inOrder := List.pairwise_cons.mpr
    ⟨fun _ _ isWaiting => absurd isWaiting notWaiting, carries.inOrder⟩

theorem wrote (carries : Carries id ahead conn (entry :: rest))
    (isWaiting : entry.route = .sendUpstream false) :
    Carries id (ahead ++ [entry.request]) (conn.wrote entry.request) rest := by
  have noneSent : sentRequests rest = [] :=
    sentRequests_eq_nil fun other isOther =>
      (List.pairwise_cons.mp carries.inOrder).1 other isOther isWaiting
  have notSent : sentOf entry = [] := by simp [sentOf, isWaiting]
  refine ⟨carries.backend, ?_, carries.inOrder.tail⟩
  simp [Connection.wrote, carries.unanswered, noneSent, notSent]

theorem answered (carries : Carries id [request] conn rest) :
    Carries id [] conn.answered rest where
  backend := carries.backend
  unanswered := by simp [Connection.answered, carries.unanswered]
  inOrder := carries.inOrder

theorem answerEvents_eq (carries : Carries id [request] conn rest) (status : Option StatusCode) :
    answerEvents conn status = [Event.answered id request status] := by
  simp [answerEvents, carries.unanswered, carries.backend]

theorem settled (carries : Carries id [] conn []) : Settled id conn :=
  ⟨carries.backend, carries.unanswered⟩

end Carries

variable {conn : Connection}

variable {id : BackendId}

theorem carries_routeArticleWindowRequests (settled : Settled id conn) (slot : AvailabilitySlot)
    (batch : List (RequestContext × ArticleAvailability)) :
    Carries id [] conn (routeArticleWindowRequests slot batch) := by
  have notSent : ∀ entry ∈ routeArticleWindowRequests slot batch,
      entry.route ≠ .sendUpstream true := by
    intro entry isEntry
    obtain ⟨⟨request, availability⟩, -, rfl⟩ := List.mem_map.mp isEntry
    simp only
    split
    · exact ArticleWindowRequest.noConfusion
    · simp
  refine ⟨settled.backend, ?_, ?_⟩
  · rw [settled.unanswered, sentRequests_eq_nil notSent]
    rfl
  · exact List.pairwise_of_forall_mem_list fun _ _ entry isEntry _ => notSent entry isEntry

/-! ## Sending -/

/-- The connection carries what was sent of a window, which has the same requests. -/
structure Fills (id : BackendId) (ahead : List RequestContext) (entries : List WindowEntry)
    (filled : Filled) : Prop where
  carries : Carries id ahead filled.conn filled.entries
  same : filled.entries.map (·.request) = entries.map (·.request)

variable {inFlight : Nat}

theorem ensures_fillWindow {ahead : List RequestContext} (carries : Carries id ahead conn entries) :
    Ensures strict router known (fillWindow inFlight conn entries) fun _ result =>
      ∀ filled ∈ result, Fills id ahead entries filled := by
  induction entries generalizing known ahead inFlight conn with
  | nil =>
    rintro _ ⟨⟩
    exact ⟨carries, rfl⟩
  | cons entry rest ih =>
    rw [fillWindow]
    split
    · rintro _ ⟨⟩
      exact ⟨carries, rfl⟩
    split
    next isWaiting =>
      refine (ensures_call (.write conn _) trivial).bind ?_
      rintro written next - wrote
      cases next with
      | none => exact fun _ isFilled => nomatch isFilled
      | some next =>
        obtain rfl := wrote next rfl
        refine (ih (carries.wrote isWaiting)).bind fun learned result _ fills filled isFilled => ?_
        obtain ⟨rest, isRest, rfl⟩ := Option.map_eq_some_iff.mp isFilled
        rcases fills rest isRest with ⟨carries, same⟩
        refine ⟨Carries.cons ?_ (by simp), by simpa [Filled.send] using same⟩
        simpa [sentOf, Filled.send] using carries
    next notWaiting =>
      refine (ih carries.tail).bind fun learned result _ fills filled isFilled => ?_
      obtain ⟨rest, isRest, rfl⟩ := Option.map_eq_some_iff.mp isFilled
      rcases fills rest isRest with ⟨carries, same⟩
      exact ⟨carries.cons notWaiting, by simpa [Filled.skip] using same⟩

theorem ensures_refillWindow (carries : Carries id [] conn entries) :
    Ensures strict router known (refillWindow inFlight conn entries) fun _ result =>
      ∀ filled ∈ result, Fills id [] entries filled := by
  refine (ensures_fillWindow carries).bind fun written result _ fills => ?_
  cases result with
  | none => exact fills
  | some filled =>
    simp only
    split
    · refine (ensures_call (.consult _) trivial).bind ?_
      rintro learned flushed - -
      cases flushed with
      | true => exact fills
      | false => exact fun _ isFilled => nomatch isFilled
    · exact fills

variable {rest : List WindowEntry}

theorem ensures_writeUnsentRequest {entry : WindowEntry} {sent : Bool}
    (carries : Carries id [] conn (entry :: rest)) (route : entry.route = .sendUpstream sent) :
    Ensures strict router known (writeUnsentRequest inFlight conn entry.request sent)
      fun _ result => ∀ next ∈ result, Carries id [entry.request] next.2 rest := by
  cases sent with
  | true =>
    have isSent : sentOf entry = [entry.request] := if_pos route
    rintro _ ⟨⟩
    simpa [isSent] using carries.tail
  | false =>
    refine (ensures_call (.write conn _) trivial).bind ?_
    rintro written next - wrote
    cases next with
    | none => exact fun _ isNext => nomatch isNext
    | some next =>
      obtain rfl := wrote next rfl
      refine (ensures_call (.consult _) trivial).bind ?_
      rintro learned flushed - -
      cases flushed with
      | true =>
        rintro _ ⟨⟩
        exact carries.wrote route
      | false => exact fun _ isNext => nomatch isNext

/-! ## Responses -/

theorem ensures_failTransfer {error : ResponseTransferError}
    {post : List Event → Except AlreadySentResponseError Connection → Prop} (notStrict : ¬ strict)
    (fails : ∀ learned error, post learned (.error error)) :
    Ensures strict router known (failTransfer conn error) post :=
  (safe_handleResponseTransferError fun isStrict => absurd isStrict notStrict).bind
    fun learned _ _ _ => fails learned _

/-- A response is read and forwarded, unless that fails. -/
theorem ensures_finishResponse (notStrict : ¬ strict) (carries : Carries id [] conn rest) :
    Ensures strict router known (finishResponse conn) fun _ result =>
      ∀ next, result = .ok next → Carries id [] next rest := by
  refine (ensures_call (.receive conn) trivial).bind ?_
  rintro received ⟨result, next⟩ - ⟨sameBackend, sameUnanswered⟩
  cases result with
  | error error => exact ensures_failTransfer notStrict fun _ _ => nofun
  | ok _ =>
    refine (ensures_call .writeClient trivial).bind ?_
    rintro learned written - -
    cases written with
    | ok _ =>
      rintro _ ⟨⟩
      exact carries.of_same sameBackend sameUnanswered
    | error error => exact ensures_failTransfer notStrict fun _ _ => nofun

theorem ensures_forwardResponseForAlreadySentRequest {backend : ArticleBackend}
    (notStrict : ¬ strict) (registered : Registered router backend) (parsed : Parsed request)
    (carries : Carries backend.backendId [request] conn rest) :
    Ensures strict router known
      (forwardResponseForAlreadySentRequest backend.availabilitySlot request conn) fun _ result =>
        ∀ next, result = .ok next → Carries backend.backendId [] next rest := by
  refine (ensures_call (.readStatus conn) trivial).bind ?_
  rintro answered reply - replies
  cases reply with
  | none => exact nofun
  | some response =>
    rcases response with ⟨status, next⟩
    obtain ⟨rfl, events⟩ : next = conn.answered ∧ answerEvents conn status ⊆ answered :=
      replies _ rfl
    cases status with
    | none => exact nofun
    | some status =>
      simp only
      split
      next isMissing =>
        rw [carries.answerEvents_eq] at events
        exact (safe_recordArticleMissing fun messageId isLookup => registered.missed
          (tells_of_answered parsed (events List.mem_cons_self) messageId isLookup
            isMissing)).bind fun _ _ _ _ => ensures_finishResponse notStrict carries.answered
      next => exact ensures_finishResponse notStrict carries.answered

/-! ## The window -/

section Window

variable {backend : ArticleBackend} {lease : Option BackendLease}

theorem parsed_of_map_eq {others : List WindowEntry}
    (parsed : ∀ request ∈ entries.map (·.request), Parsed request)
    (same : others.map (·.request) = entries.map (·.request)) :
    ∀ request ∈ others.map (·.request), Parsed request := by
  rw [same]
  exact parsed

theorem ensures_forwardSentArticleWindowResponses {size : Nat} (notStrict : ¬ strict)
    (registered : Registered session.router backend)
    (parsed : ∀ request ∈ entries.map (·.request), Parsed request)
    (leaseSettled : LeaseSettled lease) (carries : Carries backend.backendId [] conn entries) :
    Ensures strict session.router known
      (forwardSentArticleWindowResponses session access backend lease size inFlight conn entries)
      EndsSettled := by
  -- behind the last response the connection is kept
  have ends {known : List Event} {conn : Connection}
      (carries : Carries backend.backendId [] conn []) :
      Ensures strict session.router known
        (forwardSentArticleWindowResponses session access backend lease 0 0 conn [])
        EndsSettled := by
    refine safe_writeLocalLine.bind fun learned result _ _ => ?_
    cases result with
    | error error => exact leaseSettled
    | ok _ =>
      simp only
      split
      · exact leaseSettled_some carries.settled
      · exact leaseSettled
  induction size generalizing known inFlight conn entries with
  | zero =>
    cases entries with
    | nil => exact ends carries
    | cons entry rest => exact ensures_halt
  | succ size ih =>
    cases entries with
    | nil => exact ends carries
    | cons entry rest =>
      have parsedRest : ∀ request ∈ rest.map (·.request), Parsed request :=
        fun request isRequest => parsed request (List.mem_cons_of_mem _ isRequest)
      rw [forwardSentArticleWindowResponses]
      split
      next isKnown =>
        refine safe_writeLocalLine.bind fun learned result _ _ => ?_
        cases result with
        | error error => exact leaseSettled
        | ok _ =>
          refine ih parsedRest ?_
          simpa [sentOf, isKnown] using carries.tail
      next sent isUpstream =>
        refine (ensures_writeUnsentRequest carries isUpstream).bind fun written next _ wrote => ?_
        cases next with
        | none => exact ensures_executePipelineableCommands parsed leaseSettled
        | some next =>
          refine (ensures_forwardResponseForAlreadySentRequest notStrict registered
            (parsed _ List.mem_cons_self) (wrote next rfl)).bind ?_
          rintro forwarded result - carries
          cases result with
          | error error =>
            cases error with
            | read => exact ensures_executePipelineableCommands parsed leaseSettled
            | transfer error => exact leaseSettled
          | ok conn =>
            refine (ensures_refillWindow (carries conn rfl)).bind fun learned result _ fills => ?_
            cases result with
            | none => exact ensures_executePipelineableCommands parsedRest leaseSettled
            | some filled =>
              rcases fills filled rfl with ⟨carries, same⟩
              exact ih (parsed_of_map_eq parsedRest same) carries

theorem ensures_loadCachedArticleAvailability :
    Ensures strict router known (loadCachedArticleAvailability requests) fun _ loaded =>
      loaded.map Prod.fst = requests := by
  induction requests generalizing known with
  | nil => rfl
  | cons request requests ih =>
    have rest {known : List Event} (availability : ArticleAvailability) :
        Ensures strict router known
          (do return (request, availability) :: (← loadCachedArticleAvailability requests) :
            Work (List (RequestContext × ArticleAvailability)))
          fun _ loaded => loaded.map Prod.fst = request :: requests :=
      ih.bind fun _ _ _ same => congrArg (request :: ·) same
    refine (ensures_call (.lookUp request) trivial).bind ?_
    rintro looked found - -
    cases found with
    | partialHit availability => exact rest availability
    | _ => exact rest .new

theorem safe_writeKnownMissingResponses {count : Nat} :
    Safe strict router known (writeKnownMissingResponses count) := by
  induction count generalizing known with
  | zero => exact safe_writeLocalLine
  | succ count ih =>
    refine safe_writeLocalLine.bind fun learned result _ _ => ?_
    cases result with
    | error error => trivial
    | ok _ => exact ih

theorem map_request_routeArticleWindowRequests (slot : AvailabilitySlot)
    (batch : List (RequestContext × ArticleAvailability)) :
    (routeArticleWindowRequests slot batch).map (·.request) = batch.map Prod.fst := by
  simp [routeArticleWindowRequests]

theorem ensures_forwardSingleBackendArticleWindow (notStrict : ¬ strict)
    (registered : Registered session.router backend) (parsed : ∀ request ∈ requests, Parsed request)
    (leaseSettled : LeaseSettled lease) :
    Ensures strict session.router known
      (forwardSingleBackendArticleWindow session access backend requests lease) EndsSettled := by
  refine ensures_loadCachedArticleAvailability.bind fun loaded batch _ sameRequests => ?_
  have parsed : ∀ request ∈
      (routeArticleWindowRequests backend.availabilitySlot batch).map (·.request),
      Parsed request := by
    rw [map_request_routeArticleWindowRequests, sameRequests]
    exact parsed
  simp only
  split
  · exact safe_writeKnownMissingResponses.bind fun _ _ _ _ => leaseSettled
  · refine (ensures_checkoutDirectBackendConnection leaseSettled).bind ?_
    rintro checkedOut ⟨found, lease⟩ - ⟨settled, leaseSettled⟩
    cases found with
    | none => exact ensures_executePipelineableCommands parsed leaseSettled
    | some conn =>
      refine (ensures_fillWindow (carries_routeArticleWindowRequests (settled conn rfl)
        backend.availabilitySlot batch)).bind fun written result _ fills => ?_
      cases result with
      | none => exact ensures_executePipelineableCommands parsed leaseSettled
      | some filled =>
        rcases fills filled rfl with ⟨carries, same⟩
        refine (ensures_call (.consult _) trivial).bind ?_
        rintro flushed isFlushed - -
        cases isFlushed with
        | false => exact ensures_executePipelineableCommands parsed leaseSettled
        | true =>
          exact ensures_forwardSentArticleWindowResponses notStrict registered
            (parsed_of_map_eq parsed same) leaseSettled carries

end Window

end NntpProxy.Missing
