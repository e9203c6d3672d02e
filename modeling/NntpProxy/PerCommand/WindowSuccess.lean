import NntpProxy.PerCommand.WindowOrder
import NntpProxy.Retry.Success

/-!
# Windows that succeed

When the backend sends whole responses and the client takes everything, a window ends without
an error: what goes wrong between replies is made up for by executing requests by themselves.
-/

namespace NntpProxy.PerCommand

open Protocol Framing Transport Router Pool Retry Data

variable {pool : BufferPool}

/-- Responses that are forwarded in a window are not kept. -/
def Discards (retains : RequestContext → StatusCode → Bool) (kinds : List RequestKind) : Prop :=
  ∀ request : RequestContext, request.kind ∈ kinds → ∀ response : Response request.kind,
    Fits response → retains request response.status = false

/-- Every connection of the surroundings holds whole responses. -/
structure WindowWorld.Whole (world : WindowWorld pool) : Prop where
  checkout : ∀ kinds connection, world.checkout kinds = some connection →
    WholeAnswers kinds connection.conn.contents
  passes : ∀ index pass, (world.passes index pass).Whole

variable {world : WindowWorld pool} {retains : RequestContext → StatusCode → Bool}

variable {client : ClientWriter}

variable (router : BackendSelector)

theorem executeSequentially_succeeds (retains : RequestContext → StatusCode → Bool)
    (isWhole : world.Whole) (index : Nat) (requests : List RequestContext)
    (unlimited : Unlimited client) :
    ∃ after, executeSequentially router retains world index requests client =
      some (.ok (), after) ∧ Unlimited after := by
  induction requests generalizing index client with
  | nil => exact ⟨client, rfl, unlimited⟩
  | cons request requests ih =>
    rcases executeArticleRetryLoop_answers router request (retains request)
      (isWhole.passes index) (world.availability index) unlimited with
      ⟨answer, final, text, finished, -, -, stillUnlimited⟩
    rw [executeSequentially, finished]
    exact ih (index + 1) stillUnlimited

/-- The window ended without an error, and the client takes everything as before. -/
structure Succeeds (run : Option (WindowRun pool)) : Prop where
  result : ∀ outcome, run = some outcome → outcome.result = .ok ()
  unlimited : ∀ outcome, run = some outcome → Unlimited outcome.client

theorem succeeds_some {run : WindowRun pool} (result : run.result = .ok ())
    (unlimited : Unlimited run.client) : Succeeds (some run) := by
  constructor
  · rintro outcome ⟨⟩
    exact result
  · rintro outcome ⟨⟩
    exact unlimited

theorem retrySequentially_succeeds (isWhole : world.Whole) (index : Nat)
    (entries : List WindowEntry) (unlimited : Unlimited client) (trace : List (Fifo.Event Nat)) :
    Succeeds (retrySequentially router retains world index entries client trace) := by
  rcases executeSequentially_succeeds router retains isWhole index (entries.map (·.request))
    unlimited with ⟨after, executed, stillUnlimited⟩
  rw [retrySequentially, executed]
  exact succeeds_some rfl stillUnlimited

theorem forwardResponseForAlreadySentRequest_unlimited {request : RequestContext}
    {kinds : List RequestKind} {conn : ConnectionStream pool}
    (discards : Discards retains [request.kind])
    (answers : Answers (request.kind :: kinds) conn.contents)
    (isWhole : WholeAnswers (request.kind :: kinds) conn.contents) (unlimited : Unlimited client) :
    (∀ error, (forwardResponseForAlreadySentRequest request.kind (retains request) conn client).1 ≠
        .error (.transfer error)) ∧
      Unlimited
        (forwardResponseForAlreadySentRequest request.kind (retains request) conn client).2 := by
  have reads := readExchange_readsNext request.kind conn
  unfold forwardResponseForAlreadySentRequest
  split
  · exact ⟨by simp, unlimited⟩
  next classified next readEq =>
    rw [readEq] at reads
    cases statusEq : classified.statusCode with
    | none => exact ⟨by simp, unlimited⟩
    | some status =>
      rcases read_of_readsNext answers reads statusEq with ⟨response, lost, later, rest, read⟩
      rcases isWhole.head read.joined read.atEnd with ⟨rfl, fits, -⟩
      obtain rfl : status = response.status :=
        Option.some.inj (statusEq.symm.trans read.statusCode)
      simp only
      cases missing : response.status.isArticleMissing with
      | true =>
        rcases read.observe_of_missing missing with ⟨observed, observeEq⟩
        have accepted := unlimited.accept noSuchArticle
        have flushed : (client.sink.accept noSuchArticle).flush = _ := accepted.flush
        simp only [observeEq, unlimited.writeAll, flushed]
        exact ⟨by simp, accepted⟩
      | false =>
        have writes := read.writesWhole (retains request response.status) unlimited
        rw [discards request (List.mem_singleton_self _) response fits] at writes ⊢
        generalize writeSuccessfulBackendResponse false classified next client = written
          at writes
        cases writes with
        | whole guard contentsEq => exact ⟨by simp, unlimited.accept _⟩
        | nothing error kept goesOn => cases kept

theorem upstreamKinds_fillWindow (writes : Nat → Bool) (inFlight index : Nat)
    (entries : List WindowEntry) :
    upstreamKinds (fillWindow writes inFlight index entries).entries = upstreamKinds entries := by
  induction entries generalizing inFlight index with
  | nil => rfl
  | cons entry rest ih =>
    unfold fillWindow
    split
    · rfl
    split
    next unsent =>
      split
      · simp only [upstreamKinds, List.filterMap_cons, unsent] at ih ⊢
        rw [ih]
      · rfl
    · simp only [upstreamKinds, List.filterMap_cons] at ih ⊢
      rw [ih]

/-- The loop over the replies succeeds. -/
theorem forwardSentArticleWindowResponses_succeeds (isWhole : world.Whole) {index inFlight : Nat}
    {entries : List WindowEntry} {guard : ConnectionGuard pool} (trace : List (Fifo.Event Nat))
    (discards : Discards retains (upstreamKinds entries))
    (answers : Answers (upstreamKinds entries) guard.conn.contents)
    (wholeAnswers : WholeAnswers (upstreamKinds entries) guard.conn.contents)
    (unlimited : Unlimited client) :
    Succeeds (forwardSentArticleWindowResponses router retains world index inFlight entries guard
      client trace) := by
  -- the induction is on the number of requests that are left, as the loop counts them
  induction count : entries.length generalizing index inFlight entries guard client trace with
  | zero =>
    obtain rfl := List.length_eq_zero_iff.mp count
    rw [forwardSentArticleWindowResponses, unlimited.flush]
    exact succeeds_some rfl unlimited
  | succ left ih =>
    rcases List.exists_cons_of_length_eq_add_one count with ⟨entry, rest, rfl⟩
    rw [forwardSentArticleWindowResponses]
    split
    next missing =>
      rw [unlimited.writeAll]
      rw [upstreamKinds_cons_of_missing missing] at discards answers wholeAnswers
      exact ih _ discards answers wholeAnswers (unlimited.accept _) (Nat.succ.inj count)
    next sent routeEq =>
      rw [upstreamKinds_cons_of_upstream routeEq] at discards answers wholeAnswers
      split
      · exact retrySequentially_succeeds router isWhole index _ unlimited _
      next counted awaitedTrace writeEq =>
        have discardsHere : Discards retains [entry.request.kind] := by
          intro request isKind
          apply discards request
          simp only [List.mem_singleton] at isKind
          simp [isKind]
        have forwarded := forwardResponseForAlreadySentRequest_forwarded
          (retains entry.request) client answers
        have unharmed := forwardResponseForAlreadySentRequest_unlimited discardsHere answers
          wholeAnswers unlimited
        generalize forwardResponseForAlreadySentRequest entry.request.kind
          (retains entry.request) guard.conn client = outcome at forwarded unharmed ⊢
        generalize guard.conn.contents = stream at forwarded wholeAnswers
        cases forwarded with
        | unread => exact retrySequentially_succeeds router isWhole index _ unlimited _
        | failed error after => exact absurd rfl (unharmed.1 error)
        | reply response next after isComplete streamEq restAnswers acceptedEq =>
          have joined : stream ++ [] = response.bytes ++ next.conn.contents := by
            rw [List.append_nil, streamEq]
          have restWhole := (wholeAnswers.head joined (by simp)).2.2
          cases counted with
          | zero => exact ⟨by simp, by simp⟩
          | succ others =>
            simp only
            split
            · exact retrySequentially_succeeds router isWhole (index + 1) _ unharmed.2 _
            · have fewer := (length_fillWindow world.writes others (index + 1) rest).trans
                (Nat.succ.inj count)
              apply ih _ _ _ _ unharmed.2 fewer
              all_goals
                rw [upstreamKinds_fillWindow]
              · exact fun request isKind => discards request (List.mem_cons_of_mem _ isKind)
              · rw [ConnectionGuard.conn_ite_streamMut]
                exact restAnswers
              · rw [ConnectionGuard.conn_ite_streamMut]
                exact restWhole

theorem writeKnownMissingResponses_succeeds (unlimited : Unlimited client) (count : Nat) :
    (writeKnownMissingResponses client count).1 = .ok () ∧
      Unlimited (writeKnownMissingResponses client count).2 := by
  induction count generalizing client with
  | zero =>
    rw [writeKnownMissingResponses, unlimited.flush]
    exact ⟨rfl, unlimited⟩
  | succ count ih =>
    rw [writeKnownMissingResponses, unlimited.writeAll]
    exact ih (unlimited.accept noSuchArticle)

/-- A window of requests whose responses are not kept ends without an error. -/
theorem executeArticleWindow_succeeds (isWhole : world.Whole) (slot : AvailabilitySlot)
    (batch : List (RequestContext × ArticleAvailability)) (unlimited : Unlimited client)
    (discards : Discards retains (batch.map (·.1.kind))) :
    Succeeds (executeArticleWindow router retains world slot batch client) := by
  have upstream : ∀ kind ∈ upstreamKinds (routeArticleWindowRequests slot batch),
      kind ∈ batch.map (·.1.kind) := by
    intro kind isKind
    simp only [upstreamKinds, routeArticleWindowRequests, List.mem_filterMap, List.mem_map]
      at isKind
    rcases isKind with ⟨entry, ⟨request, isRequest, rfl⟩, kindEq⟩
    simp only [List.mem_map]
    refine ⟨request, isRequest, ?_⟩
    split at kindEq
    · cases kindEq
    · exact Option.some.inj kindEq
  have discardsUpstream :
      Discards retains (upstreamKinds (routeArticleWindowRequests slot batch)) :=
    fun request isKind => discards request (upstream _ isKind)
  unfold executeArticleWindow
  generalize routeArticleWindowRequests slot batch = entries at discardsUpstream ⊢
  simp only
  split
  · rcases writeKnownMissingResponses_succeeds unlimited entries.length with
      ⟨result, unlimitedAfter⟩
    exact succeeds_some result unlimitedAfter
  split
  · exact retrySequentially_succeeds router isWhole 0 entries unlimited _
  next conn answers connectEq =>
    have wholeAnswers := isWhole.checkout _ _ connectEq
    split
    · exact retrySequentially_succeeds router isWhole 0 entries unlimited _
    · apply forwardSentArticleWindowResponses_succeeds router isWhole _ _ _ _ unlimited
      all_goals
        rw [upstreamKinds_fillWindow]
      · exact discardsUpstream
      · exact answers
      · exact wholeAnswers

end NntpProxy.PerCommand
