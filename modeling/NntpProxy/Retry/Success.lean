import NntpProxy.Retry.Delivery

/-!
# Backends that answer, and clients that take everything

A backend may refuse connections and requests, but what it sends are whole responses.  A
client whose writer never fails then gets an answer to every request, and its writer stays
as it is.
-/

namespace NntpProxy.Retry

open Protocol Framing Transport Router Pool NntpProxy.Stream Transport.StreamingResponse

variable {pool : BufferPool}

/-! ## Clients -/

/-- The writer takes everything, and every flush succeeds. -/
structure Unlimited (client : ClientWriter) : Prop where
  capacity : client.sink.capacity = none
  flushes : client.sink.flushes = none

namespace Unlimited

variable {client : ClientWriter}

theorem accept (unlimited : Unlimited client) (bytes : Bytes) :
    Unlimited (client.accept bytes) := by
  constructor
  · simp [ClientWriter.accept, Sink.accept, unlimited.capacity]
  · exact unlimited.flushes

theorem writeAll (unlimited : Unlimited client) (bytes : Bytes) :
    client.sink.writeAll bytes = (true, client.sink.accept bytes) := by
  rcases client.sink.writeAll_cases bytes with ⟨-, written⟩ | ⟨room, limited, -⟩
  · exact written
  · cases unlimited.capacity.symm.trans limited

theorem flush (unlimited : Unlimited client) : client.sink.flush = (true, client.sink) := by
  simp [Sink.flush, unlimited.flushes]

end Unlimited

/-! ## Backends -/

/-- The response does not answer a request for a part of an article as `STAT` is answered. -/
def Fits {kind : RequestKind} (response : Response kind) : Prop :=
  response.status.value = 223 → [RequestKind.article, .body, .head].contains kind = false

/-- The whole responses to requests of these kinds. -/
inductive WholeAnswers : List RequestKind → Bytes → Prop where
  | done (later : Bytes) : WholeAnswers [] later
  | whole {kind : RequestKind} {kinds : List RequestKind} {later : Bytes}
      (response : Response kind) (fits : Fits response) (rest : WholeAnswers kinds later) :
      WholeAnswers (kind :: kinds) (response.bytes ++ later)

variable {kind : RequestKind} {response : Response kind} {kinds : List RequestKind}

variable {stream lost later : Bytes}

theorem WholeAnswers.head (answers : WholeAnswers (kind :: kinds) stream)
    (joined : stream ++ lost = response.bytes ++ later) (atEnd : lost ≠ [] → later = []) :
    lost = [] ∧ Fits response ∧ WholeAnswers kinds later := by
  cases answers with
  | @whole _ _ rest first fits answersRest =>
    rw [List.append_assoc] at joined
    rcases Response.bytes_append_inj joined with ⟨rfl, tail⟩
    have nothingLost : lost = [] := by
      by_contra isLost
      rw [atEnd isLost, List.append_eq_nil_iff] at tail
      exact isLost tail.2
    rw [nothingLost, List.append_nil] at tail
    exact ⟨nothingLost, fits, tail ▸ answersRest⟩

theorem WholeAnswers.nothingLost (answers : WholeAnswers kinds stream)
    (holds : Holds response lost kinds stream) : lost = [] := by
  induction holds with
  | here joined atEnd => exact (answers.head joined atEnd).1
  | @later first kinds stream before holds ih =>
    have joined : before.bytes ++ stream ++ [] = before.bytes ++ stream := List.append_nil _
    exact ih (answers.head joined (by simp)).2.2

/-- Every connection of a try holds whole responses to the requests that it is for. -/
def Try.Whole (attempt : Try pool) : Prop :=
  ∀ kinds connection, attempt.connect kinds = some connection →
    WholeAnswers kinds connection.conn.contents

/-- Every connection that is used in a pass holds whole responses. -/
structure Pass.Whole (pass : Pass pool) : Prop where
  first : ∀ id, (pass.first id).Whole
  again : ∀ id, (pass.again id).Whole
  probe : ∀ id, (pass.probe id).Whole

theorem Pass.Whole.nothingLost {pass : Pass pool} (isWhole : pass.Whole) {id : BackendId}
    (sends : Sends pass id response lost) : lost = [] := by
  rcases sends with ⟨attempt, isTry, kinds, connection, connected, holds⟩
  have tryWhole : attempt.Whole := by
    simp only [List.mem_cons, List.not_mem_nil, or_false] at isTry
    rcases isTry with rfl | rfl | rfl
    · exact isWhole.first id
    · exact isWhole.again id
    · exact isWhole.probe id
  exact (tryWhole kinds connection connected).nothingLost holds

/-! ## Reading a response -/

variable {classified : ClassifiedResponse pool} {conn : ConnectionStream pool}

theorem Read.observe_of_missing {rest : Bytes}
    (read : Read kinds stream classified conn response lost later rest)
    (missing : response.status.isArticleMissing = true) :
    ∃ next, classified.observe conn = (.ok (), next) := by
  rcases fromClassification_response read.follows read.classifies with ⟨state, stateEq, streams⟩
  have observed : state.observe.1 = .ok () := by
    unfold StreamingResponse.observe
    cases streams with
    | complete stop windowEq inside responseEq laterEq =>
      rw [windowEq]
      exact (Streams.queuePooled windowEq inside laterEq).1
    | incomplete seen front windowEq =>
      -- the window of a response without a body is complete
      have frameEq := read.classifies.frameEq
      rw [read.classifies.visibleEq, parse_eq_of_line, noBody_of_isArticleMissing missing]
        at frameEq
      simp only [StreamingResponse.fromClassification, frameEq, Bool.false_eq_true, if_false,
        Option.some.injEq] at stateEq
      rw [← stateEq] at windowEq
      cases windowEq
  refine ⟨state.observe.2.conn, ?_⟩
  rw [ClassifiedResponse.observe, stateEq]
  exact Prod.ext observed rfl

/-! ## Writing a response -/

/-- What writing does for a client that takes everything: it writes the response; or nothing
happened, which only keeping a copy can lead to, and the request goes on. -/
inductive WritesWhole {kind : RequestKind} (response : Response kind) (later : Bytes)
    (client : ClientWriter) (retains : Bool) :
    Except SessionError (ConnectionGuard pool) × ClientWriter → Prop where
  | whole (guard : ConnectionGuard pool) (contentsEq : guard.conn.contents = later) :
      WritesWhole response later client retains (.ok guard, client.accept response.bytes)
  | nothing (error : SessionError) (kept : retains = true) (goesOn : endsRequest error = false) :
      WritesWhole response later client retains (.error error, client)

theorem Read.writesWhole {rest : Bytes}
    (read : Read kinds stream classified conn response [] later rest) (retains : Bool)
    {client : ClientWriter} (unlimited : Unlimited client) :
    WritesWhole response later client retains
      (Retry.writeSuccessfulBackendResponse retains classified conn client) := by
  rcases read.transferred retains client with ⟨transfer, transferEq, written | ⟨kept, unwritten⟩⟩
  · unfold Retry.writeSuccessfulBackendResponse
    simp only [transferEq, ExchangeResult.ofTransfer]
    cases written with
    | whole resultEq clientEq fits cleaned =>
      have contentsEq := cleaned.contentsEq
      rw [List.append_nil] at contentsEq
      have flushed := (unlimited.accept response.bytes).flush
      rw [resultEq, clientEq]
      simp only [flushed]
      exact .whole _ contentsEq
    | failed room capacityEq short clientEq aligned =>
      cases unlimited.capacity.symm.trans capacityEq
    | cut front rest remainingEq started unsent clientEq fits isLost unfinished failure =>
      exact absurd rfl isLost
  · rcases unwritten.failure with ⟨cause, isFailure, resultEq⟩
    unfold Retry.writeSuccessfulBackendResponse
    simp only [transferEq, ExchangeResult.ofTransfer, resultEq, unwritten.clientEq]
    refine .nothing _ ?_ (endsRequest_of_isBackendFailure isFailure)
    rcases kept with kept | isLost
    · exact kept
    · exact absurd rfl isLost

/-! ## The retry loop -/

/-- An outcome after which the client still takes everything and the request goes on or has its
answer. -/
structure Unharmed {α : Type} (outcome : Except SessionError α × RetryState) : Prop where
  unlimited : Unlimited outcome.2.client
  goesOn : ∀ error, outcome.1 = .error error → endsRequest error = false

theorem unharmed_tryBackendForArticle (router : BackendSelector) (request : RequestContext)
    (retains : StatusCode → Bool) {pass : Pass pool} (isWhole : pass.Whole) {state : RetryState}
    (unlimited : Unlimited state.client) :
    Unharmed (tryBackendForArticle router request retains pass state) := by
  unfold tryBackendForArticle
  split
  · exact ⟨unlimited, by simp⟩
  next backend selected =>
    rcases prepareBackendAttempt_cases backend request pass (state.note backend) with
      preparedEq | ⟨classified, conn, further, stream, kind, response, lost, later, rest,
        preparedEq, sends, read, kindEq⟩
    · rw [preparedEq]
      exact ⟨unlimited, by simp⟩
    · rw [preparedEq]
      obtain rfl := isWhole.nothingLost sends
      simp only
      cases missing : response.status.isArticleMissing with
      | true =>
        simp only [if_true]
        split
        next error afterObserve observeEq =>
          refine ⟨unlimited, ?_⟩
          rintro other ⟨⟩
          exact endsRequest_of_isBackendFailure (isBackendFailure_observe observeEq)
        · exact ⟨unlimited, by simp⟩
      | false =>
        have writes : WritesWhole response later (state.note backend).client _ _ :=
          read.writesWhole (retains response.status) unlimited
        generalize Retry.writeSuccessfulBackendResponse (retains response.status) classified conn
          (state.note backend).client = written at writes
        cases writes with
        | whole guard contentsEq => exact ⟨unlimited.accept _, by simp⟩
        | nothing error kept goesOn =>
          cases error with
          | clientDisconnect cause => cases goesOn
          | backend transfer =>
            refine ⟨unlimited, ?_⟩
            rintro other ⟨⟩
            exact goesOn

theorem client_recordProbe (pass : Pass pool) (state : RetryState) (backend : BackendInfo) :
    (recordProbe pass state backend).client = state.client := by
  unfold recordProbe
  split <;> rfl

theorem client_sweepBeforeRetry (router : BackendSelector) (request : RequestContext)
    (pass : Pass pool) (state : RetryState) :
    (sweepBeforeRetry router request pass state).client = state.client := by
  have swept (backends : List BackendInfo) (state : RetryState) :
      (backends.foldl (recordProbe pass) state).client = state.client := by
    induction backends generalizing state with
    | nil => rfl
    | cons backend backends ih => rw [List.foldl_cons, ih, client_recordProbe]
  unfold sweepBeforeRetry parallelRetryStatSweep
  split
  · split
    · rfl
    · split
      · rfl
      · exact swept _ _
  · rfl

variable (router : BackendSelector) (request : RequestContext) (retains : StatusCode → Bool)
    {passes : Nat → Pass pool} (areWhole : ∀ index, (passes index).Whole)

include areWhole

theorem retryLoop_answers {fuel index : Nat} {state final : RetryState}
    {result : Except SessionError Answer} (unlimited : Unlimited state.client)
    (ran : retryLoop router request retains passes fuel index state = some (result, final)) :
    (∃ answer, result = .ok answer) ∧ Unlimited final.client := by
  induction fuel generalizing index state with
  | zero => cases ran
  | succ fuel ih =>
    unfold retryLoop at ran
    split at ran
    · rw [send430ToClient, unlimited.writeAll] at ran
      cases ran
      exact ⟨⟨_, rfl⟩, unlimited.accept _⟩
    · have swept : Unlimited (sweepBeforeRetry router request (passes index) state).client := by
        rw [client_sweepBeforeRetry]
        exact unlimited
      have unharmed := unharmed_tryBackendForArticle router request retains (areWhole index) swept
      generalize tryBackendForArticle router request retains (passes index)
        (sweepBeforeRetry router request (passes index) state) = outcome at ran unharmed
      rcases outcome with ⟨error | attempt, next⟩
      · simp only [unharmed.goesOn error rfl, Bool.false_eq_true, if_false] at ran
        exact ih unharmed.unlimited ran
      · have unlimitedNext : Unlimited next.client := unharmed.unlimited
        cases attempt with
        | success =>
          cases ran
          exact ⟨⟨_, rfl⟩, unlimitedNext⟩
        | articleNotFound =>
          exact ih (by exact unlimitedNext) ran
        | backendUnavailable =>
          exact ih (by exact unlimitedNext) ran
        | noRetryableBackend =>
          have unlimitedAfter := unlimitedNext.accept backendError
          have flushed : (next.client.sink.accept backendError).flush = _ :=
            unlimitedAfter.flush
          simp only [writeBackendErrorResponse, unlimitedNext.writeAll, flushed,
            Option.some.injEq, Prod.mk.injEq] at ran
          rcases ran with ⟨rfl, rfl⟩
          exact ⟨⟨_, rfl⟩, unlimitedAfter⟩

theorem executeArticleRetryLoop_answers (availability : Option ArticleAvailability)
    {client : ClientWriter} (unlimited : Unlimited client) :
    ∃ answer final text,
      executeArticleRetryLoop router request retains passes availability client =
          some (.ok answer, final) ∧
        AnswerText passes request.kind answer [] text ∧
        final.client.sink.accepted = client.sink.accepted ++ text ∧ Unlimited final.client := by
  rcases executeArticleRetryLoop_ran router request retains passes availability client with
    ⟨result, final, ran, finished⟩
  rcases retryLoop_answers router request retains areWhole unlimited finished with
    ⟨⟨answer, rfl⟩, unlimitedAfter⟩
  cases ran.delivery with
  | whole _ text isAnswer acceptedEq =>
    exact ⟨answer, final, text, finished, isAnswer, acceptedEq, unlimitedAfter⟩

end NntpProxy.Retry
