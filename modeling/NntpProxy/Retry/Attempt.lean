import NntpProxy.Retry.Loop
import NntpProxy.Transport.Alignment

/-!
# One attempt of the retry loop

What an attempt on a backend can do.  Either the backend answered and its response was
written to the client, or the client's writer or the backend failed in the middle of the
response, and then the request ends; or the client is as it was before, and then the
backend is marked so that it is not chosen again.
-/

namespace NntpProxy.Retry

open Protocol Framing Transport Router Pool NntpProxy.Stream Transport.StreamingResponse StatusCode

variable {pool : BufferPool}

/-! ## Reading a response -/

/-- The answers to requests of these kinds hold a response to one of them, all of it but
a tail of `lost` octets. -/
inductive Holds {kind : RequestKind} (response : Response kind) (lost : Bytes) :
    List RequestKind → Bytes → Prop where
  | here {kinds : List RequestKind} {stream later : Bytes}
      (joined : stream ++ lost = response.bytes ++ later) (atEnd : lost ≠ [] → later = []) :
      Holds response lost (kind :: kinds) stream
  | later {first : RequestKind} {kinds : List RequestKind} {stream : Bytes}
      (before : Response first) (holds : Holds response lost kinds stream) :
      Holds response lost (first :: kinds) (before.bytes ++ stream)

variable {stream : Bytes}

theorem parse_of_isPrefix {front : Bytes} (isFront : front <+: stream)
    (noStatus : parse stream = none) : parse front = none := by
  rcases isFront with ⟨rest, rfl⟩
  cases parsed : parse front with
  | none => rfl
  | some status =>
    rcases digits_of_parse parsed with ⟨first, second, third, tail, frontEq, -⟩
    rw [parse_append (by rw [frontEq]; simp), parsed] at noStatus
    cases noStatus

/-- A classified response of a stream that answers a request of this kind and requests
of further kinds. -/
structure Read {kind : RequestKind} (kinds : List RequestKind) (stream : Bytes)
    (classified : ClassifiedResponse pool) (conn : ConnectionStream pool)
    (response : Response kind) (lost later rest : Bytes) : Prop where
  classifies : Classifies response lost later classified conn rest
  joined : stream ++ lost = response.bytes ++ later
  atEnd : lost ≠ [] → later = []
  follows : requestKindHasResponseBody kind response.status = true → Follows later
  answers : lost = [] → Answers kinds later

variable {conn next : ConnectionStream pool} {classified : ClassifiedResponse pool}
    {kind : RequestKind}

theorem executeAndReadResponse_eq_some {sent : Bool}
    (readEq : executeAndReadResponse kind conn sent = some (classified, next)) :
    readFirst kind pool.acquire conn = (some classified, next) := by
  unfold executeAndReadResponse at readEq
  split at readEq
  · split at readEq
    · next found =>
        rw [found]
        simpa using readEq
    · cases readEq
  · cases readEq

variable {kinds : List RequestKind} {status : StatusCode}

theorem read_of_readsNext (answers : Answers (kind :: kinds) conn.contents)
    (reads : ReadsNext kind conn (some classified, next))
    (statusEq : classified.statusCode = some status) :
    ∃ (response : Response kind) (lost later rest : Bytes),
      Read kinds conn.contents classified next response lost later rest := by
  generalize contentsEq : conn.contents = stream at answers
  cases answers with
  | @whole _ _ later response follows rest =>
    have joined : conn.contents ++ [] = response.bytes ++ later := by simpa using contentsEq
    rcases reads.classifies joined with ⟨shown, classifies⟩
    exact ⟨response, [], later, shown, classifies, by simp, by simp, follows, fun _ => rest⟩
  | @cut _ _ _ lost response joined isLost =>
    have contentsEq : conn.contents ++ lost = response.bytes ++ [] := by
      rw [contentsEq, joined, List.append_nil]
    rcases reads.classifies contentsEq with ⟨shown, classifies⟩
    refine ⟨response, lost, [], shown, classifies, by simpa using joined, fun _ => rfl, ?_, ?_⟩
    · intro
      exact follows_streamOf []
    · exact fun nothingLost => absurd nothingLost isLost
  | invalid noStatus =>
    have isFront : classified.buffer.visible <+: stream := ⟨_, reads.shown.trans contentsEq⟩
    have unparsed := parse_of_isPrefix isFront noStatus
    rw [ClassifiedResponse.statusCode, reads.frameEq, ResponseFrame.parse, unparsed] at statusEq
    cases lineFound : statusLineLen classified.buffer.visible with
    | none => simp [lineFound] at statusEq
    | some lineLen => simp [lineFound] at statusEq

theorem read_of_statusCode {sent : Bool} (answers : Answers (kind :: kinds) conn.contents)
    (readEq : executeAndReadResponse kind conn sent = some (classified, next))
    (statusEq : classified.statusCode = some status) :
    ∃ (response : Response kind) (lost later rest : Bytes),
      Read kinds conn.contents classified next response lost later rest := by
  apply read_of_readsNext answers _ statusEq
  rw [← executeAndReadResponse_eq_some readEq]
  exact readFirst_readsNext kind pool.acquire conn

/-! ## Probing first -/

variable {later : Bytes} {response : Response kind}

variable {lost rest : Bytes}

/-- A probe that was read to its end leaves the answers to the further requests. -/
theorem Read.observe (read : Read kinds stream classified conn response lost later rest)
    (observeEq : classified.observe conn = (.ok (), next)) :
    stream = response.bytes ++ next.contents ∧ Answers kinds next.contents := by
  rcases fromClassification_response read.follows read.classifies with ⟨state, stateEq, streams⟩
  rw [ClassifiedResponse.observe, stateEq] at observeEq
  simp only [Prod.mk.injEq] at observeEq
  rcases observeEq with ⟨succeeded, rfl⟩
  have cleaned := (streams.observe succeeded).contentsEq
  have nothingLost : lost = [] := by
    by_contra isLost
    rw [read.atEnd isLost, List.append_eq_nil_iff] at cleaned
    exact isLost cleaned.2
  rw [nothingLost, List.append_nil] at cleaned
  have joined := read.joined
  rw [nothingLost, List.append_nil] at joined
  rw [cleaned]
  exact ⟨joined, read.answers nothingLost⟩

theorem observe_ok_statusCode (observeEq : classified.observe conn = (.ok (), next)) :
    ∃ status, classified.statusCode = some status := by
  unfold ClassifiedResponse.observe StreamingResponse.fromClassification at observeEq
  unfold ClassifiedResponse.statusCode
  cases frameEq : classified.frame with
  | error error => simp [frameEq] at observeEq
  | ok frame => cases frame <;> exact ⟨_, rfl⟩

/-- A connection of a backend in this pass held a response, all of it but a tail of
`lost` octets. -/
def Sends (pass : Pass pool) (id : BackendId) {kind : RequestKind} (response : Response kind)
    (lost : Bytes) : Prop :=
  ∃ attempt ∈ [pass.first id, pass.again id, pass.probe id],
    ∃ (kinds : List RequestKind) (connection : BackendConnection pool kinds),
      attempt.connect kinds = some connection ∧
        Holds response lost kinds connection.conn.contents

/-- The response of an attempt is one that the backend sent on the connection of the
attempt: the one to the request, unless a probe said that the article is missing. -/
theorem executeBackendAttempt_some {backend : BackendInfo} {request : RequestContext}
    {isRetryAttempt : Bool} {attempt : Try pool}
    (executed : executeBackendAttempt backend request isRetryAttempt attempt =
      some (classified, conn)) (statusEq : classified.statusCode = some status) :
    ∃ (kinds : List RequestKind) (connection : BackendConnection pool kinds)
      (further : List RequestKind) (stream : Bytes) (kind : RequestKind) (response : Response kind)
      (lost later rest : Bytes),
      attempt.connect kinds = some connection ∧
        Holds response lost kinds connection.conn.contents ∧
        Read further stream classified conn response lost later rest ∧
        (status.isArticleMissing = false → kind = request.kind) := by
  unfold executeBackendAttempt at executed
  split at executed
  · cases executed
  next first answers connectEq =>
    split at executed
    next probes =>
      have kindsEq : requestsOf backend request isRetryAttempt = [.stat, request.kind] :=
        if_pos probes
      rw [kindsEq] at answers
      split at executed
      · cases executed
      next probe afterProbe probeEq =>
        split at executed
        next missing =>
          rcases executed with ⟨rfl, rfl⟩
          rw [statusEq, Option.any_some] at missing
          rcases read_of_statusCode answers probeEq statusEq with
            ⟨response, lost, later, rest, read⟩
          refine ⟨_, _, _, _, _, response, lost, later, rest, connectEq, ?_, read, ?_⟩
          · change Holds response lost (requestsOf backend request isRetryAttempt) first.contents
            rw [kindsEq]
            exact .here read.joined read.atEnd
          · rw [missing]
            rintro ⟨⟩
        split at executed
        · cases executed
        next observed observeEq =>
          rcases observe_ok_statusCode observeEq with ⟨probeStatus, probeStatusEq⟩
          rcases read_of_statusCode answers probeEq probeStatusEq with
            ⟨probeResponse, lost, later, rest, probeRead⟩
          rcases probeRead.observe observeEq with ⟨streamEq, answers⟩
          rcases read_of_statusCode answers executed statusEq with
            ⟨response, lost, later, rest, read⟩
          refine ⟨_, _, _, _, _, response, lost, later, rest, connectEq, ?_, read, fun _ => rfl⟩
          change Holds response lost (requestsOf backend request isRetryAttempt) first.contents
          rw [kindsEq, streamEq]
          exact .later probeResponse (.here read.joined read.atEnd)
    next probes =>
      have kindsEq : requestsOf backend request isRetryAttempt = [request.kind] := if_neg probes
      rw [kindsEq] at answers
      rcases read_of_statusCode answers executed statusEq with ⟨response, lost, later, rest, read⟩
      refine ⟨_, _, _, _, _, response, lost, later, rest, connectEq, ?_, read, fun _ => rfl⟩
      change Holds response lost (requestsOf backend request isRetryAttempt) first.contents
      rw [kindsEq]
      exact .here read.joined read.atEnd

/-! ## Statuses -/

theorem Read.statusCode (read : Read kinds stream classified conn response lost later rest) :
    classified.statusCode = some response.status := by
  rw [ClassifiedResponse.statusCode, read.classifies.frameEq, read.classifies.visibleEq,
    parse_eq_of_line]
  by_cases hasBody : requestKindHasResponseBody kind response.status = true
  · rw [if_pos hasBody]
  · rw [if_neg hasBody]

theorem noBody_of_isArticleMissing (missing : status.isArticleMissing = true) :
    requestKindHasResponseBody kind status = false := by
  rw [isArticleMissing, decide_eq_true_eq] at missing
  apply requestKindHasResponseBody_of_isError
  simp [isError, missing]

theorem Read.nothingLost (read : Read kinds stream classified conn response lost later rest)
    (missing : response.status.isArticleMissing = true) : lost = [] := by
  by_contra isLost
  have joined := read.classifies.joined
  have ends := response.ends
  rw [noBody_of_isArticleMissing missing] at ends
  rw [ends, read.atEnd isLost, List.append_nil, List.append_eq_nil_iff] at joined
  exact isLost joined.2

/-! ## Failures of the backend -/

variable {error : ResponseTransferError} {state : StreamingResponse pool}

theorem isBackendFailure_frameRead {origin : Nat}
    {read : Bytes × PooledBuffer pool × ConnectionStream pool}
    (failed : (state.frameRead origin read).1 = .error error) : error.isBackendFailure = true := by
  unfold StreamingResponse.frameRead at failed
  split at failed
  · rw [← Except.error.inj failed]
    rfl
  · cases failed

theorem isBackendFailure_readNextChunk (failed : state.readNextChunk.1 = .error error) :
    error.isBackendFailure = true := by
  unfold StreamingResponse.readNextChunk at failed
  simp only at failed
  split at failed
  · rw [← Except.error.inj failed]
    exact state.isBackendFailure_endOfInput
  · exact isBackendFailure_frameRead failed

theorem isBackendFailure_drain
    (failed : state.drain.1 = .error error) : error.isBackendFailure = true := by
  induction bound : state.conn.contents.length using Nat.strongRecOn generalizing state with
  | _ length ih =>
    rw [StreamingResponse.drain] at failed
    split at failed
    · unfold StreamingResponse.queueNextResponseInput at failed
      simp only at failed
      split at failed
      · rw [← Except.error.inj failed]
        rfl
      · cases failed
    · split at failed
      next readFailed =>
        rw [← Except.error.inj failed]
        exact isBackendFailure_readNextChunk readFailed
      next succeeded =>
        exact ih _ (bound ▸ contents_lt_of_readNextChunk succeeded) failed rfl

/-- Reading a response without writing it fails only when the backend does. -/
theorem isBackendFailure_observe (observeEq : classified.observe conn = (.error error, next)) :
    error.isBackendFailure = true := by
  unfold ClassifiedResponse.observe at observeEq
  split at observeEq
  · simp only [Prod.mk.injEq, Except.error.injEq] at observeEq
    rw [← observeEq.1]
    rfl
  · simp only [Prod.mk.injEq] at observeEq
    have failed := observeEq.1
    unfold StreamingResponse.observe StreamingResponse.queuePooledNextResponseInput at failed
    split at failed
    · split at failed
      · split at failed
        · rw [← Except.error.inj failed]
          rfl
        · cases failed
      · cases failed
    · exact isBackendFailure_drain failed

@[simp]
theorem endsRequest_of_isBackendFailure
    (failed : error.isBackendFailure = true) : endsRequest (.ofTransfer error) = false := by
  cases error with
  | backendEof received => rfl
  | io => rfl
  | _ => cases failed

theorem endsRequest_fromClientWrite (error : IoErrorKind) :
    endsRequest (.ofTransfer (.fromClientWrite error)) = true := by
  cases error <;> rfl

theorem endsRequest_clientWriteUnpreserved (error : IoErrorKind) :
    endsRequest (.ofTransfer (.clientWriteUnpreserved error)) = true := by
  cases error <;> rfl

/-! ## Writing the response -/

/-- The writer takes no more octets, or cannot flush. -/
def Unwritable (client : ClientWriter) : Prop :=
  client.sink.capacity = some 0 ∨ client.sink.flushes = some 0

/-- What became of writing a response that has `later` behind it and of which `lost` octets
never arrive: the client has all of it; or it has a part of it and the request ends, as the
client is unwritable or the backend failed behind a part; or it has nothing of it and the
request goes on. -/
inductive Delivers {kind : RequestKind} (response : Response kind) (lost later : Bytes)
    (client : ClientWriter) : Except SessionError (ConnectionGuard pool) × ClientWriter → Prop
    where
  | whole (next : ConnectionGuard pool) (after : ClientWriter) (nothingLost : lost = [])
      (isComplete : next.phase = .complete) (contentsEq : next.conn.contents = later)
      (acceptedEq : after.sink.accepted = client.sink.accepted ++ response.bytes) :
      Delivers response lost later client (.ok next, after)
  | part (error : SessionError) (after : ClientWriter) (front rest : Bytes)
      (ends : endsRequest error = true) (isFront : front ++ rest = response.bytes)
      (acceptedEq : after.sink.accepted = client.sink.accepted ++ front)
      (spoiled : Unwritable after ∨ (front ≠ [] ∧ rest ≠ [] ∧ lost ≠ [])) :
      Delivers response lost later client (.error error, after)
  | nothing (error : SessionError) (goesOn : endsRequest error = false) :
      Delivers response lost later client (.error error, client)

theorem flush_false {sink next : Sink UInt8} (flushEq : sink.flush = (false, next)) :
    next = sink ∧ sink.flushes = some 0 := by
  unfold Sink.flush at flushEq
  split at flushEq
  · simp at flushEq
  · simp only [Prod.mk.injEq, true_and] at flushEq
    exact ⟨flushEq.symm, by assumption⟩
  · simp at flushEq

section

variable (read : Read kinds stream classified conn response lost later rest) (retains : Bool)
    (client : ClientWriter)

include read

/-- The transfer of a response that was read.  Nothing of it is written only when a copy is kept
or octets are lost. -/
theorem Read.transferred :
    ∃ transfer,
      (if retains then (classified.captureAndWrite conn client).1
        else classified.write conn client) = .ofTransfer transfer ∧
      (Written lost later response.bytes client 0 transfer ∨
        (retains = true ∨ lost ≠ []) ∧ Unwritten client transfer) := by
  cases retains with
  | true =>
    rcases classified.captureAndWrite_response client read.follows read.classifies with
      ⟨transfer, transferEq, written | unwritten⟩
    · exact ⟨transfer, transferEq, Or.inl written⟩
    · exact ⟨transfer, transferEq, Or.inr ⟨Or.inl rfl, unwritten⟩⟩
  | false =>
    rcases classified.write_response client read.follows read.classifies with
      ⟨transfer, transferEq, written | ⟨isLost, unwritten⟩⟩
    · exact ⟨transfer, transferEq, Or.inl written⟩
    · exact ⟨transfer, transferEq, Or.inr ⟨Or.inr isLost, unwritten⟩⟩

theorem Read.writeSuccessfulBackendResponse :
    Delivers response lost later client
      (writeSuccessfulBackendResponse retains classified conn client) := by
  rcases read.transferred retains client with ⟨transfer, transferEq, written | ⟨-, unwritten⟩⟩
  · unfold Retry.writeSuccessfulBackendResponse
    simp only [transferEq, ExchangeResult.ofTransfer]
    cases written with
    | whole resultEq clientEq fits cleaned =>
      have nothingLost : lost = [] := by
        by_contra isLost
        have contentsEq := cleaned.contentsEq
        rw [read.atEnd isLost, List.append_eq_nil_iff] at contentsEq
        exact isLost contentsEq.2
      have contentsEq := cleaned.contentsEq
      rw [nothingLost, List.append_nil] at contentsEq
      rw [resultEq, clientEq]
      simp only
      split
      next sink flushEq =>
        rcases flush_false flushEq with ⟨rfl, noFlush⟩
        exact .part _ _ response.bytes [] (endsRequest_fromClientWrite _) (List.append_nil _) rfl
          (Or.inl (Or.inr noFlush))
      next sink flushEq =>
        have acceptedEq := (client.accept response.bytes).sink.accepted_flush
        rw [flushEq] at acceptedEq
        exact .whole _ _ nothingLost (by simp [guardAfter, cleaned.isComplete]) contentsEq
          acceptedEq
    | failed room capacityEq short clientEq aligned =>
      have noRoom : Unwritable transfer.client := by
        left
        rw [clientEq]
        simp [ClientWriter.accept, Sink.accept, capacityEq, Nat.min_eq_left (Nat.le_of_lt short)]
      have acceptedEq : transfer.client.sink.accepted =
          client.sink.accepted ++ response.bytes.take room := by
        rw [clientEq]
        rfl
      rcases aligned with ⟨resultEq, -⟩ | resultEq
      · rw [resultEq]
        exact .part _ _ _ _ (endsRequest_fromClientWrite _) (List.take_append_drop room _)
          acceptedEq (Or.inl noRoom)
      · rw [resultEq]
        exact .part _ _ _ _ (endsRequest_clientWriteUnpreserved _)
          (List.take_append_drop room _) acceptedEq (Or.inl noRoom)
    | cut front rest remainingEq started unsent clientEq fits isLost unfinished failure =>
      rcases failure with ⟨cause, isFailure, resultEq⟩
      rw [resultEq]
      refine .part _ _ front rest rfl remainingEq ?_ (Or.inr ⟨started, unsent, isLost⟩)
      rw [clientEq]
      rfl
  · rcases unwritten.failure with ⟨cause, isFailure, resultEq⟩
    unfold Retry.writeSuccessfulBackendResponse
    simp only [transferEq, ExchangeResult.ofTransfer, resultEq, unwritten.clientEq]
    exact .nothing _ (endsRequest_of_isBackendFailure isFailure)

end

/-! ## The attempt -/

/-- A backend that may be tried: its slot is not known to miss the article and it did not
fail for this request. -/
structure Eligible (router : BackendSelector) (state : RetryState) (backend : BackendInfo) :
    Prop where
  isBackend : backend ∈ router.backends
  isAvailable : BackendSelector.isAvailable (some state.availability) state.unavailableBackends
    backend = true

/-- Everything that an attempt can do. -/
inductive Tried (router : BackendSelector) (request : RequestContext) (pass : Pass pool)
    (state : RetryState) : Except SessionError BackendAttemptResult × RetryState → Prop where
  | noBackend : Tried router request pass state (.ok .noRetryableBackend, state)
  | unavailable (backend : BackendInfo) (eligible : Eligible router state backend) :
      Tried router request pass state
        (.ok .backendUnavailable, (state.note backend).suppress backend.id)
  | missing (backend : BackendInfo) (eligible : Eligible router state backend)
      {kind : RequestKind} (response : Response kind)
      (saysMissing : response.status.isArticleMissing = true)
      (sends : Sends pass backend.id response [])
      (result : Except SessionError BackendAttemptResult)
      (goesOn : result = .ok .articleNotFound ∨
        ∃ error, result = .error error ∧ endsRequest error = false) :
      Tried router request pass state
        (result, (state.note backend).recordMissing backend.availabilitySlot)
  | failed (backend : BackendInfo) (eligible : Eligible router state backend)
      (error : SessionError) (goesOn : endsRequest error = false) :
      Tried router request pass state (.error error, (state.note backend).suppress backend.id)
  | answered (backend : BackendInfo) (eligible : Eligible router state backend)
      (response : Response request.kind) (sends : Sends pass backend.id response [])
      (after : ClientWriter)
      (acceptedEq : after.sink.accepted = state.client.sink.accepted ++ response.bytes) :
      Tried router request pass state (.ok .success, { state.note backend with client := after })
  | stopped (backend : BackendInfo) (eligible : Eligible router state backend)
      (error : SessionError) (ends : endsRequest error = true) (response : Response request.kind)
      (lost : Bytes) (sends : Sends pass backend.id response lost) (front rest : Bytes)
      (isFront : front ++ rest = response.bytes) (final : RetryState)
      (attemptsEq : final.attempts = (state.note backend).attempts)
      (availabilityEq : final.availability = state.availability)
      (acceptedEq : final.client.sink.accepted = state.client.sink.accepted ++ front)
      (spoiled : Unwritable final.client ∨ (front ≠ [] ∧ rest ≠ [] ∧ lost ≠ [])) :
      Tried router request pass state (.error error, final)

/-- A prepared attempt has a response that the backend sent; otherwise the backend is
suppressed. -/
theorem prepareBackendAttempt_cases (backend : BackendInfo) (request : RequestContext)
    (pass : Pass pool) (state : RetryState) :
    prepareBackendAttempt backend request pass state = (none, state.suppress backend.id) ∨
      ∃ (classified : ClassifiedResponse pool) (conn : ConnectionStream pool)
        (further : List RequestKind) (stream : Bytes) (kind : RequestKind)
        (response : Response kind) (lost later rest : Bytes),
        prepareBackendAttempt backend request pass state =
            (some (response.status, classified, conn), state) ∧
          Sends pass backend.id response lost ∧
          Read further stream classified conn response lost later rest ∧
          (response.status.isArticleMissing = false → kind = request.kind) := by
  unfold prepareBackendAttempt
  split
  · exact Or.inl rfl
  next classified conn executed =>
    cases statusEq : classified.statusCode with
    | none => exact Or.inl rfl
    | some status =>
      right
      have tried : ∃ attempt ∈ [pass.first backend.id, pass.again backend.id,
          pass.probe backend.id],
          executeBackendAttempt backend request state.isRetryAttempt attempt =
            some (classified, conn) := by
        rcases Option.or_eq_some_iff.mp executed with first | ⟨-, again⟩
        · exact ⟨_, by simp, first⟩
        · exact ⟨_, by simp, again⟩
      rcases tried with ⟨attempt, isTry, executed⟩
      rcases executeBackendAttempt_some executed statusEq with
        ⟨kinds, connection, further, stream, kind, response, lost, later, rest, connectEq, holds,
          read, kindEq⟩
      have sameStatus : status = response.status :=
        Option.some.inj (statusEq.symm.trans read.statusCode)
      subst sameStatus
      exact ⟨classified, conn, further, stream, kind, response, lost, later, rest, rfl,
        ⟨attempt, isTry, kinds, connection, connectEq, holds⟩, read, kindEq⟩

theorem tryBackendForArticle_tried (router : BackendSelector) (request : RequestContext)
    (retains : StatusCode → Bool) (pass : Pass pool) (state : RetryState) :
    Tried router request pass state (tryBackendForArticle router request retains pass state) := by
  unfold tryBackendForArticle
  split
  · exact .noBackend
  next backend selected =>
    rcases router.selectBackend_isAvailable selected with ⟨isBackend, isAvailable⟩
    have eligible : Eligible router state backend := ⟨isBackend, isAvailable⟩
    rcases prepareBackendAttempt_cases backend request pass (state.note backend) with
      preparedEq | ⟨classified, conn, further, stream, kind, response, lost, later, rest,
        preparedEq, sends, read, kindEq⟩
    · rw [preparedEq]
      exact .unavailable backend eligible
    · rw [preparedEq]
      simp only
      cases missing : response.status.isArticleMissing with
      | true =>
        rw [read.nothingLost missing] at sends
        simp only [if_true]
        split
        next error afterObserve observeEq =>
          exact .missing backend eligible response missing sends _ (Or.inr ⟨_, rfl,
            endsRequest_of_isBackendFailure (isBackendFailure_observe observeEq)⟩)
        · exact .missing backend eligible response missing sends _ (Or.inl rfl)
      | false =>
        have sameKind := kindEq missing
        subst sameKind
        have delivers := read.writeSuccessfulBackendResponse (retains response.status)
          (state.note backend).client
        generalize writeSuccessfulBackendResponse (retains response.status) classified conn
          (state.note backend).client = written at delivers
        cases delivers with
        | whole next after nothingLost isComplete contentsEq acceptedEq =>
          exact .answered backend eligible response (nothingLost ▸ sends) after acceptedEq
        | part error after front rest ends isFront acceptedEq spoiled =>
          cases error with
          | clientDisconnect cause =>
            exact .stopped backend eligible _ ends response lost sends front rest isFront _
              rfl rfl acceptedEq spoiled
          | backend transfer =>
            exact .stopped backend eligible _ ends response lost sends front rest isFront _
              rfl rfl acceptedEq spoiled
        | nothing error goesOn =>
          cases error with
          | clientDisconnect cause => cases goesOn
          | backend transfer => exact .failed backend eligible _ goesOn

end NntpProxy.Retry
