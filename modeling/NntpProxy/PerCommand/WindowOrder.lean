import NntpProxy.PerCommand.Window
import NntpProxy.Retry.Delivery

/-!
# Order in an article window

The requests without a reply on the connection are a queue: requests are written in the
order of the batch and their replies are read in that order, with at most sixteen of them
outstanding.  When the window ends without an error every request of the batch has exactly
one reply, in the order of the batch, whichever of the fallbacks was taken.
-/

namespace NntpProxy.PerCommand

open Protocol Framing Transport Router Pool Retry Data NntpProxy.Stream List Fifo

variable {pool : BufferPool}

/-! ## Replies -/

/-- What the requests of a window ask: each request and whether it is known to be missing. -/
def asked (entries : List WindowEntry) : List (RequestContext × Bool) :=
  entries.map fun entry => (entry.request, decide (entry.route = .knownMissing))

variable {rest : List WindowEntry} {entry : WindowEntry}

theorem asked_cons_of_missing (missing : entry.route = .knownMissing) :
    asked (entry :: rest) = (entry.request, true) :: asked rest := by
  simp [asked, missing]

theorem asked_cons_of_upstream {sent : Bool} (upstream : entry.route = .sendUpstream sent) :
    asked (entry :: rest) = (entry.request, false) :: asked rest := by
  simp [asked, upstream]

/-- Replies to requests that were executed by themselves, the first of which has this
number. -/
inductive Sequential (world : WindowWorld pool) :
    Nat → List RequestContext → List Bytes → Prop where
  | nil (index : Nat) : Sequential world index [] []
  | cons {index : Nat} {request : RequestContext} {requests : List RequestContext}
      {replies : List Bytes} (answer : Answer) (text : Bytes)
      (isAnswer : AnswerText (world.passes index) request.kind answer [] text)
      (rest : Sequential world (index + 1) requests replies) :
      Sequential world index (request :: requests) (text :: replies)

/-- Replies to requests whose window connection holds this stream: the local line for an
article that is known to be missing; the next response of the connection, or the local line
in its place when it says that the article is missing; and from some request on the replies
to requests that were executed by themselves. -/
inductive Replies (world : WindowWorld pool) :
    Nat → List (RequestContext × Bool) → Bytes → List Bytes → Prop where
  | nil (index : Nat) (stream : Bytes) : Replies world index [] stream []
  | knownMissing {index : Nat} {request : RequestContext} {requests : List (RequestContext × Bool)}
      {stream : Bytes} {replies : List Bytes}
      (rest : Replies world (index + 1) requests stream replies) :
      Replies world index ((request, true) :: requests) stream (noSuchArticle :: replies)
  | forwarded {index : Nat} {request : RequestContext} {requests : List (RequestContext × Bool)}
      {later : Bytes} {replies : List Bytes} (response : Response request.kind)
      (rest : Replies world (index + 1) requests later replies) :
      Replies world index ((request, false) :: requests) (response.bytes ++ later)
        ((if response.status.isArticleMissing then noSuchArticle else response.bytes) :: replies)
  | sequential {index : Nat} {requests : List (RequestContext × Bool)} {stream : Bytes}
      {replies : List Bytes} (rest : Sequential world index (requests.map (·.1)) replies) :
      Replies world index requests stream replies

variable {index : Nat} {world : WindowWorld pool}

theorem Sequential.length_eq {requests : List RequestContext} {replies : List Bytes}
    (sequential : Sequential world index requests replies) : replies.length = requests.length := by
  induction sequential with
  | nil index => rfl
  | cons answer text isAnswer rest ih => rw [length_cons, length_cons, ih]

variable {requests : List (RequestContext × Bool)}

theorem Replies.length_eq {stream : Bytes} {replies : List Bytes}
    (isReplies : Replies world index requests stream replies) :
    replies.length = requests.length := by
  induction isReplies with
  | nil index stream => rfl
  | knownMissing rest ih => rw [length_cons, length_cons, ih]
  | forwarded response rest ih => rw [length_cons, length_cons, ih]
  | sequential rest => rw [rest.length_eq, length_map]

/-- Executing requests one after the other always comes to an end, and each request has
one reply when there is no error. -/
theorem executeSequentially_replies (router : BackendSelector)
    (retains : RequestContext → StatusCode → Bool) (world : WindowWorld pool) (index : Nat)
    (requests : List RequestContext) (client : ClientWriter) :
    ∃ result after,
      executeSequentially router retains world index requests client = some (result, after) ∧
        (result = .ok () → ∃ replies, Sequential world index requests replies ∧
          after.sink.accepted = client.sink.accepted ++ replies.flatten) := by
  induction requests generalizing index client with
  | nil => exact ⟨_, _, rfl, fun _ => ⟨[], .nil index, by simp⟩⟩
  | cons request requests ih =>
    rcases executeArticleRetryLoop_ran router request (retains request) (world.passes index)
      (world.availability index) client with ⟨answered, final, ran, finished⟩
    rw [executeSequentially, finished]
    cases delivery : ran.delivery with
    | part error => exact ⟨_, _, rfl, fun succeeded => by cases succeeded⟩
    | whole answer text isAnswer acceptedEq =>
      rcases ih (index + 1) final.client with ⟨result, after, executed, restReplies⟩
      refine ⟨result, after, executed, fun succeeded => ?_⟩
      rcases restReplies succeeded with ⟨replies, sequential, afterEq⟩
      refine ⟨text :: replies, .cons answer text isAnswer sequential, ?_⟩
      rw [afterEq, acceptedEq, append_assoc]
      rfl

/-- What a window did: nothing but the queue discipline on the connection, and one reply to
each request unless there was an error. -/
structure Served (world : WindowWorld pool) (index : Nat) (requests : List (RequestContext × Bool))
    (stream : Bytes) (client : ClientWriter) (run : WindowRun pool) : Prop where
  replies : run.result = .ok () → ∃ replies, Replies world index requests stream replies ∧
    run.client.sink.accepted = client.sink.accepted ++ replies.flatten
  queued : ∃ queue, Fifo.run maxUpstreamArticleWindow [] run.trace = some queue
  inOrder : (Fifo.issued run.trace).Pairwise (· < ·)
  kept : ∀ guard, run.lease = some guard →
    guard.phase = .complete ∧ guard.conn.hasPendingBytes = false

variable {trace : List (Fifo.Event Nat)}

theorem retrySequentially_served (router : BackendSelector)
    (retains : RequestContext → StatusCode → Bool) (world : WindowWorld pool) (index : Nat)
    (entries : List WindowEntry) (stream : Bytes) (client : ClientWriter) {queue : List Nat}
    (queued : Fifo.run maxUpstreamArticleWindow [] trace = some queue)
    (inOrder : (Fifo.issued trace).Pairwise (· < ·)) :
    ∃ run, retrySequentially router retains world index entries client trace = some run ∧
      Served world index (asked entries) stream client run := by
  rcases executeSequentially_replies router retains world index (entries.map (·.request)) client
    with ⟨result, after, executed, replies⟩
  refine ⟨⟨result, after, trace, none⟩, ?_, ?_, ⟨queue, queued⟩, inOrder, by simp⟩
  · rw [retrySequentially, executed, Option.map_some]
  · intro succeeded
    rcases replies succeeded with ⟨texts, sequential, acceptedEq⟩
    refine ⟨texts, .sequential ?_, acceptedEq⟩
    simpa [asked, Function.comp_def] using sequential

theorem upstreamKinds_eq (entries : List WindowEntry) :
    upstreamKinds entries = (asked entries).filterMap fun request =>
      if request.2 then none else some request.1.kind := by
  induction entries with
  | nil => rfl
  | cons entry rest ih =>
    simp only [upstreamKinds, asked] at ih ⊢
    rw [map_cons, filterMap_cons, ih]
    cases entry.route <;> rfl

variable {entries : List WindowEntry}

theorem upstreamKinds_eq_of_asked_eq {others : List WindowEntry}
    (askedEq : asked entries = asked others) : upstreamKinds entries = upstreamKinds others := by
  rw [upstreamKinds_eq, askedEq, upstreamKinds_eq]

/-! ## One reply -/

/-- What forwarding a reply can do.  The client has nothing of a response that could not be
read. -/
inductive Forwarded (kind : RequestKind) (kinds : List RequestKind) (stream : Bytes)
    (client : ClientWriter) :
    Except AlreadySentResponseError (ConnectionGuard pool) × ClientWriter → Prop where
  | unread : Forwarded kind kinds stream client (.error .read, client)
  | failed (error : SessionError) (after : ClientWriter) :
      Forwarded kind kinds stream client (.error (.transfer error), after)
  | reply (response : Response kind) (next : ConnectionGuard pool) (after : ClientWriter)
      (isComplete : next.phase = .complete)
      (streamEq : stream = response.bytes ++ next.conn.contents)
      (answers : Answers kinds next.conn.contents)
      (acceptedEq : after.sink.accepted = client.sink.accepted ++
        if response.status.isArticleMissing then noSuchArticle else response.bytes) :
      Forwarded kind kinds stream client (.ok next, after)

theorem forwardResponseForAlreadySentRequest_forwarded {kind : RequestKind}
    {kinds : List RequestKind} {conn : ConnectionStream pool} (retains : StatusCode → Bool)
    (client : ClientWriter) (answers : Answers (kind :: kinds) conn.contents) :
    Forwarded kind kinds conn.contents client
      (forwardResponseForAlreadySentRequest kind retains conn client) := by
  have reads := readExchange_readsNext kind conn
  unfold forwardResponseForAlreadySentRequest
  split
  · exact .unread
  next classified next readEq =>
    rw [readEq] at reads
    cases statusEq : classified.statusCode with
    | none => exact .unread
    | some status =>
      rcases read_of_readsNext answers reads statusEq with ⟨response, lost, later, rest, read⟩
      have sameStatus : status = response.status :=
        Option.some.inj (statusEq.symm.trans read.statusCode)
      subst sameStatus
      simp only
      cases missing : response.status.isArticleMissing with
      | true =>
        simp only [if_true]
        split
        · exact .failed _ _
        next observed observeEq =>
          rcases read.observe observeEq with ⟨streamEq, restAnswers⟩
          split
          next written =>
            rw [Bool.and_eq_true] at written
            refine .reply response ⟨observed, .complete⟩ _ rfl streamEq restAnswers ?_
            have writeEq : client.sink.writeAll noSuchArticle =
                (true, (client.sink.writeAll noSuchArticle).2) := Prod.ext written.1 rfl
            rw [missing, if_pos rfl, ← accepted_of_writeAll writeEq]
            exact Sink.accepted_flush _
          · exact .failed _ _
      | false =>
        have delivers := read.writeSuccessfulBackendResponse (retains response.status) client
        generalize writeSuccessfulBackendResponse (retains response.status) classified next
          client = written at delivers
        cases delivers with
        | whole after afterClient nothingLost isComplete contentsEq acceptedEq =>
          have streamEq := read.joined
          rw [nothingLost, append_nil, ← contentsEq] at streamEq
          refine .reply response after afterClient isComplete streamEq ?_ ?_
          · rw [contentsEq]
            exact read.answers nothingLost
          · rw [missing]
            exact acceptedEq
        | part error after front rest => exact .failed _ _
        | nothing error goesOn => exact .failed _ _

/-! ## Filling the window -/

/-- The numbers of the requests that were sent and have no reply. -/
def sentIndices : Nat → List WindowEntry → List Nat
  | _, [] => []
  | index, entry :: rest =>
    if entry.route = .sendUpstream true then index :: sentIndices (index + 1) rest
    else sentIndices (index + 1) rest

/-- The requests for the backend that were sent are those below `bound`. -/
def SentBelow (bound : Nat) : Nat → List WindowEntry → Prop
  | _, [] => True
  | index, entry :: rest =>
    (∀ sent, entry.route = .sendUpstream sent → sent = decide (index < bound)) ∧
      SentBelow bound (index + 1) rest

variable {bound : Nat}

theorem SentBelow.sentIndices_eq_nil (sentBelow : SentBelow bound index entries)
    (above : bound ≤ index) : sentIndices index entries = [] := by
  induction entries generalizing index with
  | nil => rfl
  | cons entry rest ih =>
    rw [sentIndices, if_neg, ih sentBelow.2 (Nat.le_succ_of_le above)]
    intro sent
    have below := sentBelow.1 true sent
    simp only [true_eq_decide_iff] at below
    omega

theorem SentBelow.raise (sentBelow : SentBelow bound index entries) (above : bound ≤ index)
    (raised : Nat) (notPast : raised ≤ index) : SentBelow raised index entries := by
  induction entries generalizing index with
  | nil => trivial
  | cons entry rest ih =>
    refine ⟨fun sent routeEq => ?_,
      ih sentBelow.2 (Nat.le_succ_of_le above) (Nat.le_succ_of_le notPast)⟩
    rw [sentBelow.1 sent routeEq]
    simp only [decide_eq_decide]
    omega

/-- What filling a window does to its requests. -/
structure FillsTo (bound index inFlight : Nat) (entries : List WindowEntry) (filled : Filled)
    (raised : Nat) : Prop where
  le_raised : bound ≤ raised
  sentBelow : SentBelow raised index filled.entries
  sentEq : sentIndices index filled.entries = sentIndices index entries ++ filled.written
  inFlightEq : filled.inFlight = inFlight + filled.written.length
  notFuller : filled.inFlight ≤ maxUpstreamArticleWindow
  inOrder : filled.written.Pairwise (· < ·)
  between : ∀ number ∈ filled.written, bound ≤ number ∧ number < raised
  askedEq : asked filled.entries = asked entries

variable {inFlight : Nat}

theorem FillsTo.unchanged (sentBelow : SentBelow bound index entries)
    (notFull : inFlight ≤ maxUpstreamArticleWindow) (failed : Bool) :
    FillsTo bound index inFlight entries ⟨entries, inFlight, [], failed⟩ bound where
  le_raised := Nat.le_refl bound
  sentBelow := sentBelow
  sentEq := (append_nil _).symm
  inFlightEq := rfl
  notFuller := notFull
  inOrder := .nil
  between := by simp
  askedEq := rfl

variable {filled : Filled}

theorem FillsTo.skip {raised : Nat}
    (head : ∀ sent, entry.route = .sendUpstream sent → sent = true ∧ index < bound)
    (fills : FillsTo bound (index + 1) inFlight rest filled raised) :
    FillsTo bound index inFlight (entry :: rest)
      ⟨entry :: filled.entries, filled.inFlight, filled.written, filled.failed⟩ raised where
  le_raised := fills.le_raised
  sentBelow := by
    refine ⟨fun sent routeEq => ?_, fills.sentBelow⟩
    rcases head sent routeEq with ⟨rfl, below⟩
    exact (decide_eq_true (Nat.lt_of_lt_of_le below fills.le_raised)).symm
  sentEq := by
    simp only [sentIndices, fills.sentEq]
    split <;> rfl
  inFlightEq := fills.inFlightEq
  notFuller := fills.notFuller
  inOrder := fills.inOrder
  between := fills.between
  askedEq := by simpa [asked] using fills.askedEq

theorem FillsTo.write {raised : Nat} (unsent : entry.route = .sendUpstream false)
    (above : bound ≤ index) (sentBelow : SentBelow bound (index + 1) rest)
    (fills : FillsTo (index + 1) (index + 1) (inFlight + 1) rest filled raised) :
    FillsTo bound index inFlight (entry :: rest)
      ⟨{ entry with route := .sendUpstream true } :: filled.entries, filled.inFlight,
        index :: filled.written, filled.failed⟩ raised where
  le_raised := Nat.le_trans (Nat.le_succ_of_le above) fills.le_raised
  sentBelow := by
    refine ⟨fun sent routeEq => ?_, fills.sentBelow⟩
    rw [← ArticleWindowRequest.sendUpstream.inj routeEq]
    exact (decide_eq_true fills.le_raised).symm
  sentEq := by
    have nothingSent := sentBelow.sentIndices_eq_nil (Nat.le_succ_of_le above)
    simp [sentIndices, unsent, fills.sentEq, nothingSent]
  inFlightEq := by
    rw [fills.inFlightEq, length_cons]
    omega
  notFuller := fills.notFuller
  inOrder := pairwise_cons.mpr ⟨fun number isWritten => (fills.between number isWritten).1,
    fills.inOrder⟩
  between := by
    intro number isWritten
    rcases mem_cons.mp isWritten with rfl | later
    · exact ⟨above, fills.le_raised⟩
    · have range := fills.between number later
      exact ⟨by omega, range.2⟩
  askedEq := by simpa [asked, unsent] using fills.askedEq

theorem fillWindow_fillsTo (writes : Nat → Bool) (sentBelow : SentBelow bound index entries)
    (notFull : inFlight ≤ maxUpstreamArticleWindow) :
    ∃ raised, FillsTo bound index inFlight entries (fillWindow writes inFlight index entries)
      raised := by
  induction entries generalizing bound index inFlight with
  | nil => exact ⟨bound, .unchanged sentBelow notFull false⟩
  | cons entry rest ih =>
    unfold fillWindow
    split
    · exact ⟨bound, .unchanged sentBelow notFull false⟩
    next hasRoom =>
      split
      next unsent =>
        have above : bound ≤ index := by simpa using sentBelow.1 false unsent
        split
        · have raisedBelow := sentBelow.2.raise (Nat.le_succ_of_le above) (index + 1)
            (Nat.le_refl _)
          have hasOne : inFlight + 1 ≤ maxUpstreamArticleWindow := Nat.lt_of_not_le hasRoom
          rcases ih raisedBelow hasOne with ⟨raised, fills⟩
          exact ⟨raised, fills.write unsent above sentBelow.2⟩
        · exact ⟨bound, .unchanged sentBelow notFull true⟩
      next other =>
        rcases ih sentBelow.2 notFull with ⟨raised, fills⟩
        refine ⟨raised, fills.skip fun sent routeEq => ?_⟩
        cases sent with
        | false => exact absurd routeEq other
        | true => exact ⟨rfl, by simpa using sentBelow.1 true routeEq⟩

/-- When there are requests for the backend, none was sent and no write fails, one is
written. -/
theorem written_ne_nil {writes : Nat → Bool} (sentBelow : SentBelow bound index entries)
    (above : bound ≤ index) (hasRoom : inFlight < maxUpstreamArticleWindow)
    (someUpstream : upstreamKinds entries ≠ [])
    (succeeded : (fillWindow writes inFlight index entries).failed = false) :
    (fillWindow writes inFlight index entries).written ≠ [] := by
  induction entries generalizing index with
  | nil => exact absurd rfl someUpstream
  | cons entry rest ih =>
    unfold fillWindow at succeeded ⊢
    rw [if_neg (Nat.not_le_of_lt hasRoom)] at succeeded ⊢
    cases routeEq : entry.route with
    | knownMissing =>
      simp only [routeEq] at succeeded
      apply ih sentBelow.2 (Nat.le_succ_of_le above) _ succeeded
      rwa [upstreamKinds_cons_of_missing routeEq] at someUpstream
    | sendUpstream sent =>
      have unsent := sentBelow.1 sent routeEq
      rw [decide_eq_false (Nat.not_lt_of_le above)] at unsent
      subst unsent
      simp only [routeEq] at succeeded ⊢
      split at succeeded
      next writeSucceeds =>
        simp [writeSucceeds]
      · cases succeeded

/-! ## The loop over the replies -/

/-- The invariant of the loop: the requests that were sent and have no reply are the queue
of the connection and are counted, and the connection answers the requests that are left.
When nothing is outstanding the last response was complete. -/
structure Going (bound index inFlight : Nat) (entries : List WindowEntry)
    (guard : ConnectionGuard pool) (trace : List (Fifo.Event Nat)) : Prop where
  sentBelow : SentBelow bound index entries
  queued : run maxUpstreamArticleWindow [] trace = some (sentIndices index entries)
  countEq : inFlight = (sentIndices index entries).length
  inOrder : (issued trace).Pairwise (· < ·)
  below : ∀ number ∈ issued trace, number < bound
  answers : Answers (upstreamKinds entries) guard.conn.contents
  phase : guard.phase = .complete ∨ sentIndices index entries ≠ []

/-- The request at `index` was sent and is the next to get a reply. -/
structure Awaited (bound index inFlight : Nat) (rest : List WindowEntry)
    (trace : List (Fifo.Event Nat)) : Prop where
  sentBelow : SentBelow bound (index + 1) rest
  queued : run maxUpstreamArticleWindow [] trace = some (index :: sentIndices (index + 1) rest)
  countEq : inFlight = (sentIndices (index + 1) rest).length + 1
  inOrder : (issued trace).Pairwise (· < ·)
  below : ∀ number ∈ issued trace, number < bound

variable {client after : ClientWriter}

section Loop

variable {bound index inFlight : Nat} {entry : WindowEntry} {rest : List WindowEntry}
  {guard : ConnectionGuard pool} {trace : List (Fifo.Event Nat)}

section

variable (going : Going bound index inFlight (entry :: rest) guard trace)

include going

theorem Going.skipMissing (missing : entry.route = .knownMissing) :
    Going bound (index + 1) inFlight rest guard trace := by
  have sentEq : sentIndices index (entry :: rest) = sentIndices (index + 1) rest := by
    simp [sentIndices, missing]
  exact ⟨going.sentBelow.2, sentEq ▸ going.queued, sentEq ▸ going.countEq, going.inOrder,
    going.below, upstreamKinds_cons_of_missing missing ▸ going.answers, sentEq ▸ going.phase⟩

theorem Going.awaited_of_sent
    (sent : entry.route = .sendUpstream true) : Awaited bound index inFlight rest trace := by
  have sentEq : sentIndices index (entry :: rest) = index :: sentIndices (index + 1) rest := by
    simp [sentIndices, sent]
  exact ⟨going.sentBelow.2, sentEq ▸ going.queued, by rw [going.countEq, sentEq]; rfl,
    going.inOrder, going.below⟩

/-- A request that was not sent with the others is written when its turn comes; then
nothing is outstanding. -/
theorem Going.awaited_of_unsent (unsent : entry.route = .sendUpstream false) :
    Awaited (index + 1) index (inFlight + 1) rest (trace ++ [.issue index]) := by
  have above : bound ≤ index := by simpa using going.sentBelow.1 false unsent
  have nothingSent := going.sentBelow.sentIndices_eq_nil above
  have nothingLater := going.sentBelow.2.sentIndices_eq_nil (Nat.le_succ_of_le above)
  have queued := going.queued
  have countEq := going.countEq
  rw [nothingSent] at queued countEq
  refine ⟨going.sentBelow.2.raise (Nat.le_succ_of_le above) _ (Nat.le_refl _), ?_, ?_, ?_, ?_⟩
  · rw [run_append, queued, nothingLater]
    rfl
  · rw [countEq, nothingLater]
  · rw [issued_append]
    refine pairwise_append.mpr ⟨going.inOrder, pairwise_singleton _ _, ?_⟩
    intro number isIssued other isLast
    rw [mem_singleton.mp isLast]
    exact Nat.lt_of_lt_of_le (going.below number isIssued) above
  · intro number isIssued
    rw [issued_append, mem_append] at isIssued
    rcases isIssued with earlier | last
    · exact Nat.lt_succ_of_le (Nat.le_of_lt (Nat.lt_of_lt_of_le (going.below number earlier) above))
    · rw [mem_singleton.mp last]
      exact Nat.lt_succ_self index

end

theorem Awaited.queued_await (awaited : Awaited bound index inFlight rest trace) :
    run maxUpstreamArticleWindow [] (trace ++ [.await index]) =
      some (index :: sentIndices (index + 1) rest) := by
  rw [run_append, awaited.queued]
  exact run_await _ _ _

theorem Awaited.issued_await (awaited : Awaited bound index inFlight rest trace) :
    (issued (trace ++ [.await index])).Pairwise (· < ·) := by
  simpa [issued] using awaited.inOrder

/-- After a reply further requests are written, and the loop goes on behind it. -/
theorem Awaited.refill {next : ConnectionGuard pool} {raised : Nat}
    (awaited : Awaited bound index (inFlight + 1) rest trace)
    (fills : FillsTo bound (index + 1) inFlight rest filled raised)
    (isComplete : next.phase = .complete)
    (answers : Answers (upstreamKinds filled.entries) next.conn.contents) :
    Going raised (index + 1) filled.inFlight filled.entries
      (if filled.written.isEmpty then next else next.streamMut next.conn)
      (trace ++ [.await index] ++ [.settle index] ++ filled.written.map .issue) := by
  have countEq : inFlight = (sentIndices (index + 1) rest).length :=
    Nat.succ.inj awaited.countEq
  have lengthEq : (sentIndices (index + 1) rest ++ filled.written).length = filled.inFlight := by
    rw [length_append, fills.inFlightEq, countEq]
  have issuedEq : issued (trace ++ [.await index] ++ [.settle index] ++
      filled.written.map .issue) = issued trace ++ filled.written := by
    simp [issued]
  refine ⟨fills.sentBelow, ?_, ?_, ?_, ?_, ?_, ?_⟩
  · rw [append_assoc trace, run_append, run_append, awaited.queued, Option.bind_some]
    change (run _ _ [.await index, .settle index]).bind _ = _
    rw [run_settle, fills.sentEq]
    exact run_issue (Or.inr (lengthEq ▸ fills.notFuller))
  · rw [fills.sentEq, lengthEq]
  · rw [issuedEq]
    refine pairwise_append.mpr ⟨awaited.inOrder, fills.inOrder, ?_⟩
    intro earlier isEarlier later isLater
    exact Nat.lt_of_lt_of_le (awaited.below earlier isEarlier) (fills.between later isLater).1
  · intro number isIssued
    rw [issuedEq, mem_append] at isIssued
    rcases isIssued with earlier | later
    · exact Nat.lt_of_lt_of_le (awaited.below number earlier) fills.le_raised
    · exact (fills.between number later).2
  · split <;> exact answers
  · by_cases nothing : filled.written = []
    · left
      rw [nothing]
      exact isComplete
    · right
      rw [fills.sentEq]
      simp [nothing]

theorem Served.afterReply {request : RequestContext} {run : WindowRun pool} {later : Bytes}
    (response : Response request.kind) (acceptedEq : after.sink.accepted = client.sink.accepted ++
      if response.status.isArticleMissing then noSuchArticle else response.bytes)
    (served : Served world (index + 1) requests later after run) :
    Served world index ((request, false) :: requests) (response.bytes ++ later) client run := by
  refine ⟨fun succeeded => ?_, served.queued, served.inOrder, served.kept⟩
  rcases served.replies succeeded with ⟨replies, isReplies, runEq⟩
  refine ⟨_, .forwarded response isReplies, ?_⟩
  rw [runEq, acceptedEq, flatten_cons, append_assoc]

theorem Served.afterMissing {request : RequestContext} {run : WindowRun pool} {stream : Bytes}
    (acceptedEq : after.sink.accepted = client.sink.accepted ++ noSuchArticle)
    (served : Served world (index + 1) requests stream after run) :
    Served world index ((request, true) :: requests) stream client run := by
  refine ⟨fun succeeded => ?_, served.queued, served.inOrder, served.kept⟩
  rcases served.replies succeeded with ⟨replies, isReplies, runEq⟩
  refine ⟨_, .knownMissing isReplies, ?_⟩
  rw [runEq, acceptedEq, flatten_cons, append_assoc]

theorem served_of_error {stream : Bytes} {error : SessionError} {queue : List Nat}
    (queued : Fifo.run maxUpstreamArticleWindow [] trace = some queue)
    (inOrder : (Fifo.issued trace).Pairwise (· < ·)) :
    Served world index requests stream client ⟨.error error, after, trace, none⟩ :=
  ⟨fun succeeded => (by cases succeeded), ⟨queue, queued⟩, inOrder, by simp⟩

end Loop

/-- The requests after the one whose reply was read. -/
theorem Awaited.inFlight_eq (awaited : Awaited bound index inFlight rest trace) :
    ∃ left, inFlight = left + 1 ∧ left ≤ maxUpstreamArticleWindow := by
  refine ⟨_, awaited.countEq, ?_⟩
  have within := length_le_of_run (Nat.zero_le _) awaited.queued
  exact Nat.le_of_succ_le within

variable {guard : ConnectionGuard pool}

theorem writeUnsentRequest_cases {sent : Bool} (world : WindowWorld pool)
    (going : Going bound index inFlight (entry :: rest) guard trace)
    (routeEq : entry.route = .sendUpstream sent) :
    (∃ failedTrace queue, writeUnsentRequest world index inFlight sent trace = .error failedTrace ∧
        run maxUpstreamArticleWindow [] failedTrace = some queue ∧
        (issued failedTrace).Pairwise (· < ·)) ∨
      ∃ awaitedBound counted awaitedTrace,
        writeUnsentRequest world index inFlight sent trace = .ok (counted, awaitedTrace) ∧
          Awaited awaitedBound index counted rest awaitedTrace := by
  unfold writeUnsentRequest
  cases sent with
  | true => exact Or.inr ⟨bound, inFlight, trace, rfl, going.awaited_of_sent routeEq⟩
  | false =>
    have awaited := going.awaited_of_unsent routeEq
    simp only [Bool.false_eq_true, if_false]
    split
    · exact Or.inl ⟨_, _, rfl, going.queued, going.inOrder⟩
    split
    · exact Or.inl ⟨_, _, rfl, awaited.queued, awaited.inOrder⟩
    · exact Or.inr ⟨_, _, _, rfl, awaited⟩

theorem forwardSentArticleWindowResponses_served (router : BackendSelector)
    (retains : RequestContext → StatusCode → Bool) (world : WindowWorld pool)
    (client : ClientWriter) (going : Going bound index inFlight entries guard trace) :
    ∃ run, forwardSentArticleWindowResponses router retains world index inFlight entries guard
        client trace = some run ∧
      Served world index (asked entries) guard.conn.contents client run := by
  -- the induction is on the number of requests that are left, as the loop counts them
  induction count : entries.length generalizing bound index inFlight entries guard client trace with
  | zero =>
    obtain rfl := length_eq_zero_iff.mp count
    rw [forwardSentArticleWindowResponses]
    split
    · exact ⟨_, rfl, served_of_error going.queued going.inOrder⟩
    next sink flushEq =>
      have kept := client.sink.accepted_flush
      rw [flushEq] at kept
      refine ⟨_, rfl, fun _ => ⟨[], .nil index _, ?_⟩, ⟨_, going.queued⟩, going.inOrder, ?_⟩
      · rw [flatten_nil, append_nil]
        exact kept
      · intro lease isKept
        simp only [Option.ite_none_left_eq_some, Option.some.injEq] at isKept
        rcases isKept with ⟨nothingPending, rfl⟩
        exact ⟨going.phase.resolve_right fun outstanding => outstanding rfl,
          Bool.eq_false_iff.mpr nothingPending⟩
  | succ left ih =>
    rcases exists_cons_of_length_eq_add_one count with ⟨entry, rest, rfl⟩
    rw [forwardSentArticleWindowResponses]
    split
    next missing =>
      rw [asked_cons_of_missing missing]
      split
      · exact ⟨_, rfl, served_of_error going.queued going.inOrder⟩
      next sink writeEq =>
        rcases ih { client with sink := sink } (going.skipMissing missing)
          (Nat.succ.inj count) with ⟨run, runEq, served⟩
        exact ⟨run, runEq, served.afterMissing (accepted_of_writeAll writeEq)⟩
    next sent routeEq =>
      have answers := going.answers
      rw [upstreamKinds_cons_of_upstream routeEq] at answers
      rcases writeUnsentRequest_cases world going routeEq with
        ⟨failedTrace, queue, writeEq, queued, inOrder⟩ |
          ⟨awaitedBound, counted, awaitedTrace, writeEq, awaited⟩
      · rw [writeEq]
        exact retrySequentially_served router retains world index _ _ client queued inOrder
      · rw [writeEq]
        have forwarded := forwardResponseForAlreadySentRequest_forwarded
          (retains entry.request) client answers
        generalize forwardResponseForAlreadySentRequest entry.request.kind
          (retains entry.request) guard.conn client = outcome at forwarded
        cases forwarded with
        | unread =>
          exact retrySequentially_served router retains world index _ _ client
            awaited.queued_await awaited.issued_await
        | failed error after =>
          exact ⟨_, rfl, served_of_error awaited.queued_await awaited.issued_await⟩
        | reply response next after isComplete streamEq restAnswers acceptedEq =>
          rcases awaited.inFlight_eq with ⟨others, rfl, within⟩
          rcases fillWindow_fillsTo world.writes awaited.sentBelow within with ⟨raised, fills⟩
          have kindsEq := upstreamKinds_eq_of_asked_eq fills.askedEq
          have goesOn := awaited.refill fills isComplete (kindsEq ▸ restAnswers)
          rw [asked_cons_of_upstream routeEq, streamEq, ← fills.askedEq]
          simp only
          split
          · rcases retrySequentially_served router retains world (index + 1) _
              next.conn.contents after goesOn.queued goesOn.inOrder with ⟨run, runEq, served⟩
            exact ⟨run, runEq, served.afterReply response acceptedEq⟩
          · have fewer := (length_fillWindow world.writes others (index + 1) rest).trans
              (Nat.succ.inj count)
            rcases ih after goesOn fewer with ⟨run, runEq, served⟩
            rw [ConnectionGuard.conn_ite_streamMut] at served
            exact ⟨run, runEq, served.afterReply response acceptedEq⟩

/-! ## Whole windows -/

theorem writeKnownMissingResponses_served (world : WindowWorld pool) (index : Nat)
    (entries : List WindowEntry) (stream : Bytes) (client : ClientWriter)
    (allMissing : ∀ entry ∈ entries, entry.route = .knownMissing) :
    Served world index (asked entries) stream client
      ⟨(writeKnownMissingResponses client entries.length).1,
        (writeKnownMissingResponses client entries.length).2, [], none⟩ := by
  induction entries generalizing index client with
  | nil =>
    rw [length_nil, writeKnownMissingResponses]
    split
    · exact served_of_error rfl .nil
    next sink flushEq =>
      have kept := client.sink.accepted_flush
      rw [flushEq] at kept
      refine ⟨fun _ => ⟨[], .nil index _, ?_⟩, ⟨[], rfl⟩, .nil, by simp⟩
      rw [flatten_nil, append_nil]
      exact kept
  | cons entry rest ih =>
    have missing := allMissing entry mem_cons_self
    rw [length_cons, writeKnownMissingResponses, asked_cons_of_missing missing]
    split
    · exact served_of_error rfl .nil
    next sink writeEq =>
      have served := ih (index + 1) { client with sink := sink }
        fun other isOther => allMissing other (mem_cons_of_mem _ isOther)
      exact served.afterMissing (accepted_of_writeAll writeEq)

section

variable (slot : AvailabilitySlot) (batch : List (RequestContext × ArticleAvailability))

theorem sentBelow_route (index : Nat) :
    SentBelow 0 index (routeArticleWindowRequests slot batch) := by
  induction batch generalizing index with
  | nil => trivial
  | cons request batch ih =>
    refine ⟨?_, ih (index + 1)⟩
    intro sent routeEq
    by_cases missing : request.2.isMissingSlot slot = true
    · simp [missing] at routeEq
    · simpa [missing] using routeEq.symm

theorem asked_route :
    asked (routeArticleWindowRequests slot batch) =
      batch.map fun entry => (entry.1, entry.2.isMissingSlot slot) := by
  simp only [asked, routeArticleWindowRequests, map_map, map_inj_left]
  intro entry isEntry
  cases missing : entry.2.isMissingSlot slot <;> simp [missing]

end

/-- The octets that the connection of a window delivers. -/
def WindowWorld.stream (world : WindowWorld pool) (entries : List WindowEntry) : Bytes :=
  match world.checkout (upstreamKinds entries) with
  | none => []
  | some connection => connection.conn.contents

variable (router : BackendSelector) (retains : RequestContext → StatusCode → Bool)
    (world : WindowWorld pool) (slot : AvailabilitySlot)
    (batch : List (RequestContext × ArticleAvailability)) (client : ClientWriter)

theorem executeArticleWindow_served :
    ∃ run, executeArticleWindow router retains world slot batch client = some run ∧
      Served world 0 (asked (routeArticleWindowRequests slot batch))
        (world.stream (routeArticleWindowRequests slot batch)) client run := by
  have nothingSent := sentBelow_route slot batch 0
  unfold executeArticleWindow
  generalize routeArticleWindowRequests slot batch = entries at nothingSent ⊢
  simp only
  split
  next noneUpstream =>
    refine ⟨_, rfl, writeKnownMissingResponses_served world 0 entries _ client ?_⟩
    intro entry isEntry
    cases upstream : entry.route with
    | knownMissing => rfl
    | sendUpstream sent =>
      have isKind : entry.request.kind ∈ upstreamKinds entries :=
        mem_filterMap.mpr ⟨entry, isEntry, by rw [upstream]⟩
      rw [isEmpty_iff.mp noneUpstream] at isKind
      cases isKind
  next someUpstream =>
    split
    · exact retrySequentially_served router retains world 0 entries _ client rfl .nil
    next conn answers connectEq =>
      have streamEq : world.stream entries = conn.contents := by
        simp only [WindowWorld.stream, connectEq]
      rcases fillWindow_fillsTo world.writes nothingSent (Nat.zero_le _) with ⟨raised, fills⟩
      have sentEq := fills.sentEq
      rw [nothingSent.sentIndices_eq_nil (Nat.le_refl 0), nil_append] at sentEq
      have countEq := fills.inFlightEq
      rw [Nat.zero_add] at countEq
      have queued : Fifo.run maxUpstreamArticleWindow []
          ((fillWindow world.writes 0 0 entries).written.map .issue) =
            some (sentIndices 0 (fillWindow world.writes 0 0 entries).entries) := by
        rw [sentEq]
        exact Fifo.run_issue (Or.inr (countEq ▸ fills.notFuller))
      have inOrder : (Fifo.issued ((fillWindow world.writes 0 0 entries).written.map
          Fifo.Event.issue)).Pairwise (· < ·) := by
        rw [Fifo.issued_map_issue]
        exact fills.inOrder
      split
      · exact retrySequentially_served router retains world 0 entries _ client queued inOrder
      next succeeded =>
        rw [streamEq, ← fills.askedEq]
        apply forwardSentArticleWindowResponses_served router retains world client
        refine ⟨fills.sentBelow, queued, ?_, inOrder, ?_, ?_, Or.inr ?_⟩
        · rw [sentEq, countEq]
        · rw [Fifo.issued_map_issue]
          exact fun number isWritten => (fills.between number isWritten).2
        · rw [upstreamKinds_eq_of_asked_eq fills.askedEq]
          exact answers
        · rw [sentEq]
          apply written_ne_nil nothingSent (Nat.le_refl 0) (by decide)
          · simpa using someUpstream
          · simp only [Bool.or_eq_true, not_or] at succeeded
            exact Bool.eq_false_iff.mpr succeeded.1

/-- For every batch, whatever fails, a window serves its requests.  Unless it ends with an
error the client received exactly one reply to each request, in the order of the batch.
Requests are written to the connection in the order of the batch; no reply is read before
its request was written; and at every moment the requests with a reply are the first of
those that were written and at most sixteen more were written.  The counter of requests
without a reply never becomes negative, as the window has an outcome. -/
theorem articleWindow_replies_in_order :
    ∃ run, executeArticleWindow router retains world slot batch client = some run ∧
      (run.result = .ok () → ∃ replies,
        Replies world 0 (batch.map fun entry => (entry.1, entry.2.isMissingSlot slot))
            (world.stream (routeArticleWindowRequests slot batch)) replies ∧
          replies.length = batch.length ∧
          run.client.sink.accepted = client.sink.accepted ++ replies.flatten) ∧
      (Fifo.issued run.trace).Pairwise (· < ·) ∧
      (∀ before index after, run.trace = before ++ .await index :: after →
        index ∈ Fifo.issued before) ∧
      (∀ front rest, run.trace = front ++ rest → Fifo.settled front <+: Fifo.issued front ∧
        (Fifo.issued front).length ≤ (Fifo.settled front).length + maxUpstreamArticleWindow) := by
  rcases executeArticleWindow_served router retains world slot batch client with
    ⟨run, runEq, served⟩
  rcases served.queued with ⟨queue, queued⟩
  refine ⟨run, runEq, ?_, served.inOrder, ?_, ?_⟩
  · intro succeeded
    rcases served.replies succeeded with ⟨replies, isReplies, acceptedEq⟩
    rw [asked_route] at isReplies
    exact ⟨replies, isReplies, by simpa using isReplies.length_eq, acceptedEq⟩
  · intro before index after traceEq
    rw [traceEq] at queued
    exact Fifo.mem_issued_of_await queued
  · intro front rest traceEq
    rw [traceEq] at queued
    exact Fifo.settled_isPrefix_of_run queued

end NntpProxy.PerCommand
