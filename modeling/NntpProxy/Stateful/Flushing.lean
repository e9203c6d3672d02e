import NntpProxy.Stateful.ReplyOrder

/-!
# Requests are flushed before the loop waits

Requests written to the backend are counted together with requests that are answered locally, and
the backend is flushed when the count reaches the depth of the pipeline, when only the backend is
read, and when the reader has no complete line at hand.  The count is never less than the number
of requests that wait for a flush, so the three places together are enough.
-/

namespace NntpProxy.Stateful

open Protocol Session Framing NntpProxy.Stream

namespace StatefulLoop

variable {handler : AuthHandler} {loop next start : StatefulLoop}

/-- The loop waits for octets: only the backend is read, or the reader has used up its buffer or
cannot complete a line from it. -/
def Blocks (loop : StatefulLoop) : Prop :=
  loop.exit = none ∧
    (loop.order.shouldDrainBackendReplies = true ∨ loop.buffered = [] ∨
      (loop.reader.readRound loop.buffered).1 = none)

/-- The loop while it handles an input, at the point where a request has been written. -/
def whileHandling (loop : StatefulLoop) : LoopInput → StatefulLoop
  | .client arrived =>
    let available := loop.available arrived
    let (line, consumed, reader) := loop.reader.readRound available
    let fed := { loop with
      reader := reader
      buffered := available.drop consumed
      access := authenticationAccess loop.identity loop.access }
    match line with
    | some (.ready request) =>
      if fed.access.canAccessBackend then fed.handleAuthenticatedStatefulRequest request else fed
    | _ => fed
  | _ => loop

/-- The loops at which a session rests, for any inputs in any order. -/
inductive Reachable (handler : AuthHandler) (start : StatefulLoop) : StatefulLoop → Prop where
  | start : Reachable handler start start.rest
  | step {loop : StatefulLoop} {input : LoopInput} (reached : Reachable handler start loop)
      (accepts : loop.Accepts input) : Reachable handler start (loop.step handler input)

/-! ## What is counted -/

/-- The count covers the unflushed requests and leaves room for one more. -/
def HasRoom (loop : StatefulLoop) : Prop :=
  loop.unflushed ≤ loop.pendingBackendWrites ∧
    loop.pendingBackendWrites < maxUpstreamPipelineDepth

/-- The bound on unflushed requests, with room while the loop goes on. -/
def Limited (loop : StatefulLoop) : Prop :=
  loop.unflushed ≤ maxUpstreamPipelineDepth ∧ (loop.exit = none → loop.HasRoom)

/-- At rest there is room, and nothing is left to flush if the loop has to wait. -/
structure Resting (loop : StatefulLoop) : Prop where
  limited : loop.Limited
  flushed : loop.exit = none → loop.order.shouldDrainBackendReplies = true ∨ lf ∉ loop.buffered →
    loop.unflushed = 0

def counts (loop : StatefulLoop) : Nat × Nat :=
  (loop.unflushed, loop.pendingBackendWrites)

theorem HasRoom.limited (hasRoom : loop.HasRoom) (sameCounts : next.counts = loop.counts) :
    next.Limited := by
  obtain ⟨sameUnflushed, samePending⟩ := Prod.mk.inj sameCounts
  have stillRoom : next.HasRoom := by rwa [HasRoom, sameUnflushed, samePending]
  exact ⟨stillRoom.1.trans stillRoom.2.le, fun _ => stillRoom⟩

/-- Sending to the client leaves the counts alone. -/
theorem Sent.counts_eq {bytes : Bytes} (sent : Sent loop bytes next) :
    next.counts = loop.counts := by
  cases sent with
  | whole client count _ nextEq => rw [nextEq, counts, counts]
  | failed client count _ _ _ nextEq => rw [nextEq, counts, counts]

theorem counts_handleStatefulAuthCheck (handler : AuthHandler) (loop : StatefulLoop)
    (request : RequestContext) :
    (handleStatefulAuthCheck handler loop request).counts = loop.counts := by
  have replied (reply : Bytes) := (sent_writeAuthReply loop reply).counts_eq
  unfold handleStatefulAuthCheck
  split
  next action =>
    split
    · rfl
    next result _ =>
      simp only [applyAuthResult]
      split
      · exact replied result.reply
      · split
        · exact replied result.reply
        · exact replied result.reply
  · exact replied _
  · exact replied _

theorem resting_of_exit (bounded : loop.unflushed ≤ maxUpstreamPipelineDepth)
    (ended : loop.exit.isSome = true) : loop.Resting := by
  have notRunning : loop.exit ≠ none := Option.isSome_iff_ne_none.mp ended
  exact ⟨⟨bounded, fun running => absurd running notRunning⟩,
    fun running => absurd running notRunning⟩

theorem resting_flushBackend (bounded : loop.unflushed ≤ maxUpstreamPipelineDepth) :
    loop.flushBackend.Resting := by
  unfold flushBackend
  rcases loop.backend.flush with ⟨_ | _, sink⟩
  · exact resting_of_exit bounded rfl
  · exact ⟨⟨Nat.zero_le _, fun _ => ⟨Nat.le_refl 0, Nat.zero_lt_succ 15⟩⟩, fun _ _ => rfl⟩

theorem handleAuthenticatedStatefulRequest_counts (running : loop.exit = none)
    (request : RequestContext) :
    (loop.handleAuthenticatedStatefulRequest request).unflushed ≤ loop.unflushed + 1 ∧
      (loop.handleAuthenticatedStatefulRequest request).pendingBackendWrites =
        loop.pendingBackendWrites := by
  have answered (reply : Bytes) : (loop.answerLocally reply).unflushed ≤ loop.unflushed + 1 ∧
      (loop.answerLocally reply).pendingBackendWrites = loop.pendingBackendWrites := by
    unfold answerLocally
    split
    · exact ⟨Nat.le_succ _, rfl⟩
    · have sameCounts := (sent_writeReply running reply).counts_eq
      exact ⟨(congrArg Prod.fst sameCounts).trans_le (Nat.le_succ _), congrArg Prod.snd sameCounts⟩
  unfold handleAuthenticatedStatefulRequest
  cases classifyAuthenticatedStatefulAction request loop.access with
  | forward =>
    rw [forwardRequest]
    rcases loop.backend.writeAll request.wire with ⟨_ | _, sink⟩
    · exact ⟨Nat.le_succ _, rfl⟩
    · exact ⟨Nat.le_refl _, rfl⟩
  | rejectAuthAlreadyAuthenticated => exact answered _
  | interceptCapabilities => exact answered _
  | reject response => exact answered response

/-! ## One step -/

theorem limited_handleRequest (hasRoom : loop.HasRoom) (running : loop.exit = none)
    (request : RequestContext) : (handleRequest handler loop request).Limited := by
  simp only [handleRequest]
  generalize authenticationAccess loop.identity loop.access = access
  split
  · obtain ⟨atMostOne, samePending⟩ :=
      @handleAuthenticatedStatefulRequest_counts { loop with access := access } running request
    generalize handleAuthenticatedStatefulRequest _ request = handled at atMostOne samePending ⊢
    have covered : handled.unflushed ≤ loop.pendingBackendWrites + 1 :=
      atMostOne.trans (Nat.succ_le_succ hasRoom.1)
    have bounded := covered.trans hasRoom.2
    split
    next ended => exact (resting_of_exit bounded ended).limited
    next =>
      simp only [countBackendWrite]
      split
      · exact Resting.limited (resting_flushBackend (by exact bounded))
      next notFull =>
        have stillRoom : handled.unflushed ≤ handled.pendingBackendWrites + 1 :=
          samePending ▸ covered
        exact ⟨bounded, fun _ => ⟨stillRoom, Nat.lt_of_not_le notFull⟩⟩
  · exact hasRoom.limited (counts_handleStatefulAuthCheck handler _ request)

theorem limited_handleLine (hasRoom : loop.HasRoom) (running : loop.exit = none)
    (line : StatefulClientLine) : (handleLine handler loop line).Limited := by
  cases line with
  | eof => exact hasRoom.limited rfl
  | oversized => exact hasRoom.limited rfl
  | invalid => exact hasRoom.limited rfl
  | ready request => exact limited_handleRequest hasRoom running request

theorem resting_rest (limited : loop.Limited) (running : loop.exit = none) : loop.rest.Resting := by
  have hasRoom := limited.2 running
  have sameCounts : loop.flushReadyReplies.counts = loop.counts := by
    simp only [flushReadyReplies]
    split
    · rfl
    · exact (sent_writePieces _ _).counts_eq
  have replied := hasRoom.limited sameCounts
  simp only [rest]
  generalize loop.flushReadyReplies = replies at replied ⊢
  split
  next ended => exact resting_of_exit replied.1 ended
  next goesOn =>
    rw [Option.not_isSome_iff_eq_none] at goesOn
    unfold flushBeforeWaiting
    split
    · exact resting_flushBackend replied.1
    next notFlushed =>
      refine ⟨replied, fun _ waits => ?_⟩
      have nothing : replies.pendingBackendWrites = 0 := by
        by_contra pending
        exact notFlushed ⟨pending, waits⟩
      exact Nat.eq_zero_of_le_zero (nothing ▸ (replied.2 goesOn).1)

theorem readRound_eq_none {reader : StatefulCommandReader} {available : Bytes}
    (noLine : (reader.readRound available).1 = none) : lf ∉ available := by
  unfold StatefulCommandReader.readRound at noLine
  by_cases isEmpty : available = []
  · rw [isEmpty]
    exact List.not_mem_nil
  rw [if_neg isEmpty] at noLine
  cases found : statusLineLen available with
  | some n =>
    simp only [found] at noLine
    split at noLine
    · cases noLine
    · split at noLine
      · cases noLine
      · cases noLine
  | none => exact statusLineLen_eq_none_iff.mp found

theorem Resting.step (resting : loop.Resting) {input : LoopInput} (accepts : loop.Accepts input) :
    (loop.step handler input).Resting := by
  cases input with
  | client arrived =>
    obtain ⟨running, notDraining, usedUp⟩ := accepts
    have hasRoom := resting.limited.2 running
    rcases round : loop.reader.readRound (loop.available arrived) with ⟨line, consumed, reader⟩
    cases line with
    | none =>
      have noLf : lf ∉ loop.available arrived := readRound_eq_none (congrArg Prod.fst round)
      have flushed : loop.unflushed = 0 := by
        apply resting.flushed running
        right
        by_cases isEmpty : loop.buffered = []
        · rw [isEmpty]
          exact List.not_mem_nil
        · rwa [available, if_neg isEmpty] at noLf
      simp only [StatefulLoop.step, round]
      exact ⟨hasRoom.limited rfl, fun _ _ => flushed⟩
    | some line =>
      have handled := @limited_handleLine handler
        { loop with reader := reader, buffered := (loop.available arrived).drop consumed }
        hasRoom running line
      simp only [StatefulLoop.step, round]
      split
      next ended => exact resting_of_exit handled.1 ended
      next goesOn => exact resting_rest handled (Option.not_isSome_iff_eq_none.mp goesOn)
  | clientReadError => exact resting_of_exit resting.limited.1 rfl
  | backend read =>
    cases read with
    | nil => exact resting_of_exit resting.limited.1 rfl
    | cons byte read =>
      have written : (loop.writeStatefulBackendBytes (byte :: read)).Limited :=
        (resting.limited.2 accepts).limited (sent_writePieces _ _).counts_eq
      simp only [StatefulLoop.step]
      split
      next ended => exact resting_of_exit written.1 ended
      next goesOn => exact resting_rest written (Option.not_isSome_iff_eq_none.mp goesOn)
  | backendReadError => exact resting_of_exit resting.limited.1 rfl

theorem Reachable.resting (running : start.exit = none) (flushed : start.unflushed = 0)
    (uncounted : start.pendingBackendWrites = 0) (reached : Reachable handler start loop) :
    loop.Resting := by
  induction reached with
  | start =>
    have hasRoom : start.HasRoom := by
      rw [HasRoom, flushed, uncounted]
      exact ⟨Nat.le_refl 0, Nat.zero_lt_succ 15⟩
    exact resting_rest (hasRoom.limited rfl) running
  | step _ accepts ih => exact ih.step accepts

theorem Resting.whileHandling (resting : loop.Resting) {input : LoopInput}
    (accepts : loop.Accepts input) :
    (loop.whileHandling input).unflushed ≤ maxUpstreamPipelineDepth := by
  cases input with
  | client arrived =>
    obtain ⟨running, -⟩ := accepts
    have hasRoom := resting.limited.2 running
    simp only [StatefulLoop.whileHandling]
    split
    next request _ =>
      split
      · exact (handleAuthenticatedStatefulRequest_counts (by exact running) request).1.trans
          (Nat.lt_of_le_of_lt hasRoom.1 hasRoom.2)
      · exact resting.limited.1
    · exact resting.limited.1
  | clientReadError => exact resting.limited.1
  | backend read => exact resting.limited.1
  | backendReadError => exact resting.limited.1

/-- A loop that waits for octets has flushed every request that it wrote, and at no point are more
requests unflushed than the depth of the pipeline. -/
theorem flushed_before_waiting (running : start.exit = none) (flushed : start.unflushed = 0)
    (uncounted : start.pendingBackendWrites = 0) (reached : Reachable handler start loop) :
    (loop.Blocks → loop.unflushed = 0) ∧ loop.unflushed ≤ maxUpstreamPipelineDepth ∧
      ∀ input, loop.Accepts input →
        (loop.whileHandling input).unflushed ≤ maxUpstreamPipelineDepth := by
  have resting := reached.resting running flushed uncounted
  refine ⟨fun blocks => ?_, resting.limited.1, fun _ accepts => resting.whileHandling accepts⟩
  apply resting.flushed blocks.1
  rcases blocks.2 with draining | usedUp | noLine
  · exact Or.inl draining
  · exact Or.inr (usedUp ▸ List.not_mem_nil)
  · exact Or.inr (readRound_eq_none noLine)

/-- Two lines of one read: the request of the first one is flushed once the second one was read. -/
theorem flushed_before_waiting_twoLines :
    (twoLineLoop 1).unflushed = 1 ∧ (twoLineLoop 2).Blocks ∧ (twoLineLoop 2).unflushed = 0 := by
  have begun : Reachable ⟨[], by decide⟩ unrestrictedLoop (twoLineLoop 0) := by
    have resting : unrestrictedLoop.rest = twoLineLoop 0 := by decide +kernel
    exact resting ▸ .start
  have first : Reachable ⟨[], by decide⟩ unrestrictedLoop (twoLineLoop 1) :=
    .step begun (by exact ⟨rfl, rfl, Or.inl rfl⟩ :
      (twoLineLoop 0).Accepts (.client (ascii "DATE\r\nCAPABILITIES\r\n")))
  have second : Reachable ⟨[], by decide⟩ unrestrictedLoop (twoLineLoop 2) :=
    .step first (by unfold Accepts; decide +kernel : (twoLineLoop 1).Accepts (.client []))
  have waits : (twoLineLoop 2).Blocks := by
    unfold Blocks
    decide +kernel
  exact ⟨by decide +kernel, waits, (flushed_before_waiting rfl rfl rfl second).1 waits⟩

end StatefulLoop

end NntpProxy.Stateful
