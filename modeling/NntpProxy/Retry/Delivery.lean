import NntpProxy.Retry.Attempt

/-!
# What the retry loop delivers

Every pass of the loop that does not end the request leaves the client as it was and one
backend less to try, so that the loop ends, no backend is tried twice, and the client
receives one answer or the beginning of one.  What is known to miss the article at the
end was known before or was said by a backend.
-/

namespace NntpProxy.Retry

open Protocol Framing Transport Router Pool NntpProxy.Stream Data List ArticleAvailability

variable {pool : BufferPool}

/-! ## Answers -/

/-- The octets of an answer of which `lost` octets never arrive at the proxy. -/
inductive AnswerText (passes : Nat → Pass pool) (kind : RequestKind) :
    Answer → Bytes → Bytes → Prop where
  | backend (index : Nat) (id : BackendId) (response : Response kind) (lost : Bytes)
      (sends : Sends (passes index) id response lost) :
      AnswerText passes kind .backend lost response.bytes
  | noSuchArticle : AnswerText passes kind .noSuchArticle [] Protocol.noSuchArticle
  | backendError : AnswerText passes kind .backendError [] Protocol.backendError

/-- What the client received: all of an answer; or the beginning of one and an error, as
the client is unwritable or the backend failed inside its response. -/
inductive Delivery (passes : Nat → Pass pool) (kind : RequestKind)
    (before after : ClientWriter) : Except SessionError Answer → Prop where
  | whole (answer : Answer) (text : Bytes) (isAnswer : AnswerText passes kind answer [] text)
      (acceptedEq : after.sink.accepted = before.sink.accepted ++ text) :
      Delivery passes kind before after (.ok answer)
  | part (error : SessionError) (answer : Answer) (lost text front rest : Bytes)
      (isAnswer : AnswerText passes kind answer lost text) (isFront : front ++ rest = text)
      (acceptedEq : after.sink.accepted = before.sink.accepted ++ front)
      (spoiled : Unwritable after ∨ (front ≠ [] ∧ rest ≠ [] ∧ lost ≠ [])) :
      Delivery passes kind before after (.error error)

theorem writeAll_delivery (passes : Nat → Pass pool) (kind : RequestKind) {client : ClientWriter}
    {answer : Answer} {line : Bytes} {sink : Sink UInt8} {error : SessionError}
    (isAnswer : AnswerText passes kind answer [] line)
    (writeEq : client.sink.writeAll line = (false, sink)) :
    Delivery passes kind client { client with sink } (.error error) := by
  rcases client.sink.writeAll_cases line with ⟨-, written⟩ | ⟨room, capacityEq, short, failed⟩
  · rw [writeEq] at written
    simp at written
  · rw [writeEq, Prod.mk.injEq] at failed
    rcases failed with ⟨-, rfl⟩
    refine .part _ _ _ _ (line.take room) (line.drop room) isAnswer (take_append_drop _ _) rfl
      (Or.inl (Or.inl ?_))
    simp [Sink.accept, capacityEq, Nat.min_eq_left (Nat.le_of_lt short)]

theorem accepted_of_writeAll {client : ClientWriter} {line : Bytes} {sink : Sink UInt8}
    (writeEq : client.sink.writeAll line = (true, sink)) :
    sink.accepted = client.sink.accepted ++ line := by
  rcases client.sink.writeAll_cases line with ⟨-, written⟩ | ⟨room, capacityEq, short, failed⟩
  · rw [writeEq, Prod.mk.injEq] at written
    rw [written.2]
    rfl
  · rw [writeEq] at failed
    simp at failed

section

variable (passes : Nat → Pass pool) (kind : RequestKind) (state : RetryState)

theorem send430ToClient_delivery :
    Delivery passes kind state.client (send430ToClient state).2.client
      (send430ToClient state).1 := by
  unfold send430ToClient
  split
  next sink writeEq => exact writeAll_delivery passes kind .noSuchArticle writeEq
  next sink writeEq => exact .whole _ _ .noSuchArticle (accepted_of_writeAll writeEq)

theorem writeBackendErrorResponse_delivery :
    Delivery passes kind state.client (writeBackendErrorResponse state).2.client
      (writeBackendErrorResponse state).1 := by
  unfold writeBackendErrorResponse
  split
  next sink writeEq => exact writeAll_delivery passes kind .backendError writeEq
  next sink writeEq =>
    have acceptedEq := accepted_of_writeAll writeEq
    split
    next flushed flushEq =>
      rcases flush_false flushEq with ⟨rfl, noFlush⟩
      exact .part _ _ _ _ backendError [] .backendError (append_nil _) acceptedEq
        (Or.inl (Or.inr noFlush))
    next flushed flushEq =>
      refine .whole _ _ .backendError ?_
      have kept := sink.accepted_flush
      rw [flushEq] at kept
      exact kept.trans acceptedEq

end

/-! ## The sweep -/

/-- A backend that holds the slot said, in this pass, that it misses the article. -/
def Reports (router : BackendSelector) (pass : Pass pool) (slot : AvailabilitySlot) : Prop :=
  ∃ backend ∈ router.backends, backend.availabilitySlot = slot ∧
    ∃ (kind : RequestKind) (response : Response kind),
      response.status.isArticleMissing = true ∧ Sends pass backend.id response []

theorem statProbe_missing {attempt : Try pool} (missing : statProbe attempt = .missing) :
    ∃ (connection : BackendConnection pool [.stat]) (response : Response .stat),
      attempt.connect [.stat] = some connection ∧ response.status.isArticleMissing = true ∧
        Holds response [] [.stat] connection.conn.contents := by
  unfold statProbe at missing
  split at missing
  · cases missing
  next conn answers connectEq =>
    split at missing
    · cases missing
    next probe next readEq =>
      split at missing
      · cases missing
      split at missing
      next saysMissing =>
        cases statusEq : probe.statusCode with
        | none => simp [statusEq] at saysMissing
        | some status =>
          rw [statusEq] at saysMissing
          rcases read_of_statusCode answers readEq statusEq with
            ⟨response, lost, later, rest, read⟩
          have sameStatus : status = response.status :=
            Option.some.inj (statusEq.symm.trans read.statusCode)
          rw [sameStatus] at saysMissing
          refine ⟨_, response, connectEq, saysMissing, ?_⟩
          rw [← read.nothingLost saysMissing]
          exact .here read.joined read.atEnd
      · cases missing

/-- The later state knows more than the earlier one, and what it knows to be missing was
known before or was reported in this pass. -/
structure Learns (router : BackendSelector) (pass : Pass pool) (before after : RetryState) :
    Prop where
  clientEq : after.client = before.client
  attemptsEq : after.attempts = before.attempts
  missing : ∀ slot, after.availability.isMissingSlot slot = true →
    before.availability.isMissingSlot slot = true ∨ Reports router pass slot
  keepsMissing : ∀ slot, before.availability.isMissingSlot slot = true →
    after.availability.isMissingSlot slot = true
  keepsSuppressed : ∀ id, before.unavailableBackends.contains id = true →
    after.unavailableBackends.contains id = true

theorem Learns.refl (router : BackendSelector) (pass : Pass pool) (state : RetryState) :
    Learns router pass state state :=
  ⟨rfl, rfl, fun _ missing => Or.inl missing, fun _ missing => missing, fun _ held => held⟩

variable {router : BackendSelector} {pass : Pass pool}

theorem Learns.trans {first second third : RetryState} (before : Learns router pass first second)
    (after : Learns router pass second third) :
    Learns router pass first third where
  clientEq := after.clientEq.trans before.clientEq
  attemptsEq := after.attemptsEq.trans before.attemptsEq
  missing slot missing := (after.missing slot missing).elim (before.missing slot) Or.inr
  keepsMissing slot missing := after.keepsMissing slot (before.keepsMissing slot missing)
  keepsSuppressed id held := after.keepsSuppressed id (before.keepsSuppressed id held)

variable {state : RetryState} {backend : BackendInfo}

theorem learns_recordProbe (isBackend : backend ∈ router.backends) :
    Learns router pass state (recordProbe pass state backend) := by
  unfold recordProbe
  split
  next missing =>
    rcases statProbe_missing missing with ⟨connection, response, connectEq, saysMissing, holds⟩
    have reports : Reports router pass backend.availabilitySlot :=
      ⟨backend, isBackend, rfl, _, response, saysMissing, _, by simp, _, connection, connectEq,
        holds⟩
    refine ⟨rfl, rfl, ?_, ?_, fun _ held => held⟩
    · intro slot recorded
      simp only [RetryState.recordMissing, isMissingSlot_recordMissingSlot,
        Bool.or_eq_true, beq_iff_eq] at recorded
      rcases recorded with known | rfl
      · exact Or.inl known
      · exact Or.inr reports
    · intro slot known
      simp [RetryState.recordMissing, known]
  · exact .refl router pass state
  · refine ⟨rfl, rfl, fun _ missing => Or.inl missing, fun _ missing => missing, ?_⟩
    intro id held
    simp [RetryState.suppress, held]

theorem learns_foldl_recordProbe (candidates : List BackendInfo)
    (isBackend : ∀ backend ∈ candidates, backend ∈ router.backends) (state : RetryState) :
    Learns router pass state (candidates.foldl (recordProbe pass) state) := by
  induction candidates generalizing state with
  | nil => exact .refl router pass state
  | cons backend candidates ih =>
    exact (learns_recordProbe (isBackend backend mem_cons_self)).trans
      (ih (fun other isOther => isBackend other (mem_cons_of_mem _ isOther)) _)

theorem learns_sweepBeforeRetry (router : BackendSelector) (request : RequestContext)
    (pass : Pass pool) (state : RetryState) :
    Learns router pass state (sweepBeforeRetry router request pass state) := by
  have swept : Learns router pass state (parallelRetryStatSweep router request pass state) := by
    unfold parallelRetryStatSweep
    split
    · exact .refl router pass state
    split
    · exact .refl router pass state
    · apply learns_foldl_recordProbe
      intro backend isCandidate
      rcases mem_flatMap.mp isCandidate with ⟨tier, -, inTier⟩
      exact mem_of_mem_filter inTier
  unfold sweepBeforeRetry
  split
  · exact ⟨swept.clientEq, swept.attemptsEq, swept.missing, swept.keepsMissing,
      swept.keepsSuppressed⟩
  · exact .refl router pass state

/-! ## Progress -/

/-- The backends that may still be tried. -/
def eligibleBackends (router : BackendSelector) (state : RetryState) : List BackendInfo :=
  router.backends.filter
    (BackendSelector.isAvailable (some state.availability) state.unavailableBackends)

theorem mem_eligibleBackends_iff :
    backend ∈ eligibleBackends router state ↔ Eligible router state backend := by
  rw [eligibleBackends, mem_filter]
  exact ⟨fun ⟨isBackend, isAvailable⟩ => ⟨isBackend, isAvailable⟩,
    fun ⟨isBackend, isAvailable⟩ => ⟨isBackend, isAvailable⟩⟩

theorem eligible_iff :
    Eligible router state backend ↔ backend ∈ router.backends ∧
      state.unavailableBackends.contains backend.id = false ∧
      state.availability.isMissingSlot backend.availabilitySlot = false := by
  constructor
  · rintro ⟨isBackend, isAvailable⟩
    simpa [BackendSelector.isAvailable, shouldTrySlot, isBackend]
      using isAvailable
  · rintro ⟨isBackend, notSuppressed, notMissing⟩
    refine ⟨isBackend, ?_⟩
    simp [BackendSelector.isAvailable, shouldTrySlot, notSuppressed, notMissing]

variable {before after : RetryState}

theorem Learns.eligible (learns : Learns router pass before after)
    (eligible : Eligible router after backend) : Eligible router before backend := by
  rcases eligible_iff.mp eligible with ⟨isBackend, notSuppressed, notMissing⟩
  refine eligible_iff.mpr ⟨isBackend, ?_, ?_⟩
  · rw [← Bool.not_eq_true] at notSuppressed ⊢
    exact fun held => notSuppressed (learns.keepsSuppressed _ held)
  · rw [← Bool.not_eq_true] at notMissing ⊢
    exact fun missing => notMissing (learns.keepsMissing _ missing)

/-- A pass that does not end the request: it made one attempt, after which that backend is
not tried again, and the client is as before. -/
structure Moves (router : BackendSelector) (pass : Pass pool) (before after : RetryState)
    (attempt : Attempt) : Prop where
  clientEq : after.client = before.client
  attemptsEq : after.attempts = before.attempts ++ [attempt]
  wasEligible : Eligible router before attempt.backend
  notMissing : attempt.availability.isMissingSlot attempt.backend.availabilitySlot = false
  notSuppressed : attempt.suppressed.contains attempt.backend.id = false
  notAgain : ¬ Eligible router after attempt.backend
  narrows : ∀ backend, Eligible router after backend → Eligible router before backend
  missing : ∀ slot, after.availability.isMissingSlot slot = true →
    before.availability.isMissingSlot slot = true ∨ Reports router pass slot

theorem Moves.length_lt {attempt : Attempt} (moves : Moves router pass before after attempt) :
    (eligibleBackends router after).length < (eligibleBackends router before).length := by
  have distinct : (attempt.backend :: eligibleBackends router after).Nodup := by
    refine nodup_cons.mpr ⟨?_, (List.Nodup.of_map _ router.nodup_ids).filter _⟩
    rw [mem_eligibleBackends_iff]
    exact moves.notAgain
  apply List.Subperm.length_le (subperm_of_subset distinct _)
  intro backend isMember
  rw [mem_eligibleBackends_iff]
  rcases mem_cons.mp isMember with rfl | left
  · exact moves.wasEligible
  · exact moves.narrows backend (mem_eligibleBackends_iff.mp left)

variable {swept : RetryState}

section

variable (learns : Learns router pass before swept) (eligible : Eligible router swept backend)

include learns eligible

section

variable (clientEq : after.client = swept.client)
    (attemptsEq : after.attempts = (swept.note backend).attempts)

include clientEq attemptsEq

/-- A pass that attempts an eligible backend moves on, when the backend is not eligible again and
nothing but what the pass tells is known behind it. -/
theorem moves_of_attempt (notAgain : ¬ Eligible router after backend)
    (narrows : ∀ other, Eligible router after other → Eligible router swept other)
    (missing : ∀ slot, after.availability.isMissingSlot slot = true →
      swept.availability.isMissingSlot slot = true ∨ Reports router pass slot) :
    Moves router pass before after
      ⟨backend, swept.availability, swept.unavailableBackends⟩ := by
  rcases eligible_iff.mp eligible with ⟨isBackend, notSuppressed, notMissing⟩
  refine ⟨clientEq.trans learns.clientEq, ?_, learns.eligible eligible, notMissing, notSuppressed,
    notAgain, fun other still => learns.eligible (narrows other still), ?_⟩
  · rw [attemptsEq, RetryState.note, learns.attemptsEq]
  · intro slot recorded
    rcases missing slot recorded with known | reports
    · exact learns.missing slot known
    · exact Or.inr reports

theorem moves_of_suppress (availabilityEq : after.availability = swept.availability)
    (unavailableEq : after.unavailableBackends = swept.unavailableBackends.suppress backend.id) :
    Moves router pass before after
      ⟨backend, swept.availability, swept.unavailableBackends⟩ := by
  apply moves_of_attempt learns eligible clientEq attemptsEq
  · rw [eligible_iff, unavailableEq]
    simp
  · intro other otherEligible
    rw [eligible_iff, availabilityEq, unavailableEq, SuppressedBackends.contains_suppress,
      Bool.or_eq_false_iff] at otherEligible
    rcases otherEligible with ⟨isOther, ⟨otherKept, -⟩, otherFound⟩
    exact eligible_iff.mpr ⟨isOther, otherKept, otherFound⟩
  · intro slot recorded
    rw [availabilityEq] at recorded
    exact Or.inl recorded

end

theorem moves_of_missing (reports : Reports router pass backend.availabilitySlot)
    (clientEq : after.client = swept.client)
    (attemptsEq : after.attempts = (swept.note backend).attempts)
    (availabilityEq : after.availability =
      swept.availability.recordMissingSlot backend.availabilitySlot)
    (unavailableEq : after.unavailableBackends = swept.unavailableBackends) :
    Moves router pass before after
      ⟨backend, swept.availability, swept.unavailableBackends⟩ := by
  apply moves_of_attempt learns eligible clientEq attemptsEq
  · rw [eligible_iff, availabilityEq]
    simp
  · intro other otherEligible
    rw [eligible_iff, availabilityEq, unavailableEq,
      isMissingSlot_recordMissingSlot, Bool.or_eq_false_iff] at otherEligible
    rcases otherEligible with ⟨isOther, otherKept, otherFound, -⟩
    exact eligible_iff.mpr ⟨isOther, otherKept, otherFound⟩
  · intro slot recorded
    rw [availabilityEq, isMissingSlot_recordMissingSlot, Bool.or_eq_true,
      beq_iff_eq] at recorded
    rcases recorded with known | rfl
    · exact Or.inl known
    · exact Or.inr reports

end

/-! ## Whole runs -/

/-- What a run from a state to its end did. -/
structure Ran (router : BackendSelector) (kind : RequestKind) (passes : Nat → Pass pool)
    (state : RetryState) (result : Except SessionError Answer) (final : RetryState) : Prop where
  delivery : Delivery passes kind state.client final.client result
  attempts : ∃ made, final.attempts = state.attempts ++ made ∧
    (made.map (·.backend)).Nodup ∧
    ∀ attempt ∈ made, Eligible router state attempt.backend ∧
      attempt.availability.isMissingSlot attempt.backend.availabilitySlot = false ∧
      attempt.suppressed.contains attempt.backend.id = false
  exhausted : result = .ok .noSuchArticle →
    final.availability.allExhausted router.availabilityMask = true
  missing : ∀ slot, final.availability.isMissingSlot slot = true →
    state.availability.isMissingSlot slot = true ∨
      ∃ index, Reports router (passes index) slot

theorem send430ToClient_ran (kind : RequestKind) (passes : Nat → Pass pool)
    (exhausted : state.availability.allExhausted router.availabilityMask = true) :
    Ran router kind passes state (send430ToClient state).1 (send430ToClient state).2 := by
  have availabilityEq : (send430ToClient state).2.availability = state.availability := by
    unfold send430ToClient
    split <;> rfl
  refine ⟨send430ToClient_delivery passes kind state, ⟨[], ?_, by simp, by simp⟩, ?_, ?_⟩
  · rw [append_nil]
    unfold send430ToClient
    split <;> rfl
  · rw [availabilityEq]
    exact fun _ => exhausted
  · rw [availabilityEq]
    exact fun slot known => Or.inl known

theorem writeBackendErrorResponse_ran (kind : RequestKind) (passes : Nat → Pass pool) {index : Nat}
    (learns : Learns router (passes index) state swept) :
    Ran router kind passes state (writeBackendErrorResponse swept).1
      (writeBackendErrorResponse swept).2 := by
  have availabilityEq : (writeBackendErrorResponse swept).2.availability = swept.availability := by
    unfold writeBackendErrorResponse
    split
    · rfl
    · split <;> rfl
  refine ⟨?_, ⟨[], ?_, by simp, by simp⟩, ?_, ?_⟩
  · rw [← learns.clientEq]
    exact writeBackendErrorResponse_delivery passes kind swept
  · rw [append_nil, ← learns.attemptsEq]
    unfold writeBackendErrorResponse
    split
    · rfl
    · split <;> rfl
  · intro answered
    unfold writeBackendErrorResponse at answered
    split at answered
    · cases answered
    · split at answered <;> cases answered
  · rw [availabilityEq]
    exact fun slot known => (learns.missing slot known).imp_right fun reports => ⟨index, reports⟩

theorem ran_of_lastAttempt {kind : RequestKind} {passes : Nat → Pass pool} {index : Nat}
    {final : RetryState} {result : Except SessionError Answer}
    (learns : Learns router (passes index) state swept) (eligible : Eligible router swept backend)
    (delivery : Delivery passes kind swept.client final.client result)
    (attemptsEq : final.attempts = (swept.note backend).attempts)
    (availabilityEq : final.availability = swept.availability)
    (notExhausted : result ≠ .ok .noSuchArticle) : Ran router kind passes state result final := by
  rcases eligible_iff.mp eligible with ⟨-, notSuppressed, notMissing⟩
  refine ⟨learns.clientEq ▸ delivery,
    ⟨[⟨backend, swept.availability, swept.unavailableBackends⟩], ?_, by simp, ?_⟩,
    fun answered => absurd answered notExhausted, ?_⟩
  · rw [attemptsEq, RetryState.note, learns.attemptsEq]
  · intro attempt isAttempt
    rw [mem_singleton] at isAttempt
    subst isAttempt
    exact ⟨learns.eligible eligible, notMissing, notSuppressed⟩
  · rw [availabilityEq]
    exact fun slot known => (learns.missing slot known).imp_right fun reports => ⟨index, reports⟩

theorem Ran.after_moves {kind : RequestKind} {passes : Nat → Pass pool} {index : Nat}
    {next final : RetryState} {attempt : Attempt} {result : Except SessionError Answer}
    (moves : Moves router (passes index) state next attempt)
    (ran : Ran router kind passes next result final) :
    Ran router kind passes state result final := by
  rcases ran.attempts with ⟨made, attemptsEq, distinct, eligible⟩
  refine ⟨moves.clientEq ▸ ran.delivery, ⟨attempt :: made, ?_, ?_, ?_⟩, ran.exhausted, ?_⟩
  · rw [attemptsEq, moves.attemptsEq, append_assoc, singleton_append]
  · rw [map_cons, nodup_cons]
    refine ⟨?_, distinct⟩
    intro again
    rcases mem_map.mp again with ⟨later, isLater, sameBackend⟩
    exact moves.notAgain (sameBackend ▸ (eligible later isLater).1)
  · intro other isAttempt
    rcases mem_cons.mp isAttempt with rfl | isLater
    · exact ⟨moves.wasEligible, moves.notMissing, moves.notSuppressed⟩
    · rcases eligible other isLater with ⟨otherEligible, known⟩
      exact ⟨moves.narrows _ otherEligible, known⟩
  · intro slot known
    rcases ran.missing slot known with before | reports
    · exact (moves.missing slot before).imp_right fun reports => ⟨index, reports⟩
    · exact Or.inr reports

section

variable (router : BackendSelector) (request : RequestContext) (retains : StatusCode → Bool)
    (passes : Nat → Pass pool)

theorem retryLoop_step (fuel index : Nat) (state : RetryState) :
    (∃ next attempt, Moves router (passes index) state next attempt ∧
        retryLoop router request retains passes (fuel + 1) index state =
          retryLoop router request retains passes fuel (index + 1) next) ∨
      ∃ result final, Ran router request.kind passes state result final ∧
        retryLoop router request retains passes (fuel + 1) index state = some (result, final) := by
  rw [retryLoop]
  split
  next exhausted => exact Or.inr ⟨_, _, send430ToClient_ran request.kind passes exhausted, rfl⟩
  have learns := learns_sweepBeforeRetry router request (passes index) state
  have tried := tryBackendForArticle_tried router request retains (passes index)
    (sweepBeforeRetry router request (passes index) state)
  generalize sweepBeforeRetry router request (passes index) state = swept at learns tried ⊢
  generalize tryBackendForArticle router request retains (passes index) swept = outcome at tried ⊢
  cases tried with
  | noBackend => exact Or.inr ⟨_, _, writeBackendErrorResponse_ran request.kind passes learns, rfl⟩
  | unavailable backend eligible =>
    refine Or.inl ⟨_, ⟨backend, swept.availability, swept.unavailableBackends⟩, ?_, rfl⟩
    exact moves_of_suppress learns eligible rfl rfl rfl rfl
  | missing backend eligible response saysMissing sends result goesOn =>
    have reports : Reports router (passes index) backend.availabilitySlot :=
      ⟨backend, eligible.isBackend, rfl, _, response, saysMissing, sends⟩
    rcases goesOn with rfl | ⟨error, rfl, goesOn⟩
    · refine Or.inl ⟨_, ⟨backend, swept.availability, swept.unavailableBackends⟩, ?_, rfl⟩
      exact moves_of_missing learns eligible reports rfl rfl rfl rfl
    · simp only [goesOn, Bool.false_eq_true, if_false]
      refine Or.inl ⟨_, ⟨backend, swept.availability, swept.unavailableBackends⟩, ?_, rfl⟩
      exact moves_of_missing learns eligible reports rfl rfl rfl rfl
  | failed backend eligible error goesOn =>
    simp only [goesOn]
    refine Or.inl ⟨_, ⟨backend, swept.availability, swept.unavailableBackends⟩, ?_, rfl⟩
    exact moves_of_suppress learns eligible rfl rfl rfl rfl
  | answered backend eligible response sends after acceptedEq =>
    refine Or.inr ⟨_, _, ?_, rfl⟩
    refine ran_of_lastAttempt learns eligible ?_ rfl rfl ?_
    · exact .whole _ _ (.backend index backend.id response [] sends) acceptedEq
    · rintro ⟨⟩
  | stopped backend eligible error ends response lost sends front rest isFront final attemptsEq
      availabilityEq acceptedEq spoiled =>
      simp only [ends]
      refine Or.inr ⟨_, _, ran_of_lastAttempt learns eligible ?_ attemptsEq availabilityEq ?_, rfl⟩
      · exact .part _ _ _ _ front rest (.backend index backend.id response lost sends) isFront
          acceptedEq spoiled
      · rintro ⟨⟩

theorem retryLoop_ran {fuel : Nat} (index : Nat)
    (enough : (eligibleBackends router state).length < fuel) :
    ∃ result final, Ran router request.kind passes state result final ∧
      retryLoop router request retains passes fuel index state = some (result, final) := by
  induction fuel generalizing index state with
  | zero => exact absurd enough (Nat.not_lt_zero _)
  | succ fuel ih =>
    rcases retryLoop_step router request retains passes fuel index state with
      ⟨next, attempt, moves, stepEq⟩ | ended
    · have fewer := moves.length_lt
      rcases ih (index + 1) (by omega : (eligibleBackends router next).length < fuel) with
        ⟨result, final, ran, finished⟩
      exact ⟨result, final, ran.after_moves moves, stepEq.trans finished⟩
    · exact ended

theorem executeArticleRetryLoop_ran (availability : Option ArticleAvailability)
    (client : ClientWriter) :
    ∃ result final,
      Ran router request.kind passes (.start availability client) result final ∧
        executeArticleRetryLoop router request retains passes availability client =
          some (result, final) :=
  retryLoop_ran router request retains passes 0
    (Nat.lt_succ_of_le (length_filter_le _ _))

end

/-! ## Results -/

/-- For every router, every behaviour of its backends and every client, the loop ends.
When it succeeds the client received exactly one answer: a complete response of a backend
or one of the two local lines.  When it fails the client received the beginning of one
answer and nothing else. -/
theorem client_receives_one_answer (router : BackendSelector) (request : RequestContext)
    (retains : StatusCode → Bool) (passes : Nat → Pass pool)
    (availability : Option ArticleAvailability) (client : ClientWriter) :
    ∃ result final,
      executeArticleRetryLoop router request retains passes availability client =
          some (result, final) ∧
        (∀ answer, result = .ok answer → ∃ text, AnswerText passes request.kind answer [] text ∧
          final.client.sink.accepted = client.sink.accepted ++ text) ∧
        (∀ error, result = .error error → ∃ answer lost text front,
          AnswerText passes request.kind answer lost text ∧ front <+: text ∧
            final.client.sink.accepted = client.sink.accepted ++ front) := by
  rcases executeArticleRetryLoop_ran router request retains passes availability client with
    ⟨result, final, ran, finished⟩
  refine ⟨result, final, finished, ?_, ?_⟩
  · rintro answer rfl
    cases ran.delivery with
    | whole _ text isAnswer acceptedEq => exact ⟨text, isAnswer, acceptedEq⟩
  · rintro error rfl
    cases ran.delivery with
    | part _ answer lost text front rest isAnswer isFront acceptedEq spoiled =>
      exact ⟨answer, lost, text, front, isAnswer, ⟨rest, isFront⟩, acceptedEq⟩

end NntpProxy.Retry
