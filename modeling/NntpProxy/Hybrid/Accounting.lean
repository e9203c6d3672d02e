import NntpProxy.Hybrid.Handoff

/-!
# Counting the client's requests

The per-command loop counts each command line that it accepts: the requests of a window
together or as they are executed one by one, a single request before it is executed, and what
stands behind a batch before it is classified.  A session that is handed over carries this
count along, and the request that caused the handover, which the loop has counted, is
counted again.
-/

namespace NntpProxy.Hybrid

open Protocol Session Transport NntpProxy.Stream Stateful PerCommand RequestContext

variable {pool : BufferPool} {session : ClientSession} {state next : PerCommandLoopState}

/-! ## Accepted lines -/

/-- The request of a line that was accepted. -/
def accepted : CommandLine → Option RequestContext
  | .parsed request => some request
  | _ => none

theorem accepted_lineItem (line : Bytes) :
    accepted (lineItem line) = parse line := by
  unfold lineItem
  split
  next tooLong =>
    rw [parse, if_pos tooLong]
    rfl
  next =>
    cases parse line with
    | none => rfl
    | some request => rfl

/-- The serialized length of the accepted ones of some items. -/
def itemBytes (items : List CommandLine) : Nat :=
  ((items.filterMap accepted).map requestWireLen).sum

theorem itemBytes_append (front back : List CommandLine) :
    itemBytes (front ++ back) = itemBytes front + itemBytes back := by
  simp [itemBytes]

theorem itemBytes_parsed (requests : List PipelineableRequest) :
    itemBytes (requests.map fun request => .parsed request.request) =
      (requests.map (·.request.requestWireLen)).sum := by
  induction requests with
  | nil => rfl
  | cons request requests ih =>
    rw [List.map_cons, ← List.singleton_append, itemBytes_append, ih]
    rfl

/-- The serialized length of the accepted ones of some lines. -/
def acceptedBytes (lines : List Bytes) : Nat :=
  ((lines.filterMap parse).map requestWireLen).sum

theorem itemBytes_lines (lines : List Bytes) :
    itemBytes (lines.map lineItem) = acceptedBytes lines := by
  unfold itemBytes acceptedBytes
  rw [List.filterMap_map]
  congr 2
  exact List.filterMap_congr fun line _ => accepted_lineItem line

/-! ## Commands -/

theorem clientToBackend_writeLocal (state : PerCommandLoopState)
    (request : Option RequestContext) (reply : Bytes) :
    (state.writeLocal request reply).2.clientToBackend = state.clientToBackend := by
  unfold PerCommandLoopState.writeLocal
  split <;> rfl

theorem clientToBackend_handleInterceptAuth (action : AuthAction) (request : RequestContext)
    (state : PerCommandLoopState) :
    (handleInterceptAuth session action request state).2.clientToBackend =
      state.clientToBackend := by
  unfold handleInterceptAuth
  split
  · rfl
  · split <;> rfl

variable {request : RequestContext}

theorem clientToBackend_processSingleCommandWithPlan {world : RequestWorld pool}
    {plan : CommandPlan} {result : Except CommandError SingleCommandResult}
    (processed : processSingleCommandWithPlan session world request plan state =
      some (result, next)) : next.clientToBackend = state.clientToBackend := by
  unfold processSingleCommandWithPlan at processed
  split at processed
  · cases processed
    exact clientToBackend_writeLocal ..
  · cases plan with
    | interceptAuth action =>
      cases processed
      exact clientToBackend_handleInterceptAuth ..
    | forward =>
      simp only [handleForwardDecision, Option.map_map, Option.map_eq_some_iff] at processed
      rcases processed with ⟨⟨routed, client⟩, -, turned⟩
      cases turned
      rfl
    | switchToStateful handed =>
      cases processed
      rfl
    | _ =>
      cases processed
      exact clientToBackend_writeLocal ..

/-! ## Batches -/

variable {world : BatchWorld pool} {requests : List PipelineableRequest}

theorem clientToBackend_executePipelineableCommands {index : Nat}
    (executed : executePipelineableCommands session world index requests state =
      some (.ok (), next)) :
    next.clientToBackend =
      state.clientToBackend + (requests.map (·.request.requestWireLen)).sum := by
  induction requests generalizing index state with
  | nil =>
    cases executed
    rfl
  | cons request requests ih =>
    rw [executePipelineableCommands] at executed
    split at executed
    · cases executed
    · cases executed
    · cases executed
    next processed =>
      rw [ih executed, clientToBackend_processSingleCommandWithPlan processed, List.map_cons,
        List.sum_cons, ← Nat.add_assoc]
      rfl

theorem requestWireLen_windowBatch (world : BatchWorld pool)
    (requests : List PipelineableRequest) :
    (windowBatch world requests).map (·.1.requestWireLen) =
      requests.map (·.request.requestWireLen) :=
  List.ext_getElem (by simp [windowBatch]) (by simp [windowBatch])

theorem clientToBackend_executePipelineableBatch
    (executed : executePipelineableBatch session world requests state = some (.ok (), next)) :
    next.clientToBackend =
      state.clientToBackend + (requests.map (·.request.requestWireLen)).sum := by
  unfold executePipelineableBatch at executed
  simp only at executed
  split at executed
  next =>
    have counted := clientToBackend_executePipelineableCommands executed
    exact counted
  next =>
    split at executed
    · cases executed
    next windowed =>
      split at executed
      · cases executed
      next succeeded =>
        have octets := windowRequestBytes_of_ok windowed succeeded
        rw [requestWireLen_windowBatch] at octets
        cases executed
        rw [octets]
        rfl

theorem clientToBackend_rejectLine (rejection : RequestRejection) (state : PerCommandLoopState) :
    (rejectLine rejection state).2.clientToBackend = state.clientToBackend :=
  clientToBackend_writeLocal ..

theorem clientToBackend_handleTrailingCommand {trailing : BatchTail} {action : BatchLoopAction}
    (handled : handleTrailingCommand session world trailing state = some (.ok action, next)) :
    next.clientToBackend = state.clientToBackend + itemBytes trailing.items ∧
      ∀ request, action = .switchToStateful request → trailing = .context request := by
  cases trailing with
  | none =>
    cases handled
    refine ⟨rfl, ?_⟩
    rintro _ ⟨⟩
  | rejection rejection =>
    have stateEq := congrArg (·.2) (Option.some.inj handled)
    have resultEq := congrArg (·.1) (Option.some.inj handled)
    obtain rfl : _ = next := stateEq
    constructor
    · rw [clientToBackend_rejectLine]
      cases rejection <;> rfl
    · rintro request rfl
      cases written : (state.writeLocal none (rejectionReply rejection)).1 <;>
        simp [rejectLine, written, Except.map] at resultEq
  | context request =>
    unfold handleTrailingCommand at handled
    simp only at handled
    split at handled
    · cases handled
      refine ⟨rfl, ?_⟩
      rintro _ ⟨⟩
      rfl
    · split at handled
      · cases handled
      · cases handled
      all_goals
        next processed =>
          cases handled
          refine ⟨clientToBackend_processSingleCommandWithPlan processed, ?_⟩
          rintro _ ⟨⟩

theorem clientToBackend_handleCommandBatch {batch : RequestBatch} {action : BatchLoopAction}
    (handled : handleCommandBatch session world batch state = some (.ok action, next))
    (alone : ∀ rejection, batch.contents = .rejected rejection → batch.trailing = .none) :
    next.clientToBackend = state.clientToBackend + itemBytes batch.items ∧
      ∀ request, action = .switchToStateful request → batch.trailing = .context request := by
  rcases batch with ⟨contents, trailing⟩
  rw [RequestBatch.items, itemBytes_append]
  cases contents with
  | rejected rejection =>
    obtain rfl : trailing = .none := alone rejection rfl
    have rejected : handleTrailingCommand session world (.rejection rejection) state =
        some (.ok action, next) := handled
    rcases clientToBackend_handleTrailingCommand rejected with ⟨counted, switched⟩
    refine ⟨counted, fun request isSwitch => ?_⟩
    cases switched request isSwitch
  | empty =>
    rw [BatchContents.items, show itemBytes [] = 0 from rfl, Nat.zero_add]
    unfold handleCommandBatch at handled
    simp only at handled
    split at handled
    next isNone =>
      subst isNone
      cases handled
      refine ⟨rfl, ?_⟩
      rintro _ ⟨⟩
    next => exact clientToBackend_handleTrailingCommand handled
  | contexts requests =>
    unfold handleCommandBatch at handled
    simp only at handled
    split at handled
    · cases handled
    · cases handled
    next executed =>
      rcases clientToBackend_handleTrailingCommand handled with ⟨counted, switched⟩
      refine ⟨?_, switched⟩
      rw [counted, clientToBackend_executePipelineableBatch executed, BatchContents.items,
        itemBytes_parsed, Nat.add_assoc]

/-! ## The loop -/

variable {worlds : Nat → BatchWorld pool}

theorem clientToBackend_runPerCommandLoop {fuel index : Nat} {reader rest : ClientReader}
    (ran : runPerCommandLoop session worlds fuel index reader state =
      some (.switched request, rest, next)) :
    ∃ lines, reader.lines = lines ++ rest.lines ∧
      next.clientToBackend = state.clientToBackend + acceptedBytes lines ∧
      (lines.filterMap parse).getLast? = some request := by
  induction fuel generalizing index reader state with
  | zero => cases ran
  | succ fuel ih =>
    rw [runPerCommandLoop] at ran
    split at ran
    · cases ran
    next batch middle readEq =>
      rcases (readsBatch_of_readCommandBatch readEq).lines with ⟨taken, linesEq, itemsEq⟩
      have alone := trailing_of_rejected readEq
      split at ran
      · cases ran
      · cases ran
      · cases ran
      next handled =>
        cases ran
        rcases clientToBackend_handleCommandBatch handled alone with ⟨counted, switched⟩
        refine ⟨taken, linesEq, ?_, ?_⟩
        · rw [counted, itemsEq, itemBytes_lines]
        · have lastItem : (batch.items.filterMap accepted).getLast? = some request := by
            simp [RequestBatch.items, switched request rfl, BatchTail.items, accepted]
          rw [itemsEq, List.filterMap_map] at lastItem
          rwa [List.filterMap_congr fun line _ => (accepted_lineItem line).symm]
      next handled =>
        rcases clientToBackend_handleCommandBatch handled alone with ⟨counted, -⟩
        rcases ih ran with ⟨lines, restEq, countedRest, isLast⟩
        refine ⟨taken ++ lines, ?_, ?_, ?_⟩
        · rw [linesEq, restEq, List.append_assoc]
        · rw [countedRest, counted, itemsEq, itemBytes_lines, Nat.add_assoc]
          simp [acceptedBytes]
        · rw [List.filterMap_append, List.getLast?_append, isLast, Option.some_or]

/-! ## The handover -/

/-- The session is handed over by this request: the per-command loop ends with a state and
leaves its reader, and the stateful loop starts. -/
structure HandsOver (session : ClientSession) (worlds : Nat → BatchWorld pool)
    (dedicated : StatefulWorld) (reader : ClientReader) (client : ClientWriter)
    (request : RequestContext) (rest : ClientReader) (carried : PerCommandLoopState)
    (loop : StatefulLoop) : Prop where
  routed : handlePerCommandRouting session worlds reader client =
    some (.switched request, rest, carried)
  starts : (switchToStatefulMode session dedicated request rest carried).2 = some loop

/-- The lines that were read before the handover. -/
def linesBefore (reader rest : ClientReader) : List Bytes :=
  reader.lines.take (reader.lines.length - rest.lines.length)

/-- Whenever the session is handed over, each accepted line was counted exactly once. -/
def CountsEachOnce (session : ClientSession) (worlds : Nat → BatchWorld pool)
    (dedicated : StatefulWorld) (reader : ClientReader) (client : ClientWriter) : Prop :=
  ∀ request rest carried loop,
    HandsOver session worlds dedicated reader client request rest carried loop →
      loop.clientToBackend = acceptedBytes (linesBefore reader rest)

/-- The stateful loop starts with the count of the accepted lines and of the last of them once
more. -/
theorem HandsOver.clientToBackend {dedicated : StatefulWorld} {reader rest : ClientReader}
    {client : ClientWriter} {carried : PerCommandLoopState} {loop : StatefulLoop}
    (handover : HandsOver session worlds dedicated reader client request rest carried loop) :
    carried.clientToBackend = acceptedBytes (linesBefore reader rest) ∧
      loop.clientToBackend = acceptedBytes (linesBefore reader rest) + request.requestWireLen := by
  rcases clientToBackend_runPerCommandLoop handover.routed with ⟨lines, linesEq, counted, -⟩
  have before : linesBefore reader rest = lines := by
    rw [linesBefore, linesEq, List.length_append, Nat.add_sub_cancel, List.take_left]
  have carriedEq : carried.clientToBackend = acceptedBytes lines := by
    rw [counted]
    exact Nat.zero_add _
  rw [before]
  refine ⟨carriedEq, ?_⟩
  have starts := handover.starts
  unfold switchToStatefulMode at starts
  split at starts
  · cases starts
  · simp only at starts
    split at starts
    · cases starts
      rw [← carriedEq]
      rfl
    · cases starts

/-- Every line is counted exactly once just when the session is never handed over; a handover
counts its request twice. -/
theorem countsEachOnce_iff_not_handedOver (session : ClientSession)
    (worlds : Nat → BatchWorld pool) (dedicated : StatefulWorld) (reader : ClientReader)
    (client : ClientWriter) :
    (CountsEachOnce session worlds dedicated reader client ↔
        ¬ ∃ request rest carried loop,
          HandsOver session worlds dedicated reader client request rest carried loop) ∧
      ∀ request rest carried loop,
        HandsOver session worlds dedicated reader client request rest carried loop →
          carried.clientToBackend = acceptedBytes (linesBefore reader rest) ∧
            loop.clientToBackend =
              acceptedBytes (linesBefore reader rest) + request.requestWireLen := by
  constructor
  · constructor
    · rintro countsOnce ⟨request, rest, carried, loop, handover⟩
      have once := countsOnce request rest carried loop handover
      have again := handover.clientToBackend.2
      have positive : 0 < request.requestWireLen := Nat.succ_pos _
      omega
    · intro never request rest carried loop handover
      exact absurd ⟨request, rest, carried, loop, handover⟩ never
  · intro request rest carried loop handover
    exact handover.clientToBackend

/-- A hybrid session without users. -/
def openSession : ClientSession :=
  { hybridSession with authHandler := ⟨[], List.nodup_nil⟩ }

/-- The line `GROUP a` has nine octets and is counted with eighteen. -/
theorem group_counted_twice :
    ∃ request rest carried loop,
      HandsOver openSession (fun _ => quietBatch smallPool) ⟨some ⟨[], none, none⟩, 0, []⟩
          ⟨ascii "GROUP a\r\n", [], .eof⟩ ⟨⟨[], none, none⟩, .brokenPipe⟩ request rest carried
          loop ∧
        acceptedBytes (linesBefore ⟨ascii "GROUP a\r\n", [], .eof⟩ rest) = 9 ∧
        loop.clientToBackend = 18 :=
  ⟨_, _, _, _, ⟨rfl, rfl⟩, by decide +kernel, by decide +kernel⟩

end NntpProxy.Hybrid
