import NntpProxy.Stateful.Ordering

/-!
# Replies along every schedule

A world is the loop with the client octets that have not arrived and the backend
octets that have.  The client stream is cut anywhere, the backend sends any part
of the responses to what was forwarded, and the two sides are scheduled in any
order the loop accepts.  The invariant splits the client lines into handled ones,
whose exchanges determine the state of the loop, and the open rest.
-/

namespace NntpProxy.Stateful

open Protocol Session Framing NntpProxy.Stream StatefulLoop Backend
open StatefulCommandReader

/-! ## Runs -/

/-- The loop between its two peers. -/
structure World where
  loop : StatefulLoop
  unread : Bytes
  arrived : Bytes

/-- One input is delivered to the loop. -/
inductive Next (backend : Backend) (handler : AuthHandler) : World → World → Prop where
  | chunk {loop : StatefulLoop} {read unread arrived : Bytes} (nonempty : read ≠ [])
      (accepts : loop.Accepts (.client read)) (usedUp : loop.buffered = []) :
      Next backend handler ⟨loop, read ++ unread, arrived⟩
        ⟨loop.step handler (.client read), unread, arrived⟩
  | buffered {loop : StatefulLoop} {unread arrived : Bytes} (left : loop.buffered ≠ [])
      (accepts : loop.Accepts (.client [])) : Next backend handler ⟨loop, unread, arrived⟩
        ⟨loop.step handler (.client []), unread, arrived⟩
  | clientEof {loop : StatefulLoop} {arrived : Bytes} (usedUp : loop.buffered = [])
      (accepts : loop.Accepts (.client [])) :
      Next backend handler ⟨loop, [], arrived⟩ ⟨loop.step handler (.client []), [], arrived⟩
  | clientReadError {loop : StatefulLoop} {unread arrived : Bytes}
      (accepts : loop.Accepts .clientReadError) : Next backend handler ⟨loop, unread, arrived⟩
        ⟨loop.step handler .clientReadError, unread, arrived⟩
  | backend {loop : StatefulLoop} {unread arrived read : Bytes} (nonempty : read ≠ [])
      (accepts : loop.Accepts (.backend read))
      (causal : arrived ++ read <+: backend.responsesTo loop.forwarded) :
      Next backend handler ⟨loop, unread, arrived⟩
        ⟨loop.step handler (.backend read), unread, arrived ++ read⟩
  | backendEof {loop : StatefulLoop} {unread arrived : Bytes}
      (accepts : loop.Accepts (.backend [])) : Next backend handler ⟨loop, unread, arrived⟩
        ⟨loop.step handler (.backend []), unread, arrived⟩
  | backendReadError {loop : StatefulLoop} {unread arrived : Bytes}
      (accepts : loop.Accepts .backendReadError) : Next backend handler ⟨loop, unread, arrived⟩
        ⟨loop.step handler .backendReadError, unread, arrived⟩

/-- Any number of inputs. -/
def Run (backend : Backend) (handler : AuthHandler) : World → World → Prop :=
  Relation.ReflTransGen (Next backend handler)

/-- The loop starts a line of a client with access, with these requests already
forwarded and unanswered. -/
structure Starts (initial : List RequestContext) (loop : StatefulLoop) : Prop where
  reader : loop.reader = fresh
  order : loop.order = .register (initial.map fun request => .request request.kind)
  forwarded : loop.forwarded = initial
  allowed : loop.access.canAccessBackend = true
  running : loop.exit = none

namespace Backend

variable (backend : Backend) (access : AuthenticationAccess)

/-- The requests that client lines forward. -/
def forwardedLines (access : AuthenticationAccess) (lines : List Bytes) : List RequestContext :=
  lines.flatMap fun line => forwardedBy access (lineItem line)

/-- The exchanges of the requests already forwarded and of the client lines. -/
def exchangesOf (initial : List RequestContext) (lines : List Bytes) : List Exchange :=
  backend.exchanges 0 initial ++ backend.history access initial.length lines

theorem exchanges_append (n : Nat) (first second : List RequestContext) :
    backend.exchanges n (first ++ second) =
      backend.exchanges n first ++ backend.exchanges (n + first.length) second := by
  induction first generalizing n with
  | nil => rfl
  | cons request first ih =>
    rw [List.cons_append, exchanges, ih, exchanges, List.length_cons, List.cons_append,
      Nat.add_assoc, Nat.add_comm 1]

theorem history_append (n : Nat) (first second : List Bytes) :
    backend.history access n (first ++ second) =
      backend.history access n first ++
        backend.history access (n + (forwardedLines access first).length) second := by
  induction first generalizing n with
  | nil => rfl
  | cons line first ih =>
    simp only [List.cons_append, history, ih, forwardedLines, List.flatMap_cons,
      List.length_append, Nat.add_assoc]

theorem response_lineExchange (n : Nat) (item : StatefulClientLine) :
    (backend.lineExchange access n item).response =
      responsesOf (backend.exchanges n (forwardedBy access item)) := by
  cases item with
  | eof => rfl
  | oversized => rfl
  | invalid => rfl
  | ready request =>
    simp only [lineExchange, forwardedBy]
    cases classifyAuthenticatedStatefulAction request access with
    | forward => simp [exchanges, responsesOf]
    | rejectAuthAlreadyAuthenticated => rfl
    | interceptCapabilities => rfl
    | reject response => rfl

theorem responsesOf_history (n : Nat) (lines : List Bytes) :
    responsesOf (backend.history access n lines) =
      responsesOf (backend.exchanges n (forwardedLines access lines)) := by
  induction lines generalizing n with
  | nil => rfl
  | cons line lines ih =>
    rw [forwardedLines, List.flatMap_cons, exchanges_append, responsesOf_append,
      ← response_lineExchange]
    exact congrArg _ (ih _)

variable (initial : List RequestContext)

theorem responsesOf_exchangesOf (lines : List Bytes) :
    responsesOf (backend.exchangesOf access initial lines) =
      backend.responsesTo (initial ++ forwardedLines access lines) := by
  rw [exchangesOf, responsesTo, exchanges_append, responsesOf_append, responsesOf_append,
    responsesOf_history, Nat.zero_add]

theorem exchangesOf_append_singleton (lines : List Bytes) (line : Bytes) :
    backend.exchangesOf access initial (lines ++ [line]) =
      backend.exchangesOf access initial lines ++
        [backend.lineExchange access
          (initial.length + (forwardedLines access lines).length) (lineItem line)] := by
  rw [exchangesOf, history_append, ← List.append_assoc]
  rfl

theorem repliesOf_exchangesOf_isPrefix (first second : List Bytes) :
    repliesOf (backend.exchangesOf access initial first) <+:
      repliesOf (backend.exchangesOf access initial (first ++ second)) := by
  rw [exchangesOf, exchangesOf, history_append, ← List.append_assoc, repliesOf_append _
    (backend.history access _ second)]
  exact List.prefix_append _ _

end Backend

/-! ## Rounds of the client reader -/

section Rounds

variable {handler : AuthHandler} {loop : StatefulLoop} {arrived openLine : Bytes}

/-- Handle a completed line and come back to rest. -/
def afterLine (handler : AuthHandler) (fed : StatefulLoop) (item : StatefulClientLine) :
    StatefulLoop :=
  if (handleLine handler fed item).exit.isSome then
    handleLine handler fed item
  else (handleLine handler fed item).rest

theorem step_client_of_open (readerEq : loop.reader = ofPartial openLine)
    (nonempty : loop.available arrived ≠ [])
    (noLine : statusLineLen (loop.available arrived) = none) :
    loop.step handler (.client arrived) =
      { loop with reader := ofPartial (openLine ++ loop.available arrived), buffered := [] } := by
  simp only [step, readerEq, readRound_open nonempty noLine, List.drop_length]

theorem step_client_of_line {n : Nat} (readerEq : loop.reader = ofPartial openLine)
    (lineFound : statusLineLen (loop.available arrived) = some n) :
    loop.step handler (.client arrived) =
      afterLine handler
        { loop with reader := fresh, buffered := (loop.available arrived).drop n }
        (lineItem (openLine ++ (loop.available arrived).take n)) := by
  simp only [step, readerEq, readRound_line lineFound]
  rfl

theorem step_client_of_eof (readerEq : loop.reader = ofPartial openLine)
    (nothing : loop.available arrived = []) :
    loop.step handler (.client arrived) =
      afterLine handler { loop with reader := fresh, buffered := [] }
        (if openLine = [] then .eof else lineItem openLine) := by
  simp only [step, readerEq, nothing, readRound_eof]
  rfl

theorem lineItem_ne_eof (line : Bytes) : lineItem line ≠ .eof := by
  unfold lineItem parsedLine
  split
  · simp
  · split <;> simp

end Rounds

/-! ## The invariant -/

variable {loop : StatefulLoop} {handler : AuthHandler} {handled : List Bytes}
    {openLine unread arrived : Bytes}

section Invariant

variable (backend : Backend) (before : Bytes) (initial : List RequestContext)
  (access : AuthenticationAccess) (input : Bytes)

/-- The handled lines determine the loop, and the open rest is still to come. -/
structure Tracks (world : World) (handled : List Bytes) (openLine : Bytes) : Prop where
  lines : linesFrom [] input = handled ++ linesFrom openLine (world.loop.buffered ++ world.unread)
  reader : world.loop.reader = ofPartial openLine
  accessEq : world.loop.access = access
  forwarded : world.loop.forwarded = initial ++ forwardedLines access handled
  causal : world.arrived <+: responsesOf (backend.exchangesOf access initial handled)
  holds : Holds before (backend.exchangesOf access initial handled) world.arrived world.loop

/-- The loop is tracked, or a transport failed after a prefix of the replies. -/
def Invariant (world : World) : Prop :=
  (∃ handled openLine, Tracks backend before initial access input world handled openLine) ∨
    Broken before (backend.exchangesOf access initial (linesFrom [] input)) world.loop

variable {backend before initial access input}

theorem Broken.mono {first second : List Bytes}
    (isBroken : Broken before (backend.exchangesOf access initial first) loop) :
    Broken before (backend.exchangesOf access initial (first ++ second)) loop := by
  rcases isBroken with ⟨exit, out, part, acceptedEq⟩
  exact ⟨exit, out, part.trans (backend.repliesOf_exchangesOf_isPrefix _ _ _ _), acceptedEq⟩

theorem Tracks.afterLine {fed : StatefulLoop} {line : Bytes}
    (allowed : access.canAccessBackend = true) (running : fed.exit = none)
    (lines : linesFrom [] input = handled ++ line :: linesFrom [] (fed.buffered ++ unread))
    (reader : fed.reader = fresh) (accessEq : fed.access = access)
    (forwarded : fed.forwarded = initial ++ forwardedLines access handled)
    (causal : arrived <+: responsesOf (backend.exchangesOf access initial handled))
    (holds : Holds before (backend.exchangesOf access initial handled) arrived fed) :
    Invariant backend before initial access input
      ⟨Stateful.afterLine handler fed (lineItem line), unread, arrived⟩ := by
  have longer := backend.exchangesOf_append_singleton access initial handled line
  have laterCausal := causal_append causal (backend.lineExchange access
    (initial.length + (forwardedLines access handled).length) (lineItem line))
  have registers := holds.handleLine backend
    (initial.length + (forwardedLines access handled).length) handler causal running
    (by rwa [accessEq]) (lineItem_ne_eof line)
  rw [accessEq, ← longer] at registers
  rw [← longer] at laterCausal
  rcases registers.rest laterCausal with ⟨heldNext, same, forwardedEq, _⟩ | isBroken
  · refine Or.inl ⟨handled ++ [line], [], ?_, ?_, ?_, ?_, laterCausal, heldNext⟩
    · rw [lines, List.append_assoc]
      rw [Stateful.afterLine, same.buffered]
      rfl
    · exact same.reader.trans reader
    · exact same.access.trans accessEq
    · refine forwardedEq.trans ?_
      rw [forwarded]
      simp [forwardedLines]
  · apply Or.inr
    rw [lines, List.append_cons]
    exact isBroken.mono

theorem Tracks.clientRound {read : Bytes} (allowed : access.canAccessBackend = true)
    (running : loop.exit = none) (nonempty : loop.available read ≠ [])
    (lines : linesFrom [] input = handled ++ linesFrom openLine (loop.available read ++ unread))
    (reader : loop.reader = ofPartial openLine) (accessEq : loop.access = access)
    (forwarded : loop.forwarded = initial ++ forwardedLines access handled)
    (causal : arrived <+: responsesOf (backend.exchangesOf access initial handled))
    (holds : Holds before (backend.exchangesOf access initial handled) arrived loop) :
    Invariant backend before initial access input
      ⟨loop.step handler (.client read), unread, arrived⟩ := by
  cases lineFound : statusLineLen (loop.available read) with
  | none =>
    rw [step_client_of_open reader nonempty lineFound]
    rw [linesFrom_open lineFound] at lines
    exact Or.inl ⟨handled, _, lines, rfl, accessEq, forwarded, causal,
      ⟨holds.order, holds.accepted⟩⟩
  | some n =>
    rw [step_client_of_line reader lineFound]
    rw [linesFrom_line lineFound] at lines
    exact Tracks.afterLine allowed running lines rfl accessEq forwarded causal
      ⟨holds.order, holds.accepted⟩

theorem Tracks.clientEof
    (tracks : Tracks backend before initial access input ⟨loop, [], arrived⟩ handled openLine)
    (allowed : access.canAccessBackend = true) (running : loop.exit = none)
    (usedUp : loop.buffered = []) :
    Invariant backend before initial access input
      ⟨loop.step handler (.client []), [], arrived⟩ := by
  have nothing : loop.available [] = [] := by simp [available, usedUp]
  have lines : linesFrom [] input = handled ++ linesFrom openLine [] := by
    simpa [usedUp] using tracks.lines
  rw [step_client_of_eof tracks.reader nothing]
  by_cases noOpenLine : openLine = []
  · subst noOpenLine
    exact Or.inl ⟨handled, [], lines, rfl, tracks.accessEq, tracks.forwarded, tracks.causal,
      ⟨tracks.holds.order, tracks.holds.accepted⟩⟩
  · rw [if_neg noOpenLine]
    rw [linesFrom, if_neg noOpenLine] at lines
    exact Tracks.afterLine allowed running lines rfl tracks.accessEq tracks.forwarded
      tracks.causal ⟨tracks.holds.order, tracks.holds.accepted⟩

theorem Tracks.backendRead {read : Bytes}
    (tracks : Tracks backend before initial access input ⟨loop, unread, arrived⟩ handled openLine)
    (running : loop.exit = none) (nonempty : read ≠ [])
    (causal : arrived ++ read <+: backend.responsesTo loop.forwarded) :
    Invariant backend before initial access input
      ⟨loop.step handler (.backend read), unread, arrived ++ read⟩ := by
  have forwarded : loop.forwarded = _ := tracks.forwarded
  rw [forwarded, ← backend.responsesOf_exchangesOf] at causal
  have settles := (tracks.holds.writeStatefulBackendBytes causal running).rest causal
  rcases read with _ | ⟨byte, read⟩
  · exact absurd rfl nonempty
  · rcases settles with ⟨heldNext, same, forwardedEq, _⟩ | isBroken
    · refine Or.inl ⟨handled, openLine, ?_, same.reader.trans tracks.reader,
        same.access.trans tracks.accessEq, forwardedEq.trans forwarded, causal, heldNext⟩
      have bufferedEq :
          (loop.step handler (.backend (byte :: read))).buffered = loop.buffered := same.buffered
      simpa only [bufferedEq] using tracks.lines
    · apply Or.inr
      rw [tracks.lines]
      exact isBroken.mono

theorem Tracks.exited
    (tracks : Tracks backend before initial access input ⟨loop, unread, arrived⟩ handled openLine)
    (exit : StatefulExit) :
    Invariant backend before initial access input
      ⟨{ loop with exit := some exit }, unread, arrived⟩ :=
  Or.inl ⟨handled, openLine, tracks.lines, tracks.reader, tracks.accessEq, tracks.forwarded,
    tracks.causal, ⟨tracks.holds.order, tracks.holds.accepted⟩⟩

theorem running_of_accepts {event : LoopInput}
    (accepts : loop.Accepts event) : loop.exit = none := by
  cases event with
  | client arrived => exact accepts.1
  | clientReadError => exact accepts.1
  | backend read => exact accepts
  | backendReadError => exact accepts

/-- A loop that can take a step has not ended. -/
theorem running_of_next {world later : World}
    (next : Next backend handler world later) : world.loop.exit = none := by
  cases next with
  | chunk _ accepts _ => exact running_of_accepts accepts
  | buffered _ accepts => exact running_of_accepts accepts
  | clientEof _ accepts => exact running_of_accepts accepts
  | clientReadError accepts => exact running_of_accepts accepts
  | backend _ accepts _ => exact running_of_accepts accepts
  | backendEof accepts => exact running_of_accepts accepts
  | backendReadError accepts => exact running_of_accepts accepts

theorem Invariant.next {world later : World}
    (invariant : Invariant backend before initial access input world)
    (allowed : access.canAccessBackend = true) (next : Next backend handler world later) :
    Invariant backend before initial access input later := by
  have running := running_of_next next
  rcases invariant with ⟨handled, openLine, tracks⟩ | isBroken
  · cases next with
    | @chunk loop read unread arrived nonempty _ usedUp =>
      have availableEq : loop.available read = read := by
        simp [available, usedUp]
      have lines := tracks.lines
      rw [usedUp] at lines
      exact Tracks.clientRound allowed running (by rwa [availableEq])
        (by rwa [availableEq]) tracks.reader tracks.accessEq tracks.forwarded tracks.causal
        tracks.holds
    | @buffered loop unread arrived left _ =>
      have availableEq : loop.available [] = loop.buffered := by
        simp [available]
      exact Tracks.clientRound allowed running (by rwa [availableEq])
        (by rw [availableEq]; exact tracks.lines) tracks.reader tracks.accessEq
        tracks.forwarded tracks.causal tracks.holds
    | clientEof usedUp _ => exact tracks.clientEof allowed running usedUp
    | clientReadError _ => exact tracks.exited .clientReadError
    | backend nonempty _ causal => exact tracks.backendRead running nonempty causal
    | backendEof _ => exact tracks.exited .backendDisconnected
    | backendReadError _ => exact tracks.exited .backendReadError
  · have stopped := isBroken.isSome_exit
    rw [running] at stopped
    simp at stopped

end Invariant

/-! ## Whole runs -/

theorem queueOf_exchanges (backend : Backend) (n : Nat) (requests : List RequestContext) :
    queueOf (backend.exchanges n requests) = requests.map fun request => .request request.kind := by
  induction requests generalizing n with
  | nil => rfl
  | cons request requests ih => exact congrArg _ (ih (n + 1))

/-- Before anything has arrived, forwarded requests are all open. -/
theorem delivered_exchanges (backend : Backend) (requests : List RequestContext) :
    delivered (backend.exchanges 0 requests) [] =
      ⟨[], requests.map fun request => .request request.kind, []⟩ := by
  rw [delivered, queueOf_exchanges]
  cases requests with
  | nil => rfl
  | cons request requests => rfl

variable {initial : List RequestContext}

theorem Starts.invariant (starts : Starts initial loop) (backend : Backend) (unread : Bytes) :
    Invariant backend loop.client.accepted initial loop.access (loop.buffered ++ unread)
      ⟨loop, unread, []⟩ := by
  have nothingHandled : backend.exchangesOf loop.access initial [] =
      backend.exchanges 0 initial := by
    simp [exchangesOf, history]
  refine Or.inl ⟨[], [], rfl, starts.reader, rfl, ?_, List.nil_prefix, ?_, ?_⟩
  · simp [starts.forwarded, forwardedLines]
  · rw [nothingHandled, orderFor, delivered_exchanges, starts.order,
      BackendResponseOrder.register_eq_orderOf]
  · simp [nothingHandled, delivered_exchanges]

theorem Starts.invariant_of_run {backend : Backend} {start : StatefulLoop} {world : World}
    (starts : Starts initial start) (run : Run backend handler ⟨start, unread, []⟩ world) :
    Invariant backend start.client.accepted initial start.access (start.buffered ++ unread)
      world := by
  induction run with
  | refl => exact starts.invariant backend unread
  | tail _ next invariant => exact invariant.next starts.allowed next

/-- Every line of the client was read and handled. -/
def World.AllLinesRead (world : World) : Prop :=
  world.unread = [] ∧ world.loop.buffered = [] ∧ world.loop.reader = fresh

/-- Every response to a forwarded request has arrived. -/
def World.AllResponsesArrived (backend : Backend) (world : World) : Prop :=
  world.arrived = backend.responsesTo world.loop.forwarded

/-- No write to the client or to the backend failed. -/
def World.Connected (world : World) : Prop :=
  world.loop.exit ≠ some .clientError ∧ world.loop.exit ≠ some .backendError

/-- One reply per line, in line order, behind those of the requests that were
already forwarded at the start. -/
def owedReplies (backend : Backend) (initial : List RequestContext) (start : StatefulLoop)
    (unread : Bytes) : Bytes :=
  repliesOf (backend.exchangesOf start.access initial (linesFrom [] (start.buffered ++ unread)))

theorem ofPartial_eq_fresh_iff : ofPartial openLine = fresh ↔ openLine = [] := by
  constructor
  · intro isFresh
    unfold ofPartial fresh at isFresh
    split at isFresh
    · simp at isFresh
    · simpa using isFresh
  · rintro rfl
    rfl

theorem Tracks.accepted_all {backend : Backend} {before : Bytes} {access : AuthenticationAccess}
    {input : Bytes} {world : World}
    (tracks : Tracks backend before initial access input world handled openLine)
    (allRead : world.AllLinesRead) (allArrived : world.AllResponsesArrived backend) :
    world.loop.client.accepted =
      before ++ repliesOf (backend.exchangesOf access initial (linesFrom [] input)) := by
  rcases allRead with ⟨unreadEq, bufferedEq, readerEq⟩
  have noOpenLine : openLine = [] := ofPartial_eq_fresh_iff.mp (tracks.reader.symm.trans readerEq)
  have allHandled : linesFrom [] input = handled := by
    rw [tracks.lines, bufferedEq, unreadEq, noOpenLine]
    simp [linesFrom]
  have arrivedEq : world.arrived = responsesOf (backend.exchangesOf access initial handled) := by
    rw [backend.responsesOf_exchangesOf, ← tracks.forwarded]
    exact allArrived
  rw [tracks.holds.accepted, arrivedEq, delivered_all, allHandled]

/-- Under every chunking and schedule the client has a prefix of one reply per
line in line order, and all of it once every line and every response was read. -/
theorem client_receives_replies_in_line_order {backend : Backend} {handler : AuthHandler}
    {initial : List RequestContext} {start : StatefulLoop} {unread : Bytes} {world : World}
    (starts : Starts initial start) (run : Run backend handler ⟨start, unread, []⟩ world) :
    (∃ sent, sent <+: owedReplies backend initial start unread ∧
        world.loop.client.accepted = start.client.accepted ++ sent) ∧
      (world.AllLinesRead → world.AllResponsesArrived backend → world.Connected →
        world.loop.client.accepted =
          start.client.accepted ++ owedReplies backend initial start unread) := by
  rcases starts.invariant_of_run run with ⟨handled, openLine, tracks⟩ | isBroken
  · constructor
    · refine ⟨_, ?_, tracks.holds.accepted⟩
      rw [owedReplies, tracks.lines]
      exact (delivered_isPrefix_replies tracks.causal).trans
        (backend.repliesOf_exchangesOf_isPrefix _ _ _ _)
    · intro allRead allArrived _
      exact tracks.accepted_all allRead allArrived
  · constructor
    · exact isBroken.accepted
    · rintro _ _ ⟨clientConnected, backendConnected⟩
      rcases isBroken.exit with clientError | backendError
      · exact absurd clientError clientConnected
      · exact absurd backendError backendConnected

/-- A backend that refuses every request. -/
def refusingBackend : Backend where
  respond _ request :=
    { text := ascii "500 no"
      status := .unknown
      body := []
      oneLine := by decide
      code := by decide
      ends := by
        rw [if_neg]
        simp [requestKindHasResponseBody, StatusCode.isError, StatusCode.unknown] }
  lineFits _ request := by
    intro hasBody
    simp [requestKindHasResponseBody, StatusCode.isError, StatusCode.unknown] at hasBody

/-- A loop of an unrestricted client that has not read anything. -/
def unrestrictedLoop : StatefulLoop where
  reader := fresh
  buffered := []
  access := .unrestricted
  authUsername := .anonymous
  identity := none
  order := .empty
  pendingBackendWrites := 0
  client := ⟨[], none, none⟩
  backend := ⟨[], none, none⟩
  forwarded := []
  unflushed := 0
  clientToBackend := 0
  backendToClient := 0
  exit := none

/-- A forwarded line and a local one behind it, answered in two backend reads. -/
def twoLineInputs : List LoopInput :=
  [.client (ascii "DATE\r\nCAPABILITIES\r\n"), .client [], .backend (ascii "500"),
    .backend (ascii " no\r\n")]

/-- The loop after the first inputs of `twoLineInputs`. -/
def twoLineLoop (n : Nat) : StatefulLoop :=
  (twoLineInputs.take n).foldl (step ⟨[], List.nodup_nil⟩) unrestrictedLoop

theorem run_twoLineLoop : Run refusingBackend ⟨[], by decide⟩
      ⟨unrestrictedLoop, ascii "DATE\r\nCAPABILITIES\r\n", []⟩
      ⟨twoLineLoop 4, [], ascii "500 no\r\n"⟩ := by
  have first : Next refusingBackend ⟨[], by decide⟩
      ⟨twoLineLoop 0, ascii "DATE\r\nCAPABILITIES\r\n" ++ [], []⟩ ⟨twoLineLoop 1, [], []⟩ :=
    .chunk (by decide) ⟨rfl, rfl, Or.inl rfl⟩ rfl
  have second : Next refusingBackend ⟨[], by decide⟩
      ⟨twoLineLoop 1, [], []⟩ ⟨twoLineLoop 2, [], []⟩ :=
    .buffered (by decide +kernel)
      ⟨by decide +kernel, by decide +kernel, Or.inr rfl⟩
  have third : Next refusingBackend ⟨[], by decide⟩
      ⟨twoLineLoop 2, [], []⟩ ⟨twoLineLoop 3, [], ascii "500"⟩ :=
    @Next.backend refusingBackend ⟨[], by decide⟩ (twoLineLoop 2) [] [] (ascii "500")
      (by decide) (by unfold StatefulLoop.Accepts; decide +kernel) (by decide +kernel)
  have fourth : Next refusingBackend ⟨[], by decide⟩
      ⟨twoLineLoop 3, [], ascii "500"⟩ ⟨twoLineLoop 4, [], ascii "500 no\r\n"⟩ :=
    @Next.backend refusingBackend ⟨[], by decide⟩ (twoLineLoop 3) [] (ascii "500")
      (ascii " no\r\n") (by decide) (by unfold StatefulLoop.Accepts; decide +kernel)
      (by decide +kernel)
  exact (((Relation.ReflTransGen.single first).tail second).tail third).tail fourth

/-- The local reply to the second line comes behind the backend's response. -/
theorem twoLineLoop_receives_replies_in_line_order :
    (twoLineLoop 4).client.accepted =
      owedReplies refusingBackend [] unrestrictedLoop (ascii "DATE\r\nCAPABILITIES\r\n") :=
  (client_receives_replies_in_line_order ⟨rfl, rfl, rfl, rfl, rfl⟩ run_twoLineLoop).2
    ⟨rfl, by decide +kernel, by decide +kernel⟩
    (by unfold World.AllResponsesArrived; decide +kernel)
    ⟨by decide +kernel, by decide +kernel⟩

end NntpProxy.Stateful
