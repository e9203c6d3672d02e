import NntpProxy.Stateful.Reader

/-!
# Batches of commands

The client's stream is read line by line.  The first command of a batch is waited for; more
commands are taken as long as complete lines are there without waiting, and as long as the
commands are requests for articles by their message identifiers.  Any other item ends the
batch and stands behind it.

The connection gives octets read by read.  A read that does not wait can come too early for
octets that a later one finds, so that every read says how many such polls miss it.
-/

namespace NntpProxy.PerCommand

open Protocol Stateful.StatefulCommandReader List RequestContext

/-! ## The client's connection -/

/-- The octets of one read, and how many polls come too early for it. -/
structure Arrival where
  octets : Bytes
  nonempty : octets ≠ []
  early : Nat
  deriving DecidableEq, Repr

/-- How the connection ends: the client closes it, or a read fails, which some polls come too
early for. -/
inductive Ending where
  | eof
  | failed (early : Nat)
  deriving DecidableEq, Repr

/-- A reader with a buffer: the octets in the buffer and what is still to be read. -/
structure ClientReader where
  buffered : Bytes
  arrivals : List Arrival
  ending : Ending
  deriving DecidableEq, Repr

namespace ClientReader

/-- The octets that were not consumed yet. -/
def contents (reader : ClientReader) : Bytes :=
  reader.buffered ++ reader.arrivals.flatMap (·.octets)

/-- The lines that were not consumed yet, the last one possibly without a line feed. -/
def lines (reader : ClientReader) : List Bytes :=
  linesFrom [] reader.contents

end ClientReader

/-! ## Lines -/

/-- The item of a line. -/
inductive CommandLine where
  | eof
  | oversized (wireLen : Nat)
  | invalid
  | parsed (request : RequestContext)
  deriving DecidableEq, Repr

/-- The item of a line that fits. -/
def CommandLine.ofRequest : Option RequestContext → CommandLine
  | none => .invalid
  | some request => .parsed request

/-- Skip an oversized line of which this many octets were consumed. -/
def drainOversizedCommandLine (ending : Ending) (wireLen : Nat) (available : Bytes)
    (arrivals : List Arrival) : Option CommandLine × ClientReader :=
  match statusLineLen available with
  | some stop => (some (.oversized (wireLen + stop)), ⟨available.drop stop, arrivals, ending⟩)
  | none =>
    match arrivals with
    | [] =>
      match ending with
      | .eof => (some (.oversized (wireLen + available.length)), ⟨[], [], ending⟩)
      | .failed _ => (none, ⟨[], [], ending⟩)
    | arrival :: arrivals =>
      drainOversizedCommandLine ending (wireLen + available.length) arrival.octets arrivals

/-- Read on behind the front of a line.  Without an item the read failed. -/
def readLineFrom (ending : Ending) (line available : Bytes) (arrivals : List Arrival) :
    Option CommandLine × ClientReader :=
  match statusLineLen available with
  | some stop =>
    (some (if line.length + stop > maxCommandLineOctets then .oversized (line.length + stop)
      else .ofRequest (parse (line ++ available.take stop))),
      ⟨available.drop stop, arrivals, ending⟩)
  | none =>
    if line.length + available.length > maxCommandLineOctets then
      drainOversizedCommandLine ending (line.length + available.length) [] arrivals
    else
      match arrivals with
      | [] =>
        match ending with
        | .eof =>
          (some (if line ++ available = [] then .eof
            else .ofRequest (parse (line ++ available))), ⟨[], [], ending⟩)
        | .failed _ => (none, ⟨[], [], ending⟩)
      | arrival :: arrivals =>
        readLineFrom ending (line ++ available) arrival.octets arrivals

/-- Read one line, and wait for it. -/
def readCommandLine (reader : ClientReader) : Option CommandLine × ClientReader :=
  readLineFrom reader.ending [] reader.buffered reader.arrivals

/-- A complete line is in the buffer. -/
def queuedCompleteCommandLine (reader : ClientReader) : Bool :=
  (statusLineLen reader.buffered).isSome

/-- Fill an empty buffer with what is there without waiting.  Says whether there was
anything; without that the read failed. -/
def refillAvailableClientBytes (reader : ClientReader) : Option Bool × ClientReader :=
  if reader.buffered ≠ [] then (some false, reader)
  else
    match reader.arrivals with
    | arrival :: arrivals =>
      match arrival.early with
      | 0 => (some true, { reader with buffered := arrival.octets, arrivals := arrivals })
      | early + 1 =>
        (some false, { reader with arrivals := { arrival with early := early } :: arrivals })
    | [] =>
      match reader.ending with
      | .eof => (some false, reader)
      | .failed 0 => (none, reader)
      | .failed (early + 1) => (some false, { reader with ending := .failed early })

/-! ## Batches -/

def maxPipelineDepth : Nat := 32

/-- A request that can be pipelined. -/
structure PipelineableRequest where
  request : RequestContext
  isPipelineable : request.isPipelineable = true
  deriving DecidableEq, Repr

/-- A request as the next one of a batch, if it can be pipelined. -/
def PipelineableRequest.partition (request : RequestContext) :
    Except RequestContext PipelineableRequest :=
  if isPipelineable : request.isPipelineable = true then .ok ⟨request, isPipelineable⟩
  else .error request

inductive RequestRejection where
  | oversized (wireLen : Nat)
  | invalid
  deriving DecidableEq, Repr

inductive BatchContents where
  | empty
  | rejected (rejection : RequestRejection)
  | contexts (requests : List PipelineableRequest)
  deriving DecidableEq, Repr

/-- What stands behind the requests of a batch. -/
inductive BatchTail where
  | none
  | context (request : RequestContext)
  | rejection (rejection : RequestRejection)
  deriving DecidableEq, Repr

structure RequestBatch where
  contents : BatchContents
  trailing : BatchTail
  deriving DecidableEq, Repr

/-- Whether a further complete line can be read without waiting, and the reader behind the
attempt to get one. -/
def nextQueuedLine (reader : ClientReader) : Option Bool × ClientReader :=
  if queuedCompleteCommandLine reader then (some true, reader)
  else
    match refillAvailableClientBytes reader with
    | (some true, reader) => (some (queuedCompleteCommandLine reader), reader)
    | (some false, reader) => (some false, reader)
    | (none, reader) => (none, reader)

/-- Add lines to a batch as long as it has room. -/
def readMoreCommands : Nat → List PipelineableRequest → ClientReader →
    Option RequestBatch × ClientReader
  | 0, requests, reader => (some ⟨.contexts requests, .none⟩, reader)
  | room + 1, requests, reader =>
    match nextQueuedLine reader with
    | (none, reader) => (none, reader)
    | (some false, reader) => (some ⟨.contexts requests, .none⟩, reader)
    | (some true, reader) =>
      match readCommandLine reader with
      | (none, reader) => (none, reader)
      | (some .eof, reader) => (some ⟨.contexts requests, .none⟩, reader)
      | (some (.oversized wireLen), reader) =>
        (some ⟨.contexts requests, .rejection (.oversized wireLen)⟩, reader)
      | (some .invalid, reader) => (some ⟨.contexts requests, .rejection .invalid⟩, reader)
      | (some (.parsed request), reader) =>
        match PipelineableRequest.partition request with
        | .ok request => readMoreCommands room (requests ++ [request]) reader
        | .error request => (some ⟨.contexts requests, .context request⟩, reader)

/-- Read a batch of commands; the first command is waited for.  Without a batch a read
failed. -/
def readCommandBatch (reader : ClientReader) : Option RequestBatch × ClientReader :=
  match readCommandLine reader with
  | (none, reader) => (none, reader)
  | (some .eof, reader) => (some ⟨.empty, .none⟩, reader)
  | (some .invalid, reader) => (some ⟨.rejected .invalid, .none⟩, reader)
  | (some (.oversized wireLen), reader) => (some ⟨.rejected (.oversized wireLen), .none⟩, reader)
  | (some (.parsed request), reader) =>
    match PipelineableRequest.partition request with
    | .ok request => readMoreCommands (maxPipelineDepth - 1) [request] reader
    | .error request => (some ⟨.empty, .context request⟩, reader)

/-! ## What a line reads -/

/-- The item of a whole line. -/
def lineItem (line : Bytes) : CommandLine :=
  if line.length > maxCommandLineOctets then .oversized line.length
  else .ofRequest (parse line)

/-- What reading a line does behind the octets `before` of the line: it gives the item of the
line and leaves what follows its line feed; without a line feed the rest of the stream is a
line, unless a read fails. -/
inductive ReadsLine (ending : Ending) (before contents : Bytes) :
    Option CommandLine × ClientReader → Prop where
  | line {stop : Nat} (found : statusLineLen contents = some stop) (next : ClientReader)
      (contentsEq : next.contents = contents.drop stop) (endingEq : next.ending = ending) :
      ReadsLine ending before contents (some (lineItem (before ++ contents.take stop)), next)
  | tail (noLine : statusLineLen contents = none) (isEof : ending = .eof) :
      ReadsLine ending before contents
        (some (if before ++ contents = [] then .eof else lineItem (before ++ contents)),
          ⟨[], [], .eof⟩)
  | failed (noLine : statusLineLen contents = none) {early : Nat}
      (fails : ending = .failed early) : ReadsLine ending before contents (none, ⟨[], [], ending⟩)

variable {ending : Ending} {before available : Bytes}

theorem ReadsLine.of_append {rest : Bytes} {outcome : Option CommandLine × ClientReader}
    (noLine : statusLineLen available = none)
    (reads : ReadsLine ending (before ++ available) rest outcome) :
    ReadsLine ending before (available ++ rest) outcome := by
  have found := statusLineLen_append_of_none noLine rest
  cases reads with
  | @line stop lineFound next contentsEq endingEq =>
    rw [lineFound] at found
    rw [append_assoc, ← take_length_add_append]
    refine .line found next ?_ endingEq
    rw [contentsEq, drop_length_add_append]
  | tail noMore isEof =>
    rw [noMore] at found
    rw [append_assoc]
    exact .tail found isEof
  | failed noMore fails =>
    rw [noMore] at found
    exact .failed found fails

variable {next : ClientReader}

theorem ReadsLine.of_line {stop : Nat} {rest : Bytes}
    (lineFound : statusLineLen available = some stop)
    (contentsEq : next.contents = available.drop stop ++ rest) (endingEq : next.ending = ending) :
    ReadsLine ending before (available ++ rest)
      (some (lineItem (before ++ available.take stop)), next) := by
  have bound := (statusLineLen_le lineFound).2
  rw [← take_append_of_le_length bound]
  refine .line (statusLineLen_append_of_some lineFound rest) next ?_ endingEq
  rw [contentsEq, drop_append_of_le_length bound]

theorem lineItem_of_long {line : Bytes} (long : line.length > maxCommandLineOctets) :
    lineItem line = .oversized line.length :=
  if_pos long

theorem length_append_line (before : Bytes) {stop : Nat}
    (lineFound : statusLineLen available = some stop) :
    (before ++ available.take stop).length = before.length + stop := by
  rw [length_append, length_take, Nat.min_eq_left (statusLineLen_le lineFound).2]

theorem ReadsLine.of_longLine {stop : Nat} {rest : Bytes}
    (long : before.length > maxCommandLineOctets) (lineFound : statusLineLen available = some stop)
    (contentsEq : next.contents = available.drop stop ++ rest) (endingEq : next.ending = ending) :
    ReadsLine ending before (available ++ rest)
      (some (.oversized (before.length + stop)), next) := by
  have lengthEq := length_append_line before lineFound
  rw [← lengthEq, ← lineItem_of_long (by omega)]
  exact .of_line lineFound contentsEq endingEq

theorem drainOversizedCommandLine_readsLine (long : before.length > maxCommandLineOctets)
    (available : Bytes) (arrivals : List Arrival) :
    ReadsLine ending before (available ++ arrivals.flatMap (·.octets))
      (drainOversizedCommandLine ending before.length available arrivals) := by
  induction arrivals generalizing before available with
  | nil =>
    unfold drainOversizedCommandLine
    split
    next stop lineFound => exact .of_longLine long lineFound rfl rfl
    next noLine =>
      rw [flatMap_nil, append_nil]
      cases ending with
      | eof =>
        have longer : (before ++ available).length > maxCommandLineOctets := by
          rw [length_append]
          omega
        have nonempty : before ++ available ≠ [] := ne_nil_of_length_pos (by omega)
        have reads : ReadsLine .eof before available _ := .tail noLine rfl
        rw [if_neg nonempty, lineItem_of_long longer, length_append] at reads
        exact reads
      | failed early => exact .failed noLine rfl
  | cons arrival arrivals ih =>
    unfold drainOversizedCommandLine
    split
    next stop lineFound => exact .of_longLine long lineFound rfl rfl
    next noLine =>
      apply ReadsLine.of_append noLine
      rw [← length_append]
      apply ih
      rw [length_append]
      omega

theorem readLineFrom_of_line {stop : Nat} (lineFound : statusLineLen available = some stop)
    (arrivals : List Arrival) :
    readLineFrom ending before available arrivals =
      (some (lineItem (before ++ available.take stop)),
        ⟨available.drop stop, arrivals, ending⟩) := by
  rw [lineItem, length_append_line before lineFound]
  unfold readLineFrom
  rw [lineFound]

theorem readLineFrom_of_long (noLine : statusLineLen available = none)
    (long : (before ++ available).length > maxCommandLineOctets) (arrivals : List Arrival) :
    readLineFrom ending before available arrivals =
      drainOversizedCommandLine ending (before ++ available).length [] arrivals := by
  rw [length_append] at long ⊢
  unfold readLineFrom
  rw [noLine]
  exact if_pos long

theorem readLineFrom_readsLine (before available : Bytes) (arrivals : List Arrival) :
    ReadsLine ending before (available ++ arrivals.flatMap (·.octets))
      (readLineFrom ending before available arrivals) := by
  induction arrivals generalizing before available with
  | nil =>
    cases lineFound : statusLineLen available with
    | some stop =>
      rw [readLineFrom_of_line lineFound]
      exact .of_line lineFound rfl rfl
    | none =>
      by_cases long : (before ++ available).length > maxCommandLineOctets
      · rw [readLineFrom_of_long lineFound long]
        exact .of_append lineFound (drainOversizedCommandLine_readsLine long [] [])
      · rw [length_append] at long
        rw [flatMap_nil, append_nil]
        unfold readLineFrom
        simp only [lineFound, long]
        cases ending with
        | eof =>
          have reads : ReadsLine .eof before available _ := .tail lineFound rfl
          rw [lineItem, length_append, ite_cond_eq_false _ _ (eq_false long)] at reads
          exact reads
        | failed early => exact .failed lineFound rfl
  | cons arrival arrivals ih =>
    cases lineFound : statusLineLen available with
    | some stop =>
      rw [readLineFrom_of_line lineFound]
      exact .of_line lineFound rfl rfl
    | none =>
      apply ReadsLine.of_append lineFound
      by_cases long : (before ++ available).length > maxCommandLineOctets
      · rw [readLineFrom_of_long lineFound long]
        exact drainOversizedCommandLine_readsLine long [] (arrival :: arrivals)
      · rw [readLineFrom]
        rw [length_append] at long
        simp only [lineFound, long]
        exact ih (before ++ available) arrival.octets

theorem readCommandLine_readsLine (reader : ClientReader) :
    ReadsLine reader.ending [] reader.contents (readCommandLine reader) :=
  readLineFrom_readsLine [] reader.buffered reader.arrivals

/-! ## What a batch reads -/

theorem lineItem_ne_eof (line : Bytes) : lineItem line ≠ .eof := by
  unfold lineItem
  split
  · simp
  · cases parse line with
    | none => simp [CommandLine.ofRequest]
    | some request => simp [CommandLine.ofRequest]

/-- What was read is the item of the next line, whose octets are gone, or the end of the
stream. -/
inductive TakesLine (reader : ClientReader) (item : CommandLine) (next : ClientReader) : Prop where
  | closed (isClosed : item = .eof) (noLines : reader.lines = []) (noneLeft : next.lines = [])
      (shorter : next.contents.length ≤ reader.contents.length)
  | line (line : Bytes) (itemEq : lineItem line = item)
      (linesEq : reader.lines = line :: next.lines)
      (shorter : next.contents.length < reader.contents.length)

variable {reader : ClientReader}

theorem takesLine_of_readCommandLine {item : CommandLine}
    (readEq : readCommandLine reader = (some item, next)) : TakesLine reader item next := by
  have reads := readCommandLine_readsLine reader
  rw [readEq] at reads
  cases reads with
  | @line stop found next contentsEq endingEq =>
    have linesEq := linesFrom_line found [] []
    rw [append_nil, append_nil] at linesEq
    have bounds := statusLineLen_le found
    refine .line (reader.contents.take stop) rfl ?_ ?_
    · rw [ClientReader.lines, linesEq, ClientReader.lines, contentsEq, nil_append]
    · rw [contentsEq, length_drop]
      omega
  | tail noLine isEof =>
    have linesEq := linesFrom_open noLine [] []
    rw [append_nil, nil_append, linesFrom] at linesEq
    rw [nil_append]
    split
    next isEmpty =>
      rw [if_pos isEmpty] at linesEq
      exact .closed rfl linesEq rfl (Nat.zero_le _)
    next nonempty =>
      rw [if_neg nonempty] at linesEq
      exact .line reader.contents rfl linesEq (length_pos_of_ne_nil nonempty)

def RequestRejection.item : RequestRejection → CommandLine
  | .oversized wireLen => .oversized wireLen
  | .invalid => .invalid

def BatchContents.items : BatchContents → List CommandLine
  | .empty => []
  | .rejected reason => [reason.item]
  | .contexts requests => requests.map fun request => .parsed request.request

def BatchTail.items : BatchTail → List CommandLine
  | .none => []
  | .context request => [.parsed request]
  | .rejection reason => [reason.item]

/-- The items of a batch, in their order. -/
def RequestBatch.items (batch : RequestBatch) : List CommandLine :=
  batch.contents.items ++ batch.trailing.items

/-- Looking for a further line consumes nothing. -/
theorem contents_nextQueuedLine (reader : ClientReader) :
    (nextQueuedLine reader).2.contents = reader.contents := by
  have refilled : (refillAvailableClientBytes reader).2.contents = reader.contents := by
    rcases reader with ⟨buffered, arrivals, ending⟩
    unfold refillAvailableClientBytes
    split
    · rfl
    next isEmpty =>
      obtain rfl : buffered = [] := not_not.mp isEmpty
      split
      next arrival arrivals arrivalsEq =>
        obtain rfl : _ = arrival :: arrivals := arrivalsEq
        cases early : arrival.early with
        | zero => simp [ClientReader.contents]
        | succ early => simp [ClientReader.contents]
      next arrivalsEq =>
        split <;> rfl
  unfold nextQueuedLine
  split
  · rfl
  · rw [← refilled]
    rcases refillAvailableClientBytes reader with ⟨_ | _ | _, next⟩
    · rfl
    · rfl
    · rfl

/-- What reading on behind the requests of a batch does: it adds requests as long as there is
room, ends with at most one line of another kind, and leaves the lines behind them. -/
structure ReadsMore (room : Nat) (requests : List PipelineableRequest) (reader : ClientReader)
    (batch : RequestBatch) (next : ClientReader) : Prop where
  contents : ∃ more, batch.contents = .contexts (requests ++ more) ∧ more.length ≤ room
  other : ∀ request, batch.trailing = .context request → request.isPipelineable = false
  lines : ∃ taken, reader.lines = taken ++ next.lines ∧
    batch.items = (BatchContents.contexts requests).items ++ taken.map lineItem
  shorter : next.contents.length ≤ reader.contents.length

section

variable {room : Nat} {requests : List PipelineableRequest} {reader middle next : ClientReader}
variable {batch : RequestBatch}

theorem ReadsMore.stop (sameLines : reader.lines = next.lines)
    (shorter : next.contents.length ≤ reader.contents.length) :
    ReadsMore room requests reader ⟨.contexts requests, .none⟩ next :=
  ⟨⟨[], by simp, Nat.zero_le _⟩, nofun, ⟨[], sameLines, rfl⟩, shorter⟩

theorem ReadsMore.tail {line : Bytes} {trailing : BatchTail}
    (itemEq : trailing.items = [lineItem line])
    (other : ∀ request, trailing = .context request → request.isPipelineable = false)
    (linesEq : reader.lines = line :: next.lines)
    (shorter : next.contents.length ≤ reader.contents.length) :
    ReadsMore room requests reader ⟨.contexts requests, trailing⟩ next :=
  ⟨⟨[], by simp, Nat.zero_le _⟩, other, ⟨[line], linesEq, by simp [RequestBatch.items, itemEq]⟩,
    shorter⟩

theorem ReadsMore.cons {line : Bytes} {request : PipelineableRequest}
    (itemEq : lineItem line = .parsed request.request)
    (linesEq : reader.lines = line :: middle.lines)
    (shorter : middle.contents.length ≤ reader.contents.length)
    (reads : ReadsMore room (requests ++ [request]) middle batch next) :
    ReadsMore (room + 1) requests reader batch next := by
  rcases reads.contents with ⟨more, contentsEq, inRoom⟩
  rcases reads.lines with ⟨taken, takenEq, itemsEq⟩
  refine ⟨⟨request :: more, ?_, Nat.succ_le_succ inRoom⟩, reads.other, ⟨line :: taken, ?_, ?_⟩, ?_⟩
  · rw [contentsEq, append_assoc, singleton_append]
  · rw [linesEq, takenEq, cons_append]
  · rw [itemsEq]
    simp [BatchContents.items, itemEq]
  · exact Nat.le_trans reads.shorter shorter

theorem readsMore_of_readMoreCommands
    (readEq : readMoreCommands room requests reader = (some batch, next)) :
    ReadsMore room requests reader batch next := by
  induction room generalizing reader requests with
  | zero =>
    cases readEq
    exact .stop rfl (Nat.le_refl _)
  | succ room ih =>
    have sameContents := contents_nextQueuedLine reader
    unfold readMoreCommands at readEq
    rcases polledEq : nextQueuedLine reader with ⟨_ | _ | _, polled⟩
    · simp [polledEq] at readEq
    · rw [polledEq] at readEq sameContents
      cases readEq
      exact .stop (congrArg (linesFrom []) sameContents.symm)
        (Nat.le_of_eq (congrArg length sameContents))
    · rw [polledEq] at sameContents
      have sameLines : reader.lines = polled.lines := congrArg (linesFrom []) sameContents.symm
      rcases lineEq : readCommandLine polled with ⟨_ | item, read⟩
      · simp [polledEq, lineEq] at readEq
      · simp only [polledEq, lineEq] at readEq
        cases takesLine_of_readCommandLine lineEq with
        | closed isClosed noLines noneLeft shorter =>
          subst isClosed
          cases readEq
          rw [sameContents] at shorter
          exact .stop (sameLines.trans (noLines.trans noneLeft.symm)) shorter
        | line line itemEq linesEq shorter =>
          rw [sameContents] at shorter
          have linesEq := sameLines.trans linesEq
          cases item with
          | eof => exact absurd itemEq (lineItem_ne_eof line)
          | parsed request =>
            simp only [PipelineableRequest.partition] at readEq
            by_cases isPipelineable : request.isPipelineable = true
            · simp only [dif_pos isPipelineable] at readEq
              exact .cons itemEq linesEq (Nat.le_of_lt shorter) (ih readEq)
            · simp only [dif_neg isPipelineable] at readEq
              cases readEq
              refine .tail (congrArg (fun item => [item]) itemEq.symm) ?_ linesEq
                (Nat.le_of_lt shorter)
              rintro other ⟨⟩
              exact Bool.not_eq_true _ ▸ isPipelineable
          | _ =>
            cases readEq
            exact .tail (congrArg (fun item => [item]) itemEq.symm) nofun linesEq
              (Nat.le_of_lt shorter)

/-- What reading a batch does: it ends with the stream, or its first line decides whether
there is more behind it. -/
inductive ReadsBatch (reader : ClientReader) : RequestBatch → ClientReader → Prop where
  | closed {next : ClientReader} (noLines : reader.lines = []) (noneLeft : next.lines = []) :
      ReadsBatch reader ⟨.empty, .none⟩ next
  | rejected {next : ClientReader} {line : Bytes} {rejection : RequestRejection}
      (itemEq : lineItem line = rejection.item) (linesEq : reader.lines = line :: next.lines)
      (shorter : next.contents.length < reader.contents.length) :
      ReadsBatch reader ⟨.rejected rejection, .none⟩ next
  | alone {next : ClientReader} {line : Bytes} {request : RequestContext}
      (itemEq : lineItem line = .parsed request) (other : request.isPipelineable = false)
      (linesEq : reader.lines = line :: next.lines)
      (shorter : next.contents.length < reader.contents.length) :
      ReadsBatch reader ⟨.empty, .context request⟩ next
  | pipelined {middle next : ClientReader} {line : Bytes} {request : PipelineableRequest}
      {batch : RequestBatch} (itemEq : lineItem line = .parsed request.request)
      (linesEq : reader.lines = line :: middle.lines)
      (shorter : middle.contents.length < reader.contents.length)
      (more : ReadsMore (maxPipelineDepth - 1) [request] middle batch next) :
      ReadsBatch reader batch next

theorem readsBatch_of_readCommandBatch (readEq : readCommandBatch reader = (some batch, next)) :
    ReadsBatch reader batch next := by
  unfold readCommandBatch at readEq
  rcases lineEq : readCommandLine reader with ⟨_ | item, read⟩
  · simp [lineEq] at readEq
  · rw [lineEq] at readEq
    cases takesLine_of_readCommandLine lineEq with
    | closed isClosed noLines noneLeft _ =>
      subst isClosed
      cases readEq
      exact .closed noLines noneLeft
    | line line itemEq linesEq shorter =>
      cases item with
      | eof => exact absurd itemEq (lineItem_ne_eof line)
      | oversized wireLen =>
        cases readEq
        exact .rejected itemEq linesEq shorter
      | invalid =>
        cases readEq
        exact .rejected itemEq linesEq shorter
      | parsed request =>
        simp only [PipelineableRequest.partition] at readEq
        by_cases isPipelineable : request.isPipelineable = true
        · simp only [dif_pos isPipelineable] at readEq
          exact .pipelined itemEq linesEq shorter (readsMore_of_readMoreCommands readEq)
        · simp only [dif_neg isPipelineable] at readEq
          cases readEq
          exact .alone itemEq (Bool.not_eq_true _ ▸ isPipelineable) linesEq shorter

theorem ReadsBatch.lines (reads : ReadsBatch reader batch next) :
    ∃ taken, reader.lines = taken ++ next.lines ∧ batch.items = taken.map lineItem := by
  cases reads with
  | closed noLines noneLeft => exact ⟨[], by rw [noLines, noneLeft, append_nil], rfl⟩
  | rejected itemEq linesEq => exact ⟨[_], linesEq, congrArg (fun item => [item]) itemEq.symm⟩
  | alone itemEq _ linesEq => exact ⟨[_], linesEq, congrArg (fun item => [item]) itemEq.symm⟩
  | @pipelined _ _ line _ _ itemEq linesEq _ more =>
    rcases more.lines with ⟨taken, takenEq, itemsEq⟩
    refine ⟨line :: taken, ?_, ?_⟩
    · rw [linesEq, takenEq, cons_append]
    · rw [itemsEq, map_cons, itemEq]
      rfl

/-- A batch takes octets off the stream, unless the client closed its connection. -/
theorem length_readCommandBatch (readEq : readCommandBatch reader = (some batch, next)) :
    batch = ⟨.empty, .none⟩ ∨ next.contents.length < reader.contents.length := by
  cases readsBatch_of_readCommandBatch readEq with
  | closed => exact Or.inl rfl
  | rejected _ _ shorter => exact Or.inr shorter
  | alone _ _ _ shorter => exact Or.inr shorter
  | pipelined _ _ shorter more => exact Or.inr (Nat.lt_of_le_of_lt more.shorter shorter)

theorem trailing_of_rejected (readEq : readCommandBatch reader = (some batch, next))
    (rejection : RequestRejection) (isRejected : batch.contents = .rejected rejection) :
    batch.trailing = .none := by
  cases readsBatch_of_readCommandBatch readEq with
  | closed => rfl
  | rejected => rfl
  | alone => cases isRejected
  | pipelined _ _ _ more =>
    rcases more.contents with ⟨all, isContexts, -⟩
    cases isRejected.symm.trans isContexts

end

/-! ## Clients that close their connection -/

theorem readCommandLine_eof (isEof : reader.ending = .eof) :
    ∃ item next, readCommandLine reader = (some item, next) ∧ next.ending = .eof := by
  have reads := readCommandLine_readsLine reader
  generalize readCommandLine reader = outcome at reads
  cases reads with
  | line found next contentsEq endingEq => exact ⟨_, next, rfl, endingEq.trans isEof⟩
  | tail => exact ⟨_, _, rfl, rfl⟩
  | failed _ fails => cases isEof.symm.trans fails

theorem nextQueuedLine_eof (isEof : reader.ending = .eof) :
    ∃ more next, nextQueuedLine reader = (some more, next) ∧ next.ending = .eof := by
  have refilled : ∃ more next, refillAvailableClientBytes reader = (some more, next) ∧
      next.ending = .eof := by
    rcases reader with ⟨buffered, arrivals, ending⟩
    obtain rfl : ending = .eof := isEof
    unfold refillAvailableClientBytes
    split
    · exact ⟨_, _, rfl, rfl⟩
    · rcases arrivals with _ | ⟨⟨octets, nonempty, _ | early⟩, arrivals⟩
      · exact ⟨_, _, rfl, rfl⟩
      · exact ⟨_, _, rfl, rfl⟩
      · exact ⟨_, _, rfl, rfl⟩
  unfold nextQueuedLine
  split
  · exact ⟨_, _, rfl, isEof⟩
  · rcases refilled with ⟨_ | _, next, refillEq, stillEof⟩
    · rw [refillEq]
      exact ⟨_, _, rfl, stillEof⟩
    · rw [refillEq]
      exact ⟨_, _, rfl, stillEof⟩

theorem readMoreCommands_eof (isEof : reader.ending = .eof) (room : Nat)
    (requests : List PipelineableRequest) :
    ∃ batch next, readMoreCommands room requests reader = (some batch, next) ∧
      next.ending = .eof := by
  induction room generalizing reader requests with
  | zero => exact ⟨_, _, rfl, isEof⟩
  | succ room ih =>
    rcases nextQueuedLine_eof isEof with ⟨more, polled, polledEq, isEof⟩
    rw [readMoreCommands, polledEq]
    cases more with
    | false => exact ⟨_, _, rfl, isEof⟩
    | true =>
      rcases readCommandLine_eof isEof with ⟨item, next, readEq, isEof⟩
      simp only [readEq]
      cases item with
      | parsed request =>
        simp only
        split
        · exact ih isEof _
        · exact ⟨_, _, rfl, isEof⟩
      | _ => exact ⟨_, _, rfl, isEof⟩

/-- The reader that is left behind the batch of a client that closes its connection in the
end. -/
structure TakesLines (lines : List Bytes) (items : List CommandLine) (next : ClientReader) :
    Prop where
  isEof : next.ending = .eof
  joined : ∃ taken, lines = taken ++ next.lines ∧ items = taken.map lineItem

/-- A batch of a client that closes its connection in the end holds the items of the next
lines, at least one of them if there is one. -/
theorem readCommandBatch_eof (isEof : reader.ending = .eof) :
    ∃ batch next, readCommandBatch reader = (some batch, next) ∧
      TakesLines reader.lines batch.items next ∧ (batch = ⟨.empty, .none⟩ ↔ reader.lines = []) := by
  have exists_batch : ∃ batch next, readCommandBatch reader = (some batch, next) ∧
      next.ending = .eof := by
    rcases readCommandLine_eof isEof with ⟨item, next, readEq, isEof⟩
    rw [readCommandBatch, readEq]
    cases item with
    | parsed request =>
      simp only
      split
      · exact readMoreCommands_eof isEof _ _
      · exact ⟨_, _, rfl, isEof⟩
    | _ => exact ⟨_, _, rfl, isEof⟩
  rcases exists_batch with ⟨batch, next, readEq, isEof⟩
  have reads := readsBatch_of_readCommandBatch readEq
  refine ⟨batch, next, readEq, ⟨isEof, reads.lines⟩, ?_⟩
  cases reads with
  | closed noLines _ => exact iff_of_true rfl noLines
  | rejected _ linesEq => simp [linesEq]
  | alone _ _ linesEq => simp [linesEq]
  | pipelined _ linesEq _ more =>
    rcases more.contents with ⟨all, isContexts, -⟩
    refine iff_of_false ?_ (by simp [linesEq])
    rintro rfl
    cases isContexts

end NntpProxy.PerCommand
