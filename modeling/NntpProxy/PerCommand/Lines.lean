import NntpProxy.PerCommand.Reader

/-!
# Two readers of one stream

The batch reader and the stateful reader split the client's stream at its line feeds, each
with a path of its own for lines that end inside a buffer, lines that are carried over and
lines that are too long.  However the stream arrives, both give the items of the same lines.
-/

namespace NntpProxy.PerCommand

open Protocol Stateful RequestBatch CommandLine

/-! ## The reference -/

/-- The items of a stream that is split behind each line feed. -/
def referenceItems (stream : Bytes) : List StatefulClientLine :=
  (StatefulCommandReader.linesFrom [] stream).map StatefulCommandReader.lineItem

/-- The item of the batch reader without the length of an oversized line. -/
def CommandLine.withoutLength : CommandLine → StatefulClientLine
  | .eof => .eof
  | .oversized _ => .oversized
  | .invalid => .invalid
  | .parsed request => .ready request

theorem withoutLength_lineItem (line : Bytes) :
    (lineItem line).withoutLength = StatefulCommandReader.lineItem line := by
  unfold lineItem StatefulCommandReader.lineItem StatefulCommandReader.parsedLine
  split
  · rfl
  · cases RequestContext.parse line with
    | none => rfl
    | some request => rfl

/-! ## The stateful reader -/

/-- Read on with the octets that are available.  Without an item the read failed. -/
def readNextFrom (ending : Ending) (lines : StatefulCommandReader) (available : Bytes)
    (arrivals : List Arrival) : Option StatefulClientLine × StatefulCommandReader × ClientReader :=
  match lines.readRound available with
  | (some item, consumed, next) => (some item, next, ⟨available.drop consumed, arrivals, ending⟩)
  | (none, _, next) =>
    match arrivals with
    | arrival :: arrivals => readNextFrom ending next arrival.octets arrivals
    | [] =>
      match ending with
      | .eof => ((next.readRound []).1, (next.readRound []).2.2, ⟨[], [], ending⟩)
      | .failed _ => (none, next, ⟨[], [], ending⟩)

/-- Read the next item. -/
def readNext (lines : StatefulCommandReader) (reader : ClientReader) :
    Option StatefulClientLine × StatefulCommandReader × ClientReader :=
  if reader.buffered ≠ [] then readNextFrom reader.ending lines reader.buffered reader.arrivals
  else
    match reader.arrivals with
    | arrival :: arrivals => readNextFrom reader.ending lines arrival.octets arrivals
    | [] =>
      match reader.ending with
      | .eof => ((lines.readRound []).1, (lines.readRound []).2.2, reader)
      | .failed _ => (none, lines, reader)

/-- The items up to the end of the stream.  `none` means that a read failed or that the
`fuel` ran out. -/
def readItems : Nat → StatefulCommandReader → ClientReader → Option (List StatefulClientLine)
  | 0, _, _ => none
  | fuel + 1, lines, reader =>
    match readNext lines reader with
    | (none, _, _) => none
    | (some .eof, _, _) => some []
    | (some item, lines, reader) => (readItems fuel lines reader).map (item :: ·)

/-- The first of some lines is read, and the reader goes on behind it. -/
structure TakesFirst (lines : List Bytes) (bound : Nat)
    (outcome : Option StatefulClientLine × StatefulCommandReader × ClientReader) : Prop where
  item : outcome.1 = some ((lines.map StatefulCommandReader.lineItem).headD .eof)
  fresh : outcome.2.1 = .fresh
  isEof : outcome.2.2.ending = .eof
  rest : outcome.2.2.lines = lines.tail
  shorter : lines ≠ [] → outcome.2.2.contents.length < bound

theorem takesFirst_of_line (openLine : Bytes) {available : Bytes} {stop : Nat}
    (lineFound : statusLineLen available = some stop) (arrivals : List Arrival) :
    TakesFirst
      (StatefulCommandReader.linesFrom openLine (available ++ arrivals.flatMap (·.octets)))
      (available ++ arrivals.flatMap (·.octets)).length
      (some (StatefulCommandReader.lineItem (openLine ++ available.take stop)), .fresh,
        ⟨available.drop stop, arrivals, .eof⟩) := by
  rw [StatefulCommandReader.linesFrom_line lineFound]
  refine ⟨rfl, rfl, rfl, rfl, fun _ => ?_⟩
  have bounds := statusLineLen_le lineFound
  simp only [ClientReader.contents, List.length_append, List.length_drop]
  omega

theorem readNextFrom_takesFirst (openLine : Bytes) {available : Bytes} (nonempty : available ≠ [])
    (arrivals : List Arrival) :
    TakesFirst
      (StatefulCommandReader.linesFrom openLine (available ++ arrivals.flatMap (·.octets)))
      (available ++ arrivals.flatMap (·.octets)).length
      (readNextFrom .eof (.ofPartial openLine) available arrivals) := by
  induction arrivals generalizing openLine available with
  | nil =>
    unfold readNextFrom
    cases lineFound : statusLineLen available with
    | some stop =>
      rw [StatefulCommandReader.readRound_line lineFound]
      exact takesFirst_of_line openLine lineFound []
    | none =>
      rw [StatefulCommandReader.readRound_open nonempty lineFound,
        StatefulCommandReader.linesFrom_open lineFound]
      simp only [StatefulCommandReader.readRound_eof, List.flatMap_nil,
        StatefulCommandReader.linesFrom]
      have openNonempty : openLine ++ available ≠ [] := by simp [nonempty]
      rw [if_neg openNonempty, if_neg openNonempty, List.append_nil]
      exact ⟨rfl, rfl, rfl, rfl, fun _ => List.length_pos_of_ne_nil nonempty⟩
  | cons arrival arrivals ih =>
    unfold readNextFrom
    cases lineFound : statusLineLen available with
    | some stop =>
      rw [StatefulCommandReader.readRound_line lineFound]
      exact takesFirst_of_line openLine lineFound (arrival :: arrivals)
    | none =>
      rw [StatefulCommandReader.readRound_open nonempty lineFound,
        StatefulCommandReader.linesFrom_open lineFound, List.flatMap_cons]
      have takes := ih (openLine ++ available) arrival.nonempty
      refine ⟨takes.item, takes.fresh, takes.isEof, takes.rest, fun someLine => ?_⟩
      rw [List.length_append]
      exact Nat.lt_add_left _ (takes.shorter someLine)

variable {reader : ClientReader}

theorem readNext_takesFirst (isEof : reader.ending = .eof) :
    TakesFirst reader.lines reader.contents.length (readNext .fresh reader) := by
  rcases reader with ⟨buffered, arrivals, ending⟩
  obtain rfl : ending = .eof := isEof
  unfold readNext ClientReader.lines ClientReader.contents
  split
  next nonempty => exact readNextFrom_takesFirst [] nonempty arrivals
  next isEmpty =>
    obtain rfl : buffered = [] := not_not.mp isEmpty
    cases arrivals with
    | nil =>
      exact ⟨rfl, rfl, rfl, rfl, fun someLine => absurd rfl someLine⟩
    | cons arrival arrivals => exact readNextFrom_takesFirst [] arrival.nonempty arrivals

theorem lineItem_stateful_ne_eof (line : Bytes) : StatefulCommandReader.lineItem line ≠ .eof := by
  unfold StatefulCommandReader.lineItem StatefulCommandReader.parsedLine
  split
  · simp
  · cases RequestContext.parse line <;> simp

theorem readItems_eq (isEof : reader.ending = .eof) {fuel : Nat}
    (enough : reader.contents.length < fuel) :
    readItems fuel .fresh reader = some (referenceItems reader.contents) := by
  induction fuel generalizing reader with
  | zero => exact absurd enough (Nat.not_lt_zero _)
  | succ fuel ih =>
    have takes := readNext_takesFirst isEof
    rcases readEq : readNext .fresh reader with ⟨item, lines, next⟩
    rw [readEq] at takes
    obtain rfl : item = _ := takes.item
    obtain rfl : lines = .fresh := takes.fresh
    have linesEq : StatefulCommandReader.linesFrom [] reader.contents = reader.lines := rfl
    rw [readItems, readEq, referenceItems, linesEq]
    cases someLines : reader.lines with
    | nil => rfl
    | cons line rest =>
      have restLines : next.lines = rest := by
        rw [takes.rest, someLines]
        rfl
      have shorter : next.contents.length < fuel :=
        Nat.lt_of_lt_of_le (takes.shorter (by simp [someLines])) (Nat.le_of_lt_succ enough)
      have readRest : readItems fuel .fresh next = some (rest.map StatefulCommandReader.lineItem) :=
        restLines ▸ ih takes.isEof shorter
      rw [List.map_cons, List.headD_cons]
      cases itemEq : StatefulCommandReader.lineItem line with
      | eof => exact absurd itemEq (lineItem_stateful_ne_eof line)
      | _ => simp only [readRest, Option.map_some]

/-! ## The batch reader -/

/-- The batches up to the end of the stream.  `none` means that a read failed or that the
`fuel` ran out. -/
def readBatches : Nat → ClientReader → Option (List RequestBatch)
  | 0, _ => none
  | fuel + 1, reader =>
    match readCommandBatch reader with
    | (none, _) => none
    | (some batch, next) =>
      if batch = ⟨.empty, .none⟩ then some [] else (readBatches fuel next).map (batch :: ·)

/-- A batch holds requests for articles by their message identifiers, not more than there is
room for, and at most one other item behind them. -/
structure RequestBatch.Shaped (batch : RequestBatch) (requests : List RequestContext)
    (others : List CommandLine) : Prop where
  items : batch.items = requests.map .parsed ++ others
  room : requests.length ≤ maxPipelineDepth
  byMessageId : ∀ request ∈ requests, request.routeClass = .articleByMessageId
  atMostOne : others.length ≤ 1
  other : ∀ request, .parsed request ∈ others → request.routeClass ≠ .articleByMessageId

theorem ReadsBatch.shaped {next : ClientReader} {batch : RequestBatch}
    (reads : ReadsBatch reader batch next) : ∃ requests others, batch.Shaped requests others := by
  cases reads with
  | closed => exact ⟨[], [], rfl, Nat.zero_le _, by simp, Nat.zero_le _, by simp⟩
  | @rejected _ _ rejection =>
    refine ⟨[], [rejection.item], rfl, Nat.zero_le _, by simp, Nat.le_refl _, ?_⟩
    cases rejection <;> simp [RequestRejection.item]
  | @alone _ _ request _ other =>
    refine ⟨[], [.parsed request], rfl, Nat.zero_le _, by simp, Nat.le_refl _, ?_⟩
    simp only [List.mem_singleton, parsed.injEq, forall_eq]
    exact ne_of_beq_false other
  | @pipelined _ _ _ first batch _ _ _ more =>
    rcases batch with ⟨contents, trailing⟩
    rcases more.contents with ⟨behind, rfl, inRoom⟩
    refine ⟨(first :: behind).map (·.request), trailing.items, ?_, ?_, ?_, ?_, ?_⟩
    · simp [items, BatchContents.items]
    · rw [List.length_map]
      exact Nat.succ_le_succ inRoom
    · simp only [List.mem_map]
      rintro _ ⟨request, -, rfl⟩
      exact eq_of_beq request.isPipelineable
    · cases trailing <;> simp [BatchTail.items]
    · rintro request isOther
      cases trailing with
      | none => cases isOther
      | context other =>
        obtain rfl : request = other := by simpa [BatchTail.items] using isOther
        exact ne_of_beq_false (more.other request rfl)
      | rejection rejection =>
        cases rejection <;> simp [BatchTail.items, RequestRejection.item] at isOther

theorem readBatches_items (isEof : reader.ending = .eof) {fuel : Nat}
    (enough : reader.contents.length < fuel) :
    ∃ batches, readBatches fuel reader = some batches ∧
      batches.flatMap items = reader.lines.map lineItem ∧
      ∀ batch ∈ batches, ∃ requests others, batch.Shaped requests others := by
  induction fuel generalizing reader with
  | zero => exact absurd enough (Nat.not_lt_zero _)
  | succ fuel ih =>
    rcases readCommandBatch_eof isEof with ⟨batch, next, readEq, takes, isEmpty⟩
    rw [readBatches, readEq]
    by_cases nothing : reader.lines = []
    · refine ⟨[], if_pos (isEmpty.mpr nothing), ?_, by simp⟩
      rw [nothing]
      rfl
    · have nonempty := mt isEmpty.mp nothing
      have shorter : next.contents.length < fuel := by
        rcases length_readCommandBatch readEq with isNothing | shorter
        · exact absurd isNothing nonempty
        · exact Nat.lt_of_lt_of_le shorter (Nat.le_of_lt_succ enough)
      rcases takes.joined with ⟨taken, linesEq, itemsEq⟩
      rcases ih takes.isEof shorter with ⟨batches, readRest, restItems, shaped⟩
      refine ⟨batch :: batches, ?_, ?_, ?_⟩
      · simp only [if_neg nonempty, readRest, Option.map_some]
      · rw [List.flatMap_cons, restItems, itemsEq, linesEq, List.map_append]
      · rw [List.forall_mem_cons]
        exact ⟨(readsBatch_of_readCommandBatch readEq).shaped, shaped⟩

/-! ## Both readers -/

/-- However the client's stream arrives, both readers give the items of the stream that is split
behind each line feed, and the batches have their shape. -/
theorem readers_give_referenceItems (reader : ClientReader) (isEof : reader.ending = .eof) :
    (∃ batches, readBatches (reader.contents.length + 1) reader = some batches ∧
        (batches.flatMap items).map withoutLength =
          referenceItems reader.contents ∧
        ∀ batch ∈ batches, ∃ requests others, batch.Shaped requests others) ∧
      readItems (reader.contents.length + 1) .fresh reader =
        some (referenceItems reader.contents) := by
  constructor
  · rcases readBatches_items isEof (Nat.lt_succ_self _) with ⟨batches, readEq, items, shaped⟩
    refine ⟨batches, readEq, ?_, shaped⟩
    rw [items, List.map_map]
    exact List.map_congr_left fun line _ => withoutLength_lineItem line
  · exact readItems_eq isEof (Nat.lt_succ_self _)

/-- Three lines in four reads, the last of them not completed. -/
def cutLines : ClientReader where
  buffered := ascii "STAT <a@b>\r\nHEAD"
  arrivals :=
    [⟨ascii " <c@d>\r", by decide +kernel, 0⟩, ⟨ascii "\n", by decide +kernel, 2⟩,
      ⟨ascii "DATE", by decide +kernel, 0⟩]
  ending := .eof

theorem cutLines_give_referenceItems :
    cutLines.ending = .eof ∧
      (∃ batches, readBatches (cutLines.contents.length + 1) cutLines = some batches ∧
          (batches.flatMap items).map withoutLength =
            referenceItems cutLines.contents ∧
          ∀ batch ∈ batches, ∃ requests others, batch.Shaped requests others) ∧
        readItems (cutLines.contents.length + 1) .fresh cutLines =
          some (referenceItems cutLines.contents) :=
  ⟨rfl, readers_give_referenceItems cutLines rfl⟩

end NntpProxy.PerCommand
