import NntpProxy.Compression.Stream

/-!
# The order of compressed output

What the inner stream was handed should at every moment be a front part of what the compressor has
produced.  Writes and flushes keep their output in separate buffers, and every poll drains the
write buffer first.  This is the right order unless a flush was left pending: then output of a
later write is handed over before the rest of the output of the flush.
-/

namespace NntpProxy.Compression

open Protocol List OutputBuffer

/-! ## Replaying events -/

def producedCount : List StreamEvent → Nat
  | [] => 0
  | .produced count :: events => count + producedCount events
  | .handed _ _ _ :: events => producedCount events

/-- All output of the compressor, when `output` gives the octet at each position. -/
def producedOctets (output : Nat → UInt8) (events : List StreamEvent) : Bytes :=
  (range (producedCount events)).map output

/-- What the inner stream was handed. -/
def handedOctets (output : Nat → UInt8) : List StreamEvent → Bytes
  | [] => []
  | .produced _ :: events => handedOctets output events
  | .handed _ start count :: events =>
    (range' start count).map output ++ handedOctets output events

/-- Follow how many octets were handed over in order and how many were produced; `none` as soon as
others are handed over. -/
def replay (handed produced : Nat) : List StreamEvent → Option (Nat × Nat)
  | [] => some (handed, produced)
  | .produced count :: events => replay handed (produced + count) events
  | .handed _ start count :: events =>
    if count = 0 ∨ start = handed ∧ handed + count ≤ produced then
      replay (handed + count) produced events
    else none

theorem replay_append (handed produced : Nat) (front rest : List StreamEvent) :
    replay handed produced (front ++ rest) =
      (replay handed produced front).bind fun reached => replay reached.1 reached.2 rest := by
  induction front generalizing handed produced with
  | nil => rfl
  | cons event front ih =>
    cases event with
    | produced count => exact ih _ _
    | handed source start count =>
      simp only [cons_append, replay]
      split
      · exact ih _ _
      · rfl

private theorem range_isPrefix {short long : Nat} (shorter : short ≤ long) :
    range short <+: range long := by
  rw [← Nat.min_eq_left shorter, ← take_range]
  exact take_prefix _ _

variable {handed : Nat}

/-- Octets that continue the output whatever it is are the next ones. -/
private theorem next_of_isPrefix {produced start count : Nat} (some : 0 < count)
    (continues : ∀ output : Nat → UInt8,
      (range handed).map output ++ (range' start count).map output <+:
        (range produced).map output) : start = handed ∧ handed + count ≤ produced := by
  have enough : handed + count ≤ produced := by
    have short := (continues fun _ => 0).length_le
    simpa using short
  constructor
  · by_contra different
    -- an output in which only the octet at `start` is a one
    have same := (continues fun position => if position = start then 1 else 0).getElem
      (i := handed) (by simpa using some)
    simp [Ne.symm different] at same
  · exact enough

private theorem range_append_of_continues {produced start count : Nat} (behind : handed ≤ produced)
    (continues : count = 0 ∨ start = handed ∧ handed + count ≤ produced) :
    range handed ++ range' start count = range (handed + count) ∧
      handed + count ≤ produced := by
  rcases continues with rfl | ⟨rfl, enough⟩
  · exact ⟨by simp, behind⟩
  · refine ⟨?_, enough⟩
    rw [range_eq_range', range_eq_range', ← range'_append_1, Nat.zero_add]

/-- What was handed over before the first event is in order, so that only the moments behind the
event count. -/
private theorem orderly_cons_iff {produced : Nat} (behind : handed ≤ produced) (event : StreamEvent)
    (events : List StreamEvent) :
    (∀ (output : Nat → UInt8) (count : Nat),
        (range handed).map output ++ handedOctets output ((event :: events).take count) <+:
          (range (produced + producedCount ((event :: events).take count))).map output) ↔
      ∀ (output : Nat → UInt8) (count : Nat),
        (range handed).map output ++ handedOctets output (event :: events.take count) <+:
          (range (produced + producedCount (event :: events.take count))).map output := by
  constructor
  · intro orderly output moment
    exact orderly output (moment + 1)
  · intro orderly output moment
    cases moment with
    | zero => simpa [handedOctets, producedCount] using (range_isPrefix behind).map output
    | succ moment => exact orderly output moment

/-- Whatever the octets are, they are handed over in order at every moment exactly when the replay
succeeds. -/
private theorem replay_isSome_iff_from {produced : Nat} (behind : handed ≤ produced)
    (events : List StreamEvent) :
    (∀ (output : Nat → UInt8) (count : Nat),
        (range handed).map output ++ handedOctets output (events.take count) <+:
          (range (produced + producedCount (events.take count))).map output) ↔
      (replay handed produced events).isSome := by
  induction events generalizing handed produced with
  | nil =>
    simp only [take_nil, handedOctets, producedCount, append_nil, Nat.add_zero, replay,
      Option.isSome_some, iff_true]
    intro output _
    exact (range_isPrefix behind).map output
  | cons event events ih =>
    rw [orderly_cons_iff behind]
    cases event with
    | produced count =>
      rw [replay, ← ih (Nat.le_trans behind (Nat.le_add_right _ _))]
      simp only [handedOctets, producedCount, Nat.add_assoc]
    | handed source start count =>
      rw [replay]
      split
      next continues =>
        obtain ⟨joined, enough⟩ := range_append_of_continues behind continues
        rw [← ih enough]
        simp only [handedOctets, producedCount, ← append_assoc, ← map_append, joined]
      next breaks =>
        simp only [Option.isSome_none, Bool.false_eq_true, iff_false]
        intro orderly
        apply breaks
        rcases Nat.eq_zero_or_pos count with zero | some
        · exact Or.inl zero
        · right
          apply next_of_isPrefix some
          intro output
          simpa [handedOctets, producedCount] using orderly output 0

theorem replay_isSome_iff (events : List StreamEvent) :
    (∀ (output : Nat → UInt8) (count : Nat),
        handedOctets output (events.take count) <+: producedOctets output (events.take count)) ↔
      (replay 0 0 events).isSome := by
  rw [← replay_isSome_iff_from (Nat.le_refl 0)]
  simp [producedOctets]

/-! ## Buffers in order -/

namespace OutputBuffer

/-- The buffer holds the output from one position up to another. -/
def Spans (first last : Nat) : OutputBuffer → Prop
  | idle => first = last
  | draining start pos len _ => start + pos = first ∧ start + len = last

theorem filled_spans (start produced : Nat) :
    (filled start produced).Spans start (start + produced) := by
  unfold filled
  split
  next => exact ⟨rfl, rfl⟩
  next none =>
    have zero : produced = 0 := Nat.eq_zero_of_not_pos none
    rw [zero]
    rfl

theorem Spans.lt {buffer : OutputBuffer} {first last : Nat} (spans : buffer.Spans first last)
    (parked : buffer ≠ .idle) : first < last := by
  cases buffer with
  | idle => exact absurd rfl parked
  | draining start pos len left =>
    have starts := spans.1
    have ends := spans.2
    omega

end OutputBuffer

/-- What draining a buffer does: it hands over the front part of what the buffer holds. -/
structure DrainsInOrder (source : BufferSource) (first last : Nat) (drained : Drained) : Prop where
  reached : ∃ reached, drained.buffer.Spans reached last ∧
    ∀ produced, last ≤ produced → replay first produced drained.events = some (reached, produced)
  idle : drained.status = .ready → drained.buffer = .idle
  starts : drained.events = [] ∨
    ∃ count rest, 0 < count ∧ drained.events = .handed source first count :: rest
  sources : ∀ event ∈ drained.events, ∃ start count, event = .handed source start count
  unchanged : drained.events = [] → drained.buffer.Spans first last

theorem replay_handed {produced count : Nat} (enough : handed + count ≤ produced)
    (source : BufferSource) (events : List StreamEvent) :
    replay handed produced (.handed source handed count :: events) =
      replay (handed + count) produced events :=
  if_pos (Or.inr ⟨rfl, enough⟩)

theorem DrainsInOrder.stopped {source : BufferSource} {first last : Nat} {drained : Drained}
    (nothing : drained.events = []) (spans : drained.buffer.Spans first last)
    (idle : drained.status = .ready → drained.buffer = .idle) :
    DrainsInOrder source first last drained where
  reached := ⟨first, spans, fun produced _ => by rw [nothing]; rfl⟩
  idle := idle
  starts := Or.inl nothing
  sources := by
    rw [nothing]
    intro event isEvent
    cases isEvent
  unchanged := fun _ => spans

theorem OutputBuffer.drainFrom_inOrder (source : BufferSource) (start len pos : Nat)
    (left : pos < len) (inner : List InnerAnswer) :
    DrainsInOrder source (start + pos) (start + len)
      (drainFrom source start len pos left inner) := by
  induction inner generalizing pos with
  | nil => exact .stopped rfl ⟨rfl, rfl⟩ (fun ready => by cases ready)
  | cons answer rest ih =>
    cases answer with
    | pending => exact .stopped rfl ⟨rfl, rfl⟩ (fun ready => by cases ready)
    | failed => exact .stopped rfl ⟨rfl, rfl⟩ (fun ready => by cases ready)
    | wrote count =>
      simp only [drainFrom]
      split
      next => exact .stopped rfl ⟨rfl, rfl⟩ (fun ready => by cases ready)
      next positive =>
        split
        next more =>
          have later := ih (pos + count) more
          rw [← Nat.add_assoc] at later
          constructor
          · obtain ⟨reached, spans, replayed⟩ := later.reached
            refine ⟨reached, spans, ?_⟩
            intro produced enough
            rw [replay_handed (by omega)]
            exact replayed produced enough
          · exact later.idle
          · exact Or.inr ⟨count, _, Nat.pos_of_ne_zero positive, rfl⟩
          · intro event isEvent
            rcases mem_cons.mp isEvent with isFirst | isLater
            · exact ⟨_, _, isFirst⟩
            · exact later.sources event isLater
          · intro impossible
            cases impossible
        next done =>
          constructor
          · refine ⟨start + len, rfl, ?_⟩
            intro produced enough
            rw [replay_handed (by omega), replay]
            simp only [Option.some.injEq, Prod.mk.injEq, and_true]
            omega
          · exact fun _ => rfl
          · exact Or.inr ⟨len - pos, [], Nat.sub_pos_of_lt left, rfl⟩
          · intro event isEvent
            exact ⟨_, _, mem_singleton.mp isEvent⟩
          · intro impossible
            cases impossible

theorem OutputBuffer.pollDrainBuf_inOrder (source : BufferSource) {buffer : OutputBuffer}
    {first last : Nat} (spans : buffer.Spans first last) (inner : List InnerAnswer) :
    DrainsInOrder source first last (buffer.pollDrainBuf source inner) := by
  cases buffer with
  | idle => exact .stopped rfl spans (fun _ => rfl)
  | draining start pos len left =>
    obtain ⟨rfl, rfl⟩ := spans
    exact drainFrom_inOrder source start len pos left inner

/-! ## Streams in order -/

variable {stream : DecompressStream}

namespace DecompressStream

/-- What is left of a flush comes next, then what is left of a write, and then nothing. -/
def Orderly (handed : Nat) (stream : DecompressStream) : Prop :=
  ∃ middle, stream.flushBuffer.Spans handed middle ∧
    stream.writeBuffer.Spans middle stream.totalOut

theorem orderly_new (compressor : List CompressorAnswer) (inner : List InnerAnswer) :
    (new compressor inner).Orderly 0 :=
  ⟨0, rfl, rfl⟩

/-- The events lead to a stream that is in order. -/
def LeadsTo (handed produced : Nat) (events : List StreamEvent) (after : DecompressStream) : Prop :=
  ∃ reached, replay handed produced events = some (reached, after.totalOut) ∧
    after.Orderly reached

/-- Output of a write is handed over while output of a flush is left. -/
def Early (before : DecompressStream) (events : List StreamEvent) : Prop :=
  before.flushBuffer ≠ .idle ∧ ∃ start count, .handed .write start count ∈ events

/-- The events keep the order, or write output overtakes flush output and the order is lost. -/
def Follows (handed : Nat) (before : DecompressStream) (events : List StreamEvent)
    (after : DecompressStream) : Prop :=
  LeadsTo handed before.totalOut events after ∧ ¬ before.Early events ∨
    replay handed before.totalOut events = none ∧ before.Early events

section Follows

variable {handed : Nat} {before middle after : DecompressStream} {front rest : List StreamEvent}

/-- No events, and nothing changes that matters for the order. -/
theorem Follows.nil (orderly : after.Orderly handed) (same : after.totalOut = before.totalOut) :
    Follows handed before [] after := by
  left
  constructor
  · exact ⟨handed, by rw [replay, same], orderly⟩
  · rintro ⟨_, start, count, isEvent⟩
    cases isEvent

theorem Follows.append (first : Follows handed before front middle)
    (sameFlush : middle.flushBuffer = before.flushBuffer)
    (second : ∀ reached, middle.Orderly reached → Follows reached middle rest after) :
    Follows handed before (front ++ rest) after := by
  rcases first with ⟨⟨reached, replayed, orderly⟩, notEarly⟩ | ⟨lost, parked, start, count, isEvent⟩
  · have joined : replay handed before.totalOut (front ++ rest) =
        replay reached middle.totalOut rest := by
      rw [replay_append, replayed]
      rfl
    rcases second reached orderly with
      ⟨⟨further, replayedRest, orderlyRest⟩, notEarlyRest⟩ | ⟨lost, parked, start, count, isEvent⟩
    · left
      constructor
      · exact ⟨further, joined.trans replayedRest, orderlyRest⟩
      · rintro ⟨parked, start, count, isEvent⟩
        rcases mem_append.mp isEvent with isFront | isRest
        · exact notEarly ⟨parked, start, count, isFront⟩
        · rw [← sameFlush] at parked
          exact notEarlyRest ⟨parked, start, count, isRest⟩
    · right
      rw [sameFlush] at parked
      exact ⟨joined.trans lost, parked, start, count, mem_append_right _ isEvent⟩
  · right
    refine ⟨?_, parked, start, count, mem_append_left _ isEvent⟩
    rw [replay_append, lost]
    rfl

/-- Events of the flush buffer never overtake. -/
theorem Follows.of_leadsTo (leads : LeadsTo handed before.totalOut front after)
    (noWrite : ∀ start count, .handed .write start count ∉ front) :
    Follows handed before front after := by
  left
  refine ⟨leads, ?_⟩
  rintro ⟨_, start, count, isEvent⟩
  exact noWrite start count isEvent

end Follows

theorem drainWrite_follows (orderly : stream.Orderly handed) :
    Follows handed stream stream.drainWrite.events stream.drainWrite.stream := by
  obtain ⟨middle, flush, write⟩ := orderly
  have drained := pollDrainBuf_inOrder .write write stream.inner
  by_cases noFlush : stream.flushBuffer = .idle
  · left
    constructor
    · obtain ⟨reached, spans, replayed⟩ := drained.reached
      rw [noFlush] at flush
      obtain rfl : handed = middle := flush
      refine ⟨reached, replayed _ (Nat.le_refl _), reached, ?_, spans⟩
      change stream.flushBuffer.Spans reached reached
      rw [noFlush]
      rfl
    · rintro ⟨parked, _⟩
      exact parked noFlush
  · rcases drained.starts with nothing | ⟨count, rest, positive, events⟩
    · change stream.drainWrite.events = [] at nothing
      rw [nothing]
      exact Follows.nil ⟨middle, flush, drained.unchanged nothing⟩ rfl
    · -- the write buffer starts behind what is left of the flush
      right
      have later := flush.lt noFlush
      change stream.drainWrite.events = _ at events
      rw [events]
      constructor
      · rw [replay, if_neg]
        omega
      · exact ⟨noFlush, middle, count, mem_cons_self⟩

theorem drainWrite_writeBuffer (orderly : stream.Orderly handed)
    (ready : stream.drainWrite.status = .ready) : stream.drainWrite.stream.writeBuffer = .idle := by
  obtain ⟨middle, flush, write⟩ := orderly
  exact (pollDrainBuf_inOrder .write write stream.inner).idle ready

/-! ## Polls in order -/

theorem nextAnswer_follows
    (orderly : stream.Orderly handed) : Follows handed stream [] stream.nextAnswer.2 := by
  unfold nextAnswer
  split
  · exact Follows.nil orderly rfl
  · exact Follows.nil orderly rfl

@[simp]
theorem flushBuffer_nextAnswer (stream : DecompressStream) :
    stream.nextAnswer.2.flushBuffer = stream.flushBuffer := by
  unfold nextAnswer
  split <;> rfl

@[simp]
theorem writeBuffer_nextAnswer (stream : DecompressStream) :
    stream.nextAnswer.2.writeBuffer = stream.writeBuffer := by
  unfold nextAnswer
  split <;> rfl

theorem produceWrite_follows (orderly : stream.Orderly handed) (idle : stream.writeBuffer = .idle)
    (produced : Nat) :
    Follows handed stream [.produced produced] (stream.produceWrite produced) := by
  obtain ⟨middle, flush, write⟩ := orderly
  rw [idle] at write
  obtain rfl : middle = stream.totalOut := write
  left
  constructor
  · exact ⟨handed, rfl, _, flush, filled_spans _ _⟩
  · rintro ⟨_, start, count, isEvent⟩
    cases mem_singleton.mp isEvent

theorem pollWrite_follows (orderly : stream.Orderly handed) (buf : Bytes) :
    Follows handed stream (stream.pollWrite buf).events (stream.pollWrite buf).stream := by
  have drained := drainWrite_follows orderly
  simp only [pollWrite]
  cases status : stream.drainWrite.status with
  | pending => exact drained
  | failed => exact drained
  | ready =>
    have idle := drainWrite_writeBuffer orderly status
    cases answered : stream.drainWrite.stream.nextAnswer.1 with
    | failed =>
      have next := drained.append rfl fun _ orderly => nextAnswer_follows orderly
      rw [append_nil] at next
      exact next
    | done consumed produced =>
      have idleNext : stream.drainWrite.stream.nextAnswer.2.writeBuffer = .idle := by
        rw [writeBuffer_nextAnswer, idle]
      have whole := drained.append rfl fun _ orderly =>
        (nextAnswer_follows orderly).append (flushBuffer_nextAnswer _) fun _ orderly =>
          (produceWrite_follows orderly idleNext (min produced writeBufSize)).append rfl
            fun _ orderly => drainWrite_follows orderly
      simp only
      split
      · exact whole
      · exact whole
      · exact whole

/-- What the flush buffer hands over, and that the write buffer stays out of it. -/
structure FlushesInOrder (handed : Nat) (before : DecompressStream) (polled : Polled) : Prop where
  leads : LeadsTo handed before.totalOut polled.events polled.stream
  noWrite : ∀ start count, .handed .write start count ∉ polled.events
  idle : polled.stream.writeBuffer = .idle

theorem drainFlush_inOrder (orderly : stream.Orderly handed) (idle : stream.writeBuffer = .idle) :
    FlushesInOrder handed stream stream.drainFlush := by
  obtain ⟨middle, flush, write⟩ := orderly
  rw [idle] at write
  obtain rfl : middle = stream.totalOut := write
  have drained := pollDrainBuf_inOrder .flush flush stream.inner
  constructor
  · obtain ⟨reached, spans, replayed⟩ := drained.reached
    refine ⟨reached, replayed _ (Nat.le_refl _), _, spans, ?_⟩
    change stream.writeBuffer.Spans stream.totalOut stream.totalOut
    rw [idle]
    rfl
  · intro start count isEvent
    obtain ⟨_, _, isFlush⟩ := drained.sources _ isEvent
    cases isFlush
  · exact idle

theorem drainFlush_flushBuffer (orderly : stream.Orderly handed)
    (ready : stream.drainFlush.status = .ready) : stream.drainFlush.stream.flushBuffer = .idle := by
  obtain ⟨middle, flush, write⟩ := orderly
  exact (pollDrainBuf_inOrder .flush flush stream.inner).idle ready

theorem produceFlush_orderly (orderly : stream.Orderly handed)
    (noFlush : stream.flushBuffer = .idle) (idle : stream.writeBuffer = .idle) (produced : Nat) :
    (stream.produceFlush produced).Orderly handed := by
  obtain ⟨middle, flush, write⟩ := orderly
  rw [noFlush] at flush
  rw [idle] at write
  obtain rfl : handed = middle := flush
  obtain rfl : handed = stream.totalOut := write
  refine ⟨_, filled_spans _ _, ?_⟩
  change stream.writeBuffer.Spans _ _
  rw [idle]
  rfl

theorem FlushesInOrder.produced {produced : Nat} {before compressed : DecompressStream}
    {drained final : Polled} (first : FlushesInOrder handed before drained)
    (totalOut : compressed.totalOut = drained.stream.totalOut + produced)
    (second : ∀ reached, drained.stream.Orderly reached → FlushesInOrder reached compressed final) :
    FlushesInOrder handed before
      { final with events := drained.events ++ .produced produced :: final.events } := by
  obtain ⟨reached, replayed, orderly⟩ := first.leads
  have later := second reached orderly
  constructor
  · obtain ⟨further, replayedRest, orderlyRest⟩ := later.leads
    refine ⟨further, ?_, orderlyRest⟩
    simp only [replay_append, replayed, Option.bind_some, replay]
    rw [← totalOut]
    exact replayedRest
  · intro start count isEvent
    rcases mem_append.mp isEvent with isFirst | isRest
    · exact first.noWrite start count isFirst
    · rcases mem_cons.mp isRest with isProduced | isLater
      · cases isProduced
      · exact later.noWrite start count isLater
  · exact later.idle

theorem pollCompressDrain_inOrder (answers : List CompressorAnswer)
    (orderly : stream.Orderly handed) (idle : stream.writeBuffer = .idle) :
    FlushesInOrder handed stream (pollCompressDrain answers stream) := by
  induction answers generalizing handed stream with
  | nil => exact drainFlush_inOrder orderly idle
  | cons answer rest ih =>
    have drained := drainFlush_inOrder orderly idle
    simp only [pollCompressDrain]
    cases status : stream.drainFlush.status with
    | pending => exact drained
    | failed => exact drained
    | ready =>
      have noFlush := drainFlush_flushBuffer orderly status
      cases answer with
      | failed => exact ⟨drained.leads, drained.noWrite, drained.idle⟩
      | done consumed produced =>
        have totalOut : (produceFlush { stream.drainFlush.stream with compressor := rest }
            (min produced writeBufSize)).totalOut =
              stream.drainFlush.stream.totalOut + min produced writeBufSize := rfl
        apply drained.produced totalOut
        intro reached orderly
        have compressed : DecompressStream.Orderly reached
            (produceFlush { stream.drainFlush.stream with compressor := rest }
              (min produced writeBufSize)) :=
          produceFlush_orderly orderly noFlush drained.idle _
        split
        · exact drainFlush_inOrder compressed drained.idle
        · exact ih compressed drained.idle

section

variable (orderly : stream.Orderly handed)

include orderly

theorem pollFlushBuffers_follows :
    Follows handed stream stream.pollFlushBuffers.events stream.pollFlushBuffers.stream := by
  have drained := drainWrite_follows orderly
  simp only [pollFlushBuffers]
  cases status : stream.drainWrite.status with
  | pending => exact drained
  | failed => exact drained
  | ready =>
    have idle := drainWrite_writeBuffer orderly status
    apply drained.append rfl
    intro reached orderly
    have flushed := pollCompressDrain_inOrder stream.drainWrite.stream.compressor orderly idle
    exact Follows.of_leadsTo flushed.leads flushed.noWrite

theorem pollInner_orderly :
    stream.pollInner.2.Orderly handed ∧ stream.pollInner.2.totalOut = stream.totalOut := by
  unfold pollInner
  split <;> exact ⟨orderly, rfl⟩

theorem pollFlush_follows :
    Follows handed stream stream.pollFlush.events stream.pollFlush.stream := by
  have flushed := pollFlushBuffers_follows orderly
  simp only [pollFlush]
  cases status : stream.pollFlushBuffers.status with
  | pending => exact flushed
  | failed => exact flushed
  | ready =>
    rcases flushed with ⟨⟨reached, replayed, orderly⟩, notEarly⟩ | lost
    · left
      obtain ⟨orderlyInner, same⟩ := pollInner_orderly orderly
      exact ⟨⟨reached, by rw [replayed, same], orderlyInner⟩, notEarly⟩
    · exact Or.inr lost

theorem pollOnce_follows (poll : StreamPoll) :
    Follows handed stream (stream.pollOnce poll).events (stream.pollOnce poll).after := by
  cases poll with
  | write buf => exact pollWrite_follows orderly buf
  | flush => exact pollFlush_follows orderly
  | shutdown => exact pollFlush_follows orderly

end

/-! ## Runs in order -/

/-- Everything that happened in a run. -/
def trace (stream : DecompressStream) (polls : List StreamPoll) : List StreamEvent :=
  (stream.run polls).flatMap PollStep.events

theorem replay_trace_isSome_iff (orderly : stream.Orderly handed) (polls : List StreamPoll) :
    (replay handed stream.totalOut (stream.trace polls)).isSome ↔
      ∀ step ∈ stream.run polls, ¬ step.before.Early step.events := by
  induction polls generalizing handed stream with
  | nil => simp [trace, run, replay]
  | cons poll polls ih =>
    have before : (stream.pollOnce poll).before = stream := by
      cases poll with
      | write buf => rfl
      | flush => rfl
      | shutdown => rfl
    simp only [trace, run, flatMap_cons, replay_append, forall_mem_cons, before]
    rcases pollOnce_follows orderly poll with
      ⟨⟨reached, replayed, orderlyAfter⟩, notEarly⟩ | ⟨lost, early⟩
    · rw [replayed, Option.bind_some]
      have later := ih orderlyAfter
      unfold trace at later
      rw [later]
      constructor
      · intro rest
        exact ⟨notEarly, rest⟩
      · rintro ⟨_, rest⟩
        exact rest
    · rw [lost, Option.bind_none]
      simp [early]

/-- Whatever octets the compressor produces, what the inner stream was handed is at every moment of
a run a front part of them exactly when no poll hands over output of a write while output of a
flush or a shutdown is left in its buffer. -/
theorem handed_prefix_iff (compressor : List CompressorAnswer) (inner : List InnerAnswer)
    (polls : List StreamPoll) :
    (∀ (output : Nat → UInt8) (moment : Nat),
        handedOctets output (((new compressor inner).trace polls).take moment) <+:
          producedOctets output (((new compressor inner).trace polls).take moment)) ↔
      ∀ step ∈ (new compressor inner).run polls, ¬ step.before.Early step.events := by
  rw [replay_isSome_iff]
  exact replay_trace_isSome_iff (orderly_new compressor inner) polls

end DecompressStream

/-- A flush produces two octets that the inner stream does not take; the octet that the next write
produces is then handed over before them. -/
theorem pendingFlush_overtaken :
    let events := (DecompressStream.new [.done 0 2, .done 1 1] [.pending, .wrote 1]).trace
      [.flush, .write [65]]
    producedOctets (fun position => position.toUInt8) events = [0, 1, 2] ∧
      handedOctets (fun position => position.toUInt8) events = [2] ∧
      ¬ handedOctets (fun position => position.toUInt8) events <+:
        producedOctets (fun position => position.toUInt8) events := by
  decide

end NntpProxy.Compression
