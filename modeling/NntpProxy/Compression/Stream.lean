import NntpProxy.Protocol.Status

/-!
# The write side of a compressed stream

A compressed stream has two output buffers: writes compress into one, flushes and shutdowns into
the other.  A buffer keeps the output that the inner stream has not taken, and is drained before
it is filled again.  Output octets are known by their position in all the output of the
compressor, so that a buffer holds a range of positions.

What the compressor and the inner stream do is given by lists of answers.  After the last
answer the compressor does nothing more and the inner stream is not ready.
-/

namespace NntpProxy.Compression

open Protocol

/-! ## Surroundings -/

/-- The size of both output buffers. -/
def writeBufSize : Nat := 16384

/-- What the compressor does in one call, as far as its input and the buffer allow. -/
inductive CompressorAnswer where
  | failed
  | done (consumed produced : Nat)
  deriving DecidableEq, Repr

/-- What the inner stream does in one call. -/
inductive InnerAnswer where
  | pending
  | failed
  | wrote (count : Nat)
  deriving DecidableEq, Repr

inductive BufferSource where
  | write
  | flush
  deriving DecidableEq, Repr

/-- The compressor produced output, or the inner stream took a range of it out of a buffer. -/
inductive StreamEvent where
  | produced (count : Nat)
  | handed (source : BufferSource) (start count : Nat)
  deriving DecidableEq, Repr

/-! ## Output buffers -/

/-- A buffer with nothing to drain, or with output from position `start` on of which the first
`pos` octets of `len` were taken. -/
inductive OutputBuffer where
  | idle
  | draining (start pos len : Nat) (left : pos < len)
  deriving DecidableEq, Repr

inductive PollStatus where
  | ready
  | pending
  | failed
  deriving DecidableEq, Repr

/-- A drained buffer, with the answers that are left and what was handed over. -/
structure Drained where
  status : PollStatus
  buffer : OutputBuffer
  inner : List InnerAnswer
  events : List StreamEvent
  deriving DecidableEq, Repr

namespace OutputBuffer

/-- The loop of `poll_drain_buf`. -/
def drainFrom (source : BufferSource) (start len : Nat) :
    (pos : Nat) → pos < len → List InnerAnswer → Drained
  | pos, left, [] => ⟨.pending, .draining start pos len left, [], []⟩
  | pos, left, .pending :: rest => ⟨.pending, .draining start pos len left, rest, []⟩
  | pos, left, .failed :: rest => ⟨.failed, .draining start pos len left, rest, []⟩
  | pos, left, .wrote count :: rest =>
    -- a write of zero octets is an error
    if count = 0 then ⟨.failed, .draining start pos len left, rest, []⟩
    else if more : pos + count < len then
      let drained := drainFrom source start len (pos + count) more rest
      { drained with events := .handed source (start + pos) count :: drained.events }
    else ⟨.ready, .idle, rest, [.handed source (start + pos) (len - pos)]⟩

def pollDrainBuf (source : BufferSource) (buffer : OutputBuffer) (inner : List InnerAnswer) :
    Drained :=
  match buffer with
  | idle => ⟨.ready, .idle, inner, []⟩
  | draining start pos len left => drainFrom source start len pos left inner

/-- A buffer after a call that produced `produced` octets from position `start` on. -/
def filled (start produced : Nat) : OutputBuffer :=
  if some : 0 < produced then .draining start 0 produced some else .idle

end OutputBuffer

/-! ## Polls -/

structure DecompressStream where
  writeBuffer : OutputBuffer
  flushBuffer : OutputBuffer
  totalOut : Nat
  compressor : List CompressorAnswer
  inner : List InnerAnswer
  deriving DecidableEq, Repr

/-- The result of a part of a poll. -/
structure Polled where
  status : PollStatus
  stream : DecompressStream
  events : List StreamEvent
  deriving DecidableEq, Repr

/-- What happened in the call of the compressor by a write. -/
structure WriteCall where
  consumed : Nat
  drainFailed : Bool
  deriving DecidableEq, Repr

inductive WriteResult where
  | pending
  | failed
  | ready (count : Nat)
  deriving DecidableEq, Repr

/-- The result of a write. -/
structure Written where
  result : WriteResult
  call : Option WriteCall
  stream : DecompressStream
  events : List StreamEvent
  deriving DecidableEq, Repr

namespace DecompressStream

def new (compressor : List CompressorAnswer) (inner : List InnerAnswer) : DecompressStream :=
  ⟨.idle, .idle, 0, compressor, inner⟩

section

variable (stream : DecompressStream)

def drainWrite : Polled :=
  let drained := stream.writeBuffer.pollDrainBuf .write stream.inner
  ⟨drained.status, { stream with writeBuffer := drained.buffer, inner := drained.inner },
    drained.events⟩

def drainFlush : Polled :=
  let drained := stream.flushBuffer.pollDrainBuf .flush stream.inner
  ⟨drained.status, { stream with flushBuffer := drained.buffer, inner := drained.inner },
    drained.events⟩

/-- Take the next answer of the compressor. -/
def nextAnswer : CompressorAnswer × DecompressStream :=
  match stream.compressor with
  | [] => (.done 0 0, stream)
  | answer :: rest => (answer, { stream with compressor := rest })

/-- The stream after the compressor produced output into the write buffer. -/
def produceWrite (produced : Nat) : DecompressStream :=
  { stream with
    writeBuffer := .filled stream.totalOut produced
    totalOut := stream.totalOut + produced }

/-- The stream after the compressor produced output into the flush buffer. -/
def produceFlush (produced : Nat) : DecompressStream :=
  { stream with
    flushBuffer := .filled stream.totalOut produced
    totalOut := stream.totalOut + produced }

def pollWrite (buf : Bytes) : Written :=
  let drained := stream.drainWrite
  match drained.status with
  | .pending => ⟨.pending, none, drained.stream, drained.events⟩
  | .failed => ⟨.failed, none, drained.stream, drained.events⟩
  | .ready =>
    let answered := drained.stream.nextAnswer
    match answered.1 with
    | .failed => ⟨.failed, none, answered.2, drained.events⟩
    | .done consumed produced =>
      let consumed := min consumed buf.length
      let produced := min produced writeBufSize
      let tried := (answered.2.produceWrite produced).drainWrite
      let events := drained.events ++ .produced produced :: tried.events
      match tried.status with
      | .failed => ⟨.failed, some ⟨consumed, true⟩, tried.stream, events⟩
      | .ready | .pending =>
        ⟨.ready (if 0 < consumed then consumed else min buf.length 1),
          some ⟨consumed, false⟩, tried.stream, events⟩

end

/-- The loop of `poll_compress_drain`; the flush mode only matters to the compressor. -/
def pollCompressDrain : List CompressorAnswer → DecompressStream → Polled
  | [], stream => stream.drainFlush
  | answer :: rest, stream =>
    let drained := stream.drainFlush
    match drained.status with
    | .pending | .failed => drained
    | .ready =>
      let stream := { drained.stream with compressor := rest }
      match answer with
      | .failed => ⟨.failed, stream, drained.events⟩
      | .done _ produced =>
        let produced := min produced writeBufSize
        let compressed := stream.produceFlush produced
        let final :=
          if produced < writeBufSize then compressed.drainFlush
          else pollCompressDrain rest compressed
        { final with events := drained.events ++ .produced produced :: final.events }

variable (stream : DecompressStream)

/-- `poll_flush` and `poll_shutdown`, up to the call of the inner stream at their end. -/
def pollFlushBuffers : Polled :=
  let drained := stream.drainWrite
  match drained.status with
  | .pending | .failed => drained
  | .ready =>
    let compressed := pollCompressDrain drained.stream.compressor drained.stream
    { compressed with events := drained.events ++ compressed.events }

/-- Flush or shut down the inner stream. -/
def pollInner : PollStatus × DecompressStream :=
  match stream.inner with
  | [] => (.pending, stream)
  | .pending :: rest => (.pending, { stream with inner := rest })
  | .failed :: rest => (.failed, { stream with inner := rest })
  | .wrote _ :: rest => (.ready, { stream with inner := rest })

def pollFlush : Polled :=
  let flushed := stream.pollFlushBuffers
  match flushed.status with
  | .pending | .failed => flushed
  | .ready =>
    let finished := flushed.stream.pollInner
    ⟨finished.1, finished.2, flushed.events⟩

def pollShutdown : Polled :=
  stream.pollFlush

end DecompressStream

/-! ## Runs -/

inductive StreamPoll where
  | write (buf : Bytes)
  | flush
  | shutdown
  deriving DecidableEq, Repr

/-- A poll of a run, with the stream before and after it. -/
structure PollStep where
  before : DecompressStream
  poll : StreamPoll
  result : WriteResult
  call : Option WriteCall
  after : DecompressStream
  events : List StreamEvent
  deriving DecidableEq, Repr

def PollStatus.toResult : PollStatus → WriteResult
  | ready => .ready 0
  | pending => .pending
  | failed => .failed

variable (stream : DecompressStream)

namespace DecompressStream

def pollOnce (stream : DecompressStream) (poll : StreamPoll) : PollStep :=
  match poll with
  | .write buf =>
    let written := stream.pollWrite buf
    ⟨stream, poll, written.result, written.call, written.stream, written.events⟩
  | .flush =>
    let polled := stream.pollFlush
    ⟨stream, poll, polled.status.toResult, none, polled.stream, polled.events⟩
  | .shutdown =>
    let polled := stream.pollShutdown
    ⟨stream, poll, polled.status.toResult, none, polled.stream, polled.events⟩

def run (stream : DecompressStream) : List StreamPoll → List PollStep
  | [] => []
  | poll :: polls => stream.pollOnce poll :: (stream.pollOnce poll).after.run polls

theorem run_take (polls : List StreamPoll) (count : Nat) :
    stream.run (polls.take count) = (stream.run polls).take count := by
  induction polls generalizing stream count with
  | nil => simp [run]
  | cons poll polls ih =>
    cases count with
    | zero => rfl
    | succ count =>
      simp only [List.take_succ_cons, run]
      rw [ih]

end DecompressStream

/-! ## What is accepted and what is consumed -/

namespace PollStep

/-- The octets that were reported as written. -/
def accepted (step : PollStep) : Bytes :=
  match step.poll, step.result with
  | .write buf, .ready count => buf.take count
  | _, _ => []

/-- The octets that the compressor took. -/
def consumed (step : PollStep) : Bytes :=
  match step.poll, step.call with
  | .write buf, some call => buf.take call.consumed
  | _, _ => []

/-- The compressor takes some of what a write offers and the inner stream does not fail on the
output, or it takes nothing and the inner stream fails. -/
def TakesInput (step : PollStep) : Prop :=
  match step.poll, step.call with
  | .write buf, some call =>
    if call.drainFailed then call.consumed = 0 else buf = [] ∨ 0 < call.consumed
  | _, _ => True

end PollStep

theorem DecompressStream.pollWrite_result (buf : Bytes) :
    match (stream.pollWrite buf).call with
    | none => (stream.pollWrite buf).result = .pending ∨ (stream.pollWrite buf).result = .failed
    | some call =>
      call.consumed ≤ buf.length ∧
        (stream.pollWrite buf).result =
          if call.drainFailed then .failed
          else .ready (if 0 < call.consumed then call.consumed else min buf.length 1) := by
  simp only [pollWrite]
  cases drained : stream.drainWrite.status with
  | pending => exact Or.inl rfl
  | failed => exact Or.inr rfl
  | ready =>
    cases answered : stream.drainWrite.stream.nextAnswer.1 with
    | failed => exact Or.inr rfl
    | done consumed produced =>
      simp only
      cases (DecompressStream.drainWrite _).status with
      | failed => exact ⟨Nat.min_le_right _ _, rfl⟩
      | ready => exact ⟨Nat.min_le_right _ _, rfl⟩
      | pending => exact ⟨Nat.min_le_right _ _, rfl⟩

private theorem take_eq_nil_iff {buf : Bytes} {count : Nat} (inside : count ≤ buf.length) :
    buf.take count = [] ↔ count = 0 := by
  rw [List.take_eq_nil_iff]
  constructor
  · rintro (zero | empty)
    · exact zero
    · rw [empty] at inside
      exact Nat.le_zero.mp inside
  · exact Or.inl

/-- A poll reports as accepted what the compressor took exactly when `TakesInput` holds. -/
theorem DecompressStream.pollOnce_accepted_iff (poll : StreamPoll) :
    (stream.pollOnce poll).accepted = (stream.pollOnce poll).consumed ↔
      (stream.pollOnce poll).TakesInput := by
  cases poll with
  | flush =>
    simp only [pollOnce, PollStep.accepted, PollStep.consumed, PollStep.TakesInput]
  | shutdown =>
    simp only [pollOnce, PollStep.accepted, PollStep.consumed, PollStep.TakesInput]
  | write buf =>
    have reported := stream.pollWrite_result buf
    simp only [pollOnce, PollStep.accepted, PollStep.consumed, PollStep.TakesInput]
    cases called : (stream.pollWrite buf).call with
    | none =>
      rw [called] at reported
      rcases reported with pending | failed
      · simp [pending]
      · simp [failed]
    | some call =>
      rw [called] at reported
      obtain ⟨inside, result⟩ := reported
      simp only [result]
      cases call.drainFailed with
      | true =>
        simp only [if_true]
        rw [eq_comm, take_eq_nil_iff inside]
      | false =>
        by_cases takes : 0 < call.consumed
        · simp [takes]
        · -- the compressor took nothing, and one octet is reported
          have nothing : call.consumed = 0 := Nat.eq_zero_of_not_pos takes
          rw [nothing]
          by_cases empty : buf = []
          · simp [empty]
          · have one : min buf.length 1 = 1 :=
              Nat.min_eq_right (List.length_pos_iff.mpr empty)
            simp [empty]

/-- Two functions agree on the concatenation over every front part of a list exactly when they
agree on every item. -/
private theorem flatMap_take_eq_iff {Step : Type} (first second : Step → Bytes)
    (steps : List Step) :
    (∀ count, (steps.take count).flatMap first = (steps.take count).flatMap second) ↔
      ∀ step ∈ steps, first step = second step := by
  constructor
  · intro agree
    induction steps with
    | nil =>
      intro step isStep
      cases isStep
    | cons head steps ih =>
      have same : first head = second head := by
        have single := agree 1
        simpa using single
      intro step isStep
      rcases List.mem_cons.mp isStep with isHead | isLater
      · rw [isHead]
        exact same
      · refine ih ?_ step isLater
        intro count
        have next := agree (count + 1)
        simp only [List.take_succ_cons, List.flatMap_cons, same] at next
        exact List.append_cancel_left next
  · intro agree count
    apply List.flatMap_congr
    intro step isStep
    exact agree step (List.mem_of_mem_take isStep)

theorem DecompressStream.exists_pollOnce_of_mem_run {stream : DecompressStream}
    {polls : List StreamPoll} {step : PollStep} (isStep : step ∈ stream.run polls) :
    ∃ (before : DecompressStream) (poll : StreamPoll), step = before.pollOnce poll := by
  induction polls generalizing stream with
  | nil => cases isStep
  | cons poll polls ih =>
    rcases List.mem_cons.mp isStep with isFirst | isLater
    · exact ⟨stream, poll, isFirst⟩
    · exact ih isLater

/-- At every moment of a run the octets reported as accepted are those the compressor took exactly
when every write that reaches the compressor has some of its octets taken, and none taken when the
inner stream then fails. -/
theorem DecompressStream.accepted_eq_consumed_iff (stream : DecompressStream)
    (polls : List StreamPoll) :
    (∀ count, (stream.run (polls.take count)).flatMap PollStep.accepted =
        (stream.run (polls.take count)).flatMap PollStep.consumed) ↔
      ∀ step ∈ stream.run polls, step.TakesInput := by
  simp only [run_take]
  rw [flatMap_take_eq_iff]
  constructor
  · intro agree step isStep
    have same := agree step isStep
    obtain ⟨before, poll, rfl⟩ := exists_pollOnce_of_mem_run isStep
    exact (before.pollOnce_accepted_iff poll).mp same
  · intro takes step isStep
    have taken := takes step isStep
    obtain ⟨before, poll, rfl⟩ := exists_pollOnce_of_mem_run isStep
    exact (before.pollOnce_accepted_iff poll).mpr taken

/-- A compressor that takes nothing: the octet of the write is reported as written and lost. -/
theorem refusedOctet_accepted :
    ((DecompressStream.new [.done 0 0] []).run [.write [65]]).flatMap PollStep.accepted = [65] ∧
      ((DecompressStream.new [.done 0 0] []).run [.write [65]]).flatMap PollStep.consumed = [] := by
  decide

end NntpProxy.Compression
