import NntpProxy.Transport.Streaming

/-!
# The windows of a response

A response is followed on its connection by `later`, the octets of the responses
behind it.  The backend may fail early, so that `lost`, a tail of all this, never
arrives.  While the response is streamed, the window and the connection together hold
the rest of the response and then `later`, up to what is lost, and every read keeps it
so.  Writing the response therefore leaves exactly `later` on the connection, and a
client or a backend that fails leaves the client with a front part of the response.
-/

namespace NntpProxy.Transport

open Protocol Framing NntpProxy.Stream List PooledBuffer StreamingResponse ClientWriter

variable {pool : BufferPool}

/-- Octets that can follow a response: every part of them can be the start of a
status line. -/
structure Follows (later : Bytes) : Prop where
  noDot : ¬ [dot, cr, lf] <+: later
  looksLikeStatus : ∀ part, part <+: later → plausibleStatusPrefix part = true

/-- The client writer after it accepted octets. -/
def ClientWriter.accept (client : ClientWriter) (bytes : Bytes) : ClientWriter :=
  { client with sink := client.sink.accept bytes }

theorem ClientWriter.accept_append (client : ClientWriter) (front rest : Bytes) :
    client.accept (front ++ rest) = (client.accept front).accept rest := by
  simp [accept, Sink.accept_append]

variable {stop windowLen : Nat} {shown : Bytes} {conn : ConnectionStream pool}
    {client : ClientWriter}

namespace StreamingResponse

/-- The state holds `remaining` octets of a response and `later` behind them, of which
a tail of `lost` octets never arrives. -/
inductive Streams (lost later : Bytes) (state : StreamingResponse pool) (remaining : Bytes) :
    Prop where
  | complete (stop : Nat) (windowEq : state.window = .complete stop state.buffer.initialized)
      (inside : stop ≤ state.buffer.initialized)
      (responseEq : state.buffer.visible.take stop = remaining)
      (laterEq : state.buffer.visible.drop stop ++ state.conn.contents ++ lost = later)
  | incomplete (seen front : Bytes)
      (windowEq : state.window = .incomplete state.buffer.initialized)
      (windowNonempty : state.buffer.visible ≠ [])
      (responseEq : state.buffer.visible ++ front = remaining)
      (contentsEq : state.conn.contents ++ lost = front ++ later)
      (framerEq : state.framer = .ofSeen seen)
      (ends : firstEnd (endsWith terminator) seen front = some front.length)
      (follows : Follows later)

variable {lost later remaining seen front : Bytes} {state : StreamingResponse pool}

/-- Splitting octets at the end of what a buffer shows keeps the response in front of
what follows it. -/
theorem streams_of_splitChunk {chunk : Bytes} {buffer : PooledBuffer pool} (follows : Follows later)
    (visibleEq : buffer.visible = shown ++ chunk) (nonempty : shown ++ chunk ≠ [])
    (joined : chunk ++ conn.contents ++ lost = front ++ later)
    (ends : firstEnd (endsWith terminator) seen front = some front.length) :
    ∃ progress framer,
      (MultilineFramer.ofSeen seen).splitChunk chunk .allowIfStatusPrefix =
          some (progress, framer) ∧
        ∀ shape received, Streams lost later
          ⟨conn, buffer, framer, inWindow shown.length (shown.length + chunk.length) progress,
            shape, received⟩ (shown ++ front) := by
  rw [append_assoc] at joined
  have isPart : chunk <+: front ++ later := ⟨_, joined⟩
  have split := splitChunk_ofSeen ends follows.noDot follows.looksLikeStatus isPart
  have initializedEq : buffer.initialized = shown.length + chunk.length := by
    rw [← length_visible, visibleEq, length_append]
  by_cases reached : front.length ≤ chunk.length
  · rw [if_pos reached] at split
    refine ⟨_, _, split, fun shape received => ?_⟩
    rcases prefix_of_prefix_length_le (prefix_append front later) isPart reached with
      ⟨packed, rfl⟩
    have frontShown : buffer.visible = (shown ++ front) ++ packed := by
      rw [visibleEq, append_assoc]
    rw [append_assoc] at joined
    apply Streams.complete (shown.length + front.length)
    · simp only [inWindow, initializedEq]
    · change _ ≤ buffer.initialized
      rw [initializedEq]
      exact Nat.add_le_add_left reached _
    · change buffer.visible.take _ = _
      rw [frontShown, take_left' length_append]
    · change buffer.visible.drop _ ++ conn.contents ++ lost = _
      rw [frontShown, drop_left' length_append, append_assoc]
      exact append_cancel_left joined
  · rw [if_neg reached] at split
    refine ⟨_, _, split, fun shape received => ?_⟩
    have chunkPart : chunk <+: front :=
      prefix_of_prefix_length_le isPart (prefix_append _ _)
        (Nat.le_of_lt (Nat.lt_of_not_le reached))
    rcases chunkPart with ⟨rest, rfl⟩
    rw [append_assoc] at joined
    apply Streams.incomplete (seen ++ chunk) rest
    · simp only [inWindow, initializedEq]
    · change buffer.visible ≠ []
      rwa [visibleEq]
    · change buffer.visible ++ rest = _
      rw [visibleEq, append_assoc]
    · exact append_cancel_left joined
    · rfl
    · exact firstEnd_rest_of_short ends reached
    · exact follows

theorem streams_frameRead {read : Bytes × PooledBuffer pool × ConnectionStream pool}
    (follows : Follows later) (readTo : PooledBuffer.ReadTo shown conn read)
    (nonempty : read.1 ≠ []) (contentsEq : conn.contents ++ lost = front ++ later)
    (framerEq : state.framer = .ofSeen seen)
    (ends : firstEnd (endsWith terminator) seen front = some front.length) :
    (state.frameRead shown.length read).1 = .ok () ∧
      Streams lost later (state.frameRead shown.length read).2 (shown ++ front) := by
  have joined : read.1 ++ read.2.2.contents ++ lost = front ++ later := by
    rw [readTo.contents, contentsEq]
  rcases streams_of_splitChunk follows readTo.visible (by simp [nonempty]) joined ends with
    ⟨progress, framer, split, streams⟩
  unfold frameRead
  simp only [framerEq, split, true_and]
  exact streams _ _

/-- The body that is still to come is not empty. -/
theorem front_ne_nil (ends : firstEnd (endsWith terminator) seen front = some front.length) :
    front ≠ [] := by
  rintro rfl
  simp at ends

/-- Nothing more arrives although the response has not ended. -/
theorem lost_ne_nil (contentsEq : conn.contents ++ lost = front ++ later)
    (ends : firstEnd (endsWith terminator) seen front = some front.length)
    (exhausted : conn.contents = []) : lost ≠ [] := by
  rw [exhausted, nil_append] at contentsEq
  rw [contentsEq]
  simp [front_ne_nil ends]

theorem isBackendFailure_endOfInput (state : StreamingResponse pool) :
    state.endOfInput.isBackendFailure = true := by
  unfold endOfInput
  split <;> rfl

/-- A read failed because the backend did. -/
structure ReadFailed (lost : Bytes) (outcome : Outcome pool Unit) : Prop where
  isLost : lost ≠ []
  failure : ∃ cause, cause.isBackendFailure = true ∧ outcome.1 = .error cause
  incomplete : outcome.2.isComplete = false

/-- Replacing the window leaves the rest of the response, or the backend failed. -/
theorem Streams.readNextChunk (follows : Follows later) (notComplete : state.isComplete = false)
    (contentsEq : state.conn.contents ++ lost = front ++ later)
    (framerEq : state.framer = .ofSeen seen)
    (ends : firstEnd (endsWith terminator) seen front = some front.length) :
    (state.readNextChunk.1 = .ok () ∧ Streams lost later state.readNextChunk.2 front) ∨
      ReadFailed lost state.readNextChunk := by
  unfold StreamingResponse.readNextChunk
  by_cases nothing : (state.buffer.readFrom state.conn).1 = []
  · have exhausted := (readFrom_eq_nil_iff _ _).mp nothing
    simp only [nothing]
    exact Or.inr ⟨lost_ne_nil contentsEq ends exhausted,
      ⟨_, state.isBackendFailure_endOfInput, rfl⟩, notComplete⟩
  · simp only [nothing, if_false]
    exact Or.inl (streams_frameRead follows (state.buffer.readTo_readFrom state.conn) nothing
      contentsEq framerEq ends)

theorem isComplete_of_incomplete
    (windowEq : state.window = .incomplete windowLen) : state.isComplete = false := by
  simp [isComplete, windowEq]

theorem isComplete_of_complete
    (windowEq : state.window = .complete stop windowLen) : state.isComplete = true := by
  simp [isComplete, windowEq]

theorem Streams.append (streams : Streams lost later state remaining) :
    (state.appendToRetainedPrefixIfWritable.1 = .ok () ∧
        Streams lost later state.appendToRetainedPrefixIfWritable.2 remaining) ∨
      ReadFailed lost state.appendToRetainedPrefixIfWritable := by
  unfold appendToRetainedPrefixIfWritable
  cases streams with
  | complete stop windowEq inside responseEq laterEq =>
    rw [isComplete_of_complete windowEq]
    exact Or.inl ⟨rfl, .complete stop windowEq inside responseEq laterEq⟩
  | incomplete seen front windowEq windowNonempty responseEq contentsEq framerEq ends follows =>
    rw [isComplete_of_incomplete windowEq]
    cases permit : state.buffer.retainedAppendPermit with
    | false =>
      exact Or.inl ⟨rfl,
        .incomplete seen front windowEq windowNonempty responseEq contentsEq framerEq ends
          follows⟩
    | true =>
      have short : state.buffer.initialized < pool.bufferSize :=
        (of_decide_eq_true permit).2
      by_cases nothing : (state.buffer.readMore state.conn).1 = []
      · have exhausted := (readMore_eq_nil_iff _ short).mp nothing
        simp only [nothing]
        exact Or.inr ⟨lost_ne_nil contentsEq ends exhausted,
          ⟨_, state.isBackendFailure_endOfInput, rfl⟩, isComplete_of_incomplete windowEq⟩
      · have framed := streams_frameRead follows
          (state.buffer.readTo_readMore state.conn) nothing contentsEq framerEq ends
        rw [length_visible, responseEq] at framed
        simp only [nothing]
        exact Or.inl framed

/-! ## The end of a response -/

/-- Read on until the window ends the response. -/
def settled (state : StreamingResponse pool) : StreamingResponse pool :=
  match state.window with
  | .complete _ _ => state
  | .incomplete _ =>
    match _progress : state.readNextChunk.1 with
    | .error _ => state.readNextChunk.2
    | .ok () => state.readNextChunk.2.settled
termination_by state.conn.contents.length
decreasing_by exact contents_lt_of_readNextChunk _progress

/-- What was read behind the response when its end is read. -/
def packedSuffix (state : StreamingResponse pool) : Bytes :=
  state.settled.buffer.visible.drop state.settled.chunkLen ++ state.settled.conn.pendingBytes

theorem settled_of_complete
    (windowEq : state.window = .complete stop windowLen) : state.settled = state := by
  rw [settled, windowEq]

theorem settled_of_incomplete (windowEq : state.window = .incomplete windowLen)
    (succeeded : state.readNextChunk.1 = .ok ()) :
    state.settled = state.readNextChunk.2.settled := by
  rw [settled, windowEq]
  simp only
  split
  next failed =>
    rw [succeeded] at failed
    cases failed
  next => rfl

theorem packedSuffix_of_complete (windowEq : state.window = .complete stop windowLen) :
    state.packedSuffix = state.buffer.visible.drop stop ++ state.conn.pendingBytes := by
  rw [packedSuffix, settled_of_complete windowEq, chunkLen, windowEq]

theorem packedSuffix_of_incomplete (windowEq : state.window = .incomplete windowLen)
    (succeeded : state.readNextChunk.1 = .ok ()) :
    state.packedSuffix = state.readNextChunk.2.packedSuffix := by
  rw [packedSuffix, packedSuffix, settled_of_incomplete windowEq succeeded]

theorem readNextChunk_pushBuffer (state : StreamingResponse pool) :
    state.pushBuffer.readNextChunk = state.readNextChunk :=
  rfl

/-! ## Reading without writing -/

/-- What a cleanup that succeeded leaves: a complete response and exactly `later`. -/
structure Cleaned (lost later : Bytes) (state : StreamingResponse pool) : Prop where
  isComplete : state.isComplete = true
  contentsEq : state.conn.contents ++ lost = later

theorem Streams.queueNext (windowEq : state.window = .complete stop state.buffer.initialized)
    (laterEq : state.buffer.visible.drop stop ++ state.conn.contents ++ lost = later)
    (succeeded : (state.queueNextResponseInput stop state.buffer.initialized).1 = .ok ()) :
    Cleaned lost later (state.queueNextResponseInput stop state.buffer.initialized).2 := by
  simp only [queueNextResponseInput, take_initialized] at succeeded ⊢
  cases queued : state.conn.queuePendingBytesFirst (state.buffer.visible.drop stop) with
  | none =>
    rw [queued] at succeeded
    cases succeeded
  | some conn =>
    refine ⟨isComplete_of_complete windowEq, ?_⟩
    rw [ConnectionStream.contents_queuePendingBytesFirst queued, laterEq]

/-- Draining ends at the next response; otherwise it fails. -/
theorem Streams.drain (streams : Streams lost later state remaining)
    (succeeded : state.drain.1 = .ok ()) : Cleaned lost later state.drain.2 := by
  -- the induction is on what is left to read, as the recursion of `drain`
  induction bound : state.conn.contents.length using Nat.strongRecOn
    generalizing state remaining with
  | _ length ih =>
    rw [drain] at succeeded ⊢
    cases streams with
    | complete stop windowEq inside responseEq laterEq =>
      rw [windowEq] at succeeded ⊢
      exact Streams.queueNext windowEq laterEq succeeded
    | incomplete seen front windowEq windowNonempty responseEq contentsEq framerEq ends follows =>
      rw [windowEq] at succeeded ⊢
      simp only at succeeded ⊢
      split at succeeded
      · cases succeeded
      · rename_i progress
        rcases Streams.readNextChunk follows (isComplete_of_incomplete windowEq) contentsEq
          framerEq ends with ⟨-, next⟩ | failed
        · exact ih _ (bound ▸ contents_lt_of_readNextChunk progress) next succeeded rfl
        · rcases failed.failure with ⟨cause, -, failure⟩
          rw [progress] at failure
          cases failure

/-- Keeping what follows a complete window always succeeds. -/
theorem queuePooledNextResponseInput_putsBack (inside : stop ≤ state.buffer.initialized) :
    ∃ buffer conn, state.conn.PutsBack (state.buffer.visible.drop stop) conn ∧
      state.queuePooledNextResponseInput stop state.buffer.initialized =
        (.ok (), { state with buffer := buffer, conn := conn }) := by
  unfold queuePooledNextResponseInput
  by_cases packed : stop < state.buffer.initialized
  · rcases state.conn.putsBack_queuePooledPendingBytesFirst state.buffer inside with
      ⟨conn, queued, puts⟩
    simp only [packed, queued]
    exact ⟨pool.acquire, conn, puts, rfl⟩
  · have nothing : state.buffer.visible.drop stop = [] := by
      rw [drop_eq_nil_iff, length_visible]
      exact Nat.le_of_not_lt packed
    rw [nothing, if_neg packed]
    exact ⟨state.buffer, state.conn, state.conn.putsBack_nil, rfl⟩

theorem Streams.queuePooled (windowEq : state.window = .complete stop state.buffer.initialized)
    (inside : stop ≤ state.buffer.initialized)
    (laterEq : state.buffer.visible.drop stop ++ state.conn.contents ++ lost = later) :
    (state.queuePooledNextResponseInput stop state.buffer.initialized).1 = .ok () ∧
      Cleaned lost later (state.queuePooledNextResponseInput stop state.buffer.initialized).2 := by
  rcases queuePooledNextResponseInput_putsBack inside with ⟨buffer, conn, puts, queued⟩
  rw [queued]
  refine ⟨rfl, isComplete_of_complete windowEq, ?_⟩
  rw [puts.contents, laterEq]

/-- Reading a response without writing it ends at the next response; otherwise it
fails. -/
theorem Streams.observe (streams : Streams lost later state remaining)
    (succeeded : state.observe.1 = .ok ()) : Cleaned lost later state.observe.2 := by
  have drained := streams.drain
  unfold StreamingResponse.observe at succeeded ⊢
  cases streams with
  | complete stop windowEq inside responseEq laterEq =>
    rw [windowEq]
    exact (Streams.queuePooled windowEq inside laterEq).2
  | incomplete seen front windowEq windowNonempty responseEq contentsEq framerEq ends follows =>
    rw [windowEq] at succeeded ⊢
    exact drained succeeded

/-! ## Writing -/

/-- What became of `remaining`, the octets of a response that were still to be
written: all were written, or the client failed after taking what its writer accepts, or
the backend failed after a front part.  After a client failure the connection is aligned
or the error says that it is not. -/
inductive Written (lost later remaining : Bytes) (client : ClientWriter) (written : Nat)
    (transfer : Transfer pool) : Prop where
  | whole (resultEq : transfer.result = .ok (written + remaining.length))
      (clientEq : transfer.client = client.accept remaining)
      (fits : client.sink.Fits remaining) (cleaned : Cleaned lost later transfer.response)
  | failed (room : Nat) (capacityEq : client.sink.capacity = some room)
      (short : room < remaining.length)
      (clientEq : transfer.client = client.accept (remaining.take room))
      (aligned : (transfer.result = .error (.fromClientWrite client.failure) ∧
          Cleaned lost later transfer.response) ∨
        transfer.result = .error (.clientWriteUnpreserved client.failure))
  | cut (front rest : Bytes) (remainingEq : front ++ rest = remaining) (started : front ≠ [])
      (unsent : rest ≠ []) (clientEq : transfer.client = client.accept front)
      (fits : client.sink.Fits front)
      (isLost : lost ≠ []) (unfinished : transfer.response.isComplete = false)
      (failure : ∃ cause, cause.isBackendFailure = true ∧
        transfer.result = .error (.deliveredPrefix cause))

theorem failedWrite_aligned {sink : Sink UInt8} {cleanup : Outcome pool Unit}
    (cleaned : cleanup.1 = .ok () → Cleaned lost later cleanup.2) :
    ((failedWrite { client with sink := sink } cleanup).result =
          .error (.fromClientWrite client.failure) ∧
        Cleaned lost later (failedWrite { client with sink := sink } cleanup).response) ∨
      (failedWrite { client with sink := sink } cleanup).result =
        .error (.clientWriteUnpreserved client.failure) := by
  rcases cleanup with ⟨_ | _, response⟩
  · exact Or.inr rfl
  · exact Or.inl ⟨rfl, cleaned rfl⟩

theorem Streams.writeFrom (client : ClientWriter) (written : Nat)
    (windowEq : state.window = .complete stop state.buffer.initialized)
    (inside : stop ≤ state.buffer.initialized)
    (responseEq : state.buffer.visible.take stop = remaining)
    (laterEq : state.buffer.visible.drop stop ++ state.conn.contents ++ lost = later) :
    Written lost later remaining client written
      (state.writeFrom stop state.buffer.initialized client written) := by
  rcases Streams.queuePooled windowEq inside laterEq with ⟨queued, cleaned⟩
  unfold StreamingResponse.writeFrom
  rw [responseEq]
  rcases client.sink.writeAll_cases remaining with
    ⟨fits, writeEq⟩ | ⟨room, capacityEq, short, writeEq⟩
  · simp only [writeEq, queued]
    exact .whole rfl rfl fits cleaned
  · simp only [writeEq]
    exact .failed room capacityEq short rfl (failedWrite_aligned fun _ => cleaned)

theorem Written.after_front {written : Nat} {transfer : Transfer pool}
    (fits : client.sink.Fits shown)
    (rest : Written lost later front (client.accept shown) (written + shown.length) transfer) :
    Written lost later (shown ++ front) client written transfer := by
  cases rest with
  | whole resultEq clientEq restFits cleaned =>
    apply Written.whole
    · rw [resultEq, length_append, Nat.add_assoc]
    · rw [clientEq, accept_append]
    · exact (Sink.fits_append_iff _ _ _).mpr ⟨fits, restFits⟩
    · exact cleaned
  | failed laterRoom laterCapacity short clientEq aligned =>
    rcases Option.map_eq_some_iff.mp laterCapacity with ⟨room, capacityEq, leftEq⟩
    have shownFits := fits room capacityEq
    refine .failed room capacityEq ?_ ?_ aligned
    · rw [length_append]
      omega
    · rw [clientEq, ← accept_append, take_append,
        take_of_length_le shownFits, leftEq]
  | cut part rest remainingEq started unsent clientEq restFits isLost unfinished failure =>
    refine .cut (shown ++ part) rest ?_ ?_ unsent ?_ ?_ isLost unfinished failure
    · rw [append_assoc, remainingEq]
    · simp [started]
    · rw [clientEq, accept_append]
    · exact (Sink.fits_append_iff _ _ _).mpr ⟨fits, restFits⟩

theorem Streams.writeCurrentAndRemainingChunks (client : ClientWriter) (written : Nat)
    (streams : Streams lost later state remaining) :
    Written lost later remaining client written
      (state.writeCurrentAndRemainingChunks client written) := by
  -- the induction is on what is left to read, as the recursion of the source loop
  induction bound : state.conn.contents.length using Nat.strongRecOn
    generalizing state remaining client written with
  | _ length ih =>
    have drained := streams.drain
    rw [writeCurrentAndRemainingChunks]
    cases streams with
    | complete stop windowEq inside responseEq laterEq =>
      rw [windowEq]
      exact Streams.writeFrom client written windowEq inside responseEq laterEq
    | incomplete seen front windowEq windowNonempty responseEq contentsEq framerEq ends follows =>
      have started : 0 < written + state.buffer.visible.length :=
        Nat.add_pos_right _ (length_pos_of_ne_nil windowNonempty)
      subst responseEq
      rw [windowEq]
      simp only [take_initialized]
      rcases client.sink.writeAll_cases state.buffer.visible with
        ⟨fits, writeEq⟩ | ⟨room, capacityEq, short, writeEq⟩
      · simp only [writeEq]
        rcases Streams.readNextChunk follows (isComplete_of_incomplete windowEq) contentsEq
          framerEq ends with ⟨succeeded, next⟩ | failed
        · split
          · rename_i error failed
            rw [succeeded] at failed
            cases failed
          · exact Written.after_front fits
              (ih _ (bound ▸ contents_lt_of_readNextChunk succeeded) _ _ next rfl)
        · rcases failed.failure with ⟨cause, isFailure, failure⟩
          split
          · rename_i error errorEq
            obtain rfl := Except.error.inj (errorEq.symm.trans failure)
            refine .cut _ front rfl windowNonempty (front_ne_nil ends) rfl fits failed.isLost
              failed.incomplete ⟨_, isFailure, ?_⟩
            rw [if_pos started,
              ResponseTransferError.afterClientDelivery_of_isBackendFailure isFailure]
          · rename_i succeeded
            rw [succeeded] at failure
            cases failure
      · simp only [writeEq]
        refine .failed room capacityEq ?_ ?_ (failedWrite_aligned drained)
        · rw [length_append]
          omega
        · rw [take_append_of_le_length (Nat.le_of_lt short)]
          rfl

/-- The backend failed before anything of the response was written. -/
structure Unwritten (client : ClientWriter) (transfer : Transfer pool) : Prop where
  clientEq : transfer.client = client
  failure : ∃ cause, cause.isBackendFailure = true ∧ transfer.result = .error cause

theorem Streams.write (client : ClientWriter)
    (streams : Streams lost later state remaining) :
    Written lost later remaining client 0 (state.write client) ∨
      (lost ≠ [] ∧ Unwritten client (state.write client)) := by
  unfold StreamingResponse.write
  rcases Streams.append streams with ⟨succeeded, appended⟩ | failed
  · simp only [succeeded]
    exact Or.inl (appended.writeCurrentAndRemainingChunks client 0)
  · rcases failed.failure with ⟨cause, isFailure, failure⟩
    simp only [failure]
    exact Or.inr ⟨failed.isLost, rfl, cause, isFailure, rfl⟩

/-! ## Writing and keeping a copy -/

theorem Written.count_before {transfer : Transfer pool} (before : Nat)
    (rest : Written lost later remaining client 0 transfer) :
    Written lost later remaining client before
      { transfer with result := transfer.result.map (before + ·) } := by
  cases rest with
  | whole resultEq clientEq fits cleaned =>
    refine .whole ?_ clientEq fits cleaned
    simp [resultEq, Except.map]
  | failed room capacityEq short clientEq aligned =>
    refine .failed room capacityEq short clientEq ?_
    rcases aligned with ⟨resultEq, cleaned⟩ | resultEq
    · exact Or.inl ⟨by simp [resultEq, Except.map], cleaned⟩
    · exact Or.inr (by simp [resultEq, Except.map])
  | cut front rest remainingEq started unsent clientEq fits isLost unfinished failure =>
    rcases failure with ⟨cause, isFailure, resultEq⟩
    exact .cut front rest remainingEq started unsent clientEq fits isLost unfinished
      ⟨cause, isFailure, by simp [resultEq, Except.map]⟩

/-- Copies of what follows the last window are queued unless they are too many. -/
theorem queueNextResponseInput_of_few
    (windowEq : state.window = .complete stop state.buffer.initialized)
    (few : state.packedSuffix.length ≤ maxPendingBackendBytes) :
    ∃ conn, state.conn.PutsBack (state.buffer.visible.drop stop) conn ∧
      state.queueNextResponseInput stop state.buffer.initialized =
        (.ok (), { state with conn := conn }) := by
  rw [packedSuffix_of_complete windowEq] at few
  rcases ConnectionStream.putsBack_queuePendingBytesFirst few with ⟨conn, queued, puts⟩
  refine ⟨conn, puts, ?_⟩
  simp only [queueNextResponseInput, take_initialized, queued]

/-- Taking the last window away and queueing copies of what follows it. -/
theorem Streams.pushFromBuffer (windowEq : state.window = .complete stop state.buffer.initialized)
    (laterEq : state.buffer.visible.drop stop ++ state.conn.contents ++ lost = later) :
    ((state.pushFromBuffer stop state.buffer.initialized).1 = .ok () ∧
        Cleaned lost later (state.pushFromBuffer stop state.buffer.initialized).2) ∨
      maxPendingBackendBytes < state.packedSuffix.length ∧
        (state.pushFromBuffer stop state.buffer.initialized).1 = .error .io := by
  have cleanedIf := Streams.queueNext windowEq laterEq
  unfold StreamingResponse.pushFromBuffer
  cases queued : (state.queueNextResponseInput stop state.buffer.initialized).1 with
  | ok done => exact Or.inl ⟨rfl, (cleanedIf queued).isComplete, (cleanedIf queued).contentsEq⟩
  | error error =>
    refine Or.inr ⟨?_, ?_⟩
    · by_contra few
      rcases queueNextResponseInput_of_few windowEq (Nat.le_of_not_lt few) with ⟨conn, -, done⟩
      rw [done] at queued
      cases queued
    · simp only [queueNextResponseInput] at queued
      split at queued
      · exact queued.symm
      · cases queued

/-- Keeping a copy writes what writing window by window writes, unless the backend fails or too
much was read behind the response. -/
theorem Streams.captureAndWrite (client : ClientWriter) (captured : List Bytes)
    (retentionLimit : Nat) (streams : Streams lost later state remaining) :
    Written lost later (captured.flatten ++ remaining) client 0
        (state.captureAndWrite client captured retentionLimit).1 ∨
      (lost ≠ [] ∨ maxPendingBackendBytes < state.packedSuffix.length) ∧
        Unwritten client (state.captureAndWrite client captured retentionLimit).1 := by
  -- the induction is on what is left to read, as the recursion of the source loop
  induction bound : state.conn.contents.length using Nat.strongRecOn
    generalizing state remaining captured with
  | _ length ih =>
    rw [captureAndWrite]
    split
    · -- the limit is reached: what was kept is written first
      left
      rw [Sink.writePieces_eq]
      rcases client.sink.writeAll_cases captured.flatten with
        ⟨fits, writeEq⟩ | ⟨room, capacityEq, short, writeEq⟩
      · simp only [writeEq]
        have rest := streams.writeCurrentAndRemainingChunks (client.accept captured.flatten) 0
        apply Written.after_front fits
        rw [Nat.zero_add]
        exact rest.count_before _
      · simp only [writeEq]
        refine .failed room capacityEq ?_ ?_ (failedWrite_aligned streams.observe)
        · rw [length_append]
          omega
        · rw [take_append_of_le_length (Nat.le_of_lt short)]
          rfl
    · cases streams with
      | complete stop windowEq inside responseEq laterEq =>
        rw [windowEq]
        rcases Streams.pushFromBuffer windowEq laterEq with
          ⟨pushed, cleaned⟩ | ⟨tooMany, pushed⟩
        · simp only [pushed, Sink.writePieces_eq, flatten_append, flatten_singleton,
            responseEq]
          left
          rcases client.sink.writeAll_cases (captured.flatten ++ remaining) with
            ⟨fits, writeEq⟩ | ⟨room, capacityEq, short, writeEq⟩
          · simp only [writeEq]
            exact .whole (by simp) rfl fits cleaned
          · simp only [writeEq]
            exact .failed room capacityEq short rfl (Or.inl ⟨rfl, cleaned⟩)
        · simp only [pushed]
          exact Or.inr ⟨Or.inr tooMany, rfl, _, rfl, rfl⟩
      | incomplete seen front windowEq windowNonempty responseEq contentsEq framerEq ends
          follows =>
          rw [windowEq]
          simp only [take_initialized]
          rcases @Streams.readNextChunk pool lost later seen front state.pushBuffer follows
            (isComplete_of_incomplete windowEq) contentsEq framerEq ends with
            ⟨succeeded, next⟩ | failed
          · split
            · rename_i error failed
              rw [succeeded] at failed
              cases failed
            · have rest := ih _ (bound ▸ contents_lt_of_readNextChunk succeeded)
                (captured ++ [state.buffer.visible]) next rfl
              rw [flatten_append, flatten_singleton, append_assoc,
                responseEq, readNextChunk_pushBuffer,
                ← packedSuffix_of_incomplete windowEq succeeded] at rest
              exact rest
          · rcases failed.failure with ⟨cause, isFailure, failure⟩
            split
            · rename_i error errorEq
              obtain rfl := Except.error.inj (errorEq.symm.trans failure)
              exact Or.inr ⟨Or.inl failed.isLost, rfl, _, isFailure, rfl⟩
            · rename_i succeeded
              rw [succeeded] at failure
              cases failure

end StreamingResponse

end NntpProxy.Transport
