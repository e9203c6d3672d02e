import NntpProxy.Framing.Block
import NntpProxy.Transport.Alignment

/-!
# Capturing an isolated response

An isolated response is the only one on its connection, so nothing may arrive behind it.  Its
windows are copied into one capture from the status line on.  When the response is complete,
the terminator is cut off as a whole: the line end that it starts with is the one that closes
the last line of the response, or the status line of a response without lines.
-/

namespace NntpProxy.Transport

open Protocol Framing NntpProxy.Stream PooledBuffer

variable {pool : BufferPool}

/-! ## The cursor -/

inductive FramingError where
  | unexpectedTrailingResponseBytes
  | invalidFrameMetadata
  | backendEof
  | io
  deriving DecidableEq, Repr

/-- Frame a chunk from its start. -/
def frameWithPolicy (framer : MultilineFramer) (chunk : Bytes)
    (policy : PackedPendingBytesPolicy) : Except FramingError (ResponseWindow × MultilineFramer) :=
  match framer.splitChunk chunk policy with
  | none => .error .unexpectedTrailingResponseBytes
  | some (progress, framer) => .ok (inWindow 0 chunk.length progress, framer)

/-- The framing context of one response. -/
structure ResponseCursor (pool : BufferPool) where
  conn : ConnectionStream pool
  ioBuffer : PooledBuffer pool
  framer : MultilineFramer
  frame : ResponseWindow
  packedPolicy : PackedPendingBytesPolicy
  deriving DecidableEq, Repr

variable {cursor : ResponseCursor pool}

namespace ResponseCursor

/-- Frame what the buffer shows, the status line included. -/
def begin (conn : ConnectionStream pool) (ioBuffer : PooledBuffer pool)
    (packedPolicy : PackedPendingBytesPolicy) : Except FramingError (ResponseCursor pool) :=
  match frameWithPolicy .empty ioBuffer.visible packedPolicy with
  | .error error => .error error
  | .ok (frame, framer) => .ok ⟨conn, ioBuffer, framer, frame, packedPolicy⟩

def frameNextChunk (cursor : ResponseCursor pool) : Except FramingError (ResponseCursor pool) :=
  match frameWithPolicy cursor.framer cursor.ioBuffer.visible cursor.packedPolicy with
  | .error error => .error error
  | .ok (frame, framer) => .ok { cursor with framer := framer, frame := frame }

/-- Replace the window by the next read. -/
def readNextChunk (cursor : ResponseCursor pool) : Except FramingError (ResponseCursor pool) :=
  let read := cursor.ioBuffer.readFrom cursor.conn
  if read.1 = [] then .error (if cursor.conn.readFails then .io else .backendEof)
  else { cursor with conn := read.2.2, ioBuffer := read.2.1 }.frameNextChunk

theorem conn_frameNextChunk {next : ResponseCursor pool}
    (framed : cursor.frameNextChunk = .ok next) : next.conn = cursor.conn := by
  unfold frameNextChunk at framed
  split at framed
  · cases framed
  · cases framed
    rfl

theorem contents_lt_of_readNextChunk {next : ResponseCursor pool}
    (succeeded : cursor.readNextChunk = .ok next) :
    next.conn.contents.length < cursor.conn.contents.length := by
  unfold readNextChunk at succeeded
  simp only at succeeded
  split at succeeded
  · cases succeeded
  next stuck =>
    rw [conn_frameNextChunk succeeded]
    exact contents_lt_of_readTo (cursor.ioBuffer.readTo_readFrom cursor.conn) stuck

end ResponseCursor

/-! ## Capturing -/

namespace IsolatedMultilineResponse

/-- Start on what was read with the status line; nothing may follow the response. -/
def begin (conn : ConnectionStream pool) (ioBuffer : PooledBuffer pool) :
    Except FramingError (ResponseCursor pool) :=
  ResponseCursor.begin conn ioBuffer .reject

/-- Copy the current window and every further one. -/
def captureInto (cursor : ResponseCursor pool) (capture : Bytes) :
    Except FramingError (Bytes × ConnectionStream pool) :=
  match cursor.frame with
  | .complete stop _ => .ok (capture ++ cursor.ioBuffer.visible.take stop, cursor.conn)
  | .incomplete windowLen =>
    match _progress : cursor.readNextChunk with
    | .error error => .error error
    | .ok next => captureInto next (capture ++ cursor.ioBuffer.visible.take windowLen)
termination_by cursor.conn.contents.length
decreasing_by exact ResponseCursor.contents_lt_of_readNextChunk _progress

/-- Where the content of a capture ends: before the terminator, but not before the end of the
status line. -/
def contentEnd (initialized statusLineEnd : Nat) : Option Nat :=
  if initialized < terminator.length then none
  else
    let stop := max (initialized - terminator.length) statusLineEnd
    if stop ≤ initialized then some stop else none

/-- Copy the whole response and cut the terminator off. -/
def capturePayloadInto (cursor : ResponseCursor pool) (statusLineEnd : Nat) :
    Except FramingError (Bytes × ConnectionStream pool) :=
  match captureInto cursor [] with
  | .error error => .error error
  | .ok (capture, conn) =>
    match contentEnd capture.length statusLineEnd with
    | none => .error .invalidFrameMetadata
    | some stop => .ok (capture.take stop, conn)

end IsolatedMultilineResponse

/-! ## A response that nothing follows -/

/-- The cursor shows the next part of `remaining`, and the connection holds the rest of it and
nothing more. -/
inductive Captures (cursor : ResponseCursor pool) (remaining : Bytes) : Prop where
  | complete (windowLen : Nat)
      (windowEq : cursor.frame = .complete cursor.ioBuffer.initialized windowLen)
      (visibleEq : cursor.ioBuffer.visible = remaining) (exhausted : cursor.conn.contents = [])
  | incomplete (seen front : Bytes)
      (windowEq : cursor.frame = .incomplete cursor.ioBuffer.initialized)
      (remainingEq : cursor.ioBuffer.visible ++ front = remaining)
      (contentsEq : cursor.conn.contents = front) (framerEq : cursor.framer = .ofSeen seen)
      (ends : firstEnd (endsWith terminator) seen front = some front.length)

variable {conn : ConnectionStream pool}

theorem exists_frame_of_isolated {seen front : Bytes} {buffer : PooledBuffer pool}
    (policy : PackedPendingBytesPolicy) (joined : buffer.visible ++ conn.contents = front)
    (ends : firstEnd (endsWith terminator) seen front = some front.length) :
    ∃ frame framer, frameWithPolicy (.ofSeen seen) buffer.visible policy = .ok (frame, framer) ∧
      Captures ⟨conn, buffer, framer, frame, policy⟩ front := by
  have split := splitChunk_isolated policy ends ⟨_, joined⟩
  unfold frameWithPolicy
  rw [split]
  by_cases reached : front.length ≤ buffer.visible.length
  · rw [if_pos reached]
    have visibleEq : buffer.visible = front :=
      List.IsPrefix.eq_of_length_le ⟨_, joined⟩ reached
    have exhausted : conn.contents = [] := by
      rw [visibleEq] at joined
      exact List.append_right_eq_self.mp joined
    refine ⟨_, _, rfl, .complete buffer.visible.length ?_ visibleEq exhausted⟩
    simp only [inWindow, ← visibleEq, length_visible, Nat.zero_add]
  · rw [if_neg reached]
    rw [← joined] at ends reached
    refine ⟨_, _, rfl, .incomplete (seen ++ buffer.visible) conn.contents ?_ joined rfl rfl
      (firstEnd_rest_of_short ends reached)⟩
    simp only [inWindow, length_visible]

theorem Captures.readNextChunk {seen front : Bytes} (contentsEq : cursor.conn.contents = front)
    (framerEq : cursor.framer = .ofSeen seen)
    (ends : firstEnd (endsWith terminator) seen front = some front.length) :
    ∃ next, cursor.readNextChunk = .ok next ∧ Captures next front := by
  have readTo := cursor.ioBuffer.readTo_readFrom cursor.conn
  have stuck : (cursor.ioBuffer.readFrom cursor.conn).1 ≠ [] := by
    intro nothing
    rw [readFrom_eq_nil_iff, contentsEq] at nothing
    rw [nothing] at ends
    cases ends
  have joined : (cursor.ioBuffer.readFrom cursor.conn).2.1.visible ++
      (cursor.ioBuffer.readFrom cursor.conn).2.2.contents = front := by
    rw [readTo.visible, List.nil_append, readTo.contents, contentsEq]
  rcases exists_frame_of_isolated cursor.packedPolicy joined ends with
    ⟨frame, framer, framed, captures⟩
  refine ⟨_, ?_, captures⟩
  simp only [ResponseCursor.readNextChunk, stuck, if_false, ResponseCursor.frameNextChunk,
    framerEq, framed]

theorem Captures.captureInto {remaining : Bytes} (captures : Captures cursor remaining)
    (capture : Bytes) :
    ∃ conn, IsolatedMultilineResponse.captureInto cursor capture =
        .ok (capture ++ remaining, conn) ∧ conn.contents = [] := by
  -- the induction is on what is left to read, as the recursion of the source loop
  induction bound : cursor.conn.contents.length using Nat.strongRecOn
    generalizing cursor remaining capture with
  | _ length ih =>
    rw [IsolatedMultilineResponse.captureInto]
    cases captures with
    | complete windowLen windowEq visibleEq exhausted =>
      rw [windowEq]
      simp only [take_initialized]
      rw [visibleEq]
      exact ⟨_, rfl, exhausted⟩
    | incomplete seen front windowEq remainingEq contentsEq framerEq ends =>
      rcases Captures.readNextChunk contentsEq framerEq ends with ⟨next, readEq, goesOn⟩
      have smaller := bound ▸ ResponseCursor.contents_lt_of_readNextChunk readEq
      rw [windowEq]
      simp only [take_initialized]
      split
      next failed =>
        rw [readEq] at failed
        cases failed
      next other succeeded =>
        rw [readEq] at succeeded
        cases succeeded
        rcases ih _ smaller goesOn (capture ++ cursor.ioBuffer.visible) rfl with
          ⟨conn, capturedEq, exhausted⟩
        rw [List.append_assoc, remainingEq] at capturedEq
        exact ⟨conn, capturedEq, exhausted⟩

theorem Response.firstEnd_bytes {kind : RequestKind} {response : Response kind}
    (hasBody : requestKindHasResponseBody kind response.status = true) :
    firstEnd (endsWith terminator) [] response.bytes = some response.bytes.length := by
  have ends := response.ends
  rw [if_pos hasBody] at ends
  rw [Response.bytes, firstEnd_append_of_none (firstEnd_statusLine response.oneLine),
    List.nil_append, ends]
  exact congrArg some List.length_append.symm

/-- Capturing a classified response that nothing follows gives it without the terminator. -/
theorem capturePayloadInto_response {kind : RequestKind} {response : Response kind} {rest : Bytes}
    {classified : ClassifiedResponse pool}
    (hasBody : requestKindHasResponseBody kind response.status = true)
    (classifies : Classifies response [] [] classified conn rest) :
    ∃ cursor left, IsolatedMultilineResponse.begin conn classified.buffer = .ok cursor ∧
      IsolatedMultilineResponse.capturePayloadInto cursor (response.text ++ crlf).length =
        .ok (response.bytes.take
          (max (response.bytes.length - 5) (response.text ++ crlf).length), left) ∧
      left.contents = [] := by
  have joined : classified.buffer.visible ++ conn.contents = response.bytes := by
    have restEq := classifies.joined
    rw [List.append_nil, List.append_nil] at restEq
    rw [classifies.visibleEq, List.append_assoc, restEq]
    rfl
  rcases exists_frame_of_isolated .reject joined (Response.firstEnd_bytes hasBody) with
    ⟨frame, framer, framed, captures⟩
  rcases captures.captureInto [] with ⟨left, capturedEq, exhausted⟩
  have long : ¬ response.bytes.length < 5 := by
    have atEnd := (firstEnd_sound (Response.firstEnd_bytes hasBody)).2.2
    rw [List.take_length, endsWith_eq_true_iff] at atEnd
    exact Nat.not_lt_of_le atEnd.length_le
  have inside : max (response.bytes.length - 5) (response.text ++ crlf).length ≤
      response.bytes.length := by
    apply max_le (Nat.sub_le _ _)
    exact (List.prefix_append (response.text ++ crlf) response.body).length_le
  refine ⟨⟨conn, classified.buffer, framer, frame, .reject⟩, left, ?_, ?_, exhausted⟩
  · simp only [IsolatedMultilineResponse.begin, ResponseCursor.begin, ← MultilineFramer.ofSeen_nil,
      framed]
  · simp only [IsolatedMultilineResponse.capturePayloadInto, capturedEq, List.nil_append,
      IsolatedMultilineResponse.contentEnd, length_terminator, long, inside, if_false, if_true]

end NntpProxy.Transport
