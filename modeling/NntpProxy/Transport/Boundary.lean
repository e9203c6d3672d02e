import NntpProxy.Framing.Block
import NntpProxy.Transport.Pipeline

/-!
# Where a streamed response ends

A backend may send anything behind a status line that announces a body.  The response ought to
end at the first terminator, wherever the stream is cut into reads.  It does exactly when what
follows that terminator starts like a status line: anything else that arrives together with
the terminator makes the forwarder take the terminator for a part of the body.
-/

namespace NntpProxy.Transport

open Protocol Framing NntpProxy.Stream List ConnectionStream StreamingResponse ExchangeResult

variable {pool : BufferPool} {kind : RequestKind}

/-! ## A status line and what follows it -/

/-- A valid status line that announces a body. -/
structure BodyLine (kind : RequestKind) where
  text : Bytes
  status : StatusCode
  oneLine : lf ∉ text
  code : StatusCode.parse (text ++ crlf) = some status
  hasBody : requestKindHasResponseBody kind status = true

namespace BodyLine

def bytes (line : BodyLine kind) : Bytes :=
  line.text ++ crlf

/-- The response with this status line and a body that ends at its first terminator. -/
def respond (line : BodyLine kind) (body : Bytes)
    (ends : firstEnd (endsWith terminator) line.bytes body = some body.length) :
    Response kind where
  text := line.text
  status := line.status
  body := body
  oneLine := line.oneLine
  code := line.code
  ends := by rwa [if_pos line.hasBody]

end BodyLine

/-- The end of the first terminator that begins no earlier than the line end of the status line,
counted from what follows the line. -/
def firstTerminatorEnd (stream : Bytes) : Option Nat :=
  firstEnd (endsWith terminator) crlf stream

theorem BodyLine.firstEnd_eq (line : BodyLine kind) (stream : Bytes) :
    firstEnd (endsWith terminator) line.bytes stream = firstTerminatorEnd stream :=
  firstEnd_crlf line.text stream

theorem follows_iff {later : Bytes} : Follows later ↔ startsLikeStatus later = true := by
  rw [startsLikeStatus_iff]
  constructor
  · exact Follows.looksLikeStatus
  · intro allAccepted
    refine ⟨fun dotFirst => ?_, allAccepted⟩
    have single : [dot] <+: later := (prefix_append [dot] [cr, lf]).trans dotFirst
    exact absurd (allAccepted [dot] single) (by decide)

/-! ## What the forwarder takes for the response -/

/-- How many octets of the stream of a connection the forwarder passes on as the response. -/
def forwardedLength (kind : RequestKind) (conn : ConnectionStream pool) : Option Nat :=
  match receiveAndWrite kind conn patientClient with
  | none => none
  | some exchange => exchange.result.toOption

variable {conn : ConnectionStream pool}

theorem forwardedLength_response {response : Response kind} {later : Bytes}
    (follows : Follows later) (contentsEq : conn.contents = response.bytes ++ later)
    (lineFits : (response.text ++ crlf).length ≤ pool.bufferSize) :
    forwardedLength kind conn = some response.bytes.length := by
  rcases receiveAndWrite_response patientClient follows contentsEq lineFits with
    ⟨transfer, received, written⟩
  have resultEq : transfer.result = .ok (0 + response.bytes.length) := by
    cases written with
    | whole resultEq _ _ _ => exact resultEq
    | failed room limited _ _ _ => cases limited
    | cut _ _ _ _ _ _ _ isLost _ _ => exact absurd rfl isLost
  rw [forwardedLength, received]
  simp only [ofTransfer, resultEq, Nat.zero_add, Except.toOption]

theorem forwardedLength_lost {response : Response kind} {lost : Bytes}
    (contentsEq : conn.contents ++ lost = response.bytes)
    (isLost : lost ≠ []) : forwardedLength kind conn = none := by
  have nothingFollows : Follows [] := follows_iff.mpr rfl
  have joined : conn.contents ++ lost = response.bytes ++ [] := by
    rw [contentsEq, append_nil]
  unfold forwardedLength receiveAndWrite
  rcases readExchange_response joined with
    ⟨classified, next, rest, readEq, classifies⟩ | ⟨-, nothing⟩
  · rcases classified.write_response patientClient (fun _ => nothingFollows) classifies with
      ⟨transfer, transferEq, written | ⟨-, unwritten⟩⟩
    · rw [readEq]
      simp only [transferEq, ofTransfer]
      cases written with
      | whole _ _ _ cleaned =>
        exact absurd (append_eq_nil_iff.mp cleaned.contentsEq).2 isLost
      | failed room limited _ _ _ => cases limited
      | cut _ _ _ _ _ _ _ _ _ failure =>
        rcases failure with ⟨cause, -, resultEq⟩
        rw [resultEq]
        rfl
    · rcases unwritten.failure with ⟨cause, -, resultEq⟩
      rw [readEq]
      simp only [transferEq, ofTransfer, resultEq, Except.toOption]
  · rcases readEq : readExchange kind conn with ⟨classified, next⟩
    rw [readEq] at nothing
    cases nothing
    rfl

theorem exists_lost {seen stream : Bytes}
    (missing : firstEnd (endsWith terminator) seen stream = none) :
    ∃ lost, lost ≠ [] ∧
      firstEnd (endsWith terminator) seen (stream ++ lost) = some (stream ++ lost).length := by
  have ended : firstEnd (endsWith terminator) (seen ++ stream) terminator ≠ none := by
    intro never
    have atEnd := firstEnd_eq_none_iff.mp never terminator.length (by decide) le_rfl
    rw [endsWith_eq_false_iff] at atEnd
    exact atEnd (suffix_append _ _)
  rcases Option.ne_none_iff_exists'.mp ended with ⟨stop, found⟩
  have bounds := firstEnd_sound found
  refine ⟨terminator.take stop, ?_, ?_⟩
  · rw [← length_pos_iff, length_take]
    omega
  · rw [firstEnd_append_of_none missing, firstEnd_take_of_some found, Option.map_some,
      length_append, length_take, Nat.min_eq_left bounds.2.1]

/-- Where the stream holds no terminator, nothing is forwarded as a response; where what
follows the first terminator starts like a status line, the response ends there. -/
theorem forwardedLength_of_startsLikeStatus {line : BodyLine kind} {stream : Bytes}
    (contentsEq : conn.contents = line.bytes ++ stream)
    (lineFits : line.bytes.length ≤ pool.bufferSize)
    (starts : ∀ stop, firstTerminatorEnd stream = some stop →
      startsLikeStatus (stream.drop stop) = true) :
    forwardedLength kind conn = (firstTerminatorEnd stream).map (line.bytes.length + ·) := by
  have sameEnd := line.firstEnd_eq stream
  cases found : firstTerminatorEnd stream with
  | none =>
    rw [found] at sameEnd
    rcases exists_lost sameEnd with ⟨lost, isLost, ends⟩
    have joined : conn.contents ++ lost = (line.respond _ ends).bytes := by
      rw [contentsEq, append_assoc]
      rfl
    exact forwardedLength_lost joined isLost
  | some stop =>
    rw [found] at sameEnd
    have bound := (firstEnd_sound sameEnd).2.1
    have ends := firstEnd_take_of_some sameEnd
    have bodyLen : (stream.take stop).length = stop := by
      rw [length_take, Nat.min_eq_left bound]
    nth_rewrite 2 [← bodyLen] at ends
    have joined : conn.contents = (line.respond _ ends).bytes ++ stream.drop stop := by
      rw [contentsEq]
      change _ = (line.bytes ++ stream.take stop) ++ stream.drop stop
      rw [append_assoc, take_append_drop]
    rw [forwardedLength_response (follows_iff.mpr (starts stop found)) joined lineFits]
    change some (line.bytes ++ stream.take stop).length = _
    rw [length_append, bodyLen]
    rfl

/-! ## A terminator that is passed by -/

variable {state : StreamingResponse pool}

namespace StreamingResponse

/-- The last window counts up to its end. -/
theorem result_of_complete {stop windowLen written total : Nat} {client : ClientWriter}
    (windowEq : state.window = .complete stop windowLen)
    (succeeded : (state.writeCurrentAndRemainingChunks client written).result = .ok total) :
    total = written + (state.buffer.visible.take stop).length := by
  rw [writeCurrentAndRemainingChunks, windowEq] at succeeded
  simp only [writeFrom] at succeeded
  split at succeeded
  · cases succeeded
  · split at succeeded
    · cases succeeded
    · cases succeeded
      rfl

/-- The whole current window is counted. -/
theorem chunk_le_of_result {written total : Nat} {client : ClientWriter}
    (succeeded : (state.writeCurrentAndRemainingChunks client written).result = .ok total) :
    written + (state.buffer.visible.take state.chunkLen).length ≤ total := by
  -- the induction is on what is left to read, as the recursion of the source loop
  induction bound : state.conn.contents.length using Nat.strongRecOn
    generalizing state client written with
  | _ length ih =>
    cases windowEq : state.window with
    | complete stop windowLen =>
      rw [chunkLen, windowEq]
      exact Nat.le_of_eq (result_of_complete windowEq succeeded).symm
    | incomplete windowLen =>
      rw [writeCurrentAndRemainingChunks, windowEq] at succeeded
      rw [chunkLen, windowEq]
      simp only at succeeded ⊢
      split at succeeded
      · cases succeeded
      · split at succeeded
        · cases succeeded
        next progress =>
          have smaller := bound ▸ contents_lt_of_readNextChunk progress
          exact Nat.le_trans (Nat.le_add_right _ _) (ih _ smaller succeeded rfl)

/-- Nothing is appended to a window that starts at the front of its buffer. -/
theorem write_of_visibleFrom_eq_zero (fresh : state.buffer.visibleFrom = 0)
    (client : ClientWriter) :
    state.write client = state.writeCurrentAndRemainingChunks client 0 := by
  have notRetained : state.buffer.retainedAppendPermit = false := by
    simp [PooledBuffer.retainedAppendPermit, fresh]
  simp [write, appendToRetainedPrefixIfWritable, notRetained]

end StreamingResponse

theorem readExchange_overTransport {read stream : Bytes} {reads : List Bytes}
    {frame : ResponseFrame} (cutting : IsCutting (read :: reads) stream)
    (fits : read.length ≤ pool.bufferSize) (parsed : ResponseFrame.parse kind read = .ok frame) :
    ∃ classified next,
      readExchange kind (overTransport cutting : ConnectionStream pool) =
        (some classified, next) ∧
      classified.frame = .ok frame ∧ classified.buffer.visible = read ∧
        classified.buffer.visibleFrom = 0 := by
  have nonempty : read ≠ [] := cutting.nonempty read mem_cons_self
  have limit := pool.bufferSize_le
  have enough : (pool.acquire.clear : PooledBuffer pool).spareRoom pool.bufferSize =
      pool.bufferSize := Nat.min_eq_left limit
  have readEq : (pool.acquire.readFrom
      (overTransport cutting : ConnectionStream pool)).1 = read := by
    change (pollRead _ (pool.acquire.clear.spareRoom pool.bufferSize)).1 = read
    rw [enough, pollRead, if_neg (Nat.ne_of_gt pool.bufferSize_pos)]
    exact take_of_length_le fits
  have shown := (pool.acquire.readTo_readFrom
    (overTransport cutting : ConnectionStream pool)).visible
  rw [readEq, nil_append] at shown
  have unbound :
      readExchange kind (overTransport cutting : ConnectionStream pool) =
        readUnbound kind (pool.acquire.readFrom (overTransport cutting)).2.1
          (pool.acquire.readFrom (overTransport cutting)).2.2 := by
    change readFirst kind pool.acquire (overTransport cutting) = _
    simp only [readFirst, readEq, nonempty, if_false]
  rw [unbound, readUnbound, shown, parsed]
  exact ⟨_, _, rfl, rfl, shown, rfl⟩

theorem eq_ok_of_toOption {result : Except ResponseTransferError Nat} {total : Nat}
    (succeeded : result.toOption = some total) : result = .ok total := by
  cases result with
  | error error => cases succeeded
  | ok written => exact congrArg Except.ok (Option.some.inj succeeded)

/-- The octets behind a terminator that arrive together with it and do not start like a status
line keep the response from ending there. -/
theorem forwardedLength_of_stray {line : BodyLine kind} {front stray stream : Bytes}
    {reads : List Bytes}
    (cutting : IsCutting ((line.bytes ++ (front ++ stray)) :: reads) stream)
    (fits : (line.bytes ++ (front ++ stray)).length ≤ pool.bufferSize)
    (ends : firstEnd (endsWith terminator) line.bytes front = some front.length)
    (rejected : plausibleStatusPrefix stray = false) :
    forwardedLength kind (overTransport cutting : ConnectionStream pool) ≠
      some (line.bytes.length + front.length) := by
  have strayNonempty : 0 < stray.length := by
    rw [length_pos_iff]
    rintro rfl
    cases rejected
  have parsed : ResponseFrame.parse kind (line.bytes ++ (front ++ stray)) =
      .ok (.multiline line.status line.bytes.length) :=
    (parse_eq_of_line (line.respond front ends) (front ++ stray)).trans
      (congrArg Except.ok (if_pos line.hasBody))
  rcases readExchange_overTransport cutting fits parsed with
    ⟨classified, next, readEq, frameEq, shown, fresh⟩
  have long : ¬ (line.bytes ++ (front ++ stray)).length < line.bytes.length := by
    rw [length_append]
    exact Nat.not_lt_of_le (Nat.le_add_right _ _)
  intro forwarded
  unfold forwardedLength receiveAndWrite at forwarded
  rw [readEq] at forwarded
  simp only [ClassifiedResponse.write, fromClassification, frameEq, shown, long,
    if_false, take_left' rfl, drop_left' rfl, MultilineFramer.update_empty] at forwarded
  cases split : (MultilineFramer.ofSeen line.bytes).splitChunk (front ++ stray)
      .allowIfStatusPrefix with
  | none =>
    rw [split] at forwarded
    cases forwarded
  | some framed =>
    rcases framed with ⟨progress, framer⟩
    rw [split] at forwarded
    simp only [Option.map_some] at forwarded
    rw [write_of_visibleFrom_eq_zero fresh] at forwarded
    have succeeded := eq_ok_of_toOption forwarded
    cases progress with
    | complete stop =>
      have total := result_of_complete rfl succeeded
      have stopEq : stop = front.length := by
        rw [shown, length_take, length_append, length_append] at total
        omega
      have accepted := MultilineFramer.endsResponse_of_splitChunk split
      rw [stopEq, MultilineFramer.endsResponse, drop_left' rfl, rejected,
        Bool.and_false, Bool.or_false, decide_eq_true_eq, length_append] at accepted
      omega
    | incomplete =>
      have counted := chunk_le_of_result succeeded
      simp only [chunkLen, inWindow, shown, take_length] at counted
      rw [length_append, length_append] at counted
      omega

/-- The response ends at the first terminator behind its status line, in whatever reads the
stream arrives, exactly when what follows that terminator starts like a status line. -/
theorem endsAtFirstTerminator_iff (line : BodyLine kind) (stream : Bytes) :
    (∀ (pool : BufferPool) (reads : List Bytes) (cutting : IsCutting reads (line.bytes ++ stream)),
        line.bytes.length ≤ pool.bufferSize →
          forwardedLength kind (overTransport cutting : ConnectionStream pool) =
            (firstTerminatorEnd stream).map (line.bytes.length + ·)) ↔
      ∀ stop, firstTerminatorEnd stream = some stop →
        startsLikeStatus (stream.drop stop) = true := by
  constructor
  · intro always stop found
    rw [startsLikeStatus_iff]
    intro stray isPart
    by_contra notRejected
    have rejected : plausibleStatusPrefix stray = false := eq_false_of_ne_true notRejected
    have sameEnd := line.firstEnd_eq stream
    rw [found] at sameEnd
    have bodyLen : (stream.take stop).length = stop := by
      rw [length_take, Nat.min_eq_left (firstEnd_sound sameEnd).2.1]
    have ends := firstEnd_take_of_some sameEnd
    nth_rewrite 2 [← bodyLen] at ends
    rcases isPart with ⟨rest, restEq⟩
    have streamEq : line.bytes ++ (stream.take stop ++ stray) ++ rest = line.bytes ++ stream := by
      rw [append_assoc, append_assoc, restEq, take_append_drop]
    have nonempty : line.bytes ++ (stream.take stop ++ stray) ≠ [] := by
      simp [BodyLine.bytes]
    rcases exists_isCutting nonempty rest with ⟨reads, cutting⟩
    rw [streamEq] at cutting
    -- one buffer takes the terminator and the octets behind it in one read
    let size := (line.bytes ++ (stream.take stop ++ stray)).length
    let wide : BufferPool := ⟨size, size, le_rfl, length_pos_iff.mpr nonempty⟩
    have lineFits : line.bytes.length ≤ wide.bufferSize := by
      change _ ≤ (line.bytes ++ (stream.take stop ++ stray)).length
      rw [length_append]
      exact Nat.le_add_right _ _
    have passedBy :
        forwardedLength kind (overTransport cutting : ConnectionStream wide) ≠
          some (line.bytes.length + (stream.take stop).length) :=
      forwardedLength_of_stray cutting le_rfl ends rejected
    apply passedBy
    rw [always wide _ cutting lineFits, found, bodyLen]
    rfl
  · intro starts pool reads cutting lineFits
    exact forwardedLength_of_startsLikeStatus (contents_overTransport cutting)
      lineFits starts

/-- The status line of an article that is found. -/
def articleLine : BodyLine .article where
  text := ascii "220 a"
  status := .article
  oneLine := foundReply.response.oneLine
  code := foundReply.response.code
  hasBody := by decide

/-- A response and octets that no status line starts with. -/
def strayRead : Bytes :=
  articleLine.bytes ++ ascii "x\r\n.\r\nno"

theorem isCutting_strayRead : IsCutting [strayRead] strayRead :=
  ⟨by decide +kernel, by decide⟩

theorem isCutting_strayReads : IsCutting [strayRead.take 13, strayRead.drop 13] strayRead :=
  ⟨by decide +kernel, by decide⟩

/-- The first terminator ends the response when it is the end of a read; with octets behind it
that no status line starts with, the response does not end. -/
theorem strayRead_passed_by :
    (firstTerminatorEnd (ascii "x\r\n.\r\nno")).map (articleLine.bytes.length + ·) = some 13 ∧
      forwardedLength .article (overTransport isCutting_strayReads :
        ConnectionStream smallPool) = some 13 ∧
      forwardedLength .article (overTransport isCutting_strayRead :
        ConnectionStream smallPool) = none := by
  decide +kernel

end NntpProxy.Transport
