import NntpProxy.Framing.Framer

/-!
# The reply tracker

`PendingRequestFrame.consume` finds the end of the reply to one registered
request, read by read.  It accumulates the status line up to a limit, discards
the rest of an overlong one, and hands a body to the multiline framer.  What it
has to remember is determined by the octets of the reply seen so far:
`PendingRequestFrame.ofSeen` computes that state directly and `consume_ofSeen`
shows that one read takes it to the state of the longer prefix, or reports the
first end of the reply.
-/

namespace NntpProxy.Framing

open Protocol NntpProxy.Stream List MultilineFramer StatusCode

/-- Longest status line that is interpreted, its line feed included. -/
abbrev statusLineLimit : Nat := 512

/-! ## The tracker of the source -/

/-- Progress of one tracked reply. -/
inductive PendingRequestFrameState where
  | awaitingStatusLine
  | discardingOverlongStatusLine
  | readingMultiline (framer : MultilineFramer)
  deriving DecidableEq, Repr

/-- A registered request whose reply has not ended. -/
structure PendingRequestFrame where
  kind : RequestKind
  state : PendingRequestFrameState
  statusLine : Bytes
  deriving DecidableEq, Repr

namespace PendingRequestFrame

/-- A request that no octet has answered yet. -/
def fresh (kind : RequestKind) : PendingRequestFrame :=
  ⟨kind, .awaitingStatusLine, []⟩

/-- Continue with the body that follows the status line `line`. -/
def consumeBody (frame : PendingRequestFrame) (line rest : Bytes) :
    Option Nat × PendingRequestFrame :=
  let framer := empty.update line
  match framer.advanceToNextTerminatorEnd rest with
  | (some consumed, _) => (some consumed, { frame with statusLine := [] })
  | (none, framer) =>
    (none, { frame with state := .readingMultiline framer, statusLine := [] })

/-- Read the unconsumed part of a chunk.  The result is the number of octets
that complete the reply, or the frame that waits for the next read. -/
def consume (frame : PendingRequestFrame) (chunk : Bytes) : Option Nat × PendingRequestFrame :=
  match frame.state with
  | .awaitingStatusLine =>
    match statusLineLen chunk with
    | none =>
      if frame.statusLine.length + chunk.length > statusLineLimit then
        (none, { frame with state := .discardingOverlongStatusLine, statusLine := [] })
      else (none, { frame with statusLine := frame.statusLine ++ chunk })
    | some lineLen =>
      if frame.statusLine.length + lineLen > statusLineLimit then (some lineLen, frame)
      else
        let line := frame.statusLine ++ chunk.take lineLen
        match parse line with
        | none => (some lineLen, { frame with statusLine := line })
        | some status =>
          if requestKindHasResponseBody frame.kind status then
            let (consumed, next) := frame.consumeBody line (chunk.drop lineLen)
            (consumed.map (lineLen + ·), next)
          else (some lineLen, { frame with statusLine := line })
  | .discardingOverlongStatusLine => (statusLineLen chunk, frame)
  | .readingMultiline framer =>
    match framer.advanceToNextTerminatorEnd chunk with
    | (some consumed, _) => (some consumed, frame)
    | (none, framer) => (none, { frame with state := .readingMultiline framer })

end PendingRequestFrame

/-- Backend octets as they are handed to the ordering layer. -/
inductive BackendReplyBytes where
  | completedTrackedReply (bytes : Bytes)
  | forwardUntracked (bytes : Bytes)
  deriving DecidableEq, Repr

/-- Split one backend read at the ends of the registered replies. -/
def acceptBackendBytes :
    List PendingRequestFrame → Bytes → List BackendReplyBytes × List PendingRequestFrame
  | pending, [] => ([], pending)
  | [], byte :: chunk => ([.forwardUntracked (byte :: chunk)], [])
  | front :: pending, byte :: chunk =>
    match front.consume (byte :: chunk) with
    | (none, front) => ([.forwardUntracked (byte :: chunk)], front :: pending)
    | (some consumed, _) =>
      let (later, left) := acceptBackendBytes pending ((byte :: chunk).drop consumed)
      (.completedTrackedReply ((byte :: chunk).take consumed) :: later, left)

/-! ## The end of a reply -/

/-- The reply ends with its status line: the line is overlong, has no valid
code, or announces no body for this kind of request. -/
def endsAtStatusLine (kind : RequestKind) (line : Bytes) : Bool :=
  decide (statusLineLimit < line.length) ||
    match parse line with
    | none => true
    | some status => !requestKindHasResponseBody kind status

/-- The octets form a complete reply: exactly the status line when the reply
ends with it, otherwise anything closed by the terminator. -/
def replyDone (kind : RequestKind) (seen : Bytes) : Bool :=
  match statusLineLen seen with
  | none => false
  | some lineLen =>
    if endsAtStatusLine kind (seen.take lineLen) then decide (seen.length = lineLen)
    else endsWith terminator seen

/-- Length of the reply at the start of a stream. -/
def replyLen (kind : RequestKind) (stream : Bytes) : Option Nat :=
  firstEnd (replyDone kind) [] stream

variable {kind : RequestKind} {seen : Bytes}

theorem replyDone_of_noLine (noLine : statusLineLen seen = none) : replyDone kind seen = false := by
  simp [replyDone, noLine]

theorem not_terminator_suffix_line {text : Bytes} (clean : lf ∉ text) :
    ¬ terminator <:+ text ++ [lf] := by
  rintro ⟨front, joined⟩
  apply clean
  have split : (front ++ [cr, lf, dot, cr]) ++ [lf] = text ++ [lf] := by
    simpa [terminator] using joined
  rw [← (append_inj' split rfl).1]
  simp

theorem replyDone_line {text : Bytes} (clean : lf ∉ text) :
    replyDone kind (text ++ [lf]) = endsAtStatusLine kind (text ++ [lf]) := by
  have lineFound : statusLineLen (text ++ [lf]) = some (text ++ [lf]).length :=
    statusLineLen_eq_some_iff.mpr ⟨text, [], clean, rfl, by simp⟩
  simp only [replyDone, lineFound, take_length]
  split
  · rename_i ends
    exact ends.symm
  · rename_i continues
    simp [not_terminator_suffix_line clean, continues]

variable {lineLen : Nat}

theorem replyDone_body (lineFound : statusLineLen seen = some lineLen)
    (continues : endsAtStatusLine kind (seen.take lineLen) = false) (more : Bytes) :
    replyDone kind (seen ++ more) = endsWith terminator (seen ++ more) := by
  have bound := (statusLineLen_le lineFound).2
  simp [replyDone, statusLineLen_append_of_some lineFound, take_append_of_le_length bound,
    continues]

theorem not_endsAtStatusLine_of_open (stillOpen : replyLen kind seen = none)
    (lineFound : statusLineLen seen = some lineLen) :
    endsAtStatusLine kind (seen.take lineLen) = false := by
  rcases statusLineLen_le lineFound with ⟨positive, bound⟩
  rcases take_statusLineLen lineFound with ⟨text, clean, lineEq⟩
  have incomplete := firstEnd_eq_none_iff.mp stillOpen lineLen positive bound
  rw [nil_append, lineEq, replyDone_line clean] at incomplete
  rw [lineEq, incomplete]

variable {chunk : Bytes}

theorem firstEnd_replyDone_of_noLine (noLine : statusLineLen seen = none)
    (noLineChunk : statusLineLen chunk = none) : firstEnd (replyDone kind) seen chunk = none := by
  rw [firstEnd_eq_none_iff]
  intro m _ _
  apply replyDone_of_noLine
  rw [statusLineLen_eq_none_iff] at noLine noLineChunk ⊢
  intro lfMem
  rcases mem_append.mp lfMem with inSeen | inChunk
  · exact noLine inSeen
  · exact noLineChunk (mem_of_mem_take inChunk)

/-- The read that closes the status line either ends the reply there or goes on
with the body. -/
theorem firstEnd_replyDone_of_line (noLine : statusLineLen seen = none)
    (lineFound : statusLineLen chunk = some lineLen) :
    firstEnd (replyDone kind) seen chunk =
      if endsAtStatusLine kind (seen ++ chunk.take lineLen) then some lineLen
      else
        (firstEnd (endsWith terminator) (seen ++ chunk.take lineLen)
          (chunk.drop lineLen)).map (lineLen + ·) := by
  rcases statusLineLen_eq_some_iff.mp lineFound with ⟨text, rest, clean, rfl, rfl⟩
  have seenClean := statusLineLen_eq_none_iff.mp noLine
  have lineClean : lf ∉ seen ++ text := by simp [seenClean, clean]
  have fullLine : statusLineLen (seen ++ text ++ [lf]) = some (seen ++ text ++ [lf]).length :=
    statusLineLen_eq_some_iff.mpr ⟨seen ++ text, [], lineClean, rfl, length_append⟩
  have textOpen : firstEnd (replyDone kind) seen text = none :=
    firstEnd_replyDone_of_noLine noLine (statusLineLen_eq_none_iff.mpr clean)
  rw [take_line, drop_line, ← append_assoc, firstEnd_append_of_none textOpen]
  cases ends : endsAtStatusLine kind (seen ++ text ++ [lf]) with
  | true =>
    rw [firstEnd_cons_of_done (by rw [replyDone_line lineClean, ends])]
    rfl
  | false =>
    rw [firstEnd_cons_of_not_done (by rw [replyDone_line lineClean, ends])]
    have bodyEnd : firstEnd (replyDone kind) (seen ++ text ++ [lf]) rest =
        firstEnd (endsWith terminator) (seen ++ text ++ [lf]) rest := by
      apply firstEnd_congr
      intro m _ _
      exact replyDone_body fullLine (by rw [take_length, ends]) (rest.take m)
    rw [Option.map_map]
    congr 1
    funext n
    simp only [Function.comp_apply]
    omega

theorem firstEnd_replyDone_of_body (stillOpen : replyLen kind seen = none)
    (lineFound : statusLineLen seen = some lineLen) (chunk : Bytes) :
    firstEnd (replyDone kind) seen chunk = firstEnd (endsWith terminator) seen chunk := by
  apply firstEnd_congr
  intro m _ _
  exact replyDone_body lineFound (not_endsAtStatusLine_of_open stillOpen lineFound) _

/-! ## The state of a partly read reply -/

namespace PendingRequestFrame

/-- The frame of a reply of which `seen` has been read and which is still open. -/
def ofSeen (kind : RequestKind) (seen : Bytes) : PendingRequestFrame :=
  match statusLineLen seen with
  | none =>
    if seen.length > statusLineLimit then ⟨kind, .discardingOverlongStatusLine, []⟩
    else ⟨kind, .awaitingStatusLine, seen⟩
  | some _ => ⟨kind, .readingMultiline (.ofSeen seen), []⟩

@[simp]
theorem ofSeen_kind (kind : RequestKind) (seen : Bytes) : (ofSeen kind seen).kind = kind := by
  unfold ofSeen
  split
  · split <;> rfl
  · rfl

theorem ofSeen_of_short (noLine : statusLineLen seen = none)
    (short : ¬ seen.length > statusLineLimit) :
    ofSeen kind seen = ⟨kind, .awaitingStatusLine, seen⟩ := by
  simp only [ofSeen, noLine, if_neg short]

theorem ofSeen_of_overlong (noLine : statusLineLen seen = none)
    (long : seen.length > statusLineLimit) :
    ofSeen kind seen = ⟨kind, .discardingOverlongStatusLine, []⟩ := by
  simp only [ofSeen, noLine, if_pos long]

theorem ofSeen_of_line (lineFound : statusLineLen seen = some lineLen) :
    ofSeen kind seen = ⟨kind, .readingMultiline (.ofSeen seen), []⟩ := by
  simp only [ofSeen, lineFound]

/-- What `consume` has to return for an open reply: its first end, and the state
of the longer prefix when there is none. -/
def Continues (kind : RequestKind) (seen chunk : Bytes)
    (result : Option Nat × PendingRequestFrame) : Prop :=
  result.1 = firstEnd (replyDone kind) seen chunk ∧
    (result.1 = none → result.2 = ofSeen kind (seen ++ chunk))

/-- A line closed by the line feed leaves no room for a collision at the cut. -/
private theorem not_collision_line {text : Bytes} : ¬ Collision (text ++ [lf]) chunk := by
  rintro ⟨⟨front, joined⟩, -⟩
  have split : (front ++ [cr, lf, dot]) ++ [cr] = text ++ [lf] := by simpa using joined
  exact absurd (append_inj' split rfl).2 (by decide)

/-- The body behind a status line that was completed in this read. -/
private theorem consumeBody_continues (frame : PendingRequestFrame) (frameKind : frame.kind = kind)
    (noLine : statusLineLen seen = none) (lineFound : statusLineLen chunk = some lineLen)
    (continues : endsAtStatusLine kind (seen ++ chunk.take lineLen) = false) :
    Continues kind seen chunk
      (((frame.consumeBody (seen ++ chunk.take lineLen) (chunk.drop lineLen)).1.map
          (lineLen + ·)),
        (frame.consumeBody (seen ++ chunk.take lineLen) (chunk.drop lineLen)).2) := by
  rcases take_statusLineLen lineFound with ⟨text, _, lineEq⟩
  have noCollision : ¬ Collision (seen ++ chunk.take lineLen) (chunk.drop lineLen) := by
    rw [lineEq, ← append_assoc]
    exact not_collision_line
  have joinedLine : statusLineLen (seen ++ chunk) = some (seen.length + lineLen) := by
    rw [statusLineLen_append_of_none noLine, lineFound]
    rfl
  simp only [Continues, consumeBody, update_empty,
    advanceToNextTerminatorEnd_ofSeen noCollision,
    firstEnd_replyDone_of_line noLine lineFound, continues, Bool.false_eq_true, if_false]
  cases firstEnd (endsWith terminator) (seen ++ chunk.take lineLen) (chunk.drop lineLen) with
  | some consumed => simp
  | none => simp [ofSeen_of_line joinedLine, frameKind]

/-- The read that completes the status line. -/
private theorem consume_line_continues (noLine : statusLineLen seen = none)
    (lineFound : statusLineLen chunk = some lineLen) :
    Continues kind seen chunk ((ofSeen kind seen).consume chunk) := by
  have lineLength : (seen ++ chunk.take lineLen).length = seen.length + lineLen := by
    rw [length_append, length_take, Nat.min_eq_left (statusLineLen_le lineFound).2]
  have endsHere (ends : endsAtStatusLine kind (seen ++ chunk.take lineLen) = true)
      (next : PendingRequestFrame) : Continues kind seen chunk (some lineLen, next) := by
    simp [Continues, firstEnd_replyDone_of_line noLine lineFound, ends]
  by_cases long : seen.length > statusLineLimit
  · have ends : endsAtStatusLine kind (seen ++ chunk.take lineLen) = true := by
      have overlong : statusLineLimit < seen.length + lineLen :=
        Nat.lt_of_lt_of_le long (Nat.le_add_right _ _)
      simp only [endsAtStatusLine, lineLength, decide_eq_true overlong, Bool.true_or]
    simp only [ofSeen_of_overlong noLine long, consume, lineFound]
    exact endsHere ends _
  · simp only [ofSeen_of_short noLine long, consume, lineFound]
    by_cases overlong : seen.length + lineLen > statusLineLimit
    · rw [if_pos overlong]
      apply endsHere
      simp only [endsAtStatusLine, lineLength, decide_eq_true overlong, Bool.true_or]
    · rw [if_neg overlong]
      cases parsed : parse (seen ++ chunk.take lineLen) with
      | none =>
        apply endsHere
        simp [endsAtStatusLine, parsed]
      | some status =>
        cases hasBody : requestKindHasResponseBody kind status with
        | false =>
          simp only [hasBody]
          apply endsHere
          simp [endsAtStatusLine, parsed, hasBody]
        | true =>
          have continues : endsAtStatusLine kind (seen ++ chunk.take lineLen) = false := by
            simp only [endsAtStatusLine, lineLength, decide_eq_false overlong, parsed, hasBody]
            rfl
          simp only [hasBody]
          exact consumeBody_continues ⟨kind, .awaitingStatusLine, seen⟩ rfl noLine lineFound
            continues

theorem consume_ofSeen (stillOpen : replyLen kind seen = none) (clean : ¬ Collision seen chunk) :
    Continues kind seen chunk ((ofSeen kind seen).consume chunk) := by
  cases lineSeen : statusLineLen seen with
  | some seenLen =>
    have joinedLine := statusLineLen_append_of_some lineSeen chunk
    simp only [Continues, ofSeen_of_line lineSeen, ofSeen_of_line joinedLine, consume,
      advanceToNextTerminatorEnd_ofSeen clean,
      firstEnd_replyDone_of_body stillOpen lineSeen]
    cases firstEnd (endsWith terminator) seen chunk with
    | some consumed => simp
    | none => simp
  | none =>
    cases lineChunk : statusLineLen chunk with
    | none =>
      have joined : statusLineLen (seen ++ chunk) = none := by
        rw [statusLineLen_append_of_none lineSeen, lineChunk]
        rfl
      rw [Continues, firstEnd_replyDone_of_noLine lineSeen lineChunk]
      by_cases long : seen.length > statusLineLimit
      · have joinedLong : (seen ++ chunk).length > statusLineLimit := by
          rw [length_append]
          exact Nat.lt_of_lt_of_le long (Nat.le_add_right _ _)
        simp [ofSeen_of_overlong lineSeen long, ofSeen_of_overlong joined joinedLong, consume,
          lineChunk]
      · rw [ofSeen_of_short lineSeen long]
        by_cases joinedLong : (seen ++ chunk).length > statusLineLimit
        · rw [ofSeen_of_overlong joined joinedLong]
          rw [length_append] at joinedLong
          simp [consume, lineChunk, joinedLong]
        · rw [ofSeen_of_short joined joinedLong]
          rw [length_append] at joinedLong
          simp [consume, lineChunk, joinedLong]
    | some lineLen =>
      exact consume_line_continues lineSeen lineChunk

end PendingRequestFrame

end NntpProxy.Framing
