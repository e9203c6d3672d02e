import NntpProxy.Transport.Windows

/-!
# Alignment of pipelined responses

A response is followed on its connection by `later`, the octets of the responses
behind it.  While it is streamed, the window and the connection together hold the
rest of the response and then `later`, and every read keeps it so.  Writing the
response therefore leaves exactly `later` on the connection, and a client that
fails is given exactly what its writer accepted.
-/

namespace NntpProxy.Transport

open Protocol Framing NntpProxy.Stream List ResponseFrame PooledBuffer Response StreamingResponse

variable {pool : BufferPool}

/-! ## Reading a response -/

theorem parse_eq_of_line {kind : RequestKind} (response : Response kind) (rest : Bytes) :
    parse kind (response.text ++ crlf ++ rest) =
      .ok (if requestKindHasResponseBody kind response.status then
          .multiline response.status (response.text ++ crlf).length
        else .singleLine response.status (response.text ++ crlf).length) := by
  have lineFound := statusLineLen_append_of_some response.statusLineLen_line rest
  have codeFound : StatusCode.parse (response.text ++ crlf ++ rest) = some response.status := by
    rcases digits_of_parse response.code with ⟨first, second, third, tail, lineEq, -⟩
    rw [StatusCode.parse_append (by rw [lineEq]; simp), response.code]
  simp only [parse, lineFound, codeFound]
  split <;> rfl

variable {later : Bytes}

variable {rest : Bytes}

theorem length_lt_of_noLine {kind : RequestKind} {response : Response kind} {shown : Bytes}
    (joined : shown ++ rest = response.bytes ++ later)
    (noLine : statusLineLen shown = none) : shown.length < (response.text ++ crlf).length := by
  by_contra long
  have linePart : response.text ++ crlf <+: shown := by
    apply prefix_of_prefix_length_le _ (prefix_append shown rest) (Nat.le_of_not_lt long)
    rw [joined]
    exact ⟨response.body ++ later, by simp [bytes]⟩
  rcases linePart with ⟨tail, rfl⟩
  rw [statusLineLen_append_of_some response.statusLineLen_line] at noLine
  simp at noLine

theorem line_isPrefix_of_line {kind : RequestKind} {response : Response kind} {shown : Bytes}
    {lineLen : Nat} (joined : shown ++ rest = response.bytes ++ later)
    (lineFound : statusLineLen shown = some lineLen) : response.text ++ crlf <+: shown := by
  have lineEq : (response.text ++ crlf).length = lineLen := by
    have whole := statusLineLen_append_of_some lineFound rest
    rw [joined, bytes, append_assoc,
      statusLineLen_append_of_some response.statusLineLen_line, Option.some.injEq] at whole
    exact whole
  apply prefix_of_prefix_length_le _ (prefix_append _ rest)
    (lineEq ▸ (statusLineLen_le lineFound).2)
  rw [joined]
  exact ⟨response.body ++ later, by simp [bytes]⟩

/-- A response was classified and nothing of it or behind it is missing but `lost`. -/
structure Classifies {kind : RequestKind} (response : Response kind) (lost later : Bytes)
    (classified : ClassifiedResponse pool) (conn : ConnectionStream pool) (rest : Bytes) :
    Prop where
  visibleEq : classified.buffer.visible = response.text ++ crlf ++ rest
  joined : rest ++ conn.contents ++ lost = response.body ++ later
  frameEq : classified.frame = parse kind classified.buffer.visible

variable {conn : ConnectionStream pool} {lost : Bytes} {buffer : PooledBuffer pool}

/-- Reading stops as soon as the status line is there and loses nothing.  It fails only
when the backend does or the status line does not fit a buffer. -/
theorem readUnbound_response {kind : RequestKind} {response : Response kind}
    (joined : buffer.visible ++ conn.contents ++ lost = response.bytes ++ later) :
    (∃ classified next rest, readUnbound kind buffer conn = (some classified, next) ∧
        Classifies response lost later classified next rest) ∨
      ((lost ≠ [] ∨ pool.bufferSize < (response.text ++ crlf).length) ∧
        (readUnbound kind buffer conn).1 = none) := by
  induction bound : conn.contents.length using Nat.strongRecOn generalizing buffer conn with
  | _ length ih =>
    rw [readUnbound]
    have wholeJoined := joined
    rw [List.append_assoc] at joined
    cases lineFound : statusLineLen buffer.visible with
    | none =>
      have parsed : parse kind buffer.visible = .error .incomplete := by
        simp only [parse, lineFound]
      have short := length_lt_of_noLine joined lineFound
      have readTo := buffer.readTo_readMore conn
      rw [parsed]
      by_cases nothing : (buffer.readMore conn).1 = []
      · rw [dif_pos nothing]
        refine Or.inr ⟨?_, rfl⟩
        rw [length_visible] at short
        by_cases hasRoom : buffer.initialized < pool.bufferSize
        · -- the transport ended inside the status line
          have exhausted := (readMore_eq_nil_iff _ hasRoom).mp nothing
          left
          rintro rfl
          have lengths := congrArg List.length joined
          rw [exhausted, List.append_nil, List.append_nil, List.length_append,
            length_visible, bytes, List.length_append] at lengths
          omega
        · exact Or.inr (Nat.lt_of_le_of_lt (Nat.le_of_not_lt hasRoom) short)
      · rw [dif_neg nothing]
        apply ih _ (bound ▸ contents_lt_of_readTo readTo nothing) _ rfl
        rw [readTo.visible, List.append_assoc buffer.visible, readTo.contents, wholeJoined]
    | some lineLen =>
      rcases line_isPrefix_of_line joined lineFound with ⟨rest, restEq⟩
      refine Or.inl ⟨⟨buffer, parse kind buffer.visible⟩, conn, rest, ?_,
        restEq.symm, ?_, rfl⟩
      · rw [← restEq, parse_eq_of_line]
      · rw [List.append_assoc]
        apply (List.append_right_inj (response.text ++ crlf)).mp
        rw [← List.append_assoc, restEq, joined, bytes, List.append_assoc]

theorem takeQueuedInputOrAcquireEmpty_contents (conn : ConnectionStream pool) :
    (takeQueuedInputOrAcquireEmpty conn).1.visible ++
      (takeQueuedInputOrAcquireEmpty conn).2.contents = conn.contents := by
  unfold takeQueuedInputOrAcquireEmpty ConnectionStream.takeLeadingPooledPendingInput
  split
  · rename_i nothing
    split at nothing
    · simp at nothing
    · obtain ⟨-, rfl⟩ := Prod.mk.inj nothing
      rfl
  · rename_i found
    split at found
    · rename_i buffer start stop pos rest pendingEq
      obtain ⟨⟨rfl, rfl, rfl⟩, rfl⟩ := found
      rw [dif_pos (ConnectionStream.leadingPooled_inside pendingEq),
        visible_exposeInitializedRange]
      simp [ConnectionStream.contents, pendingEq, PendingBackendInput.left]
    · simp at found

theorem readFirst_response {kind : RequestKind} {response : Response kind}
    (buffer : PooledBuffer pool) (contentsEq : conn.contents ++ lost = response.bytes ++ later) :
    (∃ classified next rest, readFirst kind buffer conn = (some classified, next) ∧
        Classifies response lost later classified next rest) ∨
      ((lost ≠ [] ∨ pool.bufferSize < (response.text ++ crlf).length) ∧
        (readFirst kind buffer conn).1 = none) := by
  unfold readFirst
  by_cases nothing : (buffer.readFrom conn).1 = []
  · have exhausted := (readFrom_eq_nil_iff _ _).mp nothing
    simp only [nothing, if_true, and_true]
    refine Or.inr (Or.inl ?_)
    rw [exhausted, nil_append] at contentsEq
    rw [contentsEq]
    simp [bytes]
  · have readTo := buffer.readTo_readFrom conn
    simp only [nothing]
    apply readUnbound_response
    rw [readTo.visible, nil_append, readTo.contents, contentsEq]

theorem readExchange_response {kind : RequestKind} {response : Response kind}
    (contentsEq : conn.contents ++ lost = response.bytes ++ later) :
    (∃ classified next rest, readExchange kind conn = (some classified, next) ∧
        Classifies response lost later classified next rest) ∨
      ((lost ≠ [] ∨ pool.bufferSize < (response.text ++ crlf).length) ∧
        (readExchange kind conn).1 = none) := by
  have taken := takeQueuedInputOrAcquireEmpty_contents conn
  rcases takenEq : takeQueuedInputOrAcquireEmpty conn with ⟨buffer, left⟩
  rw [takenEq] at taken
  rw [← taken] at contentsEq
  simp only [readExchange, takenEq]
  by_cases isEmpty : buffer.initialized = 0
  · have nothingShown : buffer.visible = [] := by
      rw [← length_eq_zero_iff, length_visible, isEmpty]
    rw [nothingShown] at contentsEq
    rw [if_pos isEmpty]
    exact readFirst_response buffer contentsEq
  · rw [if_neg isEmpty]
    exact readUnbound_response contentsEq

variable {classified : ClassifiedResponse pool} {next : ConnectionStream pool}

section

variable {kind : RequestKind}

theorem readUnbound_invariant (motive : PooledBuffer pool → ConnectionStream pool → Prop)
    (readMore : ∀ buffer conn, motive buffer conn →
      motive (buffer.readMore conn).2.1 (buffer.readMore conn).2.2) (start : motive buffer conn)
    (readEq : readUnbound kind buffer conn = (some classified, next)) :
    motive classified.buffer next ∧
      classified.frame = parse kind classified.buffer.visible := by
  induction bound : conn.contents.length using Nat.strongRecOn generalizing buffer conn with
  | _ length ih =>
    rw [readUnbound] at readEq
    split at readEq
    · split at readEq
      · simp at readEq
      · next stuck =>
          have smaller := bound ▸ contents_lt_of_readTo (buffer.readTo_readMore conn) stuck
          exact ih _ smaller (readMore buffer conn start) readEq rfl
    · simp only [Prod.mk.injEq, Option.some.injEq] at readEq
      rcases readEq with ⟨rfl, rfl⟩
      exact ⟨start, rfl⟩

theorem readUnbound_some (readEq : readUnbound kind buffer conn = (some classified, next)) :
    classified.buffer.visible ++ next.contents = buffer.visible ++ conn.contents ∧
      classified.frame = parse kind classified.buffer.visible := by
  apply readUnbound_invariant
    (fun current left => current.visible ++ left.contents = buffer.visible ++ conn.contents)
    _ rfl readEq
  intro current left joined
  have readTo := current.readTo_readMore left
  rw [readTo.visible, append_assoc, readTo.contents, joined]

theorem readFirst_some (readEq : readFirst kind buffer conn = (some classified, next)) :
    classified.buffer.visible ++ next.contents = conn.contents ∧
      classified.frame = parse kind classified.buffer.visible := by
  unfold readFirst at readEq
  simp only at readEq
  split at readEq
  · simp at readEq
  · have readTo := buffer.readTo_readFrom conn
    rcases readUnbound_some readEq with ⟨joined, frameEq⟩
    rw [readTo.visible, nil_append, readTo.contents] at joined
    exact ⟨joined, frameEq⟩

theorem readFirst_initialized_le (readEq : readFirst kind buffer conn = (some classified, next)) :
    classified.buffer.initialized ≤ pool.bufferSize := by
  unfold readFirst at readEq
  simp only at readEq
  split at readEq
  · simp at readEq
  · exact (readUnbound_invariant (fun current _ => current.initialized ≤ pool.bufferSize)
      (fun current left limited => initialized_readMore_le left limited)
      (buffer.initialized_readFrom_le conn) readEq).1

theorem readExchange_some (readEq : readExchange kind conn = (some classified, next)) :
    classified.buffer.visible ++ next.contents = conn.contents ∧
      classified.frame = parse kind classified.buffer.visible := by
  have taken := takeQueuedInputOrAcquireEmpty_contents conn
  rcases takenEq : takeQueuedInputOrAcquireEmpty conn with ⟨buffer, left⟩
  rw [takenEq] at taken
  simp only [readExchange, takenEq] at readEq
  split at readEq
  next isEmpty =>
    have nothingShown : buffer.visible = [] := by
      rw [← length_eq_zero_iff, length_visible, isEmpty]
    rw [nothingShown] at taken
    rw [← taken]
    exact readFirst_some readEq
  · rw [← taken]
    exact readUnbound_some readEq

end

/-- What a read of the next response says about it when it was classified. -/
structure ReadsNext (kind : RequestKind) (conn : ConnectionStream pool)
    (result : Option (ClassifiedResponse pool) × ConnectionStream pool) : Prop where
  response : ∀ {response : Response kind} {lost later : Bytes},
    conn.contents ++ lost = response.bytes ++ later →
      (∃ classified next rest, result = (some classified, next) ∧
        Classifies response lost later classified next rest) ∨ result.1 = none
  some : ∀ {classified next}, result = (some classified, next) →
    classified.buffer.visible ++ next.contents = conn.contents ∧
      classified.frame = parse kind classified.buffer.visible

theorem readFirst_readsNext (kind : RequestKind) (buffer : PooledBuffer pool)
    (conn : ConnectionStream pool) : ReadsNext kind conn (readFirst kind buffer conn) :=
  ⟨fun joined => (readFirst_response buffer joined).imp_right And.right, readFirst_some⟩

theorem readExchange_readsNext (kind : RequestKind) (conn : ConnectionStream pool) :
    ReadsNext kind conn (readExchange kind conn) :=
  ⟨fun joined => (readExchange_response joined).imp_right And.right, readExchange_some⟩

namespace ReadsNext

variable {kind : RequestKind} {conn next : ConnectionStream pool}
  {classified : ClassifiedResponse pool}

variable (reads : ReadsNext kind conn (Option.some classified, next))

include reads

theorem shown :
    classified.buffer.visible ++ next.contents = conn.contents :=
  (reads.some rfl).1

theorem frameEq :
    classified.frame = parse kind classified.buffer.visible :=
  (reads.some rfl).2

theorem classifies {response : Response kind}
    (joined : conn.contents ++ lost = response.bytes ++ later) :
    ∃ rest, Classifies response lost later classified next rest := by
  rcases reads.response joined with ⟨classified', next', rest, sameEq, classifies⟩ | nothing
  · simp only [Prod.mk.injEq, Option.some.injEq] at sameEq
    rcases sameEq with ⟨rfl, rfl⟩
    exact ⟨rest, classifies⟩
  · cases nothing

end ReadsNext

theorem fromClassification_response {kind : RequestKind} {response : Response kind}
    (follows : requestKindHasResponseBody kind response.status = true → Follows later)
    (classifies : Classifies response lost later classified conn rest) :
    ∃ state, fromClassification classified conn = some state ∧
      StreamingResponse.Streams lost later state response.bytes := by
  rcases classifies with ⟨visibleEq, joined, frameEq⟩
  have ends := response.ends
  have windowLen : (response.text ++ crlf ++ rest).length =
      (response.text ++ crlf).length + rest.length := length_append
  rw [visibleEq, parse_eq_of_line] at frameEq
  unfold fromClassification
  by_cases hasBody : requestKindHasResponseBody kind response.status = true
  · rw [if_pos hasBody] at frameEq ends
    rcases streams_of_splitChunk (follows hasBody) visibleEq (by simp [crlf])
      joined ends with ⟨progress, framer, split, streams⟩
    simp only [frameEq, visibleEq, take_left' rfl, drop_left' rfl,
      MultilineFramer.update_empty, split, Option.map_some]
    rw [if_neg (by rw [windowLen]; omega), windowLen]
    exact ⟨_, rfl, streams _ _⟩
  · rw [if_neg hasBody] at frameEq ends
    rw [ends, nil_append] at joined
    simp only [frameEq]
    refine ⟨_, rfl, .complete (response.text ++ crlf).length ?_ ?_ ?_ ?_⟩
    · simp only [length_visible]
    · change _ ≤ classified.buffer.initialized
      rw [← length_visible, visibleEq, windowLen]
      exact Nat.le_add_right _ _
    · change classified.buffer.visible.take _ = _
      rw [visibleEq, take_left' rfl, bytes, ends, append_nil]
    · change classified.buffer.visible.drop _ ++ conn.contents ++ lost = _
      rw [visibleEq, drop_left' rfl, joined]

/-! ## Writing a classified response -/

section

variable {kind : RequestKind} {response : Response kind} (client : ClientWriter)
    (follows : requestKindHasResponseBody kind response.status = true → Follows later)
    (classifies : Classifies response lost later classified conn rest)

include follows classifies

theorem ClassifiedResponse.write_response :
    ∃ transfer, classified.write conn client = .ofTransfer transfer ∧
      (StreamingResponse.Written lost later response.bytes client 0 transfer ∨
        (lost ≠ [] ∧ StreamingResponse.Unwritten client transfer)) := by
  rcases fromClassification_response follows classifies with ⟨state, stateEq, streams⟩
  refine ⟨state.write client, ?_, streams.write client⟩
  rw [ClassifiedResponse.write, stateEq]

/-- Writing a classified response and keeping a copy writes its octets, or the backend
failed before. -/
theorem ClassifiedResponse.captureAndWrite_response :
    ∃ transfer, (classified.captureAndWrite conn client).1 = .ofTransfer transfer ∧
      (StreamingResponse.Written lost later response.bytes client 0 transfer ∨
        StreamingResponse.Unwritten client transfer) := by
  rcases fromClassification_response follows classifies with ⟨state, stateEq, streams⟩
  have written := streams.captureAndWrite client []
    maxCapturedMultilineResponseBytes
  refine ⟨_, ?_, written.imp_right And.right⟩
  rw [ClassifiedResponse.captureAndWrite, stateEq]

end

theorem receiveAndWrite_response {kind : RequestKind} {response : Response kind}
    (client : ClientWriter) (follows : Follows later)
    (contentsEq : conn.contents = response.bytes ++ later)
    (lineFits : (response.text ++ crlf).length ≤ pool.bufferSize) :
    ∃ transfer, receiveAndWrite kind conn client = some (.ofTransfer transfer) ∧
      StreamingResponse.Written [] later response.bytes client 0 transfer := by
  rcases readExchange_response ((append_nil _).trans contentsEq) with
    ⟨classified, next, rest, readEq, classifies⟩ | ⟨lostOrLong, -⟩
  · rcases classified.write_response client (fun _ => follows) classifies with
      ⟨transfer, transferEq, written | ⟨isLost, -⟩⟩
    · exact ⟨transfer, by simp only [receiveAndWrite, readEq, transferEq], written⟩
    · exact absurd rfl isLost
  · rcases lostOrLong with isLost | tooLong
    · exact absurd rfl isLost
    · omega

/-! ## Exchanges one after the other -/

/-- A response together with the kind of the request it answers. -/
structure Reply where
  kind : RequestKind
  response : Response kind

/-- The octets of responses sent one after the other. -/
def streamOf (replies : List Reply) : Bytes :=
  (replies.map fun reply => reply.response.bytes).flatten

theorem follows_streamOf (replies : List Reply) : Follows (streamOf replies) := by
  cases replies with
  | nil =>
    refine ⟨by simp [streamOf], fun part isPart => ?_⟩
    rw [prefix_nil.mp isPart]
    rfl
  | cons reply replies =>
    have streamEq : streamOf (reply :: replies) = reply.response.bytes ++ streamOf replies := rfl
    constructor
    · rintro ⟨rest, joined⟩
      apply reply.response.head?_bytes_ne_dot
      have nonempty : reply.response.bytes ≠ [] := by simp [bytes]
      rw [streamEq] at joined
      rw [← head?_append_of_ne_nil _ nonempty, ← joined]
      rfl
    · intro part isPart
      exact plausibleStatusPrefix_of_response reply.response (streamEq ▸ isPart)

/-- Receive and write the responses to requests of these kinds, one after the other
on one connection, and collect the exchanges. -/
def receiveAll : List RequestKind → ConnectionStream pool → ClientWriter →
    Option (List (ExchangeResult pool))
  | [], _, _ => some []
  | kind :: kinds, conn, client =>
    match receiveAndWrite kind conn client with
    | none => none
    | some exchange =>
      (receiveAll kinds exchange.conn exchange.client).map (exchange :: ·)

end NntpProxy.Transport
