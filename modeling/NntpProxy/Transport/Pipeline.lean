import NntpProxy.Pool.Guard
import NntpProxy.Transport.Alignment

/-!
# Pipelined responses on one connection

The responses to pipelined requests arrive as one stream, cut into reads anywhere.
Receiving and writing them one after the other gives the client every response in
turn and leaves the connection, after each of them, with exactly the responses
that have not been received.  When the client fails inside a response, it has the
octets that its writer accepted, and the connection is still aligned or is removed from
its pool.
-/

namespace NntpProxy.Transport

open Protocol Framing NntpProxy.Stream Pool ConnectionStream ClientWriter ExchangeResult

variable {pool : BufferPool}

section

variable {reads : List Bytes} {stream : Bytes} (cutting : IsCutting reads stream)

/-- A connection that has nothing pending and whose transport returns these reads. -/
def ConnectionStream.overTransport : ConnectionStream pool where
  pendingInput := []
  transport := reads
  readFails := false
  pending_nonempty := by simp
  pending_inBuffer := PendingBackendInput.inBuffer_nil
  transport_nonempty := cutting.nonempty

theorem ConnectionStream.contents_overTransport :
    (overTransport cutting : ConnectionStream pool).contents = stream :=
  cutting.flatten_eq

end

/-- A client that takes everything. -/
def patientClient : ClientWriter :=
  ⟨⟨[], none, none⟩, .other⟩

/-- The status lines of these responses fit a buffer of the pool. -/
def LinesFit (pool : BufferPool) (replies : List Reply) : Prop :=
  ∀ reply ∈ replies, (reply.response.text ++ crlf).length ≤ pool.bufferSize

/-- What holds after the exchange at position `i`: the client has the responses up to
it and the connection holds those behind it. -/
structure InTurn (replies : List Reply) (before : Bytes) (i : Nat)
    (exchange : ExchangeResult pool) : Prop where
  succeeded : ∃ written, exchange.result = .ok written
  acceptedEq : exchange.client.sink.accepted = before ++ streamOf (replies.take (i + 1))
  contentsEq : exchange.conn.contents = streamOf (replies.drop (i + 1))
  isComplete : exchange.responseComplete = true

theorem InTurn.succ {reply : Reply} {replies : List Reply} {before : Bytes} {i : Nat}
    {exchange : ExchangeResult pool}
    (inTurn : InTurn replies (before ++ reply.response.bytes) i exchange) :
    InTurn (reply :: replies) before (i + 1) exchange := by
  refine ⟨inTurn.succeeded, ?_, inTurn.contentsEq, inTurn.isComplete⟩
  rw [inTurn.acceptedEq, List.append_assoc]
  rfl

theorem receiveAll_inTurn {replies : List Reply} {conn : ConnectionStream pool}
    {client : ClientWriter} (contentsEq : conn.contents = streamOf replies)
    (linesFit : LinesFit pool replies) (unlimited : client.sink.capacity = none) :
    ∃ exchanges, receiveAll (replies.map Reply.kind) conn client = some exchanges ∧
      exchanges.length = replies.length ∧
      ∀ i exchange, exchanges[i]? = some exchange →
        InTurn replies client.sink.accepted i exchange := by
  induction replies generalizing conn client with
  | nil => exact ⟨[], rfl, rfl, by simp⟩
  | cons reply replies ih =>
    have fits := linesFit reply List.mem_cons_self
    rcases receiveAndWrite_response client (follows_streamOf replies) contentsEq fits with
      ⟨transfer, transferEq, written⟩
    cases written with
    | failed room capacityEq =>
      rw [unlimited] at capacityEq
      simp at capacityEq
    | cut front rest remainingEq started unsent clientEq partFits isLost =>
      exact absurd rfl isLost
    | whole resultEq clientEq fitsWhole cleaned =>
      have laterEq : transfer.response.conn.contents = streamOf replies := by
        rw [← cleaned.contentsEq, List.append_nil]
      have stillUnlimited : transfer.client.sink.capacity = none := by
        rw [clientEq, accept, Sink.accept, unlimited]
        rfl
      rcases ih laterEq (fun later laterMem => linesFit later (List.mem_cons_of_mem _ laterMem))
        stillUnlimited with ⟨exchanges, exchangesEq, lengthEq, inTurn⟩
      refine ⟨.ofTransfer transfer :: exchanges, ?_, by simp [lengthEq], ?_⟩
      · rw [List.map_cons, receiveAll, transferEq]
        simp only [ofTransfer, exchangesEq, Option.map_some]
      · intro i later laterFound
        cases i with
        | zero =>
          obtain rfl := Option.some.inj laterFound
          refine ⟨⟨_, resultEq⟩, ?_, laterEq, cleaned.isComplete⟩
          simp [ofTransfer, clientEq, accept, Sink.accept, streamOf]
        | succ i =>
          have held := inTurn i later laterFound
          rw [clientEq] at held
          exact held.succ

/-- However the responses are cut into reads, receiving and writing them one after
the other gives the client each response in turn, and after the `i`-th one pending
octets and unread transport are exactly the responses behind it. -/
theorem responses_written_in_turn {replies : List Reply} {reads : List Bytes}
    {client : ClientWriter} (cutting : IsCutting reads (streamOf replies))
    (linesFit : LinesFit pool replies) (unlimited : client.sink.capacity = none) :
    ∃ exchanges, receiveAll (replies.map Reply.kind)
        (overTransport cutting : ConnectionStream pool) client = some exchanges ∧
      exchanges.length = replies.length ∧
      ∀ i exchange, exchanges[i]? = some exchange →
        InTurn replies client.sink.accepted i exchange :=
  receiveAll_inTurn (contents_overTransport cutting) linesFit unlimited

/-- An article that is found, as the response to an article request. -/
def foundReply : Reply where
  kind := .article
  response :=
    { text := ascii "220 a"
      status := .article
      body := ascii "x\r\n.\r\n"
      oneLine := by decide
      code := by decide
      ends := by decide +kernel }

/-- A missing article, as the response to an article request. -/
def missingReply : Reply where
  kind := .article
  response :=
    { text := ascii "430 no"
      status := .missing
      body := []
      oneLine := by decide
      code := by decide
      ends := by decide +kernel }

/-- Three responses in two reads, the first cut inside a terminator. -/
def twoReads : List Bytes :=
  [ascii "220 a\r\nx\r\n.", ascii "\r\n430 no\r\n220 a\r\nx\r\n.\r\n"]

theorem isCutting_twoReads : IsCutting twoReads (streamOf [foundReply, missingReply, foundReply]) :=
  ⟨by decide +kernel, by decide⟩

/-- A pool with buffers of sixteen octets. -/
def smallPool : BufferPool :=
  ⟨32, 16, by decide, by decide⟩

/-- Three pipelined responses through small buffers. -/
theorem twoReads_written_in_turn :
    ∃ exchanges : List (ExchangeResult smallPool), receiveAll [.article, .article, .article]
        (overTransport isCutting_twoReads) ⟨⟨[], none, none⟩, .other⟩ =
          some exchanges ∧
      exchanges.length = 3 ∧
      ∀ i exchange, exchanges[i]? = some exchange →
        InTurn [foundReply, missingReply, foundReply] [] i exchange := by
  have linesFit : LinesFit smallPool [foundReply, missingReply, foundReply] := by
    unfold LinesFit
    decide +kernel
  exact responses_written_in_turn isCutting_twoReads linesFit rfl

/-! ## A client that fails -/

/-- The client failed inside a response after taking `taken`: the exchange failed, and
either the response was read to its end and `later` is exactly what follows, or the
error says that it was not preserved and the connection is removed from its pool. -/
structure FailedInside (client : ClientWriter) (taken later : Bytes)
    (exchange : ExchangeResult pool) : Prop where
  acceptedEq : exchange.client.sink.accepted = client.sink.accepted ++ taken
  alignedOrRetired :
    (exchange.result = .error (.fromClientWrite client.failure) ∧
        exchange.conn.contents = later ∧ exchange.responseComplete = true) ∨
      (exchange.result = .error (.clientWriteUnpreserved client.failure) ∧
        (handleResponseTransferError (guardAfter exchange)
          (.clientWriteUnpreserved client.failure)).2 = [.removedWithCooldown exchange.conn])

theorem receiveAll_failedInside {before after : List Reply} {reply : Reply}
    {conn : ConnectionStream pool} {client : ClientWriter} {k : Nat}
    (contentsEq : conn.contents = streamOf (before ++ reply :: after))
    (linesFit : LinesFit pool (before ++ reply :: after))
    (fails : client.sink.capacity = some ((streamOf before).length + k))
    (inside : k < reply.response.bytes.length) :
    ∃ exchanges last,
      receiveAll ((before ++ [reply]).map Reply.kind) conn client = some (exchanges ++ [last]) ∧
        FailedInside client (streamOf before ++ reply.response.bytes.take k) (streamOf after)
          last := by
  induction before generalizing conn client with
  | nil =>
    have fits := linesFit reply List.mem_cons_self
    rcases receiveAndWrite_response client (follows_streamOf after) contentsEq fits with
      ⟨transfer, transferEq, written⟩
    refine ⟨[], .ofTransfer transfer, by simp [receiveAll, transferEq], ?_⟩
    cases written with
    | whole resultEq clientEq fitsWhole cleaned =>
      have room := fitsWhole _ fails
      simp [streamOf] at room
      omega
    | cut front rest remainingEq started unsent clientEq partFits isLost =>
      exact absurd rfl isLost
    | failed room capacityEq short clientEq aligned =>
      have roomEq : room = k := by
        rw [capacityEq] at fails
        simpa [streamOf] using fails
      subst roomEq
      constructor
      · simp [ofTransfer, clientEq, accept, Sink.accept, streamOf]
      · rcases aligned with ⟨resultEq, cleaned⟩ | resultEq
        · refine Or.inl ⟨resultEq, ?_, cleaned.isComplete⟩
          rw [← cleaned.contentsEq, List.append_nil]
          rfl
        · exact Or.inr ⟨resultEq, rfl⟩
  | cons first before ih =>
    have fits := linesFit first List.mem_cons_self
    have lengthEq : (streamOf (first :: before)).length =
        first.response.bytes.length + (streamOf before).length := List.length_append
    rcases receiveAndWrite_response client (follows_streamOf (before ++ reply :: after))
      contentsEq fits with ⟨transfer, transferEq, written⟩
    cases written with
    | failed room capacityEq short clientEq aligned =>
      rw [capacityEq, Option.some.injEq] at fails
      omega
    | cut front rest remainingEq started unsent clientEq partFits isLost =>
      exact absurd rfl isLost
    | whole resultEq clientEq fitsWhole cleaned =>
      have laterEq : transfer.response.conn.contents = streamOf (before ++ reply :: after) := by
        rw [← cleaned.contentsEq, List.append_nil]
      have capacityEq : transfer.client.sink.capacity = some ((streamOf before).length + k) := by
        rw [clientEq, accept, Sink.accept, fails, Option.map_some, lengthEq,
          Nat.add_assoc, Nat.add_sub_cancel_left]
      rcases ih laterEq (fun later laterMem => linesFit later (List.mem_cons_of_mem _ laterMem))
        capacityEq with ⟨exchanges, last, exchangesEq, failedInside⟩
      refine ⟨.ofTransfer transfer :: exchanges, last, ?_, ?_, ?_⟩
      · rw [List.cons_append, List.map_cons, receiveAll, transferEq]
        simp only [ofTransfer, exchangesEq, Option.map_some, List.cons_append]
      · rw [failedInside.acceptedEq, clientEq]
        simp [accept, Sink.accept, streamOf]
      · have same := failedInside.alignedOrRetired
        rw [clientEq] at same
        exact same

/-- However the responses are cut into reads, a client that fails after `k` octets of a
response has received the responses before it and exactly these `k` octets.  Either
pending octets and unread transport are then exactly the responses behind it and the
response is marked complete, or the error says that the response was not preserved and
the connection is removed from its pool. -/
theorem client_failure_aligned_or_retired {before after : List Reply} {reply : Reply}
    {reads : List Bytes} {client : ClientWriter} {k : Nat}
    (cutting : IsCutting reads (streamOf (before ++ reply :: after)))
    (linesFit : LinesFit pool (before ++ reply :: after))
    (fails : client.sink.capacity = some ((streamOf before).length + k))
    (inside : k < reply.response.bytes.length) :
    ∃ exchanges last, receiveAll ((before ++ [reply]).map Reply.kind)
          (overTransport cutting : ConnectionStream pool) client =
        some (exchanges ++ [last]) ∧
      FailedInside client (streamOf before ++ reply.response.bytes.take k) (streamOf after) last :=
  receiveAll_failedInside (contents_overTransport cutting) linesFit fails inside

/-- A client that fails in the second of three responses. -/
theorem twoReads_client_failure :
    ∃ (exchanges : List (ExchangeResult smallPool)) (last : ExchangeResult smallPool),
      receiveAll [.article, .article] (overTransport isCutting_twoReads)
          ⟨⟨[], some 16, none⟩, .other⟩ = some (exchanges ++ [last]) ∧
      FailedInside ⟨⟨[], some 16, none⟩, .other⟩
        (streamOf [foundReply] ++ missingReply.response.bytes.take 3) (streamOf [foundReply])
        last := by
  have linesFit : LinesFit smallPool ([foundReply] ++ missingReply :: [foundReply]) := by
    unfold LinesFit
    decide +kernel
  have lengthEq : (streamOf [foundReply]).length = 13 := by decide +kernel
  exact client_failure_aligned_or_retired isCutting_twoReads linesFit (by rw [lengthEq])
    (by decide +kernel)

end NntpProxy.Transport
