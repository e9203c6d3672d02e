import NntpProxy.Transport.Boundary

/-!
# Keeping a copy of a response

A response that is kept is read with the same reads as one that is written window by window,
except that writing may first read on behind a window that was retained in place.  The copy is
complete when the response fits the limit; otherwise what was kept is written first and the
rest window by window.  What was read behind the response goes back to the connection, as a
copy of the octets or together with their buffer.
-/

namespace NntpProxy.Transport

open Protocol Framing NntpProxy.Stream List Sink PooledBuffer ConnectionStream

variable {pool : BufferPool}

variable {state : StreamingResponse pool} {later remaining : Bytes} {client : ClientWriter}
    {retentionLimit : Nat} {conn : ConnectionStream pool}

variable {windowLen : Nat} {bytes : Bytes}

namespace StreamingResponse

/-! ## What is left behind -/

/-- The connection is left with what was read behind the response and with what was not read. -/
structure Leaves (state : StreamingResponse pool) (conn : ConnectionStream pool) : Prop where
  pendingBytes : conn.pendingBytes = state.packedSuffix
  transport : conn.transport = state.settled.conn.transport

theorem leaves_of_complete {stop : Nat} (windowEq : state.window = .complete stop windowLen)
    (puts : state.conn.PutsBack (state.buffer.visible.drop stop) conn) : state.Leaves conn := by
  constructor
  · rw [packedSuffix_of_complete windowEq]
    exact puts.pendingBytes
  · rw [settled_of_complete windowEq]
    exact puts.transport

theorem leaves_of_incomplete (windowEq : state.window = .incomplete windowLen)
    (succeeded : state.readNextChunk.1 = .ok ()) (leaves : state.readNextChunk.2.Leaves conn) :
    state.Leaves conn := by
  constructor
  · rw [packedSuffix_of_incomplete windowEq succeeded]
    exact leaves.pendingBytes
  · rw [settled_of_incomplete windowEq succeeded]
    exact leaves.transport

theorem Streams.next {seen front : Bytes} (follows : Follows later)
    (windowEq : state.window = .incomplete windowLen)
    (contentsEq : state.conn.contents ++ [] = front ++ later)
    (framerEq : state.framer = .ofSeen seen)
    (ends : firstEnd (endsWith terminator) seen front = some front.length) :
    state.readNextChunk.1 = .ok () ∧ Streams [] later state.readNextChunk.2 front := by
  rcases Streams.readNextChunk follows (isComplete_of_incomplete windowEq) contentsEq framerEq
    ends with done | failed
  · exact done
  · exact absurd rfl failed.isLost

theorem Streams.leaves_writeCurrentAndRemainingChunks (written : Nat)
    (streams : Streams [] later state remaining) (takes : client.sink.Fits remaining) :
    state.Leaves (state.writeCurrentAndRemainingChunks client written).response.conn := by
  -- the induction is on what is left to read, as the recursion of the source loop
  induction bound : state.conn.contents.length using Nat.strongRecOn
    generalizing state remaining client written with
  | _ length ih =>
    rw [StreamingResponse.writeCurrentAndRemainingChunks]
    cases streams with
    | complete stop windowEq inside responseEq laterEq =>
      rcases queuePooledNextResponseInput_putsBack inside with ⟨buffer, conn, puts, queued⟩
      rw [windowEq]
      simp only [StreamingResponse.writeFrom, responseEq, writeAll_of_fits takes, queued]
      exact leaves_of_complete windowEq puts
    | incomplete seen front windowEq windowNonempty responseEq contentsEq framerEq ends follows =>
      rcases Streams.next follows windowEq contentsEq framerEq ends with ⟨succeeded, next⟩
      rw [← responseEq, fits_append_iff] at takes
      rw [windowEq]
      simp only [take_initialized, writeAll_of_fits takes.1]
      split
      next failed =>
        rw [succeeded] at failed
        cases failed
      next =>
        apply leaves_of_incomplete windowEq succeeded
        have smaller := bound ▸ contents_lt_of_readNextChunk succeeded
        have restTakes : (client.accept state.buffer.visible).sink.Fits front := takes.2
        exact ih _ smaller _ next restTakes rfl

/-- What was read behind a response is a front part of what follows it. -/
theorem Streams.packedSuffix_isPrefix
    (streams : Streams [] later state remaining) : state.packedSuffix <+: later := by
  induction bound : state.conn.contents.length using Nat.strongRecOn
    generalizing state remaining with
  | _ length ih =>
    cases streams with
    | complete stop windowEq inside responseEq laterEq =>
      refine ⟨state.conn.transport.flatten, ?_⟩
      rw [packedSuffix_of_complete windowEq, ← laterEq, append_nil, append_assoc]
      rfl
    | incomplete seen front windowEq windowNonempty responseEq contentsEq framerEq ends follows =>
      rcases Streams.next follows windowEq contentsEq framerEq ends with ⟨succeeded, next⟩
      rw [packedSuffix_of_incomplete windowEq succeeded]
      exact ih _ (bound ▸ contents_lt_of_readNextChunk succeeded) next rfl

/-! ## The copy -/

@[simp]
theorem shape_readNextChunk (state : StreamingResponse pool) :
    state.readNextChunk.2.shape = state.shape := by
  unfold StreamingResponse.readNextChunk frameRead
  simp only
  split
  · rfl
  · split <;> rfl

/-- The copy of a response, unless it has a body and is too long. -/
def keptCopy (shape : ResponseShape) (bytes : Bytes) (retentionLimit : Nat) : Option Capture :=
  if shape = .multiline ∧ retentionLimit < bytes.length then none
  else some ⟨bytes, payloadEnd shape bytes⟩

theorem isSome_keptCopy_iff {shape : ResponseShape} :
    (keptCopy shape bytes retentionLimit).isSome = true ↔
      shape = .singleLine ∨ bytes.length ≤ retentionLimit := by
  unfold keptCopy
  cases shape with
  | singleLine => simp
  | multiline =>
    by_cases long : retentionLimit < bytes.length
    · simp [long]
    · simp [Nat.le_of_not_lt long]

theorem eq_of_keptCopy {shape : ResponseShape} {copy : Capture}
    (kept : keptCopy shape bytes retentionLimit = some copy) :
    copy.bytes = bytes ∧ copy.payloadEnd = payloadEnd shape bytes := by
  unfold keptCopy at kept
  split at kept
  · cases kept
  · cases kept
    exact ⟨rfl, rfl⟩

theorem exceedsLimit_iff {captured : List Bytes} :
    state.exceedsLimit captured retentionLimit = true ↔
      state.shape = .multiline ∧ retentionLimit < captured.flatten.length + state.chunkLen := by
  unfold exceedsLimit
  cases state.shape with
  | singleLine => simp
  | multiline => simp

theorem chunkLen_of_complete {stop : Nat} (windowEq : state.window = .complete stop windowLen)
    (inside : stop ≤ state.buffer.initialized) :
    state.chunkLen = (state.buffer.visible.take stop).length := by
  rw [chunkLen, windowEq, length_take, length_visible, Nat.min_eq_left inside]

/-- A window is a part of the response. -/
theorem Streams.chunkLen_le
    (streams : Streams [] later state remaining) : state.chunkLen ≤ remaining.length := by
  cases streams with
  | complete stop windowEq inside responseEq laterEq =>
    rw [chunkLen_of_complete windowEq inside, responseEq]
  | incomplete seen front windowEq windowNonempty responseEq contentsEq framerEq ends follows =>
    rw [chunkLen, windowEq, ← responseEq, length_append, length_visible]
    exact Nat.le_add_right _ _

/-- A client that takes the whole response gets it, a copy is kept if it is short enough, and
what was read behind it is put back. -/
theorem Streams.captureAndWrite_of_fits {captured : List Bytes}
    (streams : Streams [] later state remaining)
    (takes : client.sink.Fits (captured.flatten ++ remaining))
    (few : state.packedSuffix.length ≤ maxPendingBackendBytes) :
    state.Leaves
        (state.captureAndWrite client captured retentionLimit).1.response.conn ∧
      (state.captureAndWrite client captured retentionLimit).2 =
        keptCopy state.shape (captured.flatten ++ remaining) retentionLimit := by
  -- the induction is on what is left to read, as the recursion of the source loop
  induction bound : state.conn.contents.length using Nat.strongRecOn
    generalizing state remaining captured with
  | _ length ih =>
    rw [StreamingResponse.captureAndWrite]
    split
    next exceeds =>
      rw [exceedsLimit_iff] at exceeds
      have tooLong : state.shape = .multiline ∧
          retentionLimit < (captured.flatten ++ remaining).length := by
        rw [length_append]
        have inResponse := Nat.add_le_add_left streams.chunkLen_le captured.flatten.length
        exact ⟨exceeds.1, Nat.lt_of_lt_of_le exceeds.2 inResponse⟩
      rw [fits_append_iff] at takes
      rw [keptCopy, if_pos tooLong, writePieces_eq, writeAll_of_fits takes.1]
      exact ⟨streams.leaves_writeCurrentAndRemainingChunks 0 takes.2, rfl⟩
    next within =>
      cases streams with
      | complete stop windowEq inside responseEq laterEq =>
        rcases queueNextResponseInput_of_few windowEq few with ⟨conn, puts, queued⟩
        have shortEnough : ¬ (state.shape = .multiline ∧
            retentionLimit < (captured.flatten ++ remaining).length) := by
          rwa [exceedsLimit_iff, chunkLen_of_complete windowEq inside, responseEq,
            ← length_append] at within
        rw [windowEq]
        simp only [StreamingResponse.pushFromBuffer, queued, writePieces_eq,
          flatten_append, flatten_singleton, responseEq, writeAll_of_fits takes]
        rw [keptCopy, if_neg shortEnough]
        exact ⟨leaves_of_complete windowEq puts, rfl⟩
      | incomplete seen front windowEq windowNonempty responseEq contentsEq framerEq ends
          follows =>
          rcases Streams.next follows windowEq contentsEq framerEq ends with ⟨succeeded, next⟩
          rw [windowEq]
          simp only [take_initialized, readNextChunk_pushBuffer]
          split
          next failed =>
            rw [succeeded] at failed
            cases failed
          next =>
            have smaller := bound ▸ contents_lt_of_readNextChunk succeeded
            rw [packedSuffix_of_incomplete windowEq succeeded] at few
            have grown : client.sink.Fits ((captured ++ [state.buffer.visible]).flatten ++
                front) := by
              simpa [← responseEq] using takes
            have rest := ih _ smaller next grown few rfl
            rw [flatten_append, flatten_singleton, append_assoc, responseEq,
              shape_readNextChunk] at rest
            exact ⟨leaves_of_incomplete windowEq succeeded rest.1, rest.2⟩

theorem Written.client_unique {written otherWritten : Nat} {transfer other : Transfer pool}
    (first : Written [] later remaining client written transfer)
    (second : Written [] later remaining client otherWritten other) :
    transfer.client = other.client := by
  cases first with
  | whole _ clientEq fits _ =>
    cases second with
    | whole _ otherEq _ _ => rw [clientEq, otherEq]
    | failed room capacityEq short _ _ =>
      exact absurd (fits room capacityEq) (Nat.not_le_of_lt short)
    | cut _ _ _ _ _ _ _ isLost _ _ => exact absurd rfl isLost
  | failed room capacityEq short clientEq _ =>
    cases second with
    | whole _ _ fits _ => exact absurd (fits room capacityEq) (Nat.not_le_of_lt short)
    | failed otherRoom otherCapacityEq _ otherEq _ =>
      rw [capacityEq] at otherCapacityEq
      cases otherCapacityEq
      rw [clientEq, otherEq]
    | cut _ _ _ _ _ _ _ isLost _ _ => exact absurd rfl isLost
  | cut _ _ _ _ _ _ _ isLost _ _ => exact absurd rfl isLost

end StreamingResponse

open StreamingResponse

theorem shape_fromClassification {kind : RequestKind} {response : Response kind} {lost rest : Bytes}
    {classified : ClassifiedResponse pool}
    (classifies : Classifies response lost later classified conn rest)
    (started : fromClassification classified conn = some state) :
    state.shape =
      if requestKindHasResponseBody kind response.status then .multiline else .singleLine := by
  have frameEq := classifies.frameEq
  rw [classifies.visibleEq, parse_eq_of_line] at frameEq
  unfold fromClassification at started
  split
  next hasBody =>
    rw [if_pos hasBody] at frameEq
    simp only [frameEq] at started
    split at started
    · cases started
    · rcases Option.map_eq_some_iff.mp started with ⟨framed, -, rfl⟩
      rfl
  next noBody =>
    rw [if_neg noBody] at frameEq
    simp only [frameEq] at started
    cases started
    rfl

theorem length_bytes_of_hasBody {kind : RequestKind} {response : Response kind}
    (hasBody : requestKindHasResponseBody kind response.status = true) :
    [dot, cr, lf].length ≤ response.bytes.length := by
  have ends := response.ends
  rw [if_pos hasBody] at ends
  have atEnd := (firstEnd_sound ends).2.2
  rw [take_length, endsWith_eq_true_iff] at atEnd
  exact Nat.le_trans (by decide) atEnd.length_le

/-- The client took all octets of a response, and what follows it is left on the connection. -/
structure Delivers (bytes later : Bytes) (client : ClientWriter) (transfer : Transfer pool) :
    Prop where
  result : transfer.result = .ok bytes.length
  client : transfer.client = client.accept bytes
  left : transfer.response.conn.contents = later

theorem StreamingResponse.Written.delivers {transfer : Transfer pool}
    (wrote : Written [] later bytes client 0 transfer)
    (takes : client.sink.Fits bytes) : Delivers bytes later client transfer := by
  cases wrote with
  | whole resultEq clientEq _ cleaned =>
    refine ⟨by rw [resultEq, Nat.zero_add], clientEq, ?_⟩
    rw [← cleaned.contentsEq, append_nil]
  | failed room capacityEq short _ _ =>
    exact absurd (takes room capacityEq) (Nat.not_le_of_lt short)
  | cut _ _ _ _ _ _ _ isLost _ _ => exact absurd rfl isLost

/-- Keeping a copy of a response does for the client and the connection what writing it does.
The copy is the response, and it is kept exactly when it has no body or fits the limit.  The
same octets are left, and unless the first window was retained in place and more was read
behind it, the same ones of them were read early. -/
theorem captureAndWrite_agrees {kind : RequestKind} {response : Response kind}
    {later rest : Bytes} {classified : ClassifiedResponse pool} {conn : ConnectionStream pool}
    {state : StreamingResponse pool}
    (classifies : Classifies response [] later classified conn rest)
    (follows : requestKindHasResponseBody kind response.status = true → Follows later)
    (started : fromClassification classified conn = some state)
    (few : state.packedSuffix.length ≤ maxPendingBackendBytes) (client : ClientWriter)
    (retentionLimit : Nat) :
    (state.captureAndWrite client [] retentionLimit).1.client = (state.write client).client ∧
      (client.sink.Fits response.bytes →
        Delivers response.bytes later client (state.write client) ∧
        Delivers response.bytes later client
          (state.captureAndWrite client [] retentionLimit).1 ∧
        ((state.captureAndWrite client [] retentionLimit).2.isSome = true ↔
          requestKindHasResponseBody kind response.status = false ∨
            response.bytes.length ≤ retentionLimit) ∧
        (∀ copy, (state.captureAndWrite client [] retentionLimit).2 = some copy →
          copy.bytes = response.bytes ∧
            if requestKindHasResponseBody kind response.status then
              copy.payloadEnd + 3 = response.bytes.length
            else copy.payloadEnd = response.bytes.length) ∧
        (state.isComplete || !state.buffer.retainedAppendPermit →
          (state.captureAndWrite client [] retentionLimit).1.response.conn.pendingBytes =
              (state.write client).response.conn.pendingBytes ∧
            (state.captureAndWrite client [] retentionLimit).1.response.conn.transport =
              (state.write client).response.conn.transport)) := by
  rcases fromClassification_response follows classifies with ⟨same, sameEq, streams⟩
  rw [started] at sameEq
  cases sameEq
  have written : Written [] later response.bytes client 0 (state.write client) := by
    rcases streams.write client with wrote | ⟨isLost, -⟩
    · exact wrote
    · exact absurd rfl isLost
  have captured : Written [] later response.bytes client 0
      (state.captureAndWrite client [] retentionLimit).1 := by
    rcases streams.captureAndWrite client [] retentionLimit with wrote | ⟨isLost | tooMany, -⟩
    · exact wrote
    · exact absurd rfl isLost
    · exact absurd few (Nat.not_le_of_lt tooMany)
  refine ⟨captured.client_unique written, fun takes => ?_⟩
  have kept : state.Leaves (state.captureAndWrite client [] retentionLimit).1.response.conn ∧ _ :=
    streams.captureAndWrite_of_fits takes few
  have shape := shape_fromClassification classifies started
  refine ⟨written.delivers takes, captured.delivers takes, ?_, ?_, ?_⟩
  · rw [kept.2, flatten_nil, nil_append, isSome_keptCopy_iff, shape]
    cases requestKindHasResponseBody kind response.status <;> simp
  · intro copy copyEq
    rw [kept.2] at copyEq
    rcases eq_of_keptCopy copyEq with ⟨bytesEq, endEq⟩
    refine ⟨bytesEq, ?_⟩
    rw [endEq, shape]
    split
    next hasBody => exact Nat.sub_add_cancel (length_bytes_of_hasBody hasBody)
    next => rfl
  · intro direct
    have appended : state.appendToRetainedPrefixIfWritable = (.ok (), state) := if_pos direct
    have left : state.Leaves (state.write client).response.conn := by
      simp only [StreamingResponse.write, appended]
      exact streams.leaves_writeCurrentAndRemainingChunks 0 takes
    exact ⟨kept.1.pendingBytes.trans left.pendingBytes.symm,
      kept.1.transport.trans left.transport.symm⟩

/-- Read the next response of a connection and start streaming it. -/
def startResponse (kind : RequestKind) (conn : ConnectionStream pool) :
    Option (StreamingResponse pool) :=
  match readExchange kind conn with
  | (none, _) => none
  | (some classified, next) => fromClassification classified next

/-- A response in two reads that fits the limit exactly. -/
theorem twoReads_kept :
    ∃ state copy, startResponse .article
        (overTransport isCutting_twoReads : ConnectionStream smallPool) =
          some state ∧
      (state.captureAndWrite patientClient [] 13).2 = some copy ∧
        copy.bytes = foundReply.response.bytes := by
  have contentsEq :
      (overTransport isCutting_twoReads : ConnectionStream smallPool).contents ++
          [] = foundReply.response.bytes ++ streamOf [missingReply, foundReply] :=
    (append_nil _).trans (contents_overTransport isCutting_twoReads)
  have follows := follows_streamOf [missingReply, foundReply]
  rcases readExchange_response contentsEq with
    ⟨classified, next, rest, readEq, classifies⟩ | ⟨lostOrLong, -⟩
  · rcases fromClassification_response (fun _ => follows) classifies with
      ⟨state, started, streams⟩
    have few : state.packedSuffix.length ≤ maxPendingBackendBytes :=
      Nat.le_trans streams.packedSuffix_isPrefix.length_le (by decide +kernel)
    have agrees := captureAndWrite_agrees classifies (fun _ => follows) started few patientClient 13
    rcases agrees.2 nofun with ⟨-, -, isKept, isCopy, -⟩
    rcases Option.isSome_iff_exists.mp (isKept.mpr (Or.inr (by decide +kernel))) with ⟨copy, kept⟩
    refine ⟨state, copy, ?_, kept, (isCopy copy kept).1⟩
    change readExchange .article _ = _ at readEq
    simp only [startResponse, readEq, started]
  · exact absurd lostOrLong (by decide +kernel)

/-- The front part of a response behind another response in one buffer, and the rest of it with
two more responses in one read. -/
def retainedFront : ConnectionStream smallPool where
  pendingInput := [.pooled ⟨ascii "430\r\n220 a\r\nx", 0, by decide, by decide⟩ 5 13 0]
  transport := [ascii "\r\n.\r\n430 no\r\n430 no\r\n"]
  readFails := false
  pending_nonempty := by decide
  pending_inBuffer := by simp [PendingBackendInput.InBuffer]; decide
  transport_nonempty := by decide

/-- Behind octets that no status line starts with a response does not end, and then only what is
not kept is written.  Behind a front part that was retained, writing reads less behind the
response than keeping a copy does. -/
theorem captureAndWrite_differs :
    (startResponse .article (overTransport isCutting_strayRead :
        ConnectionStream smallPool)).map (fun state =>
          ((state.write patientClient).client.sink.accepted,
            (state.captureAndWrite patientClient [] 100).1.client.sink.accepted)) =
        some (strayRead, []) ∧
      (startResponse .article retainedFront).map (fun state =>
          ((state.write patientClient).response.conn.pendingBytes,
            (state.captureAndWrite patientClient [] 100).1.response.conn.pendingBytes)) =
        some (ascii "430", ascii "430 no\r\n430") := by
  decide +kernel

end NntpProxy.Transport
