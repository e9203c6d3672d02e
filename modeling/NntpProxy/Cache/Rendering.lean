import NntpProxy.Cache.Article
import NntpProxy.Transport.Streaming

/-!
# Replies from the cache

A captured response is stored as its sections and sent again with a new status line.  What
stands between the status line and the closing dot is a block: complete lines, none of them
a single dot.  Around a block the first terminator of a reply is its end.
-/

namespace NntpProxy.Cache

open Protocol NntpProxy.Stream Framing Transport Router List CachedResponseWire StackStatusLine

/-! ## Blocks in responses -/

/-- Between the status line and the closing dot of a multiline response stands a block. -/
theorem exists_block_of_ends {text body : Bytes}
    (ends : firstEnd (endsWith terminator) (text ++ crlf) body = some body.length) :
    ∃ content, body = content ++ responseCompletion ∧ Block content := by
  rw [firstEnd_crlf] at ends
  rcases firstEnd_sound ends with ⟨-, -, atEnd⟩
  rw [take_length, endsWith_eq_true_iff] at atEnd
  have long : 3 ≤ body.length := by
    have fits := atEnd.length_le
    simp only [length_terminator, length_append, length_cons, length_nil] at fits
    omega
  have dotLine : responseCompletion <:+ body := by
    have inTerminator : responseCompletion <:+ terminator := ⟨crlf, rfl⟩
    have inResponse : responseCompletion <:+ crlf ++ body :=
      inTerminator.trans atEnd
    exact (suffix_append_iff_of_le (by exact long)).mp inResponse
  rcases dotLine with ⟨content, rfl⟩
  refine ⟨content, rfl, ?_, ?_⟩
  · rcases atEnd with ⟨front, joined⟩
    have split : (front ++ crlf) ++ responseCompletion =
        (crlf ++ content) ++ responseCompletion := by
      simpa [terminator, responseCompletion] using joined
    have lineEnd := (append_inj' split rfl).1
    rcases content with _ | ⟨first, _ | ⟨second, content⟩⟩
    · exact Or.inl rfl
    · have closes : (front ++ [cr]) ++ [lf] = crlf ++ [first] := by simpa using lineEnd
      rcases append_inj' closes rfl with ⟨shorter, -⟩
      have clash : front ++ [cr] = [cr] ++ [lf] := shorter
      exact absurd (append_inj' clash rfl).2 (by decide)
    · right
      have inReply : crlf <:+ crlf ++ first :: second :: content := ⟨front, lineEnd⟩
      rwa [suffix_append_iff_of_le (by simp)] at inReply
  · rw [firstEnd_eq_none_iff]
    intro m positive inside
    have shorter : m < (content ++ responseCompletion).length := by
      rw [length_append]
      exact Nat.lt_of_le_of_lt inside (Nat.lt_add_of_pos_right (by decide))
    have least := firstEnd_least ends positive shorter
    rwa [take_append_of_le_length inside] at least

/-! ## Status lines -/

theorem lf_not_mem_digits (value : Nat) : lf ∉ digits value := by
  intro inDigits
  rcases mem_map.mp inDigits with ⟨char, isDigit, charEq⟩
  have range := Nat.isDigit_of_mem_toDigits (by decide) (by decide) isDigit
  simp only [Char.isDigit, Bool.and_eq_true, decide_eq_true_eq] at range
  have low : 48 ≤ char.toNat := range.1
  have high : char.toNat ≤ 57 := range.2
  have value := congrArg UInt8.toNat charEq
  rw [UInt8.toNat_ofNat', Nat.mod_eq_of_lt (by omega)] at value
  change char.toNat = 10 at value
  omega

theorem length_digits_le (value : UInt64) : (digits value.toNat).length ≤ 20 := by
  have inRange := value.toNat_lt
  rw [digits, length_map, Nat.length_toDigits_le_iff (by decide) (by decide)]
  exact Nat.lt_trans inRange (by decide)

theorem MessageId.length_le (messageId : MessageId) : messageId.text.length ≤ 250 := by
  have wellFormed := messageId.wellFormed
  simp only [isMessageId, Bool.and_eq_true, decide_eq_true_eq] at wellFormed
  exact wellFormed.1.1.1.2

theorem MessageId.lf_not_mem (messageId : MessageId) : lf ∉ messageId.text := by
  have wellFormed := messageId.wellFormed
  simp only [isMessageId, Bool.and_eq_true, beq_iff_eq] at wellFormed
  rcases wellFormed with ⟨⟨⟨-, opens⟩, closes⟩, inside⟩
  rcases head?_eq_some_iff.mp opens with ⟨rest, textEq⟩
  rw [textEq] at closes inside ⊢
  rw [mem_cons, not_or]
  refine ⟨by decide, fun inRest => ?_⟩
  rcases eq_nil_or_concat' rest with rfl | ⟨front, last, rfl⟩
  · cases inRest
  · have lastEq : last = 62 := by simpa [getLast?_cons] using closes
    rw [mem_append, lastEq] at inRest
    rcases inRest with inFront | isLast
    · have printable := all_eq_true.mp inside lf (by simpa using inFront)
      exact absurd printable (by decide)
    · exact absurd isLast (by decide)

theorem pushSlice_of_fits {line part : Bytes} (fits : line.length + part.length ≤ 1024) :
    pushSlice line part = some (line ++ part) :=
  if_pos fits

theorem exists_statusLine {code : Nat} (threeDigits : (digits code).length = 3)
    (articleNumber : UInt64) (messageId : MessageId) :
    ∃ text, lf ∉ text ∧ digits code <+: text ∧
      new code articleNumber messageId.text = some (text ++ crlf) := by
  have numberFits := length_digits_le articleNumber
  have idFits := messageId.length_le
  refine ⟨digits code ++ [32] ++ digits articleNumber.toNat ++
    [32] ++ messageId.text, ?_, ?_, ?_⟩
  · have spaceIsNoLf : lf ≠ 32 := by decide
    simp [lf_not_mem_digits, messageId.lf_not_mem, spaceIsNoLf]
  · simp only [append_assoc]
    exact prefix_append _ _
  · simp only [new, pushU64, Option.bind_eq_bind]
    rw [pushSlice_of_fits (by simp [threeDigits]), Option.bind_some,
      pushSlice_of_fits (by simp [threeDigits]), Option.bind_some,
      pushSlice_of_fits (by simp [threeDigits]; omega), Option.bind_some,
      pushSlice_of_fits (by simp [threeDigits]; omega), Option.bind_some,
      pushSlice_of_fits (by simp [threeDigits]; omega), Option.bind_some,
      pushSlice_of_fits (by simp [threeDigits]; omega), nil_append]

/-! ## Captured responses -/

variable {kind : RequestKind}

/-- A response as it is captured, in some chunks. -/
def captured (response : Response kind) (chunks : List Bytes) : FramedChunkedResponse where
  status := response.status
  statusLineEnd := (response.text ++ crlf).length
  chunks := chunks
  payloadEnd := StreamingResponse.payloadEnd
    (if requestKindHasResponseBody kind response.status then .multiline else .singleLine)
    chunks.flatten

/-- What a multiline response carries between its status line and the closing dot. -/
def payloadOf (response : Response kind) : Bytes :=
  response.body.rdrop responseCompletion.length

section Captured

variable {response : Response kind} {chunks : List Bytes}
  (hasBody : requestKindHasResponseBody kind response.status = true)
include hasBody

theorem body_eq_payloadOf :
    response.body = payloadOf response ++ responseCompletion ∧
      Block (payloadOf response) := by
  have ends := response.ends
  rw [if_pos hasBody] at ends
  rcases exists_block_of_ends ends with ⟨content, bodyEq, block⟩
  have payloadEq : payloadOf response = content := by
    rw [payloadOf, bodyEq]
    simp [rdrop]
  rw [payloadEq]
  exact ⟨bodyEq, block⟩

theorem parse_captured (code : 220 ≤ response.status.value ∧ response.status.value ≤ 222)
    (split : chunks.flatten = response.bytes) :
    parseFramedChunkedPayload (captured response chunks) =
      payloadForStatusOwned response.status.value
        (parseArticleNumber (response.text ++ crlf)) (payloadOf response) := by
  have bytesEq : response.bytes =
      response.text ++ crlf ++ payloadOf response ++ responseCompletion := by
    rw [Response.bytes, (body_eq_payloadOf hasBody).1, append_assoc, append_assoc,
      append_assoc]
  have lineEq : response.bytes.take (response.text ++ crlf).length = response.text ++ crlf := by
    exact take_left' rfl
  have payloadEnd : response.bytes.length - [dot, cr, lf].length =
      (response.text ++ crlf ++ payloadOf response).length := by
    rw [bytesEq, length_append]
    simp [responseCompletion]
  have payloadEq : (response.bytes.take (response.bytes.length - [dot, cr, lf].length)).drop
      (response.text ++ crlf).length = payloadOf response := by
    rw [payloadEnd, bytesEq, take_left' rfl, drop_left' rfl]
  simp only [parseFramedChunkedPayload, captured, StreamingResponse.payloadEnd, hasBody, if_true,
    copyPrefix_eq, copyPayloadBytes_eq, split, lineEq, payloadEq]
  rw [if_neg (by omega), if_neg (by simp), if_neg (by omega), if_neg (by simpa using code)]

end Captured

/-- The sections of an article give its payload back exactly when it has a blank line and
more than that, or nothing at all. -/
def RendersBack (payload : Bytes) : Prop :=
  payload = [] ∨ payload ≠ crlf ∧ (crlf <+: payload ∨ headersEnd <:+: payload)

/-- What is sent for an article with this payload. -/
def articleContent (payload : Bytes) : Bytes :=
  let sections := (capturedArticlePayloadSections payload).getD ([], payload)
  sections.1 ++ articleSeparator sections.1 sections.2 ++ sections.2

section

variable {payload : Bytes} {stop : Nat} (noneAtStart : ¬ crlf <+: payload)
    (found : firstMatchEnd headersEnd payload = some stop)

include noneAtStart found

theorem sections_of_headers :
    ∃ front body, payload = front ++ crlf ++ crlf ++ body ∧
      capturedArticlePayloadSections payload = some (front ++ crlf, body) := by
  rw [capturedArticlePayloadSections, if_neg noneAtStart, found, Option.map_some]
  rw [firstMatchEnd_eq_firstEnd (by decide)] at found
  rcases firstEnd_sound found with ⟨-, inside, atEnd⟩
  rw [endsWith_eq_true_iff, nil_append] at atEnd
  rcases atEnd with ⟨front, joined⟩
  have stopEq : stop = front.length + 4 := by
    have lengths := congrArg length joined
    rw [length_take_of_le inside, length_append] at lengths
    exact lengths.symm
  have payloadEq : payload = front ++ crlf ++ crlf ++ payload.drop stop := by
    conv_lhs => rw [← take_append_drop stop payload, ← joined]
    simp [headersEnd]
  have headersEq : payload.take (stop - 2) = front ++ crlf := by
    rw [payloadEq, append_assoc]
    exact take_left' (by simp [stopEq])
  rw [headersEq]
  exact ⟨front, _, payloadEq, rfl⟩

/-- The blank line behind the headers is put back where it was. -/
theorem articleContent_of_headers :
    payload ≠ crlf ∧ articleContent payload = payload := by
  rcases sections_of_headers noneAtStart found with ⟨front, body, payloadEq, sections⟩
  constructor
  · rintro rfl
    have lengths := congrArg length payloadEq
    simp only [length_append, length_cons] at lengths
    omega
  · rw [articleContent, sections, Option.getD_some, articleSeparator,
      if_neg (by simp)]
    exact payloadEq.symm

end

theorem articleContent_eq_iff (payload : Bytes) :
    articleContent payload = payload ↔ RendersBack payload := by
  by_cases atStart : crlf <+: payload
  · rcases atStart with ⟨rest, rfl⟩
    have sections : capturedArticlePayloadSections (crlf ++ rest) = some ([], rest) := by
      simp [capturedArticlePayloadSections]
    simp only [articleContent, sections, Option.getD_some, articleSeparator,
      RendersBack, prefix_append, true_or, and_true]
    cases rest with
    | nil => simp
    | cons byte rest => simp
  · cases found : firstMatchEnd headersEnd payload with
    | some stop =>
      rcases articleContent_of_headers atStart found with ⟨notOnly, whole⟩
      have occurs : headersEnd <:+: payload := by
        by_contra absent
        rw [(firstMatchEnd_eq_none_iff (by decide) payload).mpr absent] at found
        cases found
      exact iff_of_true whole (Or.inr ⟨notOnly, Or.inr occurs⟩)
    | none =>
      have absent := (firstMatchEnd_eq_none_iff (by decide) payload).mp found
      have sections : capturedArticlePayloadSections payload = none := by
        simp [capturedArticlePayloadSections, atStart, found]
      simp only [articleContent, sections, Option.getD_none, articleSeparator,
        RendersBack, atStart, absent, or_self, and_false, or_false]
      cases payload with
      | nil => simp
      | cons byte rest =>
        constructor
        · intro same
          have lengths := congrArg length same
          simp only [nil_append, isEmpty_cons, Bool.and_false, Bool.false_eq_true,
            if_false, length_append, length_cons, length_nil] at lengths
          omega
        · rintro ⟨⟩

/-! ## Replies -/

/-- What a payload sends between the status line and the closing dot. -/
def contentFor (payload : CachedPayload) (requestKind : RequestKind) : Option Bytes :=
  match requestKind, payload with
  | .article, .article _ headers body =>
    some (headers ++ articleSeparator headers body ++ body)
  | .head, .article _ headers _ | .head, .head _ headers => some headers
  | .body, .article _ _ body | .body, .body _ body => some body
  | _, _ => none

/-- A reply that carries this content: its first terminator is its end, and it is as long as
it says. -/
structure Carries (reply : CachedResponseWire) (content : Bytes) : Prop where
  oneLine : ∃ text, lf ∉ text ∧ reply.statusLine = text ++ crlf
  written : reply.written =
    reply.statusLine ++ content ++ responseCompletion
  length : reply.wireLen = reply.written.length
  ends : firstEnd (endsWith terminator) [] reply.written = some reply.written.length

theorem exists_wire {code : Nat} {payload : CachedResponseWirePayload} {content : Bytes}
    (threeDigits : (digits code).length = 3)
    (writtenEq : ∀ line, written ⟨code, line, payload⟩ =
      line ++ content ++ responseCompletion)
    (articleNumber : UInt64) (messageId : MessageId) :
    ∃ reply : CachedResponseWire,
      (new code articleNumber messageId.text).map (⟨code, ·, payload⟩) =
        some reply ∧
      (∃ text, lf ∉ text ∧ reply.statusLine = text ++ crlf) ∧
      reply.written = reply.statusLine ++ content ++ responseCompletion := by
  rcases exists_statusLine threeDigits articleNumber messageId with ⟨text, oneLine, -, lineEq⟩
  rw [lineEq]
  exact ⟨_, rfl, ⟨text, oneLine, rfl⟩, writtenEq _⟩

theorem exists_reply {payload : CachedPayload} {requestKind : RequestKind} {content : Bytes}
    (found : contentFor payload requestKind = some content) (messageId : MessageId) :
    ∃ reply, cachedResponseForPayload payload requestKind messageId.text = some reply ∧
      (∃ text, lf ∉ text ∧ reply.statusLine = text ++ crlf) ∧
      reply.written = reply.statusLine ++ content ++ responseCompletion := by
  unfold contentFor at found
  split at found
  case h_6 => cases found
  all_goals
    obtain rfl := Option.some.inj found
    apply exists_wire (by decide)
    simp [written, slices]

theorem carries_iff {payload : CachedPayload} {requestKind : RequestKind} {sent content : Bytes}
    (found : contentFor payload requestKind = some sent) (block : Block content)
    (messageId : MessageId) :
    (∃ reply, cachedResponseForPayload payload requestKind messageId.text = some reply ∧
      Carries reply content) ↔ sent = content := by
  rcases exists_reply found messageId with ⟨reply, replyEq, ⟨text, oneLine, lineEq⟩, written⟩
  constructor
  · rintro ⟨other, otherEq, carries⟩
    obtain rfl := Option.some.inj (replyEq.symm.trans otherEq)
    have same := written.symm.trans carries.written
    rw [append_assoc, append_assoc] at same
    exact (append_inj' (append_cancel_left same) rfl).1
  · rintro rfl
    refine ⟨reply, replyEq, ⟨text, oneLine, lineEq⟩, written, reply.wireLen_eq_length_written, ?_⟩
    rw [written, lineEq]
    exact block.firstEnd_reply oneLine

/-- The reply of a cache to a request for an article. -/
def replyFromCache (cache : ArticleCache) (requestKind : RequestKind) (messageId : MessageId)
    (now : UInt64) : Option CachedResponseWire :=
  (cache.getByCacheKey messageId.withoutBrackets now).1.bind
    (·.cachedResponseFor requestKind messageId.text)

theorem replyFromCache_of_entry {cache : ArticleCache} {messageId : MessageId} {now : UInt64}
    {entry : CachedArticle} (stored : cache.entries messageId.withoutBrackets = some entry)
    (alive : entry.isExpired cache.ttlMillis now = false) (requestKind : RequestKind) :
    replyFromCache cache requestKind messageId now =
      cachedResponseForPayload entry.payload requestKind messageId.text := by
  simp [replyFromCache, ArticleCache.getByCacheKey, stored, alive, CachedArticle.cachedResponseFor,
    CachedArticle.expireStaleAvailability]

/-- The requests whose responses are captured. -/
def capturedKinds : List RequestKind :=
  [.article, .head, .body]

section

variable {response : Response kind} (isCaptured : kind ∈ capturedKinds)
    (hasBody : requestKindHasResponseBody kind response.status = true)

include isCaptured hasBody

theorem code_of_hasBody :
    220 ≤ response.status.value ∧ response.status.value ≤ 222 := by
  simp only [capturedKinds, mem_cons, not_mem_nil, or_false] at isCaptured
  rcases isCaptured with rfl | rfl | rfl
  all_goals
    simp [requestKindHasResponseBody] at hasBody
    omega

/-- What is sent for a captured response is its payload, or what the sections of an article
make of it. -/
theorem contentFor_captured (articleNumber : Option UInt64) :
    contentFor (payloadForStatusOwned response.status.value articleNumber (payloadOf response))
        kind = some (if kind = .article then articleContent (payloadOf response)
        else payloadOf response) := by
  simp only [capturedKinds, mem_cons, not_mem_nil, or_false] at isCaptured
  rcases isCaptured with rfl | rfl | rfl
  · have code : response.status.value = 220 := by
      simp [requestKindHasResponseBody] at hasBody
      omega
    rw [payloadForStatusOwned, if_pos code, articleContent]
    cases capturedArticlePayloadSections (payloadOf response) with
    | none => rfl
    | some sections => rfl
  · have code : response.status.value = 221 := by
      simp [requestKindHasResponseBody] at hasBody
      omega
    simp [payloadForStatusOwned, code, contentFor]
  · have code : response.status.value = 222 := by
      simp [requestKindHasResponseBody] at hasBody
      omega
    simp [payloadForStatusOwned, code, contentFor]

end

/-- A response with this payload, captured in chunks from a provider. -/
structure Capture (kind : RequestKind) (content : Bytes) where
  response : Response kind
  hasBody : requestKindHasResponseBody kind response.status = true
  payload : payloadOf response = content
  chunks : List Bytes
  split : chunks.flatten = response.bytes
  slot : AvailabilitySlot
  tier : UInt8

namespace Capture

variable {content : Bytes}

def store (capture : Capture kind content) (cache : ArticleCache) (messageId : MessageId)
    (now : UInt64) : ArticleCache :=
  cache.upsertFramedIngestForSlot messageId.withoutBrackets
    (captured capture.response capture.chunks) capture.slot capture.tier now

/-- The entry that a capture makes where there is none. -/
def entry (capture : Capture kind content) (now : UInt64) : CachedArticle :=
  .fromFramedChunkedWithTier (captured capture.response capture.chunks) capture.tier now

/-- No entry of the article is alive. -/
def Unknown (cache : ArticleCache) (messageId : MessageId) (now : UInt64) : Prop :=
  freshEntryForMutation (cache.entries messageId.withoutBrackets) cache.ttlMillis now = none

theorem entries_store_of_unknown (capture : Capture kind content) {cache : ArticleCache}
    {messageId : MessageId} {now : UInt64} (unknown : Unknown cache messageId now) :
    (capture.store cache messageId now).entries messageId.withoutBrackets =
      some (capture.entry now) := by
  unfold Unknown at unknown
  simp [store, entry, ArticleCache.upsertFramedIngestForSlot, ArticleCache.put, mergeIngestEntry,
    unknown]

theorem payload_entry (capture : Capture kind content) (isCaptured : kind ∈ capturedKinds)
    (now : UInt64) :
    (capture.entry now).payload =
      payloadForStatusOwned capture.response.status.value
        (parseArticleNumber (capture.response.text ++ crlf)) content := by
  have parsed := parse_captured capture.hasBody (code_of_hasBody isCaptured capture.hasBody)
    capture.split
  rw [capture.payload] at parsed
  exact parsed

theorem block (capture : Capture kind content) : Block content :=
  capture.payload ▸ (body_eq_payloadOf capture.hasBody).2

end Capture

/-- The cache answers a request with this content. -/
def Answers (cache : ArticleCache) (requestKind : RequestKind) (messageId : MessageId)
    (now : UInt64) (content : Bytes) : Prop :=
  ∃ reply, replyFromCache cache requestKind messageId now = some reply ∧ Carries reply content

/-- A captured response that is stored where no entry is alive answers requests of its kind
with its payload, unless it is an article whose sections do not give it back: one without a
blank line, or with nothing but a blank line. -/
theorem capture_answers_iff {kind : RequestKind} {content : Bytes}
    (isCaptured : kind ∈ capturedKinds) (capture : Capture kind content) (messageId : MessageId)
    (cache : ArticleCache) {stored now : UInt64}
    (unknown : Capture.Unknown cache messageId stored)
    (alive : isExpired stored cache.ttlMillis capture.tier now = false) :
    Answers (capture.store cache messageId stored) kind messageId now content ↔
      (kind = .article → RendersBack content) := by
  have sent := contentFor_captured isCaptured capture.hasBody
    (parseArticleNumber (capture.response.text ++ crlf))
  simp only [capture.payload] at sent
  rw [← capture.payload_entry isCaptured stored] at sent
  rw [Answers, replyFromCache_of_entry (capture.entries_store_of_unknown unknown) alive]
  refine (carries_iff sent capture.block messageId).trans ?_
  by_cases isArticle : kind = .article
  · rw [if_pos isArticle, articleContent_eq_iff]
    exact ⟨fun renders _ => renders, fun renders => renders isArticle⟩
  · rw [if_neg isArticle]
    exact ⟨fun _ absurdKind => absurd absurdKind isArticle, fun _ => rfl⟩

/-- An article of headers only, without the blank line behind them. -/
def headersOnly : Capture .article (ascii "From: x\r\n") where
  response :=
    { text := ascii "220 7 <a@b>"
      status := articleStatus
      body := ascii "From: x\r\n.\r\n"
      oneLine := by decide +kernel
      code := by decide +kernel
      ends := by decide +kernel }
  hasBody := by decide +kernel
  payload := by decide +kernel
  chunks := [ascii "220 7 <a@b>\r\nFro", ascii "m: x\r\n.\r\n"]
  split := by decide +kernel
  slot := 0
  tier := 0

/-- The same headers as a reply of their own. -/
def headReply : Capture .head (ascii "From: x\r\n") where
  response :=
    { text := ascii "221 7 <a@b>"
      status := ⟨221, by decide, by decide⟩
      body := ascii "From: x\r\n.\r\n"
      oneLine := by decide +kernel
      code := by decide +kernel
      ends := by decide +kernel }
  hasBody := by decide +kernel
  payload := by decide +kernel
  chunks := [ascii "221 7 <a@b>\r\nFro", ascii "m: x\r\n.\r\n"]
  split := by decide +kernel
  slot := 0
  tier := 0

def shortId : MessageId :=
  ⟨ascii "<a@b>", by decide +kernel⟩

theorem headReply_answers :
    Answers (headReply.store (.new 1000) shortId 5) .head shortId 6 (ascii "From: x\r\n") :=
  (capture_answers_iff (by decide) headReply shortId (.new 1000) rfl (by decide +kernel)).mpr
    fun isArticle => by cases isArticle

/-- A blank line is sent in front of the headers of such an article. -/
theorem headersOnly_not_answered :
    ¬ Answers (headersOnly.store (.new 1000) shortId 5) .article shortId 6
      (ascii "From: x\r\n") := by
  rintro ⟨reply, replyEq, carries⟩
  have sent : (replyFromCache (headersOnly.store (.new 1000) shortId 5) .article shortId 6).map
      (fun reply => (reply.statusLine, reply.written)) =
      some (ascii "220 7 <a@b>\r\n", ascii "220 7 <a@b>\r\n\r\nFrom: x\r\n.\r\n") := by
    decide +kernel
  rw [replyEq, Option.map_some, Option.some.injEq, Prod.mk.injEq] at sent
  have written := carries.written
  rw [sent.1, sent.2] at written
  exact absurd written (by decide +kernel)

end NntpProxy.Cache
