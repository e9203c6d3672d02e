import NntpProxy.Cache.Rendering

/-!
# Merging entries

The sections of an article are its headers and its body.  An article can be stored as a whole
and answer requests for its sections, and sections that were stored one after the other answer
requests for the article.  When an entry changes, it goes on answering what it answered.
-/

namespace NntpProxy.Cache

open Protocol NntpProxy.Stream Framing Router ArticleCache CachedPayload CachedArticle

/-! ## An article and its sections -/

/-- The headers of an article: some lines, none of them blank. -/
structure HeaderLines (headers : Bytes) : Prop where
  block : Block headers
  nonempty : headers ≠ []
  noBlankLine : ¬ crlf <+: headers ∧ ¬ headersEnd <:+: headers

variable {headers : Bytes}

theorem HeaderLines.sections (lines : HeaderLines headers) (body : Bytes) :
    capturedArticlePayloadSections (headers ++ crlf ++ body) = some (headers, body) := by
  have closed : crlf <:+ headers := lines.block.closed.resolve_left lines.nonempty
  have noneAtStart : ¬ crlf <+: headers ++ crlf ++ body := by
    intro atStart
    rw [List.append_assoc] at atStart
    apply lines.noBlankLine.1
    exact List.prefix_of_prefix_length_le atStart (List.prefix_append _ _) closed.length_le
  rw [capturedArticlePayloadSections, if_neg noneAtStart,
    firstMatchEnd_headersEnd closed lines.noBlankLine.2, Option.map_some]
  congr 2
  · rw [List.append_assoc]
    exact List.take_left' rfl
  · exact List.drop_left' List.length_append

theorem HeaderLines.contentFor_article (lines : HeaderLines headers) (number : Option UInt64)
    (body : Bytes) :
    contentFor (.article number headers body) .article = some (headers ++ crlf ++ body) := by
  have nonempty : headers.isEmpty = false := by
    rw [List.isEmpty_eq_false_iff]
    exact lines.nonempty
  simp [contentFor, CachedResponseWire.articleSeparator, nonempty]

variable {entry : CachedArticle}

variable {now : UInt64} {messageId : MessageId} {content : Bytes}

theorem answers_of_entry {cache : ArticleCache} {requestKind : RequestKind}
    (stored : cache.entries messageId.withoutBrackets = some entry)
    (alive : entry.isExpired cache.ttlMillis now = false)
    (sent : contentFor entry.payload requestKind = some content) (block : Block content) :
    Answers cache requestKind messageId now content := by
  rw [Answers, replyFromCache_of_entry stored alive]
  exact (carries_iff sent block messageId).mpr rfl

namespace Capture

variable {headers body : Bytes}

theorem code_article (capture : Capture .article content) :
    capture.response.status.value = 220 := by
  have hasBody := capture.hasBody
  simp [requestKindHasResponseBody] at hasBody
  omega

theorem payload_head (capture : Capture .head headers) (now : UInt64) :
    ∃ number, (capture.entry now).payload = .head number headers := by
  have hasBody := capture.hasBody
  have code : capture.response.status.value = 221 := by
    simp [requestKindHasResponseBody] at hasBody
    omega
  exact ⟨_, by rw [capture.payload_entry (by decide), code]; rfl⟩

theorem payload_body (capture : Capture .body body) (now : UInt64) :
    ∃ number, (capture.entry now).payload = .body number body := by
  have hasBody := capture.hasBody
  have code : capture.response.status.value = 222 := by
    simp [requestKindHasResponseBody] at hasBody
    omega
  exact ⟨_, by rw [capture.payload_entry (by decide), code]; rfl⟩

theorem payload_article (lines : HeaderLines headers)
    (capture : Capture .article (headers ++ crlf ++ body)) (now : UInt64) :
    ∃ number, (capture.entry now).payload = .article number headers body := by
  refine ⟨parseArticleNumber (capture.response.text ++ crlf), ?_⟩
  rw [capture.payload_entry (by decide), capture.code_article, payloadForStatusOwned, if_pos rfl,
    lines.sections body]

/-- Where an entry without facts about providers is alive, a capture whose sections go with
those of the entry makes one entry of both. -/
theorem entries_store_of_merged {kind : RequestKind} (capture : Capture kind content)
    {cache : ArticleCache} {stored : UInt64} {status : StatusCode} {payload merged : CachedPayload}
    {tier : UInt8} (storedEq : cache.entries messageId.withoutBrackets =
      some ⟨.new, [], status, payload, tier, stored⟩)
    (alive : isExpired stored cache.ttlMillis tier now = false)
    (mergedEq : mergedSections payload (capture.entry now).payload = some merged) :
    (capture.store cache messageId now).entries messageId.withoutBrackets =
      some ⟨.new, [], articleStatus, merged, max tier capture.tier, now⟩ := by
  have freshEq : freshEntryForMutation (cache.entries messageId.withoutBrackets) cache.ttlMillis
      now = some ⟨.new, [], status, payload, tier, stored⟩ := by
    rw [storedEq]
    exact freshEntry_of_alive alive
  have mergedEntryEq : mergeCompatibleSections
      ⟨.new, [], status, payload, tier, stored⟩ (capture.entry now) now =
      some ⟨.new, [], articleStatus, merged, max tier capture.tier, now⟩ := by
    rw [mergeCompatibleSections, mergedEq]
    rfl
  have entryEq : mergeIngestEntry (cache.entries messageId.withoutBrackets) (capture.entry now)
      capture.slot cache.ttlMillis now =
      ⟨.new, [], articleStatus, merged, max tier capture.tier, now⟩ := by
    rw [mergeIngestEntry, freshEq]
    simp only [mergedEntryEq]
    simp [ArticleAvailability.isMissingSlot, ArticleAvailability.new]
  simp only [store, upsertFramedIngestForSlot, put, Function.update_self]
  exact congrArg some entryEq

end Capture

/-- An article that is stored as a whole answers requests for its headers and its body, and
headers and a body that are stored one after the other, in either order, answer requests for
the article. -/
theorem sections_answered {headers body : Bytes} (lines : HeaderLines headers)
    (bodyBlock : Block body) (messageId : MessageId) (cache : ArticleCache) :
    (∀ (article : Capture .article (headers ++ crlf ++ body)) (stored now : UInt64),
      Capture.Unknown cache messageId stored →
      isExpired stored cache.ttlMillis article.tier now = false →
        Answers (article.store cache messageId stored) .head messageId now headers ∧
          Answers (article.store cache messageId stored) .body messageId now body) ∧
      ∀ (headCapture : Capture .head headers) (bodyCapture : Capture .body body)
        (first second now : UInt64), Capture.Unknown cache messageId first →
        isExpired second cache.ttlMillis (max headCapture.tier bodyCapture.tier) now = false →
        (isExpired first cache.ttlMillis headCapture.tier second = false →
          Answers (bodyCapture.store (headCapture.store cache messageId first) messageId second)
            .article messageId now (headers ++ crlf ++ body)) ∧
          (isExpired first cache.ttlMillis bodyCapture.tier second = false →
            Answers (headCapture.store (bodyCapture.store cache messageId first) messageId second)
              .article messageId now (headers ++ crlf ++ body)) := by
  have articleBlock : Block (headers ++ crlf ++ body) := lines.block.append_line bodyBlock
  constructor
  · intro article stored now unknown alive
    rcases Capture.payload_article lines article stored with ⟨number, payloadEq⟩
    have storedEq := article.entries_store_of_unknown unknown
    constructor
    · exact answers_of_entry storedEq alive (by rw [payloadEq]; rfl) lines.block
    · exact answers_of_entry storedEq alive (by rw [payloadEq]; rfl) bodyBlock
  · intro headCapture bodyCapture first second now unknown alive
    constructor
    · intro firstAlive
      rcases headCapture.payload_head first with ⟨left, leftEq⟩
      rcases bodyCapture.payload_body second with ⟨right, rightEq⟩
      have mergedEq : mergedSections (headCapture.entry first).payload
          (bodyCapture.entry second).payload =
          some (.article (retainedArticleNumber left right) headers body) := by
        rw [leftEq, rightEq]
        rfl
      have storedEq := bodyCapture.entries_store_of_merged
        (headCapture.entries_store_of_unknown unknown) firstAlive mergedEq
      exact answers_of_entry storedEq alive (lines.contentFor_article _ body) articleBlock
    · intro firstAlive
      rcases bodyCapture.payload_body first with ⟨left, leftEq⟩
      rcases headCapture.payload_head second with ⟨right, rightEq⟩
      have mergedEq : mergedSections (bodyCapture.entry first).payload
          (headCapture.entry second).payload =
          some (.article (retainedArticleNumber left right) headers body) := by
        rw [leftEq, rightEq]
        rfl
      have storedEq := headCapture.entries_store_of_merged
        (bodyCapture.entries_store_of_unknown unknown) firstAlive mergedEq
      rw [max_tier_comm] at alive
      exact answers_of_entry storedEq alive (lines.contentFor_article _ body) articleBlock

theorem headerLines_from : HeaderLines (ascii "From: x\r\n") where
  block := ⟨Or.inr (by decide +kernel), by decide +kernel⟩
  nonempty := by decide +kernel
  noBlankLine := by decide +kernel

def bodyReply : Capture .body (ascii "hi\r\n") where
  response :=
    { text := ascii "222 7 <a@b>"
      status := .body
      body := ascii "hi\r\n.\r\n"
      oneLine := by decide +kernel
      code := by decide +kernel
      ends := by decide +kernel }
  hasBody := by decide +kernel
  payload := by decide +kernel
  chunks := [ascii "222 7 <a@b>\r\nhi\r\n.\r\n"]
  split := by decide +kernel
  slot := 1
  tier := 0

theorem headReply_bodyReply_answer_article :
    Answers (bodyReply.store (headReply.store (.new 1000) shortId 5) shortId 6) .article shortId 7
      (ascii "From: x\r\n" ++ crlf ++ ascii "hi\r\n") :=
  ((sections_answered headerLines_from bodyReply.block shortId (.new 1000)).2 headReply bodyReply
    5 6 7 rfl (by decide +kernel)).1 (by decide +kernel)

/-! ## What an entry answers -/

/-- The payload answers every request that the other one answers. -/
def CachedPayload.Covers (payload other : CachedPayload) : Prop :=
  payload.answerBits &&& other.answerBits = other.answerBits

/-- The bit of a kind of request. -/
def answerBit : RequestKind → UInt8
  | .article => 1
  | .head => 2
  | .body => 4
  | .stat => 8
  | _ => 0

theorem isSome_cachedResponse_iff (payload : CachedPayload) (requestKind : RequestKind)
    (messageId : MessageId) :
    (cachedResponseForPayload payload requestKind messageId.text).isSome = true ↔
      payload.answerBits &&& answerBit requestKind ≠ 0 := by
  have fits : ∀ code number, (StackStatusLine.digits code).length = 3 →
      (StackStatusLine.new code number messageId.text).isSome = true := by
    intro code number threeDigits
    rcases exists_statusLine threeDigits number messageId with ⟨text, -, -, lineEq⟩
    rw [lineEq]
    rfl
  have fits220 := fun number => fits 220 number (by decide)
  have fits221 := fun number => fits 221 number (by decide)
  have fits222 := fun number => fits 222 number (by decide)
  have fits223 := fun number => fits 223 number (by decide)
  cases requestKind
  case article =>
    cases payload <;> simp [cachedResponseForPayload, answerBits, answerBit, fits220]
      <;> decide
  case head =>
    cases payload <;> simp [cachedResponseForPayload, answerBits, answerBit, fits221]
      <;> decide
  case body =>
    cases payload <;> simp [cachedResponseForPayload, answerBits, answerBit, fits222]
      <;> decide
  case stat =>
    cases payload <;> simp [cachedResponseForPayload, answerBits, answerBit, fits223]
      <;> decide
  all_goals simp [cachedResponseForPayload, answerBit]

namespace CachedPayload

theorem covers_refl (payload : CachedPayload) : payload.Covers payload :=
  UInt8.and_self

theorem Covers.isSome {payload other : CachedPayload} (covers : payload.Covers other)
    {requestKind : RequestKind}
    (answered : (cachedResponseForPayload other requestKind messageId.text).isSome = true) :
    (cachedResponseForPayload payload requestKind messageId.text).isSome = true := by
  rw [isSome_cachedResponse_iff] at answered ⊢
  intro noBit
  apply answered
  rw [← covers, UInt8.and_comm payload.answerBits, UInt8.and_assoc, noBit, UInt8.and_zero]

theorem covers_of_isMarker {other : CachedPayload} (marker : other.isMarker = true)
    (payload : CachedPayload) : payload.Covers other := by
  cases other with
  | missing => exact UInt8.and_zero
  | availabilityOnly => exact UInt8.and_zero
  | _ => cases marker

theorem article_covers (number : Option UInt64) (headers body : Bytes) (other : CachedPayload) :
    (article number headers body).Covers other := by
  cases other
  all_goals
    simp only [Covers, answerBits]
    decide

theorem exists_article_of_mergedSections {left right merged : CachedPayload}
    (mergedEq : mergedSections left right = some merged) :
    ∃ number headers body, merged = .article number headers body ∧
      (contentFor left .head = some headers ∧ contentFor right .body = some body ∨
        contentFor right .head = some headers ∧ contentFor left .body = some body) := by
  cases left with
  | head leftNumber headers =>
    cases right with
    | body rightNumber content =>
      obtain rfl := Option.some.inj mergedEq
      exact ⟨_, headers, content, rfl, Or.inl ⟨rfl, rfl⟩⟩
    | _ => cases mergedEq
  | body leftNumber content =>
    cases right with
    | head rightNumber headers =>
      obtain rfl := Option.some.inj mergedEq
      exact ⟨_, headers, content, rfl, Or.inr ⟨rfl, rfl⟩⟩
    | _ => cases mergedEq
  | _ => cases mergedEq

theorem len_eq_zero_of_replaced {existing new : CachedPayload} (noOctets : new.len = 0)
    (replaced : keepSameCompleteness existing new = false) :
    new.strictlyMoreUsefulThan existing = true := by
  simp only [keepSameCompleteness, noOctets, Bool.or_eq_false_iff, decide_eq_false_iff_not,
    Bool.and_eq_false_iff, beq_eq_false_iff_ne, Bool.not_eq_false'] at replaced
  rcases replaced with ⟨notLonger, longer | useful⟩
  · omega
  · exact useful

/-- Unless it is an article, a payload is replaced only by one that answers what it
answered. -/
theorem covers_of_replaced {existing new : CachedPayload}
    (apart : mergedSections existing new = none)
    (noArticle : ∀ number headers body, existing ≠ .article number headers body)
    (replaced : keepSameCompleteness existing new = false) : new.Covers existing := by
  have useful : new.len = 0 → new.Covers existing := by
    intro noOctets
    have more := len_eq_zero_of_replaced noOctets replaced
    simp only [strictlyMoreUsefulThan, Bool.and_eq_true, beq_iff_eq] at more
    exact more.1
  cases new with
  | article number headers content => exact article_covers ..
  | missing => exact useful rfl
  | availabilityOnly => exact useful rfl
  | stat number => exact useful rfl
  | head number headers =>
    cases existing with
    | article => exact absurd rfl (noArticle _ _ _)
    | body => cases apart
    | _ =>
      simp only [Covers, answerBits]
      decide
  | body number content =>
    cases existing with
    | article => exact absurd rfl (noArticle _ _ _)
    | head => cases apart
    | _ =>
      simp only [Covers, answerBits]
      decide

end CachedPayload

/-- A payload that came from merging what was offered into what was stored. -/
structure MergedFrom (merged stored offered : CachedPayload) : Prop where
  covers : (∀ number, stored ≠ .article number [] []) → merged.Covers stored
  headers : contentFor merged .head = contentFor stored .head ∨
    contentFor merged .head = contentFor offered .head
  body : contentFor merged .body = contentFor stored .body ∨
    contentFor merged .body = contentFor offered .body

namespace MergedFrom

variable {merged stored offered : CachedPayload}

theorem kept (stored offered : CachedPayload) : MergedFrom stored stored offered :=
  ⟨fun _ => stored.covers_refl, Or.inl rfl, Or.inl rfl⟩

theorem replaced (covers : (∀ number, stored ≠ .article number [] []) → offered.Covers stored) :
    MergedFrom offered stored offered :=
  ⟨covers, Or.inr rfl, Or.inr rfl⟩

theorem sections (mergedEq : mergedSections stored offered = some merged) :
    MergedFrom merged stored offered := by
  rcases exists_article_of_mergedSections mergedEq with
    ⟨number, headers, body, rfl, ⟨headersEq, bodyEq⟩ | ⟨headersEq, bodyEq⟩⟩
  · exact ⟨fun _ => article_covers .., Or.inl headersEq.symm, Or.inr bodyEq.symm⟩
  · exact ⟨fun _ => article_covers .., Or.inr headersEq.symm, Or.inl bodyEq.symm⟩

end MergedFrom

/-- Only an article is stored under the status of one. -/
def CachedArticle.Consistent (entry : CachedArticle) : Prop :=
  ∀ number headers body, entry.payload = .article number headers body →
    entry.statusCode.value = 220

theorem exists_article_of_isComplete (complete : entry.isCompleteArticle = true) :
    ∃ number headers body, entry.payload = .article number headers body := by
  unfold isCompleteArticle at complete
  split at complete
  · cases complete
  · split at complete
    next number headers body payloadEq => exact ⟨number, headers, body, payloadEq⟩
    · cases complete

theorem CachedArticle.Consistent.eq_nil_of_incomplete (consistent : entry.Consistent)
    {number : Option UInt64} {body : Bytes}
    (payloadEq : entry.payload = .article number headers body)
    (incomplete : entry.isCompleteArticle = false) : headers = [] ∧ body = [] := by
  have statusEq := consistent number headers body payloadEq
  simpa [isCompleteArticle, statusEq, payloadEq] using incomplete

variable {template : CachedArticle}

theorem CachedArticle.Consistent.covers_of_shouldReplace (consistent : entry.Consistent)
    (apart : mergedSections entry.payload template.payload = none)
    (notEmpty : ∀ number, entry.payload ≠ .article number [] [])
    (replaces : entry.shouldReplace template = true) : template.payload.Covers entry.payload := by
  have coversOfComplete : template.isCompleteArticle = true →
      template.payload.Covers entry.payload := by
    intro complete
    rcases exists_article_of_isComplete complete with ⟨number, headers, body, payloadEq⟩
    rw [payloadEq]
    exact article_covers ..
  cases templateComplete : template.isCompleteArticle with
  | true => exact coversOfComplete templateComplete
  | false =>
    cases entryComplete : entry.isCompleteArticle with
    | true => simp [shouldReplace, entryComplete, templateComplete] at replaces
    | false =>
      have shorter : keepSameCompleteness entry.payload template.payload = false := by
        simpa [shouldReplace, entryComplete, templateComplete] using replaces
      apply covers_of_replaced apart _ shorter
      intro number headers body payloadEq
      rcases consistent.eq_nil_of_incomplete payloadEq entryComplete with ⟨rfl, rfl⟩
      exact notEmpty number payloadEq

variable {baseTtl : UInt64}

theorem CachedArticle.Consistent.mergedFrom_ingest (consistent : entry.Consistent)
    (slot : AvailabilitySlot) (alive : entry.isExpired baseTtl now = false) :
    MergedFrom (mergeIngestEntry (some entry) template slot baseTtl now).payload entry.payload
      template.payload := by
  rw [mergeIngestEntry, freshEntry_of_alive alive]
  simp only
  split
  · exact .kept _ _
  · cases mergedEq : mergedSections entry.payload template.payload with
    | some merged =>
      have mergedEntryEq : ((entry.expireStaleAvailability baseTtl now).mergeCompatibleSections
          template now).map (·.payload) = some merged := by
        exact (Option.map_map ..).trans (congrArg _ mergedEq)
      rcases Option.map_eq_some_iff.mp mergedEntryEq with ⟨mergedEntry, entryEq, rfl⟩
      rw [entryEq]
      exact .sections mergedEq
    | none =>
      have mergedEntryEq : (entry.expireStaleAvailability baseTtl now).mergeCompatibleSections
          template now = none := by
        exact Option.map_eq_none_iff.mpr mergedEq
      rw [mergedEntryEq]
      simp only
      split
      next replaces =>
        apply MergedFrom.replaced
        intro notEmpty
        exact consistent.covers_of_shouldReplace mergedEq notEmpty replaces
      · exact .kept _ _

/-- What an operation offers to the entry. -/
def CacheOperation.offered : CacheOperation → Option CachedPayload
  | .ingest response _ _ => some (parseFramedChunkedPayload response)
  | .hasStatus .. => some .availabilityOnly
  | .stat .. => some (.stat none)
  | .missing _ | .get => none

/-- A fact about a provider changes the payload only of an entry without one. -/
theorem mergedFrom_confirm (template : CachedArticle) (slot : AvailabilitySlot)
    (alive : entry.isExpired baseTtl now = false) :
    MergedFrom (confirmEntry ((freshEntryForMutation (some entry) baseTtl now).getD template)
      template slot now).payload entry.payload template.payload := by
  rw [freshEntry_of_alive alive, confirmEntry]
  split
  · exact .kept _ _
  · split
    next marker => exact .replaced fun _ => covers_of_isMarker marker _
    · exact .kept _ _

/-! ## Entries of a run -/

variable {maybeEntry : Option CachedArticle}

namespace CachedArticle

theorem consistent_of_not_article
    (noArticle : ∀ number headers body, entry.payload ≠ .article number headers body) :
    entry.Consistent :=
  fun number headers body payloadEq => absurd payloadEq (noArticle number headers body)

/-- Only a response with the status of an article is kept as one. -/
theorem consistent_fromFramedChunkedWithTier (response : FramedChunkedResponse) (tier : UInt8)
    (now : UInt64) : (fromFramedChunkedWithTier response tier now).Consistent := by
  intro number headers body payloadEq
  change parseFramedChunkedPayload response = _ at payloadEq
  change response.status.value = 220
  by_contra otherStatus
  unfold parseFramedChunkedPayload payloadForStatusOwned at payloadEq
  simp only [if_neg otherStatus] at payloadEq
  repeat' split at payloadEq
  all_goals cases payloadEq

theorem consistent_freshEntry (consistent : ∀ stored ∈ maybeEntry, stored.Consistent)
    (fresh : freshEntryForMutation maybeEntry baseTtl now = some entry) : entry.Consistent := by
  cases maybeEntry with
  | none => cases fresh
  | some stored =>
    simp only [freshEntryForMutation, Option.ite_none_left_eq_some, Option.some.injEq] at fresh
    rcases fresh with ⟨-, rfl⟩
    exact consistent stored rfl

theorem consistent_mergeIngestEntry (slot : AvailabilitySlot) (baseTtl now : UInt64)
    (consistent : ∀ stored ∈ maybeEntry, stored.Consistent)
    (templateConsistent : template.Consistent) :
    (mergeIngestEntry maybeEntry template slot baseTtl now).Consistent := by
  unfold mergeIngestEntry
  cases fresh : freshEntryForMutation maybeEntry baseTtl now with
  | none => exact templateConsistent
  | some entry =>
    have entryConsistent := consistent_freshEntry consistent fresh
    simp only
    split
    · exact entryConsistent
    · cases mergedEq : entry.mergeCompatibleSections template now with
      | some merged =>
        rcases Option.map_eq_some_iff.mp mergedEq with ⟨payload, -, rfl⟩
        exact fun _ _ _ _ => rfl
      | none =>
        simp only
        split
        · exact templateConsistent
        · exact entryConsistent

theorem consistent_confirmEntry (consistent : entry.Consistent)
    (noArticle : ∀ number headers body, template.payload ≠ .article number headers body)
    (slot : AvailabilitySlot) (now : UInt64) :
    (confirmEntry entry template slot now).Consistent := by
  unfold confirmEntry
  split
  · exact consistent
  · split
    · exact consistent_of_not_article noArticle
    · exact consistent

theorem consistent_nextEntry (now : UInt64) (operation : CacheOperation)
    (consistent : ∀ stored ∈ maybeEntry, stored.Consistent) :
    ∀ entry ∈ nextEntry baseTtl maybeEntry now operation, entry.Consistent := by
  have freshConsistent : ∀ template : CachedArticle,
      (∀ number headers body, template.payload ≠ .article number headers body) →
      ((freshEntryForMutation maybeEntry baseTtl now).getD template).Consistent := by
    intro template noArticle
    cases fresh : freshEntryForMutation maybeEntry baseTtl now with
    | none => exact consistent_of_not_article noArticle
    | some entry => exact consistent_freshEntry consistent fresh
  cases operation with
  | ingest response slot tier =>
    rintro entry ⟨⟩
    exact consistent_mergeIngestEntry slot baseTtl now consistent
      (consistent_fromFramedChunkedWithTier response tier now)
  | hasStatus status slot tier =>
    rintro entry ⟨⟩
    have noArticle : ∀ number headers body,
        (availabilityOnly status tier now).payload ≠ .article number headers body := nofun
    exact consistent_confirmEntry (freshConsistent _ noArticle) noArticle slot now
  | stat slot tier =>
    rintro entry ⟨⟩
    have noArticle : ∀ number headers body,
        (stat tier now).payload ≠ .article number headers body := nofun
    exact consistent_confirmEntry (freshConsistent _ noArticle) noArticle slot now
  | missing slot =>
    rintro entry ⟨⟩
    exact freshConsistent (missing 0 now) nofun
  | get =>
    intro entry kept
    rcases Option.bind_eq_some_iff.mp kept with ⟨stored, storedEq, keptEq⟩
    rw [Option.ite_none_left_eq_some] at keptEq
    exact consistent entry (storedEq.trans keptEq.2)

end CachedArticle

/-- Whatever was stored before, an operation that offers a payload to an entry that is alive
leaves an entry that goes on answering what it answered, unless it was an article without any
octets; and the headers and the body of the entry are those that were stored or those that
were offered. -/
theorem merging_keeps_answers (baseTtl : UInt64) (events : List CacheEvent) {key : Bytes}
    {entry : CachedArticle}
    (stored : ((new baseTtl).run events).entries key = some entry) (now : UInt64)
    (alive : entry.isExpired baseTtl now = false) (operation : CacheOperation)
    {offered : CachedPayload} (offers : operation.offered = some offered) :
    ∃ merged, (((new baseTtl).run events).apply ⟨key, now, operation⟩).entries key =
        some merged ∧
      ((∀ number, entry.payload ≠ .article number [] []) →
        ∀ requestKind (messageId : MessageId),
          (entry.cachedResponseFor requestKind messageId.text).isSome = true →
            (merged.cachedResponseFor requestKind messageId.text).isSome = true) ∧
      (∀ part ∈ [RequestKind.head, .body],
        contentFor merged.payload part = contentFor entry.payload part ∨
          contentFor merged.payload part = contentFor offered part) := by
  have consistent : entry.Consistent :=
    run_induction (fun maybeEntry => ∀ entry ∈ maybeEntry, entry.Consistent)
      (fun _ isNone => nomatch isNone)
      (fun _ now operation => consistent_nextEntry now operation) events key
      entry stored
  have entryEq : (((new baseTtl).run events).apply ⟨key, now, operation⟩).entries
      key = nextEntry baseTtl (some entry) now operation := by
    rw [entries_apply, Function.update_self, ttlMillis_run, stored]
    rfl
  have mergedFrom : ∃ merged, nextEntry baseTtl (some entry) now operation = some merged ∧
      MergedFrom merged.payload entry.payload offered := by
    cases operation with
    | ingest response slot tier =>
      obtain rfl := Option.some.inj offers
      exact ⟨_, rfl, consistent.mergedFrom_ingest slot alive⟩
    | hasStatus status slot tier =>
      obtain rfl := Option.some.inj offers
      exact ⟨_, rfl, mergedFrom_confirm _ slot alive⟩
    | stat slot tier =>
      obtain rfl := Option.some.inj offers
      exact ⟨_, rfl, mergedFrom_confirm _ slot alive⟩
    | missing slot => cases offers
    | get => cases offers
  rcases mergedFrom with ⟨merged, mergedEq, origin⟩
  refine ⟨merged, entryEq.trans mergedEq, ?_, ?_⟩
  · intro notEmpty requestKind messageId answered
    exact (origin.covers notEmpty).isSome answered
  · intro part isPart
    simp only [List.mem_cons, List.not_mem_nil, or_false] at isPart
    rcases isPart with rfl | rfl
    · exact origin.headers
    · exact origin.body

theorem headReply_goes_on_answering :
    ∃ merged, (((new 1000).run [⟨shortId.withoutBrackets, 5, .ingest
          (captured headReply.response headReply.chunks) headReply.slot headReply.tier⟩]).apply
        ⟨shortId.withoutBrackets, 6, .stat 1 0⟩).entries shortId.withoutBrackets = some merged ∧
      (merged.cachedResponseFor .head shortId.text).isSome = true := by
  have stored : ((new 1000).run [⟨shortId.withoutBrackets, 5, .ingest
      (captured headReply.response headReply.chunks) headReply.slot headReply.tier⟩]).entries
        shortId.withoutBrackets = some (headReply.entry 5) :=
    headReply.entries_store_of_unknown rfl
  rcases headReply.payload_head 5 with ⟨number, payloadEq⟩
  rcases merging_keeps_answers 1000 _ stored 6 (by decide +kernel) (.stat 1 0) rfl with
    ⟨merged, mergedEq, keeps, -⟩
  exact ⟨merged, mergedEq, keeps (by rw [payloadEq]; nofun) .head shortId (by decide +kernel)⟩

end NntpProxy.Cache
