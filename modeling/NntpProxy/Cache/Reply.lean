import NntpProxy.Cache.Rendering

/-!
# Cached replies as responses

What a captured response leaves in the cache are blocks: the headers and the body of an
article, or one of them.  A reply that is made of blocks is a well-formed response to the
request that it answers.
-/

namespace NntpProxy.Cache

open Protocol NntpProxy.Stream Framing StackStatusLine StatusCode CachedResponseWire

/-! ## Sections -/

/-- The sections of a payload are blocks. -/
def CachedPayload.Blocks : CachedPayload → Prop
  | .article _ headers content => Block headers ∧ Block content
  | .head _ headers => Block headers
  | .body _ content => Block content
  | _ => True

theorem blocks_article {payload : Bytes} (block : Block payload) (articleNumber : Option UInt64) :
    (payloadForStatusOwned 220 articleNumber payload).Blocks := by
  rw [payloadForStatusOwned, capturedArticlePayloadSections]
  by_cases atStart : crlf <+: payload
  · rw [if_pos atStart]
    rcases atStart with ⟨rest, rfl⟩
    exact ⟨block_nil, Block.behind (by exact block : Block ([] ++ crlf ++ rest))⟩
  · rw [if_neg atStart]
    cases found : firstMatchEnd headersEnd payload with
    | none => exact ⟨block_nil, block⟩
    | some stop =>
      rcases sections_of_headers atStart found with ⟨front, body, rfl, sections⟩
      rw [capturedArticlePayloadSections, if_neg atStart, found] at sections
      rw [sections]
      exact ⟨block.front.front, block.behind⟩

variable {content : Bytes}

/-- What a captured response leaves in the cache. -/
theorem Capture.blocks {kind : RequestKind} (capture : Capture kind content)
    (isCaptured : kind ∈ capturedKinds) (now : UInt64) : (capture.entry now).payload.Blocks := by
  have block := capture.block
  have range := code_of_hasBody isCaptured capture.hasBody
  rw [capture.payload_entry isCaptured]
  generalize capture.response.status.value = code at range ⊢
  have cases : code = 220 ∨ code = 221 ∨ code = 222 := by omega
  rcases cases with rfl | rfl | rfl
  · exact blocks_article block _
  · exact block
  · exact block

/-! ## Replies -/

variable {payload : CachedPayload}

theorem block_contentFor {requestKind : RequestKind} (blocks : payload.Blocks)
    (found : contentFor payload requestKind = some content) :
    Block content := by
  unfold contentFor at found
  split at found
  next number headers body =>
    obtain rfl := Option.some.inj found
    unfold articleSeparator
    split
    next isEmpty =>
      simp only [Bool.and_eq_true, List.isEmpty_iff] at isEmpty
      rw [isEmpty.1, isEmpty.2]
      exact block_nil
    · exact blocks.1.append_line blocks.2
  · exact Option.some.inj found ▸ blocks.1
  · exact Option.some.inj found ▸ blocks
  · exact Option.some.inj found ▸ blocks.2
  · exact Option.some.inj found ▸ blocks
  · cases found

section StatusLine

variable {kind : RequestKind} {status : StatusCode} {code : Nat} {number : UInt64}
  {messageId : MessageId} {line : Bytes}

variable (threeDigits : (digits code).length = 3) (codeEq : parse (digits code) = some status)

include threeDigits codeEq

theorem statusLine_of_new (lineEq : new code number messageId.text = some line) :
    ∃ text, line = text ++ crlf ∧ lf ∉ text ∧ parse (text ++ crlf) = some status := by
  rcases exists_statusLine threeDigits number messageId with ⟨text, oneLine, ⟨rest, rfl⟩, newEq⟩
  obtain rfl := Option.some.inj (newEq.symm.trans lineEq)
  refine ⟨_, rfl, oneLine, ?_⟩
  rw [List.append_assoc, parse_append (Nat.le_of_eq threeDigits.symm), codeEq]

theorem exists_response_of_line (noBody : requestKindHasResponseBody kind status = false)
    (lineEq : new code number messageId.text = some line) :
    ∃ response : Response kind, response.bytes = line := by
  rcases statusLine_of_new threeDigits codeEq lineEq with ⟨text, rfl, oneLine, parsed⟩
  refine ⟨⟨text, status, [], oneLine, parsed, ?_⟩, List.append_nil _⟩
  rw [noBody]
  rfl

theorem exists_response_of_block (hasBody : requestKindHasResponseBody kind status = true)
    (block : Block content) (lineEq : new code number messageId.text = some line) :
    ∃ response : Response kind,
      response.bytes = line ++ content ++ responseCompletion := by
  rcases statusLine_of_new threeDigits codeEq lineEq with ⟨text, rfl, oneLine, parsed⟩
  refine ⟨⟨text, status, content ++ responseCompletion, oneLine, parsed, ?_⟩,
    (List.append_assoc _ _ _).symm⟩
  rw [if_pos hasBody, firstEnd_crlf]
  exact block.firstEnd_closed

end StatusLine

theorem exists_response_of_stat {messageId : MessageId} {reply : CachedResponseWire}
    (found : cachedResponseForPayload payload .stat messageId.text = some reply) :
    ∃ response : Response .stat, response.bytes = reply.written := by
  have isStat : parse (digits 223) =
      some ⟨223, by decide, by decide⟩ := by decide
  have line : ∀ line, new 223 (payload.articleNumber.getD 0) messageId.text =
      some line → ∃ response : Response .stat, response.bytes = [line].flatten := by
    intro line lineEq
    rw [List.flatten_singleton]
    exact exists_response_of_line rfl isStat rfl lineEq
  cases payload with
  | missing => cases found
  | availabilityOnly => cases found
  | _ =>
    rcases Option.map_eq_some_iff.mp found with ⟨text, lineEq, rfl⟩
    exact line text lineEq

theorem exists_response_of_cached {requestKind : RequestKind} {messageId : MessageId}
    {reply : CachedResponseWire} (blocks : payload.Blocks)
    (found : cachedResponseForPayload payload requestKind messageId.text = some reply) :
    ∃ response : Response requestKind, response.bytes = reply.written := by
  have isArticle : parse (digits 220) =
      some ⟨220, by decide, by decide⟩ := by decide
  have isHead : parse (digits 221) =
      some ⟨221, by decide, by decide⟩ := by decide
  have isBody : parse (digits 222) =
      some ⟨222, by decide, by decide⟩ := by decide
  by_cases isStat : requestKind = .stat
  · subst isStat
    exact exists_response_of_stat found
  · cases sends : contentFor payload requestKind with
    | none =>
      unfold contentFor at sends
      unfold cachedResponseForPayload at found
      split at found <;> simp_all
    | some content =>
      have block := block_contentFor blocks sends
      rcases exists_reply sends messageId with ⟨other, otherEq, -, written⟩
      obtain rfl := Option.some.inj (otherEq.symm.trans found)
      rw [written]
      unfold cachedResponseForPayload at found
      split at found
      all_goals
        first
        | exact absurd rfl isStat
        | cases found
        | rcases Option.map_eq_some_iff.mp found with ⟨line, lineEq, rfl⟩
      · exact exists_response_of_block rfl isArticle rfl block lineEq
      · exact exists_response_of_block rfl isHead rfl block lineEq
      · exact exists_response_of_block rfl isHead rfl block lineEq
      · exact exists_response_of_block rfl isBody rfl block lineEq
      · exact exists_response_of_block rfl isBody rfl block lineEq

end NntpProxy.Cache
