import NntpProxy.Cache.Merging
import NntpProxy.Cache.Reply

/-!
# What the cache serves

Entries are merged, replaced and renewed in any order.  Whatever happened before, the headers and
the body of an entry are those of some response for this article, octet for octet, and so every
reply from the cache is one well-formed response.
-/

namespace NntpProxy.Cache

open Protocol Framing Router ArticleCache CachedPayload CachedArticle

variable {baseTtl now : UInt64} {maybeEntry : Option CachedArticle} {entry : CachedArticle}
  {operation : CacheOperation} {part : RequestKind} {content : Bytes}

/-- The headers and the body of a payload are allowed. -/
def CachedPayload.Within (allowed : RequestKind → Bytes → Prop) (payload : CachedPayload) : Prop :=
  ∀ part, part = .head ∨ part = .body → ∀ content, contentFor payload part = some content →
    allowed part content

variable {allowed : RequestKind → Bytes → Prop}

theorem within_mergedSections {left right merged : CachedPayload} (leftWithin : left.Within allowed)
    (rightWithin : right.Within allowed) (mergedEq : mergedSections left right = some merged) :
    merged.Within allowed := by
  rcases exists_article_of_mergedSections mergedEq with
    ⟨number, headers, body, rfl, ⟨headersEq, bodyEq⟩ | ⟨headersEq, bodyEq⟩⟩
  · rintro part (rfl | rfl) content ⟨⟩
    · exact leftWithin .head (Or.inl rfl) headers headersEq
    · exact rightWithin .body (Or.inr rfl) body bodyEq
  · rintro part (rfl | rfl) content ⟨⟩
    · exact rightWithin .head (Or.inl rfl) headers headersEq
    · exact leftWithin .body (Or.inr rfl) body bodyEq

section

variable {template : CachedArticle} {slot : AvailabilitySlot}
  (offered : template.payload.Within allowed)
  (fresh : ∀ entry ∈ freshEntryForMutation maybeEntry baseTtl now, entry.payload.Within allowed)

include offered fresh

theorem within_mergeIngestEntry :
    (mergeIngestEntry maybeEntry template slot baseTtl now).payload.Within allowed := by
  unfold mergeIngestEntry
  split
  next => exact offered
  next entry isFresh =>
    have within := fresh entry isFresh
    split
    · exact within
    split
    next merged mergedEq =>
      obtain ⟨payload, payloadEq, rfl⟩ := Option.map_eq_some_iff.mp mergedEq
      exact within_mergedSections within offered payloadEq
    next =>
      split
      · exact offered
      · exact within

theorem within_confirmEntry :
    (confirmEntry ((freshEntryForMutation maybeEntry baseTtl now).getD template) template slot
      now).payload.Within allowed := by
  have within : ((freshEntryForMutation maybeEntry baseTtl now).getD
      template).payload.Within allowed := by
    cases isFresh : freshEntryForMutation maybeEntry baseTtl now with
    | none => exact offered
    | some entry => exact fresh entry isFresh
  unfold confirmEntry
  split
  · exact within
  · split
    · exact offered
    · exact within

end

theorem within_nextEntry (offered : ∀ payload ∈ operation.offered, payload.Within allowed)
    (within : ∀ stored ∈ maybeEntry, stored.payload.Within allowed) :
    ∀ entry ∈ nextEntry baseTtl maybeEntry now operation, entry.payload.Within allowed := by
  have fresh : ∀ entry ∈ freshEntryForMutation maybeEntry baseTtl now,
      entry.payload.Within allowed := by
    intro entry isFresh
    cases maybeEntry with
    | none => cases isFresh
    | some stored =>
      rcases Option.ite_none_left_eq_some.mp isFresh with ⟨-, ⟨⟩⟩
      exact within stored rfl
  cases operation with
  | ingest response slot tier =>
    rintro _ ⟨⟩
    exact within_mergeIngestEntry (offered _ rfl) fresh
  | hasStatus | stat =>
    rintro _ ⟨⟩
    exact within_confirmEntry (offered _ rfl) fresh
  | missing slot =>
    rintro _ ⟨⟩
    unfold mergeAvailabilityMissingEntry
    cases isFresh : freshEntryForMutation maybeEntry baseTtl now with
    | none => rintro part (rfl | rfl) content ⟨⟩
    | some entry => exact fresh entry isFresh
  | get =>
    intro entry kept
    obtain ⟨stored, storedEq, keptEq⟩ := Option.bind_eq_some_iff.mp kept
    rw [Option.ite_none_left_eq_some] at keptEq
    exact within entry (storedEq.trans keptEq.2)

/-- A section that an event on this key offered. -/
def Offered (events : List CacheEvent) (key : Bytes) (part : RequestKind) (content : Bytes) :
    Prop :=
  ∃ event ∈ events, event.key = key ∧
    ∃ payload ∈ event.operation.offered, contentFor payload part = some content

variable {events : List CacheEvent} {key : Bytes}

/-- Behind any events, the sections of an entry are sections that were offered for its key. -/
theorem within_run : ∀ entry ∈ ((new baseTtl).run events).entries key,
    entry.payload.Within (Offered events key) := by
  induction events using List.reverseRecOn with
  | nil => simp [run, new]
  | append_singleton events event ih =>
    have before : ∀ entry ∈ ((new baseTtl).run events).entries key,
        entry.payload.Within (Offered (events ++ [event]) key) := by
      intro entry stored part isPart content found
      obtain ⟨source, isSource, rest⟩ := ih entry stored part isPart content found
      exact ⟨source, List.mem_append_left _ isSource, rest⟩
    rw [run_concat, entries_apply, Function.update_apply]
    split
    next same =>
      subst same
      refine within_nextEntry (fun payload offers part _ content found => ?_) before
      exact ⟨event, by simp, rfl, payload, offers, found⟩
    next => exact before

/-- Every ingested response with a body was captured from a provider. -/
def AllCaptured (events : List CacheEvent) : Prop :=
  ∀ event ∈ events, ∀ response slot tier, event.operation = .ingest response slot tier →
    220 ≤ response.status.value ∧ response.status.value ≤ 222 →
      ∃ kind ∈ capturedKinds, ∃ content, ∃ capture : Capture kind content,
        response = captured capture.response capture.chunks

theorem AllCaptured.block (captured : AllCaptured events)
    (offered : Offered events key part content) : Block content := by
  obtain ⟨⟨_, _, operation⟩, isEvent, -, payload, offers, found⟩ := offered
  refine block_contentFor ?_ found
  cases operation with
  | ingest response slot tier =>
    obtain rfl := Option.some.inj offers
    by_cases hasBody : 220 ≤ response.status.value ∧ response.status.value ≤ 222
    · obtain ⟨_, isCaptured, _, capture, rfl⟩ := captured _ isEvent response slot tier rfl hasBody
      exact capture.blocks isCaptured 0
    · simp only [parseFramedChunkedPayload, if_pos hasBody]
      repeat' split
      all_goals trivial
  | hasStatus | stat => exact Option.some.inj offers ▸ trivial
  | missing | get => cases offers

theorem AllCaptured.blocks (captured : AllCaptured events)
    (stored : ((new baseTtl).run events).entries key = some entry) : entry.payload.Blocks := by
  have block {part : RequestKind} {content : Bytes} (isPart : part = .head ∨ part = .body)
      (found : contentFor entry.payload part = some content) : Block content :=
    captured.block (within_run entry stored part isPart content found)
  generalize entry.payload = payload at block ⊢
  cases payload with
  | article number headers body => exact ⟨block (Or.inl rfl) rfl, block (Or.inr rfl) rfl⟩
  | head number headers => exact block (Or.inl rfl) rfl
  | body number body => exact block (Or.inr rfl) rfl
  | _ => trivial

/-- Whatever was merged and forgotten before, the sections of an entry that is found were offered
for this article, and its replies are well-formed responses when these were captured. -/
theorem entry_serves_captured {messageId : MessageId}
    (found : (((new baseTtl).run events).getByCacheKey messageId.withoutBrackets now).1 =
      some entry) :
    entry.payload.Within (Offered events messageId.withoutBrackets) ∧
    (AllCaptured events → ∀ requestKind reply,
      entry.cachedResponseFor requestKind messageId.text = some reply →
        ∃ response : Response requestKind, response.bytes = reply.written) := by
  have stored : ∃ stored, ((new baseTtl).run events).entries messageId.withoutBrackets =
      some stored ∧ stored.payload = entry.payload := by
    unfold getByCacheKey at found
    split at found
    next => cases found
    next stored isStored =>
      split at found <;> cases found
      exact ⟨stored, isStored, rfl⟩
  obtain ⟨stored, isStored, same⟩ := stored
  refine ⟨same ▸ within_run stored isStored, ?_⟩
  intro captured requestKind reply replyEq
  exact exists_response_of_cached (same ▸ captured.blocks isStored) replyEq

def headIngested : List CacheEvent :=
  [⟨shortId.withoutBrackets, 5, .ingest (captured headReply.response headReply.chunks)
    headReply.slot headReply.tier⟩]

theorem headIngested_serves_captured :
    ∃ entry reply, (((new 1000).run headIngested).getByCacheKey shortId.withoutBrackets 6).1 =
        some entry ∧ entry.cachedResponseFor .head shortId.text = some reply ∧
      ∃ response : Response .head, response.bytes = reply.written := by
  have captured : AllCaptured headIngested := by
    rintro event isEvent response slot tier isIngest
    obtain rfl := List.mem_singleton.mp isEvent
    cases isIngest
    exact fun _ => ⟨.head, by decide, _, headReply, rfl⟩
  obtain ⟨entry, reply, found, isReply⟩ : ∃ entry reply, (((new 1000).run
      headIngested).getByCacheKey shortId.withoutBrackets 6).1 = some entry ∧
      entry.cachedResponseFor .head shortId.text = some reply := ⟨_, _, rfl, rfl⟩
  exact ⟨entry, reply, found, isReply, (entry_serves_captured found).2 captured .head reply isReply⟩

end NntpProxy.Cache
