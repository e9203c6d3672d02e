import NntpProxy.Cache.Article
import NntpProxy.Data.Fading

/-!
# What a cache knows

Without regard to how a cache stores it, what is known about an article is a response, how
long it is worth keeping, and since when each provider is known to miss the article.  Such
knowledge fades: a fact about a provider after the lifetime of a fact, and everything after
the lifetime of the response.  Providers that are known to miss an article are not listened
to otherwise.
-/

namespace NntpProxy.Cache

open Protocol Router Data

/-- What is known about an article. -/
structure Knowledge where
  status : StatusCode
  payload : CachedPayload
  tier : UInt8
  since : UInt64
  missing : AvailabilitySlot → Option UInt64

variable {now baseTtl : UInt64}

namespace Knowledge

/-- What is left of a fact about a provider. -/
def currentFact (baseTtl now : UInt64) (fact : Option UInt64) : Option UInt64 :=
  fact.filter fun since => !isExpired since baseTtl 0 now

/-- What is left of knowledge at a time. -/
def current (baseTtl now : UInt64) (knowledge : Knowledge) : Option Knowledge :=
  if isExpired knowledge.since baseTtl knowledge.tier now then none
  else
    some { knowledge with missing := fun slot => currentFact baseTtl now (knowledge.missing slot) }

/-- The response is an article with some octets. -/
def isComplete (knowledge : Knowledge) : Bool :=
  knowledge.status.value == 220 &&
    match knowledge.payload with
    | .article _ headers body => !headers.isEmpty || !body.isEmpty
    | _ => false

section

variable (knowledge offer : Knowledge)

/-- A complete article is worth more than anything else; otherwise length decides, and between
payloads of the same length what they answer. -/
def yieldsTo : Bool :=
  if knowledge.isComplete = offer.isComplete then
    !keepSameCompleteness knowledge.payload offer.payload
  else offer.isComplete

/-- Take the offered response instead. -/
def replace : Knowledge :=
  { offer with missing := knowledge.missing }

/-- A response was offered: its sections are put to the known ones, or the better one stays. -/
def ingest : Knowledge :=
  match mergedSections knowledge.payload offer.payload with
  | some payload =>
    { knowledge with
      status := articleStatus
      payload := payload
      tier := max knowledge.tier offer.tier
      since := offer.since }
  | none => if knowledge.yieldsTo offer then knowledge.replace offer else knowledge

/-- A provider has the article: what is known is worth keeping for longer. -/
def confirm : Knowledge :=
  if knowledge.payload.isMarker then knowledge.replace offer
  else { knowledge with since := offer.since }

end

/-- A provider offers what is new if nothing is known, or a change of what is known; unless
it is known to miss the article. -/
def hear (known : Option Knowledge) (slot : AvailabilitySlot) (offer : Knowledge)
    (change : Knowledge → Knowledge → Knowledge) : Knowledge :=
  match known with
  | none => offer
  | some knowledge => if (knowledge.missing slot).isSome then knowledge else change knowledge offer

/-- A response without facts about providers. -/
def ofResponse (status : StatusCode) (payload : CachedPayload) (tier : UInt8) (now : UInt64) :
    Knowledge :=
  ⟨status, payload, tier, now, fun _ => none⟩

/-- What an operation makes of what is known at its time. -/
def observe (now : UInt64) (known : Option Knowledge) : CacheOperation → Option Knowledge
  | .ingest response slot tier =>
    some (hear known slot
      (ofResponse response.status (parseFramedChunkedPayload response) tier now) ingest)
  | .hasStatus status slot tier =>
    some (hear known slot (ofResponse status .availabilityOnly tier now) confirm)
  | .stat slot tier =>
    some (hear known slot (ofResponse statStatus (.stat none) tier now) confirm)
  | .missing slot =>
    let knowledge := known.getD (ofResponse missingStatus .missing 0 now)
    some { knowledge with missing := Function.update knowledge.missing slot (some now) }
  | .get => known

/-! ## Fading -/

@[simp]
theorem currentFact_none (baseTtl now : UInt64) : currentFact baseTtl now none = none :=
  rfl

theorem currentFact_some (baseTtl now since : UInt64) :
    currentFact baseTtl now (some since) =
      if isExpired since baseTtl 0 now then none else some since := by
  rw [currentFact, Option.filter_some]
  cases isExpired since baseTtl 0 now with
  | true => rfl
  | false => rfl

theorem currentFact_eq_some_iff {fact : Option UInt64} {since : UInt64} :
    currentFact baseTtl now fact = some since ↔
      fact = some since ∧ isExpired since baseTtl 0 now = false := by
  simp [currentFact]

theorem currentFact_currentFact {later : UInt64} (order : now ≤ later) (fact : Option UInt64) :
    currentFact baseTtl later (currentFact baseTtl now fact) = currentFact baseTtl later fact := by
  ext since
  simp only [currentFact_eq_some_iff, and_assoc, and_congr_right_iff, and_iff_right_iff_imp]
  intro _ alive
  by_contra expired
  rw [isExpired_mono (Bool.not_eq_false _ ▸ expired) order] at alive
  cases alive

theorem current_eq_some_iff {knowledge left : Knowledge} :
    knowledge.current baseTtl now = some left ↔
      isExpired knowledge.since baseTtl knowledge.tier now = false ∧
        left = { knowledge with
          missing := fun slot => currentFact baseTtl now (knowledge.missing slot) } := by
  rw [current, Option.ite_none_left_eq_some, Bool.not_eq_true, Option.some.injEq]
  exact and_congr_right fun _ => eq_comm

theorem bind_current_current {later : UInt64} (order : now ≤ later) (knowledge : Knowledge) :
    (knowledge.current baseTtl now).bind (current baseTtl later) =
      knowledge.current baseTtl later := by
  cases expired : isExpired knowledge.since baseTtl knowledge.tier now with
  | true =>
    rw [current, if_pos expired, current, if_pos (isExpired_mono expired order)]
    rfl
  | false =>
    rw [current, if_neg (by simp [expired]), Option.bind_some]
    simp only [current, currentFact_currentFact order]

/-! ## What an operation changes -/

/-- The facts about providers behind an operation. -/
def factsBehind (now : UInt64) (facts : AvailabilitySlot → Option UInt64) :
    CacheOperation → AvailabilitySlot → Option UInt64
  | .missing slot => Function.update facts slot (some now)
  | _ => facts

theorem factsBehind_eq_some {since : UInt64} {facts : AvailabilitySlot → Option UInt64}
    {operation : CacheOperation} {slot : AvailabilitySlot}
    (fact : factsBehind now facts operation slot = some since) :
    operation = .missing slot ∧ since = now ∨
      operation ≠ .missing slot ∧ facts slot = some since := by
  cases operation with
  | missing other =>
    rw [factsBehind, Function.update_apply] at fact
    split at fact
    next same => exact Or.inl ⟨by rw [same], (Option.some.inj fact).symm⟩
    next differs => exact Or.inr ⟨fun same => differs (by cases same; rfl), fact⟩
  | _ => exact Or.inr ⟨nofun, fact⟩

/-- What is known now comes from before, with the same lifetime or a new one. -/
structure Renewed (now : UInt64) (before after : Knowledge) : Prop where
  facts : after.missing = before.missing
  lifetime : after.since = now ∨ after.since = before.since ∧ after.tier = before.tier

theorem renewed_ingest (knowledge offer : Knowledge) :
    Renewed offer.since knowledge (knowledge.ingest offer) := by
  unfold ingest
  split
  · exact ⟨rfl, Or.inl rfl⟩
  · split
    · exact ⟨rfl, Or.inl rfl⟩
    · exact ⟨rfl, Or.inr ⟨rfl, rfl⟩⟩

theorem renewed_confirm (knowledge offer : Knowledge) :
    Renewed offer.since knowledge (knowledge.confirm offer) := by
  unfold confirm
  split
  · exact ⟨rfl, Or.inl rfl⟩
  · exact ⟨rfl, Or.inl rfl⟩

/-- Where something is known, an operation renews it and records at most its own fact. -/
theorem observe_some (now : UInt64) (knowledge : Knowledge) (operation : CacheOperation) :
    ∃ after, observe now (some knowledge) operation = some after ∧
      after.missing = factsBehind now knowledge.missing operation ∧
      (after.since = now ∨ after.since = knowledge.since ∧ after.tier = knowledge.tier) := by
  have heard : ∀ slot (offer : Knowledge) (change : Knowledge → Knowledge → Knowledge),
      Renewed now knowledge (change knowledge offer) →
      Renewed now knowledge (hear (some knowledge) slot offer change) := by
    intro slot offer change renewed
    simp only [hear]
    split
    · exact ⟨rfl, Or.inr ⟨rfl, rfl⟩⟩
    · exact renewed
  cases operation with
  | ingest response slot tier =>
    have renewed := heard slot _ ingest (renewed_ingest knowledge
      (ofResponse response.status (parseFramedChunkedPayload response) tier now))
    exact ⟨_, rfl, renewed.facts, renewed.lifetime⟩
  | hasStatus status slot tier =>
    have renewed := heard slot _ confirm (renewed_confirm knowledge
      (ofResponse status .availabilityOnly tier now))
    exact ⟨_, rfl, renewed.facts, renewed.lifetime⟩
  | stat slot tier =>
    have renewed := heard slot _ confirm (renewed_confirm knowledge
      (ofResponse statStatus (.stat none) tier now))
    exact ⟨_, rfl, renewed.facts, renewed.lifetime⟩
  | missing slot => exact ⟨_, rfl, rfl, Or.inr ⟨rfl, rfl⟩⟩
  | get => exact ⟨_, rfl, rfl, Or.inr ⟨rfl, rfl⟩⟩

/-- Where nothing is known, an operation other than a lookup brings something new. -/
theorem observe_none {operation : CacheOperation} {after : Knowledge}
    (observed : observe now none operation = some after) :
    after.missing = factsBehind now (fun _ => none) operation ∧ after.since = now := by
  cases operation with
  | get => cases observed
  | _ =>
    obtain rfl := Option.some.inj observed
    exact ⟨rfl, rfl⟩

end Knowledge

/-- What is known about articles, as a machine. -/
def articleKnowledge (baseTtl : UInt64) :
    Fading UInt64 CacheEvent (Bytes → Option Knowledge) where
  fade now known key := (known key).bind (Knowledge.current baseTtl now)
  fade_fade := by
    intro now later order known
    funext key
    change ((known key).bind _).bind _ = (known key).bind _
    cases known key with
    | none => rfl
    | some knowledge => exact Knowledge.bind_current_current order knowledge
  time := CacheEvent.now
  next event known :=
    Function.update known event.key
      (Knowledge.observe event.now (known event.key) event.operation)

@[simp]
theorem fade_articleKnowledge (baseTtl now : UInt64) (known : Bytes → Option Knowledge)
    (key : Bytes) :
    (articleKnowledge baseTtl).fade now known key =
      (known key).bind (Knowledge.current baseTtl now) :=
  rfl

@[simp]
theorem time_articleKnowledge (baseTtl : UInt64) (event : CacheEvent) :
    (articleKnowledge baseTtl).time event = event.now :=
  rfl

theorem next_articleKnowledge (baseTtl : UInt64) (event : CacheEvent)
    (known : Bytes → Option Knowledge) :
    (articleKnowledge baseTtl).next event known =
      Function.update known event.key
        (Knowledge.observe event.now (known event.key) event.operation) :=
  rfl

end NntpProxy.Cache
