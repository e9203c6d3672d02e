import NntpProxy.Cache.Knowledge

/-!
# The memory cache keeps what is known

An entry in memory lists the providers that miss the article with the times at which they said
so, and a word has a bit for each of them.  The list and the word agree, and what is left of
an entry at any time is what is left of the knowledge that it stands for.
-/

namespace NntpProxy.Cache

open Protocol Router Data Knowledge ArticleAvailability

/-! ## Facts about providers -/

/-- Every provider is listed once. -/
def FactsNodup (facts : List (AvailabilitySlot × UInt64)) : Prop :=
  (facts.map Prod.fst).Nodup

theorem lookup_cons_eq (slot listed : AvailabilitySlot) (since : UInt64)
    (facts : List (AvailabilitySlot × UInt64)) :
    ((listed, since) :: facts).lookup slot =
      if slot = listed then some since else facts.lookup slot := by
  rw [List.lookup_cons]
  split
  next same => rw [if_pos (beq_iff_eq.mp same)]
  next differs => rw [if_neg (beq_eq_false_iff_ne.mp differs)]

variable {facts : List (AvailabilitySlot × UInt64)}

theorem lookup_eq_some_iff (nodup : FactsNodup facts) {slot : AvailabilitySlot} {since : UInt64} :
    facts.lookup slot = some since ↔ (slot, since) ∈ facts := by
  induction facts with
  | nil => simp
  | cons fact facts ih =>
    rcases fact with ⟨listed, listedSince⟩
    rcases List.nodup_cons.mp nodup with ⟨notAgain, nodupRest⟩
    rw [lookup_cons_eq]
    split
    next same =>
      subst same
      have notInRest : (slot, since) ∉ facts :=
        fun inRest => notAgain (List.mem_map.mpr ⟨_, inRest, rfl⟩)
      simp [notInRest, eq_comm]
    next differs => simp [differs, ih nodupRest]

theorem factsNodup_filter (nodup : FactsNodup facts)
    (keep : AvailabilitySlot × UInt64 → Bool) : FactsNodup (facts.filter keep) :=
  nodup.sublist (List.filter_sublist.map Prod.fst)

/-- What is left of the list is what is left of each fact. -/
theorem lookup_filter (nodup : FactsNodup facts) (baseTtl now : UInt64) (slot : AvailabilitySlot) :
    (facts.filter fun fact => !isExpired fact.2 baseTtl 0 now).lookup slot =
      currentFact baseTtl now (facts.lookup slot) := by
  ext since
  rw [lookup_eq_some_iff (factsNodup_filter nodup _), currentFact_eq_some_iff,
    lookup_eq_some_iff nodup, List.mem_filter]
  simp

theorem lookup_recordTimestamp (slot other : AvailabilitySlot) (now : UInt64)
    (facts : List (AvailabilitySlot × UInt64)) :
    (recordTimestamp slot now facts).lookup other =
      Function.update (fun other => facts.lookup other) slot (some now) other := by
  rw [Function.update_apply]
  induction facts with
  | nil => rw [recordTimestamp, lookup_cons_eq]
  | cons fact facts ih =>
    simp only [recordTimestamp]
    split
    next isListed =>
      subst isListed
      rw [lookup_cons_eq, lookup_cons_eq]
      split
      · rfl
      · rfl
    next notListed =>
      rw [lookup_cons_eq, lookup_cons_eq, ih]
      split
      next isListed => rw [if_neg (isListed ▸ notListed)]
      · rfl

theorem slots_recordTimestamp (slot : AvailabilitySlot) (now : UInt64)
    (facts : List (AvailabilitySlot × UInt64)) :
    (recordTimestamp slot now facts).map Prod.fst =
      if slot ∈ facts.map Prod.fst then facts.map Prod.fst else facts.map Prod.fst ++ [slot] := by
  induction facts with
  | nil => simp [recordTimestamp]
  | cons fact facts ih =>
    simp only [recordTimestamp]
    split
    next isListed => simp [isListed]
    next notListed =>
      simp only [List.map_cons, ih, List.mem_cons, Ne.symm notListed, false_or]
      split
      · rfl
      · rfl

theorem factsNodup_recordTimestamp (nodup : FactsNodup facts) (slot : AvailabilitySlot)
    (now : UInt64) : FactsNodup (recordTimestamp slot now facts) := by
  rw [FactsNodup, slots_recordTimestamp]
  split
  · exact nodup
  next notListed => exact List.nodup_append.mpr ⟨nodup, List.nodup_singleton slot, by
      rintro _ inFacts _ isSlot rfl
      exact notListed (List.mem_singleton.mp isSlot ▸ inFacts)⟩

/-! ## Entries -/

namespace CachedArticle

/-- What an entry stands for. -/
def knowledge (entry : CachedArticle) : Knowledge where
  status := entry.statusCode
  payload := entry.payload
  tier := entry.tier
  since := entry.insertedAt
  missing := fun slot => entry.negativeTimestamps.lookup slot

/-- The word has a bit for the providers on the list, and each is listed once. -/
structure Valid (entry : CachedArticle) : Prop where
  nodup : FactsNodup entry.negativeTimestamps
  listed : ∀ slot, entry.backendAvailability.isMissingSlot slot =
    (entry.knowledge.missing slot).isSome

theorem valid_of_no_facts {entry : CachedArticle}
    (noFacts : entry.backendAvailability = .new ∧ entry.negativeTimestamps = []) : entry.Valid := by
  constructor
  · rw [noFacts.2]
    exact List.nodup_nil
  · intro slot
    rw [noFacts.1, knowledge, noFacts.2]
    exact BitSet.contains_empty slot

theorem Valid.recordAvailabilityMissing {entry : CachedArticle} (valid : entry.Valid)
    (slot : AvailabilitySlot) (now : UInt64) :
    (entry.recordAvailabilityMissing slot now).Valid := by
  constructor
  · exact factsNodup_recordTimestamp valid.nodup slot now
  · intro other
    have fact : (entry.recordAvailabilityMissing slot now).knowledge.missing other =
        Function.update entry.knowledge.missing slot (some now) other :=
      lookup_recordTimestamp slot other now entry.negativeTimestamps
    rw [fact, Function.update_apply, CachedArticle.recordAvailabilityMissing,
      isMissingSlot_recordMissingSlot, valid.listed]
    by_cases same : other = slot
    · simp [same]
    · simp [same]

section Expiry

variable {entry : CachedArticle} (valid : entry.Valid) (baseTtl now : UInt64)
include valid

theorem Valid.missing_expireStaleAvailability (slot : AvailabilitySlot) :
    (entry.expireStaleAvailability baseTtl now).knowledge.missing slot =
      currentFact baseTtl now (entry.knowledge.missing slot) :=
  lookup_filter valid.nodup baseTtl now slot

theorem Valid.expireStaleAvailability : (entry.expireStaleAvailability baseTtl now).Valid := by
  constructor
  · exact factsNodup_filter valid.nodup _
  · intro slot
    rw [valid.missing_expireStaleAvailability, isMissingSlot,
      CachedArticle.expireStaleAvailability, ← List.foldl_map, BitSet.contains_foldl_erase]
    have bit := valid.listed slot
    rw [isMissingSlot] at bit
    rw [bit]
    cases fact : entry.knowledge.missing slot with
    | none => rfl
    | some since =>
      have stale : slot ∈ (entry.negativeTimestamps.filter
          fun fact => Cache.isExpired fact.2 baseTtl 0 now).map Prod.fst ↔
          Cache.isExpired since baseTtl 0 now = true := by
        rw [List.mem_map]
        constructor
        · rintro ⟨⟨listed, listedSince⟩, inStale, rfl⟩
          rcases List.mem_filter.mp inStale with ⟨inFacts, expired⟩
          have sameFact := (lookup_eq_some_iff valid.nodup).mpr inFacts
          rw [← Option.some.inj (fact.symm.trans sameFact)] at expired
          exact expired
        · intro expired
          have inFacts := (lookup_eq_some_iff valid.nodup).mp fact
          exact ⟨_, List.mem_filter.mpr ⟨inFacts, expired⟩, rfl⟩
      simp only [stale, currentFact, Option.filter_some]
      cases Cache.isExpired since baseTtl 0 now with
      | true => rfl
      | false => rfl

theorem Valid.knowledge_freshEntry :
    (freshEntryForMutation (some entry) baseTtl now).map knowledge =
      entry.knowledge.current baseTtl now := by
  have leftEq : (entry.expireStaleAvailability baseTtl now).knowledge =
      { entry.knowledge with
        missing := fun slot =>
          currentFact baseTtl now (entry.knowledge.missing slot) } := by
    rw [← funext (valid.missing_expireStaleAvailability baseTtl now)]
    rfl
  cases expired : entry.isExpired baseTtl now with
  | true =>
    have gone : freshEntryForMutation (some entry) baseTtl now = none := if_pos expired
    rw [gone]
    exact (if_pos expired).symm
  | false =>
    rw [freshEntry_of_alive expired, Option.map_some, leftEq, current,
      if_neg (by rw [Bool.not_eq_true]; exact expired)]

theorem Valid.freshEntry {left : CachedArticle}
    (leftEq : freshEntryForMutation (some entry) baseTtl now = some left) : left.Valid := by
  rw [freshEntryForMutation, Option.ite_none_left_eq_some, Option.some.injEq] at leftEq
  exact leftEq.2 ▸ valid.expireStaleAvailability baseTtl now

end Expiry

theorem isComplete_knowledge (entry : CachedArticle) :
    entry.knowledge.isComplete = entry.isCompleteArticle := by
  by_cases isArticle : entry.statusCode.value = 220
  · simp only [isComplete, isCompleteArticle, knowledge, isArticle]
    cases entry.payload <;> rfl
  · simp [isComplete, isCompleteArticle, knowledge, isArticle]

theorem yieldsTo_knowledge (entry other : CachedArticle) :
    entry.knowledge.yieldsTo other.knowledge = entry.shouldReplace other := by
  rw [yieldsTo, isComplete_knowledge, isComplete_knowledge, shouldReplace]
  cases entry.isCompleteArticle with
  | true => cases other.isCompleteArticle <;> rfl
  | false => cases other.isCompleteArticle <;> rfl

end CachedArticle

/-! ## Operations -/

open CachedArticle

variable {now : UInt64}

theorem knowledge_mergeIngestEntry {maybeEntry : Option CachedArticle} {baseTtl : UInt64}
    (valid : ∀ entry ∈ freshEntryForMutation maybeEntry baseTtl now, entry.Valid)
    (template : CachedArticle) (insertedNow : template.insertedAt = now) (slot : AvailabilitySlot) :
    (mergeIngestEntry maybeEntry template slot baseTtl now).knowledge =
      hear ((freshEntryForMutation maybeEntry baseTtl now).map knowledge) slot
        template.knowledge ingest := by
  rw [mergeIngestEntry]
  cases fresh : freshEntryForMutation maybeEntry baseTtl now with
  | none => rfl
  | some entry =>
    simp only [Option.map_some, hear]
    rw [← (valid entry fresh).listed slot]
    split
    · rfl
    · cases mergedEq : mergedSections entry.payload template.payload with
      | some payload =>
        have sectionsEq : mergedSections entry.knowledge.payload template.knowledge.payload =
            some payload :=
          mergedEq
        rw [mergeCompatibleSections, mergedEq, ingest, sectionsEq, ← insertedNow]
        rfl
      | none =>
        have sectionsEq : mergedSections entry.knowledge.payload template.knowledge.payload =
            none :=
          mergedEq
        rw [mergeCompatibleSections, mergedEq, ingest, sectionsEq]
        simp only [yieldsTo_knowledge, Option.map_none]
        split
        · rw [← insertedNow]
          rfl
        · rfl

variable {template : CachedArticle}

theorem knowledge_confirmEntry {fresh : Option CachedArticle} (valid : ∀ entry ∈ fresh, entry.Valid)
    (noFacts : template.backendAvailability = .new) (insertedNow : template.insertedAt = now)
    (slot : AvailabilitySlot) :
    (confirmEntry (fresh.getD template) template slot now).knowledge =
      hear (fresh.map knowledge) slot template.knowledge confirm := by
  subst insertedNow
  cases fresh with
  | none =>
    have notMissing : template.backendAvailability.isMissingSlot slot = false := by
      rw [noFacts]
      exact BitSet.contains_empty slot
    simp only [Option.getD_none, confirmEntry, notMissing]
    rw [if_neg Bool.false_ne_true]
    split
    · rfl
    · rfl
  | some entry =>
    simp only [Option.getD_some, Option.map_some, hear, confirmEntry]
    rw [← (valid entry rfl).listed slot]
    split
    · rfl
    · rw [confirm]
      change _ = if entry.payload.isMarker then _ else _
      split
      · rfl
      · rfl

theorem knowledge_mergeAvailabilityMissingEntry (maybeEntry : Option CachedArticle)
    (baseTtl now : UInt64) (slot : AvailabilitySlot) :
    some (mergeAvailabilityMissingEntry maybeEntry slot baseTtl now).knowledge =
      observe now ((freshEntryForMutation maybeEntry baseTtl now).map knowledge)
        (.missing slot) := by
  have recorded : ∀ entry : CachedArticle,
      (entry.recordAvailabilityMissing slot now).knowledge =
        { entry.knowledge with
          missing := Function.update entry.knowledge.missing slot (some now) } := by
    intro entry
    have facts : (entry.recordAvailabilityMissing slot now).knowledge.missing =
        Function.update entry.knowledge.missing slot (some now) :=
      funext fun other => lookup_recordTimestamp slot other now entry.negativeTimestamps
    rw [← facts]
    rfl
  rw [mergeAvailabilityMissingEntry, recorded]
  cases freshEntryForMutation maybeEntry baseTtl now with
  | none => rfl
  | some entry => rfl

section Step

variable {baseTtl : UInt64} {maybeEntry : Option CachedArticle}
  (valid : ∀ entry ∈ maybeEntry, entry.Valid)
include valid

theorem valid_freshEntry (now : UInt64) :
    ∀ entry ∈ freshEntryForMutation maybeEntry baseTtl now, entry.Valid := by
  intro left leftEq
  cases maybeEntry with
  | none => cases leftEq
  | some entry => exact (valid entry rfl).freshEntry baseTtl now leftEq

theorem valid_mergeIngestEntry (templateValid : template.Valid) (slot : AvailabilitySlot)
    (now : UInt64) :
    (mergeIngestEntry maybeEntry template slot baseTtl now).Valid := by
  unfold mergeIngestEntry
  cases fresh : freshEntryForMutation maybeEntry baseTtl now with
  | none => exact templateValid
  | some entry =>
    have entryValid := valid_freshEntry valid now entry fresh
    simp only
    split
    · exact entryValid
    · cases mergedEq : entry.mergeCompatibleSections template now with
      | some merged =>
        rcases Option.map_eq_some_iff.mp mergedEq with ⟨payload, -, rfl⟩
        exact ⟨entryValid.nodup, entryValid.listed⟩
      | none =>
        simp only
        split
        · exact ⟨entryValid.nodup, entryValid.listed⟩
        · exact entryValid

theorem valid_confirmEntry (templateValid : template.Valid) (slot : AvailabilitySlot)
    (now : UInt64) :
    (confirmEntry ((freshEntryForMutation maybeEntry baseTtl now).getD template) template slot
      now).Valid := by
  have entryValid : ((freshEntryForMutation maybeEntry baseTtl now).getD template).Valid := by
    cases fresh : freshEntryForMutation maybeEntry baseTtl now with
    | none => exact templateValid
    | some entry => exact valid_freshEntry valid now entry fresh
  unfold confirmEntry
  split
  · exact entryValid
  · split
    · exact ⟨entryValid.nodup, entryValid.listed⟩
    · exact ⟨entryValid.nodup, entryValid.listed⟩

/-- Facts about providers stay as they are, or one is recorded. -/
theorem valid_nextEntry (now : UInt64) (operation : CacheOperation) :
    ∀ entry ∈ nextEntry baseTtl maybeEntry now operation, entry.Valid := by
  cases operation with
  | ingest response slot tier =>
    rintro entry ⟨⟩
    exact valid_mergeIngestEntry valid (valid_of_no_facts ⟨rfl, rfl⟩) slot now
  | hasStatus status slot tier =>
    rintro entry ⟨⟩
    exact valid_confirmEntry valid (valid_of_no_facts ⟨rfl, rfl⟩) slot now
  | stat slot tier =>
    rintro entry ⟨⟩
    exact valid_confirmEntry valid (valid_of_no_facts ⟨rfl, rfl⟩) slot now
  | missing slot =>
    rintro entry ⟨⟩
    apply Valid.recordAvailabilityMissing
    cases fresh : freshEntryForMutation maybeEntry baseTtl now with
    | none => exact valid_of_no_facts ⟨rfl, rfl⟩
    | some entry => exact valid_freshEntry valid now entry fresh
  | get =>
    intro entry kept
    rcases Option.bind_eq_some_iff.mp kept with ⟨stored, storedEq, keptEq⟩
    rw [Option.ite_none_left_eq_some] at keptEq
    exact valid entry (storedEq.trans keptEq.2)

theorem knowledge_freshEntry (now : UInt64) :
    (freshEntryForMutation maybeEntry baseTtl now).map knowledge =
      (maybeEntry.map knowledge).bind (current baseTtl now) := by
  cases maybeEntry with
  | none => rfl
  | some entry => exact (valid entry rfl).knowledge_freshEntry baseTtl now

theorem knowledge_nextEntry {later : UInt64} (order : now ≤ later) (operation : CacheOperation) :
    ((nextEntry baseTtl maybeEntry now operation).map knowledge).bind
        (current baseTtl later) =
      (observe now ((maybeEntry.map knowledge).bind (current baseTtl now))
        operation).bind (current baseTtl later) := by
  have freshValid : ∀ entry ∈ freshEntryForMutation maybeEntry baseTtl now, entry.Valid :=
    valid_freshEntry valid now
  rw [← knowledge_freshEntry valid]
  cases operation with
  | ingest response slot tier =>
    congr 1
    exact congrArg some (knowledge_mergeIngestEntry freshValid _ rfl slot)
  | hasStatus status slot tier =>
    congr 1
    exact congrArg some (knowledge_confirmEntry freshValid rfl rfl slot)
  | stat slot tier =>
    congr 1
    exact congrArg some (knowledge_confirmEntry freshValid rfl rfl slot)
  | missing slot =>
    congr 1
    exact knowledge_mergeAvailabilityMissingEntry maybeEntry baseTtl now slot
  | get =>
    -- A lookup drops an entry that expired and nothing else.
    rw [observe, knowledge_freshEntry valid]
    cases maybeEntry with
    | none => rfl
    | some entry =>
      simp only [nextEntry, Option.bind_some, Option.map_some]
      rw [bind_current_current order]
      split
      next expired =>
        symm
        exact if_pos (isExpired_mono expired order)
      · rfl

end Step

/-! ## The cache -/

/-- What a cache stands for. -/
def ArticleCache.knowledge (cache : ArticleCache) (key : Bytes) : Option Knowledge :=
  (cache.entries key).map CachedArticle.knowledge

/-- Every entry is valid. -/
def ArticleCache.Valid (baseTtl : UInt64) (cache : ArticleCache) : Prop :=
  cache.ttlMillis = baseTtl ∧ ∀ key, ∀ entry ∈ cache.entries key, entry.Valid

variable (baseTtl : UInt64)

theorem articleCache_realizes :
    (articleKnowledge baseTtl).Realizes ArticleCache.knowledge ArticleCache.apply
      (ArticleCache.Valid baseTtl) (fun _ => True) where
  keeps := by
    rintro cache event - ⟨rfl, valid⟩
    refine ⟨cache.ttlMillis_apply event, fun key => ?_⟩
    rw [ArticleCache.entries_apply, Function.update_apply]
    split
    · exact valid_nextEntry (valid event.key) event.now event.operation
    · exact valid key
  sees := by
    rintro cache event - ⟨rfl, valid⟩ later order
    funext key
    rw [fade_articleKnowledge, fade_articleKnowledge, next_articleKnowledge,
      ArticleCache.knowledge, ArticleCache.entries_apply, Function.update_apply,
      Function.update_apply]
    split
    · exact knowledge_nextEntry (valid event.key) order event.operation
    · exact (congrFun ((articleKnowledge cache.ttlMillis).fade_fade order cache.knowledge)
        key).symm

namespace ArticleCache

/-- A lookup returns what is left of the entry. -/
theorem getByCacheKey_eq (cache : ArticleCache) (key : Bytes) (now : UInt64) :
    (cache.getByCacheKey key now).1 =
      freshEntryForMutation (cache.entries key) cache.ttlMillis now := by
  unfold getByCacheKey
  cases cache.entries key with
  | none => rfl
  | some entry =>
    simp only [freshEntryForMutation]
    change _ = if entry.isExpired cache.ttlMillis now then none else _
    split
    · rfl
    · rfl

theorem valid_new : (new baseTtl).Valid baseTtl :=
  ⟨rfl, fun _ _ isEntry => nomatch isEntry⟩

theorem valid_run (events : List CacheEvent) : ((new baseTtl).run events).Valid baseTtl :=
  (articleCache_realizes baseTtl).valid_foldl (fun _ _ => trivial) (valid_new baseTtl)

/-- A lookup returns what is known. -/
theorem knowledge_get {events : List CacheEvent}
    (ordered : (articleKnowledge baseTtl).Ordered events)
    (past : (articleKnowledge baseTtl).Until events now) (key : Bytes) :
    ((((new baseTtl).run events).getByCacheKey key now).1).map CachedArticle.knowledge =
      ((articleKnowledge baseTtl).run (fun _ => none) events key).bind
        (current baseTtl now) := by
  have valid := valid_run baseTtl events
  have known := congrFun ((articleCache_realizes baseTtl).fade_foldl (fun _ _ => trivial)
    (valid_new baseTtl) ordered past) key
  rw [getByCacheKey_eq, knowledge_freshEntry (valid.2 key), valid.1]
  exact known

theorem valid_get (events : List CacheEvent) (now : UInt64) (key : Bytes) :
    ∀ entry ∈ (((new baseTtl).run events).getByCacheKey key now).1, entry.Valid := by
  rw [getByCacheKey_eq]
  exact valid_freshEntry ((valid_run baseTtl events).2 key) now

end ArticleCache

end NntpProxy.Cache
