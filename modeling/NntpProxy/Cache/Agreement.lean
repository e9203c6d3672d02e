import NntpProxy.Cache.Expiry
import NntpProxy.Cache.Hybrid

/-!
# The two caches agree

The cache on disk keeps what is known just as the one in memory does, so a lookup finds the
same in both.
-/

namespace NntpProxy.Cache

open Protocol Router Data HybridArticleCache ArticleAvailability

/-! ## Entries on disk -/

variable (entry : DiskCachedArticle)

namespace DiskCachedArticle

/-- What an entry stands for. -/
def knowledge (entry : DiskCachedArticle) : Knowledge where
  status := entry.statusCode.statusCode
  payload := entry.payload
  tier := entry.tier
  since := entry.timestamp
  missing := fun slot =>
    if entry.availability.isMissingSlot slot then some (entry.negativeTimestamps slot) else none

theorem isSome_missing_knowledge (slot : AvailabilitySlot) :
    (entry.knowledge.missing slot).isSome = entry.availability.isMissingSlot slot := by
  simp only [knowledge]
  split
  next isMissing => rw [isMissing]; rfl
  next notMissing => rw [Bool.not_eq_true _ |>.mp notMissing]; rfl

theorem missing_expireStaleAvailability (baseTtl now : UInt64) (slot : AvailabilitySlot) :
    (entry.expireStaleAvailability baseTtl now).knowledge.missing slot =
      Knowledge.currentFact baseTtl now (entry.knowledge.missing slot) := by
  simp only [knowledge, expireStaleAvailability, isMissingSlot,
    BitSet.contains_foldl_erase, List.mem_filter, List.mem_finRange, true_and]
  rcases Bool.eq_false_or_eq_true (entry.availability.missing.contains slot) with
    isMissing | notMissing
  · cases expired : Cache.isExpired (entry.negativeTimestamps slot) baseTtl 0 now with
    | true => simp [Knowledge.currentFact_some, isMissing, expired]
    | false => simp [Knowledge.currentFact_some, isMissing, expired]
  · simp [notMissing]

theorem knowledge_current (baseTtl now : UInt64) :
    (if (entry.expireStaleAvailability baseTtl now).isExpired baseTtl now then none
      else some (entry.expireStaleAvailability baseTtl now)).map knowledge =
      entry.knowledge.current baseTtl now := by
  have leftEq : (entry.expireStaleAvailability baseTtl now).knowledge =
      { entry.knowledge with
        missing := fun slot =>
          Knowledge.currentFact baseTtl now (entry.knowledge.missing slot) } := by
    rw [← funext (entry.missing_expireStaleAvailability baseTtl now)]
    rfl
  change (if entry.isExpired baseTtl now then none else _).map _ =
    if entry.isExpired baseTtl now then none else _
  split
  · rfl
  · rw [Option.map_some, leftEq]

theorem knowledge_setAvailabilityEpoch (epoch : UInt64) (entry : DiskCachedArticle) :
    (entry.setAvailabilityEpoch epoch).knowledge = entry.knowledge :=
  rfl

theorem knowledge_ofPayload (statusCode : CacheableStatusCode) (payload : CachedPayload)
    (tier : UInt8) (now : UInt64) :
    (ofPayload statusCode payload tier now).knowledge =
      .ofResponse statusCode.statusCode payload tier now := by
  simp [knowledge, ofPayload, Knowledge.ofResponse, ArticleAvailability.isMissingSlot,
    ArticleAvailability.new]

theorem isComplete_knowledge :
    entry.knowledge.isComplete = entry.isCompleteArticle := by
  by_cases isArticle : entry.statusCode.asU16 = 220
  · simp only [Knowledge.isComplete, isCompleteArticle, knowledge,
      CacheableStatusCode.statusCode, isArticle]
    cases entry.payload <;> rfl
  · simp [Knowledge.isComplete, isCompleteArticle, knowledge, CacheableStatusCode.statusCode,
      isArticle]

theorem yieldsTo_knowledge (entry other : DiskCachedArticle) :
    entry.knowledge.yieldsTo other.knowledge = !entry.keepExisting other := by
  rw [Knowledge.yieldsTo, isComplete_knowledge, isComplete_knowledge, keepExisting]
  cases entry.isCompleteArticle with
  | true => cases other.isCompleteArticle <;> rfl
  | false => cases other.isCompleteArticle <;> rfl

end DiskCachedArticle

/-! ## Operations -/

open DiskCachedArticle

/-- What an operation stores stands for what is known behind it; an operation that stores
nothing changes nothing. -/
def Stores (cache after : HybridArticleCache) (key : Bytes) (known observed : Option Knowledge) :
    Prop :=
  after = cache ∧ observed = known ∨
    ∃ entry, after = cache.insert key entry ∧
      entry.availabilityEpoch = cache.availabilityEpoch ∧ observed = some entry.knowledge

namespace HybridArticleCache

/-- Every entry is of the present epoch. -/
def Valid (baseTtl : UInt64) (cache : HybridArticleCache) : Prop :=
  cache.ttlMillis = baseTtl ∧
    ∀ key, ∀ entry ∈ cache.entries key, entry.availabilityEpoch = cache.availabilityEpoch

/-- What a cache stands for. -/
def knowledge (cache : HybridArticleCache) (key : Bytes) : Option Knowledge :=
  (cache.entries key).map DiskCachedArticle.knowledge

variable {baseTtl : UInt64} {cache : HybridArticleCache}

theorem knowledge_getFreshEntry (valid : cache.Valid baseTtl) (key : Bytes) (now : UInt64) :
    (cache.getFreshEntryForMutation key now).map DiskCachedArticle.knowledge =
      (cache.knowledge key).bind (Knowledge.current baseTtl now) := by
  rcases valid with ⟨rfl, epochs⟩
  unfold getFreshEntryForMutation knowledge
  cases stored : cache.entries key with
  | none => rfl
  | some entry =>
    simp only [epochs key entry stored, ne_eq]
    exact entry.knowledge_current cache.ttlMillis now

variable (cache)

theorem stores_recordPositive (key : Bytes) (slot : AvailabilitySlot) (now : UInt64)
    {fresh : DiskCachedArticle} {update : DiskCachedArticle → DiskCachedArticle}
    {change : Knowledge → Knowledge → Knowledge}
    (updates : ∀ entry, (update entry).knowledge = change entry.knowledge fresh.knowledge) :
    Stores cache (cache.recordPositive key slot now fresh update) key
      ((cache.getFreshEntryForMutation key now).map DiskCachedArticle.knowledge)
      (some (Knowledge.hear
        ((cache.getFreshEntryForMutation key now).map DiskCachedArticle.knowledge) slot
        fresh.knowledge change)) := by
  unfold recordPositive
  cases cache.getFreshEntryForMutation key now with
  | none => exact Or.inr ⟨_, rfl, rfl, rfl⟩
  | some existing =>
    simp only [Option.map_some, Knowledge.hear, isSome_missing_knowledge]
    split
    · exact Or.inl ⟨rfl, rfl⟩
    · exact Or.inr ⟨_, rfl, rfl, by rw [← updates]; rfl⟩

theorem knowledge_confirm {template : DiskCachedArticle} {now : UInt64}
    (isNow : template.timestamp = now) (entry : DiskCachedArticle) :
    (confirm template now entry).knowledge = entry.knowledge.confirm template.knowledge := by
  subst isNow
  unfold confirm Knowledge.confirm
  change _ = if entry.payload.isMarker then _ else _
  split
  · rfl
  · rfl

theorem stores_upsertEntryForSlot (key : Bytes) {entry : DiskCachedArticle}
    (slot : AvailabilitySlot) {now : UInt64} (isNow : entry.timestamp = now) :
    Stores cache (cache.upsertEntryForSlot key entry slot now) key
      ((cache.getFreshEntryForMutation key now).map DiskCachedArticle.knowledge)
      (some (Knowledge.hear
        ((cache.getFreshEntryForMutation key now).map DiskCachedArticle.knowledge) slot
        entry.knowledge Knowledge.ingest)) := by
  subst isNow
  unfold upsertEntryForSlot
  cases cache.getFreshEntryForMutation key entry.timestamp with
  | none => exact Or.inr ⟨_, rfl, rfl, rfl⟩
  | some existing =>
    simp only [Option.map_some, Knowledge.hear, isSome_missing_knowledge]
    split
    · exact Or.inl ⟨rfl, rfl⟩
    · cases mergedEq : mergedSections existing.payload entry.payload with
      | some payload =>
        have sectionsEq : mergedSections existing.knowledge.payload entry.knowledge.payload =
            some payload :=
          mergedEq
        rw [mergeCompatibleSections, mergedEq, Knowledge.ingest, sectionsEq]
        exact Or.inr ⟨_, rfl, rfl, rfl⟩
      | none =>
        have sectionsEq : mergedSections existing.knowledge.payload entry.knowledge.payload =
            none :=
          mergedEq
        rw [mergeCompatibleSections, mergedEq, Knowledge.ingest, sectionsEq]
        simp only [yieldsTo_knowledge]
        cases existing.keepExisting entry with
        | true => exact Or.inl ⟨rfl, rfl⟩
        | false => exact Or.inr ⟨_, rfl, rfl, rfl⟩

theorem stores_recordAvailabilityMissing (key : Bytes) (slot : AvailabilitySlot) (now : UInt64) :
    Stores cache (cache.recordAvailabilityMissing key slot now) key
      ((cache.getFreshEntryForMutation key now).map DiskCachedArticle.knowledge)
      (Knowledge.observe now
        ((cache.getFreshEntryForMutation key now).map DiskCachedArticle.knowledge)
        (.missing slot)) := by
  have recorded : ∀ entry : DiskCachedArticle,
      (entry.recordAvailabilityMissing slot now).knowledge =
        { entry.knowledge with
          missing := Function.update entry.knowledge.missing slot (some now) } := by
    intro entry
    have facts : (entry.recordAvailabilityMissing slot now).knowledge.missing =
        Function.update entry.knowledge.missing slot (some now) := by
      funext other
      simp only [DiskCachedArticle.knowledge, DiskCachedArticle.recordAvailabilityMissing,
        isMissingSlot_recordMissingSlot, Function.update_apply]
      by_cases same : other = slot
      · simp [same]
      · simp [same]
    rw [← facts]
    rfl
  have empty := knowledge_ofPayload .missing .missing 0 now
  refine Or.inr ⟨_, rfl, rfl, ?_⟩
  rw [knowledge_setAvailabilityEpoch, recorded]
  cases cache.getFreshEntryForMutation key now with
  | none =>
    rw [Option.getD_none, DiskCachedArticle.missing, empty]
    rfl
  | some entry => rfl

end HybridArticleCache

/-- The operation has a status that can be cached, if any. -/
def CacheOperation.Cacheable : CacheOperation → Prop
  | .ingest response _ _ => response.status.value ∈ [220, 221, 222, 223, 430]
  | .hasStatus status _ _ => status.value ∈ [220, 221, 222, 223, 430]
  | _ => True

instance (operation : CacheOperation) : Decidable operation.Cacheable :=
  match operation with
  | .ingest .. => inferInstanceAs (Decidable (_ ∈ _))
  | .hasStatus .. => inferInstanceAs (Decidable (_ ∈ _))
  | .stat .. | .missing _ | .get => inferInstanceAs (Decidable True)

theorem exists_cacheableStatusCode {status : StatusCode}
    (cacheable : status.value ∈ [220, 221, 222, 223, 430]) :
    ∃ cacheableStatus : CacheableStatusCode,
      CacheableStatusCode.tryFrom status.value = some cacheableStatus ∧
        cacheableStatus.statusCode = status := by
  rcases status with ⟨value, low, high⟩
  simp only [List.mem_cons, List.not_mem_nil, or_false] at cacheable
  rcases cacheable with rfl | rfl | rfl | rfl | rfl
  · exact ⟨.article, rfl, rfl⟩
  · exact ⟨.head, rfl, rfl⟩
  · exact ⟨.body, rfl, rfl⟩
  · exact ⟨.stat, rfl, rfl⟩
  · exact ⟨.missing, rfl, rfl⟩

namespace HybridArticleCache

variable {baseTtl : UInt64} {cache : HybridArticleCache}

theorem stores_apply (valid : cache.Valid baseTtl) {event : CacheEvent}
    (cacheable : event.operation.Cacheable) :
    Stores cache (cache.apply event) event.key
      ((cache.knowledge event.key).bind (Knowledge.current baseTtl event.now))
      (Knowledge.observe event.now
        ((cache.knowledge event.key).bind (Knowledge.current baseTtl event.now))
        event.operation) := by
  rw [← knowledge_getFreshEntry valid]
  rcases event with ⟨key, now, operation⟩
  cases operation with
  | ingest response slot tier =>
    rcases exists_cacheableStatusCode cacheable with ⟨status, statusEq, valueEq⟩
    have isNow : (ofPayload status (parseFramedChunkedPayload response) tier now).timestamp = now :=
      rfl
    have stored := stores_upsertEntryForSlot cache key slot isNow
    rw [knowledge_ofPayload, valueEq] at stored
    simp only [apply, upsertFramedIngestForSlot, fromFramedChunkedWithTier, statusEq,
      Option.map_some]
    exact stored
  | hasStatus status slot tier =>
    rcases exists_cacheableStatusCode cacheable with ⟨cacheableStatus, statusEq, valueEq⟩
    have updates : ∀ entry : DiskCachedArticle,
        (entry.recordBackendHasStatus cacheableStatus tier now).knowledge =
          entry.knowledge.confirm (availabilityOnly cacheableStatus tier now).knowledge :=
      knowledge_confirm rfl
    have stored := stores_recordPositive cache key slot now updates
    rw [availabilityOnly, knowledge_ofPayload, valueEq] at stored
    simp only [apply, recordHasStatusForSlot, statusEq]
    exact stored
  | stat slot tier =>
    have updates : ∀ entry : DiskCachedArticle,
        (entry.recordBackendStat tier now).knowledge =
          entry.knowledge.confirm (DiskCachedArticle.stat tier now).knowledge :=
      knowledge_confirm rfl
    have stored := stores_recordPositive cache key slot now updates
    rw [DiskCachedArticle.stat, knowledge_ofPayload] at stored
    exact stored
  | missing slot => exact stores_recordAvailabilityMissing cache key slot now
  | get => exact Or.inl ⟨rfl, rfl⟩

end HybridArticleCache

theorem hybridArticleCache_realizes (baseTtl : UInt64) :
    (articleKnowledge baseTtl).Realizes HybridArticleCache.knowledge HybridArticleCache.apply
      (HybridArticleCache.Valid baseTtl) (fun event => event.operation.Cacheable) where
  keeps := by
    intro cache event cacheable valid
    rcases HybridArticleCache.stores_apply valid cacheable with
      ⟨unchanged, -⟩ | ⟨entry, inserted, epochEq, -⟩
    · rw [unchanged]
      exact valid
    · rw [inserted]
      refine ⟨valid.1, fun key stored isStored => ?_⟩
      simp only [HybridArticleCache.insert, Function.update_apply] at isStored
      split at isStored
      · exact Option.some.inj isStored ▸ epochEq
      · exact valid.2 key stored isStored
  sees := by
    intro cache event cacheable valid later order
    funext key
    rw [next_articleKnowledge, time_articleKnowledge, fade_articleKnowledge,
      fade_articleKnowledge, Function.update_apply]
    have unchanged := congrFun ((articleKnowledge baseTtl).fade_fade order cache.knowledge) key
    rcases HybridArticleCache.stores_apply valid cacheable with
      ⟨sameCache, sameKnown⟩ | ⟨entry, inserted, -, observed⟩
    · rw [sameCache]
      split
      next sameKey =>
        subst sameKey
        rw [fade_articleKnowledge, sameKnown]
        exact unchanged.symm
      · exact unchanged.symm
    · have insertedKnowledge : (cache.apply event).knowledge =
          Function.update cache.knowledge event.key (some entry.knowledge) := by
        funext other
        rw [inserted]
        simp only [HybridArticleCache.knowledge, HybridArticleCache.insert, Function.update_apply]
        split
        · rfl
        · rfl
      rw [insertedKnowledge, Function.update_apply]
      split
      · rw [fade_articleKnowledge, observed]
      · exact unchanged.symm

/-! ## Lookups -/

/-- What a lookup tells about an article. -/
structure ArticleReport where
  status : StatusCode
  payload : CachedPayload
  tier : UInt8
  missing : ArticleAvailability
  deriving DecidableEq, Repr

def CachedArticle.report (entry : CachedArticle) : ArticleReport :=
  ⟨entry.statusCode, entry.payload, entry.tier, entry.backendAvailability⟩

theorem report_eq_of_knowledge {entry : CachedArticle} (valid : entry.Valid)
    {onDisk : DiskCachedArticle} (same : entry.knowledge = onDisk.knowledge) :
    entry.report = onDisk.intoCachedArticle.report := by
  have availabilityEq : entry.backendAvailability = onDisk.availability := by
    have bitsEq : entry.backendAvailability.missing = onDisk.availability.missing := by
      apply BitSet.ext_contains
      intro slot
      have listed := valid.listed slot
      rw [same, isSome_missing_knowledge] at listed
      exact listed
    exact congrArg ArticleAvailability.mk bitsEq
  have statusEq : entry.statusCode = onDisk.statusCode.statusCode :=
    congrArg Knowledge.status same
  have payloadEq : entry.payload = onDisk.payload := congrArg Knowledge.payload same
  have tierEq : entry.tier = onDisk.tier := congrArg Knowledge.tier same
  rw [CachedArticle.report, statusEq, payloadEq, tierEq, availabilityEq]
  rfl

/-- After the same operations, whenever an article is looked up, both caches find the same
status, payload and tier and the same missing providers, or both find nothing. -/
theorem caches_agree (baseTtl epoch : UInt64) {events : List CacheEvent}
    (cacheable : ∀ event ∈ events, event.operation.Cacheable) (ordered : InOrder events)
    {now : UInt64} (past : NotAfter events now) (key : Bytes) :
    (((ArticleCache.new baseTtl).run events).getByCacheKey key now).1.map CachedArticle.report =
      (((new baseTtl epoch).run events).getByCacheKey key now).map
        fun entry => entry.intoCachedArticle.report := by
  have valid := ArticleCache.valid_get baseTtl events now key
  have inMemory := ArticleCache.knowledge_get baseTtl ordered past key
  have validNew : (new baseTtl epoch).Valid baseTtl :=
    ⟨rfl, fun _ _ isEntry => nomatch isEntry⟩
  have validRun := (hybridArticleCache_realizes baseTtl).valid_foldl cacheable validNew
  have onDisk := congrFun ((hybridArticleCache_realizes baseTtl).fade_foldl cacheable validNew
    ordered past) key
  have sameKnowledge :
      ((((ArticleCache.new baseTtl).run events).getByCacheKey key now).1).map
        CachedArticle.knowledge =
      (((new baseTtl epoch).run events).getByCacheKey key now).map
        DiskCachedArticle.knowledge := by
    rw [inMemory]
    exact onDisk.symm.trans (knowledge_getFreshEntry validRun key now).symm
  cases memoryEq : (((ArticleCache.new baseTtl).run events).getByCacheKey key now).1 with
  | none =>
    rw [memoryEq] at sameKnowledge
    rw [Option.map_none] at sameKnowledge ⊢
    rw [Option.map_eq_none_iff.mp sameKnowledge.symm, Option.map_none]
  | some entry =>
    rw [memoryEq] at sameKnowledge
    rcases Option.map_eq_some_iff.mp sameKnowledge.symm with ⟨diskEntry, diskEq, sameEntry⟩
    rw [diskEq, Option.map_some, Option.map_some,
      report_eq_of_knowledge (valid entry memoryEq) sameEntry.symm]

theorem twoFacts_agree :
    (((ArticleCache.new 1000).run [⟨ascii "a", 5, .missing 0⟩,
        ⟨ascii "a", 6, .hasStatus articleStatus 1 2⟩]).getByCacheKey (ascii "a") 7).1.map
          CachedArticle.report =
      (((new 1000 3).run [⟨ascii "a", 5, .missing 0⟩,
        ⟨ascii "a", 6, .hasStatus articleStatus 1 2⟩]).getByCacheKey (ascii "a") 7).map
          fun entry => entry.intoCachedArticle.report :=
  caches_agree 1000 3 (by decide) (by decide) (by decide) (ascii "a")

end NntpProxy.Cache
