import NntpProxy.Cache.Memory

/-!
# How long a missing article is reported

A provider that answered 430 is reported as missing the article for the lifetime of such a
fact and no longer.  The fact is part of an entry, though, which can expire before it: only a
fact that is recorded where no entry is alive, or in an entry that lives for long enough, is
reported for its whole lifetime.
-/

namespace NntpProxy.Cache

open Protocol Router Data ArticleCache Knowledge

/-! ## Histories -/

/-- The events come in the order of their times. -/
def InOrder (events : List CacheEvent) : Prop :=
  events.Pairwise fun earlier later => earlier.now ≤ later.now

instance (events : List CacheEvent) : Decidable (InOrder events) :=
  inferInstanceAs (Decidable (events.Pairwise _))

/-- No event is later than this time. -/
def NotAfter (events : List CacheEvent) (now : UInt64) : Prop :=
  ∀ event ∈ events, event.now ≤ now

instance (events : List CacheEvent) (now : UInt64) : Decidable (NotAfter events now) :=
  inferInstanceAs (Decidable (∀ event ∈ events, event.now ≤ now))

/-- A lookup reports that a provider misses the article. -/
def Reports (cache : ArticleCache) (key : Bytes) (now : UInt64) (slot : AvailabilitySlot) : Prop :=
  ∃ entry, (cache.getByCacheKey key now).1 = some entry ∧
    entry.backendAvailability.isMissingSlot slot = true

/-- The last 430 of a provider was recorded at this time. -/
def LastMissing (events : List CacheEvent) (key : Bytes) (slot : AvailabilitySlot)
    (since : UInt64) : Prop :=
  ∃ before after, events = before ++ ⟨key, since, .missing slot⟩ :: after ∧
    ∀ event ∈ after, ¬ (event.key = key ∧ event.operation = .missing slot)

variable {events : List CacheEvent} {key : Bytes} {since : UInt64} {event : CacheEvent}
    {slot : AvailabilitySlot}

theorem LastMissing.concat (last : LastMissing events key slot since)
    (other : ¬ (event.key = key ∧ event.operation = .missing slot)) :
    LastMissing (events ++ [event]) key slot since := by
  rcases last with ⟨before, after, rfl, noneAfter⟩
  refine ⟨before, after ++ [event], by simp, ?_⟩
  intro later inAfter
  rcases List.mem_append.mp inAfter with earlier | isLast
  · exact noneAfter later earlier
  · rw [List.mem_singleton.mp isLast]
    exact other

theorem fact_concat {baseTtl : UInt64} {knowledge : Knowledge}
    (known : (articleKnowledge baseTtl).run (fun _ => none) (events ++ [event]) key =
      some knowledge) (fact : knowledge.missing slot = some since) :
    event = ⟨key, since, .missing slot⟩ ∨
      ¬ (event.key = key ∧ event.operation = .missing slot) ∧
        ∃ left, ((articleKnowledge baseTtl).run (fun _ => none) events key).bind
            (current baseTtl event.now) = some left ∧ left.missing slot = some since := by
  rw [Fading.run_concat, next_articleKnowledge, Function.update_apply] at known
  split at known
  next sameKey =>
    subst sameKey
    cases leftEq : ((articleKnowledge baseTtl).run (fun _ => none) events event.key).bind
        (current baseTtl event.now) with
    | none =>
      rw [time_articleKnowledge, fade_articleKnowledge, leftEq] at known
      rw [(observe_none known).1] at fact
      rcases factsBehind_eq_some fact with ⟨recorded, rfl⟩ | ⟨-, noFact⟩
      · exact Or.inl (by rw [← recorded])
      · cases noFact
    | some left =>
      rw [time_articleKnowledge, fade_articleKnowledge, leftEq] at known
      rcases observe_some event.now left event.operation with
        ⟨after, afterEq, factsEq, -⟩
      obtain rfl := Option.some.inj (known.symm.trans afterEq)
      rw [factsEq] at fact
      rcases factsBehind_eq_some fact with ⟨recorded, rfl⟩ | ⟨notRecorded, leftFact⟩
      · exact Or.inl (by rw [← recorded])
      · exact Or.inr ⟨fun same => notRecorded same.2, left, rfl, leftFact⟩
  next otherKey =>
    exact Or.inr ⟨fun same => otherKey same.1.symm, knowledge, known, fact⟩

theorem lastMissing_of_fact {baseTtl : UInt64} {knowledge : Knowledge}
    (known : (articleKnowledge baseTtl).run (fun _ => none) events key = some knowledge)
    (fact : knowledge.missing slot = some since) : LastMissing events key slot since := by
  induction events using List.reverseRecOn generalizing knowledge with
  | nil => cases known
  | append_singleton events event ih =>
    rcases fact_concat known fact with rfl | ⟨other, left, leftEq, leftFact⟩
    · exact ⟨events, [], rfl, nofun⟩
    · rcases Option.bind_eq_some_iff.mp leftEq with ⟨before, beforeEq, currentEq⟩
      rcases current_eq_some_iff.mp currentEq with ⟨-, rfl⟩
      exact (ih beforeEq (currentFact_eq_some_iff.mp leftFact).1).concat other

/-! ## Reports -/

section

variable (baseTtl : UInt64) (ordered : InOrder events) {now : UInt64} (past : NotAfter events now)
    (key : Bytes) (slot : AvailabilitySlot)

include ordered past

theorem reports_iff_left :
    Reports ((new baseTtl).run events) key now slot ↔
      ∃ left, ((articleKnowledge baseTtl).run (fun _ => none) events key).bind
          (current baseTtl now) = some left ∧ (left.missing slot).isSome = true := by
  have known := knowledge_get baseTtl ordered past key
  have valid := valid_get baseTtl events now key
  rw [← known]
  constructor
  · rintro ⟨entry, got, isMissing⟩
    refine ⟨entry.knowledge, by rw [got, Option.map_some], ?_⟩
    rw [← (valid entry got).listed slot]
    exact isMissing
  · rintro ⟨left, leftEq, isMissing⟩
    rcases Option.map_eq_some_iff.mp leftEq with ⟨entry, got, rfl⟩
    refine ⟨entry, got, ?_⟩
    rw [(valid entry got).listed slot]
    exact isMissing

theorem reports_iff :
    Reports ((new baseTtl).run events) key now slot ↔
      ∃ knowledge, (articleKnowledge baseTtl).run (fun _ => none) events key = some knowledge ∧
        isExpired knowledge.since baseTtl knowledge.tier now = false ∧
        ∃ since, knowledge.missing slot = some since ∧ isExpired since baseTtl 0 now = false := by
  rw [reports_iff_left baseTtl ordered past]
  constructor
  · rintro ⟨left, leftEq, isMissing⟩
    rcases Option.bind_eq_some_iff.mp leftEq with ⟨knowledge, knownEq, currentEq⟩
    rcases current_eq_some_iff.mp currentEq with ⟨alive, rfl⟩
    rcases Option.isSome_iff_exists.mp isMissing with ⟨since, fact⟩
    exact ⟨knowledge, knownEq, alive, since, currentFact_eq_some_iff.mp fact⟩
  · rintro ⟨knowledge, knownEq, alive, since, fact⟩
    have currentEq := current_eq_some_iff.mpr ⟨alive, rfl⟩
    refine ⟨_, by rw [knownEq, Option.bind_some, currentEq], ?_⟩
    exact Option.isSome_iff_exists.mpr ⟨since, currentFact_eq_some_iff.mpr fact⟩

end

theorem fact_alive_iff {baseTtl now : UInt64} :
    isExpired since baseTtl 0 now = false ↔ now.toNat - since.toNat < baseTtl.toNat := by
  rw [isExpired_eq_false_iff, effectiveTtl_zero]

/-- Events may be followed by one at the present. -/
theorem inOrder_concat (ordered : InOrder events)
    (past : NotAfter events event.now) : InOrder (events ++ [event]) := by
  rw [InOrder, List.pairwise_append]
  refine ⟨ordered, List.pairwise_singleton .., fun earlier inEvents later isLast => ?_⟩
  rw [List.mem_singleton.mp isLast]
  exact past earlier inEvents

theorem notAfter_concat
    (past : NotAfter events event.now) : NotAfter (events ++ [event]) event.now := by
  intro other inEvents
  rcases List.mem_append.mp inEvents with earlier | isLast
  · exact past other earlier
  · rw [List.mem_singleton.mp isLast]
    exact UInt64.le_refl _

theorem reports_of_concat (baseTtl : UInt64) (ordered : InOrder events)
    (past : NotAfter events event.now) (notMissing : ∀ slot, event.operation ≠ .missing slot)
    (reports : Reports ((new baseTtl).run (events ++ [event])) key event.now slot) :
    Reports ((new baseTtl).run events) key event.now slot := by
  rw [reports_iff_left baseTtl (inOrder_concat ordered past) (notAfter_concat past)] at reports
  rw [reports_iff_left baseTtl ordered past]
  rcases reports with ⟨left, leftEq, isMissing⟩
  rcases Option.bind_eq_some_iff.mp leftEq with ⟨knowledge, known, currentEq⟩
  rcases current_eq_some_iff.mp currentEq with ⟨-, rfl⟩
  rcases Option.isSome_iff_exists.mp isMissing with ⟨since, fact⟩
  rcases fact_concat known (currentFact_eq_some_iff.mp fact).1 with
    rfl | ⟨-, before, beforeEq, beforeFact⟩
  · exact absurd rfl (notMissing slot)
  · exact ⟨before, beforeEq, Option.isSome_iff_exists.mpr ⟨since, beforeFact⟩⟩

/-- A lookup reports a provider only for the lifetime of the last 430 that was recorded for
it, and what any provider offers makes no provider missing. -/
theorem reports_only_while_recorded (baseTtl : UInt64) {events : List CacheEvent}
    (ordered : InOrder events) {now : UInt64} (past : NotAfter events now) (key : Bytes)
    (slot : AvailabilitySlot) :
    (Reports ((new baseTtl).run events) key now slot →
      ∃ since, LastMissing events key slot since ∧
        now.toNat < since.toNat + baseTtl.toNat) ∧
      ∀ other operation, (∀ missing, operation ≠ .missing missing) →
        Reports ((new baseTtl).run (events ++ [⟨other, now, operation⟩])) key now
            slot → Reports ((new baseTtl).run events) key now slot := by
  constructor
  · intro reports
    rcases (reports_iff baseTtl ordered past key slot).mp reports with
      ⟨knowledge, known, -, since, fact, alive⟩
    rw [fact_alive_iff] at alive
    exact ⟨since, lastMissing_of_fact known fact, by omega⟩
  · intro other operation notMissing reports
    have pastEvent : NotAfter events (CacheEvent.now ⟨other, now, operation⟩) := past
    exact reports_of_concat baseTtl ordered pastEvent notMissing reports

theorem oneMissing_reported_while_recorded :
    ∃ since, LastMissing [⟨ascii "a", 5, .missing 0⟩] (ascii "a") 0 since ∧
      (6 : UInt64).toNat < since.toNat + (1000 : UInt64).toNat :=
  (reports_only_while_recorded 1000 (List.pairwise_singleton ..) (by decide) (ascii "a") 0).1
    ⟨_, rfl, by decide +kernel⟩

/-! ## Whole lifetimes -/

/-- A fact that was recorded at this time or later, in knowledge that lives as long. -/
structure Lasting (baseTtl : UInt64) (slot : AvailabilitySlot) (since : UInt64)
    (knowledge : Knowledge) : Prop where
  fact : ∃ recorded, knowledge.missing slot = some recorded ∧ since ≤ recorded
  lives : min (since.toNat + baseTtl.toNat) (2 ^ 64) ≤
    knowledge.since.toNat + effectiveTtl baseTtl knowledge.tier

namespace Lasting

variable {baseTtl : UInt64} {slot : AvailabilitySlot} {since now : UInt64} {knowledge : Knowledge}

theorem current (lasting : Lasting baseTtl slot since knowledge) (notBefore : since ≤ now)
    (young : now.toNat < since.toNat + baseTtl.toNat) :
    ∃ left, knowledge.current baseTtl now = some left ∧ Lasting baseTtl slot since left := by
  rcases lasting with ⟨⟨recorded, fact, afterSince⟩, lives⟩
  have notBeforeNat : since.toNat ≤ now.toNat := notBefore
  have afterSinceNat : since.toNat ≤ recorded.toNat := afterSince
  have inRange := now.toNat_lt
  have longer := le_effectiveTtl baseTtl knowledge.tier
  have alive : isExpired knowledge.since baseTtl knowledge.tier now = false := by
    rw [isExpired_eq_false_iff]
    omega
  have factAlive : isExpired recorded baseTtl 0 now = false := by
    rw [fact_alive_iff]
    omega
  refine ⟨_, current_eq_some_iff.mpr ⟨alive, rfl⟩, ⟨recorded, ?_, afterSince⟩, lives⟩
  exact currentFact_eq_some_iff.mpr ⟨fact, factAlive⟩

theorem observe (lasting : Lasting baseTtl slot since knowledge) (notBefore : since ≤ now)
    (operation : CacheOperation) :
    ∃ after, observe now (some knowledge) operation = some after ∧
      Lasting baseTtl slot since after := by
  rcases lasting with ⟨⟨recorded, fact, afterSince⟩, lives⟩
  rcases observe_some now knowledge operation with ⟨after, afterEq, factsEq, lifetime⟩
  refine ⟨after, afterEq, ?_, ?_⟩
  · rw [factsEq]
    cases operation with
    | missing other =>
      rw [factsBehind, Function.update_apply]
      split
      · exact ⟨now, rfl, notBefore⟩
      · exact ⟨recorded, fact, afterSince⟩
    | _ => exact ⟨recorded, fact, afterSince⟩
  · rcases lifetime with isNew | ⟨sinceEq, tierEq⟩
    · have notBeforeNat : since.toNat ≤ now.toNat := notBefore
      have longer := le_effectiveTtl baseTtl after.tier
      rw [isNew]
      omega
    · rw [sinceEq, tierEq]
      exact lives

/-- Whatever happens during its lifetime, the fact stays. -/
theorem run {known : Bytes → Option Knowledge} (isKnown : known key = some knowledge)
    (lasting : Lasting baseTtl slot since knowledge) {later : List CacheEvent}
    (during : ∀ event ∈ later, since ≤ event.now ∧
      event.now.toNat < since.toNat + baseTtl.toNat) :
    ∃ after, (articleKnowledge baseTtl).run known later key = some after ∧
      Lasting baseTtl slot since after := by
  induction later generalizing known knowledge with
  | nil => exact ⟨knowledge, isKnown, lasting⟩
  | cons event later ih =>
    rcases during event List.mem_cons_self with ⟨notBefore, young⟩
    rcases lasting.current notBefore young with ⟨left, leftEq, leftLasting⟩
    have fadedEq : (articleKnowledge baseTtl).fade event.now known key = some left := by
      rw [fade_articleKnowledge, isKnown, Option.bind_some, leftEq]
    have next : ∃ after, (articleKnowledge baseTtl).next event
        ((articleKnowledge baseTtl).fade event.now known) key = some after ∧
          Lasting baseTtl slot since after := by
      rw [next_articleKnowledge, Function.update_apply]
      split
      next sameKey =>
        rw [← sameKey, fadedEq]
        exact leftLasting.observe notBefore event.operation
      · exact ⟨left, fadedEq, leftLasting⟩
    rcases next with ⟨after, afterEq, afterLasting⟩
    exact ih afterEq afterLasting fun other inLater =>
      during other (List.mem_cons_of_mem _ inLater)

end Lasting

/-- The entry of the article that is alive when a 430 is recorded, if any, lives for as long as
the 430 is worth reporting, or longer than the clock runs. -/
def LivesLongEnough (cache : ArticleCache) (key : Bytes) (since : UInt64) : Prop :=
  ∀ entry, freshEntryForMutation (cache.entries key) cache.ttlMillis since = some entry →
    min (since.toNat + cache.ttlMillis.toNat) (2 ^ 64) ≤
      entry.insertedAt.toNat + effectiveTtl cache.ttlMillis entry.tier

section Recorded

variable {baseTtl : UInt64} {history : List CacheEvent} {key : Bytes} {slot : AvailabilitySlot}
  {since : UInt64} (ordered : InOrder history) (past : NotAfter history since)
include ordered past

theorem lasting_of_livesLongEnough
    (lives : LivesLongEnough ((new baseTtl).run history) key since) :
    ∃ knowledge, (articleKnowledge baseTtl).run (fun _ => none)
        (history ++ [⟨key, since, .missing slot⟩]) key = some knowledge ∧
      Lasting baseTtl slot since knowledge := by
  have known := knowledge_get baseTtl ordered past key
  rw [getByCacheKey_eq] at known
  rw [LivesLongEnough, (valid_run baseTtl history).1] at lives
  rw [(valid_run baseTtl history).1] at known
  rw [Fading.run_concat, next_articleKnowledge, Function.update_self]
  rw [time_articleKnowledge, fade_articleKnowledge, ← known]
  cases fresh : freshEntryForMutation (((new baseTtl).run history).entries key)
      baseTtl since with
  | none =>
    refine ⟨_, rfl, ⟨since, Function.update_self .., UInt64.le_refl _⟩, ?_⟩
    change _ ≤ since.toNat + effectiveTtl baseTtl 0
    rw [effectiveTtl_zero]
    exact Nat.min_le_left _ _
  | some entry =>
    exact ⟨_, rfl, ⟨since, Function.update_self .., UInt64.le_refl _⟩, lives entry fresh⟩

end Recorded

theorem exists_unreported {cache : ArticleCache} (dies : ¬ LivesLongEnough cache key since)
    (slot : AvailabilitySlot) :
    ∃ now, since ≤ now ∧ now.toNat < since.toNat + cache.ttlMillis.toNat ∧
      ¬ Reports (cache.apply ⟨key, since, .missing slot⟩) key now slot := by
  simp only [LivesLongEnough, not_forall, not_le] at dies
  rcases dies with ⟨entry, fresh, short⟩
  have alive := alive_of_freshEntry fresh
  rw [CachedArticle.isExpired, isExpired_eq_false_iff] at alive
  have nowEq : (UInt64.ofNat (entry.insertedAt.toNat +
      effectiveTtl cache.ttlMillis entry.tier)).toNat =
      entry.insertedAt.toNat + effectiveTtl cache.ttlMillis entry.tier :=
    UInt64.toNat_ofNat_of_lt' (lt_of_lt_of_le short (Nat.min_le_right _ _))
  refine ⟨_, ?_, by rw [nowEq]; omega, ?_⟩
  · rw [UInt64.le_iff_toNat_le, nowEq]
    omega
  · have stored : (cache.apply ⟨key, since, .missing slot⟩).entries key =
        some (entry.recordAvailabilityMissing slot since) := by
      rw [entries_apply, Function.update_self]
      simp only [nextEntry, mergeAvailabilityMissingEntry, fresh, Option.getD_some]
    have expired : (entry.recordAvailabilityMissing slot since).isExpired cache.ttlMillis
        (UInt64.ofNat (entry.insertedAt.toNat +
          effectiveTtl cache.ttlMillis entry.tier)) = true := by
      simp only [CachedArticle.isExpired, isExpired, CachedArticle.recordAvailabilityMissing,
        nowEq, decide_eq_true_eq]
      omega
    rintro ⟨reported, got, -⟩
    rw [getByCacheKey_eq, stored, ttlMillis_apply] at got
    have gone : freshEntryForMutation (some (entry.recordAvailabilityMissing slot since))
        cache.ttlMillis (UInt64.ofNat (entry.insertedAt.toNat +
          effectiveTtl cache.ttlMillis entry.tier)) = none :=
      if_pos expired
    rw [gone] at got
    cases got

/-- A 430 is reported for its whole lifetime, whatever is recorded later, exactly if the entry
in which it is recorded lives long enough or there is none. -/
theorem reported_for_lifetime_iff (baseTtl : UInt64) {history : List CacheEvent}
    (ordered : InOrder history) (key : Bytes) (slot : AvailabilitySlot) {since : UInt64}
    (past : NotAfter history since) :
    (∀ later now, InOrder (history ++ ⟨key, since, .missing slot⟩ :: later) →
      NotAfter (history ++ ⟨key, since, .missing slot⟩ :: later) now →
      now.toNat < since.toNat + baseTtl.toNat →
      Reports ((new baseTtl).run (history ++ ⟨key, since, .missing slot⟩ :: later))
        key now slot) ↔ LivesLongEnough ((new baseTtl).run history) key since := by
  constructor
  · intro reported
    by_contra dies
    rcases exists_unreported dies slot with ⟨now, notBefore, young, unreported⟩
    rw [(valid_run baseTtl history).1] at young
    rw [← run_concat] at unreported
    have event : NotAfter history (CacheEvent.now ⟨key, since, .missing slot⟩) := past
    exact unreported (reported [] now (inOrder_concat ordered event)
      (fun earlier inEvents => UInt64.le_trans (notAfter_concat event earlier inEvents) notBefore)
      young)
  · intro lives later now laterOrdered laterPast young
    rcases lasting_of_livesLongEnough ordered past lives with ⟨knowledge, known, lasting⟩
    have during : ∀ event ∈ later, since ≤ event.now ∧
        event.now.toNat < since.toNat + baseTtl.toNat := by
      intro event inLater
      have notAfter : event.now.toNat ≤ now.toNat :=
        laterPast event (List.mem_append_right _ (List.mem_cons_of_mem _ inLater))
      have inOrder := (List.pairwise_append.mp laterOrdered).2.1
      exact ⟨(List.pairwise_cons.mp inOrder).1 event inLater, by omega⟩
    rcases lasting.run known during with ⟨after, afterEq, afterLasting⟩
    have notBefore : since ≤ now := laterPast ⟨key, since, .missing slot⟩ (by simp)
    rcases afterLasting.current notBefore young with ⟨left, leftEq, leftLasting⟩
    rcases leftLasting.fact with ⟨recorded, fact, -⟩
    rw [reports_iff_left baseTtl laterOrdered laterPast]
    refine ⟨left, ?_, Option.isSome_iff_exists.mpr ⟨recorded, fact⟩⟩
    rw [← List.singleton_append, ← List.append_assoc, Fading.run_append, afterEq,
      Option.bind_some, leftEq]

theorem firstMissing_reported :
    Reports ((new 1000).run [⟨ascii "a", 5, .missing 0⟩]) (ascii "a") 1004 0 := by
  have ordered : InOrder [] := List.Pairwise.nil
  have past : NotAfter [] 5 := nofun
  exact (reported_for_lifetime_iff 1000 ordered (ascii "a") 0 past).mpr
    (fun _ fresh => nomatch fresh) [] 1004 (by decide) (by decide) (by decide)

/-- A 430 in an entry that was there before is gone with the entry one millisecond later. -/
theorem lateMissing_unreported :
    InOrder [⟨ascii "a", 0, .hasStatus statStatus 1 0⟩, ⟨ascii "a", 999, .missing 0⟩] ∧
      NotAfter [⟨ascii "a", 0, .hasStatus statStatus 1 0⟩, ⟨ascii "a", 999, .missing 0⟩] 1000 ∧
      (1000 : UInt64).toNat < (999 : UInt64).toNat + (1000 : UInt64).toNat ∧
      ¬ Reports ((new 1000).run
        [⟨ascii "a", 0, .hasStatus statStatus 1 0⟩, ⟨ascii "a", 999, .missing 0⟩]) (ascii "a")
        1000 0 := by
  refine ⟨by decide, by decide, by decide, ?_⟩
  rintro ⟨entry, got, -⟩
  have gone : (((new 1000).run [⟨ascii "a", 0, .hasStatus statStatus 1 0⟩,
      ⟨ascii "a", 999, .missing 0⟩]).getByCacheKey (ascii "a") 1000).1 = none := by
    decide +kernel
  rw [gone] at got
  cases got

end NntpProxy.Cache
