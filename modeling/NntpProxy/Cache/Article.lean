import NntpProxy.Cache.Payload
import NntpProxy.Router.Selection

/-!
# The article cache in memory

An entry keeps what is known about one article: a status, a payload, the tier of the backend
that it came from, when it was inserted, and for every provider that misses the article when
it said so.  An entry expires as a whole after a time that grows with the tier; what a
provider said expires by itself.  Every operation works on the entry of one key, at one time.
-/

namespace NntpProxy.Cache

open Protocol Router Data

/-! ## Lifetimes -/

def maxTtlTier : Nat := 63

def u64Max : Nat := 2 ^ 64 - 1

/-- The lifetime of an entry of a tier, in milliseconds. -/
def effectiveTtl (baseTtl : UInt64) (tier : UInt8) : Nat :=
  min (baseTtl.toNat * 2 ^ min tier.toNat maxTtlTier) u64Max

def isExpired (insertedAt baseTtl : UInt64) (tier : UInt8) (now : UInt64) : Bool :=
  decide (effectiveTtl baseTtl tier ≤ now.toNat - insertedAt.toNat)

theorem effectiveTtl_zero (baseTtl : UInt64) : effectiveTtl baseTtl 0 = baseTtl.toNat := by
  have inRange := baseTtl.toNat_lt
  simp only [effectiveTtl, u64Max, UInt8.toNat_zero, Nat.zero_min]
  omega

theorem le_effectiveTtl (baseTtl : UInt64) (tier : UInt8) :
    baseTtl.toNat ≤ effectiveTtl baseTtl tier := by
  have inRange := baseTtl.toNat_lt
  apply Nat.le_min_of_le_of_le
  · exact Nat.le_mul_of_pos_right _ (Nat.two_pow_pos _)
  · simp only [u64Max]
    omega

variable {baseTtl now : UInt64}

theorem isExpired_eq_false_iff {insertedAt : UInt64} {tier : UInt8} :
    isExpired insertedAt baseTtl tier now = false ↔
      now.toNat - insertedAt.toNat < effectiveTtl baseTtl tier := by
  simp [isExpired]

theorem isExpired_mono {insertedAt : UInt64} {tier : UInt8} {later : UInt64}
    (expired : isExpired insertedAt baseTtl tier now = true) (order : now ≤ later) :
    isExpired insertedAt baseTtl tier later = true := by
  have orderNat : now.toNat ≤ later.toNat := order
  simp only [isExpired, decide_eq_true_eq] at expired ⊢
  omega

theorem max_tier_comm (left right : UInt8) : max left right = max right left := by
  change (if left ≤ right then right else left) = if right ≤ left then left else right
  rcases UInt8.le_total left right with order | order
  · rw [if_pos order]
    split
    next reverse => exact UInt8.le_antisymm reverse order
    · rfl
  · rw [if_pos order]
    split
    next reverse => exact UInt8.le_antisymm order reverse
    · rfl

/-! ## Entries -/

/-- The status codes of entries. -/
def articleStatus : StatusCode := .article

def statStatus : StatusCode := ⟨223, by decide, by decide⟩

def missingStatus : StatusCode := .missing

/-- An entry of the cache. -/
structure CachedArticle where
  backendAvailability : ArticleAvailability
  negativeTimestamps : List (AvailabilitySlot × UInt64)
  statusCode : StatusCode
  payload : CachedPayload
  tier : UInt8
  insertedAt : UInt64
  deriving DecidableEq, Repr

/-- Keep an article number that the sections agree on, or that only one of them has. -/
def retainedArticleNumber : Option UInt64 → Option UInt64 → Option UInt64
  | some left, some right => if left = right then some left else none
  | some number, none | none, some number => some number
  | none, none => none

/-- Headers and a body make an article. -/
def mergedSections : CachedPayload → CachedPayload → Option CachedPayload
  | .head left headers, .body right body | .body left body, .head right headers =>
    some (.article (retainedArticleNumber left right) headers body)
  | _, _ => none

/-- Set the time of a provider, or add the provider. -/
def recordTimestamp (slot : AvailabilitySlot) (now : UInt64) :
    List (AvailabilitySlot × UInt64) → List (AvailabilitySlot × UInt64)
  | [] => [(slot, now)]
  | fact :: facts =>
    if fact.1 = slot then (slot, now) :: facts else fact :: recordTimestamp slot now facts

namespace CachedArticle

def availabilityOnly (statusCode : StatusCode) (tier : UInt8) (now : UInt64) : CachedArticle :=
  ⟨.new, [], statusCode, .availabilityOnly, tier, now⟩

def stat (tier : UInt8) (now : UInt64) : CachedArticle :=
  ⟨.new, [], statStatus, .stat none, tier, now⟩

def missing (tier : UInt8) (now : UInt64) : CachedArticle :=
  ⟨.new, [], missingStatus, .missing, tier, now⟩

def fromFramedChunkedWithTier (response : FramedChunkedResponse) (tier : UInt8) (now : UInt64) :
    CachedArticle :=
  ⟨.new, [], response.status, parseFramedChunkedPayload response, tier, now⟩

/-- Forget what providers said too long ago. -/
def expireStaleAvailability (baseTtl now : UInt64) (entry : CachedArticle) : CachedArticle :=
  let stale := entry.negativeTimestamps.filter fun fact => isExpired fact.2 baseTtl 0 now
  { entry with
    negativeTimestamps :=
      entry.negativeTimestamps.filter fun fact => !isExpired fact.2 baseTtl 0 now
    backendAvailability :=
      ⟨stale.foldl (fun bits fact => bits.erase fact.1) entry.backendAvailability.missing⟩ }

def isExpired (entry : CachedArticle) (baseTtl now : UInt64) : Bool :=
  Cache.isExpired entry.insertedAt baseTtl entry.tier now

def recordAvailabilityMissing (slot : AvailabilitySlot) (now : UInt64) (entry : CachedArticle) :
    CachedArticle :=
  { entry with
    backendAvailability := entry.backendAvailability.recordMissingSlot slot
    negativeTimestamps := recordTimestamp slot now entry.negativeTimestamps }

/-- The entry can be served as an article. -/
def isCompleteArticle (entry : CachedArticle) : Bool :=
  if entry.statusCode.value ≠ 220 then false
  else
    match entry.payload with
    | .article _ headers body => !headers.isEmpty || !body.isEmpty
    | _ => false

/-- The other entry takes the place of this one. -/
def shouldReplace (entry other : CachedArticle) : Bool :=
  match entry.isCompleteArticle, other.isCompleteArticle with
  | false, true => true
  | true, false => false
  | true, true | false, false => !keepSameCompleteness entry.payload other.payload

/-- Put the sections of another entry to those of this one. -/
def mergeCompatibleSections (entry other : CachedArticle) (now : UInt64) : Option CachedArticle :=
  (mergedSections entry.payload other.payload).map fun payload =>
    { entry with
      statusCode := articleStatus
      tier := max entry.tier other.tier
      payload := payload
      insertedAt := now }

def cachedResponseFor (entry : CachedArticle) (requestKind : RequestKind) (messageId : Bytes) :
    Option CachedResponseWire :=
  cachedResponseForPayload entry.payload requestKind messageId

end CachedArticle

/-! ## Changing an entry -/

/-- No response is kept yet. -/
def CachedPayload.isMarker : CachedPayload → Bool
  | .missing | .availabilityOnly => true
  | _ => false

/-- The entry without stale facts, unless it expired. -/
def freshEntryForMutation (maybeEntry : Option CachedArticle) (baseTtl now : UInt64) :
    Option CachedArticle :=
  match maybeEntry with
  | none => none
  | some entry =>
    let entry := entry.expireStaleAvailability baseTtl now
    if entry.isExpired baseTtl now then none else some entry

theorem freshEntry_of_alive {entry : CachedArticle} (alive : entry.isExpired baseTtl now = false) :
    freshEntryForMutation (some entry) baseTtl now =
      some (entry.expireStaleAvailability baseTtl now) := by
  apply if_neg
  rw [Bool.not_eq_true]
  exact alive

theorem alive_of_freshEntry {maybeEntry : Option CachedArticle} {entry : CachedArticle}
    (fresh : freshEntryForMutation maybeEntry baseTtl now = some entry) :
    entry.isExpired baseTtl now = false := by
  cases maybeEntry with
  | none => cases fresh
  | some stored =>
    rw [freshEntryForMutation, Option.ite_none_left_eq_some, Bool.not_eq_true,
      Option.some.injEq] at fresh
    rcases fresh with ⟨alive, rfl⟩
    exact alive

def mergeIngestEntry (maybeEntry : Option CachedArticle) (template : CachedArticle)
    (slot : AvailabilitySlot) (baseTtl now : UInt64) : CachedArticle :=
  match freshEntryForMutation maybeEntry baseTtl now with
  | none => template
  | some entry =>
    if entry.backendAvailability.isMissingSlot slot then entry
    else
      match entry.mergeCompatibleSections template now with
      | some merged => merged
      | none =>
        if entry.shouldReplace template then
          { entry with
            statusCode := template.statusCode
            payload := template.payload
            tier := template.tier
            insertedAt := now }
        else entry

/-- A provider has the article: without a payload the entry becomes like the template, and in
any case it is as new. -/
def confirmEntry (entry template : CachedArticle) (slot : AvailabilitySlot) (now : UInt64) :
    CachedArticle :=
  if entry.backendAvailability.isMissingSlot slot then entry
  else if entry.payload.isMarker then
    { entry with
      statusCode := template.statusCode
      payload := template.payload
      tier := template.tier
      insertedAt := now }
  else { entry with insertedAt := now }

section

variable (maybeEntry : Option CachedArticle)

def mergeBackendHasStatusEntry (statusCode : StatusCode) (slot : AvailabilitySlot) (tier : UInt8)
    (baseTtl now : UInt64) : CachedArticle :=
  let template := CachedArticle.availabilityOnly statusCode tier now
  confirmEntry ((freshEntryForMutation maybeEntry baseTtl now).getD template) template slot now

def mergeBackendStatEntry (slot : AvailabilitySlot) (tier : UInt8)
    (baseTtl now : UInt64) : CachedArticle :=
  let template := CachedArticle.stat tier now
  confirmEntry ((freshEntryForMutation maybeEntry baseTtl now).getD template) template slot now

def mergeAvailabilityMissingEntry (slot : AvailabilitySlot)
    (baseTtl now : UInt64) : CachedArticle :=
  ((freshEntryForMutation maybeEntry baseTtl now).getD (.missing 0 now)).recordAvailabilityMissing
    slot now

end

/-! ## The cache -/

/-- An operation on the entry of an article. -/
inductive CacheOperation where
  | ingest (response : FramedChunkedResponse) (slot : AvailabilitySlot) (tier : UInt8)
  | hasStatus (status : StatusCode) (slot : AvailabilitySlot) (tier : UInt8)
  | stat (slot : AvailabilitySlot) (tier : UInt8)
  | missing (slot : AvailabilitySlot)
  | get
  deriving DecidableEq, Repr

/-- An operation at a time. -/
structure CacheEvent where
  key : Bytes
  now : UInt64
  operation : CacheOperation
  deriving DecidableEq, Repr

/-- The cache, without a limit to its size. -/
structure ArticleCache where
  entries : Bytes → Option CachedArticle
  ttlMillis : UInt64

namespace ArticleCache

def new (ttlMillis : UInt64) : ArticleCache :=
  ⟨fun _ => none, ttlMillis⟩

section

variable (cache : ArticleCache) (key : Bytes)

/-- Put the entry of a key, or remove it. -/
def put (entry : Option CachedArticle) : ArticleCache :=
  { cache with entries := Function.update cache.entries key entry }

/-- Look an article up; an entry that expired is removed. -/
def getByCacheKey (now : UInt64) :
    Option CachedArticle × ArticleCache :=
  match cache.entries key with
  | none => (none, cache)
  | some entry =>
    if entry.isExpired cache.ttlMillis now then (none, cache.put key none)
    else (some (entry.expireStaleAvailability cache.ttlMillis now), cache)

def upsertFramedIngestForSlot (response : FramedChunkedResponse) (slot : AvailabilitySlot)
    (tier : UInt8) (now : UInt64) :
    ArticleCache :=
  cache.put key (some (mergeIngestEntry (cache.entries key)
    (.fromFramedChunkedWithTier response tier now) slot cache.ttlMillis now))

def recordHasStatusForSlot (statusCode : StatusCode) (slot : AvailabilitySlot) (tier : UInt8)
    (now : UInt64) : ArticleCache :=
  cache.put key (some (mergeBackendHasStatusEntry (cache.entries key) statusCode slot tier
    cache.ttlMillis now))

def recordStatForSlot (slot : AvailabilitySlot) (tier : UInt8) (now : UInt64) : ArticleCache :=
  cache.put key (some (mergeBackendStatEntry (cache.entries key) slot tier cache.ttlMillis now))

def recordAvailabilityMissing (slot : AvailabilitySlot) (now : UInt64) : ArticleCache :=
  cache.put key (some (mergeAvailabilityMissingEntry (cache.entries key) slot cache.ttlMillis now))

end

def apply (cache : ArticleCache) (event : CacheEvent) : ArticleCache :=
  match event.operation with
  | .ingest response slot tier =>
    cache.upsertFramedIngestForSlot event.key response slot tier event.now
  | .hasStatus status slot tier =>
    cache.recordHasStatusForSlot event.key status slot tier event.now
  | .stat slot tier => cache.recordStatForSlot event.key slot tier event.now
  | .missing slot => cache.recordAvailabilityMissing event.key slot event.now
  | .get => (cache.getByCacheKey event.key event.now).2

/-- The cache after events. -/
def run (cache : ArticleCache) (events : List CacheEvent) : ArticleCache :=
  events.foldl apply cache

end ArticleCache

/-! ## One key -/

/-- The entry of a key behind an operation on it. -/
def nextEntry (baseTtl : UInt64) (maybeEntry : Option CachedArticle) (now : UInt64) :
    CacheOperation → Option CachedArticle
  | .ingest response slot tier =>
    some (mergeIngestEntry maybeEntry (.fromFramedChunkedWithTier response tier now) slot
      baseTtl now)
  | .hasStatus status slot tier =>
    some (mergeBackendHasStatusEntry maybeEntry status slot tier baseTtl now)
  | .stat slot tier => some (mergeBackendStatEntry maybeEntry slot tier baseTtl now)
  | .missing slot => some (mergeAvailabilityMissingEntry maybeEntry slot baseTtl now)
  | .get => maybeEntry.bind fun entry => if entry.isExpired baseTtl now then none else some entry

variable (cache : ArticleCache)

namespace ArticleCache

@[simp]
theorem ttlMillis_apply (event : CacheEvent) :
    (cache.apply event).ttlMillis = cache.ttlMillis := by
  rcases event with ⟨key, now, _ | _ | _ | _ | _⟩
  all_goals try rfl
  simp only [apply, getByCacheKey]
  split
  · rfl
  · split
    · rfl
    · rfl

@[simp]
theorem ttlMillis_run (events : List CacheEvent) :
    (cache.run events).ttlMillis = cache.ttlMillis := by
  induction events generalizing cache with
  | nil => rfl
  | cons event events ih => exact (ih (cache.apply event)).trans (cache.ttlMillis_apply event)

theorem run_concat (events : List CacheEvent) (event : CacheEvent) :
    cache.run (events ++ [event]) = (cache.run events).apply event := by
  rw [run, List.foldl_append]
  rfl

theorem entries_apply (event : CacheEvent) :
    (cache.apply event).entries = Function.update cache.entries event.key
      (nextEntry cache.ttlMillis (cache.entries event.key) event.now event.operation) := by
  rcases event with ⟨key, now, _ | _ | _ | _ | _⟩
  all_goals try rfl
  simp only [apply, getByCacheKey, nextEntry]
  cases stored : cache.entries key with
  | none => exact (Function.update_eq_self_iff.mpr stored.symm).symm
  | some entry =>
    simp only [Option.bind_some]
    split
    · rfl
    · exact (Function.update_eq_self_iff.mpr stored.symm).symm

theorem run_induction (property : Option CachedArticle → Prop) (initially : property none)
    (step : ∀ maybeEntry now operation, property maybeEntry →
      property (nextEntry baseTtl maybeEntry now operation)) (events : List CacheEvent)
    (key : Bytes) :
    property (((new baseTtl).run events).entries key) := by
  have general : ∀ (cache : ArticleCache), cache.ttlMillis = baseTtl →
      (∀ key, property (cache.entries key)) → ∀ key, property ((cache.run events).entries key) := by
    induction events with
    | nil => exact fun cache _ holds => holds
    | cons event events ih =>
      intro cache ttlEq holds
      apply ih (cache.apply event) ((cache.ttlMillis_apply event).trans ttlEq)
      intro other
      rw [entries_apply, Function.update_apply]
      split
      · exact ttlEq ▸ step _ _ _ (holds _)
      · exact holds other
  exact general (new baseTtl) rfl (fun _ => initially) key

end ArticleCache

end NntpProxy.Cache
