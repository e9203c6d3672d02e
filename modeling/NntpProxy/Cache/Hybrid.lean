import NntpProxy.Cache.Article

/-!
# The cache on disk

Entries that can go to disk have one of five status codes and keep a time for every provider.
They also keep the epoch of the assignment of slots to providers: what was said under another
assignment is forgotten.  The operations are those of the cache in memory, written for these
entries: an operation that changes nothing stores nothing, and a lookup leaves an entry that
expired where it is.
-/

namespace NntpProxy.Cache

open Protocol Router Data

/-- The status codes of entries on disk. -/
inductive CacheableStatusCode where
  | article
  | head
  | body
  | stat
  | missing
  deriving DecidableEq, Repr

namespace CacheableStatusCode

def asU16 : CacheableStatusCode → Nat
  | .article => 220
  | .head => 221
  | .body => 222
  | .stat => 223
  | .missing => 430

def tryFrom (code : Nat) : Option CacheableStatusCode :=
  if code = 220 then some .article
  else if code = 221 then some .head
  else if code = 222 then some .body
  else if code = 223 then some .stat
  else if code = 430 then some .missing
  else none

theorem tryFrom_eq_some_iff {code : Nat} {status : CacheableStatusCode} :
    tryFrom code = some status ↔ code = status.asU16 := by
  unfold tryFrom
  cases status
  all_goals
    simp only [asU16]
    split_ifs <;> simp_all

/-- The status code with this value. -/
def statusCode (status : CacheableStatusCode) : StatusCode :=
  ⟨status.asU16, by cases status <;> decide, by cases status <;> decide⟩

end CacheableStatusCode

/-- An entry that can go to disk. -/
structure DiskCachedArticle where
  statusCode : CacheableStatusCode
  availabilityEpoch : UInt64
  availability : ArticleAvailability
  negativeTimestamps : AvailabilitySlot → UInt64
  timestamp : UInt64
  tier : UInt8
  payload : CachedPayload
  deriving DecidableEq

namespace DiskCachedArticle

/-- An entry without facts about providers. -/
def ofPayload (statusCode : CacheableStatusCode) (payload : CachedPayload) (tier : UInt8)
    (now : UInt64) : DiskCachedArticle :=
  ⟨statusCode, 0, .new, fun _ => 0, now, tier, payload⟩

def fromFramedChunkedWithTier (response : FramedChunkedResponse) (tier : UInt8) (now : UInt64) :
    Option DiskCachedArticle :=
  (CacheableStatusCode.tryFrom response.status.value).map fun statusCode =>
    ofPayload statusCode (parseFramedChunkedPayload response) tier now

def availabilityOnly (statusCode : CacheableStatusCode) (tier : UInt8) (now : UInt64) :
    DiskCachedArticle :=
  ofPayload statusCode .availabilityOnly tier now

def stat (tier : UInt8) (now : UInt64) : DiskCachedArticle :=
  ofPayload .stat (.stat none) tier now

def missing (tier : UInt8) (now : UInt64) : DiskCachedArticle :=
  ofPayload .missing .missing tier now

def keepOverSameCompleteness (entry new : DiskCachedArticle) : Bool :=
  keepSameCompleteness entry.payload new.payload

/-- The entry can be served as an article. -/
def isCompleteArticle (entry : DiskCachedArticle) : Bool :=
  if entry.statusCode.asU16 ≠ 220 then false
  else
    match entry.payload with
    | .article _ headers body => !headers.isEmpty || !body.isEmpty
    | _ => false

/-- The entry stays although another one is offered. -/
def keepExisting (entry new : DiskCachedArticle) : Bool :=
  match entry.isCompleteArticle, new.isCompleteArticle with
  | true, false => true
  | false, true => false
  | true, true | false, false => entry.keepOverSameCompleteness new

def recordAvailabilityMissing (slot : AvailabilitySlot) (now : UInt64)
    (entry : DiskCachedArticle) : DiskCachedArticle :=
  { entry with
    availability := entry.availability.recordMissingSlot slot
    negativeTimestamps := Function.update entry.negativeTimestamps slot now }

def setAvailabilityEpoch (epoch : UInt64) (entry : DiskCachedArticle) : DiskCachedArticle :=
  { entry with availabilityEpoch := epoch }

def clearAvailability (entry : DiskCachedArticle) : DiskCachedArticle :=
  { entry with
    availability := .new
    negativeTimestamps := fun _ => 0 }

/-- Put the sections of another entry to those of this one. -/
def mergeCompatibleSections (entry other : DiskCachedArticle) (now : UInt64) :
    Option DiskCachedArticle :=
  (mergedSections entry.payload other.payload).map fun payload =>
    { entry with
      statusCode := .article
      tier := max entry.tier other.tier
      payload := payload
      timestamp := now }

/-- Forget what providers said too long ago. -/
def expireStaleAvailability (baseTtl now : UInt64) (entry : DiskCachedArticle) :
    DiskCachedArticle :=
  let stale := (List.finRange maxBackends).filter fun slot =>
    entry.availability.isMissingSlot slot &&
      Cache.isExpired (entry.negativeTimestamps slot) baseTtl 0 now
  { entry with
    availability := ⟨stale.foldl (fun bits slot => bits.erase slot) entry.availability.missing⟩
    negativeTimestamps := fun slot => if slot ∈ stale then 0 else entry.negativeTimestamps slot }

/-- A provider has the article: without a payload the entry becomes like the template, and in
any case it is as new. -/
def confirm (template : DiskCachedArticle) (now : UInt64) (entry : DiskCachedArticle) :
    DiskCachedArticle :=
  if entry.payload.isMarker then
    { entry with
      statusCode := template.statusCode
      payload := template.payload
      tier := template.tier
      timestamp := now }
  else { entry with timestamp := now }

def recordBackendHasStatus (statusCode : CacheableStatusCode) (tier : UInt8) (now : UInt64) :
    DiskCachedArticle → DiskCachedArticle :=
  confirm (availabilityOnly statusCode tier now) now

def recordBackendStat (tier : UInt8) (now : UInt64) : DiskCachedArticle → DiskCachedArticle :=
  confirm (stat tier now) now

def isExpired (entry : DiskCachedArticle) (baseTtl now : UInt64) : Bool :=
  Cache.isExpired entry.timestamp baseTtl entry.tier now

def intoCachedArticle (entry : DiskCachedArticle) : CachedArticle where
  backendAvailability := entry.availability
  negativeTimestamps := (List.finRange maxBackends).filterMap fun slot =>
    if entry.availability.isMissingSlot slot then some (slot, entry.negativeTimestamps slot)
    else none
  statusCode := entry.statusCode.statusCode
  payload := entry.payload
  tier := entry.tier
  insertedAt := entry.timestamp

end DiskCachedArticle

/-- The cache, without a limit to its size. -/
structure HybridArticleCache where
  entries : Bytes → Option DiskCachedArticle
  ttlMillis : UInt64
  availabilityEpoch : UInt64

namespace HybridArticleCache

def new (ttlMillis availabilityEpoch : UInt64) : HybridArticleCache :=
  ⟨fun _ => none, ttlMillis, availabilityEpoch⟩

section

variable (cache : HybridArticleCache) (key : Bytes)

def insert (entry : DiskCachedArticle) :
    HybridArticleCache :=
  { cache with entries := Function.update cache.entries key (some entry) }

/-- The entry without facts of another epoch and without stale ones, unless it expired. -/
def getFreshEntryForMutation (now : UInt64) :
    Option DiskCachedArticle :=
  match cache.entries key with
  | none => none
  | some entry =>
    let entry :=
      if entry.availabilityEpoch ≠ cache.availabilityEpoch then entry.clearAvailability
      else entry
    let entry := entry.expireStaleAvailability cache.ttlMillis now
    if entry.isExpired cache.ttlMillis now then none else some entry

/-- Look an article up. -/
def getByCacheKey (now : UInt64) :
    Option DiskCachedArticle :=
  match cache.entries key with
  | none => none
  | some entry =>
    let cloned :=
      if entry.availabilityEpoch ≠ cache.availabilityEpoch then entry.clearAvailability
      else entry
    let cloned := cloned.expireStaleAvailability cache.ttlMillis now
    if cloned.isExpired cache.ttlMillis now then none else some cloned

def upsertEntryForSlot (entry : DiskCachedArticle) (slot : AvailabilitySlot)
    (now : UInt64) : HybridArticleCache :=
  match cache.getFreshEntryForMutation key now with
  | none => cache.insert key (entry.setAvailabilityEpoch cache.availabilityEpoch)
  | some existing =>
    if existing.availability.isMissingSlot slot then cache
    else
      match existing.mergeCompatibleSections entry now with
      | some merged => cache.insert key (merged.setAvailabilityEpoch cache.availabilityEpoch)
      | none =>
        if existing.keepExisting entry then cache
        else
          cache.insert key
            { entry with
              availability := existing.availability
              negativeTimestamps := existing.negativeTimestamps
              availabilityEpoch := cache.availabilityEpoch }

def upsertFramedIngestForSlot (response : FramedChunkedResponse) (slot : AvailabilitySlot)
    (tier : UInt8) (now : UInt64) :
    HybridArticleCache :=
  match DiskCachedArticle.fromFramedChunkedWithTier response tier now with
  | none => cache
  | some entry => cache.upsertEntryForSlot key entry slot now

def recordAvailabilityMissing (slot : AvailabilitySlot) (now : UInt64) : HybridArticleCache :=
  let entry := (cache.getFreshEntryForMutation key now).getD (.missing 0 now)
  cache.insert key ((entry.recordAvailabilityMissing slot now).setAvailabilityEpoch
    cache.availabilityEpoch)

/-- Record that a provider has the article, unless it is known to miss it. -/
def recordPositive (slot : AvailabilitySlot) (now : UInt64) (fresh : DiskCachedArticle)
    (update : DiskCachedArticle → DiskCachedArticle) :
    HybridArticleCache :=
  match cache.getFreshEntryForMutation key now with
  | none => cache.insert key (fresh.setAvailabilityEpoch cache.availabilityEpoch)
  | some existing =>
    if existing.availability.isMissingSlot slot then cache
    else cache.insert key ((update existing).setAvailabilityEpoch cache.availabilityEpoch)

def recordHasStatusForSlot (statusCode : StatusCode) (slot : AvailabilitySlot) (tier : UInt8)
    (now : UInt64) : HybridArticleCache :=
  match CacheableStatusCode.tryFrom statusCode.value with
  | none => cache
  | some cacheableStatus =>
    cache.recordPositive key slot now (.availabilityOnly cacheableStatus tier now)
      (·.recordBackendHasStatus cacheableStatus tier now)

def recordStatForSlot (slot : AvailabilitySlot) (tier : UInt8)
    (now : UInt64) : HybridArticleCache :=
  cache.recordPositive key slot now (.stat tier now) (·.recordBackendStat tier now)

end

def apply (cache : HybridArticleCache) (event : CacheEvent) : HybridArticleCache :=
  match event.operation with
  | .ingest response slot tier =>
    cache.upsertFramedIngestForSlot event.key response slot tier event.now
  | .hasStatus status slot tier =>
    cache.recordHasStatusForSlot event.key status slot tier event.now
  | .stat slot tier => cache.recordStatForSlot event.key slot tier event.now
  | .missing slot => cache.recordAvailabilityMissing event.key slot event.now
  | .get => cache

/-- The cache after events. -/
def run (cache : HybridArticleCache) (events : List CacheEvent) : HybridArticleCache :=
  events.foldl apply cache

end HybridArticleCache

end NntpProxy.Cache
