import NntpProxy.Cache.Hybrid
import NntpProxy.Data.Binary

/-!
# Entries on disk as octets

An entry is written in the newest of four versions and read in any of them.  The older ones
lack some of the times, and their sections lack the line end that the newest one keeps: it is
added when they are read.
-/

namespace NntpProxy.Cache

open Protocol Router Data Data.Reader DiskCachedArticle List

/-! ## Versions and sizes -/

def diskEntryMagicV6 : Nat := 0x4e504336

def diskEntryMagicV7 : Nat := 0x4e504337

def diskEntryMagicV8 : Nat := 0x4e504338

def diskEntryMagicV9 : Nat := 0x4e504339

/-- The longest section of an entry. -/
def maxSectionLen : Nat := 4 * 1024 * 1024

/-- The number that stands for no article number. -/
def noArticleNumber : UInt64 := 0xffffffffffffffff

def diskEntryFixedSize : Nat :=
  4 + 2 + 8 + 8 * maxBackends + 8 + 8 + 1

/-! ## Writing -/

def writeArticleNumber (articleNumber : Option UInt64) : Bytes :=
  littleEndian 8 (articleNumber.getD noArticleNumber).toNat

def writeSection (data : Bytes) : Option Bytes :=
  if maxSectionLen < data.length then none
  else some (littleEndian 4 data.length ++ data)

def encodePayload : CachedPayload → Option Bytes
  | .missing => some [0]
  | .availabilityOnly => some [1]
  | .stat articleNumber => some ([5] ++ writeArticleNumber articleNumber)
  | .article articleNumber headers body => do
      let headerSection ← writeSection headers
      let bodySection ← writeSection body
      some ([2] ++ (writeArticleNumber articleNumber ++ (headerSection ++ bodySection)))
  | .head articleNumber headers => do
      let headerSection ← writeSection headers
      some ([3] ++ (writeArticleNumber articleNumber ++ headerSection))
  | .body articleNumber body => do
      let bodySection ← writeSection body
      some ([4] ++ (writeArticleNumber articleNumber ++ bodySection))

def encodedPayloadSize : CachedPayload → Nat
  | .missing | .availabilityOnly => 1
  | .stat _ => 1 + 8
  | .article _ headers body => 1 + 8 + 4 + headers.length + 4 + body.length
  | .head _ headers => 1 + 8 + 4 + headers.length
  | .body _ body => 1 + 8 + 4 + body.length

namespace DiskCachedArticle

def encodedLen (entry : DiskCachedArticle) : Nat :=
  diskEntryFixedSize + encodedPayloadSize entry.payload

def encode (entry : DiskCachedArticle) : Option Bytes := do
  let payload ← encodePayload entry.payload
  some [littleEndian 4 diskEntryMagicV9,
    littleEndian 2 entry.statusCode.asU16,
    littleEndian 8 entry.availabilityEpoch.toNat,
    littleEndian 8 entry.availability.missing.bits.toNat,
    (ofFn fun slot => littleEndian 8 (entry.negativeTimestamps slot).toNat).flatten,
    littleEndian 8 entry.timestamp.toNat,
    littleEndian 1 entry.tier.toNat,
    payload].flatten

end DiskCachedArticle

/-! ## Reading -/

def readU64 : Reader UInt64 := do
  let raw ← number 8
  pure (UInt64.ofNat raw)

def readArticleNumber : Reader (Option UInt64) := do
  let raw ← readU64
  pure (if raw ≠ noArticleNumber then some raw else none)

def readSection : Reader Bytes := do
  let len ← number 4
  if maxSectionLen < len then fail else take len

/-- Sections of the older versions lack their last line end. -/
def normalizeSection (data : Bytes) (legacy : Bool) : Bytes :=
  if legacy && !data.isEmpty then data ++ crlf else data

def decodePayload (normalizeLegacySections : Bool) : Reader CachedPayload := do
  let kind ← number 1
  match kind with
  | 0 => pure .missing
  | 1 => pure .availabilityOnly
  | 5 => do
      let articleNumber ← readArticleNumber
      pure (.stat articleNumber)
  | 2 => do
      let articleNumber ← readArticleNumber
      let headers ← readSection
      let body ← readSection
      pure (.article articleNumber (normalizeSection headers normalizeLegacySections)
        (normalizeSection body normalizeLegacySections))
  | 3 => do
      let articleNumber ← readArticleNumber
      let headers ← readSection
      pure (.head articleNumber (normalizeSection headers normalizeLegacySections))
  | 4 => do
      let articleNumber ← readArticleNumber
      let body ← readSection
      pure (.body articleNumber (normalizeSection body normalizeLegacySections))
  | _ => fail

namespace DiskCachedArticle

/-- Read an entry of a version. -/
def decodeVersion (magic : Nat) : Reader DiskCachedArticle := do
  let rawCode ← number 2
  match CacheableStatusCode.tryFrom rawCode with
  | none => fail
  | some statusCode => do
      let availabilityEpoch ←
        (if magic = diskEntryMagicV7 ∨ magic = diskEntryMagicV8 ∨ magic = diskEntryMagicV9 then
          readU64
        else pure 0 : Reader UInt64)
      let missingBits ← number 8
      let negativeTimestamps ←
        (if magic = diskEntryMagicV8 ∨ magic = diskEntryMagicV9 then readU64.times maxBackends
        else pure fun _ => 0 : Reader (AvailabilitySlot → UInt64))
      let timestamp ← readU64
      let negativeTimestamps :=
        if magic ≠ diskEntryMagicV8 ∧ magic ≠ diskEntryMagicV9 then fun _ => timestamp
        else negativeTimestamps
      let tier ← number 1
      let payload ← decodePayload (decide (magic ≠ diskEntryMagicV9))
      pure ⟨statusCode, availabilityEpoch, ⟨⟨BitVec.ofNat maxBackends missingBits⟩⟩,
        negativeTimestamps, timestamp, UInt8.ofNat tier, payload⟩

/-- Read an entry in any of the versions. -/
def decode : Reader DiskCachedArticle := do
  let magic ← number 4
  if magic ≠ diskEntryMagicV6 ∧ magic ≠ diskEntryMagicV7 ∧ magic ≠ diskEntryMagicV8 ∧
      magic ≠ diskEntryMagicV9 then fail
  else decodeVersion magic

end DiskCachedArticle

/-! ## Round trips -/

/-- An article number as it is read back. -/
def storedNumber (articleNumber : Option UInt64) : Option UInt64 :=
  articleNumber.filter (· ≠ noArticleNumber)

/-- A payload as it is read back. -/
def CachedPayload.stored : CachedPayload → CachedPayload
  | .article articleNumber headers content => .article (storedNumber articleNumber) headers content
  | .head articleNumber headers => .head (storedNumber articleNumber) headers
  | .body articleNumber content => .body (storedNumber articleNumber) content
  | .stat articleNumber => .stat (storedNumber articleNumber)
  | .missing => .missing
  | .availabilityOnly => .availabilityOnly

theorem reads_readU64 (value : UInt64) : readU64.Reads (littleEndian 8 value.toNat) value := by
  have fits : value.toNat < 256 ^ 8 := value.toNat_lt
  have read := (reads_number fits).map UInt64.ofNat
  rwa [UInt64.ofNat_toNat] at read

theorem reads_times {count : Nat} (times : Fin count → UInt64) :
    (readU64.times count).Reads
      (ofFn fun index => littleEndian 8 (times index).toNat).flatten times :=
  Reads.times (fun time : UInt64 => littleEndian 8 time.toNat) fun index =>
    reads_readU64 (times index)

theorem reads_readArticleNumber (articleNumber : Option UInt64) :
    readArticleNumber.Reads (writeArticleNumber articleNumber) (storedNumber articleNumber) := by
  have read := (reads_readU64 (articleNumber.getD noArticleNumber)).map fun raw =>
    if raw ≠ noArticleNumber then some raw else none
  have valueEq : (if articleNumber.getD noArticleNumber ≠ noArticleNumber then
      some (articleNumber.getD noArticleNumber) else none) = storedNumber articleNumber := by
    cases articleNumber with
    | none => rfl
    | some value => simp [storedNumber, Option.filter_some]
  rwa [valueEq] at read

variable {written data : Bytes}

theorem reads_readSection (isWritten : writeSection data = some written) :
    readSection.Reads written data := by
  rw [writeSection, Option.ite_none_left_eq_some, Option.some.injEq] at isWritten
  rcases isWritten with ⟨short, rfl⟩
  have fits : data.length < 256 ^ 4 := by
    simp only [maxSectionLen] at short
    omega
  apply (reads_number fits).bind
  rw [if_neg short]
  exact reads_take data

theorem reads_kind {kind : Nat} (small : kind < 256) : (number 1).Reads [UInt8.ofNat kind] kind :=
  reads_number (by simpa using small)

variable {payload : CachedPayload}

theorem reads_decodePayload (isWritten : encodePayload payload = some written) :
    (decodePayload false).Reads written payload.stored := by
  cases payload with
  | missing =>
    obtain rfl := Option.some.inj isWritten
    exact (reads_kind (by decide : 0 < 256)).bind _ (reads_pure _)
  | availabilityOnly =>
    obtain rfl := Option.some.inj isWritten
    exact (reads_kind (by decide : 1 < 256)).bind _ (reads_pure _)
  | stat articleNumber =>
    obtain rfl := Option.some.inj isWritten
    exact (reads_kind (by decide : 5 < 256)).bind _
      ((reads_readArticleNumber articleNumber).map CachedPayload.stat)
  | article articleNumber headers content =>
    rcases Option.bind_eq_some_iff.mp isWritten with ⟨headerSection, headersWritten, rest⟩
    rcases Option.bind_eq_some_iff.mp rest with ⟨bodySection, bodyWritten, wholeEq⟩
    obtain rfl := Option.some.inj wholeEq
    apply (reads_kind (by decide : 2 < 256)).bind
    apply (reads_readArticleNumber articleNumber).bind
    apply (reads_readSection headersWritten).bind
    exact (reads_readSection bodyWritten).map fun body =>
      CachedPayload.article (storedNumber articleNumber) headers body
  | head articleNumber headers =>
    rcases Option.bind_eq_some_iff.mp isWritten with ⟨headerSection, headersWritten, wholeEq⟩
    obtain rfl := Option.some.inj wholeEq
    apply (reads_kind (by decide : 3 < 256)).bind
    apply (reads_readArticleNumber articleNumber).bind
    exact (reads_readSection headersWritten).map fun headers =>
      CachedPayload.head (storedNumber articleNumber) headers
  | body articleNumber content =>
    rcases Option.bind_eq_some_iff.mp isWritten with ⟨bodySection, bodyWritten, wholeEq⟩
    obtain rfl := Option.some.inj wholeEq
    apply (reads_kind (by decide : 4 < 256)).bind
    apply (reads_readArticleNumber articleNumber).bind
    exact (reads_readSection bodyWritten).map fun body =>
      CachedPayload.body (storedNumber articleNumber) body

theorem CacheableStatusCode.tryFrom_asU16 (status : CacheableStatusCode) :
    tryFrom status.asU16 = some status :=
  tryFrom_eq_some_iff.mpr rfl

theorem CacheableStatusCode.asU16_lt (status : CacheableStatusCode) : status.asU16 < 256 ^ 2 := by
  cases status <;> decide

/-- An entry as it is read back. -/
def DiskCachedArticle.stored (entry : DiskCachedArticle) : DiskCachedArticle :=
  { entry with payload := entry.payload.stored }

variable {entry : DiskCachedArticle}

theorem reads_decode (isWritten : entry.encode = some written) :
    decode.Reads written entry.stored := by
  rcases Option.bind_eq_some_iff.mp isWritten with ⟨payload, payloadWritten, wholeEq⟩
  obtain rfl := Option.some.inj wholeEq
  have magicFits : diskEntryMagicV9 < 256 ^ 4 := by decide
  have bitsFit : entry.availability.missing.bits.toNat < 256 ^ 8 :=
    entry.availability.missing.bits.isLt
  have tierFits : entry.tier.toNat < 256 ^ 1 := entry.tier.toNat_lt
  have times := reads_times entry.negativeTimestamps
  simp only [flatten_cons, flatten_nil, append_nil]
  apply (reads_number magicFits).bind
  rw [if_neg (by simp)]
  apply (reads_number entry.statusCode.asU16_lt).bind
  rw [CacheableStatusCode.tryFrom_asU16]
  simp only [or_true, ne_eq, not_true_eq_false, and_false, if_true, if_false]
  apply (reads_readU64 entry.availabilityEpoch).bind
  apply (reads_number bitsFit).bind
  apply times.bind
  apply (reads_readU64 entry.timestamp).bind
  apply (reads_number tierFits).bind
  have read := (reads_decodePayload payloadWritten).map fun payload =>
    (⟨entry.statusCode, entry.availabilityEpoch,
      ⟨⟨BitVec.ofNat maxBackends entry.availability.missing.bits.toNat⟩⟩,
      entry.negativeTimestamps, entry.timestamp, UInt8.ofNat entry.tier.toNat,
      payload⟩ : DiskCachedArticle)
  rw [BitVec.ofNat_toNat, BitVec.setWidth_eq, UInt8.ofNat_toNat] at read
  rw [BitVec.ofNat_toNat, BitVec.setWidth_eq, UInt8.ofNat_toNat]
  exact read

/-! ## Sizes -/

/-- Every section is short enough. -/
def CachedPayload.Fits (payload : CachedPayload) : Prop :=
  ∀ part ∈ payload.sections, part.length ≤ maxSectionLen

theorem writeSection_of_fits (fits : data.length ≤ maxSectionLen) :
    writeSection data = some (littleEndian 4 data.length ++ data) :=
  if_neg (Nat.not_lt.mpr fits)

theorem fits_of_writeSection (isWritten : writeSection data = some written) :
    data.length ≤ maxSectionLen ∧ written.length = 4 + data.length := by
  rw [writeSection, Option.ite_none_left_eq_some, Option.some.injEq] at isWritten
  rcases isWritten with ⟨short, rfl⟩
  exact ⟨Nat.not_lt.mp short, by simp⟩

theorem exists_encodePayload (fits : payload.Fits) :
    ∃ written, encodePayload payload = some written := by
  cases payload with
  | missing => exact ⟨_, rfl⟩
  | availabilityOnly => exact ⟨_, rfl⟩
  | stat articleNumber => exact ⟨_, rfl⟩
  | article articleNumber headers content =>
    have headersFit := writeSection_of_fits (fits headers (by simp [CachedPayload.sections]))
    have bodyFits := writeSection_of_fits (fits content (by simp [CachedPayload.sections]))
    exact ⟨_, by rw [encodePayload, headersFit, bodyFits]; rfl⟩
  | head articleNumber headers =>
    have headersFit := writeSection_of_fits (fits headers (by simp [CachedPayload.sections]))
    exact ⟨_, by rw [encodePayload, headersFit]; rfl⟩
  | body articleNumber content =>
    have bodyFits := writeSection_of_fits (fits content (by simp [CachedPayload.sections]))
    exact ⟨_, by rw [encodePayload, bodyFits]; rfl⟩

theorem fits_of_encodePayload (isWritten : encodePayload payload = some written) :
    payload.Fits ∧ written.length = encodedPayloadSize payload := by
  cases payload with
  | missing =>
    obtain rfl := Option.some.inj isWritten
    exact ⟨nofun, rfl⟩
  | availabilityOnly =>
    obtain rfl := Option.some.inj isWritten
    exact ⟨nofun, rfl⟩
  | stat articleNumber =>
    obtain rfl := Option.some.inj isWritten
    exact ⟨nofun, by simp [writeArticleNumber, encodedPayloadSize]⟩
  | article articleNumber headers content =>
    rcases Option.bind_eq_some_iff.mp isWritten with ⟨headerSection, headersWritten, rest⟩
    rcases Option.bind_eq_some_iff.mp rest with ⟨bodySection, bodyWritten, wholeEq⟩
    obtain rfl := Option.some.inj wholeEq
    rcases fits_of_writeSection headersWritten with ⟨headersFit, headersLength⟩
    rcases fits_of_writeSection bodyWritten with ⟨bodyFits, bodyLength⟩
    constructor
    · simp [CachedPayload.Fits, CachedPayload.sections, headersFit, bodyFits]
    · simp [writeArticleNumber, encodedPayloadSize, headersLength, bodyLength]
      omega
  | head articleNumber headers =>
    rcases Option.bind_eq_some_iff.mp isWritten with ⟨headerSection, headersWritten, wholeEq⟩
    obtain rfl := Option.some.inj wholeEq
    rcases fits_of_writeSection headersWritten with ⟨headersFit, headersLength⟩
    constructor
    · simp [CachedPayload.Fits, CachedPayload.sections, headersFit]
    · simp [writeArticleNumber, encodedPayloadSize, headersLength]
      omega
  | body articleNumber content =>
    rcases Option.bind_eq_some_iff.mp isWritten with ⟨bodySection, bodyWritten, wholeEq⟩
    obtain rfl := Option.some.inj wholeEq
    rcases fits_of_writeSection bodyWritten with ⟨bodyFits, bodyLength⟩
    constructor
    · simp [CachedPayload.Fits, CachedPayload.sections, bodyFits]
    · simp [writeArticleNumber, encodedPayloadSize, bodyLength]
      omega

theorem length_flatten_times {count : Nat} (times : Fin count → UInt64) :
    (ofFn fun index => littleEndian 8 (times index).toNat).flatten.length = 8 * count := by
  rw [length_flatten, map_ofFn]
  simp [Function.comp_def, Nat.mul_comm]

theorem length_of_encode
    (isWritten : entry.encode = some written) : written.length = entry.encodedLen := by
  rcases Option.bind_eq_some_iff.mp isWritten with ⟨payload, payloadWritten, wholeEq⟩
  obtain rfl := Option.some.inj wholeEq
  have payloadLength := (fits_of_encodePayload payloadWritten).2
  have timesLength := length_flatten_times entry.negativeTimestamps
  simp only [flatten_cons, flatten_nil, append_nil, length_append,
    length_littleEndian, timesLength, payloadLength, encodedLen,
    diskEntryFixedSize]
  omega

theorem exists_encode_iff (entry : DiskCachedArticle) :
    (∃ written, entry.encode = some written) ↔ entry.payload.Fits := by
  constructor
  · rintro ⟨written, isWritten⟩
    rcases Option.bind_eq_some_iff.mp isWritten with ⟨payload, payloadWritten, -⟩
    exact (fits_of_encodePayload payloadWritten).1
  · intro fits
    rcases exists_encodePayload fits with ⟨payload, payloadWritten⟩
    exact ⟨_, by rw [encode, payloadWritten]; rfl⟩

/-- Whatever an entry is, writing it fails exactly if one of its sections is too long.
Otherwise it is written in as many octets as it says, it is read back from them, whatever
follows, except for an article number that stands for none, and it is not read from fewer. -/
theorem encode_decode (entry : DiskCachedArticle) :
    (entry.encode = none ↔
      ∃ part ∈ entry.payload.sections, maxSectionLen < part.length) ∧
      ∀ written, entry.encode = some written →
        written.length = entry.encodedLen ∧
          (∀ trailing, decode.run (written ++ trailing) =
            some (entry.stored, trailing)) ∧
          ∀ short, short <+: written → short ≠ written →
            decode.run short = none := by
  constructor
  · rw [← Option.not_isSome_iff_eq_none, Option.isSome_iff_exists, exists_encode_iff]
    simp [CachedPayload.Fits]
  · intro written isWritten
    have reads := reads_decode isWritten
    exact ⟨length_of_encode isWritten, reads,
      fun short isFront shorter => reads.run_eq_none isFront shorter⟩

theorem statEntry_encoded :
    ∃ written, (stat 0 5).encode = some written ∧ written.length = 552 := by
  rcases (exists_encode_iff (stat 0 5)).mpr nofun with ⟨written, isWritten⟩
  exact ⟨written, isWritten, ((encode_decode (stat 0 5)).2 written isWritten).1⟩

/-! ## What is read can be written -/

end NntpProxy.Cache
