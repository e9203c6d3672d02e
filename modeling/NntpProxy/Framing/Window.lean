import NntpProxy.Framing.Exchange

/-!
# Response windows

While one response is streamed, every chunk is split at the end of the response.
A terminator ends it only when nothing follows in the chunk or when what follows
can be the start of a status line.  For a well-formed response that is followed
by well-formed responses the split is exact: the chunk is complete from the end
of the response on, and otherwise all of it belongs to the response.
-/

namespace NntpProxy.Framing

open Protocol NntpProxy.Stream MultilineFramer List StatusCode

/-! ## Splitting a chunk -/

/-- What may follow a terminator in the same chunk. -/
inductive PackedPendingBytesPolicy where
  | reject
  | allowIfStatusPrefix
  deriving DecidableEq, Repr

/-- A chunk that ends the response after `consumed` octets, or not at all. -/
inductive ChunkProgress where
  | complete (consumed : Nat)
  | incomplete
  deriving DecidableEq, Repr

/-- A decimal digit. -/
def isAsciiDigit (byte : UInt8) : Bool :=
  decide (48 ≤ byte ∧ byte ≤ 57)

/-- The octets can be the start of a status line. -/
def plausibleStatusPrefix : Bytes → Bool
  | [] => true
  | byte :: rest =>
    if 49 ≤ byte ∧ byte ≤ 53 then
      match statusLineLen (byte :: rest) with
      | some lineLen => (parse ((byte :: rest).take lineLen)).isSome
      | none => ((byte :: rest).take 3).all isAsciiDigit
    else false

variable {chunk : Bytes} {policy : PackedPendingBytesPolicy}

variable {framer : MultilineFramer}

namespace MultilineFramer

/-- A terminator at `stop` ends the response. -/
def endsResponse (policy : PackedPendingBytesPolicy) (chunk : Bytes) (stop : Nat) : Bool :=
  decide (stop = chunk.length) ||
    (policy == .allowIfStatusPrefix && plausibleStatusPrefix (chunk.drop stop))

/-- Try the ends of the terminators inside a chunk from left to right.  Octets that
the policy rejects are an error. -/
def splitInside (framer : MultilineFramer) (chunk : Bytes) (policy : PackedPendingBytesPolicy) :
    List Nat → Option (ChunkProgress × MultilineFramer)
  | [] => some (.incomplete, framer.update chunk)
  | stop :: stops =>
    if endsResponse policy chunk stop then some (.complete stop, framer)
    else
      match policy with
      | .reject => none
      | .allowIfStatusPrefix => splitInside framer chunk policy stops

section

variable (framer : MultilineFramer) (chunk : Bytes)

/-- Split a chunk: a terminator that spans the chunk boundary is tried first. -/
def splitChunk (policy : PackedPendingBytesPolicy) :
    Option (ChunkProgress × MultilineFramer) :=
  match framer.findSpanningTerminator chunk with
  | some stop =>
    if endsResponse policy chunk stop then some (.complete stop, framer)
    else
      match policy with
      | .reject => none
      | .allowIfStatusPrefix => framer.splitInside chunk policy (matchEnds terminator chunk)
  | none => framer.splitInside chunk policy (matchEnds terminator chunk)

/-- The ends of terminators in the order in which they are tried. -/
def terminatorEnds : List Nat :=
  (framer.findSpanningTerminator chunk).toList ++ matchEnds terminator chunk

theorem splitChunk_eq (policy : PackedPendingBytesPolicy) :
    framer.splitChunk chunk policy =
      framer.splitInside chunk policy (framer.terminatorEnds chunk) := by
  unfold splitChunk terminatorEnds
  cases framer.findSpanningTerminator chunk with
  | none => rfl
  | some stop => rfl

theorem head?_terminatorEnds :
    (framer.terminatorEnds chunk).head? = framer.nextTerminatorEnd chunk := by
  unfold terminatorEnds nextTerminatorEnd
  cases framer.findSpanningTerminator chunk with
  | none => rfl
  | some stop => rfl

end

theorem splitChunk_of_some {stop : Nat} (found : framer.nextTerminatorEnd chunk = some stop)
    (accepted : endsResponse policy chunk stop = true) :
    framer.splitChunk chunk policy = some (.complete stop, framer) := by
  rw [← head?_terminatorEnds] at found
  rcases head?_eq_some_iff.mp found with ⟨stops, stopsEq⟩
  simp only [splitChunk_eq, stopsEq, splitInside, accepted, if_true]

theorem splitChunk_of_none (missing : framer.nextTerminatorEnd chunk = none) :
    framer.splitChunk chunk policy = some (.incomplete, framer.update chunk) := by
  rw [← head?_terminatorEnds, head?_eq_none_iff] at missing
  simp only [splitChunk_eq, missing, splitInside]

theorem endsResponse_of_splitChunk {next : MultilineFramer} {stop : Nat}
    (split : framer.splitChunk chunk policy = some (.complete stop, next)) :
    endsResponse policy chunk stop = true := by
  rw [splitChunk_eq] at split
  generalize framer.terminatorEnds chunk = stops at split
  induction stops with
  | nil => simp [splitInside] at split
  | cons first stops ih =>
    unfold splitInside at split
    split at split
    next accepted =>
      simp only [Option.some.injEq, Prod.mk.injEq, ChunkProgress.complete.injEq] at split
      rwa [← split.1]
    next =>
      cases policy with
      | reject => cases split
      | allowIfStatusPrefix => exact ih split

end MultilineFramer

/-! ## What follows a response -/

/-- A wrapping difference of at most 9 from `'0'` is the value of a digit. -/
theorem digit_of_sub_le {byte : UInt8} (small : ¬ byte - 48 > 9) :
    isAsciiDigit byte = true ∧ (byte - 48).toNat + 48 = byte.toNat := by
  have bound := byte.toNat_lt
  have zeroEq : (48 : UInt8).toNat = 48 := rfl
  have nineEq : (9 : UInt8).toNat = 9 := rfl
  have lastEq : (57 : UInt8).toNat = 57 := rfl
  have subEq := UInt8.toNat_sub byte 48
  rw [gt_iff_lt, UInt8.lt_iff_toNat_lt] at small
  simp only [isAsciiDigit, decide_eq_true_eq, UInt8.le_iff_toNat_le]
  omega

theorem sub_le_of_digit {byte : UInt8} (digit : isAsciiDigit byte = true) :
    ¬ byte - 48 > 9 ∧ (byte - 48).toNat + 48 = byte.toNat := by
  have zeroEq : (48 : UInt8).toNat = 48 := rfl
  have nineEq : (9 : UInt8).toNat = 9 := rfl
  have lastEq : (57 : UInt8).toNat = 57 := rfl
  have subEq := UInt8.toNat_sub byte 48
  simp only [isAsciiDigit, decide_eq_true_eq, UInt8.le_iff_toNat_le] at digit
  rw [gt_iff_lt, UInt8.lt_iff_toNat_lt]
  omega

theorem digits_of_parse {line : Bytes} {status : StatusCode}
    (parsed : parse line = some status) :
    ∃ first second third rest, line = first :: second :: third :: rest ∧
      (49 ≤ first ∧ first ≤ 53) ∧ isAsciiDigit first = true ∧ isAsciiDigit second = true ∧
      isAsciiDigit third = true := by
  match line, parsed with
  | first :: second :: third :: rest, parsed =>
    refine ⟨first, second, third, rest, rfl, ?_⟩
    simp only [parse] at parsed
    split at parsed
    · simp at parsed
    · rename_i small
      rw [not_or, not_or] at small
      rcases digit_of_sub_le small.1 with ⟨firstDigit, firstEq⟩
      rcases digit_of_sub_le small.2.1 with ⟨secondDigit, secondEq⟩
      rcases digit_of_sub_le small.2.2 with ⟨thirdDigit, thirdEq⟩
      unfold tryNew at parsed
      split at parsed
      · rename_i range
        have lowEq : (49 : UInt8).toNat = 49 := rfl
        have highEq : (53 : UInt8).toNat = 53 := rfl
        simp only [isAsciiDigit, decide_eq_true_eq, UInt8.le_iff_toNat_le] at *
        have lastEq : (57 : UInt8).toNat = 57 := rfl
        omega
      · simp at parsed

theorem parse_isSome_of_digits {first second third : UInt8} (leading : 49 ≤ first ∧ first ≤ 53)
    (secondDigit : isAsciiDigit second = true) (thirdDigit : isAsciiDigit third = true)
    (rest : Bytes) : (parse (first :: second :: third :: rest)).isSome = true := by
  have firstDigit : isAsciiDigit first = true := by
    rw [isAsciiDigit, decide_eq_true_eq]
    exact ⟨UInt8.le_trans (by decide) leading.1, UInt8.le_trans leading.2 (by decide)⟩
  rcases sub_le_of_digit firstDigit with ⟨firstSmall, firstEq⟩
  rcases sub_le_of_digit secondDigit with ⟨secondSmall, -⟩
  rcases sub_le_of_digit thirdDigit with ⟨thirdSmall, -⟩
  have inRange : 100 ≤ (first - 48).toNat * 100 + (second - 48).toNat * 10 + (third - 48).toNat ∧
      (first - 48).toNat * 100 + (second - 48).toNat * 10 + (third - 48).toNat ≤ 599 := by
    have nineEq : (9 : UInt8).toNat = 9 := rfl
    have lowEq : (49 : UInt8).toNat = 49 := rfl
    have highEq : (53 : UInt8).toNat = 53 := rfl
    simp only [UInt8.lt_iff_toNat_lt, UInt8.le_iff_toNat_le] at *
    omega
  simp only [parse, firstSmall, secondSmall, thirdSmall]
  rw [tryNew, dif_pos inRange]
  rfl

/-- The octets, as far as there are any, start with the digits of a code. -/
def startsLikeStatus (later : Bytes) : Bool :=
  later.head?.all (fun byte => 49 ≤ byte ∧ byte ≤ 53) && (later.take 3).all isAsciiDigit

variable {later : Bytes}

/-- A line feed is not a digit, so a line behind the digits of a code has all three. -/
theorem plausibleStatusPrefix_of_startsLikeStatus {part : Bytes}
    (starts : startsLikeStatus later = true) (isPart : part <+: later) :
    plausibleStatusPrefix part = true := by
  rw [startsLikeStatus, Bool.and_eq_true] at starts
  have digits : ∀ byte ∈ part.take 3, isAsciiDigit byte = true := by
    intro byte found
    exact all_eq_true.mp starts.2 byte ((isPart.take 3).subset found)
  cases part with
  | nil => rfl
  | cons byte part =>
    have leading : 49 ≤ byte ∧ byte ≤ 53 := by
      rcases isPart with ⟨rest, rfl⟩
      exact of_decide_eq_true starts.1
    rw [plausibleStatusPrefix, if_pos leading]
    cases lineFound : statusLineLen (byte :: part) with
    | none => exact all_eq_true.mpr digits
    | some lineLen =>
      rcases statusLineLen_eq_some_iff.mp lineFound with ⟨text, rest, -, partEq, lineLenEq⟩
      have lineEq : (byte :: part).take lineLen = text ++ [lf] := by
        rw [partEq, lineLenEq, append_cons, take_left' (by simp)]
      have lfIsLater : lf ∉ (byte :: part).take 3 := by
        intro found
        exact absurd (digits lf found) (by decide)
      rw [partEq] at digits lfIsLater
      simp only [lineEq]
      rcases text with _ | ⟨first, _ | ⟨second, _ | ⟨third, text⟩⟩⟩
      · simp at lfIsLater
      · simp at lfIsLater
      · simp at lfIsLater
      · rw [cons_append, cons.injEq] at partEq
        rw [partEq.1] at leading
        apply parse_isSome_of_digits leading
        · exact digits second (by simp)
        · exact digits third (by simp)

theorem startsLikeStatus_iff :
    startsLikeStatus later = true ↔ ∀ part, part <+: later → plausibleStatusPrefix part = true := by
  constructor
  · intro starts part isPart
    exact plausibleStatusPrefix_of_startsLikeStatus starts isPart
  · intro allAccepted
    cases later with
    | nil => rfl
    | cons byte rest =>
      have first := allAccepted _ ( take_prefix 3 (byte :: rest))
      rw [take_succ_cons, plausibleStatusPrefix] at first
      rw [startsLikeStatus, Bool.and_eq_true]
      split at first
      next leading =>
        refine ⟨decide_eq_true leading, ?_⟩
        split at first
        next lineLen lineFound =>
          rcases Option.isSome_iff_exists.mp first with ⟨status, parsed⟩
          rcases digits_of_parse parsed with
            ⟨one, two, three, tail, lineEq, -, oneDigit, twoDigit, threeDigit⟩
          have linePart : one :: two :: three :: tail <+: byte :: rest.take 2 := by
            rw [← lineEq]
            exact take_prefix _ _
          rcases rest with _ | ⟨second, _ | ⟨third, rest⟩⟩
          · simp at linePart
          · simp at linePart
          · simp only [take_succ_cons, take_zero, cons_prefix_cons] at linePart
            simp [← linePart.1, ← linePart.2.1, ← linePart.2.2.1, oneDigit, twoDigit, threeDigit]
        next => simpa [take_take] using first
      next => simp at first

/-- Every part of a stream that starts with a response can be the start of a
status line. -/
theorem plausibleStatusPrefix_of_response {kind : RequestKind} (response : Response kind)
    {part rest : Bytes} (isPart : part <+: response.bytes ++ rest) :
    plausibleStatusPrefix part = true := by
  rcases digits_of_parse response.code with
    ⟨first, second, third, tail, lineEq, leading, firstDigit, secondDigit, thirdDigit⟩
  apply plausibleStatusPrefix_of_startsLikeStatus _ isPart
  rw [Response.bytes, lineEq]
  simp [startsLikeStatus, leading, firstDigit, secondDigit, thirdDigit]

/-! ## The window of a response -/

variable {seen front : Bytes}

section

variable (ends : firstEnd (endsWith terminator) seen front = some front.length)
    (noDot : ¬ [dot, cr, lf] <+: later)

include ends noDot

theorem not_collision_of_noDot (isPart : chunk <+: front ++ later) :
    ¬ Collision seen chunk := by
  intro collision
  have atOne := firstEnd_terminator_of_collision collision
  rcases collision.2 with ⟨behind, rfl⟩
  rcases isPart with ⟨rest, joined⟩
  have whole := firstEnd_append_of_some atOne rest
  have full := firstEnd_append_of_some ends later
  rw [← joined] at full
  have single : front.length = 1 :=
    (Option.some.inj (whole.symm.trans full)).symm
  apply noDot
  refine ⟨behind ++ rest, ?_⟩
  have dropped := congrArg (drop front.length) joined
  rw [drop_left' rfl, single] at dropped
  simpa using dropped

/-- A chunk of a response in its body, followed by octets that the policy accepts, is split
exactly at the end of the response. -/
theorem splitChunk_of_accepts (accepts : ∀ packed, packed <+: later →
      endsResponse policy (front ++ packed) front.length = true)
    (isPart : chunk <+: front ++ later) :
    (ofSeen seen).splitChunk chunk policy =
      some (if front.length ≤ chunk.length then
          (.complete front.length, ofSeen seen)
        else (.incomplete, ofSeen (seen ++ chunk))) := by
  have clean := not_collision_of_noDot ends noDot isPart
  by_cases reached : front.length ≤ chunk.length
  · rw [if_pos reached]
    have frontPart : front <+: chunk :=
      prefix_of_prefix_length_le (prefix_append _ _) isPart reached
    rcases frontPart with ⟨packed, rfl⟩
    have found : (ofSeen seen).nextTerminatorEnd (front ++ packed) =
        some front.length := by
      rw [nextTerminatorEnd_eq_firstEnd clean, firstEnd_append_of_some ends]
    exact splitChunk_of_some found
      (accepts packed ((prefix_append_right_inj front).mp isPart))
  · rw [if_neg reached]
    have chunkPart : chunk <+: front :=
      prefix_of_prefix_length_le isPart (prefix_append _ _)
        (Nat.le_of_lt (Nat.lt_of_not_le reached))
    have missing := firstEnd_of_short ends chunkPart reached
    rw [splitChunk_of_none
      (by rw [nextTerminatorEnd_eq_firstEnd clean, missing]),
      update_ofSeen]

/-- A chunk of a response in its body, followed by octets that can only start a
status line, is split exactly at the end of the response. -/
theorem splitChunk_ofSeen
    (looksLikeStatus : ∀ part, part <+: later → plausibleStatusPrefix part = true)
    (isPart : chunk <+: front ++ later) :
    (ofSeen seen).splitChunk chunk .allowIfStatusPrefix =
      some (if front.length ≤ chunk.length then
          (.complete front.length, ofSeen seen)
        else (.incomplete, ofSeen (seen ++ chunk))) := by
  apply splitChunk_of_accepts ends noDot _ isPart
  intro packed isPacked
  simp [endsResponse, looksLikeStatus packed isPacked]

end

/-- A chunk of a response that nothing follows is split at the end of the response, whatever
the policy is. -/
theorem splitChunk_isolated (policy : PackedPendingBytesPolicy)
    (ends : firstEnd (endsWith terminator) seen front = some front.length)
    (isPart : chunk <+: front) :
    (ofSeen seen).splitChunk chunk policy =
      some (if front.length ≤ chunk.length then
          (.complete front.length, ofSeen seen)
        else (.incomplete, ofSeen (seen ++ chunk))) := by
  have whole : chunk <+: front ++ [] := by rwa [append_nil]
  apply splitChunk_of_accepts ends (by simp) _ whole
  intro packed isPacked
  simp [endsResponse, prefix_nil.mp isPacked]

end NntpProxy.Framing
