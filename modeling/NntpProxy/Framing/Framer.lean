import NntpProxy.Protocol.Status
import NntpProxy.Stream.Pattern

/-!
# The multiline framer

`MultilineFramer` keeps the last four octets of a response between reads.  A
terminator that spans a cut is found by comparing both sides of the cut, one
split position after the other; a terminator inside the chunk is found by the
substring scanner.  The split after one octet is tried before the split after
four, so when both match the later end is reported: `nextTerminatorEnd_eq_firstEnd`
holds outside that collision and `nextTerminatorEnd_of_collision` says what is
reported inside it.
-/

namespace NntpProxy.Framing

open Protocol NntpProxy.Stream List

/-- The octets that close a multiline block. -/
def terminator : Bytes :=
  [cr, lf, dot, cr, lf]

/-- How many octets the framer keeps between reads. -/
abbrev terminatorTailSize : Nat := 4

@[simp]
theorem length_terminator : terminator.length = 5 :=
  rfl

theorem terminator_ne_nil : terminator ≠ [] := by
  simp [terminator]

theorem terminator_suffix_line_iff {text next : Bytes} (nonempty : next ≠ []) :
    terminator <:+ (text ++ [lf]).rtake 2 ++ next ↔ terminator <:+ text ++ [lf] ++ next := by
  rcases Nat.lt_or_ge next.length 3 with short | long
  · constructor
    · intro suffix
      have := suffix.length_le
      simp only [length_append, length_rtake, length_terminator] at this
      omega
    · intro suffix
      rw [suffix_append_iff (by rw [length_terminator]; omega), length_terminator] at suffix
      rcases suffix.1 with ⟨front, joined⟩
      have lengths : next.length = 1 ∨ next.length = 2 := by
        have := length_pos_iff.mpr nonempty
        omega
      rcases lengths with one | two
      · rw [one] at joined
        have split : (front ++ [cr, lf, dot]) ++ [cr] = text ++ [lf] := by
          simpa [terminator] using joined
        exact absurd (append_inj' split rfl).2 (by decide)
      · rw [two] at joined
        have split : (front ++ [cr, lf]) ++ [dot] = text ++ [lf] := by
          simpa [terminator] using joined
        exact absurd (append_inj' split rfl).2 (by decide)
  · exact suffix_rtake_append_iff (by rw [length_terminator]; omega)

theorem firstEnd_rtake_line (text rest : Bytes) :
    firstEnd (endsWith terminator) ((text ++ [lf]).rtake 2) rest =
      firstEnd (endsWith terminator) (text ++ [lf]) rest := by
  apply firstEnd_congr
  intro m positive bound
  have nonempty : rest.take m ≠ [] := by
    intro isEmpty
    have := congrArg length isEmpty
    simp only [length_take, length_nil] at this
    omega
  simp only [endsWith, terminator_suffix_line_iff nonempty]

/-- The last octets of a response that is still open. -/
structure MultilineFramer where
  tail : Bytes
  tail_le : tail.length ≤ terminatorTailSize
  deriving DecidableEq, Repr

variable {tail : Bytes}

namespace MultilineFramer

/-- A framer that has seen nothing. -/
def empty : MultilineFramer :=
  ⟨[], by simp⟩

/-- The kept octets after a chunk.  A chunk shorter than the window shifts the
octets kept before it. -/
def rollTail (tail chunk : Bytes) : Bytes :=
  if terminatorTailSize ≤ chunk.length then
    chunk.drop (chunk.length - terminatorTailSize)
  else if chunk ≠ [] then
    if terminatorTailSize ≤ tail.length + chunk.length then
      let keep := terminatorTailSize - chunk.length
      tail.drop (tail.length - keep) ++ chunk
    else tail ++ chunk
  else tail

theorem rollTail_eq_rtake (bounded : tail.length ≤ terminatorTailSize)
    (chunk : Bytes) : rollTail tail chunk = (tail ++ chunk).rtake terminatorTailSize := by
  simp only [rollTail, rtake, length_append, drop_append, terminatorTailSize]
    at bounded ⊢
  split
  · have tailDropped : tail.drop (tail.length + chunk.length - 4) = [] :=
      drop_eq_nil_of_le (by omega)
    rw [tailDropped]
    congr 1
    omega
  · split
    · split
      · have noneDropped : tail.length + chunk.length - 4 - tail.length = 0 := by omega
        rw [noneDropped]
        congr 2
        omega
      · have noneDropped : tail.length + chunk.length - 4 = 0 := by omega
        simp only [noneDropped, Nat.zero_sub, drop_zero]
    · have empty : chunk = [] := by simpa using ‹¬ chunk ≠ []›
      have noneDropped : tail.length - 4 = 0 := by omega
      simp [empty, noneDropped]

/-- Update the framer with the last octets of a chunk. -/
def update (framer : MultilineFramer) (chunk : Bytes) : MultilineFramer :=
  ⟨rollTail framer.tail chunk, by
    rw [rollTail_eq_rtake framer.tail_le, length_rtake]
    exact Nat.min_le_left _ _⟩

/-- A framer whose tail is the rolling tail of everything `seen`. -/
def ofSeen (seen : Bytes) : MultilineFramer :=
  ⟨seen.rtake terminatorTailSize, by rw [length_rtake]; exact Nat.min_le_left _ _⟩

/-- Rolling over a chunk keeps the tail of everything seen. -/
theorem update_ofSeen (seen chunk : Bytes) :
    (ofSeen seen).update chunk = ofSeen (seen ++ chunk) := by
  simp only [update, ofSeen, mk.injEq]
  refine (rollTail_eq_rtake (ofSeen seen).tail_le chunk).trans ?_
  exact rtake_rtake_append terminatorTailSize seen chunk

@[simp]
theorem ofSeen_nil : ofSeen [] = empty :=
  rfl

theorem update_empty (chunk : Bytes) : empty.update chunk = ofSeen chunk := by
  rw [← ofSeen_nil, update_ofSeen, nil_append]

end MultilineFramer

/-! ## Terminators that span a cut -/

/-- The terminator is split after its first `n` octets: the tail ends with them
and the current chunk starts with the others. -/
def splitAfter (n : Nat) (tail current : Bytes) : Bool :=
  decide (n ≤ tail.length ∧ terminator.length - n ≤ current.length ∧
    tail.drop (tail.length - n) = terminator.take n ∧
    current.take (terminator.length - n) = terminator.drop n)

/-- Offset in the current chunk at which a terminator begun in the tail ends.
The split positions are tried in the order of the source. -/
def findSpanningTerminator (tail current : Bytes) : Option Nat :=
  if tail.length < 1 ∨ current.length < 1 then none
  else if splitAfter 1 tail current then some 4
  else if splitAfter 2 tail current then some 3
  else if splitAfter 3 tail current then some 2
  else if splitAfter 4 tail current then some 1
  else none

/-- A split position matches exactly when the octets up to that offset end with
the terminator. -/
theorem splitAfter_iff_suffix {n : Nat} (positive : 0 < n) (short : n < 5)
    (tail current : Bytes) :
    splitAfter n tail current = true ↔
      5 - n ≤ current.length ∧ terminator <:+ tail ++ current.take (5 - n) := by
  have suffixIff (currentLong : 5 - n ≤ current.length) :
      terminator <:+ tail ++ current.take (5 - n) ↔
        terminator.take n <:+ tail ∧ terminator.drop n = current.take (5 - n) := by
    have takeLength : (current.take (5 - n)).length = 5 - n :=
      length_take_of_le currentLong
    have position : 5 - (5 - n) = n := by omega
    rw [suffix_append_iff (by rw [takeLength, length_terminator]; omega), takeLength,
      length_terminator, position]
  rw [splitAfter, decide_eq_true_iff]
  constructor
  · rintro ⟨tailLong, currentLong, tailEnd, currentStart⟩
    refine ⟨currentLong, (suffixIff currentLong).mpr ?_⟩
    exact ⟨tailEnd ▸ drop_suffix _ _, currentStart.symm⟩
  · rintro ⟨currentLong, suffix⟩
    rcases (suffixIff currentLong).mp suffix with ⟨tailEnd, currentStart⟩
    have prefixLength : (terminator.take n).length = n := by
      simp only [length_take, length_terminator]
      omega
    have tailLong := tailEnd.length_le
    have tailDrop := suffix_iff_eq_drop.mp tailEnd
    rw [prefixLength] at tailLong tailDrop
    exact ⟨tailLong, currentLong, tailDrop.symm, currentStart.symm⟩

/-- The tail ends with all but the last octet of a terminator and the chunk goes
on with that octet and `.CRLF`, so that two terminators overlap at the cut. -/
def Collision (seen chunk : Bytes) : Prop :=
  [cr, lf, dot, cr] <:+ seen ∧ [lf, dot, cr, lf] <+: chunk

instance (seen chunk : Bytes) : Decidable (Collision seen chunk) :=
  inferInstanceAs (Decidable (_ ∧ _))

variable {current : Bytes}

/-- A reported offset comes from the split position that it belongs to. -/
theorem splitAfter_of_findSpanningTerminator {n : Nat}
    (found : findSpanningTerminator tail current = some n) :
    0 < n ∧ n < 5 ∧ splitAfter (5 - n) tail current = true := by
  unfold findSpanningTerminator at found
  split_ifs at found with _ one two three four
  all_goals obtain rfl := Option.some.inj found
  · exact ⟨by omega, by omega, one⟩
  · exact ⟨by omega, by omega, two⟩
  · exact ⟨by omega, by omega, three⟩
  · exact ⟨by omega, by omega, four⟩

/-- A reported offset is the end of a terminator. -/
theorem findSpanningTerminator_sound {n : Nat}
    (found : findSpanningTerminator tail current = some n) :
    0 < n ∧ n < 5 ∧ n ≤ current.length ∧ terminator <:+ tail ++ current.take n := by
  obtain ⟨positive, short, split⟩ := splitAfter_of_findSpanningTerminator found
  rw [splitAfter_iff_suffix (by omega) (by omega)] at split
  have position : 5 - (5 - n) = n := by omega
  rw [position] at split
  exact ⟨positive, short, split⟩

theorem findSpanningTerminator_complete (missing : findSpanningTerminator tail current = none)
    {m : Nat} (positive : 0 < m) (short : m < 5)
    (bound : m ≤ current.length) : ¬ terminator <:+ tail ++ current.take m := by
  intro suffix
  have split : splitAfter (5 - m) tail current = true := by
    rw [splitAfter_iff_suffix (by omega) (by omega)]
    have position : 5 - (5 - m) = m := by omega
    rw [position]
    exact ⟨bound, suffix⟩
  have tailLong : 5 - m ≤ tail.length := (decide_eq_true_iff.mp split).1
  have cases : 5 - m = 1 ∨ 5 - m = 2 ∨ 5 - m = 3 ∨ 5 - m = 4 := by omega
  unfold findSpanningTerminator at missing
  split_ifs at missing with nothing one two three four
  · omega
  · rcases cases with position | position | position | position <;> rw [position] at split <;>
      contradiction

/-- The two parts of a terminator that ends inside the reach of the tail. -/
private theorem spanning_parts {m : Nat} (short : m < 5) (bound : m ≤ current.length)
    (suffix : terminator <:+ tail ++ current.take m) :
    terminator.take (5 - m) <:+ tail ∧ terminator.drop (5 - m) <+: current := by
  have takeLength : (current.take m).length = m := by
    simp only [length_take]
    omega
  rw [suffix_append_iff (by rw [takeLength, length_terminator]; omega), takeLength,
    length_terminator] at suffix
  exact ⟨suffix.1, suffix.2 ▸ take_prefix m current⟩

theorem collision_of_two_spanning {m n : Nat} (positive : 0 < m) (shorter : m < n) (short : n < 5)
    (bound : n ≤ current.length) (first : terminator <:+ tail ++ current.take m)
    (second : terminator <:+ tail ++ current.take n) : m = 1 ∧ n = 4 ∧ Collision tail current := by
  obtain ⟨firstTail, -⟩ := spanning_parts (by omega) (by omega) first
  obtain ⟨secondTail, secondCurrent⟩ := spanning_parts short bound second
  have nested : terminator.take (5 - n) <:+ terminator.take (5 - m) := by
    apply suffix_of_suffix_length_le secondTail firstTail
    simp only [length_take]
    omega
  have overlap : ∀ m n : Fin 5, 0 < m → m < n →
      terminator.take (5 - n) <:+ terminator.take (5 - m) → m = 1 ∧ n = 4 := by decide
  obtain ⟨mEq, nEq⟩ := overlap ⟨m, by omega⟩ ⟨n, short⟩ positive shorter nested
  obtain rfl : m = 1 := congrArg Fin.val mEq
  obtain rfl : n = 4 := congrArg Fin.val nEq
  exact ⟨rfl, rfl, firstTail, secondCurrent⟩

variable {seen chunk : Bytes}

namespace MultilineFramer

section

variable (framer : MultilineFramer) (chunk : Bytes)

/-- Spanning search from the framer's own tail. -/
def findSpanningTerminator : Option Nat :=
  if framer.tail.length = 0 then none
  else Framing.findSpanningTerminator framer.tail chunk

/-- The end that the framer reports for a chunk: a spanning terminator first,
otherwise the first terminator inside the chunk. -/
def nextTerminatorEnd : Option Nat :=
  (framer.findSpanningTerminator chunk).orElse fun _ => (matchEnds terminator chunk).head?

/-- The reported end, with the framer rolled over the chunk when there is none. -/
def advanceToNextTerminatorEnd :
    Option Nat × MultilineFramer :=
  match framer.nextTerminatorEnd chunk with
  | some consumed => (some consumed, framer)
  | none => (none, framer.update chunk)

theorem findSpanningTerminator_eq :
    framer.findSpanningTerminator chunk = Framing.findSpanningTerminator framer.tail chunk := by
  unfold findSpanningTerminator
  split
  · rw [Framing.findSpanningTerminator, if_pos (Or.inl (by omega))]
  · rfl

end

/-- Outside a collision the framer reports the first end of the terminator in
everything seen. -/
theorem nextTerminatorEnd_eq_firstEnd (clean : ¬ Collision seen chunk) :
    (ofSeen seen).nextTerminatorEnd chunk = firstEnd (endsWith terminator) seen chunk := by
  rw [nextTerminatorEnd, findSpanningTerminator_eq, ← firstEnd_rtake (n := 4) (by simp)]
  change (Framing.findSpanningTerminator (seen.rtake 4) chunk).orElse _ = _
  cases found : Framing.findSpanningTerminator (seen.rtake 4) chunk with
  | some n =>
    obtain ⟨positive, short, bound, suffix⟩ := findSpanningTerminator_sound found
    rw [Option.orElse_some, eq_comm, firstEnd_eq_some_iff]
    refine ⟨positive, bound, by simpa using suffix, ?_⟩
    intro m mPositive shorter
    rw [endsWith_eq_false_iff]
    intro earlier
    obtain ⟨-, -, tailEnd, chunkStart⟩ :=
      collision_of_two_spanning mPositive shorter short bound earlier suffix
    exact clean ⟨tailEnd.trans (rtake_suffix 4 seen), chunkStart⟩
  | none =>
    rw [head?_matchEnds_eq_firstEnd terminator_ne_nil, eq_comm]
    apply firstEnd_eq_of_not_spanning
    intro m positive short bound
    exact findSpanningTerminator_complete found positive (by simpa using short) bound

theorem firstEnd_terminator_of_collision (collision : Collision seen chunk) :
    firstEnd (endsWith terminator) seen chunk = some 1 := by
  rcases collision with ⟨⟨start, rfl⟩, ⟨rest, rfl⟩⟩
  apply firstEnd_cons_of_done
  exact (endsWith_eq_true_iff _ _).mpr ⟨start, by simp [terminator]⟩

theorem nextTerminatorEnd_of_collision (collision : Collision seen chunk) :
    (ofSeen seen).nextTerminatorEnd chunk = some 4 := by
  obtain ⟨tailEnd, chunkStart⟩ := collision
  have tailRtake : seen.rtake 4 = [cr, lf, dot, cr] := by
    have := suffix_iff_eq_drop.mp tailEnd
    simpa [rtake] using this.symm
  obtain ⟨rest, rfl⟩ := chunkStart
  rw [nextTerminatorEnd, findSpanningTerminator_eq]
  change (Framing.findSpanningTerminator (seen.rtake 4) _).orElse _ = _
  rw [tailRtake]
  simp [Framing.findSpanningTerminator, splitAfter, terminator]

/-- The framer's answer for a chunk and the state it is left in. -/
theorem advanceToNextTerminatorEnd_ofSeen (clean : ¬ Collision seen chunk) :
    (ofSeen seen).advanceToNextTerminatorEnd chunk =
      match firstEnd (endsWith terminator) seen chunk with
      | some consumed => (some consumed, ofSeen seen)
      | none => (none, ofSeen (seen ++ chunk)) := by
  rw [advanceToNextTerminatorEnd, nextTerminatorEnd_eq_firstEnd clean]
  cases firstEnd (endsWith terminator) seen chunk with
  | some consumed => rfl
  | none => simp [update_ofSeen]

end MultilineFramer

end NntpProxy.Framing
