import NntpProxy.Stream.FirstEnd

/-!
# Occurrences of a pattern and rolling tails

A pattern ends where the consumed prefix has it as a suffix.  Whether it does is
decided by the last `pattern.length - 1` items seen before the current chunk,
the rolling tail, so a scanner has to keep no more than that between chunks.
Ends inside the tail's reach are found by comparing both sides of the cut;
later ones are found inside the chunk alone.
-/

namespace NntpProxy.Stream

open List

universe u

variable {α : Type u} [DecidableEq α]

/-- The consumed prefix ends with `pattern`. -/
def endsWith (pattern seen : List α) : Bool :=
  decide (pattern <:+ seen)

@[simp]
theorem endsWith_eq_true_iff (pattern seen : List α) :
    endsWith pattern seen = true ↔ pattern <:+ seen := by
  simp [endsWith]

@[simp]
theorem endsWith_eq_false_iff (pattern seen : List α) :
    endsWith pattern seen = false ↔ ¬ pattern <:+ seen := by
  simp [endsWith]

/-! ## Suffixes across a cut -/

variable {pattern : List α}

omit [DecidableEq α] in
/-- A suffix at least as long as the second part straddles the cut. -/
theorem suffix_append_iff {first second : List α} (long : second.length ≤ pattern.length) :
    pattern <:+ first ++ second ↔
      pattern.take (pattern.length - second.length) <:+ first ∧
        pattern.drop (pattern.length - second.length) = second := by
  constructor
  · rintro ⟨front, joined⟩
    have split : (front ++ pattern.take (pattern.length - second.length)) ++
        pattern.drop (pattern.length - second.length) = first ++ second := by
      rw [append_assoc, take_append_drop, joined]
    have lengths : (pattern.drop (pattern.length - second.length)).length = second.length := by
      simp only [length_drop]
      omega
    obtain ⟨left, right⟩ := append_inj' split lengths
    exact ⟨⟨front, left⟩, right⟩
  · rintro ⟨⟨front, left⟩, right⟩
    refine ⟨front, ?_⟩
    calc
      front ++ pattern =
          (front ++ pattern.take (pattern.length - second.length)) ++
            pattern.drop (pattern.length - second.length) := by
        rw [append_assoc, take_append_drop]
      _ = first ++ second := by rw [left, right]

omit [DecidableEq α] in
/-- A suffix no longer than the second part lies inside it. -/
theorem suffix_append_iff_of_le {first second : List α} (short : pattern.length ≤ second.length) :
    pattern <:+ first ++ second ↔ pattern <:+ second := by
  constructor
  · intro suffix
    exact suffix_of_suffix_length_le suffix (suffix_append first second) short
  · intro suffix
    exact suffix.trans (suffix_append first second)

/-! ## Rolling tails -/

omit [DecidableEq α] in
/-- Rolling the tail chunk by chunk keeps the tail of everything seen. -/
theorem rtake_rtake_append (n : Nat) (seen chunk : List α) :
    (seen.rtake n ++ chunk).rtake n = (seen ++ chunk).rtake n := by
  simp only [rtake, length_append, length_drop, drop_append, drop_drop]
  congr 2 <;> omega

omit [DecidableEq α] in
theorem rtake_suffix (n : Nat) (seen : List α) : seen.rtake n <:+ seen :=
  drop_suffix _ _

omit [DecidableEq α] in
theorem length_rtake (n : Nat) (seen : List α) : (seen.rtake n).length = min n seen.length := by
  simp only [rtake, length_drop]
  omega

omit [DecidableEq α] in
/-- A pattern no longer than the tail is a suffix of the tail whenever it is a
suffix of everything seen. -/
theorem suffix_rtake_iff {seen : List α} {n : Nat} (short : pattern.length ≤ n) :
    pattern <:+ seen.rtake n ↔ pattern <:+ seen := by
  constructor
  · intro suffix
    exact suffix.trans (rtake_suffix n seen)
  · intro suffix
    apply suffix_of_suffix_length_le suffix (rtake_suffix n seen)
    rw [length_rtake]
    exact le_min short suffix.length_le

omit [DecidableEq α] in
/-- The tail decides every suffix that reaches into the next chunk. -/
theorem suffix_rtake_append_iff {seen chunk : List α} {n : Nat}
    (reach : pattern.length ≤ n + chunk.length) :
    pattern <:+ seen.rtake n ++ chunk ↔ pattern <:+ seen ++ chunk := by
  rcases Nat.le_total pattern.length chunk.length with inside | straddles
  · rw [suffix_append_iff_of_le inside, suffix_append_iff_of_le inside]
  · rw [suffix_append_iff straddles, suffix_append_iff straddles,
      suffix_rtake_iff (by simp only [length_take]; omega)]

/-- Searching from the rolling tail finds what searching from everything seen finds. -/
theorem firstEnd_rtake {n : Nat} (covers : pattern.length ≤ n + 1) (seen rest : List α) :
    firstEnd (endsWith pattern) (seen.rtake n) rest = firstEnd (endsWith pattern) seen rest := by
  apply firstEnd_congr
  intro m positive bound
  have reach : pattern.length ≤ n + (rest.take m).length := by
    simp only [length_take]
    omega
  simp only [endsWith, suffix_rtake_append_iff reach]

/-- When nothing spans the cut the first end is found inside the chunk alone. -/
theorem firstEnd_eq_of_not_spanning {seen rest : List α}
    (noSpan : ∀ m, 0 < m → m < pattern.length → m ≤ rest.length →
      ¬ pattern <:+ seen ++ rest.take m) :
    firstEnd (endsWith pattern) seen rest = firstEnd (endsWith pattern) [] rest := by
  apply firstEnd_congr
  intro m positive bound
  have takeLength : (rest.take m).length = m := by
    simp only [length_take]
    omega
  rcases Nat.lt_or_ge m pattern.length with shorter | longer
  · have outside : ¬ pattern <:+ rest.take m := fun suffix => by
      have := suffix.length_le
      omega
    simp [endsWith, noSpan m positive shorter bound, outside]
  · simp only [endsWith, suffix_append_iff_of_le (takeLength ▸ longer)]

/-! ## Non-overlapping occurrences inside a chunk -/

/-- Ends of the occurrences of `pattern` from left to right, none of them
overlapping the one before.  `skip` items still belong to the last occurrence
and `offset` items of the chunk have been passed. -/
def matchEndsFrom (pattern : List α) : Nat → Nat → List α → List Nat
  | _, _, [] => []
  | 0, offset, x :: rest =>
    if pattern <+: x :: rest then
      (offset + pattern.length) :: matchEndsFrom pattern (pattern.length - 1) (offset + 1) rest
    else matchEndsFrom pattern 0 (offset + 1) rest
  | skip + 1, offset, _ :: rest => matchEndsFrom pattern skip (offset + 1) rest

/-- Ends of the non-overlapping occurrences of `pattern` in a chunk. -/
def matchEnds (pattern chunk : List α) : List Nat :=
  matchEndsFrom pattern 0 0 chunk

/-- The end of the leftmost occurrence. -/
def firstMatchEnd (pattern : List α) : List α → Option Nat
  | [] => none
  | x :: rest =>
    if pattern <+: x :: rest then some pattern.length
    else (firstMatchEnd pattern rest).map (· + 1)

/-- A pattern that is not empty has an end where it occurs. -/
theorem firstMatchEnd_eq_none_iff (nonempty : pattern ≠ []) (chunk : List α) :
    firstMatchEnd pattern chunk = none ↔ ¬ pattern <:+: chunk := by
  induction chunk with
  | nil => simp [firstMatchEnd, nonempty]
  | cons x rest ih =>
    by_cases here : pattern <+: x :: rest
    · simp [firstMatchEnd, here, here.isInfix]
    · simp [firstMatchEnd, here, ih, infix_cons_iff]

private theorem head?_matchEndsFrom (pattern : List α) (offset : Nat) (chunk : List α) :
    (matchEndsFrom pattern 0 offset chunk).head? =
      (firstMatchEnd pattern chunk).map (offset + ·) := by
  induction chunk generalizing offset with
  | nil => rfl
  | cons x rest ih =>
    by_cases here : pattern <+: x :: rest
    · simp [matchEndsFrom, firstMatchEnd, here]
    · simp only [matchEndsFrom, firstMatchEnd, here, if_false, ih, Option.map_map]
      congr 1
      funext n
      simp only [Function.comp_apply]
      omega

theorem head?_matchEnds (pattern chunk : List α) :
    (matchEnds pattern chunk).head? = firstMatchEnd pattern chunk := by
  simp [matchEnds, head?_matchEndsFrom]

omit [DecidableEq α] in
/-- A pattern ends at `m` in `x :: rest` only if it starts at `x` or ends in `rest`. -/
private theorem suffix_take_cons_iff {rest : List α} {x : α} {m : Nat} (bound : m ≤ rest.length) :
    pattern <:+ (x :: rest).take (m + 1) ↔
      (pattern.length = m + 1 ∧ pattern <+: x :: rest) ∨ pattern <:+ rest.take m := by
  rw [take_succ_cons, suffix_cons_iff]
  constructor
  · rintro (whole | inner)
    · left
      have short : pattern = (x :: rest).take (m + 1) := by simpa using whole
      refine ⟨?_, short ▸ take_prefix _ _⟩
      rw [short, length_take, length_cons]
      omega
    · exact Or.inr inner
  · rintro (⟨length, here⟩ | inner)
    · left
      have := prefix_iff_eq_take.mp here
      rw [length] at this
      simpa using this
    · exact Or.inr inner

/-- The leftmost occurrence of a non-empty pattern is the first prefix of the
chunk that ends with it. -/
theorem firstMatchEnd_eq_firstEnd (nonempty : pattern ≠ []) (chunk : List α) :
    firstMatchEnd pattern chunk = firstEnd (endsWith pattern) [] chunk := by
  have patternLength : 0 < pattern.length := length_pos_iff.mpr nonempty
  induction chunk with
  | nil => rfl
  | cons x rest ih =>
    by_cases here : pattern <+: x :: rest
    · have fits : pattern.length ≤ rest.length + 1 := by simpa using here.length_le
      rw [firstMatchEnd, if_pos here, eq_comm, firstEnd_eq_some_iff]
      refine ⟨patternLength, by simpa using fits, ?_, ?_⟩
      · simp only [nil_append, endsWith_eq_true_iff]
        rw [← prefix_iff_eq_take.mp here]
      · intro m positive shorter
        simp only [nil_append, endsWith_eq_false_iff]
        intro suffix
        have := suffix.length_le
        simp only [length_take] at this
        omega
    · rw [firstMatchEnd, if_neg here, ih]
      have shift : ∀ m, m ≤ rest.length →
          (pattern <:+ (x :: rest).take (m + 1) ↔ pattern <:+ rest.take m) := by
        intro m bound
        rw [suffix_take_cons_iff bound]
        exact or_iff_right fun both => here both.2
      cases found : firstEnd (endsWith pattern) [] rest with
      | none =>
        rw [firstEnd_eq_none_iff] at found
        rw [Option.map_none, eq_comm, firstEnd_eq_none_iff]
        intro m positive bound
        obtain ⟨k, rfl⟩ : ∃ k, m = k + 1 := ⟨m - 1, by omega⟩
        have inner : k ≤ rest.length := by simpa using bound
        simp only [nil_append, endsWith_eq_false_iff, shift k inner]
        cases k with
        | zero => simpa using nonempty
        | succ k => simpa using found (k + 1) (by omega) inner
      | some n =>
        rw [firstEnd_eq_some_iff] at found
        obtain ⟨positive, bound, holds, least⟩ := found
        rw [Option.map_some, eq_comm, firstEnd_eq_some_iff]
        refine ⟨by omega, by simpa using bound, ?_, ?_⟩
        · rw [endsWith_eq_true_iff, nil_append] at holds ⊢
          exact (shift n bound).mpr holds
        · intro m mPositive shorter
          obtain ⟨k, rfl⟩ : ∃ k, m = k + 1 := ⟨m - 1, by omega⟩
          simp only [nil_append, endsWith_eq_false_iff, shift k (by omega)]
          cases k with
          | zero => simpa using nonempty
          | succ k => simpa using least (k + 1) (by omega) (by omega)

theorem head?_matchEnds_eq_firstEnd (nonempty : pattern ≠ []) (chunk : List α) :
    (matchEnds pattern chunk).head? = firstEnd (endsWith pattern) [] chunk := by
  rw [head?_matchEnds, firstMatchEnd_eq_firstEnd nonempty]

end NntpProxy.Stream
