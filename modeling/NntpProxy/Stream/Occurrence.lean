import NntpProxy.Stream.Pattern

/-!
# First occurrences

A search is right when it reports the first place where a pattern stands, and nothing when the
pattern stands nowhere.  A search that has ruled out every place in front of an offset may go on
with what is left of the data.
-/

namespace NntpProxy.Stream

open List

universe u

variable {α : Type u}

/-- The reported place is the first one where the pattern stands, if there is one. -/
structure IsFirst (pattern data : List α) (found : Option Nat) : Prop where
  stands : ∀ start ∈ found, pattern <+: data.drop start
  first : ∀ start, pattern <+: data.drop start → ∃ earlier ∈ found, earlier ≤ start

variable {pattern data : List α}

theorem isFirst_none_iff : IsFirst pattern data none ↔ ∀ start, ¬ pattern <+: data.drop start := by
  constructor
  · intro isFirst start stands
    obtain ⟨_, nothing, _⟩ := isFirst.first start stands
    cases nothing
  · intro nowhere
    exact ⟨nofun, fun start stands => absurd stands (nowhere start)⟩

theorem isFirst_some_iff {found : Nat} :
    IsFirst pattern data (some found) ↔
      pattern <+: data.drop found ∧ ∀ start < found, ¬ pattern <+: data.drop start := by
  constructor
  · intro isFirst
    refine ⟨isFirst.stands found rfl, fun start before stands => ?_⟩
    obtain ⟨_, ⟨⟩, le⟩ := isFirst.first start stands
    exact absurd before (Nat.not_lt.mpr le)
  · rintro ⟨stands, least⟩
    constructor
    · rintro _ ⟨⟩
      exact stands
    · intro start later
      exact ⟨found, rfl, Nat.le_of_not_lt fun before => least start before later⟩

/-- There is one first place at most. -/
theorem IsFirst.unique {found other : Option Nat} (isFirst : IsFirst pattern data found)
    (again : IsFirst pattern data other) : found = other := by
  cases found with
  | none =>
    cases other with
    | none => rfl
    | some start => exact absurd (again.stands start rfl) (isFirst_none_iff.mp isFirst start)
  | some start =>
    obtain ⟨_, isOther, le⟩ := again.first start (isFirst.stands start rfl)
    obtain ⟨_, ⟨⟩, ge⟩ := isFirst.first _ (again.stands _ isOther)
    rw [isOther, Nat.le_antisymm le ge]

/-- A search may leave out a front part in which the pattern does not start. -/
theorem IsFirst.of_drop {offset : Nat} {found : Option Nat}
    (isFirst : IsFirst pattern (data.drop offset) found)
    (notBefore : ∀ start < offset, ¬ pattern <+: data.drop start) :
    IsFirst pattern data (found.map (offset + ·)) := by
  constructor
  · intro start isFound
    obtain ⟨left, isLeft, rfl⟩ := Option.map_eq_some_iff.mp isFound
    have stands := isFirst.stands left isLeft
    rwa [drop_drop] at stands
  · intro start stands
    obtain ⟨left, rfl⟩ := Nat.exists_eq_add_of_le
      (Nat.le_of_not_lt fun before => notBefore start before stands)
    rw [← drop_drop] at stands
    obtain ⟨earlier, isEarlier, le⟩ := isFirst.first left stands
    exact ⟨offset + earlier, Option.mem_map_of_mem _ isEarlier, Nat.add_le_add_left le _⟩

/-! ## Windows of a block -/

/-- A pattern inside a front part of the data stands in the data. -/
theorem prefix_drop_take_iff {start stop : Nat} (inside : start + pattern.length ≤ stop) :
    pattern <+: (data.take stop).drop start ↔ pattern <+: data.drop start := by
  rw [drop_take, prefix_take_iff]
  exact and_iff_left (Nat.le_sub_of_add_le' inside)

/-- What is first in a front part of the data is first in the data. -/
theorem IsFirst.of_take (nonempty : pattern ≠ []) {stop found : Nat}
    (isFirst : IsFirst pattern (data.take stop) (some found)) :
    IsFirst pattern data (some found) := by
  rw [isFirst_some_iff] at isFirst ⊢
  have positive := length_pos_iff.mpr nonempty
  have inside : found + pattern.length ≤ stop := by
    have fits := isFirst.1.length_le
    rw [length_drop, length_take] at fits
    omega
  constructor
  · exact (prefix_drop_take_iff inside).mp isFirst.1
  · intro start before stands
    have earlier : start + pattern.length ≤ stop :=
      (Nat.add_le_add_right (Nat.le_of_lt before) _).trans inside
    exact isFirst.2 start before ((prefix_drop_take_iff earlier).mpr stands)

variable [DecidableEq α]

/-- The place of the first window of a block that is the pattern. -/
def windowPosition (pattern block : List α) : Option Nat :=
  (range (block.length + 1 - pattern.length)).find? fun start =>
    (block.drop start).take pattern.length == pattern

theorem isFirst_windowPosition (nonempty : pattern ≠ []) (block : List α) :
    IsFirst pattern block (windowPosition pattern block) := by
  have positive := length_pos_iff.mpr nonempty
  have isWindow : ∀ start, pattern <+: block.drop start ↔
      start ∈ range (block.length + 1 - pattern.length) ∧
        ((block.drop start).take pattern.length == pattern) = true := by
    intro start
    rw [prefix_iff_eq_take, mem_range, beq_iff_eq]
    constructor
    · intro stands
      have fits := congrArg length stands
      rw [length_take, length_drop] at fits
      exact ⟨by omega, stands.symm⟩
    · rintro ⟨-, isPattern⟩
      exact isPattern.symm
  cases found : windowPosition pattern block with
  | none =>
    rw [isFirst_none_iff]
    intro start stands
    have isPattern := (isWindow start).mp stands
    exact find?_eq_none.mp found start isPattern.1 isPattern.2
  | some first =>
    rw [isFirst_some_iff]
    obtain ⟨isPattern, inRange, least⟩ := find?_range_eq_some.mp found
    refine ⟨(isWindow first).mpr ⟨inRange, isPattern⟩, fun start before stands => ?_⟩
    have notPattern := least start before
    rw [((isWindow start).mp stands).2] at notPattern
    cases notPattern

/-- The end of the leftmost occurrence lies behind its first place. -/
theorem IsFirst.firstMatchEnd_eq (nonempty : pattern ≠ []) {found : Option Nat}
    (isFirst : IsFirst pattern data found) :
    firstMatchEnd pattern data = found.map (· + pattern.length) := by
  induction data generalizing found with
  | nil =>
    have nowhere : IsFirst pattern [] none := by
      rw [isFirst_none_iff]
      intro start stands
      rw [drop_nil] at stands
      exact nonempty (prefix_nil.mp stands)
    rw [isFirst.unique nowhere]
    rfl
  | cons item rest ih =>
    rw [firstMatchEnd]
    split
    next here =>
      have atStart : IsFirst pattern (item :: rest) (some 0) := by
        rw [isFirst_some_iff]
        refine ⟨here, fun start before => ?_⟩
        cases before
      rw [isFirst.unique atStart, Option.map_some, Nat.zero_add]
    next notHere =>
      have later := isFirst_windowPosition nonempty rest
      have behind : IsFirst pattern (item :: rest) ((windowPosition pattern rest).map (1 + ·)) := by
        refine IsFirst.of_drop (by exact later) fun start before => ?_
        rwa [Nat.lt_one_iff.mp before]
      rw [isFirst.unique behind, ih later, Option.map_map, Option.map_map]
      congr 1
      funext start
      simp only [Function.comp_apply]
      omega

end NntpProxy.Stream
