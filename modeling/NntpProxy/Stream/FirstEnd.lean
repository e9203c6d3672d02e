import Mathlib

/-!
# Frames recognised on their consumed prefix

A frame of a stream ends at the shortest non-empty prefix that satisfies a
predicate.  `firstEnd` computes that length when part of the frame has been
consumed already.  The composition law `firstEnd_append` is what makes the end
of a frame independent of the way a stream is cut into reads: the bytes seen so
far are the only thing that has to be carried across a cut.
-/

namespace NntpProxy.Stream

universe u

variable {α : Type u}

/-! ## Cuttings -/

/-- `reads` is a cutting of `stream` into non-empty reads. -/
structure IsCutting (reads : List (List α)) (stream : List α) : Prop where
  flatten_eq : reads.flatten = stream
  nonempty : ∀ read ∈ reads, read ≠ []

theorem isCutting_nil_iff (stream : List α) : IsCutting [] stream ↔ stream = [] := by
  constructor
  · intro cutting
    exact cutting.flatten_eq.symm
  · rintro rfl
    exact ⟨rfl, by simp⟩

theorem IsCutting.stream_ne_nil {read : List α} {reads : List (List α)} {stream : List α}
    (cutting : IsCutting (read :: reads) stream) : stream ≠ [] := by
  rw [← cutting.flatten_eq]
  simp [cutting.nonempty read List.mem_cons_self]

variable {first : List α}

/-- A stream received in two non-empty reads. -/
theorem isCutting_pair {second : List α} (firstNonempty : first ≠ [])
    (secondNonempty : second ≠ []) : IsCutting [first, second] (first ++ second) :=
  ⟨by simp, by simp [firstNonempty, secondNonempty]⟩

/-- A non-empty front part of a stream can be its first read. -/
theorem exists_isCutting (firstNonempty : first ≠ []) (rest : List α) :
    ∃ reads, IsCutting (first :: reads) (first ++ rest) := by
  cases rest with
  | nil => exact ⟨[], by simp, by simp [firstNonempty]⟩
  | cons next rest => exact ⟨[next :: rest], isCutting_pair firstNonempty (by simp)⟩

/-! ## The end of a frame -/

/-- The length of the shortest non-empty prefix of the unread stream that,
appended to the bytes already `seen`, satisfies `done`. -/
def firstEnd (done : List α → Bool) (seen : List α) : List α → Option Nat
  | [] => none
  | x :: rest =>
    if done (seen ++ [x]) then some 1
    else (firstEnd done (seen ++ [x]) rest).map (· + 1)

@[simp]
theorem firstEnd_nil (done : List α → Bool) (seen : List α) : firstEnd done seen [] = none :=
  rfl

variable {done : List α → Bool} {seen : List α}

theorem firstEnd_cons_of_done {x : α} (complete : done (seen ++ [x]) = true) (rest : List α) :
    firstEnd done seen (x :: rest) = some 1 := by
  simp [firstEnd, complete]

theorem firstEnd_cons_of_not_done {x : α} (incomplete : done (seen ++ [x]) = false)
    (rest : List α) :
    firstEnd done seen (x :: rest) = (firstEnd done (seen ++ [x]) rest).map (· + 1) := by
  simp [firstEnd, incomplete]

variable {rest : List α}

variable {n : Nat}

/-- A reported end satisfies the predicate and lies inside the unread stream. -/
theorem firstEnd_sound (found : firstEnd done seen rest = some n) :
    0 < n ∧ n ≤ rest.length ∧ done (seen ++ rest.take n) = true := by
  induction rest generalizing seen n with
  | nil => simp at found
  | cons x rest ih =>
    cases complete : done (seen ++ [x]) with
    | true =>
      rw [firstEnd_cons_of_done complete] at found
      obtain rfl := Option.some.inj found
      simpa using complete
    | false =>
      rw [firstEnd_cons_of_not_done complete, Option.map_eq_some_iff] at found
      obtain ⟨m, inner, rfl⟩ := found
      obtain ⟨_, bound, holds⟩ := ih inner
      exact ⟨by omega, by simpa using bound, by simpa using holds⟩

/-- No shorter non-empty prefix than the reported end satisfies the predicate. -/
theorem firstEnd_least {m : Nat} (found : firstEnd done seen rest = some n) (positive : 0 < m)
    (shorter : m < n) : done (seen ++ rest.take m) = false := by
  induction rest generalizing seen n m with
  | nil => simp at found
  | cons x rest ih =>
    cases complete : done (seen ++ [x]) with
    | true =>
      rw [firstEnd_cons_of_done complete] at found
      obtain rfl := Option.some.inj found
      omega
    | false =>
      rw [firstEnd_cons_of_not_done complete, Option.map_eq_some_iff] at found
      obtain ⟨k, inner, rfl⟩ := found
      cases m with
      | zero => omega
      | succ m =>
        cases m with
        | zero => simpa using complete
        | succ m => simpa using ih inner (Nat.succ_pos m) (by omega)

/-- Nothing is reported exactly when no non-empty prefix satisfies the predicate. -/
theorem firstEnd_eq_none_iff :
    firstEnd done seen rest = none ↔
      ∀ m, 0 < m → m ≤ rest.length → done (seen ++ rest.take m) = false := by
  constructor
  · intro missing m positive bound
    induction rest generalizing seen m with
    | nil => simp at bound; omega
    | cons x rest ih =>
      cases complete : done (seen ++ [x]) with
      | true => simp [firstEnd_cons_of_done complete] at missing
      | false =>
        rw [firstEnd_cons_of_not_done complete, Option.map_eq_none_iff] at missing
        cases m with
        | zero => omega
        | succ m =>
          cases m with
          | zero => simpa using complete
          | succ m => simpa using ih missing (m + 1) (by omega) (by simpa using bound)
  · intro never
    cases found : firstEnd done seen rest with
    | none => rfl
    | some n =>
      obtain ⟨positive, bound, holds⟩ := firstEnd_sound found
      rw [never n positive bound] at holds
      exact absurd holds (by simp)

theorem firstEnd_eq_some_iff :
    firstEnd done seen rest = some n ↔
      0 < n ∧ n ≤ rest.length ∧ done (seen ++ rest.take n) = true ∧
        ∀ m, 0 < m → m < n → done (seen ++ rest.take m) = false := by
  constructor
  · intro found
    obtain ⟨positive, bound, holds⟩ := firstEnd_sound found
    exact ⟨positive, bound, holds, fun m => firstEnd_least found⟩
  · rintro ⟨positive, bound, holds, least⟩
    cases found : firstEnd done seen rest with
    | none =>
      rw [firstEnd_eq_none_iff.mp found n positive bound] at holds
      exact absurd holds (by simp)
    | some k =>
      obtain ⟨kPositive, _, kHolds⟩ := firstEnd_sound found
      rcases Nat.lt_trichotomy k n with earlier | rfl | later
      · rw [least k kPositive earlier] at kHolds
        exact absurd kHolds (by simp)
      · rfl
      · rw [firstEnd_least found positive later] at holds
        exact absurd holds (by simp)

/-- The end of a frame does not depend on where the unread stream is cut: a
frame that does not end in the first part is continued with that part seen. -/
theorem firstEnd_append (done : List α → Bool) (seen first second : List α) :
    firstEnd done seen (first ++ second) =
      match firstEnd done seen first with
      | some n => some n
      | none => (firstEnd done (seen ++ first) second).map (first.length + ·) := by
  induction first generalizing seen with
  | nil => simp
  | cons x first ih =>
    cases complete : done (seen ++ [x]) with
    | true => simp [firstEnd_cons_of_done complete]
    | false =>
      rw [List.cons_append, firstEnd_cons_of_not_done complete,
        firstEnd_cons_of_not_done complete, ih (seen ++ [x])]
      cases firstEnd done (seen ++ [x]) first with
      | some n => simp
      | none =>
        simp only [List.append_assoc, List.singleton_append, Option.map_none,
          Option.map_map, List.length_cons]
        congr 1
        funext n
        simp only [Function.comp_apply]
        omega

theorem firstEnd_append_of_some (found : firstEnd done seen first = some n) (second : List α) :
    firstEnd done seen (first ++ second) = some n := by
  rw [firstEnd_append, found]

theorem firstEnd_append_of_none (missing : firstEnd done seen first = none) (second : List α) :
    firstEnd done seen (first ++ second) =
      (firstEnd done (seen ++ first) second).map (first.length + ·) := by
  rw [firstEnd_append, missing]

/-- A part of a frame that does not reach its end has none. -/
theorem firstEnd_of_short {front part : List α}
    (ends : firstEnd done seen front = some front.length) (isPart : part <+: front)
    (short : ¬ front.length ≤ part.length) : firstEnd done seen part = none := by
  cases found : firstEnd done seen part with
  | none => rfl
  | some stop =>
    rcases isPart with ⟨rest, rfl⟩
    have early := firstEnd_append_of_some found rest
    rw [ends, Option.some.injEq] at early
    rw [early] at short
    exact absurd (firstEnd_sound found).2.1 short

/-- A part of a frame that does not reach its end leaves the end where it was. -/
theorem firstEnd_rest_of_short {part : List α}
    (ends : firstEnd done seen (part ++ rest) = some (part ++ rest).length)
    (short : ¬ (part ++ rest).length ≤ part.length) :
    firstEnd done (seen ++ part) rest = some rest.length := by
  have missing := firstEnd_of_short ends (List.prefix_append _ _) short
  rw [firstEnd_append_of_none missing] at ends
  rcases Option.map_eq_some_iff.mp ends with ⟨stop, found, sum⟩
  rw [List.length_append] at sum
  rw [found, Nat.add_left_cancel sum]

/-- A frame that ends at `n` needs no more than `n` items of the stream. -/
theorem firstEnd_take_of_some (found : firstEnd done seen rest = some n) :
    firstEnd done seen (rest.take n) = some n := by
  rw [firstEnd_eq_some_iff] at found ⊢
  rcases found with ⟨positive, bound, holds, least⟩
  rw [List.length_take, Nat.min_eq_left bound, List.take_take, Nat.min_self]
  refine ⟨positive, le_rfl, holds, ?_⟩
  intro m mPositive shorter
  rw [List.take_take, Nat.min_eq_left shorter.le]
  exact least m mPositive shorter

/-- Two recognitions that agree on every prefix still to come report one end,
whatever each of them has seen. -/
theorem firstEnd_congr {first second : List α → Bool} {firstSeen secondSeen : List α}
    (agree : ∀ m, 0 < m → m ≤ rest.length →
      first (firstSeen ++ rest.take m) = second (secondSeen ++ rest.take m)) :
    firstEnd first firstSeen rest = firstEnd second secondSeen rest := by
  cases found : firstEnd second secondSeen rest with
  | none =>
    rw [firstEnd_eq_none_iff] at found ⊢
    intro m positive bound
    rw [agree m positive bound, found m positive bound]
  | some n =>
    rw [firstEnd_eq_some_iff] at found ⊢
    obtain ⟨positive, bound, holds, least⟩ := found
    refine ⟨positive, bound, by rw [agree n positive bound, holds], ?_⟩
    intro m mPositive shorter
    rw [agree m mPositive (by omega), least m mPositive shorter]

end NntpProxy.Stream
