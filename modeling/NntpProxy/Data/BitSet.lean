import Mathlib

/-!
# Sets of positions in a machine word

A word of `w` bits stands for a set of positions below `w`.  Membership is tested by
masking the word with a single bit.
-/

namespace NntpProxy.Data

variable {w : Nat}

/-- A set of positions below `w`. -/
structure BitSet (w : Nat) where
  bits : BitVec w
  deriving DecidableEq, Repr

variable (set : BitSet w) (position : Fin w)

namespace BitSet

/-- The word with one bit. -/
def bit (position : Fin w) : BitVec w :=
  1#w <<< position.val

def empty : BitSet w :=
  ⟨0#w⟩

/-- All positions. -/
def full : BitSet w :=
  ⟨BitVec.allOnes w⟩

def insert (set : BitSet w) (position : Fin w) : BitSet w :=
  ⟨set.bits ||| bit position⟩

def erase (set : BitSet w) (position : Fin w) : BitSet w :=
  ⟨set.bits &&& ~~~ bit position⟩

def union (set other : BitSet w) : BitSet w :=
  ⟨set.bits ||| other.bits⟩

def contains (set : BitSet w) (position : Fin w) : Bool :=
  set.bits &&& bit position != 0#w

/-- Every position of `other` is in the set. -/
def containsAll (set other : BitSet w) : Bool :=
  set.bits &&& other.bits == other.bits

theorem getLsbD_bit (i : Nat) :
    (bit position).getLsbD i = decide (i = position.val) := by
  have positive : 0 < w := Nat.lt_of_le_of_lt (Nat.zero_le _) position.isLt
  simp only [bit, BitVec.getLsbD_shiftLeft, BitVec.getLsbD_one]
  by_cases same : i = position.val
  · simp [same, positive]
  · simp only [same, decide_false, Bool.and_eq_false_iff]
    grind

theorem contains_eq_getLsbD (position : Fin w) :
    set.contains position = set.bits.getLsbD position := by
  unfold contains
  cases present : set.bits.getLsbD position with
  | true =>
    rw [bne_iff_ne]
    intro nothing
    have masked := congrArg (BitVec.getLsbD · position) nothing
    simp only [BitVec.getLsbD_and, getLsbD_bit, present] at masked
    simp at masked
  | false =>
    rw [bne_eq_false_iff_eq]
    apply BitVec.eq_of_getLsbD_eq
    intro i inWord
    rw [BitVec.getLsbD_and, getLsbD_bit]
    by_cases same : i = position.val
    · rw [same, present, Bool.false_and, BitVec.getLsbD_zero]
    · simp [same]

@[simp]
theorem contains_empty : empty.contains position = false := by
  simp [contains_eq_getLsbD, empty]

@[simp]
theorem contains_full : full.contains position = true := by
  simp [contains_eq_getLsbD, full]

@[simp]
theorem contains_union (set other : BitSet w) (position : Fin w) :
    (set.union other).contains position = (set.contains position || other.contains position) := by
  simp [contains_eq_getLsbD, union]

@[simp]
theorem contains_insert (added position : Fin w) :
    (set.insert added).contains position = (set.contains position || position == added) := by
  rw [contains_eq_getLsbD, contains_eq_getLsbD, insert, BitVec.getLsbD_or, getLsbD_bit]
  simp [Fin.ext_iff, BEq.beq]

@[simp]
theorem contains_erase (erased position : Fin w) :
    (set.erase erased).contains position = (set.contains position && position != erased) := by
  rw [contains_eq_getLsbD, contains_eq_getLsbD, erase, BitVec.getLsbD_and, BitVec.getLsbD_not,
    getLsbD_bit]
  simp [Fin.ext_iff, bne, BEq.beq]

theorem contains_foldl_insert (positions : List (Fin w)) (position : Fin w) :
    (positions.foldl insert set).contains position = true ↔
      set.contains position = true ∨ position ∈ positions := by
  induction positions generalizing set with
  | nil => simp
  | cons first positions ih => simp [ih, or_assoc]

theorem contains_foldl_erase (positions : List (Fin w)) (position : Fin w) :
    (positions.foldl erase set).contains position =
      (set.contains position && decide (position ∉ positions)) := by
  induction positions generalizing set with
  | nil => simp
  | cons first positions ih =>
    rw [List.foldl_cons, ih, contains_erase, Bool.and_assoc]
    simp only [List.mem_cons, not_or, Bool.decide_and, decide_not]
    rfl

theorem contains_foldl_union {ι : Type*} (sets : ι → BitSet w) (indices : List ι)
    (set : BitSet w) (position : Fin w) :
    (indices.foldl (fun joined index => joined.union (sets index)) set).contains position = true ↔
      set.contains position = true ∨ ∃ index ∈ indices, (sets index).contains position = true := by
  induction indices generalizing set with
  | nil => simp
  | cons index indices ih => simp [ih, or_assoc]

/-- Sets with the same positions are equal. -/
theorem ext_contains {set other : BitSet w}
    (same : ∀ position, set.contains position = other.contains position) : set = other := by
  rcases set with ⟨bits⟩
  congr 1
  apply BitVec.eq_of_getLsbD_eq
  intro i inWord
  have sameBit := same ⟨i, inWord⟩
  rwa [contains_eq_getLsbD, contains_eq_getLsbD] at sameBit

end BitSet

end NntpProxy.Data
