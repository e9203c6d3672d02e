import Mathlib

/-!
# Rings of cells with a moving front

A ring has a fixed number of cells, one of which is the front.  The ring advances by making
the next cell the front and filling it anew, so that the cells behind the front are ordered by
the time since they were the front.
-/

namespace NntpProxy.Data

/-- A ring of cells. -/
structure RingBuffer (n : Nat) (α : Type*) where
  cells : Fin n → α
  front : Fin n

namespace RingBuffer

variable {n : Nat} [NeZero n] {α : Type*}

/-- The cell that many places behind the front. -/
def behind (ring : RingBuffer n α) (offset : Nat) : α :=
  ring.cells (ring.front - Fin.ofNat n offset)

/-- The cell that becomes the front next. -/
def oldest (ring : RingBuffer n α) : α :=
  ring.cells (ring.front + 1)

/-- Fill the oldest cell anew and make it the front. -/
def advance (fresh : α) (ring : RingBuffer n α) : RingBuffer n α :=
  ⟨Function.update ring.cells (ring.front + 1) fresh, ring.front + 1⟩

/-- Change the front. -/
def modifyFront (change : α → α) (ring : RingBuffer n α) : RingBuffer n α :=
  { ring with cells := Function.update ring.cells ring.front (change (ring.cells ring.front)) }

/-- Change the cell that many places behind the front. -/
def modifyBehind (offset : Nat) (change : α → α) (ring : RingBuffer n α) : RingBuffer n α :=
  { ring with
    cells := Function.update ring.cells (ring.front - Fin.ofNat n offset)
      (change (ring.behind offset)) }

theorem modifyBehind_zero (change : α → α) (ring : RingBuffer n α) :
    ring.modifyBehind 0 change = ring.modifyFront change := by
  rw [modifyBehind, behind, Fin.ofNat_zero, sub_zero]
  rfl

variable {ring : RingBuffer n α} {fresh : α} {change : α → α} {offset : Nat}

theorem behind_zero : ring.behind 0 = ring.cells ring.front := by
  rw [behind, Fin.ofNat_zero, sub_zero]

theorem ofNat_ne_zero (positive : 0 < offset) (inRing : offset < n) : Fin.ofNat n offset ≠ 0 := by
  intro zero
  have values := congrArg Fin.val zero
  rw [Fin.val_ofNat, Nat.mod_eq_of_lt inRing, Fin.val_zero] at values
  omega

@[simp]
theorem behind_advance_zero : (ring.advance fresh).behind 0 = fresh := by
  rw [behind_zero]
  exact Function.update_self _ _ _

theorem behind_advance_succ (inRing : offset + 1 < n) :
    (ring.advance fresh).behind (offset + 1) = ring.behind offset := by
  have notFront : ring.front + 1 - Fin.ofNat n (offset + 1) ≠ ring.front + 1 := by
    rw [Ne, sub_eq_self]
    exact ofNat_ne_zero (Nat.succ_pos offset) inRing
  have shifted : ring.front + 1 - Fin.ofNat n (offset + 1) = ring.front - Fin.ofNat n offset := by
    have split : Fin.ofNat n (offset + 1) = Fin.ofNat n offset + 1 := by
      apply Fin.ext
      simp [Fin.val_add]
    rw [split, add_sub_add_right_eq_sub]
  rw [behind, behind, ← shifted]
  exact Function.update_of_ne notFront _ _

@[simp]
theorem behind_modifyFront_zero : (ring.modifyFront change).behind 0 = change (ring.behind 0) := by
  rw [behind_zero, behind_zero]
  exact Function.update_self _ _ _

theorem behind_modifyFront_of_pos (positive : 0 < offset) (inRing : offset < n) :
    (ring.modifyFront change).behind offset = ring.behind offset := by
  have notFront : ring.front - Fin.ofNat n offset ≠ ring.front := by
    rw [Ne, sub_eq_self]
    exact ofNat_ne_zero positive inRing
  exact Function.update_of_ne notFront _ _

/-- What was the front some advances ago has moved back by as many places, and the places in
front of it are fresh. -/
theorem behind_iterate_advance (inRing : offset < n) (times : Nat) :
    ((advance fresh)^[times] ring).behind offset =
      if offset < times then fresh else ring.behind (offset - times) := by
  induction times generalizing offset with
  | zero => simp
  | succ times ih =>
    rw [Function.iterate_succ_apply']
    cases offset with
    | zero => simp
    | succ offset =>
      rw [behind_advance_succ inRing, ih (Nat.lt_of_succ_lt inRing)]
      simp [Nat.add_sub_add_right]

/-! ## Properties of all cells -/

/-- Every cell has a property. -/
def All (property : α → Prop) (ring : RingBuffer n α) : Prop :=
  ∀ cell, property (ring.cells cell)

variable {property : α → Prop}

variable (all : ring.All property)

include all

theorem All.behind (offset : Nat) : property (ring.behind offset) :=
  all _

theorem All.advance (isFresh : property fresh) :
    (ring.advance fresh).All property := by
  intro cell
  by_cases front : cell = ring.front + 1
  · subst front
    simpa [RingBuffer.advance] using isFresh
  · simpa [RingBuffer.advance, front] using all cell

theorem All.iterate_advance (isFresh : property fresh) (times : Nat) :
    ((RingBuffer.advance fresh)^[times] ring).All property := by
  induction times with
  | zero => exact all
  | succ times ih =>
    rw [Function.iterate_succ_apply']
    exact ih.advance isFresh

theorem All.modifyFront (changed : property (change (ring.behind 0))) :
    (ring.modifyFront change).All property := by
  intro cell
  by_cases front : cell = ring.front
  · subst front
    rw [behind_zero] at changed
    simpa [RingBuffer.modifyFront] using changed
  · simpa [RingBuffer.modifyFront, front] using all cell

end RingBuffer

end NntpProxy.Data
