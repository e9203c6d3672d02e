import Mathlib

/-!
# Writers that may fail

A `Sink` records what was written to it.  It has a budget of items it will still
accept and a budget of flushes that will still succeed, each possibly unlimited.
A writer can first fail in a write, after some number of items, or in one of its
flushes; every such point is a pair of budgets, so a statement about all sinks is
a statement about every point at which the writer can fail.
-/

namespace NntpProxy.Stream

universe u

variable {α : Type u}

/-- A writer with the items it accepted, how many more it will accept and how many
more flushes will succeed. -/
structure Sink (α : Type u) where
  accepted : List α
  capacity : Option Nat
  flushes : Option Nat
  deriving DecidableEq, Repr

variable (sink : Sink α)

namespace Sink

/-- Write all items; on failure a prefix of them has been accepted. -/
def writeAll (sink : Sink α) (items : List α) : Bool × Sink α :=
  match sink.capacity with
  | none => (true, { sink with accepted := sink.accepted ++ items })
  | some room =>
    if items.length ≤ room then
      (true, { sink with
        accepted := sink.accepted ++ items
        capacity := some (room - items.length) })
    else (false, { sink with accepted := sink.accepted ++ items.take room, capacity := some 0 })

/-- Flush what was accepted. -/
def flush (sink : Sink α) : Bool × Sink α :=
  match sink.flushes with
  | none => (true, sink)
  | some 0 => (false, sink)
  | some (left + 1) => (true, { sink with flushes := some left })

@[simp]
theorem accepted_flush : sink.flush.2.accepted = sink.accepted := by
  unfold flush
  split <;> rfl

/-- Write several pieces one after the other and stop at the first failure. -/
def writePieces (sink : Sink α) : List (List α) → Bool × Sink α
  | [] => (true, sink)
  | piece :: pieces =>
    match sink.writeAll piece with
    | (true, next) => next.writePieces pieces
    | (false, next) => (false, next)

@[simp]
theorem writePieces_nil : sink.writePieces [] = (true, sink) :=
  rfl

/-- The items fit the capacity that is left. -/
def Fits (sink : Sink α) (items : List α) : Prop :=
  ∀ room, sink.capacity = some room → items.length ≤ room

/-- The sink after it accepted the items. -/
def accept (sink : Sink α) (items : List α) : Sink α :=
  { sink with
    accepted := sink.accepted ++ items
    capacity := sink.capacity.map (· - items.length) }

@[simp]
theorem accept_nil : sink.accept [] = sink := by
  rcases sink with ⟨accepted, _ | room, flushes⟩ <;> simp [accept]

theorem accept_append (front rest : List α) :
    sink.accept (front ++ rest) = (sink.accept front).accept rest := by
  rcases sink with ⟨accepted, _ | room, flushes⟩ <;> simp [accept, Nat.sub_sub]

/-- A write succeeds when the items fit, and otherwise fills the sink up exactly. -/
theorem writeAll_cases (items : List α) :
    (sink.Fits items ∧ sink.writeAll items = (true, sink.accept items)) ∨
      ∃ room, sink.capacity = some room ∧ room < items.length ∧
        sink.writeAll items = (false, sink.accept (items.take room)) := by
  rcases sink with ⟨accepted, _ | room, flushes⟩
  · exact Or.inl ⟨by simp [Fits], rfl⟩
  · by_cases fits : items.length ≤ room
    · exact Or.inl ⟨by simpa [Fits] using fits, by simp [writeAll, accept, fits]⟩
    · have short := Nat.lt_of_not_le fits
      refine Or.inr ⟨room, rfl, short, ?_⟩
      simp [writeAll, accept, fits, Nat.min_eq_left (Nat.le_of_lt short)]

theorem writeAll_of_fits {sink : Sink α} {items : List α} (fits : sink.Fits items) :
    sink.writeAll items = (true, sink.accept items) := by
  rcases sink.writeAll_cases items with ⟨-, writeEq⟩ | ⟨room, capacityEq, short, -⟩
  · exact writeEq
  · exact absurd (fits room capacityEq) (Nat.not_le_of_lt short)

theorem fits_append_iff (front rest : List α) :
    sink.Fits (front ++ rest) ↔ sink.Fits front ∧ (sink.accept front).Fits rest := by
  rcases sink with ⟨accepted, _ | room, flushes⟩
  · simp [Fits, accept]
  · simp only [Fits, accept, Option.map_some, Option.some.injEq, forall_eq', List.length_append]
    omega

/-- A write goes on behind a front part that succeeded. -/
theorem writeAll_append (front rest : List α) :
    sink.writeAll (front ++ rest) =
      match sink.writeAll front with
      | (true, next) => next.writeAll rest
      | (false, next) => (false, next) := by
  rcases sink with ⟨accepted, _ | room, flushes⟩
  · simp [writeAll]
  · simp only [writeAll, List.length_append]
    by_cases fits : front.length ≤ room
    · have sameRoom : front.length + rest.length ≤ room ↔ rest.length ≤ room - front.length := by
        omega
      by_cases restFits : rest.length ≤ room - front.length
      · simp [fits, sameRoom, restFits, Nat.sub_sub]
      · simp [fits, sameRoom, restFits, List.take_append]
    · have tooLong : ¬ front.length + rest.length ≤ room := by omega
      simp only [fits, tooLong, if_false]
      rw [List.take_append_of_le_length (Nat.le_of_not_le fits)]

/-- Writing pieces is writing what they join to. -/
theorem writePieces_eq (pieces : List (List α)) :
    sink.writePieces pieces = sink.writeAll pieces.flatten := by
  induction pieces generalizing sink with
  | nil => rcases sink with ⟨accepted, _ | room, flushes⟩ <;> simp [writeAll]
  | cons piece pieces ih =>
    rw [writePieces, List.flatten_cons, writeAll_append]
    rcases sink.writeAll piece with ⟨_ | _, next⟩
    · rfl
    · exact ih next

end Sink

end NntpProxy.Stream
