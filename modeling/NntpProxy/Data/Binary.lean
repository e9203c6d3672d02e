import Mathlib

/-!
# Reading binary data

A reader takes a value from the front of its data and leaves the rest.  What it does depends
on the part that it takes and on nothing behind it.  Readers that run one after the other
therefore read what was written one after the other, and a reader that takes the whole of
some data takes no shorter front of it.
-/

namespace NntpProxy.Data

open List

variable {α β : Type}

/-! ## Readers -/

/-- A reader with the fact that it looks at nothing behind what it takes. -/
structure Reader (α : Type) where
  run : List UInt8 → Option (α × List UInt8)
  front : ∀ {data rest : List UInt8} {value : α}, run data = some (value, rest) →
    ∃ taken, data = taken ++ rest ∧ ∀ other, run (taken ++ other) = some (value, other)

variable {reader : Reader α} {write : α → Option (List UInt8)}

variable {value : α} {data : List UInt8} {values : List α}

namespace Reader

/-- Take nothing. -/
protected def pure (value : α) : Reader α where
  run data := some (value, data)
  front := by
    rintro data rest value ⟨⟩
    exact ⟨[], rfl, fun _ => rfl⟩

/-- Run a reader and then the one that its value chooses. -/
protected def bind (reader : Reader α) (next : α → Reader β) : Reader β where
  run data := (reader.run data).bind fun (value, rest) => (next value).run rest
  front := by
    intro data rest value done
    rcases Option.bind_eq_some_iff.mp done with ⟨⟨first, between⟩, firstDone, nextDone⟩
    rcases reader.front firstDone with ⟨firstTaken, rfl, firstAgain⟩
    rcases (next first).front nextDone with ⟨nextTaken, rfl, nextAgain⟩
    refine ⟨firstTaken ++ nextTaken, by simp, fun other => ?_⟩
    rw [append_assoc, firstAgain, Option.bind_some]
    exact nextAgain other

instance : Monad Reader where
  pure := Reader.pure
  bind := Reader.bind

/-- Refuse all data. -/
def fail : Reader α where
  run _ := none
  front := nofun

/-- Take a number of octets. -/
def take (count : Nat) : Reader (List UInt8) where
  run data := if count ≤ data.length then some (data.take count, data.drop count) else none
  front := by
    intro data rest value done
    split at done
    next enough =>
      obtain ⟨rfl, rfl⟩ := Prod.mk.inj (Option.some.inj done)
      refine ⟨data.take count, (take_append_drop count data).symm, fun other => ?_⟩
      have taken : (data.take count).length = count := length_take_of_le enough
      rw [if_pos (by simp [taken]), take_left' taken, drop_left' taken]
    · cases done

@[simp]
theorem run_bind (reader : Reader α) (next : α → Reader β) (data : List UInt8) :
    (reader >>= next).run data =
      (reader.run data).bind fun (value, rest) => (next value).run rest :=
  rfl

/-- The reader takes exactly this data for the value, whatever follows. -/
def Reads (reader : Reader α) (data : List UInt8) (value : α) : Prop :=
  ∀ rest, reader.run (data ++ rest) = some (value, rest)

theorem reads_pure (value : α) : Reads (pure value : Reader α) [] value :=
  fun _ => rfl

theorem Reads.bind {first second : List UInt8} {result : β} (reads : reader.Reads first value)
    (next : α → Reader β) (later : (next value).Reads second result) :
    (reader >>= next).Reads (first ++ second) result := by
  intro rest
  rw [run_bind, append_assoc, reads]
  exact later rest

/-- The value of the last reader is only wrapped. -/
theorem Reads.map (reads : reader.Reads data value) (wrap : α → β) :
    (reader >>= fun value => pure (wrap value)).Reads data (wrap value) := by
  simpa using reads.bind (fun value => pure (wrap value)) (reads_pure (wrap value))

theorem reads_take (data : List UInt8) : (take data.length).Reads data data := by
  intro rest
  simp [take]

/-- Octets that pass a check are taken as they are. -/
theorem reads_checked {accept : List UInt8 → Prop} [DecidablePred accept] (accepted : accept data) :
    (take data.length >>= fun octets => if accept octets then pure octets else fail).Reads data
      data := by
  have checked : Reads (if accept data then pure data else fail) [] data := by
    rw [if_pos accepted]
    exact reads_pure data
  simpa using (reads_take data).bind (fun octets => if accept octets then pure octets else fail)
    checked

/-- Nothing shorter than what a reader takes is accepted. -/
theorem Reads.run_eq_none {short : List UInt8} (reads : reader.Reads data value)
    (isFront : short <+: data) (shorter : short ≠ data) : reader.run short = none := by
  cases done : reader.run short with
  | none => rfl
  | some result =>
    rcases reader.front done with ⟨taken, rfl, again⟩
    rcases isFront with ⟨lost, rfl⟩
    have whole := reads []
    rw [append_nil, append_assoc, again, Option.some.injEq, Prod.mk.injEq,
      append_eq_nil_iff] at whole
    simp [whole.2.2] at shorter

/-! ## What a reader yields -/

/-- Every value that the reader takes has this property. -/
def Yields (reader : Reader α) (property : α → Prop) : Prop :=
  ∀ data rest value, reader.run data = some (value, rest) → property value

theorem yields_pure {property : α → Prop} (holds : property value) :
    Yields (pure value : Reader α) property := by
  rintro data rest other ⟨⟩
  exact holds

theorem yields_fail (property : α → Prop) : Yields (fail : Reader α) property :=
  nofun

theorem Yields.bind {first : α → Prop} {next : α → Reader β} {property : β → Prop}
    (yields : reader.Yields first) (later : ∀ value, first value → (next value).Yields property) :
    (reader >>= next).Yields property := by
  intro data rest result done
  rcases Option.bind_eq_some_iff.mp done with ⟨⟨value, between⟩, firstDone, nextDone⟩
  exact later value (yields _ _ _ firstDone) _ _ _ nextDone

/-- Nothing needs to be known about the first value. -/
theorem yields_bind {next : α → Reader β} {property : β → Prop}
    (later : ∀ value, (next value).Yields property) : (reader >>= next).Yields property :=
  Yields.bind (fun _ _ _ _ => trivial) fun value (_ : True) => later value

theorem yields_take (count : Nat) : (take count).Yields (·.length = count) := by
  intro data rest value done
  simp only [take] at done
  split at done
  next enough =>
    obtain ⟨rfl, -⟩ := Prod.mk.inj (Option.some.inj done)
    exact length_take_of_le enough
  · cases done

/-! ## Numbers -/

/-- The octets of a number, the least significant one first. -/
def littleEndian : Nat → Nat → List UInt8
  | 0, _ => []
  | width + 1, value => UInt8.ofNat value :: littleEndian width (value / 256)

def ofLittleEndian : List UInt8 → Nat
  | [] => 0
  | byte :: rest => byte.toNat + 256 * ofLittleEndian rest

@[simp]
theorem length_littleEndian (width value : Nat) : (littleEndian width value).length = width := by
  induction width generalizing value with
  | zero => rfl
  | succ width ih => simp [littleEndian, ih]

theorem ofLittleEndian_littleEndian {width value : Nat} (fits : value < 256 ^ width) :
    ofLittleEndian (littleEndian width value) = value := by
  induction width generalizing value with
  | zero =>
    rw [Nat.pow_zero, Nat.lt_one_iff] at fits
    exact fits.symm
  | succ width ih =>
    have smaller : value / 256 < 256 ^ width := by
      rw [Nat.pow_succ, Nat.mul_comm] at fits
      exact Nat.div_lt_of_lt_mul fits
    rw [littleEndian, ofLittleEndian, ih smaller]
    exact Nat.mod_add_div value 256

/-- Read a number of some octets. -/
def number (width : Nat) : Reader Nat := do
  let octets ← take width
  pure (ofLittleEndian octets)

theorem reads_number {width value : Nat} (fits : value < 256 ^ width) :
    (number width).Reads (littleEndian width value) value := by
  have taken := reads_take (littleEndian width value)
  rw [length_littleEndian] at taken
  have read := taken.map ofLittleEndian
  rwa [ofLittleEndian_littleEndian fits] at read

/-! ## Repetition -/

/-- Read a number of values. -/
def times (reader : Reader α) : (count : Nat) → Reader (Fin count → α)
  | 0 => pure Fin.elim0
  | count + 1 => do
      let first ← reader
      let later ← times reader count
      pure (Fin.cons first later)

theorem Reads.times (write : α → List UInt8) :
    {count : Nat} → {values : Fin count → α} →
    (∀ index, reader.Reads (write (values index)) (values index)) →
    (reader.times count).Reads (ofFn fun index => write (values index)).flatten values
  | 0, values, _ => by
      rw [Subsingleton.elim values Fin.elim0]
      exact reads_pure _
  | count + 1, values, reads => by
      have later := Reads.times write (fun index => reads (Fin.succ index))
      have whole : Fin.cons (values 0) (fun index => values (Fin.succ index)) = values :=
        Fin.cons_self_tail values
      rw [ofFn_succ, flatten_cons]
      apply (reads 0).bind
      have read := later.map fun later => (Fin.cons (values 0) later : Fin (count + 1) → α)
      rwa [whole] at read

/-- Read a list of some length. -/
def list (reader : Reader α) : (count : Nat) → Reader (List α)
  | 0 => pure []
  | count + 1 => do
      let first ← reader
      let later ← list reader count
      pure (first :: later)

/-- Write values one after the other, unless one of them cannot be written. -/
def writeList (write : α → Option (List UInt8)) : List α → Option (List UInt8)
  | [] => some []
  | value :: values =>
    (write value).bind fun octets => (writeList write values).map fun later => octets ++ later

theorem exists_writeList_iff :
    (∃ octets, writeList write values = some octets) ↔
      ∀ value ∈ values, ∃ octets, write value = some octets := by
  induction values with
  | nil => simp [writeList]
  | cons value values ih =>
    rw [forall_mem_cons, ← ih, writeList]
    cases write value with
    | none => simp
    | some octets => simp

/-- What was written as a list is read as that list. -/
theorem reads_list {octets : List UInt8} (written : writeList write values = some octets)
    (reads : ∀ value ∈ values, ∀ part, write value = some part → reader.Reads part value) :
    (reader.list values.length).Reads octets values := by
  induction values generalizing octets with
  | nil =>
    cases written
    exact reads_pure []
  | cons value values ih =>
    rw [forall_mem_cons] at reads
    rcases Option.bind_eq_some_iff.mp written with ⟨part, writtenFirst, later⟩
    rcases Option.map_eq_some_iff.mp later with ⟨rest, writtenLater, rfl⟩
    apply (reads.1 part writtenFirst).bind
    exact (ih writtenLater reads.2).map (value :: ·)

theorem le_length_writeList {octets : List UInt8} {width : Nat}
    (written : writeList write values = some octets)
    (wide : ∀ value ∈ values, ∀ part, write value = some part → width ≤ part.length) :
    values.length * width ≤ octets.length := by
  induction values generalizing octets with
  | nil => simp
  | cons value values ih =>
    rw [forall_mem_cons] at wide
    rcases Option.bind_eq_some_iff.mp written with ⟨part, writtenFirst, later⟩
    rcases Option.map_eq_some_iff.mp later with ⟨rest, writtenLater, rfl⟩
    rw [length_cons, Nat.succ_mul, length_append, Nat.add_comm]
    exact Nat.add_le_add (wide.1 part writtenFirst) (ih writtenLater wide.2)

/-- Every value of a list that was read has a property that the reader ensures. -/
theorem yields_list {property : α → Prop} (yields : reader.Yields property) (count : Nat) :
    (reader.list count).Yields (fun values => ∀ value ∈ values, property value) := by
  induction count with
  | zero => exact yields_pure (forall_mem_nil _)
  | succ count ih =>
    refine Yields.bind yields fun first ofFirst => Yields.bind ih fun later ofLater => ?_
    exact yields_pure (forall_mem_cons.mpr ⟨ofFirst, ofLater⟩)

end Reader

end NntpProxy.Data
