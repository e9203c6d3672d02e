import NntpProxy.Protocol.Request

/-!
# The command reader of a stateful session

The reader consumes the client stream buffer by buffer and keeps the open line
between buffers, or only the fact that the open line is already too long.  Both
are determined by the octets of the open line: `StatefulCommandReader.ofPartial`
is the state after them, and one buffer either extends the open line or
completes it with the item of the whole line.
-/

namespace NntpProxy.Stateful

open Protocol

/-- What the reader hands to the session loop. -/
inductive StatefulClientLine where
  | eof
  | oversized
  | invalid
  | ready (request : RequestContext)
  deriving DecidableEq, Repr

/-- The open line, or the fact that the rest of an oversized line is skipped. -/
structure StatefulCommandReader where
  lineBuf : Bytes
  drainingOversized : Bool
  deriving DecidableEq, Repr

namespace StatefulCommandReader

/-- A reader at the start of a line. -/
def fresh : StatefulCommandReader :=
  ⟨[], false⟩

/-- The item of a line that fits. -/
def parsedLine (line : Bytes) : StatefulClientLine :=
  match RequestContext.parse line with
  | some request => .ready request
  | none => .invalid

/-- One round of `readNext` with the octets that are available: the item of a
completed line, the octets consumed and the next state.  No available octets
mean the end of the stream. -/
def readRound (reader : StatefulCommandReader) (available : Bytes) :
    Option StatefulClientLine × Nat × StatefulCommandReader :=
  if available = [] then
    if reader.drainingOversized then
      (some .oversized, 0, { reader with drainingOversized := false })
    else if reader.lineBuf = [] then (some .eof, 0, reader)
    else (some (parsedLine reader.lineBuf), 0, { reader with lineBuf := [] })
  else
    let newline := statusLineLen available
    let take := newline.getD available.length
    if reader.drainingOversized then
      if newline.isSome then (some .oversized, take, { reader with drainingOversized := false })
      else (none, take, reader)
    else if reader.lineBuf.length + take > maxCommandLineOctets then
      if newline.isSome then (some .oversized, take, { reader with lineBuf := [] })
      else (none, take, ⟨[], true⟩)
    else
      let line := reader.lineBuf ++ available.take take
      if newline.isSome then (some (parsedLine line), take, { reader with lineBuf := [] })
      else (none, take, { reader with lineBuf := line })

/-- The reader after the octets of an open line. -/
def ofPartial (openLine : Bytes) : StatefulCommandReader :=
  if openLine.length > maxCommandLineOctets then ⟨[], true⟩ else ⟨openLine, false⟩

/-- The item of a whole line. -/
def lineItem (line : Bytes) : StatefulClientLine :=
  if line.length > maxCommandLineOctets then .oversized else parsedLine line

theorem readRound_open {openLine available : Bytes} (nonempty : available ≠ [])
    (noLine : statusLineLen available = none) :
    (ofPartial openLine).readRound available =
      (none, available.length, ofPartial (openLine ++ available)) := by
  unfold readRound ofPartial
  rw [if_neg nonempty]
  simp only [noLine, Option.getD_none, Option.isSome_none, Bool.false_eq_true, if_false,
    List.take_length]
  by_cases long : openLine.length > maxCommandLineOctets
  · have longer : openLine.length + available.length > maxCommandLineOctets :=
      Nat.lt_of_lt_of_le long (Nat.le_add_right _ _)
    simp [long, longer]
  · by_cases longer : openLine.length + available.length > maxCommandLineOctets
    · simp [long, longer]
    · simp [long, longer]

theorem readRound_line {openLine available : Bytes} {n : Nat}
    (lineFound : statusLineLen available = some n) :
    (ofPartial openLine).readRound available =
      (some (lineItem (openLine ++ available.take n)), n, fresh) := by
  rcases statusLineLen_le lineFound with ⟨positive, bound⟩
  have nonempty : available ≠ [] := by
    rintro rfl
    simp at lineFound
  have lineLength : (openLine ++ available.take n).length = openLine.length + n := by
    rw [List.length_append, List.length_take, Nat.min_eq_left bound]
  unfold readRound ofPartial lineItem
  rw [lineLength, if_neg nonempty]
  simp only [lineFound]
  by_cases long : openLine.length > maxCommandLineOctets
  · have longer : openLine.length + n > maxCommandLineOctets :=
      Nat.lt_of_lt_of_le long (Nat.le_add_right _ _)
    simp [long, longer, fresh]
  · by_cases longer : openLine.length + n > maxCommandLineOctets
    · simp [long, longer, fresh]
    · simp [long, longer, fresh]

theorem readRound_eof {openLine : Bytes} :
    (ofPartial openLine).readRound [] =
      (some (if openLine = [] then .eof else lineItem openLine), 0, fresh) := by
  unfold readRound ofPartial lineItem
  by_cases long : openLine.length > maxCommandLineOctets
  · have nonempty : openLine ≠ [] := by
      rintro rfl
      simp at long
    simp [long, nonempty, fresh]
  · by_cases isEmpty : openLine = []
    · simp [isEmpty, fresh]
    · simp [long, isEmpty, fresh]

/-! ## The lines of a stream -/

/-- The lines of a stream behind an open line, the last one possibly without a
line feed. -/
def linesFrom : Bytes → Bytes → List Bytes
  | openLine, [] => if openLine = [] then [] else [openLine]
  | openLine, byte :: rest =>
    if byte = lf then (openLine ++ [lf]) :: linesFrom [] rest
    else linesFrom (openLine ++ [byte]) rest

theorem linesFrom_open {chunk : Bytes} (noLine : statusLineLen chunk = none)
    (openLine rest : Bytes) :
    linesFrom openLine (chunk ++ rest) = linesFrom (openLine ++ chunk) rest := by
  rw [statusLineLen_eq_none_iff] at noLine
  induction chunk generalizing openLine with
  | nil => simp
  | cons byte chunk ih =>
    rw [List.mem_cons, not_or] at noLine
    rw [List.cons_append, linesFrom, if_neg (Ne.symm noLine.1), ih noLine.2]
    simp

theorem linesFrom_line {chunk : Bytes} {n : Nat} (lineFound : statusLineLen chunk = some n)
    (openLine rest : Bytes) :
    linesFrom openLine (chunk ++ rest) =
      (openLine ++ chunk.take n) :: linesFrom [] (chunk.drop n ++ rest) := by
  rcases statusLineLen_eq_some_iff.mp lineFound with ⟨text, tail, clean, rfl, rfl⟩
  rw [take_line, List.append_assoc, linesFrom_open (statusLineLen_eq_none_iff.mpr clean)]
  simp [linesFrom]

theorem getLast?_of_linesFrom {openLine bytes line : Bytes} {before after : List Bytes}
    (split : linesFrom openLine bytes = before ++ line :: after) (more : after ≠ []) :
    line.getLast? = some lf := by
  induction bytes generalizing openLine before with
  | nil =>
    rw [linesFrom] at split
    have lengths := congrArg List.length split
    have positive := List.length_pos_of_ne_nil more
    rw [List.length_append] at lengths
    split at lengths
    · simp at lengths
    · simp only [List.length_cons, List.length_nil] at lengths
      omega
  | cons byte bytes ih =>
    rw [linesFrom] at split
    split at split
    · cases before with
      | nil =>
        obtain ⟨rfl, -⟩ := List.cons.inj split
        simp
      | cons first before => exact ih (List.cons.inj split).2
    · exact ih split

end StatefulCommandReader

end NntpProxy.Stateful
