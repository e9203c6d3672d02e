import NntpProxy.Protocol.Text

/-!
# Article headers

A header block is checked line by line.  A line is a name, a colon and a value, or it starts
with white space and goes on with the line before it.  The last line has no line end: the block
is what stands in front of the blank line.  Blocks of well-formed lines pass the check.
-/

namespace NntpProxy.Articles

open Protocol List

/-! ## Checking a block -/

inductive ParseError where
  | invalidStatusCode (code : Nat)
  | missingSeparator
  | invalidHeader (text : Bytes)
  | unexpectedBody
  | invalidBody
  | invalidYenc (text : Bytes)
  | bufferTooShort
  | invalidMessageId (text : Bytes)
  deriving DecidableEq, Repr

abbrev colon : UInt8 := 58

/-- White space that a folded line starts with. -/
def isFold (byte : UInt8) : Bool :=
  byte == 32 || byte == 9

inductive HeaderTransformation where
  | none
  | unfold
  deriving DecidableEq, Repr

/-- The octets of a header block and whether lines of it are folded. -/
structure Headers where
  raw : Bytes
  transformation : HeaderTransformation
  deriving DecidableEq, Repr

variable {data : Bytes} {pos : Nat}

namespace Headers

/-- Search the octets from position `i` on for the end of a line; `previous` is the octet in
front of them. -/
def findLineEndFrom (previous : Option UInt8) (i : Nat) : Bytes → Except ParseError Nat
  | [] => .ok i
  | byte :: rest =>
    if byte = lf then
      if previous = some cr then .ok (i - 1)
      else .error (.invalidHeader (ascii "LF not preceded by CR"))
    else if byte = cr then
      match rest with
      | [] => .ok i
      | next :: _ =>
        if next = lf then .ok i
        else .error (.invalidHeader (ascii "CR not followed by LF"))
    else findLineEndFrom (some byte) (i + 1) rest

/-- The position of the line end of the line from `start` on, or the end of the data. -/
def findLineEnd (data : Bytes) (start : Nat) : Except ParseError Nat :=
  findLineEndFrom (if start = 0 then none else data[start - 1]?) (min start data.length)
    (data.drop start)

/-- Check a line with a name. -/
def validateField (line : Bytes) : Except ParseError Unit :=
  match memchr colon line with
  | none => .error (.invalidHeader (ascii "Header missing colon: " ++ fromUtf8Lossy line))
  | some colonPos =>
    let name := line.take colonPos
    if name = [] then .error (.invalidHeader (ascii "Empty header name"))
    else if name.any fun byte => isFold byte || !decide (33 ≤ byte ∧ byte ≤ 126) then
      .error (.invalidHeader (ascii "Invalid character in header name: " ++ fromUtf8Lossy name))
    else .ok ()

theorem le_of_findLineEndFrom {previous : Option UInt8} {i lineEnd : Nat} {rest : Bytes}
    (found : findLineEndFrom previous i rest = .ok lineEnd) : i ≤ lineEnd + 1 := by
  induction rest generalizing previous i with
  | nil =>
    cases found
    exact Nat.le_succ _
  | cons byte rest ih =>
    unfold findLineEndFrom at found
    split at found
    · split at found
      · cases found
        omega
      · cases found
    · split at found
      · split at found
        · cases found
          exact Nat.le_succ _
        · split at found
          · cases found
            exact Nat.le_succ _
          · cases found
      · exact Nat.le_of_succ_le (ih found)

/-- The next line starts behind the current one. -/
theorem lt_of_findLineEnd {lineEnd : Nat} (inside : pos < data.length)
    (found : findLineEnd data pos = .ok lineEnd) :
    data.length - (lineEnd + 2) < data.length - pos := by
  have bound := le_of_findLineEndFrom found
  omega

/-- Check the lines from a position on.  `folded` says whether a line before was folded. -/
def validateHeadersFrom (data : Bytes) (pos : Nat) (folded : Bool) : Except ParseError Bool :=
  if _inside : pos < data.length then
    match _found : findLineEnd data pos with
    | .error error => .error error
    | .ok lineEnd =>
      match (data.take lineEnd).drop pos with
      | [] => validateHeadersFrom data (lineEnd + 2) folded
      | byte :: line =>
        if isFold byte then
          if pos = 0 then
            .error (.invalidHeader (ascii "Header cannot start with folding whitespace"))
          else validateHeadersFrom data (lineEnd + 2) true
        else
          match validateField (byte :: line) with
          | .error error => .error error
          | .ok () => validateHeadersFrom data (lineEnd + 2) folded
  else .ok folded
termination_by data.length - pos
decreasing_by all_goals exact lt_of_findLineEnd _inside _found

def validate (data : Bytes) : Except ParseError HeaderTransformation :=
  match validateHeadersFrom data 0 false with
  | .error error => .error error
  | .ok true => .ok .unfold
  | .ok false => .ok .none

end Headers

/-! ## Well-formed blocks -/

/-- An octet that can stand inside a line. -/
def IsLineByte (byte : UInt8) : Prop :=
  byte ≠ cr ∧ byte ≠ lf ∧ byte ≠ 0

instance (byte : UInt8) : Decidable (IsLineByte byte) :=
  inferInstanceAs (Decidable (_ ∧ _))

/-- A header: a name of printable octets other than the colon, and a value. -/
structure HeaderField where
  name : Bytes
  value : Bytes
  name_nonempty : name ≠ []
  name_printable : ∀ byte ∈ name, 33 ≤ byte ∧ byte ≤ 126 ∧ byte ≠ colon
  value_inLine : ∀ byte ∈ value, IsLineByte byte

/-- A line of a header block: a header, or more of the value of the header before it. -/
inductive HeaderLine where
  | field (header : HeaderField)
  | folded (fold : UInt8) (value : Bytes) (isFold : isFold fold = true)
      (inLine : ∀ byte ∈ value, IsLineByte byte)

variable (line : HeaderLine)

namespace HeaderLine

def text : HeaderLine → Bytes
  | field header => header.name ++ colon :: header.value
  | folded fold value _ _ => fold :: value

def isFolded : HeaderLine → Bool
  | field _ => false
  | folded .. => true

theorem text_ne_nil : line.text ≠ [] := by
  cases line <;> simp [text]

theorem text_ne_dot : line.text ≠ [dot] := by
  cases line with
  | field header =>
    intro isDot
    have lengths := congrArg length isDot
    have named := length_pos_iff.mpr header.name_nonempty
    simp only [text, length_append, length_cons, length_nil] at lengths
    omega
  | folded fold value isFold inLine =>
    intro isDot
    rw [text, cons.injEq] at isDot
    rw [isDot.1] at isFold
    cases isFold

theorem text_inLine : ∀ byte ∈ line.text, IsLineByte byte := by
  cases line with
  | field header =>
    intro byte found
    simp only [text, mem_append, mem_cons] at found
    rcases found with inName | rfl | inValue
    · have printable := header.name_printable byte inName
      refine ⟨?_, ?_, ?_⟩ <;> rintro rfl <;> exact absurd printable.1 (by decide)
    · decide
    · exact header.value_inLine byte inValue
  | folded fold value isFold inLine =>
    intro byte found
    simp only [text, mem_cons] at found
    rcases found with rfl | inValue
    · refine ⟨?_, ?_, ?_⟩ <;> rintro rfl <;> exact absurd isFold (by decide)
    · exact inLine byte inValue

end HeaderLine

/-- The lines of a block, each with its line end. -/
def linesBytes (lines : List HeaderLine) : Bytes :=
  lines.flatMap fun line => line.text ++ crlf

@[simp]
theorem linesBytes_cons (lines : List HeaderLine) :
    linesBytes (line :: lines) = line.text ++ crlf ++ linesBytes lines :=
  rfl

theorem exists_linesBytes_eq {lines : List HeaderLine} (nonempty : lines ≠ []) :
    ∃ front, linesBytes lines = front ++ crlf := by
  induction lines with
  | nil => exact absurd rfl nonempty
  | cons line lines ih =>
    cases lines with
    | nil => exact ⟨line.text, by simp [linesBytes]⟩
    | cons next lines =>
      rcases ih (by simp) with ⟨front, frontEq⟩
      refine ⟨line.text ++ crlf ++ front, ?_⟩
      rw [linesBytes_cons, frontEq, append_assoc _ front]

/-- A header block: a header and more lines. -/
structure HeaderBlock where
  first : HeaderField
  rest : List HeaderLine

namespace HeaderBlock

def lines (block : HeaderBlock) : List HeaderLine :=
  .field block.first :: block.rest

def bytes (block : HeaderBlock) : Bytes :=
  linesBytes block.lines

end HeaderBlock

/-! ## Well-formed blocks pass the check -/

namespace Headers

theorem findLineEndFrom_line {text tail : Bytes} (inLine : ∀ byte ∈ text, byte ≠ cr ∧ byte ≠ lf)
    (closed : tail = [] ∨ tail = [cr] ∨ crlf <+: tail) (previous : Option UInt8) (i : Nat) :
    findLineEndFrom previous i (text ++ tail) = .ok (i + text.length) := by
  induction text generalizing previous i with
  | nil =>
    rcases closed with rfl | rfl | ⟨rest, rfl⟩
    · rfl
    · rfl
    · rfl
  | cons byte text ih =>
    have first := inLine byte mem_cons_self
    have later := ih (fun byte found => inLine byte (mem_cons_of_mem _ found)) (some byte)
    rw [cons_append, findLineEndFrom.eq_def]
    simp only [first.1, first.2, if_false, later, length_cons]
    rw [Nat.add_assoc, Nat.add_comm 1]

theorem findLineEnd_line {text tail : Bytes} (inside : pos < data.length)
    (dropEq : data.drop pos = text ++ tail) (inLine : ∀ byte ∈ text, byte ≠ cr ∧ byte ≠ lf)
    (closed : tail = [] ∨ tail = [cr] ∨ crlf <+: tail) :
    findLineEnd data pos = .ok (pos + text.length) := by
  rw [findLineEnd, dropEq, Nat.min_eq_left (Nat.le_of_lt inside)]
  exact findLineEndFrom_line inLine closed _ _

theorem isFold_of_printable {byte : UInt8} (printable : 33 ≤ byte) : isFold byte = false := by
  rw [isFold, Bool.or_eq_false_iff, beq_eq_false_iff_ne, beq_eq_false_iff_ne]
  constructor <;> rintro rfl <;> exact absurd printable (by decide)

theorem validateField_text (header : HeaderField) :
    validateField (HeaderLine.field header).text = .ok () := by
  have first : colon ∉ header.name := fun found => (header.name_printable colon found).2.2 rfl
  have printable : (header.name.any fun byte =>
      isFold byte || !decide (33 ≤ byte ∧ byte ≤ 126)) = false := by
    rw [any_eq_false]
    intro byte found
    have range := header.name_printable byte found
    simp [isFold_of_printable range.1, range.1, range.2.1]
  rw [validateField, HeaderLine.text, memchr_of_not_mem_front first]
  simp only [take_left' rfl, header.name_nonempty, printable, if_false, Bool.false_eq_true]

theorem validateHeadersFrom_line {tail : Bytes} {line : HeaderLine}
    (dropEq : data.drop pos = line.text ++ tail) (closed : tail = [] ∨ crlf <+: tail)
    (notFirst : pos = 0 → line.isFolded = false) (folded : Bool) :
    validateHeadersFrom data pos folded =
      validateHeadersFrom data (pos + line.text.length + 2) (folded || line.isFolded) := by
  have inside : pos < data.length := by
    by_contra behind
    rw [drop_eq_nil_of_le (Nat.le_of_not_lt behind)] at dropEq
    exact line.text_ne_nil (append_eq_nil_iff.mp dropEq.symm).1
  have lineEnd := findLineEnd_line inside dropEq
    (fun byte found => ⟨(line.text_inLine byte found).1, (line.text_inLine byte found).2.1⟩)
    (closed.imp_right Or.inr)
  have lineEq : (data.take (pos + line.text.length)).drop pos = line.text := by
    rw [drop_take, dropEq, Nat.add_sub_cancel_left, take_left' rfl]
  rw [validateHeadersFrom, dif_pos inside]
  split
  next failed =>
    rw [lineEnd] at failed
    cases failed
  next found =>
    rw [lineEnd] at found
    cases found
    rw [lineEq]
    cases line with
    | field header =>
      have checked := validateField_text header
      cases nameEq : header.name with
      | nil => exact absurd nameEq header.name_nonempty
      | cons byte name =>
        have printable := header.name_printable byte (by simp [nameEq])
        have notFold : isFold byte = false := isFold_of_printable printable.1
        simp only [HeaderLine.text, nameEq, cons_append] at checked ⊢
        simp only [notFold, checked, HeaderLine.isFolded, Bool.or_false, Bool.false_eq_true,
          if_false]
    | folded fold value startsFolded inLine =>
      have later : pos ≠ 0 := fun isFirst => Bool.noConfusion (notFirst isFirst)
      simp only [HeaderLine.text, startsFolded, later, HeaderLine.isFolded, Bool.or_true, if_true,
        if_false]

/-- The lines of a block pass the check one after the other. -/
theorem validateHeadersFrom_lines {lines : List HeaderLine} (nonempty : lines ≠ [])
    (dropEq : data.drop pos ++ crlf = linesBytes lines)
    (notFirst : pos = 0 → ∀ line ∈ lines.head?, line.isFolded = false) (folded : Bool) :
    validateHeadersFrom data pos folded = .ok (folded || lines.any HeaderLine.isFolded) := by
  induction lines generalizing pos folded with
  | nil => exact absurd rfl nonempty
  | cons line lines ih =>
    have lineNotFirst : pos = 0 → line.isFolded = false := by
      intro isFirst
      exact notFirst isFirst line rfl
    cases lines with
    | nil =>
      have lastLine : data.drop pos = line.text ++ [] := by
        rw [append_nil]
        exact append_cancel_right (dropEq.trans (append_nil (line.text ++ crlf)))
      have behind : ¬ pos + line.text.length + 2 < data.length := by
        have lengths := congrArg length lastLine
        rw [length_drop, append_nil] at lengths
        omega
      rw [validateHeadersFrom_line lastLine (Or.inl rfl) lineNotFirst, validateHeadersFrom,
        dif_neg behind]
      simp
    | cons next lines =>
      rcases exists_linesBytes_eq (cons_ne_nil next lines) with ⟨front, frontEq⟩
      have thisLine : data.drop pos = line.text ++ (crlf ++ front) := by
        rw [linesBytes_cons, frontEq, ← append_assoc] at dropEq
        rw [append_cancel_right dropEq, append_assoc]
      have nextLines : data.drop (pos + line.text.length + 2) ++ crlf =
          linesBytes (next :: lines) := by
        rw [Nat.add_assoc, ← drop_drop, thisLine, frontEq, ← append_assoc,
          drop_left' (by simp)]
      rw [validateHeadersFrom_line thisLine (Or.inr ⟨front, rfl⟩) lineNotFirst,
        ih (cons_ne_nil next lines) nextLines (by omega)]
      simp [Bool.or_assoc]

/-- What stands in front of the blank line behind a block passes the check. -/
theorem validate_block {block : HeaderBlock} (dataEq : data ++ crlf = block.bytes) :
    validate data = .ok (if block.rest.any HeaderLine.isFolded then .unfold else .none) := by
  have checked : validateHeadersFrom data 0 false =
      .ok (false || block.lines.any HeaderLine.isFolded) := by
    have dropEq : data.drop 0 ++ crlf = linesBytes block.lines := dataEq
    apply validateHeadersFrom_lines (cons_ne_nil _ _) dropEq
    rintro - line ⟨⟩
    rfl
  rw [validate, checked, HeaderBlock.lines, any_cons]
  cases block.rest.any HeaderLine.isFolded with
  | true => simp [HeaderLine.isFolded]
  | false => simp [HeaderLine.isFolded]

end Headers

end NntpProxy.Articles
