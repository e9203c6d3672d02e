import NntpProxy.Articles.Headers

/-!
# Looking headers up

Lookup and iteration read a header block line by line and pass over the lines that are folded: of
a folded header they give the first line.  Unfolding takes the line ends out that stand in front of
white space, so that the value of a folded header goes on.  The two agree exactly when folded
headers have nothing but white space behind their names.
-/

namespace NntpProxy.Articles

open Protocol Headers List

/-! ## Lookup and iteration -/

namespace Headers

/-- The lines that a scan of the block comes to from a position on.  A broken line ends it. -/
def scanLines (data : Bytes) (pos : Nat) : List Bytes :=
  if _inside : pos < data.length then
    match _found : findLineEnd data pos with
    | .error _ => []
    | .ok lineEnd => (data.take lineEnd).drop pos :: scanLines data (lineEnd + 2)
  else []
termination_by data.length - pos
decreasing_by exact lt_of_findLineEnd _inside _found

/-- A line that a scan passes over: it is empty or folded. -/
def isPassed (line : Bytes) : Bool :=
  line.head?.all isFold

def valueFrom (line : Bytes) (colonPos : Nat) : Bytes :=
  (line.drop (colonPos + 1)).dropWhile isFold

def getIn (name : Bytes) : List Bytes → Option Bytes
  | [] => none
  | line :: lines =>
    if isPassed line then getIn name lines
    else
      match memchr colon line with
      | none => none
      | some colonPos =>
        if eqIgnoreAsciiCase (line.take colonPos) name then some (valueFrom line colonPos)
        else getIn name lines

/-- What the iterator yields before it ends. -/
def iterIn : List Bytes → List (Bytes × Bytes)
  | [] => []
  | line :: lines =>
    if isPassed line then iterIn lines
    else
      match memchr colon line with
      | none => []
      | some colonPos => (line.take colonPos, valueFrom line colonPos) :: iterIn lines

def get (headers : Headers) (name : Bytes) : Option Bytes :=
  getIn name (scanLines headers.raw 0)

def iter (headers : Headers) : List (Bytes × Bytes) :=
  iterIn (scanLines headers.raw 0)

/-- Take out the line ends that stand in front of white space. -/
def unfoldContinuations : Bytes → Bytes
  | first :: second :: third :: rest =>
    if first = cr ∧ second = lf ∧ isFold third then unfoldContinuations (third :: rest)
    else first :: unfoldContinuations (second :: third :: rest)
  | rest => rest

def unfoldedBytes (headers : Headers) : Bytes :=
  match headers.transformation with
  | .none => headers.raw
  | .unfold => unfoldContinuations headers.raw

end Headers

/-! ## The headers of a block -/

/-- The name and the value of a line, if it is a header. -/
def fieldOf (line : Bytes) : List (Bytes × Bytes) :=
  if isPassed line then []
  else ((memchr colon line).map fun colonPos =>
    (line.take colonPos, valueFrom line colonPos)).toList

/-- The headers of a block without folded lines. -/
def fieldsOf (data : Bytes) : List (Bytes × Bytes) :=
  (scanLines data 0).flatMap fieldOf

/-- The value of the first header of a name. -/
def firstValue (name : Bytes) (fields : List (Bytes × Bytes)) : Option Bytes :=
  (fields.find? fun field => eqIgnoreAsciiCase field.1 name).map (·.2)

/-- Lookup and iteration give the headers of the unfolded block. -/
def Unfolds (headers : Headers) : Prop :=
  (∀ name, headers.get name = firstValue name (fieldsOf headers.unfoldedBytes)) ∧
    headers.iter = fieldsOf headers.unfoldedBytes

/-- The line starts with white space. -/
def startsFolded (line : Bytes) : Bool :=
  line.head?.any isFold

/-- What is folded onto the line in front of these lines. -/
def continuation (lines : List Bytes) : Bytes :=
  (lines.takeWhile startsFolded).flatten

/-- Headers that go on in folded lines have nothing but white space behind their names. -/
def FoldsOnlyBlanks : List Bytes → Prop
  | [] => True
  | line :: lines =>
    (∀ field ∈ fieldOf line, continuation lines ≠ [] →
      field.2 = [] ∧ ∀ byte ∈ continuation lines, isFold byte = true) ∧ FoldsOnlyBlanks lines

/-! ## Lines -/

/-- The lines of a block in which every line end is whole. -/
inductive Lines : Bytes → List Bytes → Prop where
  | nil : Lines [] []
  | last {text tail : Bytes} (inLine : ∀ byte ∈ text, byte ≠ cr ∧ byte ≠ lf)
      (closed : tail = [] ∨ tail = [cr]) (nonempty : text ++ tail ≠ []) :
      Lines (text ++ tail) [text]
  | cons {text rest : Bytes} {lines : List Bytes} (inLine : ∀ byte ∈ text, byte ≠ cr ∧ byte ≠ lf)
      (others : Lines rest lines) : Lines (text ++ (crlf ++ rest)) (text :: lines)

variable {data rest : Bytes} {lines : List Bytes}

theorem scanLines_of_line {text tail : Bytes} {pos : Nat} (dropEq : data.drop pos = text ++ tail)
    (nonempty : text ++ tail ≠ []) (inLine : ∀ byte ∈ text, byte ≠ cr ∧ byte ≠ lf)
    (closed : tail = [] ∨ tail = [cr] ∨ crlf <+: tail) :
    scanLines data pos = text :: scanLines data (pos + text.length + 2) := by
  have inside : pos < data.length := by
    rw [← dropEq, ne_eq, drop_eq_nil_iff] at nonempty
    exact Nat.lt_of_not_le nonempty
  have lineEnd := findLineEnd_line inside dropEq inLine closed
  rw [scanLines, dif_pos inside]
  split
  next failed =>
    rw [lineEnd] at failed
    cases failed
  next found =>
    rw [lineEnd] at found
    cases found
    rw [drop_take, dropEq, Nat.add_sub_cancel_left, take_left' rfl]

theorem Lines.scanLines_eq {pos : Nat} (isLines : Lines rest lines)
    (dropEq : data.drop pos = rest) : scanLines data pos = lines := by
  induction isLines generalizing pos with
  | nil =>
    rw [scanLines, dif_neg (Nat.not_lt.mpr (drop_eq_nil_iff.mp dropEq))]
  | @last text tail inLine closed nonempty =>
    rw [scanLines_of_line dropEq nonempty inLine (closed.imp_right Or.inl), scanLines,
      dif_neg]
    have lengths := congrArg length dropEq
    rw [length_drop, length_append] at lengths
    have short : tail.length ≤ 1 := by rcases closed with rfl | rfl <;> simp
    omega
  | @cons text rest lines inLine others ih =>
    rw [scanLines_of_line dropEq (by simp) inLine (Or.inr (Or.inr ⟨rest, rfl⟩)), ih]
    rw [Nat.add_assoc, ← drop_drop, dropEq, ← append_assoc, drop_left' (by simp)]

theorem findLineEndFrom_inv {previous : Option UInt8} {i lineEnd : Nat} (notCr : previous ≠ some cr)
    (found : findLineEndFrom previous i rest = .ok lineEnd) :
    ∃ text tail, rest = text ++ tail ∧ lineEnd = i + text.length ∧
      (∀ byte ∈ text, byte ≠ cr ∧ byte ≠ lf) ∧ (tail = [] ∨ tail = [cr] ∨ crlf <+: tail) := by
  induction rest generalizing previous i with
  | nil =>
    cases found
    exact ⟨[], [], rfl, rfl, by simp, Or.inl rfl⟩
  | cons byte rest ih =>
    unfold findLineEndFrom at found
    split at found
    · cases found
    next notLf =>
      split at found
      next isCr =>
        subst isCr
        refine ⟨[], cr :: rest, rfl, ?_, by simp, ?_⟩
        · split at found
          · cases found
            rfl
          · split at found
            · cases found
              rfl
            · cases found
        · split at found
          · exact Or.inr (Or.inl rfl)
          next next more =>
            split at found
            next isLf =>
              subst isLf
              exact Or.inr (Or.inr ⟨more, rfl⟩)
            · cases found
      next notCrByte =>
        rcases ih (by simpa using notCrByte) found with ⟨text, tail, rfl, rfl, inLine, closed⟩
        refine ⟨byte :: text, tail, rfl, ?_, ?_, closed⟩
        · simp only [length_cons]
          omega
        · exact forall_mem_cons.mpr ⟨⟨notCrByte, notLf⟩, inLine⟩

/-- A line that is a header has a colon. -/
def Named (line : Bytes) : Prop :=
  isPassed line = false → colon ∈ line

theorem named_of_validateField {line : Bytes} (checked : validateField line = .ok ()) :
    colon ∈ line := by
  unfold validateField memchr at checked
  split at checked
  · cases checked
  next colonPos found =>
    exact isSome_idxOf?.mp (by rw [found]; rfl)

theorem lines_of_validateHeadersFrom {pos : Nat} {folded result : Bool}
    (notCr : (if pos = 0 then none else data[pos - 1]?) ≠ some cr)
    (checked : validateHeadersFrom data pos folded = .ok result) :
    ∃ lines, Lines (data.drop pos) lines ∧ (∀ line ∈ lines, Named line) ∧
      result = (folded || lines.any startsFolded) := by
  induction left : data.length - pos using Nat.strongRecOn generalizing pos folded with
  | ind left ih =>
  rw [validateHeadersFrom] at checked
  split at checked
  next inside =>
    split at checked
    · cases checked
    next lineEnd found =>
      rcases findLineEndFrom_inv notCr found with ⟨text, tail, dropEq, endEq, inLine, closed⟩
      rw [Nat.min_eq_left (Nat.le_of_lt inside)] at endEq
      subst endEq
      have step : validateHeadersFrom data (pos + text.length + 2)
          (folded || startsFolded text) = .ok result ∧ Named text := by
        rw [drop_take, dropEq, Nat.add_sub_cancel_left, take_left' rfl] at checked
        cases text with
        | nil => exact ⟨by simpa [startsFolded] using checked, nofun⟩
        | cons byte line =>
          simp only at checked
          split at checked
          next isFolded =>
            split at checked
            · cases checked
            · exact ⟨by simpa [startsFolded, isFolded] using checked,
                by simp [Named, isPassed, isFolded]⟩
          next notFolded =>
            split at checked
            · cases checked
            next valid =>
              exact ⟨by simpa [startsFolded, notFolded] using checked,
                fun _ => named_of_validateField valid⟩
      have behind : data.drop (pos + text.length + 2) = tail.drop 2 := by
        rw [Nat.add_assoc, ← drop_drop, dropEq, drop_length_add_append]
      have notCrNext : (if pos + text.length + 2 = 0 then none
          else data[pos + text.length + 2 - 1]?) ≠ some cr := by
        rw [if_neg (Nat.succ_ne_zero _), Nat.add_sub_assoc (by decide), Nat.add_assoc,
          ← getElem?_drop, dropEq, getElem?_append_right (Nat.le_add_right _ _),
          Nat.add_sub_cancel_left]
        rcases closed with rfl | rfl | ⟨more, rfl⟩
        · simp
        · simp
        · exact (by decide : some lf ≠ some cr)
      rcases ih _ (by omega) notCrNext step.1 rfl with ⟨lines, isLines, named, resultEq⟩
      rw [behind] at isLines
      refine ⟨text :: lines, ?_, forall_mem_cons.mpr ⟨step.2, named⟩, ?_⟩
      · rw [dropEq]
        have lastLine : tail = [] ∨ tail = [cr] → Lines (text ++ tail) (text :: lines) := by
          intro isLast
          have noMore : lines = [] := by
            rw [← isLines.scanLines_eq rfl]
            rcases isLast with rfl | rfl <;> simp [scanLines]
          rw [noMore]
          refine .last inLine isLast ?_
          rw [← dropEq, ne_eq, drop_eq_nil_iff]
          exact Nat.not_le_of_lt inside
        rcases closed with isEmpty | isCr | ⟨more, rfl⟩
        · exact lastLine (Or.inl isEmpty)
        · exact lastLine (Or.inr isCr)
        · exact .cons inLine isLines
      · rw [resultEq, any_cons, Bool.or_assoc]
  next outside =>
    cases checked
    exact ⟨[], drop_eq_nil_of_le (Nat.le_of_not_lt outside) ▸ .nil, by simp, by simp⟩

/-! ## Unfolding -/

/-- The headers of lines with what is folded onto them. -/
def unfoldedFields : List Bytes → List (Bytes × Bytes)
  | [] => []
  | line :: lines => fieldOf (line ++ continuation lines) ++ unfoldedFields lines

theorem unfoldContinuations_cons {byte : UInt8} (notCr : byte ≠ cr) (rest : Bytes) :
    unfoldContinuations (byte :: rest) = byte :: unfoldContinuations rest := by
  rcases rest with _ | ⟨second, _ | ⟨third, rest⟩⟩ <;> simp [unfoldContinuations, notCr]

theorem unfoldContinuations_append {text : Bytes} (inLine : ∀ byte ∈ text, byte ≠ cr ∧ byte ≠ lf)
    (rest : Bytes) : unfoldContinuations (text ++ rest) = text ++ unfoldContinuations rest := by
  induction text with
  | nil => rfl
  | cons byte text ih =>
    rw [forall_mem_cons] at inLine
    rw [cons_append, unfoldContinuations_cons inLine.1.1, ih inLine.2, cons_append]

theorem unfoldContinuations_crlf (rest : Bytes) :
    unfoldContinuations (crlf ++ rest) =
      if startsFolded rest then unfoldContinuations rest else crlf ++ unfoldContinuations rest := by
  have notCr : lf ≠ cr := by decide
  cases rest with
  | nil => rfl
  | cons byte rest =>
    change unfoldContinuations (cr :: lf :: byte :: rest) = _
    rw [unfoldContinuations, unfoldContinuations_cons notCr]
    simp only [true_and]
    rfl

theorem Lines.startsFolded_head (isLines : Lines data lines) :
    lines.head?.any startsFolded = startsFolded data := by
  cases isLines with
  | nil => rfl
  | @last text tail inLine closed nonempty =>
    cases text with
    | nil => rcases closed with rfl | rfl <;> rfl
    | cons byte text => rfl
  | @cons text rest lines inLine others =>
    cases text with
    | nil => rfl
    | cons byte text => rfl

theorem Lines.append_front {text line : Bytes} (inLine : ∀ byte ∈ text, byte ≠ cr ∧ byte ≠ lf)
    (isLines : Lines data (line :: lines)) : Lines (text ++ data) ((text ++ line) :: lines) := by
  have joined : (∀ byte ∈ line, byte ≠ cr ∧ byte ≠ lf) →
      ∀ byte ∈ text ++ line, byte ≠ cr ∧ byte ≠ lf := fun others =>
    forall_mem_append.mpr ⟨inLine, others⟩
  cases isLines with
  | last others closed nonempty =>
    rw [← append_assoc]
    exact .last (joined others) closed (by simp_all)
  | cons others rest =>
    rw [← append_assoc]
    exact .cons (joined others) rest

theorem continuation_cons {line : Bytes} (isFolded : startsFolded line = true)
    (lines : List Bytes) : continuation (line :: lines) = line ++ continuation lines := by
  rw [continuation, takeWhile_cons, if_pos isFolded]
  rfl

theorem continuation_of_not (none : lines.head?.any startsFolded = false) :
    continuation lines = [] := by
  cases lines with
  | nil => rfl
  | cons line lines =>
    rw [continuation, takeWhile_cons, if_neg (by simpa using none)]
    rfl

theorem isPassed_continuation (lines : List Bytes) :
    isPassed (continuation lines) = true := by
  cases isFolded : lines.head?.any startsFolded with
  | false => simp [continuation_of_not isFolded, isPassed]
  | true =>
    rcases lines with _ | ⟨_ | ⟨byte, line⟩, lines⟩
    · rfl
    · cases isFolded
    · have isFold : isFold byte = true := isFolded
      simp [continuation, startsFolded, isFold, isPassed]

/-- Unfolding joins the lines that are folded to those in front of them. -/
theorem Lines.unfold (isLines : Lines data lines) :
    ∃ unfolded, Lines (unfoldContinuations data) unfolded ∧
      (startsFolded data = true → ∃ more, unfolded = continuation lines :: more) ∧
      unfolded.flatMap fieldOf = unfoldedFields lines := by
  induction isLines with
  | nil => exact ⟨[], .nil, nofun, rfl⟩
  | @last text tail inLine closed nonempty =>
    have isLines := Lines.last inLine closed nonempty
    have same : unfoldContinuations (text ++ tail) = text ++ tail := by
      rw [unfoldContinuations_append inLine]
      rcases closed with rfl | rfl <;> rfl
    rw [same]
    refine ⟨[text], isLines, fun isFolded => ⟨[], ?_⟩, ?_⟩
    · rw [← isLines.startsFolded_head] at isFolded
      rw [continuation_cons (by simpa using isFolded)]
      exact congrArg (· :: []) (append_nil text).symm
    · rw [unfoldedFields, continuation_of_not rfl, append_nil]
      rfl
  | @cons text rest lines inLine others ih =>
    obtain ⟨unfolded, isUnfolded, headEq, fieldsEq⟩ := ih
    have first : startsFolded (text ++ (crlf ++ rest)) = true →
        continuation (text :: lines) = text ++ continuation lines := by
      intro isFolded
      rw [← (Lines.cons inLine others).startsFolded_head] at isFolded
      exact continuation_cons (by simpa using isFolded) lines
    rw [unfoldContinuations_append inLine, unfoldContinuations_crlf]
    cases isFolded : startsFolded rest with
    | true =>
      obtain ⟨more, rfl⟩ := headEq isFolded
      refine ⟨(text ++ continuation lines) :: more, ?_, fun isFirst => ⟨more, ?_⟩, ?_⟩
      · simp only [if_true]
        exact isUnfolded.append_front inLine
      · rw [first isFirst]
      · rw [flatMap_cons, fieldOf, if_pos (isPassed_continuation lines)] at fieldsEq
        rw [unfoldedFields, ← fieldsEq]
        rfl
    | false =>
      have nothing : continuation lines = [] :=
        continuation_of_not (others.startsFolded_head.trans isFolded)
      refine ⟨text :: unfolded, .cons inLine isUnfolded, fun isFirst => ⟨unfolded, ?_⟩, ?_⟩
      · rw [first isFirst, nothing, append_nil]
      · rw [flatMap_cons, unfoldedFields, nothing, append_nil, fieldsEq]

theorem unfoldedFields_of_none (none : lines.any startsFolded = false) :
    unfoldedFields lines = lines.flatMap fieldOf := by
  induction lines with
  | nil => rfl
  | cons line lines ih =>
    rw [any_cons, Bool.or_eq_false_iff] at none
    have nothing : continuation lines = [] := by
      cases lines with
      | nil => rfl
      | cons next lines => exact continuation_of_not (Bool.or_eq_false_iff.mp none.2).1
    rw [unfoldedFields, nothing, append_nil, ih none.2, flatMap_cons]

/-! ## Agreement -/

/-- A line is passed over, or it has a name in front of a colon. -/
theorem Named.cases {line : Bytes} (named : Named line) :
    isPassed line = true ∧ fieldOf line = [] ∨
      ∃ front rest, line = front ++ colon :: rest ∧ ∀ more,
        isPassed (line ++ more) = false ∧ memchr colon (line ++ more) = some front.length ∧
          fieldOf (line ++ more) = [(front, (rest ++ more).dropWhile isFold)] := by
  cases passed : isPassed line with
  | true => exact Or.inl ⟨rfl, if_pos passed⟩
  | false =>
    obtain ⟨front, rest, rfl, first⟩ := eq_append_cons_of_mem (named passed)
    refine Or.inr ⟨front, rest, rfl, fun more => ?_⟩
    have stillNamed : isPassed (front ++ colon :: rest ++ more) = false := by
      cases front <;> exact passed
    have found : memchr colon (front ++ colon :: rest ++ more) = some front.length := by
      rw [append_assoc]
      exact memchr_of_not_mem_front first (rest ++ more)
    rw [fieldOf, found, stillNamed]
    simp [valueFrom]

theorem scans_eq (named : ∀ line ∈ lines, Named line) (name : Bytes) :
    iterIn lines = lines.flatMap fieldOf ∧
      getIn name lines = firstValue name (lines.flatMap fieldOf) := by
  induction lines with
  | nil => exact ⟨rfl, rfl⟩
  | cons line lines ih =>
    rw [forall_mem_cons] at named
    obtain ⟨iterEq, getEq⟩ := ih named.2
    rw [iterIn, getIn, flatMap_cons, iterEq, getEq]
    rcases named.1.cases with ⟨passed, noField⟩ | ⟨front, rest, lineEq, field⟩
    · simp [passed, noField]
    · specialize field []
      rw [append_nil, append_nil] at field
      obtain ⟨notPassed, found, fieldEq⟩ := field
      have valueEq : valueFrom line front.length = rest.dropWhile isFold := by
        simp [valueFrom, lineEq]
      have nameEq : line.take front.length = front := by simp [lineEq]
      simp only [notPassed, found, fieldEq, valueEq, nameEq, firstValue, singleton_append,
        find?_cons, Bool.false_eq_true, if_false]
      cases eqIgnoreAsciiCase front name <;> exact ⟨trivial, rfl⟩

theorem fields_eq_iff (named : ∀ line ∈ lines, Named line) :
    lines.flatMap fieldOf = unfoldedFields lines ↔ FoldsOnlyBlanks lines := by
  induction lines with
  | nil => exact ⟨fun _ => trivial, fun _ => rfl⟩
  | cons line lines ih =>
    rw [forall_mem_cons] at named
    rw [flatMap_cons, unfoldedFields, FoldsOnlyBlanks, ← ih named.2]
    rcases named.1.cases with ⟨passed, noField⟩ | ⟨front, rest, -, field⟩
    · have stillPassed : isPassed (line ++ continuation lines) = true := by
        cases line with
        | nil => exact isPassed_continuation lines
        | cons byte line => exact passed
      rw [noField, fieldOf, if_pos stillPassed]
      simp
    · have alone := (field []).2.2
      rw [append_nil, append_nil] at alone
      rw [alone, (field _).2.2]
      simp only [singleton_append, cons.injEq, Prod.mk.injEq, true_and,
        mem_singleton, forall_eq]
      apply and_congr_left'
      rw [dropWhile_append]
      cases rest.dropWhile isFold with
      | nil =>
        rw [isEmpty_nil, if_pos rfl, eq_comm, dropWhile_eq_nil_iff]
        exact ⟨fun blank _ => ⟨rfl, blank⟩, fun blank byte found =>
          (blank (ne_nil_of_mem found)).2 byte found⟩
      | cons byte value => simp

theorem unfolds_iff_of_lines {transformation : HeaderTransformation}
    (isLines : Lines data lines) (named : ∀ line ∈ lines, Named line)
    (folded : transformation = .none → lines.any startsFolded = false) :
    Unfolds ⟨data, transformation⟩ ↔ FoldsOnlyBlanks lines := by
  have scanned : scanLines data 0 = lines := isLines.scanLines_eq rfl
  have fields : fieldsOf (Headers.unfoldedBytes ⟨data, transformation⟩) = unfoldedFields lines := by
    cases transformation with
    | none => rw [unfoldedFields_of_none (folded rfl), ← scanned]; rfl
    | unfold =>
      obtain ⟨unfolded, isUnfolded, -, fieldsEq⟩ := isLines.unfold
      rw [← fieldsEq, ← @Lines.scanLines_eq (unfoldContinuations data) _ _ 0 isUnfolded rfl]
      rfl
  rw [← fields_eq_iff named, Unfolds, fields, Headers.iter, scanned, (scans_eq named []).1]
  refine ⟨And.right, fun same => ⟨fun name => ?_, same⟩⟩
  rw [Headers.get, scanned, (scans_eq named name).2, same]

/-- On a block that validation accepts, lookup and iteration give the headers of the unfolded block
exactly when nothing but white space is folded. -/
theorem unfolds_iff {transformation : HeaderTransformation}
    (accepted : Headers.validate data = .ok transformation) :
    Unfolds ⟨data, transformation⟩ ↔ FoldsOnlyBlanks (scanLines data 0) := by
  unfold Headers.validate at accepted
  split at accepted
  · cases accepted
  next checked =>
    cases accepted
    obtain ⟨lines, isLines, named, -⟩ := lines_of_validateHeadersFrom (by simp) checked
    rw [isLines.scanLines_eq rfl]
    exact unfolds_iff_of_lines isLines named nofun
  next checked =>
    cases accepted
    obtain ⟨lines, isLines, named, folded⟩ := lines_of_validateHeadersFrom (by simp) checked
    rw [isLines.scanLines_eq rfl]
    exact unfolds_iff_of_lines isLines named fun _ => by simpa using folded.symm

/-- A header whose value goes on in a second line. -/
def foldedBlock : HeaderBlock where
  first := ⟨ascii "a", ascii " b", by decide, by decide +kernel, by decide +kernel⟩
  rest := [.folded 32 (ascii "c") rfl (by decide +kernel)]

theorem validate_folded : Headers.validate (ascii "a: b\r\n c") = .ok .unfold :=
  @validate_block _ foldedBlock (by decide)

theorem unfolds_iff_folded :
    Headers.validate (ascii "a: b\r\n c") = .ok .unfold ∧
      (Unfolds ⟨ascii "a: b\r\n c", .unfold⟩ ↔
        FoldsOnlyBlanks (scanLines (ascii "a: b\r\n c") 0)) :=
  ⟨validate_folded, unfolds_iff validate_folded⟩

/-- The second line of the header is lost. -/
theorem not_unfolds_folded :
    Headers.validate (ascii "a: b\r\n c") = .ok .unfold ∧
      ¬ Unfolds ⟨ascii "a: b\r\n c", .unfold⟩ := by
  refine ⟨validate_folded, fun unfolds => ?_⟩
  have isLines : Lines (ascii "a: b\r\n c") [ascii "a: b", ascii " c"] :=
    @Lines.cons (ascii "a: b") (ascii " c") _ (by decide +kernel)
      (@Lines.last (ascii " c") [] (by decide +kernel) (Or.inl rfl) (by decide))
  have blank := (unfolds_iff_of_lines isLines (by unfold Named; decide) (by simp)).mp unfolds
  exact absurd (blank.1 (ascii "a", ascii "b") (by decide) (by decide)).1 (by decide)

end NntpProxy.Articles
