import NntpProxy.Framing.Framer

/-!
# Blocks of lines

What stands between the status line and the closing dot of a multiline response is a block:
complete lines, none of which is a single dot.  Around a block the first terminator of a
response is its end.  Dot-stuffed text is a block, and so are lines that are not a dot.
-/

namespace NntpProxy.Framing

open Protocol NntpProxy.Stream List

/-! ## Blocks -/

/-- Complete lines, none of which is a single dot. -/
structure Block (content : Bytes) : Prop where
  closed : content = [] ∨ crlf <:+ content
  stuffed : firstEnd (endsWith terminator) crlf content = none

theorem firstEnd_crlf (front rest : Bytes) :
    firstEnd (endsWith terminator) (front ++ crlf) rest =
      firstEnd (endsWith terminator) crlf rest := by
  have lineEnd : (front ++ [cr] ++ [lf]).rtake 2 = crlf := by simp [rtake]
  have found := firstEnd_rtake_line (front ++ [cr]) rest
  rw [lineEnd] at found
  simpa using found.symm

variable {content : Bytes}

/-- A line end and a block end with a line end. -/
theorem Block.crlf_suffix (block : Block content) :
    ∃ front, crlf ++ content = front ++ crlf := by
  rcases block.closed with rfl | ⟨front, rfl⟩
  · exact ⟨[], by simp⟩
  · exact ⟨crlf ++ front, by simp⟩

theorem block_nil : Block [] :=
  ⟨Or.inl rfl, rfl⟩

theorem Block.append {first second : Bytes} (firstBlock : Block first)
    (secondBlock : Block second) : Block (first ++ second) := by
  rcases firstBlock.crlf_suffix with ⟨front, frontEq⟩
  constructor
  · rcases secondBlock.closed with rfl | suffix
    · rw [append_nil]
      exact firstBlock.closed
    · exact Or.inr (suffix.trans (suffix_append _ _))
  · rw [firstEnd_append_of_none firstBlock.stuffed, frontEq, firstEnd_crlf, secondBlock.stuffed]
    rfl

/-- An empty line. -/
theorem block_crlf : Block crlf :=
  ⟨Or.inr (suffix_refl crlf), by decide⟩

theorem Block.append_line {first second : Bytes} (firstBlock : Block first)
    (secondBlock : Block second) : Block (first ++ crlf ++ second) :=
  (firstBlock.append block_crlf).append secondBlock

theorem Block.firstEnd_closed (block : Block content) :
    firstEnd (endsWith terminator) crlf (content ++ [dot, cr, lf]) =
      some (content ++ [dot, cr, lf]).length := by
  rcases block.crlf_suffix with ⟨front, frontEq⟩
  rw [firstEnd_append_of_none block.stuffed, frontEq, firstEnd_crlf, length_append]
  rfl

variable {text : Bytes}

theorem firstEnd_statusLine (oneLine : lf ∉ text) :
    firstEnd (endsWith terminator) [] (text ++ crlf) = none := by
  rw [firstEnd_eq_none_iff]
  intro m _ _
  rw [endsWith_eq_false_iff]
  intro suffix
  have counted := (suffix.sublist.trans (take_sublist m (text ++ crlf))).count_le lf
  have inLine : (text ++ crlf).count lf = 1 := by
    rw [count_append, count_eq_zero_of_not_mem oneLine]
    decide
  have inTerminator : terminator.count lf = 2 := by decide
  omega

theorem Block.firstEnd_reply (block : Block content)
    (oneLine : lf ∉ text) : firstEnd (endsWith terminator) []
        (text ++ crlf ++ content ++ [dot, cr, lf]) =
      some (text ++ crlf ++ content ++ [dot, cr, lf]).length := by
  rw [append_assoc, firstEnd_append_of_none (firstEnd_statusLine oneLine), nil_append,
    firstEnd_crlf, block.firstEnd_closed, Option.map_some]
  exact congrArg some length_append.symm

theorem Block.front {front rest : Bytes} (block : Block (front ++ crlf ++ rest)) :
    Block (front ++ crlf) := by
  constructor
  · exact Or.inr (suffix_append _ _)
  · have found := block.stuffed
    rw [firstEnd_append] at found
    split at found
    · cases found
    · assumption

theorem Block.behind {front rest : Bytes} (block : Block (front ++ crlf ++ rest)) : Block rest := by
  constructor
  · rcases block.closed with isEmpty | suffix
    · simp at isEmpty
    · rcases rest with _ | ⟨first, _ | ⟨second, rest⟩⟩
      · exact Or.inl rfl
      · rcases suffix with ⟨before, joined⟩
        have closes : (before ++ [cr]) ++ [lf] = (front ++ crlf) ++ [first] := by
          simpa using joined
        rcases append_inj' closes rfl with ⟨shorter, -⟩
        have clash : before ++ [cr] = (front ++ [cr]) ++ [lf] := by simpa using shorter
        exact absurd (append_inj' clash rfl).2 (by decide)
      · right
        rwa [suffix_append_iff_of_le (by simp)] at suffix
  · have found := block.stuffed
    have frontNone := block.front.stuffed
    rw [firstEnd_append_of_none frontNone, Option.map_eq_none_iff, ← append_assoc,
      firstEnd_crlf] at found
    exact found

/-! ## The blank line behind headers -/

/-- The blank line behind the headers, with the end of the last header. -/
def headersEnd : Bytes :=
  crlf ++ crlf

/-- A blank line does not begin in octets without a line end. -/
theorem firstMatchEnd_headersEnd_skip (noCr : cr ∉ text) (rest : Bytes) :
    firstMatchEnd headersEnd (text ++ rest) =
      (firstMatchEnd headersEnd rest).map (text.length + ·) := by
  induction text with
  | nil => simp
  | cons byte text ih =>
    rw [mem_cons, not_or] at noCr
    have notHere : ¬ headersEnd <+: byte :: (text ++ rest) := by
      rintro ⟨tail, joined⟩
      exact noCr.1 (cons.inj joined).1
    rw [cons_append, firstMatchEnd, if_neg notHere, ih noCr.2, Option.map_map]
    congr 1
    funext stop
    simp only [Function.comp, length_cons]
    omega

/-- Behind a line end a blank line begins with the next octet. -/
theorem firstMatchEnd_headersEnd_crlf {rest : Bytes} (notBlank : rest.head? ≠ some cr) :
    firstMatchEnd headersEnd (crlf ++ rest) = (firstMatchEnd headersEnd rest).map (2 + ·) := by
  have notHere : ¬ headersEnd <+: cr :: ([lf] ++ rest) := by
    rintro ⟨tail, joined⟩
    have restEq : rest = cr :: lf :: tail := by simpa [headersEnd] using joined.symm
    rw [restEq] at notBlank
    exact notBlank rfl
  rw [cons_append, firstMatchEnd, if_neg notHere,
    firstMatchEnd_headersEnd_skip (by decide : cr ∉ [lf]), Option.map_map]
  congr 1
  funext stop
  simp only [Function.comp, length_singleton]
  omega

theorem firstMatchEnd_headersEnd {headers : Bytes} (closed : crlf <:+ headers)
    (noBlankLine : ¬ headersEnd <:+: headers) (body : Bytes) :
    firstMatchEnd headersEnd (headers ++ crlf ++ body) = some (headers.length + 2) := by
  rcases closed with ⟨front, frontEq⟩
  have noneInside : firstEnd (endsWith headersEnd) [] headers = none := by
    rw [← firstMatchEnd_eq_firstEnd (by decide)]
    exact (firstMatchEnd_eq_none_iff (by decide) headers).mpr noBlankLine
  have notYet : endsWith headersEnd (headers ++ [cr]) = false := by
    rw [endsWith_eq_false_iff]
    rintro ⟨before, joined⟩
    have lineEnds : (before ++ [cr, lf, cr]) ++ [lf] = headers ++ [cr] := by
      simpa [headersEnd] using joined
    exact absurd (append_inj' lineEnds rfl).2 (by decide)
  have reached : endsWith headersEnd (headers ++ [cr] ++ [lf]) = true := by
    rw [endsWith_eq_true_iff]
    exact ⟨front, by simp [headersEnd, ← frontEq]⟩
  have atLineEnd : firstEnd (endsWith headersEnd) headers (crlf ++ body) = some 2 := by
    have found := firstEnd_cons_of_done reached body
    have laterFound := firstEnd_cons_of_not_done notYet (lf :: body)
    rw [found] at laterFound
    exact laterFound
  rw [firstMatchEnd_eq_firstEnd (by decide), append_assoc, firstEnd_append_of_none noneInside,
    nil_append, atLineEnd]
  rfl

/-! ## Lines and dot-stuffed text -/

theorem block_line (oneLine : lf ∉ text) (notDot : text ≠ [dot]) :
    Block (text ++ crlf) := by
  refine ⟨Or.inr (suffix_append _ _), ?_⟩
  rw [firstEnd_eq_none_iff]
  intro m _ inside
  rw [endsWith_eq_false_iff]
  rintro ⟨before, joined⟩
  have counted := congrArg (count lf) joined
  have inText : text.count lf = 0 := count_eq_zero_of_not_mem oneLine
  have inTerminator : terminator.count lf = 2 := by decide
  have inLineEnd : crlf.count lf = 1 := by decide
  rw [count_append, count_append] at counted
  by_cases whole : m = (text ++ crlf).length
  · -- the line feed of the terminator is the one in front of the line
    rw [whole, take_length, count_append] at counted
    have noneBefore : lf ∉ before := count_eq_zero.mp (by omega)
    have lineEq : (before ++ [cr, lf, dot]) ++ crlf = (crlf ++ text) ++ crlf := by
      rw [whole, take_length, ← append_assoc] at joined
      rw [← joined, append_assoc]
      rfl
    have textEq := (append_inj' lineEq rfl).1
    match before, noneBefore, textEq with
    | [], _, textEq => exact notDot (by simpa using textEq.symm)
    | [_], _, textEq => simp [cr, lf] at textEq
    | _ :: second :: _, noneBefore, textEq =>
      simp only [cons_append, cons.injEq] at textEq
      exact noneBefore (by simp [textEq.2.1])
  · have short : m ≤ (text ++ [cr]).length := by
      simp only [length_append, length_cons] at inside whole ⊢
      omega
    have lineEq : text ++ crlf = (text ++ [cr]) ++ [lf] := by simp
    have noneTaken : ((text ++ crlf).take m).count lf = 0 := by
      rw [lineEq, take_append_of_le_length short]
      apply count_eq_zero_of_not_mem
      intro taken
      have inFront := mem_of_mem_take taken
      simp only [mem_append] at inFront
      exact inFront.elim oneLine (by decide)
    omega

/-- Wherever a line starts with a dot, a second one follows. -/
def DotStuffed (content : Bytes) : Prop :=
  ∀ rest ∈ (crlf ++ content).tails, [cr, lf, dot] <+: rest → [cr, lf, dot, dot] <+: rest

instance (content : Bytes) : Decidable (DotStuffed content) :=
  inferInstanceAs (Decidable (∀ rest ∈ _, _ → _))

theorem block_of_dotStuffed (closed : content = [] ∨ crlf <:+ content)
    (stuffed : DotStuffed content) : Block content := by
  refine ⟨closed, ?_⟩
  rw [firstEnd_eq_none_iff]
  intro m _ _
  rw [endsWith_eq_false_iff]
  rintro ⟨before, joined⟩
  have tail : terminator ++ content.drop m <:+ crlf ++ content := by
    refine ⟨before, ?_⟩
    rw [← append_assoc, joined, append_assoc, take_append_drop]
  have doubled := stuffed _ ((mem_tails _ _).mpr tail) ⟨cr :: lf :: content.drop m, rfl⟩
  simp [terminator, dot, cr] at doubled

end NntpProxy.Framing
