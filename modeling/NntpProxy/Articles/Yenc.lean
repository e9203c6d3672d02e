import NntpProxy.Articles.Layout

/-!
# Decoding yEnc

An encoder adds 42 to every octet, escapes what may not stand in a line, and a dot at the start of a
line is doubled on the wire.  The decoder reads the lines of a body between their headers and the
footer.  Whatever the encoder escapes and however it cuts the data into lines, decoding gives the
data back.
-/

namespace NntpProxy.Articles

open Protocol List

/-! ## The decoder -/

/-- The loop of `decode_yenc_line`. -/
def decodeOctets : Bytes → Bytes
  | [] => []
  | byte :: rest =>
    if byte = cr ∨ byte = lf ∨ byte = 0 then decodeOctets rest
    else if byte = 61 then
      match rest with
      | [] => []
      | escaped :: rest => (escaped - 64 - 42) :: decodeOctets rest
    else (byte - 42) :: decodeOctets rest

def decodeYencLine (input : Bytes) : Bytes :=
  decodeOctets (if input.take 2 = [dot, dot] then input.tail else input)

def stripCarriageReturn (line : Bytes) : Bytes :=
  if line.getLast? = some cr then line.dropLast else line

/-- The lines of a body between its headers and the footer. -/
def yencLines (body : Bytes) : List Bytes :=
  ((((body.splitOnP (· == lf)).drop 1).map stripCarriageReturn).dropWhile
    (ascii "=ypart " <+: ·)).takeWhile (¬ ascii "=yend " <+: ·)

def Article.decode (article : Article) : Option Bytes :=
  article.body.bind fun body =>
    if ascii "=ybegin" <+: body then some ((yencLines body).flatMap decodeYencLine) else none

/-! ## The encoder -/

/-- A line that encodes data.  An escape may not make up a line break, nor a line that starts like
a header. -/
inductive Encodes : Bytes → Bytes → Prop
  | nil : Encodes [] []
  | plain {octet : UInt8} {line data : Bytes} (safe : octet + 42 ∉ [0, lf, cr, 61])
      (rest : Encodes line data) : Encodes ((octet + 42) :: line) (octet :: data)
  | escaped {octet : UInt8} {line data : Bytes} (safe : octet + 106 ∉ [0, lf, cr, 121])
      (rest : Encodes line data) : Encodes (61 :: (octet + 106) :: line) (octet :: data)

def dotStuff (line : Bytes) : Bytes :=
  if line.head? = some dot then dot :: line else line

variable {line data : Bytes}

theorem decodeOctets_of_encodes (encodes : Encodes line data) : decodeOctets line = data := by
  induction encodes with
  | nil => rfl
  | plain safe rest ih =>
    unfold decodeOctets
    simp_all
  | @escaped octet line data safe rest ih =>
    have shifted : octet + 106 - 64 - 42 = octet := by grind
    simp [decodeOctets, shifted, ih, cr, lf]

theorem decodeYencLine_of_encodes (encodes : Encodes line data) :
    decodeYencLine (dotStuff line) = data := by
  rw [← decodeOctets_of_encodes encodes, decodeYencLine, dotStuff]
  cases line with
  | nil => rfl
  | cons first rest => by_cases isDot : first = dot <;> simp [isDot]

theorem lf_not_mem_of_encodes (encodes : Encodes line data) : lf ∉ dotStuff line := by
  have oneLine : lf ∉ line := by
    induction encodes with
    | nil => simp
    | plain safe rest ih => simp_all [eq_comm]
    | escaped safe rest ih => simp_all [eq_comm, lf]
  unfold dotStuff
  split
  · simpa [lf, dot] using oneLine
  · exact oneLine

/-- A line of data does not start like a header or the footer. -/
theorem not_keyword_of_encodes (encodes : Encodes line data) {keyword : Bytes}
    (isKeyword : ascii "=y" <+: keyword) : ¬ keyword <+: dotStuff line := by
  intro starts
  replace starts : [61, 121] <+: dotStuff line := isKeyword.trans starts
  revert starts
  unfold dotStuff
  split
  · simp [dot]
  · cases encodes with
    | nil => simp
    | plain safe rest =>
      rintro ⟨_, same⟩
      simp_all [eq_comm]
    | escaped safe rest =>
      rintro ⟨_, same⟩
      simp_all [eq_comm]

/-! ## Bodies -/

theorem splitOnP_lines {lines : List Bytes} (oneLine : ∀ line ∈ lines, lf ∉ line) (rest : Bytes) :
    (lines.flatMap (· ++ crlf) ++ rest).splitOnP (· == lf) =
      lines.map (· ++ [cr]) ++ rest.splitOnP (· == lf) := by
  induction lines with
  | nil => rfl
  | cons line lines ih =>
    rw [forall_mem_cons] at oneLine
    have first : ∀ byte ∈ line ++ [cr], (byte == lf) = false :=
      forall_mem_append.mpr ⟨fun byte inLine =>
        beq_eq_false_iff_ne.mpr fun isLf => oneLine.1 (isLf ▸ inLine), by simp [cr, lf]⟩
    have split := splitOnP_append_cons_of_forall_mem first lf (by simp)
      (lines.flatMap (· ++ crlf) ++ rest)
    rw [ih oneLine.2] at split
    simpa [crlf] using split

theorem stripCarriageReturn_append (line : Bytes) : stripCarriageReturn (line ++ [cr]) = line := by
  simp [stripCarriageReturn]

def wireBody (header : Bytes) (parts : List Bytes) (lines : List (Bytes × Bytes))
    (footer rest : Bytes) : Bytes :=
  (header :: parts ++ lines.map (dotStuff ·.1) ++ [footer]).flatMap (· ++ crlf) ++ rest

section

variable {header footer : Bytes} {parts : List Bytes} {lines : List (Bytes × Bytes)}
  (isHeader : ascii "=ybegin" <+: header ∧ lf ∉ header)
  (areParts : ∀ part ∈ parts, ascii "=ypart " <+: part ∧ lf ∉ part)
  (areLines : ∀ line ∈ lines, Encodes line.1 line.2)
  (isFooter : ascii "=yend " <+: footer ∧ lf ∉ footer) (rest : Bytes)

include isHeader areParts areLines isFooter

theorem yencLines_wireBody :
    yencLines (wireBody header parts lines footer rest) = lines.map (dotStuff ·.1) := by
  have oneLine : ∀ line ∈ header :: parts ++ lines.map (dotStuff ·.1) ++ [footer], lf ∉ line := by
    simp only [forall_mem_append, forall_mem_cons, forall_mem_map]
    exact ⟨⟨⟨isHeader.2, fun part isPart => (areParts part isPart).2⟩,
      fun line isLine => lf_not_mem_of_encodes (areLines line isLine)⟩, isFooter.2, by simp⟩
  rw [yencLines, wireBody, splitOnP_lines oneLine]
  simp only [cons_append, map_cons, drop_succ_cons, drop_zero, map_append, map_map,
    Function.comp_def, stripCarriageReturn_append, append_assoc, map_nil, map_id', nil_append]
  rw [dropWhile_append_of_pos (by simpa using fun part isPart => (areParts part isPart).1)]
  have noPart : ¬ ascii "=ypart " <+: footer := fun isPart =>
    absurd (prefix_of_prefix_length_le isFooter.1 isPart (by decide)) (by decide)
  rw [dropWhile_eq_self_iff.mpr, takeWhile_append_of_pos, takeWhile_cons_of_neg, append_nil]
  · simpa using isFooter.1
  · rw [forall_mem_map]
    intro line isLine
    simpa using not_keyword_of_encodes (areLines line isLine) (by decide)
  · cases lines with
    | nil => simpa using noPart
    | cons line lines =>
      simpa using not_keyword_of_encodes (areLines line mem_cons_self) (by decide)

/-- An article decodes to the data of the lines between its headers and the footer. -/
theorem decode_encoded {article : Article}
    (body : article.body = some (wireBody header parts lines footer rest)) :
    article.decode = some (lines.flatMap (·.2)) := by
  rw [Article.decode, body, Option.bind_some,
    yencLines_wireBody isHeader areParts areLines isFooter, if_pos, flatMap_map]
  · refine congrArg some (flatMap_congr fun line isLine => ?_)
    exact decodeYencLine_of_encodes (areLines line isLine)
  · exact isHeader.1.trans (by simp [wireBody, append_assoc])

end

/-- A line that starts with a dot, and an octet that is escaped. -/
theorem decode_stuffed :
    Article.decode ⟨[], none, none, some (ascii "=ybegin\r\n..=@\r\n=yend \r\n")⟩ =
      some [4, 214] := by
  have line : Encodes [46, 61, 64] [4, 214] :=
    @Encodes.plain 4 _ _ (by decide) (@Encodes.escaped 214 _ _ (by decide) .nil)
  exact @decode_encoded (ascii "=ybegin") (ascii "=yend ") [] [([46, 61, 64], [4, 214])] (by decide)
    (by simp) (by simpa using line) (by decide) [] _ rfl

end NntpProxy.Articles
