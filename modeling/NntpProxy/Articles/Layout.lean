import NntpProxy.Articles.Headers
import NntpProxy.Framing.Block
import NntpProxy.Protocol.Request

/-!
# The layout of an article response

A framed response holds the status line and the content without the terminator.  Parsing finds
the message identifier, the headers and the body as ranges of these octets, and a view reads
the ranges.  Headers and body of an article are parted by the first blank line.
-/

namespace NntpProxy.Articles

open Protocol Framing NntpProxy.Stream List

/-! ## Ranges -/

/-- A range of the octets of a response. -/
structure ArticleFrameRange where
  start : Nat
  stop : Nat
  le : start ≤ stop
  deriving DecidableEq, Repr

namespace ArticleFrameRange

def new (start stop : Nat) : Except ParseError ArticleFrameRange :=
  if le : start ≤ stop then .ok ⟨start, stop, le⟩ else .error .bufferTooShort

/-- The octets of a range; a range that reaches further panics in the source. -/
def slice (range : ArticleFrameRange) (buffer : Bytes) : Bytes :=
  (buffer.take range.stop).drop range.start

theorem new_of_le {start stop : Nat} (le : start ≤ stop) : new start stop = .ok ⟨start, stop, le⟩ :=
  dif_pos le

end ArticleFrameRange

/-! ## The status line -/

/-- A position in the status line, or what is missing there. -/
def positionOr (position : Option Nat) (missing : String) : Except ParseError Nat :=
  match position with
  | some position => .ok position
  | none => .error (.invalidMessageId (ascii missing))

/-- A message identifier has 3 to 250 octets in angle brackets. -/
def isEnclosed (text : Bytes) : Bool :=
  decide (3 ≤ text.length ∧ text.length ≤ 250) &&
    text.head? == some 60 && text.getLast? == some 62

def validateMessageId (text : Bytes) : Except ParseError Unit :=
  if isMessageId text then .ok ()
  else if isEnclosed text then
    .error (.invalidMessageId
      (ascii "invalid message ID: must contain only printable US-ASCII except >"))
  else
    .error (.invalidMessageId (ascii
      "invalid message ID: must be 3..=250 printable US-ASCII octets enclosed in <...>"))

/-- The range of the message identifier of a status line, and its article number. -/
def parseFirstLineLayout (line : Bytes) :
    Except ParseError (ArticleFrameRange × Option UInt64) := do
  let firstSpace ← positionOr (memchr 32 line) "No space after status code"
  let secondSpace ← positionOr ((memchr 32 (line.drop (firstSpace + 1))).map (firstSpace + 1 + ·))
    "No article number"
  let number := (line.take secondSpace).drop (firstSpace + 1)
  let articleNumber := if (decodeUtf8 number).isSome then parseU64 number else none
  let msgIdStart ← positionOr ((memchr 60 (line.drop secondSpace)).map (secondSpace + ·))
    "No '<' found"
  let msgIdEnd ← positionOr ((memchr 62 (line.drop msgIdStart)).map (msgIdStart + · + 1))
    "No '>' found"
  let messageId := (line.take msgIdEnd).drop msgIdStart
  if (decodeUtf8 messageId).isNone then
    .error (.invalidMessageId (ascii "Invalid UTF-8 in message-id"))
  else
    let _ ← validateMessageId messageId
    let range ← ArticleFrameRange.new msgIdStart msgIdEnd
    return (range, articleNumber)

/-! ## The content -/

inductive ArticleContent where
  | article (headers : ArticleFrameRange) (headerTransformation : HeaderTransformation)
      (body : ArticleFrameRange)
  | head (headers : ArticleFrameRange) (headerTransformation : HeaderTransformation)
  | body (body : ArticleFrameRange)
  | stat
  deriving DecidableEq, Repr

structure ArticleLayout where
  messageId : ArticleFrameRange
  articleNumber : Option UInt64
  content : ArticleContent
  deriving DecidableEq, Repr

/-- Where the octets come from: only a framed response is searched for null octets. -/
inductive ValidationSource where
  | standalone
  | framedResponse
  deriving DecidableEq, Repr

/-- The position of the first blank line with the line end before it. -/
def findBlankLine (buf : Bytes) (start : Nat) : Except ParseError Nat :=
  match firstMatchEnd headersEnd (buf.drop start) with
  | some stop => .ok (start + stop - headersEnd.length)
  | none => .error .missingSeparator

def rejectNul (source : ValidationSource) (part : Bytes) (error : ParseError) :
    Except ParseError Unit :=
  if source = .framedResponse ∧ 0 ∈ part then .error error else .ok ()

def nulInHeader : ParseError :=
  .invalidHeader (ascii "NUL byte in framed header")

section

variable (framed : Bytes) (contentStart contentEnd : Nat) (source : ValidationSource)

/-- Headers, a blank line and a body. -/
def articleContent :
    Except ParseError ArticleContent := do
  let separatorPos ← findBlankLine framed contentStart
  let headers ← ArticleFrameRange.new contentStart separatorPos
  let _ ← rejectNul source (headers.slice framed) nulInHeader
  let transformation ← Headers.validate (headers.slice framed)
  let body ← ArticleFrameRange.new (separatorPos + 4) contentEnd
  let _ ← rejectNul source (body.slice framed) .invalidBody
  return .article headers transformation body

/-- Headers without a blank line. -/
def headContent :
    Except ParseError ArticleContent :=
  match findBlankLine framed contentStart with
  | .ok _ => .error .unexpectedBody
  | .error _ => do
      let headers ← ArticleFrameRange.new contentStart contentEnd
      let _ ← rejectNul source (headers.slice framed) nulInHeader
      let transformation ← Headers.validate (headers.slice framed)
      return .head headers transformation

def bodyContent :
    Except ParseError ArticleContent := do
  let body ← ArticleFrameRange.new contentStart contentEnd
  let _ ← rejectNul source (body.slice framed) .invalidBody
  return .body body

end

def statContent (contentStart contentEnd : Nat) : Except ParseError ArticleContent :=
  if contentStart < contentEnd then .error .unexpectedBody else .ok .stat

/-- The content that belongs to a status from 220 to 223; the caller has checked it. -/
def contentForStatus (status : StatusCode) (framed : Bytes) (contentStart contentEnd : Nat)
    (source : ValidationSource) : Except ParseError ArticleContent :=
  if status.value = 220 then articleContent framed contentStart contentEnd source
  else if status.value = 221 then headContent framed contentStart contentEnd source
  else if status.value = 222 then bodyContent framed contentStart contentEnd source
  else statContent contentStart contentEnd

namespace ArticleLayout

def fromFirstLine (buf : Bytes) (status : StatusCode) (firstLineEnd : Nat)
    (messageId : ArticleFrameRange) (articleNumber : Option UInt64) (contentEnd : Nat)
    (source : ValidationSource) : Except ParseError ArticleLayout :=
  if buf.length < contentEnd then .error .bufferTooShort
  else do
    let content ← contentForStatus status (buf.take contentEnd) (firstLineEnd + crlf.length)
      contentEnd source
    return ⟨messageId, articleNumber, content⟩

/-- Parse a framed response whose status line ends where the framer found it. -/
def parseFramed (buf : Bytes) (status : StatusCode) (statusLineEnd contentEnd : Nat) :
    Except ParseError ArticleLayout :=
  if ¬ (220 ≤ status.value ∧ status.value ≤ 223) then .error (.invalidStatusCode status.value)
  else if statusLineEnd < crlf.length then .error .bufferTooShort
  else
    let firstLineEnd := statusLineEnd - crlf.length
    if contentEnd < statusLineEnd ∨ buf.length < contentEnd ∨
        (buf.take statusLineEnd).drop firstLineEnd ≠ crlf then .error .bufferTooShort
    else do
      let (messageId, articleNumber) ← parseFirstLineLayout (buf.take firstLineEnd)
      fromFirstLine buf status firstLineEnd messageId articleNumber contentEnd .framedResponse

/-- Check the body of a layout if it starts like encoded data. -/
def validateYenc (validateYencStructure : Bytes → Except ParseError Unit)
    (layout : ArticleLayout) (buf : Bytes) : Except ParseError Unit :=
  match layout.content with
  | .article _ _ body | .body body =>
    if ascii "=ybegin" <+: body.slice buf then validateYencStructure (body.slice buf)
    else .ok ()
  | .head _ _ | .stat => .ok ()

end ArticleLayout

/-- What a response says about an article. -/
structure Article where
  messageId : Bytes
  articleNumber : Option UInt64
  headers : Option Headers
  body : Option Bytes
  deriving DecidableEq, Repr

/-- Read the ranges of a layout. -/
def ArticleLayout.view (layout : ArticleLayout) (buf : Bytes) : Article :=
  let messageId := layout.messageId.slice buf
  match layout.content with
  | .article headers transformation body =>
    ⟨messageId, layout.articleNumber, some ⟨headers.slice buf, transformation⟩,
      some (body.slice buf)⟩
  | .head headers transformation =>
    ⟨messageId, layout.articleNumber, some ⟨headers.slice buf, transformation⟩, none⟩
  | .body body => ⟨messageId, layout.articleNumber, none, some (body.slice buf)⟩
  | .stat => ⟨messageId, layout.articleNumber, none, none⟩

/-! ## States of a response -/

inductive YencValidation where
  | disabled
  | enabled
  deriving DecidableEq, Repr

/-- A complete response and the ends of its status line and of its content. -/
structure Framed where
  bytes : Bytes
  kind : RequestKind
  status : StatusCode
  statusLineEnd : Nat
  contentEnd : Nat
  deriving DecidableEq, Repr

/-- A response with the layout it was validated with. -/
structure Validated where
  bytes : Bytes
  kind : RequestKind
  status : StatusCode
  layout : ArticleLayout
  deriving DecidableEq, Repr

section

variable (framed : Framed) (validateYencStructure : Bytes → Except ParseError Unit)

/-- Validate a framed response.  The check of encoded data is a parameter. -/
def Framed.validate (policy : YencValidation) : Except ParseError Validated := do
  let layout ← ArticleLayout.parseFramed framed.bytes framed.status framed.statusLineEnd
    framed.contentEnd
  match policy with
  | .disabled => return ⟨framed.bytes, framed.kind, framed.status, layout⟩
  | .enabled =>
    let _ ← layout.validateYenc validateYencStructure framed.bytes
    return ⟨framed.bytes, framed.kind, framed.status, layout⟩

theorem Framed.validate_disabled :
    framed.validate validateYencStructure .disabled =
      (ArticleLayout.parseFramed framed.bytes framed.status framed.statusLineEnd
          framed.contentEnd).map
        fun layout => ⟨framed.bytes, framed.kind, framed.status, layout⟩ := by
  unfold Framed.validate
  cases ArticleLayout.parseFramed framed.bytes framed.status framed.statusLineEnd
      framed.contentEnd with
  | error error => rfl
  | ok layout => rfl

end

def Validated.article (validated : Validated) : Article :=
  validated.layout.view validated.bytes

/-! ## The status line of an article -/

/-- A message identifier and its octets inside the brackets. -/
theorem exists_inner_of_isMessageId {text : Bytes} (valid : isMessageId text = true) :
    ∃ inner, text = 60 :: (inner ++ [62]) ∧
      ∀ byte ∈ inner, (33 ≤ byte ∧ byte ≤ 126) ∧ byte ≠ 62 := by
  simp only [isMessageId, Bool.and_eq_true, decide_eq_true_eq, beq_iff_eq, all_eq_true,
    bne_iff_ne] at valid
  rcases valid with ⟨⟨⟨lengths, opened⟩, closed⟩, inside⟩
  cases text with
  | nil => cases opened
  | cons first rest =>
    cases opened
    rcases eq_nil_or_concat rest with rfl | ⟨inner, last, rfl⟩
    · simp at lengths
    · rw [concat_eq_append] at closed inside ⊢
      rw [← cons_append, getLast?_concat, Option.some.injEq] at closed
      refine ⟨inner, by rw [closed], ?_⟩
      simpa using inside

/-- The status line of an article: its number and its message identifier. -/
structure ArticleLine where
  number : Bytes
  messageId : Bytes
  comment : Bytes
  number_word : 32 ∉ number
  wellFormed : isMessageId messageId = true
  oneLine : lf ∉ number ++ comment

variable (line : ArticleLine)

namespace ArticleLine

def text (line : ArticleLine) : Bytes :=
  ascii "220" ++ 32 :: (line.number ++ 32 :: (line.messageId ++ line.comment))

/-- Where the message identifier starts. -/
def messageIdStart (line : ArticleLine) : Nat :=
  4 + line.number.length + 1

def range (line : ArticleLine) : ArticleFrameRange :=
  ⟨line.messageIdStart, line.messageIdStart + line.messageId.length, Nat.le_add_right _ _⟩

def articleNumber (line : ArticleLine) : Option UInt64 :=
  if (decodeUtf8 line.number).isSome then parseU64 line.number else none

theorem text_eq :
    line.text = ascii "220 " ++ line.number ++ 32 :: (line.messageId ++ line.comment) := by
  rfl

theorem lf_not_mem_text : lf ∉ line.text := by
  rcases exists_inner_of_isMessageId line.wellFormed with ⟨inner, idEq, inside⟩
  have clean := line.oneLine
  rw [mem_append, not_or] at clean
  have inId : lf ∉ line.messageId := by
    rw [idEq, mem_cons, mem_append]
    rintro (opening | inInner | closing)
    · exact absurd opening (by decide)
    · exact absurd (inside lf inInner).1.1 (by decide)
    · exact absurd closing (by decide)
  rw [text_eq]
  simp only [mem_append, mem_cons, not_or]
  exact ⟨⟨by decide, clean.1⟩, by decide, inId, clean.2⟩

theorem parse_text : StatusCode.parse (line.text ++ crlf) = some ⟨220, by decide, by decide⟩ :=
  rfl

theorem drop_text :
    line.text.drop (4 + line.number.length) = 32 :: (line.messageId ++ line.comment) := by
  rw [text_eq]
  exact drop_left' length_append

theorem drop_messageIdStart :
    line.text.drop line.messageIdStart = line.messageId ++ line.comment := by
  rw [messageIdStart, ← drop_drop, drop_text]
  rfl

theorem slice_range (rest : Bytes) : line.range.slice (line.text ++ rest) = line.messageId := by
  have inside : line.messageIdStart ≤ line.text.length := by
    rw [text_eq, length_append, length_append]
    exact Nat.add_le_add (Nat.le_refl _) (Nat.le_add_left _ _)
  rw [ArticleFrameRange.slice, range, drop_take, drop_append_of_le_length inside,
    drop_messageIdStart, Nat.add_sub_cancel_left, append_assoc, take_left' rfl]

theorem parseFirstLineLayout_text :
    parseFirstLineLayout line.text = .ok (line.range, line.articleNumber) := by
  rcases exists_inner_of_isMessageId line.wellFormed with ⟨inner, idEq, inside⟩
  have firstSpace : memchr 32 line.text = some 3 :=
    memchr_of_not_mem_front (by decide : 32 ∉ ascii "220") _
  have secondSpace : memchr 32 (line.text.drop (3 + 1)) = some line.number.length :=
    memchr_of_not_mem_front line.number_word _
  have numberEq : (line.text.take (4 + line.number.length)).drop 4 = line.number := by
    have frontLen : (ascii "220 " ++ line.number).length = 4 + line.number.length :=
      length_append
    rw [text_eq, take_left' frontLen]
    rfl
  have opening : memchr 60 (line.text.drop (4 + line.number.length)) = some 1 := by
    rw [drop_text, idEq]
    exact memchr_of_not_mem_front (by decide : (60 : UInt8) ∉ [32]) _
  have closing : memchr 62 (line.text.drop line.messageIdStart) = some (inner.length + 1) := by
    have first : 62 ∉ 60 :: inner := by
      rw [mem_cons, not_or]
      exact ⟨by decide, fun found => (inside 62 found).2 rfl⟩
    rw [drop_messageIdStart, idEq, ← cons_append, append_assoc]
    exact memchr_of_not_mem_front first _
  have endEq : line.messageIdStart + (inner.length + 1) + 1 =
      line.messageIdStart + line.messageId.length := by
    simp [idEq, Nat.add_assoc]
  have idAscii : (decodeUtf8 line.messageId).isNone = false := by
    rw [← Option.not_isSome, Bool.not_eq_false']
    apply isSome_decodeUtf8_of_ascii
    rw [idEq]
    intro byte found
    rw [mem_cons, mem_append, mem_singleton] at found
    rcases found with rfl | inInner | rfl
    · decide
    · exact UInt8.lt_of_le_of_lt (inside byte inInner).1.2 (by decide)
    · decide
  have sliceEq : (line.text.take (line.messageIdStart + line.messageId.length)).drop
      line.messageIdStart = line.messageId := by
    have slice := line.slice_range []
    rwa [append_nil] at slice
  have startEq : 4 + line.number.length + 1 = line.messageIdStart := rfl
  simp only [parseFirstLineLayout, positionOr, bind, Except.bind, firstSpace, secondSpace,
    Option.map_some, Nat.reduceAdd, numberEq, opening, startEq, closing, endEq, sliceEq, idAscii,
    validateMessageId, line.wellFormed, if_true, Bool.false_eq_true, if_false,
    ArticleFrameRange.new_of_le (Nat.le_add_right _ _)]
  rfl

end ArticleLine

/-! ## Headers and a body -/

theorem firstMatchEnd_linesBytes (lines : List HeaderLine) :
    firstMatchEnd headersEnd (linesBytes lines) = none := by
  induction lines with
  | nil => rfl
  | cons line lines ih =>
    have noCr : cr ∉ line.text := fun found => (line.text_inLine cr found).1 rfl
    have notBlank : (linesBytes lines).head? ≠ some cr := by
      cases lines with
      | nil => simp [linesBytes]
      | cons next lines =>
        intro startsBlank
        rw [linesBytes_cons, append_assoc,
          head?_append_of_ne_nil _ next.text_ne_nil] at startsBlank
        exact (next.text_inLine cr (mem_of_mem_head? startsBlank)).1 rfl
    rw [linesBytes_cons, append_assoc, firstMatchEnd_headersEnd_skip noCr,
      firstMatchEnd_headersEnd_crlf notBlank, ih]
    rfl

variable {headers : Bytes} {block : HeaderBlock}

theorem findBlankLine_of_body {line body : Bytes} (headersEq : headers ++ crlf = block.bytes) :
    findBlankLine (line ++ (headers ++ headersEnd ++ body)) line.length =
      .ok (line.length + headers.length) := by
  have noBlankLine : ¬ headersEnd <:+: headers ++ crlf := by
    rw [← firstMatchEnd_eq_none_iff (by decide), headersEq]
    exact firstMatchEnd_linesBytes _
  have found := firstMatchEnd_headersEnd (suffix_append headers crlf) noBlankLine body
  have contentEq : headers ++ headersEnd ++ body = headers ++ crlf ++ crlf ++ body := by
    simp [headersEnd]
  rw [findBlankLine, drop_left' rfl, contentEq, found]
  simp only [length_append]
  rfl

theorem findBlankLine_of_noBody (line : Bytes) (block : HeaderBlock) :
    findBlankLine (line ++ block.bytes) line.length = .error .missingSeparator := by
  rw [findBlankLine, drop_left' rfl, HeaderBlock.bytes, firstMatchEnd_linesBytes]

theorem zero_not_mem_linesBytes (lines : List HeaderLine) : 0 ∉ linesBytes lines := by
  intro found
  rcases mem_flatMap.mp found with ⟨line, -, inLine⟩
  rcases mem_append.mp inLine with inText | inLineEnd
  · exact (line.text_inLine 0 inText).2.2 rfl
  · exact absurd inLineEnd (by decide)

/-- The transformation that the lines of a block need. -/
def HeaderBlock.transformation (block : HeaderBlock) : HeaderTransformation :=
  if block.rest.any HeaderLine.isFolded then .unfold else .none

theorem articleContent_of_body {line body : Bytes} (headersEq : headers ++ crlf = block.bytes)
    (noNul : 0 ∉ body) :
    ∃ headersRange bodyRange,
      articleContent (line ++ (headers ++ headersEnd ++ body)) line.length
          (line ++ (headers ++ headersEnd ++ body)).length .framedResponse =
        .ok (.article headersRange block.transformation bodyRange) ∧
      headersRange.slice (line ++ (headers ++ headersEnd ++ body)) = headers ∧
        bodyRange.slice (line ++ (headers ++ headersEnd ++ body)) = body := by
  have headersNul : 0 ∉ headers := by
    intro found
    apply zero_not_mem_linesBytes block.lines
    rw [← HeaderBlock.bytes, ← headersEq]
    exact mem_append_left _ found
  have headersLe : line.length ≤ line.length + headers.length := Nat.le_add_right _ _
  have bodyLe : line.length + headers.length + 4 ≤
      (line ++ (headers ++ headersEnd ++ body)).length := by
    simp [headersEnd]
    omega
  have headersSlice : (⟨_, _, headersLe⟩ : ArticleFrameRange).slice
      (line ++ (headers ++ headersEnd ++ body)) = headers := by
    rw [ArticleFrameRange.slice, drop_take, drop_left' rfl, Nat.add_sub_cancel_left,
      append_assoc, take_left' rfl]
  have bodySlice : (⟨_, _, bodyLe⟩ : ArticleFrameRange).slice
      (line ++ (headers ++ headersEnd ++ body)) = body := by
    rw [ArticleFrameRange.slice, take_length]
    change (line ++ (headers ++ headersEnd ++ body)).drop (line.length + headers.length + 4) = body
    rw [Nat.add_assoc, ← drop_drop, drop_left' rfl]
    exact drop_left' length_append
  refine ⟨_, _, ?_, headersSlice, bodySlice⟩
  simp only [articleContent, bind, Except.bind, findBlankLine_of_body headersEq,
    ArticleFrameRange.new_of_le headersLe, ArticleFrameRange.new_of_le bodyLe, headersSlice,
    bodySlice, rejectNul, headersNul, noNul, and_false, if_false, Headers.validate_block headersEq]
  rfl

theorem articleContent_of_noBody (line : Bytes) (block : HeaderBlock) (contentEnd : Nat)
    (source : ValidationSource) :
    articleContent (line ++ block.bytes) line.length contentEnd source =
      .error .missingSeparator := by
  simp only [articleContent, bind, Except.bind, findBlankLine_of_noBody]

variable {status : StatusCode}

theorem ArticleLayout.parseFramed_of_line {line : ArticleLine} (found : status.value = 220)
    (content : Bytes) :
    parseFramed (line.text ++ crlf ++ content) status (line.text ++ crlf).length
        (line.text ++ crlf ++ content).length =
      (articleContent (line.text ++ crlf ++ content) (line.text ++ crlf).length
        (line.text ++ crlf ++ content).length .framedResponse).map
          fun content => ⟨line.range, line.articleNumber, content⟩ := by
  have lineEnd : (line.text ++ crlf).length - crlf.length = line.text.length := by simp
  have inOrder : ¬ ((line.text ++ crlf ++ content).length < (line.text ++ crlf).length ∨
      (line.text ++ crlf ++ content).length < (line.text ++ crlf ++ content).length ∨
      ((line.text ++ crlf ++ content).take (line.text ++ crlf).length).drop line.text.length ≠
        crlf) := by
    rw [take_left' rfl, drop_left' rfl]
    simp
  have lineText : (line.text ++ crlf ++ content).take line.text.length = line.text := by
    rw [append_assoc, take_left' rfl]
  have known : ¬ ¬ (220 ≤ status.value ∧ status.value ≤ 223) := by
    simp [found]
  have lineLen : line.text.length + crlf.length = (line.text ++ crlf).length :=
    length_append.symm
  rw [parseFramed]
  simp only [lineEnd]
  rw [if_neg inOrder]
  simp only [bind, Except.bind, lineText, line.parseFirstLineLayout_text, fromFirstLine,
    Nat.lt_irrefl, if_false, take_length, lineLen, contentForStatus, found, if_true]
  cases articleContent (line.text ++ crlf ++ content) (line.text ++ crlf).length
      (line.text ++ crlf ++ content).length .framedResponse with
  | error error => rfl
  | ok content => rfl

theorem Framed.validate_of_body {line : ArticleLine} {body : Bytes} {kind : RequestKind}
    (found : status.value = 220) (headersEq : headers ++ crlf = block.bytes) (noNul : 0 ∉ body)
    (validateYencStructure : Bytes → Except ParseError Unit) :
    ∃ validated,
      Framed.validate ⟨line.text ++ crlf ++ (headers ++ headersEnd ++ body), kind, status,
          (line.text ++ crlf).length, (line.text ++ crlf ++ (headers ++ headersEnd ++ body)).length⟩
        validateYencStructure .disabled = .ok validated ∧
      validated.article.headers = some ⟨headers, block.transformation⟩ ∧
        validated.article.body = some body := by
  rcases articleContent_of_body headersEq noNul with
    ⟨headersRange, bodyRange, contentEq, headersSlice, bodySlice⟩
  rw [validate_disabled, ArticleLayout.parseFramed_of_line found, contentEq]
  refine ⟨_, rfl, ?_, ?_⟩
  · simp only [Validated.article, ArticleLayout.view, headersSlice]
  · simp only [Validated.article, ArticleLayout.view, bodySlice]

theorem Framed.validate_of_noBody (block : HeaderBlock) (kind : RequestKind)
    (found : status.value = 220) (validateYencStructure : Bytes → Except ParseError Unit) :
    Framed.validate ⟨line.text ++ crlf ++ block.bytes, kind, status, (line.text ++ crlf).length,
        (line.text ++ crlf ++ block.bytes).length⟩ validateYencStructure .disabled =
      .error .missingSeparator := by
  rw [validate_disabled, ArticleLayout.parseFramed_of_line found, articleContent_of_noBody]
  rfl

end NntpProxy.Articles
