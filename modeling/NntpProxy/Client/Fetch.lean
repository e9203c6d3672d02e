import NntpProxy.Articles.Layout
import NntpProxy.Transport.Isolated
import NntpProxy.Transport.Pipeline

/-!
# Fetching an article

The client sends one request on a connection, captures the isolated response and validates it
on demand.  The capture ends before the terminator, whose first line end is the one that closes
the last line of the article.  An article whose body has lines is cut at its blank line; when
the body is empty, the line end of the blank line itself goes with the terminator and the
article is rejected.
-/

namespace NntpProxy.Client

open Protocol Framing NntpProxy.Stream Transport Articles ConnectionStream

variable {pool : BufferPool}

/-! ## The client -/

inductive FetchError where
  | unreadable
  | invalidResponse
  | notFound
  | server (code : Nat)
  | unexpectedStatus (kind : RequestKind) (expected got : Nat)
  | trailingBytes
  | framing (error : FramingError)
  deriving DecidableEq, Repr

def validateResponse (status : StatusCode) : Except FetchError Unit :=
  if status.value = 430 then .error .notFound
  else if 400 ≤ status.value then .error (.server status.value)
  else .ok ()

/-- The status that answers a request for an article or a part of it. -/
def expectedStatus : RequestKind → Option Nat
  | .article => some 220
  | .head => some 221
  | .body => some 222
  | _ => none

def validateArticleResponseShape (kind : RequestKind) (status : StatusCode) :
    Except FetchError Unit :=
  match expectedStatus kind with
  | none => .ok ()
  | some expected =>
    if status.value = expected then .ok ()
    else .error (.unexpectedStatus kind expected status.value)

/-- Capture a classified response behind which nothing was read. -/
def captureIsolated (kind : RequestKind) (classified : ClassifiedResponse pool)
    (conn : ConnectionStream pool) : Except FetchError (Framed × ConnectionStream pool) :=
  match classified.frame with
  | .error _ => .error .invalidResponse
  | .ok (.singleLine status statusLineEnd) =>
    if statusLineEnd < classified.buffer.initialized then .error .trailingBytes
    else .ok (⟨classified.buffer.visible, kind, status, statusLineEnd, statusLineEnd⟩, conn)
  | .ok (.multiline status statusLineEnd) =>
    match IsolatedMultilineResponse.begin conn classified.buffer with
    | .error error => .error (.framing error)
    | .ok cursor =>
      match IsolatedMultilineResponse.capturePayloadInto cursor statusLineEnd with
      | .error error => .error (.framing error)
      | .ok (capture, conn) =>
        .ok (⟨capture, kind, status, statusLineEnd, capture.length⟩, conn)

/-- Read the response to a request that was sent, and capture it. -/
def fetchResponse (kind : RequestKind) (conn : ConnectionStream pool) :
    Except FetchError (Framed × ConnectionStream pool) :=
  match readFirst kind pool.acquire conn with
  | (none, _) => .error .unreadable
  | (some classified, conn) =>
    match classified.statusCode with
    | none => .error .invalidResponse
    | some status => do
        let _ ← validateResponse status
        let _ ← validateArticleResponseShape kind status
        captureIsolated kind classified conn

def fetchBody (conn : ConnectionStream pool) : Except FetchError (Framed × ConnectionStream pool) :=
  fetchResponse .body conn

def fetchHead (conn : ConnectionStream pool) : Except FetchError (Framed × ConnectionStream pool) :=
  fetchResponse .head conn

def fetchArticle (conn : ConnectionStream pool) :
    Except FetchError (Framed × ConnectionStream pool) :=
  fetchResponse .article conn

/-! ## Fetching a response that nothing follows -/

variable {kind : RequestKind}

theorem hasBody_of_expectedStatus {status : StatusCode}
    (expected : expectedStatus kind = some status.value) :
    requestKindHasResponseBody kind status = true ∧ status.value < 400 := by
  unfold expectedStatus at expected
  split at expected
  case h_4 => cases expected
  all_goals
    rw [Option.some.injEq] at expected
    simp [requestKindHasResponseBody, StatusCode.isError, ← expected]

variable {conn : ConnectionStream pool}

theorem fetchResponse_response {response : Response kind} {content : Bytes}
    (expected : expectedStatus kind = some response.status.value)
    (contentsEq : conn.contents = response.bytes)
    (lineFits : (response.text ++ crlf).length ≤ pool.bufferSize)
    (bytesEq : response.bytes = response.text ++ crlf ++ content ++ terminator) :
    ∃ left, fetchResponse kind conn =
        .ok (⟨response.text ++ crlf ++ content, kind, response.status,
          (response.text ++ crlf).length, (response.text ++ crlf ++ content).length⟩, left) ∧
      left.contents = [] := by
  rcases hasBody_of_expectedStatus expected with ⟨hasBody, isSuccess⟩
  have joined : conn.contents ++ [] = response.bytes ++ [] := by rw [contentsEq]
  rcases readFirst_response pool.acquire joined with
    ⟨classified, next, rest, readEq, classifies⟩ | ⟨lostOrLong, -⟩
  · have frameEq := classifies.frameEq
    rw [classifies.visibleEq, parse_eq_of_line, if_pos hasBody] at frameEq
    rcases capturePayloadInto_response hasBody classifies with
      ⟨cursor, left, begun, captured, exhausted⟩
    have captureEq : response.bytes.take
        (max (response.bytes.length - 5) (response.text ++ crlf).length) =
          response.text ++ crlf ++ content := by
      have contentLen : response.bytes.length - 5 = (response.text ++ crlf ++ content).length := by
        rw [bytesEq, List.length_append, length_terminator, Nat.add_sub_cancel]
      have longer : (response.text ++ crlf).length ≤ (response.text ++ crlf ++ content).length :=
        (List.prefix_append _ _).length_le
      rw [contentLen, Nat.max_eq_left longer, bytesEq, List.take_left' rfl]
    have codeEq : classified.statusCode = some response.status := by
      rw [ClassifiedResponse.statusCode, frameEq]
    have accepted : validateResponse response.status = .ok () := by
      rw [validateResponse, if_neg (by omega), if_neg (by omega)]
    have shape : validateArticleResponseShape kind response.status = .ok () := by
      rw [validateArticleResponseShape, expected]
      exact if_pos rfl
    refine ⟨left, ?_, exhausted⟩
    rw [captureEq] at captured
    simp only [fetchResponse, readEq, codeEq, accepted, shape, bind, Except.bind, captureIsolated,
      frameEq, begun, captured]
  · rcases lostOrLong with isLost | tooLong
    · exact absurd rfl isLost
    · exact absurd lineFits (Nat.not_le_of_lt tooLong)

/-- A status line that no buffer holds is never complete. -/
theorem fetchResponse_of_tooLong {response : Response kind}
    (contentsEq : conn.contents = response.bytes)
    (tooLong : pool.bufferSize < (response.text ++ crlf).length) :
    fetchResponse kind conn = .error .unreadable := by
  have joined : conn.contents ++ [] = response.bytes ++ [] := by rw [contentsEq]
  rcases readFirst_response pool.acquire joined with
    ⟨classified, next, rest, readEq, classifies⟩ | ⟨-, unread⟩
  · have limited := readFirst_initialized_le readEq
    rw [← PooledBuffer.length_visible, classifies.visibleEq, List.length_append] at limited
    exact absurd tooLong (Nat.not_lt_of_le (Nat.le_trans (Nat.le_add_right _ _) limited))
  · rw [fetchResponse, ← Prod.eta (readFirst kind pool.acquire conn), unread]

/-! ## Articles -/

/-- Text without its last line end. -/
def withoutLineEnd (bytes : Bytes) : Bytes :=
  bytes.take (bytes.length - crlf.length)

/-- A dot-stuffed body without null octets: nothing, or complete lines. -/
structure ArticleBody where
  bytes : Bytes
  noNul : 0 ∉ bytes
  closed : bytes = [] ∨ crlf <:+ bytes
  stuffed : DotStuffed bytes

theorem block_linesBytes (lines : List HeaderLine) : Block (linesBytes lines) := by
  induction lines with
  | nil => exact block_nil
  | cons line lines ih =>
    have oneLine : lf ∉ line.text := fun found => (line.text_inLine lf found).2.1 rfl
    exact (block_line oneLine line.text_ne_dot).append ih

/-- The response that carries an article. -/
def articleResponse (line : ArticleLine) (block : HeaderBlock) (body : ArticleBody) :
    Response .article where
  text := line.text
  status := .article
  body := block.bytes ++ crlf ++ body.bytes ++ [dot, cr, lf]
  oneLine := line.lf_not_mem_text
  code := line.parse_text
  ends := by
    rw [if_pos (by decide), firstEnd_crlf]
    have bodyBlock := block_of_dotStuffed body.closed body.stuffed
    exact ((block_linesBytes block.lines).append_line bodyBlock).firstEnd_closed

theorem withoutLineEnd_append (front : Bytes) : withoutLineEnd (front ++ crlf) = front := by
  rw [withoutLineEnd, List.length_append, Nat.add_sub_cancel, List.take_left' rfl]

/-- A fetched article is validated, with its headers and its body in the view. -/
def Shows (fetched : Except FetchError (Framed × ConnectionStream pool))
    (validateYencStructure : Bytes → Except ParseError Unit) (headers body : Bytes) : Prop :=
  ∃ framed left validated transformation, fetched = .ok (framed, left) ∧
    framed.validate validateYencStructure .disabled = .ok validated ∧
    validated.article.headers = some ⟨headers, transformation⟩ ∧
    validated.article.body = some body

section ArticleFetch

variable {line : ArticleLine} {block : HeaderBlock} {body : ArticleBody}
  {conn : ConnectionStream pool} {validateYencStructure : Bytes → Except ParseError Unit}

variable (contentsEq : conn.contents = (articleResponse line block body).bytes)

include contentsEq

theorem shows_of_body (lineFits : (line.text ++ crlf).length ≤ pool.bufferSize)
    (hasBody : body.bytes ≠ []) :
    Shows (fetchArticle conn) validateYencStructure (withoutLineEnd block.bytes)
      (withoutLineEnd body.bytes) := by
  have headersClosed : ∃ headers, block.bytes = headers ++ crlf :=
    exists_linesBytes_eq (List.cons_ne_nil _ _)
  rcases headersClosed with ⟨headers, headersEq⟩
  rcases body.closed.resolve_left hasBody with ⟨front, bodyEq⟩
  have bytesEq : (articleResponse line block body).bytes =
      line.text ++ crlf ++ (headers ++ headersEnd ++ front) ++ terminator := by
    simp [Response.bytes, articleResponse, headersEq, ← bodyEq, headersEnd, terminator]
  have noNul : 0 ∉ front := by
    intro found
    apply body.noNul
    rw [← bodyEq]
    exact List.mem_append_left _ found
  rcases fetchResponse_response rfl contentsEq lineFits bytesEq with ⟨left, fetched, -⟩
  have found : (articleResponse line block body).status.value = 220 := rfl
  rcases Framed.validate_of_body found headersEq.symm noNul validateYencStructure with
    ⟨validated, validatedEq, headersShown, bodyShown⟩
  rw [headersEq, ← bodyEq, withoutLineEnd_append, withoutLineEnd_append]
  exact ⟨_, left, validated, _, fetched, validatedEq, headersShown, bodyShown⟩

theorem not_shows_of_noBody (lineFits : (line.text ++ crlf).length ≤ pool.bufferSize)
    (isEmpty : body.bytes = [])
    (headers shown : Bytes) : ¬ Shows (fetchArticle conn) validateYencStructure headers shown := by
  have bytesEq : (articleResponse line block body).bytes =
      line.text ++ crlf ++ block.bytes ++ terminator := by
    simp [Response.bytes, articleResponse, isEmpty, terminator]
  rcases fetchResponse_response rfl contentsEq lineFits bytesEq with ⟨left, fetched, -⟩
  rintro ⟨framed, next, validated, transformation, fetchedEq, validatedEq, -⟩
  rw [fetchArticle, fetched] at fetchedEq
  cases fetchedEq
  have found : (articleResponse line block body).status.value = 220 := rfl
  have rejected := Framed.validate_of_noBody line block .article found validateYencStructure
  cases validatedEq.symm.trans rejected

theorem not_shows_of_tooLong (tooLong : pool.bufferSize < (line.text ++ crlf).length)
    (headers shown : Bytes) :
    ¬ Shows (fetchArticle conn) validateYencStructure headers shown := by
  rintro ⟨framed, next, validated, transformation, fetchedEq, -⟩
  rw [fetchArticle, fetchResponse_of_tooLong contentsEq tooLong] at fetchedEq
  cases fetchedEq

end ArticleFetch

/-- A fetched article shows its headers and its body, each without the last line end, exactly
when the body is not empty and the status line fits a buffer. -/
theorem fetchArticle_shows_iff {line : ArticleLine} {block : HeaderBlock} {body : ArticleBody}
    {reads : List Bytes} (cutting : IsCutting reads (articleResponse line block body).bytes)
    (validateYencStructure : Bytes → Except ParseError Unit) :
    Shows (fetchArticle (overTransport cutting : ConnectionStream pool))
        validateYencStructure (withoutLineEnd block.bytes) (withoutLineEnd body.bytes) ↔
      body.bytes ≠ [] ∧ (line.text ++ crlf).length ≤ pool.bufferSize := by
  have contentsEq : (overTransport cutting : ConnectionStream pool).contents = _ :=
    contents_overTransport cutting
  constructor
  · intro shows
    have lineFits : (line.text ++ crlf).length ≤ pool.bufferSize := by
      by_contra long
      exact not_shows_of_tooLong contentsEq (Nat.lt_of_not_le long) _ _ shows
    constructor
    · intro isEmpty
      exact not_shows_of_noBody contentsEq lineFits isEmpty _ _ shows
    · exact lineFits
  · rintro ⟨hasBody, lineFits⟩
    exact shows_of_body contentsEq lineFits hasBody

/-! ## A short article -/

def shortLine : ArticleLine where
  number := ascii "1"
  messageId := ascii "<a>"
  comment := []
  number_word := by decide
  wellFormed := by decide
  oneLine := by decide

def shortBlock : HeaderBlock where
  first := ⟨ascii "S", ascii " x", by decide, by decide +kernel, by decide +kernel⟩
  rest := []

def oneLineBody : ArticleBody :=
  ⟨ascii "y\r\n", by decide, by decide, by decide⟩

def emptyBody : ArticleBody :=
  ⟨[], by decide, by decide, by decide⟩

/-- The article in two reads, the first cut inside the terminator. -/
theorem isCutting_shortArticle : IsCutting [ascii "220 1 <a>\r\nS: x\r\n\r\ny\r\n.", crlf]
      (articleResponse shortLine shortBlock oneLineBody).bytes :=
  ⟨by decide +kernel, by decide⟩

theorem isCutting_emptyArticle : IsCutting [ascii "220 1 <a>\r\nS: x\r\n\r\n.", crlf]
      (articleResponse shortLine shortBlock emptyBody).bytes :=
  ⟨by decide +kernel, by decide⟩

theorem shortArticle_shown :
    Shows (fetchArticle (overTransport isCutting_shortArticle :
      ConnectionStream smallPool)) (fun _ => .ok ()) (ascii "S: x") (ascii "y") :=
  (fetchArticle_shows_iff isCutting_shortArticle _).mpr ⟨by decide, by decide⟩

/-- An article without a body is fetched, and then rejected. -/
theorem emptyArticle_rejected :
    (fetchArticle (overTransport isCutting_emptyArticle :
        ConnectionStream smallPool)).toOption.map (fun fetched =>
          (fetched.1.bytes, fetched.1.validate (fun _ => .ok ()) .disabled)) =
      some (ascii "220 1 <a>\r\nS: x\r\n", .error .missingSeparator) := by
  decide +kernel

end NntpProxy.Client
