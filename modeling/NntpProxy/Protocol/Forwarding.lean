import NntpProxy.Protocol.Request

/-!
# Forwarding a request

A client's line is taken apart into its verb and its arguments, and a backend is sent a line
that is put together from them.  The line end of the client is trimmed and a line end of its
own is sent, so a line end that is left inside the line reaches the backend, and a line that
was as long as it may be can grow.
-/

namespace NntpProxy.Protocol

open List

/-- No line end in some octets, not even one half of it. -/
def Unbroken (text : Bytes) : Prop :=
  ∀ byte ∈ text, byte ≠ cr ∧ byte ≠ lf

theorem unbroken_append {front back : Bytes} :
    Unbroken (front ++ back) ↔ Unbroken front ∧ Unbroken back :=
  forall_mem_append

theorem unbroken_cons {byte : UInt8} {text : Bytes} :
    Unbroken (byte :: text) ↔ (byte ≠ cr ∧ byte ≠ lf) ∧ Unbroken text :=
  forall_mem_cons

theorem trimLineEnd_crlf {text : Bytes} (unbroken : Unbroken text) :
    trimLineEnd (text ++ crlf) = text := by
  have lineEnd : crlf = [cr] ++ [lf] := rfl
  unfold trimLineEnd
  rw [lineEnd, ← append_assoc, rdropWhile_concat_pos _ _ _ rfl,
    rdropWhile_concat_pos _ _ _ rfl, rdropWhile_eq_self_iff]
  intro nonempty isLineEnd
  have last := unbroken _ (getLast_mem nonempty)
  rw [Bool.or_eq_true, beq_iff_eq, beq_iff_eq] at isLineEnd
  exact isLineEnd.elim last.1 last.2

variable {request : RequestContext}

namespace RequestContext

/-- The octets of a request in front of the line end. -/
def text (request : RequestContext) : Bytes :=
  if request.args = [] then request.verb else request.verb ++ 32 :: request.args

theorem wire_eq (request : RequestContext) : request.wire = request.text ++ crlf := by
  unfold wire text
  split
  · rfl
  · rw [append_assoc request.verb, singleton_append]

/-- A request as the parser builds it. -/
structure Accepted (request : RequestContext) : Prop where
  kind : request.kind = classifyVerb request.verb
  messageId : request.messageId = findMessageId request.args
  nonempty : request.verb ≠ []
  noSeparator : ∀ byte ∈ request.verb, isSeparator byte = false

theorem parse_eq_some_iff {line : Bytes} :
    parse line = some request ↔
      line.length ≤ maxCommandLineOctets ∧ request.verb ≠ [] ∧ ofLine line = request := by
  unfold parse
  split
  next tooLong => simp [Nat.not_le_of_lt tooLong]
  next fits =>
    rw [and_iff_right (Nat.le_of_not_lt fits)]
    split
    next isEmpty =>
      refine iff_of_false nofun ?_
      rintro ⟨nonempty, rfl⟩
      exact nonempty isEmpty
    next nonempty =>
      rw [Option.some_inj]
      constructor
      · rintro rfl
        exact ⟨nonempty, rfl⟩
      · exact And.right

theorem accepted_of_parse {line : Bytes}
    (parsed : parse line = some request) : request.Accepted := by
  rcases parse_eq_some_iff.mp parsed with ⟨-, nonempty, rfl⟩
  refine ⟨rfl, rfl, nonempty, fun byte mem => ?_⟩
  simpa using mem_takeWhile_imp mem

theorem unbroken_text_iff (line : Bytes) :
    Unbroken (ofLine line).text ↔ Unbroken (trimLineEnd line) := by
  have joined : trimLineEnd line = (ofLine line).verb ++
      (trimLineEnd line).dropWhile fun byte => !isSeparator byte :=
    (takeWhile_append_dropWhile).symm
  have argsEq : (ofLine line).args =
      ((trimLineEnd line).dropWhile fun byte => !isSeparator byte).drop 1 := rfl
  unfold text
  cases restEq : (trimLineEnd line).dropWhile fun byte => !isSeparator byte with
  | nil =>
    rw [restEq] at argsEq joined
    rw [drop_nil] at argsEq
    rw [if_pos argsEq, joined, append_nil]
  | cons separator args =>
    have isSeparated : isSeparator separator = true := by
      have nonempty : (trimLineEnd line).dropWhile (fun byte => !isSeparator byte) ≠ [] := by
        simp [restEq]
      simpa [restEq] using head_dropWhile_not (fun byte => !isSeparator byte) nonempty
    have separatorOk : separator ≠ cr ∧ separator ≠ lf := by
      constructor <;>
      · rintro rfl
        exact absurd isSeparated (by decide)
    rw [restEq] at argsEq joined
    rw [joined, unbroken_append, unbroken_cons, and_iff_right separatorOk]
    split
    next noArgs =>
      rw [show args = [] from argsEq.symm.trans noArgs, and_iff_left]
      exact forall_mem_nil _
    next =>
      have blankOk : (32 : UInt8) ≠ cr ∧ (32 : UInt8) ≠ lf := by decide
      rw [unbroken_append, unbroken_cons, and_iff_right blankOk, argsEq, drop_one,
        tail_cons]

theorem ofLine_wire (accepted : request.Accepted)
    (unbroken : Unbroken request.text) : ofLine request.wire = request := by
  have noSeparator : ∀ byte ∈ request.verb, (!isSeparator byte) = true := by
    simpa using accepted.noSeparator
  rcases request with ⟨kind, verb, args, messageId⟩
  obtain rfl : kind = classifyVerb verb := accepted.kind
  obtain rfl : messageId = findMessageId args := accepted.messageId
  simp only [ofLine, wire_eq, trimLineEnd_crlf unbroken]
  unfold text
  split
  next noArgs =>
    obtain rfl : args = [] := noArgs
    rw [takeWhile_eq_self_iff.mpr noSeparator, dropWhile_eq_nil_iff.mpr noSeparator,
      drop_nil]
  next =>
    rw [takeWhile_append_of_pos noSeparator, dropWhile_append_of_pos noSeparator]
    have isSeparated : (!isSeparator 32) = false := rfl
    simp [isSeparated]

/-- One line is sent for a request: it is broken only at its end, it has the reported length,
and it is read as the same request again. -/
structure IsOneCommand (request : RequestContext) : Prop where
  framed : ∃ text, request.wire = text ++ crlf ∧ Unbroken text
  counted : request.wire.length = request.requestWireLen
  reparsed : parse request.wire = some request

/-- A line that is accepted is forwarded as one command exactly when there is no line end
inside of it and what is sent for it is not too long. -/
theorem isOneCommand_iff {line : Bytes} {request : RequestContext}
    (parsed : parse line = some request) :
    request.IsOneCommand ↔
      Unbroken (trimLineEnd line) ∧ request.requestWireLen ≤ maxCommandLineOctets := by
  rw [← unbroken_text_iff, (parse_eq_some_iff.mp parsed).2.2]
  constructor
  · intro oneCommand
    rcases oneCommand.framed with ⟨text, wireEq, unbroken⟩
    constructor
    · rw [wire_eq] at wireEq
      exact append_cancel_right wireEq ▸ unbroken
    · rw [← oneCommand.counted]
      exact (parse_eq_some_iff.mp oneCommand.reparsed).1
  · rintro ⟨unbroken, fits⟩
    have accepted := accepted_of_parse parsed
    rw [requestWireLen_eq] at fits
    exact ⟨⟨request.text, request.wire_eq, unbroken⟩, request.requestWireLen_eq.symm,
      parse_eq_some_iff.mpr ⟨fits, accepted.nonempty, ofLine_wire accepted unbroken⟩⟩

/-- A group is named after a tab. -/
theorem tabbed_isOneCommand_iff :
    parse (ascii "group\ta.b\n") = some (ofLine (ascii "group\ta.b\n")) ∧
      ((ofLine (ascii "group\ta.b\n")).IsOneCommand ↔
        Unbroken (trimLineEnd (ascii "group\ta.b\n")) ∧
          (ofLine (ascii "group\ta.b\n")).requestWireLen ≤ maxCommandLineOctets) :=
  ⟨by decide +kernel, isOneCommand_iff (by decide +kernel)⟩

/-- A carriage return inside the arguments reaches the backend. -/
theorem carriageReturn_reaches_backend :
    ∃ request, parse (ascii "GROUP a\rSTAT\r\n") = some request ∧
      request.wire = ascii "GROUP a\rSTAT\r\n" ∧ ¬ request.IsOneCommand := by
  refine ⟨ofLine (ascii "GROUP a\rSTAT\r\n"), by decide +kernel, by decide +kernel, ?_⟩
  intro oneCommand
  rcases oneCommand.framed with ⟨text, wireEq, unbroken⟩
  have sent : (ofLine (ascii "GROUP a\rSTAT\r\n")).wire = ascii "GROUP a\rSTAT" ++ crlf := by
    decide +kernel
  rw [sent] at wireEq
  have inside : cr ∈ ascii "GROUP a\rSTAT" := by decide +kernel
  rw [append_cancel_right wireEq] at inside
  exact (unbroken cr inside).1 rfl

/-- A line of 512 octets that ends in a line feed alone becomes one of 513 octets. -/
example : let line := replicate 511 65 ++ [lf]
    line.length = maxCommandLineOctets ∧
      (parse line).map (·.requestWireLen) = some (maxCommandLineOctets + 1) := by
  decide +kernel

end RequestContext

end NntpProxy.Protocol
