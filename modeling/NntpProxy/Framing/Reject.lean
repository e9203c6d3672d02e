import NntpProxy.Framing.Window

/-!
# Framing a response that stands alone

With the policy that rejects packed octets, a framer that is fed the reads of one response
completes it at its first terminator when a read ends there, and fails when the read goes on.
The search for terminators that span two reads tries the later end first, so that one cut is
misjudged: a read that consists of the rest of a second terminator, right behind one that only
lacks its last octet, completes the response although it goes on behind the first one.
-/

namespace NntpProxy.Framing

open Protocol NntpProxy.Stream MultilineFramer List

/-! ## Reports -/

/-- What the framer says about a read, with its tail when the response goes on. -/
inductive ReadReport where
  | complete
  | unexpectedTrailingBytes
  | incomplete (tail : Bytes)
  deriving DecidableEq, Repr

/-- The reports of a framer about the reads of one response, up to its end. -/
def rejectReports (framer : MultilineFramer) : List Bytes → List ReadReport
  | [] => []
  | read :: reads =>
    match framer.splitChunk read .reject with
    | none => [.unexpectedTrailingBytes]
    | some (.complete _, _) => [.complete]
    | some (.incomplete, next) => .incomplete next.tail :: rejectReports next reads

/-- The reports that the first end of a terminator calls for: the response is complete when a
read ends there, it is an error when the end lies inside a read, and before it the tail is the
last four octets. -/
def expectedReports (earliest : Option Nat) (seen : Bytes) : List Bytes → List ReadReport
  | [] => []
  | read :: reads =>
    if earliest = some (seen ++ read).length then [.complete]
    else if ∃ stop ∈ earliest, stop < (seen ++ read).length then [.unexpectedTrailingBytes]
    else .incomplete ((seen ++ read).rtake 4) :: expectedReports earliest (seen ++ read) reads

/-- Where the earliest terminator of a response ends. -/
def earliestEnd (stream : Bytes) : Option Nat :=
  firstEnd (endsWith terminator) [] stream

/-! ## One read -/

theorem MultilineFramer.splitChunk_reject (framer : MultilineFramer) (chunk : Bytes) :
    framer.splitChunk chunk .reject =
      match framer.nextTerminatorEnd chunk with
      | some stop => if stop = chunk.length then some (.complete stop, framer) else none
      | none => some (.incomplete, framer.update chunk) := by
  rw [splitChunk_eq, ← head?_terminatorEnds]
  cases framer.terminatorEnds chunk with
  | nil => rfl
  | cons stop stops => simp [splitInside, endsResponse]

/-- The report about one read, from the end that the framer finds in it. -/
def reportFor (found : Option Nat) (total : Bytes) (readLen : Nat) : ReadReport :=
  match found with
  | some stop => if stop = readLen then .complete else .unexpectedTrailingBytes
  | none => .incomplete (total.rtake 4)

/-- The reports go on only behind a read without an end. -/
def reportsFrom (found : Option Nat) (total : Bytes) (readLen : Nat)
    (later : List ReadReport) : List ReadReport :=
  reportFor found total readLen :: if found.isSome then [] else later

theorem rejectReports_ofSeen (seen read : Bytes) (reads : List Bytes) :
    rejectReports (.ofSeen seen) (read :: reads) =
      reportsFrom ((ofSeen seen).nextTerminatorEnd read) (seen ++ read)
        read.length (rejectReports (.ofSeen (seen ++ read)) reads) := by
  rw [rejectReports, splitChunk_reject, update_ofSeen]
  cases (ofSeen seen).nextTerminatorEnd read with
  | none => rfl
  | some stop =>
    by_cases atEnd : stop = read.length
    · simp [reportsFrom, reportFor, atEnd]
    · simp [reportsFrom, reportFor, atEnd]

variable {seen : Bytes}

theorem earliestEnd_append (unfinished : earliestEnd seen = none) (rest : Bytes) :
    earliestEnd (seen ++ rest) = (firstEnd (endsWith terminator) seen rest).map (seen.length + ·) :=
  firstEnd_append_of_none unfinished rest

theorem expectedReports_cons (unfinished : earliestEnd seen = none) (read : Bytes)
    (reads : List Bytes) :
    expectedReports (earliestEnd (seen ++ (read :: reads).flatten)) seen (read :: reads) =
      reportsFrom (firstEnd (endsWith terminator) seen read) (seen ++ read) read.length
        (expectedReports (earliestEnd (seen ++ read ++ reads.flatten)) (seen ++ read) reads) := by
  rw [flatten_cons, ← append_assoc, expectedReports]
  cases found : firstEnd (endsWith terminator) seen read with
  | some stop =>
    have wholeEnd : earliestEnd (seen ++ read ++ reads.flatten) = some (seen.length + stop) := by
      rw [append_assoc, earliestEnd_append unfinished, firstEnd_append_of_some found]
      rfl
    have inside := (firstEnd_sound found).2.1
    rw [wholeEnd]
    by_cases atEnd : stop = read.length
    · simp [reportsFrom, reportFor, atEnd]
    · have short : stop < read.length := Nat.lt_of_le_of_ne inside atEnd
      simp [reportsFrom, reportFor, atEnd, short]
  | none =>
    have stillOpen : earliestEnd (seen ++ read) = none := by
      rw [earliestEnd_append unfinished, found]
      rfl
    have behind : ∀ stop ∈ earliestEnd (seen ++ read ++ reads.flatten),
        (seen ++ read).length < stop := by
      intro stop isEnd
      rw [earliestEnd_append stillOpen, Option.mem_def, Option.map_eq_some_iff] at isEnd
      rcases isEnd with ⟨further, isFurther, rfl⟩
      exact Nat.lt_add_of_pos_right (firstEnd_sound isFurther).1
    have notHere : earliestEnd (seen ++ read ++ reads.flatten) ≠ some (seen ++ read).length :=
      fun here => Nat.lt_irrefl _ (behind _ here)
    have notBefore : ¬ ∃ stop ∈ earliestEnd (seen ++ read ++ reads.flatten),
        stop < (seen ++ read).length := by
      rintro ⟨stop, isEnd, before⟩
      exact Nat.lt_asymm before (behind stop isEnd)
    rw [if_neg notHere, if_neg notBefore]
    rfl

/-! ## All reads -/

/-- Behind the octets `seen` some read is the rest `LF.CRLF` of a second terminator, while what
arrived before it ends with `CRLF.CR` and holds no terminator. -/
def CompletedLate (seen : Bytes) (reads : List Bytes) : Prop :=
  ∃ front rest, reads = front ++ [lf, dot, cr, lf] :: rest ∧
    [cr, lf, dot, cr] <:+ seen ++ front.flatten ∧ earliestEnd (seen ++ front.flatten) = none

theorem completedLate_nil (seen : Bytes) : ¬ CompletedLate seen [] := by
  rintro ⟨front, rest, noReads, -⟩
  simp at noReads

theorem completedLate_cons_iff (unfinished : earliestEnd seen = none) (read : Bytes)
    (reads : List Bytes) :
    CompletedLate seen (read :: reads) ↔
      (read = [lf, dot, cr, lf] ∧ [cr, lf, dot, cr] <:+ seen) ∨
        CompletedLate (seen ++ read) reads := by
  constructor
  · rintro ⟨front, rest, readsEq, tailEnd, stillOpen⟩
    cases front with
    | nil =>
      rw [flatten_nil, append_nil] at tailEnd
      exact Or.inl ⟨(cons.inj readsEq).1, tailEnd⟩
    | cons first front =>
      rcases cons.inj readsEq with ⟨rfl, restEq⟩
      rw [flatten_cons, ← append_assoc] at tailEnd stillOpen
      exact Or.inr ⟨front, rest, restEq, tailEnd, stillOpen⟩
  · rintro (⟨rfl, tailEnd⟩ | ⟨front, rest, rfl, tailEnd, stillOpen⟩)
    · refine ⟨[], reads, rfl, ?_, ?_⟩
      · rwa [flatten_nil, append_nil]
      · rwa [flatten_nil, append_nil]
    · refine ⟨read :: front, rest, rfl, ?_, ?_⟩
      · rwa [flatten_cons, ← append_assoc]
      · rwa [flatten_cons, ← append_assoc]

theorem not_completedLate_of_some {stop : Nat} (ended : earliestEnd seen = some stop)
    (reads : List Bytes) : ¬ CompletedLate seen reads := by
  rintro ⟨front, rest, -, -, stillOpen⟩
  rw [earliestEnd, firstEnd_append_of_some ended] at stillOpen
  cases stillOpen

theorem reports_of_collision {read : Bytes} (unfinished : earliestEnd seen = none)
    (collision : Collision seen read) (reads : List Bytes) :
    rejectReports (.ofSeen seen) (read :: reads) =
        expectedReports (earliestEnd (seen ++ (read :: reads).flatten)) seen (read :: reads) ↔
      read ≠ [lf, dot, cr, lf] := by
  rw [rejectReports_ofSeen, expectedReports_cons unfinished,
    firstEnd_terminator_of_collision collision,
    nextTerminatorEnd_of_collision collision]
  rcases collision.2 with ⟨rest, rfl⟩
  simp only [reportsFrom, reportFor]
  cases rest with
  | nil => simp
  | cons byte rest => simp

theorem rejectReports_eq_iff (unfinished : earliestEnd seen = none) (reads : List Bytes) :
    rejectReports (.ofSeen seen) reads =
        expectedReports (earliestEnd (seen ++ reads.flatten)) seen reads ↔
      ¬ CompletedLate seen reads := by
  -- the induction is on the reads; what was seen is the state of the framer
  induction reads generalizing seen with
  | nil => simp [rejectReports, expectedReports, completedLate_nil]
  | cons read reads ih =>
    rw [completedLate_cons_iff unfinished]
    have readEnd := earliestEnd_append unfinished read
    by_cases collision : Collision seen read
    · rw [reports_of_collision unfinished collision]
      rw [firstEnd_terminator_of_collision collision] at readEnd
      simp [not_completedLate_of_some readEnd, collision.1]
    · rw [rejectReports_ofSeen, expectedReports_cons unfinished,
        nextTerminatorEnd_eq_firstEnd collision]
      have notHere : ¬ (read = [lf, dot, cr, lf] ∧ [cr, lf, dot, cr] <:+ seen) := by
        rintro ⟨rfl, tailEnd⟩
        exact collision ⟨tailEnd, prefix_rfl⟩
      cases found : firstEnd (endsWith terminator) seen read with
      | some stop =>
        rw [found] at readEnd
        simp [reportsFrom, notHere, not_completedLate_of_some readEnd]
      | none =>
        rw [found] at readEnd
        simpa [reportsFrom, notHere] using ih readEnd

/-- Fed with the reads of any octets, the framer that rejects packed octets reports the earliest
terminator exactly when no read completes the response late. -/
theorem rejectReports_exact_iff (reads : List Bytes) :
    rejectReports .empty reads = expectedReports (earliestEnd reads.flatten) [] reads ↔
      ¬ CompletedLate [] reads := by
  have nothingSeen : earliestEnd [] = none := rfl
  exact rejectReports_eq_iff nothingSeen reads

/-- The second read goes on behind the first terminator, and completes the response. -/
theorem overlappingTerminators_completed :
    earliestEnd (ascii "a\r\n.\r\n.\r\n") = some 6 ∧
      rejectReports .empty [ascii "a\r\n.\r", ascii "\n.\r\n"] =
        [.incomplete (ascii "\r\n.\r"), .complete] ∧
      expectedReports (some 6) [] [ascii "a\r\n.\r", ascii "\n.\r\n"] =
        [.incomplete (ascii "\r\n.\r"), .unexpectedTrailingBytes] := by
  decide +kernel

end NntpProxy.Framing
