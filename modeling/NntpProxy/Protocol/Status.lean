import Mathlib

/-!
# Status lines and request kinds

Octets are `UInt8` and wire data are lists of octets.  A `StatusCode` carries
its range, so that a parsed code is always one of 100 to 599.  Whether a
response has a body is decided by the request kind together with the code, never
by the code alone.
-/

namespace NntpProxy.Protocol

/-- Wire data. -/
abbrev Bytes := List UInt8

/-- The octets of an ASCII text. -/
def ascii (text : String) : Bytes :=
  text.toList.map fun char => char.toNat.toUInt8

/-- Carriage return. -/
abbrev cr : UInt8 := 13

/-- Line feed. -/
abbrev lf : UInt8 := 10

/-- Full stop. -/
abbrev dot : UInt8 := 46

/-- The line end of the wire format. -/
abbrev crlf : Bytes := [cr, lf]

/-! ## Status codes -/

/-- A three-digit status code in the range permitted by the wire format. -/
structure StatusCode where
  value : Nat
  min_le : 100 ≤ value
  le_max : value ≤ 599
  deriving DecidableEq, Repr

namespace StatusCode

/-- The article follows. -/
def article : StatusCode := ⟨220, by decide, by decide⟩

/-- The body follows. -/
def body : StatusCode := ⟨222, by decide, by decide⟩

/-- There is no such article. -/
def missing : StatusCode := ⟨430, by decide, by decide⟩

/-- The command is not known. -/
def unknown : StatusCode := ⟨500, by decide, by decide⟩

/-- Construct a status code only when it is in range. -/
def tryNew (value : Nat) : Option StatusCode :=
  if range : 100 ≤ value ∧ value ≤ 599 then some ⟨value, range.1, range.2⟩ else none

/-- A 4xx or 5xx code. -/
def isError (status : StatusCode) : Bool :=
  decide (400 ≤ status.value ∧ status.value < 600)

/-- The article-not-found code. -/
def isArticleMissing (status : StatusCode) : Bool :=
  decide (status.value = 430)

/-- Parse the code at the start of response data.  The digit values are the
wrapping differences of the octets from `'0'`. -/
def parse : Bytes → Option StatusCode
  | b0 :: b1 :: b2 :: _ =>
    let d0 := b0 - 48
    let d1 := b1 - 48
    let d2 := b2 - 48
    if d0 > 9 ∨ d1 > 9 ∨ d2 > 9 then none
    else tryNew (d0.toNat * 100 + d1.toNat * 10 + d2.toNat)
  | _ => none

/-- The code depends on the first three octets only. -/
theorem parse_append {line : Bytes} (long : 3 ≤ line.length) (rest : Bytes) :
    parse (line ++ rest) = parse line := by
  match line, long with
  | _ :: _ :: _ :: _, _ => rfl

end StatusCode

/-! ## Request kinds -/

/-- Classified command verbs understood by the proxy. -/
inductive RequestKind where
  | article | body | head | stat
  | group | listGroup | last | next
  | list | date | help | capabilities | mode | quit
  | over | xover | hdr | xhdr
  | newGroups | newNews
  | post | ihave | check | takeThis
  | authInfo | startTls | compress
  | unknown
  deriving DecidableEq, Repr

/-- Codes that announce a body when the verb is not known. -/
def statusImpliesResponseBody (code : Nat) : Bool :=
  code ∈ [100, 101, 215, 220, 221, 222, 224, 225, 230, 231, 282, 288]

/-- Whether a request of this kind answered with this code has a multiline body. -/
def requestKindHasResponseBody (kind : RequestKind) (status : StatusCode) : Bool :=
  if status.isError then false
  else
    match kind with
    | .article => status.value == 220
    | .head => status.value == 221
    | .body => status.value == 222
    | .listGroup => status.value == 211
    | .help => status.value == 100
    | .capabilities => status.value == 101
    | .list => status.value == 215
    | .over | .xover => status.value == 224
    | .hdr => status.value == 225
    | .xhdr => status.value == 221 || status.value == 225
    | .newNews => status.value == 230
    | .newGroups => status.value == 231
    | .unknown => statusImpliesResponseBody status.value
    | _ => false

theorem requestKindHasResponseBody_of_isError {kind : RequestKind} {status : StatusCode}
    (error : status.isError = true) : requestKindHasResponseBody kind status = false := by
  simp [requestKindHasResponseBody, error]

/-! ## Status lines -/

/-- The length of the first line, its line feed included. -/
def statusLineLen : Bytes → Option Nat
  | [] => none
  | byte :: rest => if byte = lf then some 1 else (statusLineLen rest).map (· + 1)

@[simp]
theorem statusLineLen_nil : statusLineLen [] = none :=
  rfl

variable {bytes : Bytes}

theorem statusLineLen_eq_none_iff : statusLineLen bytes = none ↔ lf ∉ bytes := by
  induction bytes with
  | nil => simp
  | cons byte rest ih =>
    by_cases isLf : byte = lf
    · simp [statusLineLen, isLf]
    · simp [statusLineLen, isLf, ih, Ne.symm isLf]

theorem statusLineLen_eq_some_iff {n : Nat} :
    statusLineLen bytes = some n ↔
      ∃ text rest, lf ∉ text ∧ bytes = text ++ lf :: rest ∧ n = text.length + 1 := by
  induction bytes generalizing n with
  | nil => simp
  | cons byte rest ih =>
    by_cases isLf : byte = lf
    · subst isLf
      constructor
      · rintro ⟨⟩
        exact ⟨[], rest, by simp, rfl, rfl⟩
      · rintro ⟨text, tail, clean, split, rfl⟩
        cases text with
        | nil => rfl
        | cons first text =>
          obtain ⟨rfl, -⟩ := List.cons.inj split
          simp at clean
    · rw [statusLineLen, if_neg isLf, Option.map_eq_some_iff]
      constructor
      · rintro ⟨m, found, rfl⟩
        obtain ⟨text, tail, clean, rfl, rfl⟩ := ih.mp found
        exact ⟨byte :: text, tail, by simp [clean, Ne.symm isLf], by simp, by simp⟩
      · rintro ⟨text, tail, clean, split, rfl⟩
        cases text with
        | nil =>
          obtain ⟨rfl, -⟩ := List.cons.inj split
          exact absurd rfl isLf
        | cons first text =>
          obtain ⟨rfl, rfl⟩ := List.cons.inj split
          refine ⟨text.length + 1, ih.mpr ⟨text, tail, ?_, rfl, rfl⟩, by simp⟩
          exact fun lfMem => clean (List.mem_cons_of_mem _ lfMem)

theorem statusLineLen_append_of_some {n : Nat} (found : statusLineLen bytes = some n)
    (more : Bytes) :
    statusLineLen (bytes ++ more) = some n := by
  obtain ⟨text, rest, clean, rfl, rfl⟩ := statusLineLen_eq_some_iff.mp found
  exact statusLineLen_eq_some_iff.mpr ⟨text, rest ++ more, clean, by simp, rfl⟩

theorem statusLineLen_append_of_none (missing : statusLineLen bytes = none) (more : Bytes) :
    statusLineLen (bytes ++ more) = (statusLineLen more).map (bytes.length + ·) := by
  rw [statusLineLen_eq_none_iff] at missing
  cases found : statusLineLen more with
  | none =>
    rw [statusLineLen_eq_none_iff] at found
    simp [statusLineLen_eq_none_iff, missing, found]
  | some n =>
    obtain ⟨text, rest, clean, rfl, rfl⟩ := statusLineLen_eq_some_iff.mp found
    refine statusLineLen_eq_some_iff.mpr ⟨bytes ++ text, rest, ?_, by simp, ?_⟩
    · simp [missing, clean]
    · simp only [List.length_append]
      omega

theorem statusLineLen_le {n : Nat} (found : statusLineLen bytes = some n) :
    0 < n ∧ n ≤ bytes.length := by
  obtain ⟨text, rest, -, rfl, rfl⟩ := statusLineLen_eq_some_iff.mp found
  simp only [List.length_append, List.length_cons]
  omega

theorem take_line (text rest : Bytes) :
    (text ++ lf :: rest).take (text.length + 1) = text ++ [lf] := by
  rw [List.take_append]
  simp

theorem drop_line (text rest : Bytes) : (text ++ lf :: rest).drop (text.length + 1) = rest := by
  simp

/-- The first line itself, cut off the data behind it. -/
theorem take_statusLineLen {n : Nat} (found : statusLineLen bytes = some n) :
    ∃ text, lf ∉ text ∧ bytes.take n = text ++ [lf] := by
  obtain ⟨text, rest, clean, rfl, rfl⟩ := statusLineLen_eq_some_iff.mp found
  exact ⟨text, clean, take_line text rest⟩

end NntpProxy.Protocol
