import NntpProxy.Protocol.Status

/-!
# Text in wire data

The parts of the standard library that the parser relies on: ASCII white space
and letter case on octets, UTF-8 decoding to code points, and the Unicode white
space that validated names are trimmed by.
-/

namespace NntpProxy.Protocol

open List

/-! ## ASCII -/

/-- Space, tab, line feed, form feed and carriage return. -/
def isAsciiWhitespace (byte : UInt8) : Bool :=
  byte == 32 || byte == 9 || byte == 10 || byte == 12 || byte == 13

/-- Upper case of an ASCII letter. -/
def asciiUpper (byte : UInt8) : UInt8 :=
  if 97 ≤ byte ∧ byte ≤ 122 then byte - 32 else byte

/-- Lower case of an ASCII letter. -/
def asciiLower (byte : UInt8) : UInt8 :=
  if 65 ≤ byte ∧ byte ≤ 90 then byte + 32 else byte

variable {byte : UInt8}

theorem asciiLower_of_not_ascii (notAscii : ¬ byte < 128) :
    asciiLower byte = byte := by
  apply if_neg
  rintro ⟨-, isLetter⟩
  exact notAscii (UInt8.lt_of_le_of_lt isLetter (by decide))

theorem asciiLower_lt (isAscii : byte < 128) : asciiLower byte < 128 := by
  unfold asciiLower
  split
  · grind
  · exact isAscii

/-- Equality up to the case of ASCII letters. -/
def eqIgnoreAsciiCase (left right : Bytes) : Bool :=
  left.map asciiUpper == right.map asciiUpper

/-- Data without the white space at both ends. -/
def trimAscii (bytes : Bytes) : Bytes :=
  (bytes.dropWhile isAsciiWhitespace).rdropWhile isAsciiWhitespace

/-- The position of the first occurrence of an octet. -/
def memchr (byte : UInt8) (bytes : Bytes) : Option Nat :=
  bytes.idxOf? byte

theorem memchr_of_not_mem_front {front : Bytes} (first : byte ∉ front)
    (rest : Bytes) : memchr byte (front ++ byte :: rest) = some front.length := by
  unfold memchr
  induction front with
  | nil => simp [idxOf?_cons]
  | cons other front ih =>
    rw [mem_cons, not_or] at first
    simp [idxOf?_cons, ih first.2, Ne.symm first.1]

/-- The value of a text of digits, which may start with a plus sign, if it fits 64 bits. -/
def parseU64 (text : Bytes) : Option UInt64 :=
  let figures := if text.head? = some 43 then text.drop 1 else text
  let value := figures.foldl (fun value figure => value * 10 + (figure.toNat - 48)) 0
  if figures ≠ [] ∧ figures.all (fun figure => decide (48 ≤ figure ∧ figure ≤ 57)) ∧
      value < 2 ^ 64 then
    some (UInt64.ofNat value)
  else none

/-! ## UTF-8 -/

/-- A continuation octet. -/
def isContinuation (byte : UInt8) : Bool :=
  decide (128 ≤ byte ∧ byte ≤ 191)

/-- The six payload bits of a continuation octet. -/
def continuationBits (byte : UInt8) : Nat :=
  byte.toNat - 128

/-- The first continuation octet allowed after a leading octet of three or four:
no overlong form, no surrogate, nothing above the last code point. -/
def isSecondOctet (lead second : UInt8) : Bool :=
  isContinuation second &&
    (if lead == 224 then decide (160 ≤ second)
    else if lead == 237 then decide (second ≤ 159)
    else if lead == 240 then decide (144 ≤ second)
    else if lead == 244 then decide (second ≤ 143)
    else true)

/-- Decode UTF-8 data to its code points. -/
def decodeUtf8 : Bytes → Option (List Nat)
  | [] => some []
  | b0 :: rest =>
    if b0 < 128 then (decodeUtf8 rest).map (b0.toNat :: ·)
    else if 194 ≤ b0 ∧ b0 ≤ 223 then
      match rest with
      | b1 :: rest =>
        if isContinuation b1 then
          (decodeUtf8 rest).map (((b0.toNat - 192) * 64 + continuationBits b1) :: ·)
        else none
      | _ => none
    else if 224 ≤ b0 ∧ b0 ≤ 239 then
      match rest with
      | b1 :: b2 :: rest =>
        if isSecondOctet b0 b1 && isContinuation b2 then
          (decodeUtf8 rest).map
            (((b0.toNat - 224) * 4096 + continuationBits b1 * 64 + continuationBits b2) :: ·)
        else none
      | _ => none
    else if 240 ≤ b0 ∧ b0 ≤ 244 then
      match rest with
      | b1 :: b2 :: b3 :: rest =>
        if isSecondOctet b0 b1 && isContinuation b2 && isContinuation b3 then
          (decodeUtf8 rest).map
            (((b0.toNat - 240) * 262144 + continuationBits b1 * 4096 +
              continuationBits b2 * 64 + continuationBits b3) :: ·)
        else none
      | _ => none
    else none

theorem decodeUtf8_ascii (isAscii : byte < 128) (rest : Bytes) :
    decodeUtf8 (byte :: rest) = (decodeUtf8 rest).map (byte.toNat :: ·) := by
  conv_lhs => unfold decodeUtf8
  rw [if_pos isAscii]

variable {text : Bytes}

theorem isSome_decodeUtf8_of_ascii (isAscii : ∀ byte ∈ text, byte < 128) :
    (decodeUtf8 text).isSome = true := by
  induction text with
  | nil => rfl
  | cons byte text ih =>
    rw [forall_mem_cons] at isAscii
    rw [decodeUtf8_ascii isAscii.1, Option.isSome_map]
    exact ih isAscii.2

/-- How many octets the code point at the front of text has, or how many octets there are
replaced together because they do not start one. -/
def utf8Front (b0 : UInt8) (rest : Bytes) : Except Nat Nat :=
  if b0 < 128 then .ok 1
  else if 194 ≤ b0 ∧ b0 ≤ 223 then
    match rest with
    | b1 :: _ => if isContinuation b1 then .ok 2 else .error 1
    | [] => .error 1
  else if 224 ≤ b0 ∧ b0 ≤ 239 then
    match rest with
    | b1 :: b2 :: _ =>
      if isSecondOctet b0 b1 then if isContinuation b2 then .ok 3 else .error 2 else .error 1
    | [b1] => if isSecondOctet b0 b1 then .error 2 else .error 1
    | [] => .error 1
  else if 240 ≤ b0 ∧ b0 ≤ 244 then
    match rest with
    | b1 :: b2 :: b3 :: _ =>
      if isSecondOctet b0 b1 then
        if isContinuation b2 then if isContinuation b3 then .ok 4 else .error 3 else .error 2
      else .error 1
    | [b1, b2] =>
      if isSecondOctet b0 b1 then if isContinuation b2 then .error 3 else .error 2 else .error 1
    | [b1] => if isSecondOctet b0 b1 then .error 2 else .error 1
    | [] => .error 1
  else .error 1

/-- Text with the replacement character for what is not UTF-8. -/
def fromUtf8Lossy : Bytes → Bytes
  | [] => []
  | b0 :: rest =>
    match utf8Front b0 rest with
    | .ok count => (b0 :: rest).take count ++ fromUtf8Lossy (rest.drop (count - 1))
    | .error count => [239, 191, 189] ++ fromUtf8Lossy (rest.drop (count - 1))
termination_by text => text.length

/-- Text that decodes, one code point after the other: an ASCII octet, or octets none of which
is one and that are decoded whatever follows. -/
inductive IsUtf8 : Bytes → Prop where
  | nil : IsUtf8 []
  | ascii {byte : UInt8} {rest : Bytes} (isAscii : byte < 128) (later : IsUtf8 rest) :
      IsUtf8 (byte :: rest)
  | wide {unit rest : Bytes} (nonempty : unit ≠ []) (notAscii : ∀ byte ∈ unit, ¬ byte < 128)
      (decodes : ∀ tail, (decodeUtf8 (unit ++ tail)).isSome = (decodeUtf8 tail).isSome)
      (later : IsUtf8 rest) : IsUtf8 (unit ++ rest)

theorem not_ascii_of_isContinuation (continues : isContinuation byte = true) :
    ¬ byte < 128 := by
  simp only [isContinuation, decide_eq_true_eq] at continues
  exact UInt8.not_lt.mpr continues.1

theorem not_ascii_of_isSecondOctet {lead : UInt8}
    (continues : isSecondOctet lead byte = true) : ¬ byte < 128 := by
  rw [isSecondOctet, Bool.and_eq_true] at continues
  exact not_ascii_of_isContinuation continues.1

theorem isUtf8_iff : (decodeUtf8 text).isSome = true ↔ IsUtf8 text := by
  constructor
  · fun_induction decodeUtf8 text with
    | case1 => exact fun _ => .nil
    | case2 b0 rest isAscii ih =>
      rw [Option.isSome_map]
      exact fun decodes => .ascii isAscii (ih decodes)
    | case3 b0 notAscii two b1 rest continues ih =>
      rw [Option.isSome_map]
      intro decodes
      change IsUtf8 ([b0, b1] ++ rest)
      refine .wide (by simp) ?_ ?_ (ih decodes)
      · simp only [forall_mem_cons]
        exact ⟨notAscii, not_ascii_of_isContinuation continues, forall_mem_nil _⟩
      · intro tail
        simp [decodeUtf8, notAscii, two, continues]
    | case6 b0 notAscii notTwo three b1 b2 rest continues ih =>
      rw [Option.isSome_map]
      have octets := (Bool.and_eq_true _ _).mp continues
      intro decodes
      change IsUtf8 ([b0, b1, b2] ++ rest)
      refine .wide (by simp) ?_ ?_ (ih decodes)
      · simp only [forall_mem_cons]
        exact ⟨notAscii, not_ascii_of_isSecondOctet octets.1,
          not_ascii_of_isContinuation octets.2, forall_mem_nil _⟩
      · intro tail
        simp [decodeUtf8, notAscii, notTwo, three, octets]
    | case9 b0 notAscii notTwo notThree four b1 b2 b3 rest continues ih =>
      rw [Option.isSome_map]
      have octets := (Bool.and_eq_true _ _).mp continues
      have front := (Bool.and_eq_true _ _).mp octets.1
      intro decodes
      change IsUtf8 ([b0, b1, b2, b3] ++ rest)
      refine .wide (by simp) ?_ ?_ (ih decodes)
      · simp only [forall_mem_cons]
        exact ⟨notAscii, not_ascii_of_isSecondOctet front.1, not_ascii_of_isContinuation front.2,
          not_ascii_of_isContinuation octets.2, forall_mem_nil _⟩
      · intro tail
        simp [decodeUtf8, notAscii, notTwo, notThree, four, octets]
    | _ => exact nofun
  · intro isUtf8
    induction isUtf8 with
    | nil => rfl
    | ascii isAscii _ ih => rwa [decodeUtf8_ascii isAscii, Option.isSome_map]
    | wide _ _ decodes _ ih => rwa [decodes]

theorem IsUtf8.map_asciiLower (isUtf8 : IsUtf8 text) :
    IsUtf8 (text.map asciiLower) := by
  induction isUtf8 with
  | nil => exact .nil
  | ascii isAscii _ ih => exact .ascii (asciiLower_lt isAscii) ih
  | @wide unit rest nonempty notAscii decodes _ ih =>
    have unchanged : unit.map asciiLower = unit := by
      rw [map_congr_left fun byte mem => asciiLower_of_not_ascii (notAscii byte mem),
        map_id']
    rw [map_append, unchanged]
    exact .wide nonempty notAscii decodes ih

/-- An ASCII octet at the end can be taken away. -/
theorem IsUtf8.of_concat {last : UInt8} (isAscii : last < 128)
    (isUtf8 : IsUtf8 (text ++ [last])) : IsUtf8 text := by
  generalize whole : text ++ [last] = octets at isUtf8
  induction isUtf8 generalizing text with
  | nil => simp at whole
  | @ascii byte rest first later ih =>
    cases text with
    | nil => exact .nil
    | cons front text =>
      obtain ⟨rfl, wholeRest⟩ := cons.inj whole
      exact .ascii first (ih wholeRest)
  | @wide unit rest nonempty notAscii decodes later ih =>
    rcases eq_nil_or_concat rest with rfl | ⟨front, final, rfl⟩
    · rw [append_nil] at whole
      exact absurd isAscii (notAscii last (whole ▸ by simp))
    · rw [concat_eq_append, ← append_assoc] at whole
      obtain ⟨rfl, lastEq⟩ := append_inj' whole rfl
      obtain rfl : last = final := by simpa using lastEq
      exact .wide nonempty notAscii decodes (ih concat_eq_append.symm)

/-- The `White_Space` code points. -/
def isWhitespace (codePoint : Nat) : Bool :=
  (decide (9 ≤ codePoint ∧ codePoint ≤ 13)) ||
    (decide (8192 ≤ codePoint ∧ codePoint ≤ 8202)) ||
    codePoint ∈ [32, 133, 160, 5760, 8232, 8233, 8239, 8287, 12288]

/-- Text without the white space at both ends. -/
def trim (text : List Nat) : List Nat :=
  (text.dropWhile isWhitespace).rdropWhile isWhitespace

end NntpProxy.Protocol
