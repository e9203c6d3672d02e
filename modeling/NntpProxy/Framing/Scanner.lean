import NntpProxy.Framing.Framer
import NntpProxy.Stream.Occurrence

/-!
# The vector scanner

The scanner looks for the terminator block by block.  Two octets of a terminator are three places
apart and equal, so a cheap test of all lanes tells which blocks have to be looked at, and blocks
overlap by four octets so that a terminator across their border lies in one of them.  What is left
behind the last whole block goes to the substring finder.  Under the assumption that the finder
is right, every variant reports the first terminator, whose end is the one that the framer's
search has.
-/

namespace NntpProxy.Framing

open Protocol NntpProxy.Stream

/-- The parameters of a scan: how many lanes a block has, and which octet of the pair is
compared. -/
structure Lanes where
  width : Nat
  first : Nat
  byte : UInt8
  width_pos : 0 < width
  pair : first = 0 ∧ byte = cr ∨ first = 1 ∧ byte = lf

/-- The first window of a block that is the terminator. -/
def firstMatch (block : Bytes) : Option Nat :=
  windowPosition terminator block

variable (lanes : Lanes)

variable {block : Bytes}

namespace Lanes

/-- Some lane has the octet at both places. -/
def possibleRepeat (lanes : Lanes) (block : Bytes) : Bool :=
  (List.range lanes.width).any fun lane =>
    block[lane + lanes.first]? == some lanes.byte &&
      block[lane + lanes.first + 3]? == some lanes.byte

/-- In some lane the two places together have the bits of the octet. -/
def possibleOr (lanes : Lanes) (block : Bytes) : Bool :=
  (List.range lanes.width).any fun lane =>
    match block[lane + lanes.first]?, block[lane + lanes.first + 3]? with
    | some front, some back => front ||| back == lanes.byte
    | _, _ => false

def exactPairMatch (lanes : Lanes) (block : Bytes) : Option Nat :=
  if lanes.possibleRepeat block then firstMatch block else none

/-- The loop over the blocks, from an offset on. -/
def scanFrom (lanes : Lanes) (possible : Bytes → Bool) (verify finder : Bytes → Option Nat)
    (data : Bytes) (offset : Nat) : Option Nat :=
  if lanes.width + 4 ≤ data.length - offset then
    let block := (data.drop offset).take (lanes.width + 4)
    match if possible block then verify block else none with
    | some lane => some (offset + lane)
    | none => scanFrom lanes possible verify finder data (offset + lanes.width)
  else
    (finder (data.drop offset)).map (offset + ·)
termination_by data.length - offset
decreasing_by
  have := lanes.width_pos
  omega

def findRepeat (lanes : Lanes) (finder : Bytes → Option Nat) (data : Bytes) : Option Nat :=
  lanes.scanFrom lanes.possibleRepeat firstMatch finder data 0

def findOr (lanes : Lanes) (verify finder : Bytes → Option Nat) (data : Bytes) : Option Nat :=
  lanes.scanFrom lanes.possibleOr verify finder data 0

/-! ## One block -/

/-- In a lane where a terminator starts both places hold the octet. -/
theorem getElem?_of_stands {lane : Nat} (stands : terminator <+: block.drop lane) :
    block[lane + lanes.first]? = some lanes.byte ∧
      block[lane + lanes.first + 3]? = some lanes.byte := by
  obtain ⟨rest, split⟩ := stands
  have atPlace : ∀ place, block[lane + place]? = (terminator ++ rest)[place]? := by
    intro place
    rw [split, List.getElem?_drop]
  rw [Nat.add_assoc, atPlace, atPlace]
  rcases lanes.pair with ⟨isFirst, isByte⟩ | ⟨isFirst, isByte⟩
  · rw [isFirst, isByte]
    exact ⟨rfl, rfl⟩
  · rw [isFirst, isByte]
    exact ⟨rfl, rfl⟩

theorem possibleRepeat_of_stands {lane : Nat} (inBlock : lane < lanes.width)
    (stands : terminator <+: block.drop lane) : lanes.possibleRepeat block = true := by
  obtain ⟨front, back⟩ := lanes.getElem?_of_stands stands
  refine List.any_eq_true.mpr ⟨lane, List.mem_range.mpr inBlock, ?_⟩
  rw [front, back, beq_self_eq_true, Bool.and_self]

theorem possibleOr_of_stands {lane : Nat} (inBlock : lane < lanes.width)
    (stands : terminator <+: block.drop lane) : lanes.possibleOr block = true := by
  obtain ⟨front, back⟩ := lanes.getElem?_of_stands stands
  refine List.any_eq_true.mpr ⟨lane, List.mem_range.mpr inBlock, ?_⟩
  rw [front, back]
  exact beq_iff_eq.mpr UInt8.or_self

theorem isFirst_guarded {possible : Bytes → Bool} {found : Option Nat}
    (size : block.length = lanes.width + 4)
    (admits : ∀ lane < lanes.width, terminator <+: block.drop lane → possible block = true)
    (exact : IsFirst terminator block found) :
    IsFirst terminator block (if possible block then found else none) := by
  by_cases isPossible : possible block = true
  · rwa [if_pos isPossible]
  · rw [if_neg isPossible, isFirst_none_iff]
    intro lane stands
    have fits := stands.length_le
    rw [List.length_drop, length_terminator] at fits
    exact isPossible (admits lane (by omega) stands)

theorem isFirst_firstMatch (block : Bytes) : IsFirst terminator block (firstMatch block) :=
  isFirst_windowPosition terminator_ne_nil block

theorem isFirst_exactPairMatch (size : block.length = lanes.width + 4) :
    IsFirst terminator block (lanes.exactPairMatch block) :=
  lanes.isFirst_guarded size (fun _ inBlock => lanes.possibleRepeat_of_stands inBlock)
    (isFirst_firstMatch block)

/-! ## The loop -/

section Loop

variable {finder : Bytes → Option Nat} (finds : ∀ data, IsFirst terminator data (finder data))

include finds

/-- Exact blocks make an exact loop: a block without a terminator rules out every place in front
of the next block. -/
theorem isFirst_scanFrom {possible : Bytes → Bool} {verify : Bytes → Option Nat}
    (exact : ∀ block : Bytes, block.length = lanes.width + 4 →
      IsFirst terminator block (if possible block then verify block else none)) {data : Bytes}
    {offset : Nat} (notBefore : ∀ start < offset, ¬ terminator <+: data.drop start) :
    IsFirst terminator data (lanes.scanFrom possible verify finder data offset) := by
  fun_induction lanes.scanFrom possible verify finder data offset with
  | case1 offset whole block lane found =>
    have size : block.length = lanes.width + 4 := by
      rw [List.length_take, List.length_drop, Nat.min_eq_left whole]
    have inBlock := exact block size
    rw [← dite_eq_ite, found] at inBlock
    exact (inBlock.of_take terminator_ne_nil).of_drop notBefore
  | case2 offset whole block nothing ih =>
    apply ih
    intro start before stands
    rcases Nat.lt_or_ge start offset with passed | notPassed
    · exact notBefore start passed stands
    · obtain ⟨lane, rfl⟩ := Nat.exists_eq_add_of_le notPassed
      have size : block.length = lanes.width + 4 := by
        rw [List.length_take, List.length_drop, Nat.min_eq_left whole]
      have inBlock := exact block size
      rw [← dite_eq_ite, nothing, isFirst_none_iff] at inBlock
      have inside : lane + terminator.length ≤ lanes.width + 4 := by
        rw [length_terminator]
        omega
      rw [← List.drop_drop] at stands
      exact inBlock lane ((prefix_drop_take_iff inside).mpr stands)
  | case3 offset short => exact (finds (data.drop offset)).of_drop notBefore

theorem isFirst_findRepeat (data : Bytes) :
    IsFirst terminator data (lanes.findRepeat finder data) := by
  refine lanes.isFirst_scanFrom finds (fun block size => ?_) nofun
  exact lanes.isFirst_guarded size (fun _ inBlock => lanes.possibleRepeat_of_stands inBlock)
    (isFirst_firstMatch block)

theorem isFirst_findOr {verify : Bytes → Option Nat}
    (verifies : ∀ block : Bytes, block.length = lanes.width + 4 →
      IsFirst terminator block (verify block)) (data : Bytes) :
    IsFirst terminator data (lanes.findOr verify finder data) := by
  refine lanes.isFirst_scanFrom finds (fun block size => ?_) nofun
  exact lanes.isFirst_guarded size (fun _ inBlock => lanes.possibleOr_of_stands inBlock)
    (verifies block size)

/-- Every variant of the scanner reports the first terminator, and nothing when there is none. -/
theorem isFirst_find (lanes : Lanes) (data : Bytes) :
    IsFirst terminator data (lanes.findRepeat finder data) ∧
      IsFirst terminator data (lanes.findOr lanes.exactPairMatch finder data) ∧
      IsFirst terminator data (lanes.findOr firstMatch finder data) :=
  ⟨lanes.isFirst_findRepeat finds data,
    lanes.isFirst_findOr finds (fun _ size => lanes.isFirst_exactPairMatch size) data,
    lanes.isFirst_findOr finds (fun block _ => isFirst_firstMatch block) data⟩

/-- The framer's search is met: the end of what the scanner reports. -/
theorem firstMatchEnd_eq_findRepeat (data : Bytes) :
    firstMatchEnd terminator data = (lanes.findRepeat finder data).map (· + terminator.length) :=
  (lanes.isFirst_findRepeat finds data).firstMatchEnd_eq terminator_ne_nil

end Loop

/-- 128 lanes, compared on the carriage returns. -/
def carriageReturns : Lanes where
  width := 128
  first := 0
  byte := cr
  width_pos := by decide
  pair := Or.inl ⟨rfl, rfl⟩

/-- A terminator across the border of the first two blocks, with the windows themselves as
finder. -/
theorem isFirst_find_carriageReturns :
    let data := List.replicate 126 dot ++ terminator ++ terminator
    (∀ data, IsFirst terminator data (firstMatch data)) ∧
      IsFirst terminator data (carriageReturns.findRepeat firstMatch data) ∧
      IsFirst terminator data
        (carriageReturns.findOr carriageReturns.exactPairMatch firstMatch data) ∧
      IsFirst terminator data (carriageReturns.findOr firstMatch firstMatch data) :=
  ⟨isFirst_firstMatch, isFirst_find isFirst_firstMatch carriageReturns _⟩

end Lanes

end NntpProxy.Framing
