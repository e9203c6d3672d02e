import NntpProxy.Protocol.Status

/-!
# The read side of a compressed stream

A read hands compressed octets to the decompressor until there is output, the compressed stream
ends, or the inner stream has nothing more.  One read may need several calls and several inner
reads, and the decompressor may owe output when all compressed octets are consumed.
-/

namespace NntpProxy.Compression

open Protocol

universe u

/-! ## Surroundings -/

/-- What a call of the decompressor did. -/
structure Call (State : Type u) where
  state : State
  consumed : Nat
  produced : Bytes
  ended : Bool

/-- A decompressor takes no more than its input and fills no more than the room; a call on invalid
data fails. -/
structure Decompressor (State : Type u) where
  start : State
  decompress : State → Bytes → Nat → Option (Call State)
  consumed_le : ∀ {state input room call}, decompress state input room = some call →
    call.consumed ≤ input.length
  produced_le : ∀ {state input room call}, decompress state input room = some call →
    call.produced.length ≤ room

def compressedBufSize : Nat := 8192

/-- What the inner stream does in one call; a read of nothing is its end. -/
inductive InnerRead where
  | pending
  | failed
  | read (chunk : Bytes) (fits : chunk.length ≤ compressedBufSize)

/-- Why a read is ready. -/
inductive Readiness where
  | decompressed (ended : Bool)
  | innerEnd
  deriving DecidableEq, Repr

/-- The result of a read.  A read spins when the decompressor makes no progress. -/
inductive ReadResult where
  | pending
  | failed
  | invalid
  | spins
  | ready (bytes : Bytes) (readiness : Readiness)
  deriving DecidableEq, Repr

def ReadResult.bytes : ReadResult → Bytes
  | ready bytes _ => bytes
  | _ => []

/-! ## Reads -/

/-- The read side, with all that was received from the inner stream and delivered to the caller. -/
structure ReadSide (State : Type u) where
  state : State
  compressed : Bytes
  inner : List InnerRead
  received : Bytes
  delivered : Bytes

variable {State : Type u}

namespace Decompressor

/-- A call, and whether the read is done with it. -/
def tryDecompress (decompressor : Decompressor State) (state : State) (input : Bytes)
    (room : Nat) : Option (Call State × Bool) :=
  if room = 0 then some (⟨state, 0, [], false⟩, true)
  else
    (decompressor.decompress state input room).map fun call =>
      (call, !call.produced.isEmpty || call.ended)

end Decompressor

namespace ReadSide

def new (decompressor : Decompressor State) (inner : List InnerRead) : ReadSide State :=
  ⟨decompressor.start, [], inner, [], []⟩

/-- The stream behind a call. -/
def called (stream : ReadSide State) (call : Call State) : ReadSide State :=
  { stream with
    state := call.state
    compressed := stream.compressed.drop call.consumed
    delivered := stream.delivered ++ call.produced }

/-- The compressed octets of an inner read. -/
def receive (stream : ReadSide State) (chunk : Bytes) (rest : List InnerRead) : ReadSide State :=
  { stream with compressed := chunk, inner := rest, received := stream.received ++ chunk }

def pollRead (decompressor : Decompressor State) (room : Nat) (stream : ReadSide State) :
    ReadResult × ReadSide State :=
  match decompressor.tryDecompress stream.state stream.compressed room with
  | none => (.invalid, stream)
  | some (call, true) => (.ready call.produced (.decompressed call.ended), stream.called call)
  | some (call, false) =>
    if noInput : stream.compressed = [] then
      match inner : stream.inner with
      | [] => (.pending, stream.called call)
      | .pending :: rest => (.pending, { stream.called call with inner := rest })
      | .failed :: rest => (.failed, { stream.called call with inner := rest })
      | .read chunk _ :: rest =>
        if chunk = [] then (.ready [] .innerEnd, { stream.called call with inner := rest })
        else pollRead decompressor room ((stream.called call).receive chunk rest)
    else if stuck : call.consumed = 0 then (.spins, stream.called call)
    else pollRead decompressor room (stream.called call)
  termination_by (stream.inner.length, stream.compressed.length)
  decreasing_by
    · apply Prod.Lex.left
      simp [called, receive, inner]
    · apply Prod.Lex.right
      have := List.length_pos_iff.mpr noInput
      simp only [called, List.length_drop]
      omega

/-- Reads with buffers of these sizes, until one meets invalid data. -/
def reads (decompressor : Decompressor State) :
    List Nat → ReadSide State → Option (List ReadResult × ReadSide State)
  | [], stream => some ([], stream)
  | room :: rooms, stream =>
    match pollRead decompressor room stream with
    | (.invalid, _) => none
    | (result, next) => (reads decompressor rooms next).map fun (results, last) =>
      (result :: results, last)

end ReadSide

/-! ## Streaming decompressors -/

/-- A state that the decompressor comes to when it has consumed and emitted these octets. -/
inductive Reaches (decompressor : Decompressor State) : State → Bytes → Bytes → Prop
  | start : Reaches decompressor decompressor.start [] []
  | call {state consumed emitted input room call} : Reaches decompressor state consumed emitted →
    decompressor.decompress state input room = some call →
    Reaches decompressor call.state (consumed ++ input.take call.consumed)
      (emitted ++ call.produced)

/-- The decompressor streams this output: it emits the output in order, makes progress when it has
input and room, and without input emits what it owes. -/
structure Streaming (decompressor : Decompressor State) (output : Bytes → Bytes) : Prop where
  grows : ∀ consumed more, output consumed <+: output (consumed ++ more)
  emits : ∀ {state consumed emitted}, Reaches decompressor state consumed emitted →
    emitted <+: output consumed
  progress : ∀ {state consumed emitted input room call},
    Reaches decompressor state consumed emitted → input ≠ [] → 0 < room →
    decompressor.decompress state input room = some call →
    call.consumed ≠ 0 ∨ call.produced ≠ [] ∨ call.ended = true
  owed : ∀ {state consumed emitted room call}, Reaches decompressor state consumed emitted →
    0 < room → decompressor.decompress state [] room = some call → emitted ≠ output consumed →
    call.produced ≠ []

variable {decompressor : Decompressor State} {output : Bytes → Bytes} {room : Nat}
  {stream : ReadSide State}

namespace ReadSide

/-- What the decompressor emitted is what was delivered, and it has consumed all that was received
and is not buffered. -/
def Fed (decompressor : Decompressor State) (stream : ReadSide State) : Prop :=
  ∃ consumed, Reaches decompressor stream.state consumed stream.delivered ∧
    consumed ++ stream.compressed = stream.received

theorem Fed.called {call : Call State} (fed : stream.Fed decompressor)
    (isCall : decompressor.decompress stream.state stream.compressed room = some call) :
    (stream.called call).Fed decompressor := by
  rcases fed with ⟨consumed, reaches, received⟩
  refine ⟨_, .call reaches isCall, ?_⟩
  simp [ReadSide.called, ← received]

theorem Fed.delivered (fed : stream.Fed decompressor) (streaming : Streaming decompressor output) :
    stream.delivered <+: output stream.received := by
  rcases fed with ⟨consumed, reaches, received⟩
  rw [← received]
  exact (streaming.emits reaches).trans (streaming.grows _ _)

section

variable (streaming : Streaming decompressor output)

include streaming

end

/-! ## A decompressor that copies -/

end ReadSide

end NntpProxy.Compression
