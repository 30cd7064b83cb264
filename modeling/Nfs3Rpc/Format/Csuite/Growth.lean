/-
This file states what a growing buffer is for: its bytes stay where they are, and each new one lies inside its block.
-/

import Nfs3Rpc.Construction.Csuite.Growth
import Nfs3Rpc.Format.Csuite.Wire

namespace Nfs3Rpc.Csuite
open Encoding

/-- The pointer and the length describe bytes that can be copied. -/
def Pack.Valid : Pack → Prop
  | .cstring s => s.IsString
  | .varOpaque data len => data ≠ .null → data.Holds len
  | .bytes data len => data ≠ .null → len ≠ 0 → ∃ block, data = .block block ∧ len ≤ block.length
  | _ => True

/-- The bytes that a pointer gives to a copy; a null pointer gives none. -/
def Ptr.copied (source : Ptr) (len : Nat) : Bytes :=
  match source with
  | .block data => data.take len
  | _ => []

/-- No call copies zero bytes. -/
def nonempty (chunks : List Bytes) : List Bytes := chunks.filter fun chunk => !chunk.isEmpty

/-- A value of variable length is a word, its bytes, and the padding of the buffer that has this size. -/
def paddedChunks (size : Nat) (len : UInt32) (bytes : Bytes) : List Bytes :=
  be32 len :: nonempty [bytes, List.replicate (padding (size + 4 + bytes.length)) 0]

/-- These are the copies of one call in turn. -/
def Pack.chunks (size : Nat) : Pack → List Bytes
  | .int32 val => [be32 val.toUInt32]
  | .uint32 val => [be32 val]
  | .uint64 val => [be64 val]
  | .bool val => [be32 (if val ≠ 0 then 1 else 0)]
  | .cstring s => paddedChunks size (UInt32.ofNat s.cstring.length) (clip s.cstring)
  | .varOpaque data len => paddedChunks size len (data.copied len.toNat)
  | .bytes data len => nonempty [data.copied len]

namespace Growth

/-- Every index below the capacity is inside the block, and so is every byte of the buffer. -/
structure Machine.Sound (machine : Machine) : Prop where
  size : machine.buf.size ≤ machine.buf.capacity
  capacity : machine.buf.capacity ≤ machine.buf.block
  word : machine.buf.capacity < 2 ^ 64
  inside : machine.strayed = []

/-- The heap has a block for every request. -/
def Machine.Grants (machine : Machine) : Prop := ∀ later, (machine.heap later).isSome

/-- Nothing has happened yet to a buffer in memory. -/
def Machine.start (buf : XdrBufT) (heap : Nat → Option Memory) : Machine := ⟨buf, heap, [], []⟩

/-- The capacity suffices, or the loop ends and the heap answers with a block. -/
def Machine.Serves (machine : Machine) (bytes : Nat) : Prop :=
  machine.buf.size + bytes < 2 ^ 64 ∧
    (machine.buf.size + bytes ≤ machine.buf.capacity ∨
      ((newCapacity machine.buf.capacity (machine.buf.size + bytes)).isSome ∧ (machine.heap 0).isSome))

def writeAll : List Bytes → Grow Unit
  | [] => pure ()
  | chunk :: chunks => do
    write chunk
    writeAll chunks

/-- The host serves every copy, each one from the state that the earlier ones leave. -/
def Machine.ServesAll : List Bytes → Machine → Prop
  | [], _ => True
  | chunk :: chunks, machine =>
      machine.Serves chunk.length ∧ ServesAll chunks (stateAfter (write chunk) machine)

def Machine.ServesPacks : List Pack → Machine → Prop
  | [], _ => True
  | call :: calls, machine =>
      machine.ServesAll (call.chunks machine.buf.size) ∧ ServesPacks calls (stateAfter (xdrPack call) machine)

/-- The bytes below the size are the same. -/
def Machine.Keeps (before after : Machine) : Prop :=
  ∀ index < before.buf.size, after.buf.data index = before.buf.data index

/-- After every call the size is within the capacity and no byte has strayed, and a call that reports a failure has
left the bytes and their number. -/
def LeavesIntact : List Pack → Machine → Prop
  | [], _ => True
  | call :: calls, before => ∃ after, xdrPack call before = .ok () after ∧
      after.buf.size ≤ after.buf.capacity ∧ after.strayed = [] ∧
      (after.stderr ≠ before.stderr → after.buf.size = before.buf.size ∧ before.Keeps after) ∧
      LeavesIntact calls after

def Call.Valid : Call → Prop
  | .initCopy data len => len ≠ 0 → ∃ block, data = .block block ∧ len ≤ block.length
  | .pack call => call.Valid
  | _ => True

def Call.Initializes : Call → Prop
  | .init | .initCapacity _ | .initCopy _ _ => True
  | _ => False

/-- The number of bytes after a call, which no size type cuts. -/
def Call.sizeAfter (size : Nat) : Call → Nat
  | .init | .initCapacity _ | .clear => 0
  | .initCopy _ len => len
  | .resetRead => size
  | .pack call => size + (call.chunks size).flatten.length

def Bounded (bound : Nat) : List Call → Nat → Prop
  | [], _ => True
  | call :: calls, size => call.sizeAfter size ≤ bound ∧ Bounded bound calls (call.sizeAfter size)

/-- Every call returns with the size within the capacity and its bytes inside the block, and a pack leaves the bytes
that were written before it. -/
def Grows : List Call → Machine → Prop
  | [], _ => True
  | call :: calls, before => ∃ after, call.run before = .ok () after ∧
      after.buf.size = call.sizeAfter before.buf.size ∧ after.buf.size ≤ after.buf.capacity ∧
        after.strayed = [] ∧
      ((∃ values, call = .pack values) → before.Keeps after) ∧ Grows calls after

/-- The buffer without its block: the bytes below the size, and the cursor. -/
def Machine.view (machine : Machine) : Csuite.XdrBufT :=
  ⟨contents machine.buf.data machine.buf.size, machine.buf.pos⟩

/-- What the same call is for, on the buffer without its block. -/
def Call.plain : Call → Csuite.Run Unit
  | .init | .initCapacity _ | .clear => modify fun machine => { machine with buf := ⟨[], 0⟩ }
  | .initCopy data len => modify fun machine => { machine with buf := ⟨data.copied len, 0⟩ }
  | .resetRead => modify fun machine => { machine with buf.pos := 0 }
  | .pack call => Csuite.xdrPack call

def runAll : List Call → Grow Unit
  | [] => pure ()
  | call :: calls => do
    call.run
    runAll calls

def plainAll : List Call → Csuite.Run Unit
  | [] => pure ()
  | call :: calls => do
    call.plain
    plainAll calls

end Growth

end Nfs3Rpc.Csuite
