/-
This file is the writing half of `xdr_codec.c` with the memory that it allocates, on a host of 64 bits.
An allocation may fail, and a failed `realloc` is reported on the standard error stream only.
-/

import Nfs3Rpc.Construction.Csuite.XdrBuf
import Nfs3Rpc.Encoding.Buffers
import Nfs3Rpc.Encoding.Hosts

namespace Nfs3Rpc.Csuite.Growth
open Encoding

/-- The data is a null pointer when its block has no bytes. -/
structure XdrBufT where
  data : Memory
  block : Nat
  size : Nat
  capacity : Nat
  pos : Nat

/-- The heap answers each request in turn, with a fresh block or with nothing. Indices that were written at or above
the capacity, or outside of the block, have strayed. -/
structure Machine where
  buf : XdrBufT
  heap : Nat → Option Memory
  stderr : List String
  strayed : List Nat

/-- A call may stay in its loop, or read outside of the block that it copies from. -/
inductive Halt where
  | endlessLoop
  | invalidRead
  deriving DecidableEq

abbrev Grow := EStateM Halt Machine

def xdrMinCapacity : Nat := 64

def request : Grow (Option Memory) := fun machine =>
  .ok (machine.heap 0) { machine with heap := fun later => machine.heap (later + 1) }

def copyFrom (source : Ptr) (len : Nat) : Grow Bytes :=
  match source with
  | .block data => if len ≤ data.length then pure (data.take len) else throw .invalidRead
  | _ => throw .invalidRead

def strlen (s : Ptr) : Grow Nat :=
  match s with
  | .block data => if 0 ∈ data then pure (data.takeWhile (· != 0)).length else throw .invalidRead
  | _ => throw .invalidRead

/-- The bytes of the old block move to the new one. -/
def XdrBufT.moved (buf : XdrBufT) (fresh : Memory) (newCap : Nat) : XdrBufT :=
  { buf with
    data := fun index => if index < buf.block then buf.data index else fresh index
    block := newCap
    capacity := newCap }

/-- The bytes are copied behind the last one, whatever the capacity is. -/
def Machine.stored (machine : Machine) (bytes : Bytes) : Machine :=
  { machine with
    buf :=
      { machine.buf with
        data := overwrite machine.buf.data machine.buf.size bytes
        size := sizeSum 64 machine.buf.size bytes.length }
    strayed := machine.strayed ++
      (List.range' machine.buf.size bytes.length).filter fun index =>
        machine.buf.capacity ≤ index || machine.buf.block ≤ index }

def store (bytes : Bytes) : Grow Unit := modify fun machine => machine.stored bytes

/-- The loop starts at twice the capacity; sixty-four turns decide whether it ends. -/
def newCapacity (capacity needed : Nat) : Option Nat :=
  doubleUntil 64 needed 64 (if capacity = 0 then xdrMinCapacity else doubleSize 64 capacity)

/-- The function returns nothing, so that its callers go on after a failure. -/
def ensureWriteCapacity (bytes : Nat) : Grow Unit := do
  let machine ← get
  let needed := sizeSum 64 machine.buf.size bytes
  if needed > machine.buf.capacity then
    match newCapacity machine.buf.capacity needed with
    | none => throw .endlessLoop
    | some newCap =>
      match ← request with
      | none => modify fun machine => { machine with stderr := machine.stderr ++ ["XDR: out of memory\n"] }
      | some fresh => modify fun machine => { machine with buf := machine.buf.moved fresh newCap }

def write (bytes : Bytes) : Grow Unit := do
  ensureWriteCapacity bytes.length
  store bytes

def padTo4Bytes : Grow Unit := do
  let machine ← get
  let pad := padding machine.buf.size
  if pad ≠ 0 then
    write (List.replicate pad 0)

def xdrPackUint32 (val : UInt32) : Grow Unit := write (be32 val)

def xdrPackInt32 (val : Int32) : Grow Unit := xdrPackUint32 val.toUInt32

def xdrPackUint64 (val : UInt64) : Grow Unit := write (be64 val)

def xdrPackBool (val : Int32) : Grow Unit := xdrPackUint32 (if val ≠ 0 then 1 else 0)

def xdrPackBytes (data : Ptr) (len : Nat) : Grow Unit := do
  if len > 0 ∧ data ≠ .null then
    ensureWriteCapacity len
    let bytes ← copyFrom data len
    store bytes

def xdrPackCstring (s : Ptr) : Grow Unit := do
  let len : UInt32 ← if s = .null then pure 0 else UInt32.ofNat <$> strlen s
  xdrPackUint32 len
  xdrPackBytes s len.toNat
  padTo4Bytes

def xdrPackOpaque (data : Ptr) (len : UInt32) : Grow Unit := do
  xdrPackUint32 len
  xdrPackBytes data len.toNat
  padTo4Bytes

/-- No caller of `malloc` looks at its result. -/
def malloc (bytes : Nat) : Grow (Memory × Nat) := do
  match ← request with
  | none => return (fun _ => 0, 0)
  | some fresh => return (fresh, bytes)

def xdrBufInit : Grow Unit := modify fun machine => { machine with buf := ⟨fun _ => 0, 0, 0, 0, 0⟩ }

def xdrBufInitCapacity (cap : UInt64) : Grow Unit := do
  let cap := if cap.toNat < xdrMinCapacity then xdrMinCapacity else cap.toNat
  let (data, block) ← malloc cap
  modify fun machine => { machine with buf := ⟨data, block, 0, cap, 0⟩ }

/-- The capacity is the length, although the block has at least one byte. -/
def xdrBufInitCopy (data : Ptr) (len : Nat) : Grow Unit := do
  let (fresh, block) ← malloc (if len = 0 then 1 else len)
  modify fun machine => { machine with buf := ⟨fresh, block, 0, len, 0⟩ }
  if len > 0 then
    let bytes ← copyFrom data len
    store bytes

def xdrBufResetRead : Grow Unit := modify fun machine => { machine with buf.pos := 0 }

def xdrBufClear : Grow Unit := modify fun machine => { machine with buf.size := 0, buf.pos := 0 }

def xdrPack : Pack → Grow Unit
  | .int32 val => xdrPackInt32 val
  | .uint32 val => xdrPackUint32 val
  | .uint64 val => xdrPackUint64 val
  | .bool val => xdrPackBool val
  | .cstring s => xdrPackCstring s
  | .varOpaque data len => xdrPackOpaque data len
  | .bytes data len => xdrPackBytes data len

inductive Call where
  | init
  | initCapacity (cap : UInt64)
  | initCopy (data : Ptr) (len : Nat)
  | clear
  | resetRead
  | pack (pack : Pack)
  deriving DecidableEq

def Call.run : Call → Grow Unit
  | .init => xdrBufInit
  | .initCapacity cap => xdrBufInitCapacity cap
  | .initCopy data len => xdrBufInitCopy data len
  | .clear => xdrBufClear
  | .resetRead => xdrBufResetRead
  | .pack call => xdrPack call

end Nfs3Rpc.Csuite.Growth
