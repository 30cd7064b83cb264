/-
This file is `xdr_codec.c` of the C suite, with the memory that its functions touch.
Every heap block has one owner, so a pointer is modeled by the content of its block.
-/

import Nfs3Rpc.Encoding.Words

namespace Nfs3Rpc.Csuite
open Encoding

/-- A wild pointer is uninitialized or points to a block that was freed. -/
inductive Ptr where
  | null
  | block (data : Bytes)
  | wild
  deriving DecidableEq

/-- These are the kinds of undefined behavior that the suite can reach. -/
inductive Fault where
  | invalidFree
  | invalidRead
  | heapOverflow
  | callDepth
  deriving DecidableEq

/-- Allocation succeeds, so the capacity changes no content and `size` is the length of the data. -/
structure XdrBufT where
  data : Bytes
  pos : Nat
  deriving DecidableEq

/-- The stack gives each uninitialized local its value; the depth bounds recursive decoders. -/
structure Machine where
  buf : XdrBufT
  stack : Nat → UInt32
  depth : Nat

abbrev Run := EStateM Fault Machine

/-- A declaration without initializer takes the next word of the stack. -/
def uninitialized : Run UInt32 := fun machine =>
  .ok (machine.stack 0) { machine with stack := fun index => machine.stack (index + 1) }

/-- The pointer that is left points to no block. -/
def free : Ptr → Run Ptr
  | .null => pure .null
  | .block _ => pure .wild
  | .wild => throw .invalidFree

/-- A copy reads its bytes from inside one block. -/
def readBlock (source : Ptr) (len : Nat) : Run Bytes :=
  match source with
  | .block data => if len ≤ data.length then pure (data.take len) else throw .invalidRead
  | _ => throw .invalidRead

def strlen (s : Ptr) : Run Nat :=
  match s with
  | .block data => if 0 ∈ data then pure (data.takeWhile (· != 0)).length else throw .invalidRead
  | _ => throw .invalidRead

def append (bytes : Bytes) : Run Unit :=
  modify fun machine => { machine with buf.data := machine.buf.data ++ bytes }

/-- The padding depends on the size of the whole buffer. -/
def padTo4Bytes : Run Unit :=
  modify fun machine =>
    { machine with
      buf.data := machine.buf.data ++ List.replicate (padding machine.buf.data.length) 0 }

def xdrPackUint32 (val : UInt32) : Run Unit := append (be32 val)

def xdrPackInt32 (val : Int32) : Run Unit := xdrPackUint32 val.toUInt32

def xdrPackUint64 (val : UInt64) : Run Unit := append (be64 val)

def xdrPackBool (val : Int32) : Run Unit := xdrPackUint32 (if val ≠ 0 then 1 else 0)

/-- This writer adds no length and no padding. -/
def xdrPackBytes (data : Ptr) (len : Nat) : Run Unit := do
  if len > 0 ∧ data ≠ .null then
    let bytes ← readBlock data len
    append bytes

/-- The cast keeps the low 32 bits of the string length. -/
def xdrPackCstring (s : Ptr) : Run Unit := do
  let len : UInt32 ← if s = .null then pure 0 else UInt32.ofNat <$> strlen s
  xdrPackUint32 len
  xdrPackBytes s len.toNat
  padTo4Bytes

def xdrPackOpaque (data : Ptr) (len : UInt32) : Run Unit := do
  xdrPackUint32 len
  xdrPackBytes data len.toNat
  padTo4Bytes

/-- These are the calls that write. -/
inductive Pack where
  | int32 (val : Int32)
  | uint32 (val : UInt32)
  | uint64 (val : UInt64)
  | bool (val : Int32)
  | cstring (s : Ptr)
  | varOpaque (data : Ptr) (len : UInt32)
  | bytes (data : Ptr) (len : Nat)
  deriving DecidableEq

def xdrPack : Pack → Run Unit
  | .int32 val => xdrPackInt32 val
  | .uint32 val => xdrPackUint32 val
  | .uint64 val => xdrPackUint64 val
  | .bool val => xdrPackBool val
  | .cstring s => xdrPackCstring s
  | .varOpaque data len => xdrPackOpaque data len
  | .bytes data len => xdrPackBytes data len

/-- A read returns no bytes when the space check fails, and leaves the cursor. -/
def fetch (count : Nat) : Run (Option Bytes) := do
  let machine ← get
  if machine.buf.pos + count ≤ machine.buf.data.length then
    set { machine with buf.pos := machine.buf.pos + count }
    return some ((machine.buf.data.drop machine.buf.pos).take count)
  else
    return none

/-- A decoder that returns zero leaves the object that its argument points to. -/
def into {α : Type} (prior : α) (unpack : Run (Option α)) : Run α := do
  let value ← unpack
  return value.getD prior

def xdrUnpackUint32 : Run (Option UInt32) := do
  let bytes ← fetch 4
  return bytes.map leadingWord

def xdrUnpackInt32 : Run (Option Int32) := do
  let u ← xdrUnpackUint32
  return u.map UInt32.toInt32

def xdrUnpackUint64 : Run (Option UInt64) := do
  let bytes ← fetch 8
  return bytes.map leadingHyper

def xdrUnpackBool : Run (Option Int32) := do
  let u ← xdrUnpackUint32
  return u.map fun u => if u ≠ 0 then 1 else 0

/-- The cursor skips the padding without a check. -/
def skipPadding (len : Nat) : Run Unit :=
  modify fun machine => { machine with buf.pos := machine.buf.pos + padding len }

/-- The size of the new block is computed in 32 bits. -/
def xdrUnpackCstring : Run (Option Ptr) := do
  match ← xdrUnpackUint32 with
  | none => return none
  | some len =>
    match ← fetch len.toNat with
    | none => return none
    | some bytes =>
      if (len + 1).toNat < len.toNat + 1 then
        throw .heapOverflow
      skipPadding len.toNat
      return some (.block (bytes ++ [0]))

/-- A length word that is read stays in place even when the data is missing. -/
def xdrUnpackOpaque (data : Ptr) (len : UInt32) : Run (Bool × Ptr × UInt32) := do
  match ← xdrUnpackUint32 with
  | none => return (false, data, len)
  | some len =>
    match ← fetch len.toNat with
    | none => return (false, data, len)
    | some bytes =>
      skipPadding len.toNat
      return (true, .block bytes, len)

end Nfs3Rpc.Csuite
