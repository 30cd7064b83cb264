/-
This file is the C++ byte buffer `XdrBuffer`: a growing end for `pack` and a cursor for `unpack`.
-/

import Nfs3Rpc.Encoding.Words

namespace Nfs3Rpc.Builtin
open Encoding

/-- Each `XdrError` records the numbers that its message prints. -/
inductive XdrError where
  | insufficientData (bytes offset available : Nat)
  | stringTooLong (size : Nat)
  | opaqueTooLong (size : Nat)
  deriving DecidableEq

def XdrError.what : XdrError → String
  | .insufficientData bytes offset available =>
      "XDR read: insufficient data (need " ++ toString bytes ++ " bytes at offset " ++
        toString offset ++ ", have " ++ toString available ++ ")"
  | .stringTooLong size => "XDR string too long: " ++ toString size
  | .opaqueTooLong size => "XDR opaque data too long: " ++ toString size

/-- `reserve` changes no content, so the buffer is its bytes and its cursor. -/
structure XdrBuffer where
  buffer : Bytes
  pos : Nat
  deriving DecidableEq

def XdrBuffer.empty : XdrBuffer := ⟨[], 0⟩

/-- A buffer keeps its bytes and its cursor when a method throws. -/
abbrev Xdr := EStateM XdrError XdrBuffer

def uint32Max : Nat := 2 ^ 32 - 1

def append (bytes : Bytes) : Xdr Unit :=
  modify fun buf => { buf with buffer := buf.buffer ++ bytes }

/-- The padding depends on the size of the whole buffer. -/
def padTo4Bytes : Xdr Unit :=
  modify fun buf => { buf with buffer := buf.buffer ++ List.replicate (padding buf.buffer.length) 0 }

def packUint32 (val : UInt32) : Xdr Unit := append (be32 val)

def packInt32 (val : Int32) : Xdr Unit := append (be32 val.toUInt32)

def packUint64 (val : UInt64) : Xdr Unit := append (be64 val)

def packBool (val : Bool) : Xdr Unit := packUint32 (if val then 1 else 0)

def packString (s : Bytes) : Xdr Unit := do
  if s.length > uint32Max then
    throw (.stringTooLong s.length)
  packUint32 (UInt32.ofNat s.length)
  append s
  padTo4Bytes

/-- The padding of an opaque value depends on its own length. -/
def packOpaque (data : Bytes) : Xdr Unit := do
  if data.length > uint32Max then
    throw (.opaqueTooLong data.length)
  packUint32 (UInt32.ofNat data.length)
  append data
  append (List.replicate (padding data.length) 0)

def ensureReadSpace (bytes : Nat) : Xdr Unit := do
  let buf ← get
  if buf.pos + bytes > buf.buffer.length then
    throw (.insufficientData bytes buf.pos (sizeSub buf.buffer.length buf.pos))

/-- Each read checks the space, copies the bytes, and moves the cursor past them. -/
def fetch (count : Nat) : Xdr Bytes := do
  ensureReadSpace count
  let buf ← get
  set { buf with pos := buf.pos + count }
  return (buf.buffer.drop buf.pos).take count

def unpackUint32 : Xdr UInt32 := do
  let bytes ← fetch 4
  return leadingWord bytes

def unpackInt32 : Xdr Int32 := do
  let bytes ← fetch 4
  return (leadingWord bytes).toInt32

def unpackUint64 : Xdr UInt64 := do
  let bytes ← fetch 8
  return leadingHyper bytes

def unpackBool : Xdr Bool := do
  let intVal ← unpackUint32
  return intVal != 0

/-- The cursor skips the padding without a second check. -/
def skipPadding (len : Nat) : Xdr Unit :=
  modify fun buf => { buf with pos := buf.pos + padding len }

def unpackString : Xdr Bytes := do
  let len ← unpackUint32
  let s ← fetch len.toNat
  skipPadding len.toNat
  return s

def unpackOpaque : Xdr Bytes := do
  let len ← unpackUint32
  let data ← fetch len.toNat
  skipPadding len.toNat
  return data

end Nfs3Rpc.Builtin
