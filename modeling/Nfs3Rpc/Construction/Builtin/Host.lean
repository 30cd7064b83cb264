/-
This file is the reading half of `xdr_codec.cpp` on a host whose `size_t` has a given number of bits.
-/

import Nfs3Rpc.Construction.Builtin.XdrBuffer
import Nfs3Rpc.Encoding.Hosts

namespace Nfs3Rpc.Builtin.Host
open Encoding

/-- A method throws, or it copies bytes from outside of the vector. -/
inductive HostFault where
  | thrown (error : XdrError)
  | outOfBounds
  deriving DecidableEq

variable {bits : Nat}

abbrev Decode (bits : Nat) := EStateM HostFault (Reader bits)

/-- The sum is a `size_t`, and so is the difference in the message. -/
def ensureReadSpace (bytes : Nat) : Decode bits Unit := do
  let buf ← get
  if sizeSum bits buf.pos bytes > buf.size then
    throw (.thrown (.insufficientData bytes buf.pos (sizeSum bits buf.size (2 ^ bits - buf.pos))))

def fetch (count : Nat) : Decode bits Bytes := do
  ensureReadSpace count
  let bytes ← copyBytes .outOfBounds count
  advance count
  return bytes

def unpackUint32 : Decode bits UInt32 := do
  let bytes ← fetch 4
  return leadingWord bytes

def unpackInt32 : Decode bits Int32 := do
  let bytes ← fetch 4
  return (leadingWord bytes).toInt32

def unpackUint64 : Decode bits UInt64 := do
  let bytes ← fetch 8
  return leadingHyper bytes

def unpackBool : Decode bits Bool := do
  let intVal ← unpackUint32
  return intVal != 0

/-- A string and a vector are read alike. -/
def unpackBytes : Decode bits Bytes := do
  let len ← unpackUint32
  let bytes ← fetch len.toNat
  advance (padding len.toNat)
  return bytes

def unpackString : Decode bits Bytes := unpackBytes

def unpackOpaque : Decode bits Bytes := unpackBytes

/-- The calls that read from a buffer, and the one that starts again at its first byte. -/
inductive Call where
  | int32 | uint32 | uint64 | bool | string | vector | resetRead
  deriving DecidableEq

def Call.run : Call → Decode bits Unit
  | .int32 => do let _ ← unpackInt32
  | .uint32 => do let _ ← unpackUint32
  | .uint64 => do let _ ← unpackUint64
  | .bool => do let _ ← unpackBool
  | .string => do let _ ← unpackString
  | .vector => do let _ ← unpackOpaque
  | .resetRead => modify fun buf => { buf with pos := 0 }

/-- A caller goes on after a call that has thrown. -/
def runCalls (calls : List Call) (buf : Reader bits) : Reader bits :=
  calls.foldl (fun buf call => stateAfter call.run buf) buf

end Nfs3Rpc.Builtin.Host
