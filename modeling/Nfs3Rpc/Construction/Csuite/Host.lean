/-
This file is the reading half of `xdr_codec.c`, with the two verifiers of `nfs3_xdr.c`, on a host whose `size_t` has
a given number of bits.
-/

import Nfs3Rpc.Construction.Csuite.XdrBuf
import Nfs3Rpc.Encoding.Hosts

namespace Nfs3Rpc.Csuite.Host
open Encoding

variable {bits : Nat}

abbrev Decode (bits : Nat) := EStateM Fault (Reader bits)

/-- The sum is a `size_t`. -/
def ensureReadSpace (bytes : Nat) : Decode bits Bool := do
  let buf ← get
  return decide (sizeSum bits buf.pos bytes ≤ buf.size)

def fetch (count : Nat) : Decode bits (Option Bytes) := do
  if ← ensureReadSpace count then
    let bytes ← copyBytes .invalidRead count
    advance count
    return some bytes
  else
    return none

def xdrUnpackUint32 : Decode bits (Option UInt32) := do
  let bytes ← fetch 4
  return bytes.map leadingWord

def xdrUnpackInt32 : Decode bits (Option Int32) := do
  let u ← xdrUnpackUint32
  return u.map UInt32.toInt32

def xdrUnpackUint64 : Decode bits (Option UInt64) := do
  let bytes ← fetch 8
  return bytes.map leadingHyper

def xdrUnpackBool : Decode bits (Option Int32) := do
  let u ← xdrUnpackUint32
  return u.map fun u => if u ≠ 0 then 1 else 0

/-- The size of the new block is computed in 32 bits, and the copy goes past the end of a block that is too small. -/
def xdrUnpackCstring : Decode bits (Option Bytes) := do
  match ← xdrUnpackUint32 with
  | none => return none
  | some len =>
    if ← ensureReadSpace len.toNat then
      let bytes ← copyBytes .invalidRead len.toNat
      if (len + 1).toNat < len.toNat + 1 then
        throw .heapOverflow
      advance len.toNat
      advance (padding len.toNat)
      return some (bytes ++ [0])
    else
      return none

def xdrUnpackOpaque : Decode bits (Option Bytes) := do
  match ← xdrUnpackUint32 with
  | none => return none
  | some len =>
    match ← fetch len.toNat with
    | none => return none
    | some bytes =>
      advance (padding len.toNat)
      return some bytes

/-- The eight bytes are zero when they are missing. -/
def xdrUnpackVerifier : Decode bits Bytes := do
  let bytes ← fetch 8
  return bytes.getD (List.replicate 8 0)

def xdrUnpackWriteverf3 : Decode bits Bytes := xdrUnpackVerifier

def xdrUnpackCreateverf3 : Decode bits Bytes := xdrUnpackVerifier

inductive Call where
  | int32 | uint32 | uint64 | bool | cstring | varOpaque | writeverf3 | createverf3 | resetRead
  deriving DecidableEq

def Call.run : Call → Decode bits Unit
  | .int32 => do let _ ← xdrUnpackInt32
  | .uint32 => do let _ ← xdrUnpackUint32
  | .uint64 => do let _ ← xdrUnpackUint64
  | .bool => do let _ ← xdrUnpackBool
  | .cstring => do let _ ← xdrUnpackCstring
  | .varOpaque => do let _ ← xdrUnpackOpaque
  | .writeverf3 => do let _ ← xdrUnpackWriteverf3
  | .createverf3 => do let _ ← xdrUnpackCreateverf3
  | .resetRead => modify fun buf => { buf with pos := 0 }

/-- A caller goes on whatever a call has returned. -/
def runCalls (calls : List Call) (buf : Reader bits) : Reader bits :=
  calls.foldl (fun buf call => stateAfter call.run buf) buf

end Nfs3Rpc.Csuite.Host
