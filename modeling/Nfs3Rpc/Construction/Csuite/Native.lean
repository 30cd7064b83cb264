/-
This file is the writing half of `xdr_codec.c` with the numbers in the memory of the host.
-/

import Nfs3Rpc.Construction.Csuite.XdrBuf
import Nfs3Rpc.Construction.Compiler

namespace Nfs3Rpc.Csuite.Native
open Encoding

section
variable (compiler : Compiler)

/-- This suite asks for `__GNUC__` only. -/
def swapBytes32 (val : UInt32) : UInt32 := if compiler.gnuc then builtinBswap32 val else maskedSwap32 val

def swapBytes64 (val : UInt64) : UInt64 := if compiler.gnuc then builtinBswap64 val else maskedSwap64 val

def nativeBigEndian : Bool := compiler.byteOrder = some .big

def hostToNetwork32 (val : UInt32) : UInt32 := if nativeBigEndian compiler then val else swapBytes32 compiler val

def hostToNetwork64 (val : UInt64) : UInt64 := if nativeBigEndian compiler then val else swapBytes64 compiler val

/-- The copy takes the bytes that the host stores for the number. -/
def xdrPackUint32 (val : UInt32) : Run Unit := append (compiler.host.memory32 (hostToNetwork32 compiler val))

def xdrPackInt32 (val : Int32) : Run Unit := xdrPackUint32 compiler val.toUInt32

def xdrPackUint64 (val : UInt64) : Run Unit := append (compiler.host.memory64 (hostToNetwork64 compiler val))

def xdrPackBool (val : Int32) : Run Unit := xdrPackUint32 compiler (if val ≠ 0 then 1 else 0)

/-- The cast keeps the low 32 bits of the string length. -/
def xdrPackCstring (s : Ptr) : Run Unit := do
  let len : UInt32 ← if s = .null then pure 0 else UInt32.ofNat <$> strlen s
  xdrPackUint32 compiler len
  xdrPackBytes s len.toNat
  padTo4Bytes

def xdrPackOpaque (data : Ptr) (len : UInt32) : Run Unit := do
  xdrPackUint32 compiler len
  xdrPackBytes data len.toNat
  padTo4Bytes

end

def xdrPack (compiler : Compiler) : Pack → Run Unit
  | .int32 val => xdrPackInt32 compiler val
  | .uint32 val => xdrPackUint32 compiler val
  | .uint64 val => xdrPackUint64 compiler val
  | .bool val => xdrPackBool compiler val
  | .cstring s => xdrPackCstring compiler s
  | .varOpaque data len => xdrPackOpaque compiler data len
  | .bytes data len => xdrPackBytes data len

def runPacks (compiler : Compiler) : List Pack → Run Unit
  | [] => pure ()
  | pack :: packs => do
    xdrPack compiler pack
    runPacks compiler packs

end Nfs3Rpc.Csuite.Native
