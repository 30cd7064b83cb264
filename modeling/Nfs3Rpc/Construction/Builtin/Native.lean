/-
This file is the writing half of `xdr_codec.cpp` with the numbers in the memory of the host.
-/

import Nfs3Rpc.Construction.Builtin.XdrBuffer
import Nfs3Rpc.Construction.Compiler

namespace Nfs3Rpc.Builtin.Native
open Encoding

section
variable (compiler : Compiler)

def swapBytes32 (val : UInt32) : UInt32 :=
  if compiler.gnuc || compiler.clang then builtinBswap32 val else maskedSwap32 val

def swapBytes64 (val : UInt64) : UInt64 :=
  if compiler.gnuc || compiler.clang then builtinBswap64 val else maskedSwap64 val

/-- A host without the macro counts as little-endian, on Windows as elsewhere. -/
def nativeEndian : Endianness :=
  match compiler.byteOrder with
  | some .big => .big
  | some .little => .little
  | none => .little

def hostToNetwork32 (val : UInt32) : UInt32 :=
  if nativeEndian compiler = .big then val else swapBytes32 compiler val

def hostToNetwork64 (val : UInt64) : UInt64 :=
  if nativeEndian compiler = .big then val else swapBytes64 compiler val

/-- The buffer takes the bytes that the host stores for the number. -/
def packUint32 (val : UInt32) : Xdr Unit := append (compiler.host.memory32 (hostToNetwork32 compiler val))

def packInt32 (val : Int32) : Xdr Unit :=
  append (compiler.host.memory32 (hostToNetwork32 compiler val.toUInt32))

def packUint64 (val : UInt64) : Xdr Unit := append (compiler.host.memory64 (hostToNetwork64 compiler val))

def packBool (val : Bool) : Xdr Unit := packUint32 compiler (if val then 1 else 0)

def packString (s : Bytes) : Xdr Unit := do
  if s.length > uint32Max then
    throw (.stringTooLong s.length)
  packUint32 compiler (UInt32.ofNat s.length)
  append s
  padTo4Bytes

def packOpaque (data : Bytes) : Xdr Unit := do
  if data.length > uint32Max then
    throw (.opaqueTooLong data.length)
  packUint32 compiler (UInt32.ofNat data.length)
  append data
  append (List.replicate (padding data.length) 0)

end

end Nfs3Rpc.Builtin.Native
