/-
This file is what the sources ask their compiler about: the byte order of the host and the family of the compiler.
-/

import Nfs3Rpc.Encoding.Endianness

namespace Nfs3Rpc
open Encoding

/-- The fields after the first are predefined macros: `__BYTE_ORDER__`, `__GNUC__`, and `__clang__`. -/
structure Compiler where
  host : Endianness
  byteOrder : Option Endianness
  gnuc : Bool
  clang : Bool
  truthful : ∀ order ∈ byteOrder, order = host

/-- A compiler for a big-endian host has to say so. -/
def Compiler.Tells (compiler : Compiler) : Prop := compiler.host = .big → compiler.byteOrder.isSome

instance : DecidablePred Compiler.Tells := fun compiler =>
  inferInstanceAs (Decidable (compiler.host = .big → compiler.byteOrder.isSome))

/-- The macro of such a compiler tells whether the host is big-endian. -/
theorem Compiler.Tells.big_iff {compiler : Compiler} (tells : compiler.Tells) :
    compiler.byteOrder = some .big ↔ compiler.host = .big := by
  constructor
  · intro told
    exact (compiler.truthful .big told).symm
  · intro host
    obtain ⟨order, told⟩ := Option.isSome_iff_exists.mp (tells host)
    rw [told, compiler.truthful order told, host]

end Nfs3Rpc
