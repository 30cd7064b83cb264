/-
This file states which calls of each suite pack which items, on the host that a compiler builds for.
-/

import Nfs3Rpc.Construction.Builtin.Native
import Nfs3Rpc.Construction.Csuite.Native
import Nfs3Rpc.Encoding.Triples
import Nfs3Rpc.Format.Queues

namespace Nfs3Rpc
open Encoding

namespace Builtin.Native

def packItem (compiler : Compiler) : Item → Xdr Unit
  | .int32 val => packInt32 compiler val
  | .uint32 val => packUint32 compiler val
  | .uint64 val => packUint64 compiler val
  | .bool val => packBool compiler val
  | .string s => packString compiler s
  | .varOpaque data => packOpaque compiler data

/-- A caller may go on after a call that has thrown. -/
def packItems (compiler : Compiler) (items : List Item) (buf : XdrBuffer) : XdrBuffer :=
  items.foldl (fun buf item => stateAfter (packItem compiler item) buf) buf

end Builtin.Native

namespace Csuite

/-- The arguments of a call are in order: a string ends, and an opaque value has its bytes. -/
inductive Pack.Carries : Pack → Item → Prop
  | int32 (val : Int32) : Carries (.int32 val) (.int32 val)
  | uint32 (val : UInt32) : Carries (.uint32 val) (.uint32 val)
  | uint64 (val : UInt64) : Carries (.uint64 val) (.uint64 val)
  | bool (val : Int32) : Carries (.bool val) (.bool (val ≠ 0))
  | cstring (s : Ptr) (isString : s.IsString) : Carries (.cstring s) (.string s.cstring)
  | varOpaque (data : Ptr) (len : UInt32) (holds : data.Holds len) :
      Carries (.varOpaque data len) (.varOpaque (data.bytes len))

/-- The bytes that travel without a length fill whole words. -/
def Pack.Whole : Pack → Prop
  | .bytes _ len => 4 ∣ len
  | _ => True

instance : DecidablePred Pack.Whole
  | .bytes _ len => inferInstanceAs (Decidable (4 ∣ len))
  | .int32 _ | .uint32 _ | .uint64 _ | .bool _ | .cstring _ | .varOpaque _ _ => .isTrue trivial

end Csuite

end Nfs3Rpc
