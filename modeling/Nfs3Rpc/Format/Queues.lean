/-
This file states what a buffer of either suite is for: a queue of typed values, packed at one end and
unpacked at the other.
-/

import Nfs3Rpc.Construction.Builtin.XdrBuffer
import Nfs3Rpc.Encoding.Queues
import Nfs3Rpc.Format.Csuite.Wire

namespace Nfs3Rpc
open Encoding

/-- Both suites have a pair of functions for each of these types. -/
inductive Primitive where
  | int32
  | uint32
  | uint64
  | bool
  | string
  | varOpaque
  deriving DecidableEq

inductive Item where
  | int32 (val : Int32)
  | uint32 (val : UInt32)
  | uint64 (val : UInt64)
  | bool (val : Bool)
  | string (s : Bytes)
  | varOpaque (data : Bytes)
  deriving DecidableEq

def Item.kind : Item → Primitive
  | .int32 _ => .int32
  | .uint32 _ => .uint32
  | .uint64 _ => .uint64
  | .bool _ => .bool
  | .string _ => .string
  | .varOpaque _ => .varOpaque

def Item.wire : Item → Bytes
  | .int32 val => be32 val.toUInt32
  | .uint32 val => be32 val
  | .uint64 val => be64 val
  | .bool val => beBool val
  | .string s => opaqueBytes s
  | .varOpaque data => opaqueBytes data

/-- A length word counts every byte of the value. -/
def Item.Fits : Item → Prop
  | .string s => Short s
  | .varOpaque data => Short data
  | _ => True

/-- A C string ends at its first zero byte. -/
def Item.NulFree : Item → Prop
  | .string s => 0 ∉ s
  | _ => True

/-- The unpacked block of a C string needs one byte more than the string. -/
def Item.HasRoom : Item → Prop
  | .string s => Csuite.Terminates s
  | _ => True

namespace Builtin

def packItem : Item → Xdr Unit
  | .int32 val => packInt32 val
  | .uint32 val => packUint32 val
  | .uint64 val => packUint64 val
  | .bool val => packBool val
  | .string s => packString s
  | .varOpaque data => packOpaque data

def unpackItem : Primitive → Xdr Item
  | .int32 => return .int32 (← unpackInt32)
  | .uint32 => return .uint32 (← unpackUint32)
  | .uint64 => return .uint64 (← unpackUint64)
  | .bool => return .bool (← unpackBool)
  | .string => return .string (← unpackString)
  | .varOpaque => return .varOpaque (← unpackOpaque)

/-- The operations on an empty buffer return these items, and the cursor is at the end when no item is left. -/
def ServesQueue (operations : List (Operation Item Primitive)) (popped left : List Item) : Prop :=
  ∃ next, serve packItem unpackItem operations XdrBuffer.empty = .ok popped next ∧
    (left = [] → next.pos = next.buffer.length)

end Builtin

namespace Csuite

def packItem : Item → Run Unit
  | .int32 val => xdrPackInt32 val
  | .uint32 val => xdrPackUint32 val
  | .uint64 val => xdrPackUint64 val
  | .bool val => xdrPackBool (if val then 1 else 0)
  | .string s => xdrPackCstring (.block (s ++ [0]))
  | .varOpaque data => xdrPackOpaque (.block data) (UInt32.ofNat data.length)

/-- The caller passes the address of a null pointer. Each function reports whether it succeeded. -/
def unpackItem : Primitive → Run (Option Item)
  | .int32 => return (← xdrUnpackInt32).map .int32
  | .uint32 => return (← xdrUnpackUint32).map .uint32
  | .uint64 => return (← xdrUnpackUint64).map .uint64
  | .bool => return (← xdrUnpackBool).map fun val => .bool (val ≠ 0)
  | .string => return (← xdrUnpackCstring).map fun s => .string s.cstring
  | .varOpaque => do
      let (success, data, len) ← xdrUnpackOpaque .null 0
      return if success then some (.varOpaque (data.bytes len)) else none

def ServesQueue (stack : Nat → UInt32) (depth : Nat) (operations : List (Operation Item Primitive))
    (popped left : List Item) : Prop :=
  ∃ next, serve packItem unpackItem operations ⟨⟨[], 0⟩, stack, depth⟩ = .ok (popped.map some) next ∧
    (left = [] → next.buf.pos = next.buf.data.length)

end Csuite

end Nfs3Rpc
