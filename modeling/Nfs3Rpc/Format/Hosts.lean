/-
This file states what a caller of the decoders sees: the answers of the calls, on a host and without one.
-/

import Nfs3Rpc.Construction.Builtin.Host
import Nfs3Rpc.Construction.Csuite.Attributes
import Nfs3Rpc.Construction.Csuite.Host
import Nfs3Rpc.Encoding.Mirrors

namespace Nfs3Rpc
open Encoding

namespace Builtin.Host

inductive Answer where
  | int32 (value : Int32)
  | uint32 (value : UInt32)
  | uint64 (value : UInt64)
  | bool (value : Bool)
  | bytes (value : Bytes)
  | rewound
  deriving DecidableEq

def Call.answer {bits : Nat} : Call → Decode bits Answer
  | .int32 => do return .int32 (← unpackInt32)
  | .uint32 => do return .uint32 (← unpackUint32)
  | .uint64 => do return .uint64 (← unpackUint64)
  | .bool => do return .bool (← unpackBool)
  | .string => do return .bytes (← unpackString)
  | .vector => do return .bytes (← unpackOpaque)
  | .resetRead => do
    modify fun buf => { buf with pos := 0 }
    return .rewound

/-- The same call on the buffer whose sums do not wrap. -/
def Call.plain : Call → Xdr Answer
  | .int32 => do return .int32 (← Builtin.unpackInt32)
  | .uint32 => do return .uint32 (← Builtin.unpackUint32)
  | .uint64 => do return .uint64 (← Builtin.unpackUint64)
  | .bool => do return .bool (← Builtin.unpackBool)
  | .string => do return .bytes (← Builtin.unpackString)
  | .vector => do return .bytes (← Builtin.unpackOpaque)
  | .resetRead => do
    modify fun buf => { buf with pos := 0 }
    return .rewound

/-- The caller goes on after a call that has thrown, and keeps what it has caught. -/
def answers {bits : Nat} (calls : List Call) : Decode bits (List (Except HostFault Answer)) :=
  inOrder (fun call => caught call.answer) calls

def plainAnswers (calls : List Call) : Xdr (List (Except XdrError Answer)) :=
  inOrder (fun call => caught call.plain) calls

end Builtin.Host

namespace Csuite.Host

/-- Each call returns a value or fails; the verifiers are zero when they fail. -/
inductive Answer where
  | int32 (value : Option Int32)
  | uint32 (value : Option UInt32)
  | uint64 (value : Option UInt64)
  | pointer (value : Option Ptr)
  | verifier (value : Bytes)
  | rewound
  deriving DecidableEq

def Call.answer {bits : Nat} : Call → Decode bits Answer
  | .int32 => do return .int32 (← xdrUnpackInt32)
  | .uint32 => do return .uint32 (← xdrUnpackUint32)
  | .uint64 => do return .uint64 (← xdrUnpackUint64)
  | .bool => do return .int32 (← xdrUnpackBool)
  | .cstring => do return .pointer ((← xdrUnpackCstring).map .block)
  | .varOpaque => do return .pointer ((← xdrUnpackOpaque).map .block)
  | .writeverf3 => do return .verifier (← xdrUnpackWriteverf3)
  | .createverf3 => do return .verifier (← xdrUnpackCreateverf3)
  | .resetRead => do
    modify fun buf => { buf with pos := 0 }
    return .rewound

/-- The same call on the buffer whose sums do not wrap. -/
def Call.plain : Call → Run Answer
  | .int32 => do return .int32 (← Csuite.xdrUnpackInt32)
  | .uint32 => do return .uint32 (← Csuite.xdrUnpackUint32)
  | .uint64 => do return .uint64 (← Csuite.xdrUnpackUint64)
  | .bool => do return .int32 (← Csuite.xdrUnpackBool)
  | .cstring => do return .pointer (← Csuite.xdrUnpackCstring)
  | .varOpaque => do
    let (found, data, _) ← Csuite.xdrUnpackOpaque .null 0
    return .pointer (if found then some data else none)
  | .writeverf3 => do return .verifier (← Csuite.xdrUnpackWriteverf3).data
  | .createverf3 => do return .verifier (← Csuite.xdrUnpackCreateverf3).data
  | .resetRead => do
    modify fun machine => { machine with buf.pos := 0 }
    return .rewound

def answers {bits : Nat} (calls : List Call) : Decode bits (List Answer) := inOrder Call.answer calls

def plainAnswers (calls : List Call) : Run (List Answer) := inOrder Call.plain calls

end Csuite.Host

end Nfs3Rpc
