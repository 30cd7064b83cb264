/-
This file states the messages of RFC 5531: the replies that a peer may send, and the AUTH_SYS
credential that it finds in a call.
-/

import Nfs3Rpc.Format.Exchange

namespace Nfs3Rpc.Peer
open Encoding SimpleRpc

/-- An accepted call ends in one of these ways. -/
inductive AcceptBody where
  | SUCCESS (results : Bytes)
  | PROG_UNAVAIL
  | PROG_MISMATCH (low high : UInt32)
  | PROC_UNAVAIL
  | GARBAGE_ARGS
  | SYSTEM_ERR
  deriving DecidableEq

def AcceptBody.wire : AcceptBody → Bytes
  | .SUCCESS results => be32 0 ++ results
  | .PROG_UNAVAIL => be32 1
  | .PROG_MISMATCH low high => [be32 2, be32 low, be32 high].flatten
  | .PROC_UNAVAIL => be32 3
  | .GARBAGE_ARGS => be32 4
  | .SYSTEM_ERR => be32 5

/-- The client has no status of its own for a system error. -/
def AcceptBody.status : AcceptBody → RpcStatus
  | .SUCCESS _ => .OK
  | .PROG_UNAVAIL => .PROG_UNAVAIL
  | .PROG_MISMATCH _ _ => .PROG_MISMATCH
  | .PROC_UNAVAIL => .PROC_UNAVAIL
  | .GARBAGE_ARGS => .GARBAGE_ARGS
  | .SYSTEM_ERR => .PROTO_ERR

inductive ReplyBody where
  | accepted (verf : OpaqueAuth) (body : AcceptBody)
  | rpcMismatch (low high : UInt32)
  | authError (stat : UInt32)
  deriving DecidableEq

def ReplyBody.wire : ReplyBody → Bytes
  | .accepted verf body => [be32 0, be32 verf.flavor, opaqueBytes verf.body, body.wire].flatten
  | .rpcMismatch low high => [be32 1, be32 0, be32 low, be32 high].flatten
  | .authError stat => [be32 1, be32 1, be32 stat].flatten

/-- A reply bears the xid of the call that it answers. -/
structure Reply where
  xid : UInt32
  body : ReplyBody
  deriving DecidableEq

def Reply.wire (reply : Reply) : Bytes := [be32 reply.xid, be32 1, reply.body.wire].flatten

/-- The client takes the results of a success, and leaves its body vector alone otherwise. -/
def Reply.outcome (reply : Reply) (outBody : Bytes) : RpcStatus × Bytes :=
  match reply.body with
  | .accepted _ (.SUCCESS results) => (.OK, results)
  | .accepted _ body => (body.status, outBody)
  | .rpcMismatch _ _ => (.PROG_MISMATCH, outBody)
  | .authError _ => (.AUTH_ERROR, outBody)

/-- The rounded length of the verifier fits a word, and the client knows how to skip it. -/
def Reply.Plain (reply : Reply) : Prop :=
  ∀ verf body, reply.body = .accepted verf body → verf.flavor ≠ AUTH_SYS ∧ verf.body.length ≤ 2 ^ 32 - 4

/-- RFC 5531 allows a verifier of 400 bytes; every length up to this one keeps its value when the client
rounds it. -/
def Reply.Sized (reply : Reply) : Prop :=
  ∀ verf body, reply.body = .accepted verf body → verf.body.length ≤ 2 ^ 32 - 4

/-- The client reads a second length after the status of such a reply. -/
def Reply.SysSuccess (reply : Reply) : Prop :=
  ∃ verf results, reply.body = .accepted verf (.SUCCESS results) ∧ verf.flavor = AUTH_SYS

/-- A credential of the flavor AUTH_SYS has these parts and nothing after them. -/
structure AuthSysParms where
  stamp : UInt32
  machinename : Bytes
  uid : UInt32
  gid : UInt32
  gids : List UInt32
  deriving DecidableEq

def uints : Nat → Read (List UInt32)
  | 0 => return []
  | count + 1 => do
      let value ← uint
      let later ← uints count
      return value :: later

def finished : Read Unit := do
  let input ← get
  if input ≠ [] then
    throw ()

def authSysFields : Read AuthSysParms := do
  let stamp ← uint
  let machinename ← varOpaque
  let uid ← uint
  let gid ← uint
  let count ← uint
  let gids ← uints count.toNat
  return { stamp, machinename, uid, gid, gids }

def authSysParms : Read AuthSysParms := do
  let parms ← authSysFields
  finished
  return parms

end Nfs3Rpc.Peer
