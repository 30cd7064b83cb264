/-
This file is the built-in branch of `RPCEndpoint::call`.
-/

import Nfs3Rpc.Construction.Builtin.Procedures
import Nfs3Rpc.Construction.SimpleRpc.Client

namespace Nfs3Rpc
open Encoding Builtin SimpleRpc

inductive RpcError where
  | SUCCESS | CONNECTION_FAILED | TIMEOUT | RPC_MISMATCH | PROG_UNAVAIL | PROG_MISMATCH | PROC_UNAVAIL
  | AUTH_ERROR | DECODE_ERROR | ENCODE_ERROR | UNKNOWN
  deriving DecidableEq

/-- A call does not return when its arguments do not encode or the reply parser leaves the message. -/
inductive CallFault where
  | uncaught (error : XdrError)
  | outOfBounds (fault : OutOfBounds)
  deriving DecidableEq

/-- A null `impl_` is an endpoint that was moved from. -/
structure RPCEndpoint where
  impl : Option RpcClient := none
  deriving DecidableEq

/-- Default-initialized locals start with these bytes of memory. -/
structure Uninitialized where
  status : Nfsstat3
  verf : Verifier
  deriving DecidableEq

def RPCEndpoint.isConnected (endpoint : RPCEndpoint) : Bool := endpoint.impl.any RpcClient.isConnected

/-- Every status other than OK becomes an error. -/
def statusError : RpcStatus → Option RpcError
  | .OK => none
  | .TIMEOUT => some .TIMEOUT
  | .PROG_UNAVAIL => some .PROG_UNAVAIL
  | .PROG_MISMATCH => some .PROG_MISMATCH
  | .PROC_UNAVAIL => some .PROC_UNAVAIL
  | .AUTH_ERROR => some .AUTH_ERROR
  | _ => some .CONNECTION_FAILED

/-- The decoder runs inside `try`, so an XDR error becomes a value. -/
def decodeResponse (memory : Uninitialized) (proc : ProcNum) (respBody : Bytes) :
    Except RpcError (Res proc.Resok) :=
  if respBody.isEmpty then
    .error .DECODE_ERROR
  else
    match proc.deserializeRes memory.verf { status := memory.status } ⟨respBody, 0⟩ with
    | .ok response _ => .ok response
    | .error _ _ => .error .DECODE_ERROR

def RPCEndpoint.call (memory : Uninitialized) (proc : ProcNum) (args : proc.Args) :
    EStateM CallFault RPCEndpoint (Except RpcError (Res proc.Resok)) := fun endpoint =>
  match endpoint.impl with
  | none => .ok (.error .CONNECTION_FAILED) endpoint
  | some client =>
      if client.isConnected then
        match proc.serializeArgs args XdrBuffer.empty with
        | .error error _ => .error (.uncaught error) endpoint
        | .ok _ reqBuf =>
            match RpcClient.call NFS_PROGRAM NFS_V3 proc.code reqBuf.buffer client with
            | .error fault client => .error (.outOfBounds fault) ⟨some client⟩
            | .ok (status, respBody) client =>
                match statusError status with
                | some error => .ok (.error error) ⟨some client⟩
                | none => .ok (decodeResponse memory proc respBody) ⟨some client⟩
      else
        .ok (.error .CONNECTION_FAILED) endpoint

end Nfs3Rpc
