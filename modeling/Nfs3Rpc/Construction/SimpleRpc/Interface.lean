/-
This file is the rest of `rpc_client.cpp`: `raw_call`, and the C interface that `rpc_client.h` declares.
-/

import Nfs3Rpc.Construction.Csuite.XdrBuf
import Nfs3Rpc.Construction.SimpleRpc.Client

namespace Nfs3Rpc.SimpleRpc
open Encoding

/-- A raw message has its own xid, and its reply is not parsed. -/
def RpcClient.rawCall (rawMsg : Bytes) : EStateM OutOfBounds RpcClient (RpcStatus × Bytes) := fun client =>
  if client.isConnected then
    match client.transport.send rawMsg with
    | (false, transport) => .ok (.SEND_ERR, []) { client with transport }
    | (true, transport) =>
        match transport.recv with
        | (none, transport) => .ok (.RECV_ERR, []) { client with transport }
        | (some replyData, transport) => .ok (.OK, replyData) { client with transport }
  else
    .ok (.CONN_ERR, []) client

def NFSTEST_RPC_OK : Int32 := 0

def NFSTEST_RPC_CONN_ERR : Int32 := -1

def NFSTEST_RPC_PROTO_ERR : Int32 := -8

def mapStatus : RpcStatus → Int32
  | .OK => NFSTEST_RPC_OK
  | .CONN_ERR => NFSTEST_RPC_CONN_ERR
  | .TIMEOUT => -2
  | .PROG_UNAVAIL => -3
  | .PROG_MISMATCH => -4
  | .PROC_UNAVAIL => -5
  | .GARBAGE_ARGS => -6
  | .AUTH_ERROR => -7
  | .PROTO_ERR => NFSTEST_RPC_PROTO_ERR
  | .SEND_ERR => -9
  | .RECV_ERR => -10

/-- This is what the caller finds in `*resp_data` and `*resp_len`. -/
structure Response where
  data : Csuite.Ptr := .null
  len : Nat := 0
  deriving DecidableEq

/-- The caller gets a block of its own; `malloc` may find none. -/
def respond (allocated : Bool) (result : RpcStatus × Bytes) : Int32 × Response :=
  let (status, resp) := result
  if status ≠ .OK then
    (mapStatus status, { data := .null, len := 0 })
  else if resp.isEmpty then
    (NFSTEST_RPC_OK, { data := .null, len := resp.length })
  else if allocated then
    (NFSTEST_RPC_OK, { data := .block resp, len := resp.length })
  else
    (NFSTEST_RPC_CONN_ERR, { data := .null, len := 0 })

/-- The vector takes its bytes from inside one block. -/
def copyArgs (data : Csuite.Ptr) (len : Nat) : Except OutOfBounds Bytes :=
  match data with
  | .block bytes => copyRange bytes 0 len
  | _ => if len = 0 then .ok [] else .error ⟨0, len⟩

/-- A null handle is absent, and so are the results when one of their places is null. -/
abbrev Interface := EStateM OutOfBounds (Option RpcClient)

/-- Both functions check their pointers, copy the bytes, run the method, and copy what it returns. -/
def interfaceCall (method : Bytes → EStateM OutOfBounds RpcClient (RpcStatus × Bytes))
    (data : Csuite.Ptr) (len : Nat)
    (resp : Option Response) (allocated : Bool) : Interface (Int32 × Option Response) := fun handle =>
  match handle with
  | none => .ok (NFSTEST_RPC_CONN_ERR, resp) none
  | some client =>
      if resp.isNone ∨ (len > 0 ∧ data = .null) then
        .ok (NFSTEST_RPC_CONN_ERR, resp) (some client)
      else
        match copyArgs data len with
        | .error fault => .error fault (some client)
        | .ok args =>
            match method args client with
            | .error fault client => .error fault (some client)
            | .ok result client =>
                let (status, response) := respond allocated result
                .ok (status, some response) (some client)

def nfstestRpcCall (prog vers proc : UInt32) : Csuite.Ptr → Nat → Option Response → Bool →
    Interface (Int32 × Option Response) :=
  interfaceCall (RpcClient.call prog vers proc)

def nfstestRpcRawCall : Csuite.Ptr → Nat → Option Response → Bool → Interface (Int32 × Option Response) :=
  interfaceCall RpcClient.rawCall

/-- A handle that does not connect is deleted again. -/
def nfstestRpcConnect (opened : Option Socket) : Option RpcClient :=
  let (done, client) := RpcClient.connect {} opened
  if done then some client else none

end Nfs3Rpc.SimpleRpc
