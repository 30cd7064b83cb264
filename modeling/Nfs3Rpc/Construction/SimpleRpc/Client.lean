/-
This file is the C++ part of `rpc_client.cpp`: one call sends a record and takes the next record as its reply.
-/

import Nfs3Rpc.Construction.SimpleRpc.Protocol
import Nfs3Rpc.Construction.SimpleRpc.Transport

namespace Nfs3Rpc.SimpleRpc
open Encoding

structure RpcClient where
  transport : TcpTransport := {}
  xid : UInt32 := 1
  deriving DecidableEq

def RpcClient.isConnected (client : RpcClient) : Bool := client.transport.isConnected

/-- A new connection goes on with the old xid. -/
def RpcClient.connect (client : RpcClient) (opened : Option Socket) : Bool × RpcClient :=
  let (done, transport) := client.transport.connect opened
  (done, { client with transport })

def RpcClient.disconnect (client : RpcClient) : RpcClient := ⟨client.transport.disconnect, 1⟩

def RpcClient.moveConstruct (other : RpcClient) : RpcClient × RpcClient :=
  let (transport, left) := other.transport.moveConstruct
  (⟨transport, other.xid⟩, ⟨left, 1⟩)

def RpcClient.moveAssign (client other : RpcClient) : RpcClient × RpcClient :=
  let (transport, left) := client.transport.moveAssign other.transport
  (⟨transport, other.xid⟩, ⟨left, 1⟩)

/-- A load of `parse_reply` outside the message ends the run. -/
def RpcClient.call (prog vers proc : UInt32) (xdrArgs : Bytes) :
    EStateM OutOfBounds RpcClient (RpcStatus × Bytes) := fun client =>
  if client.isConnected then
    let currentXid := client.xid
    let callMsg := buildCall currentXid prog vers proc xdrArgs
    match client.transport.send callMsg with
    | (false, transport) => .ok (.SEND_ERR, []) ⟨transport, currentXid + 1⟩
    | (true, transport) =>
        match transport.recv with
        | (none, transport) => .ok (.RECV_ERR, []) ⟨transport, currentXid + 1⟩
        | (some replyData, transport) =>
            match parseReply replyData currentXid [] with
            | .ok reply => .ok reply ⟨transport, currentXid + 1⟩
            | .error fault => .error fault ⟨transport, currentXid + 1⟩
  else
    .ok (.CONN_ERR, []) client

end Nfs3Rpc.SimpleRpc
