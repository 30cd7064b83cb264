/-
This file states a connection without its system calls: the messages that went out, and the replies that are still
to come. Over it stands what a session means to its callers, in the terms of RFC 5531.
-/

import Nfs3Rpc.Construction.SimpleRpc.Interface
import Nfs3Rpc.Encoding.Mirrors
import Nfs3Rpc.Format.Messages

namespace Nfs3Rpc.SimpleRpc
open Encoding

structure Session where
  xid : UInt32
  sent : List Bytes
  replies : List Bytes

/-- One message goes out, and the next reply is taken unless there is none. -/
def Session.after (session : Session) (message : Bytes) : Session :=
  { session with sent := session.sent ++ [message], replies := session.replies.tail }

/-- These are the two kinds of exchange of a client. -/
inductive Transfer where
  | call (prog vers proc : UInt32) (xdrArgs : Bytes)
  | raw (rawMsg : Bytes)

/-- The bytes that the caller passes. -/
def Transfer.bytes : Transfer → Bytes
  | .call _ _ _ xdrArgs => xdrArgs
  | .raw rawMsg => rawMsg

/-- The message of a call has the next xid of its client. -/
def Transfer.message (xid : UInt32) : Transfer → Bytes
  | .call prog vers proc xdrArgs => buildCall xid prog vers proc xdrArgs
  | .raw rawMsg => rawMsg

def Transfer.nextXid (xid : UInt32) : Transfer → UInt32
  | .call .. => xid + 1
  | .raw _ => xid

/-- The client parses a reply to a call, and takes a raw reply as it is. -/
def Transfer.result (xid : UInt32) (reply : Bytes) : Transfer → Except OutOfBounds (RpcStatus × Bytes)
  | .call .. => parseReply reply xid []
  | .raw _ => .ok (.OK, reply)

/-- What a caller gets depends on the reply only, and on the xid that it answers. -/
def Transfer.outcome {σ : Type} (transfer : Transfer) (xid : UInt32) (reply : Option Bytes) (next : σ) :
    EStateM.Result OutOfBounds σ (RpcStatus × Bytes) :=
  match reply with
  | none => .ok (.RECV_ERR, []) next
  | some reply =>
      match transfer.result xid reply with
      | .ok result => .ok result next
      | .error fault => .error fault next

/-- The client reads the reply in its own way, but it gets whole messages and no bytes. -/
def Transfer.plain (transfer : Transfer) : EStateM OutOfBounds Session (RpcStatus × Bytes) := fun session =>
  transfer.outcome session.xid session.replies.head?
    { session.after (transfer.message session.xid) with xid := transfer.nextXid session.xid }

/-- A caller of the C interface passes a block that starts with the bytes, or no block for no bytes. -/
structure ApiCall where
  transfer : Transfer
  data : Csuite.Ptr
  allocated : Bool

def ApiCall.Valid (call : ApiCall) : Prop :=
  (call.data = .null ∧ call.transfer.bytes = []) ∨ ∃ behind, call.data = .block (call.transfer.bytes ++ behind)

/-- The message is shorter than the largest record. -/
def Transfer.Fits (transfer : Transfer) : Prop := ∀ xid, (transfer.message xid).length < 2 ^ 31

def ApiCall.run (call : ApiCall) : Interface (Int32 × Option Response) :=
  match call.transfer with
  | .call prog vers proc xdrArgs => nfstestRpcCall prog vers proc call.data xdrArgs.length (some {}) call.allocated
  | .raw rawMsg => nfstestRpcRawCall call.data rawMsg.length (some {}) call.allocated

/-- The interface hands on what its client reads; `conversation` says what its callers should get. -/
def ApiCall.plain (call : ApiCall) : EStateM OutOfBounds Session (Int32 × Option Response) := do
  let result ← call.transfer.plain
  let (status, response) := respond call.allocated result
  return (status, some response)

/-- The bytes on the connection are those of the session, and as long as replies are to come the outcomes of the
system calls let them through. -/
structure Linked (socket : Socket) (session : Session) : Prop where
  sent : socket.sent = (session.sent.map Peer.recordWire).flatten
  incoming : socket.incoming = (session.replies.map Peer.recordWire).flatten
  writes : ∀ event ∈ socket.writes, WritesThrough event
  reads : session.replies ≠ [] → ∀ event ∈ socket.reads, ReadsThrough event
  small : ∀ reply ∈ session.replies, reply.length < 2 ^ 31

/-- The client is connected, and its next xid is that of the session. -/
def Serves (handle : Option RpcClient) (session : Session) : Prop :=
  ∃ socket, handle = some ⟨⟨some socket⟩, session.xid⟩ ∧ Linked socket session

/-- The peer answers a call with a reply of RFC 5531, and a raw message with any record. -/
inductive Answer where
  | reply (reply : Peer.Reply)
  | record (bytes : Bytes)

def Answer.wire : Answer → Bytes
  | .reply answer => answer.wire
  | .record bytes => bytes

/-- A caller learns a code of `rpc_client.h` and the results, which only a success has. -/
def told : Peer.ReplyBody → Int32 × Bytes
  | .accepted _ (.SUCCESS results) => (0, results)
  | .accepted _ .PROG_UNAVAIL => (-3, [])
  | .accepted _ (.PROG_MISMATCH _ _) => (-4, [])
  | .accepted _ .PROC_UNAVAIL => (-5, [])
  | .accepted _ .GARBAGE_ARGS => (-6, [])
  | .accepted _ .SYSTEM_ERR => (-8, [])
  | .rpcMismatch _ _ => (-4, [])
  | .authError _ => (-7, [])

/-- A reply to another call is a protocol error, and without an answer there is nothing to receive. -/
def Transfer.told (xid : UInt32) : Transfer → Option Answer → Int32 × Bytes
  | _, none => (-10, [])
  | .raw _, some answer => (0, answer.wire)
  | .call .., some (.reply reply) => if reply.xid = xid then SimpleRpc.told reply.body else (-8, [])
  | .call .., some (.record _) => (-8, [])

/-- The peer finds a call with this xid, these words and exactly these arguments, or the raw message. -/
def Transfer.Asks (xid : UInt32) (message : Bytes) : Transfer → Prop
  | .call prog vers proc xdrArgs => ∃ header, Peer.callHeader message = .ok header xdrArgs ∧
      header.xid = xid ∧ header.prog = prog ∧ header.vers = vers ∧ header.proc = proc
  | .raw rawMsg => message = rawMsg

/-- The results come in a block of their own, when `malloc` finds one. -/
def ApiCall.gets (call : ApiCall) : Int32 × Bytes → Int32 × Option Response
  | (code, []) => (code, some {})
  | (code, results) => if call.allocated then (code, some ⟨.block results, results.length⟩) else (-1, some {})

/-- The messages ask for the calls in their order, and the calls count the xid up. -/
def Asked (xid : UInt32) : List ApiCall → List Bytes → Prop
  | call :: calls, message :: messages =>
      call.transfer.Asks xid message ∧ Asked (call.transfer.nextXid xid) calls messages
  | calls, messages => calls = [] ∧ messages = []

end Nfs3Rpc.SimpleRpc
