/-
This file states runs of client objects: their connections, their moves, their calls, and the replies
that the peers send on each connection.
-/

import Nfs3Rpc.Format.Messages
import Nfs3Rpc.Format.Records

namespace Nfs3Rpc.SimpleRpc
open Encoding Peer

/-- A connected object holds the connection with this number. -/
structure Endpoint where
  client : RpcClient := {}
  connection : Nat := 0

structure Request where
  prog : UInt32
  vers : UInt32
  proc : UInt32
  xdrArgs : Bytes

/-- These are the message of a request and the call that a client makes of it. -/
def Request.message (request : Request) (xid : UInt32) : Bytes :=
  buildCall xid request.prog request.vers request.proc request.xdrArgs

def Request.run (request : Request) (client : RpcClient) : Except OutOfBounds (RpcStatus × Bytes) × RpcClient :=
  match RpcClient.call request.prog request.vers request.proc request.xdrArgs client with
  | .ok reply client => (.ok reply, client)
  | .error fault client => (.error fault, client)

/-- The calls of one client follow one another. -/
def RpcClient.callEach (client : RpcClient) :
    List Request → List (Except OutOfBounds (RpcStatus × Bytes)) × RpcClient
  | [] => ([], client)
  | request :: requests =>
      let (outcome, client) := request.run client
      let (later, client) := client.callEach requests
      (outcome :: later, client)

/-- A call leaves the connection that it used, the xid that it sent, and what it returned. -/
structure Call where
  connection : Nat
  xid : UInt32
  outcome : Except OutOfBounds (RpcStatus × Bytes)

/-- The objects are numbered; an object that was never used is a new one. -/
structure Clients where
  endpoints : Nat → Endpoint := fun _ => {}
  opened : Nat := 0
  calls : List Call := []

/-- The destructor of an object does what `disconnect` does. -/
inductive Action where
  | connect (object : Nat) (reached : Bool)
  | disconnect (object : Nat)
  | moveConstruct (target source : Nat)
  | moveAssign (target source : Nat)
  | call (object : Nat) (request : Request)

def Clients.Connected (clients : Clients) (object : Nat) : Prop := (clients.endpoints object).client.isConnected

def Clients.put (clients : Clients) (object : Nat) (endpoint : Endpoint) : Clients :=
  { clients with endpoints := Function.update clients.endpoints object endpoint }

/-- The parameter gives the socket of each connection. An object is built in storage that holds no
connection, so the old object there is destroyed first. -/
def Clients.step (peer : Nat → Socket) (clients : Clients) : Action → Clients
  | .connect object true =>
      let client := (clients.endpoints object).client
      { clients.put object ⟨(client.connect (some (peer clients.opened))).2, clients.opened⟩ with
        opened := clients.opened + 1 }
  | .connect object false =>
      let endpoint := clients.endpoints object
      clients.put object { endpoint with client := (endpoint.client.connect none).2 }
  | .disconnect object =>
      let endpoint := clients.endpoints object
      clients.put object { endpoint with client := endpoint.client.disconnect }
  | .moveConstruct target source =>
      if target = source then clients
      else
        let other := clients.endpoints source
        let (client, left) := other.client.moveConstruct
        (clients.put source { other with client := left }).put target { other with client }
  | .moveAssign target source =>
      if target = source then clients
      else
        let other := clients.endpoints source
        let (client, left) := (clients.endpoints target).client.moveAssign other.client
        (clients.put source { other with client := left }).put target { other with client }
  | .call object request =>
      let endpoint := clients.endpoints object
      if endpoint.client.isConnected then
        let (outcome, client) := request.run endpoint.client
        { clients.put object { endpoint with client } with
          calls := clients.calls ++ [⟨endpoint.connection, endpoint.client.xid, outcome⟩] }
      else clients

def Clients.run (peer : Nat → Socket) (actions : List Action) : Clients := actions.foldl (Clients.step peer) {}

def Clients.callsOn (clients : Clients) (connection : Nat) : List Call :=
  clients.calls.filter (·.connection = connection)

def replyStream (replies : List Reply) : Bytes := (replies.map fun reply => recordWire reply.wire).flatten

/-- Each peer sends whole records, and each of them is a reply that the client knows how to read. A connection
may end before all of their bytes have arrived. -/
def RepliesOnly (peer : Nat → Socket) (replies : Nat → List Reply) : Prop :=
  ∀ connection, (peer connection).incoming <+: replyStream (replies connection) ∧
    ∀ reply ∈ replies connection, reply.Plain ∧ reply.wire.length < 2 ^ 31

/-- A call that returns OK returns the results of a reply to this call. -/
def Call.Answered (call : Call) (replies : List Reply) : Prop :=
  ∀ results, call.outcome = .ok (.OK, results) →
    ∃ verf, Reply.mk call.xid (.accepted verf (.SUCCESS results)) ∈ replies

end Nfs3Rpc.SimpleRpc
