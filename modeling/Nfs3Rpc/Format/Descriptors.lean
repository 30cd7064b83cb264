/-
This file states runs over any number of transports and clients, and who owns the descriptors in them.
-/

import Nfs3Rpc.Construction.SimpleRpc.Descriptors

namespace Nfs3Rpc.SimpleRpc.Descriptors
open Resources

inductive Object where
  | tcpTransport (transport : TcpTransport)
  | rpcClient (client : RpcClient)
  deriving DecidableEq

namespace Object

def fd : Object → Int
  | .tcpTransport transport => transport.fd
  | .rpcClient client => client.transport.fd

def connect (outcome : Outcome) : Object → Kernel Object
  | .tcpTransport transport => do
      let (_, transport) ← transport.connect outcome
      return .tcpTransport transport
  | .rpcClient client => do
      let (_, client) ← client.connect outcome
      return .rpcClient client

def disconnect : Object → Kernel Object
  | .tcpTransport transport => .tcpTransport <$> transport.disconnect
  | .rpcClient client => .rpcClient <$> client.disconnect

def moveConstruct : Object → Object × Object
  | .tcpTransport other =>
      let (transport, left) := other.moveConstruct
      (.tcpTransport transport, .tcpTransport left)
  | .rpcClient other =>
      let (client, left) := other.moveConstruct
      (.rpcClient client, .rpcClient left)

/-- Only objects of one class can be assigned to each other. -/
def moveAssign : Object → Object → Kernel (Object × Object)
  | .tcpTransport transport, .tcpTransport other => do
      let (transport, left) ← transport.moveAssign other
      return (.tcpTransport transport, .tcpTransport left)
  | .rpcClient client, .rpcClient other => do
      let (client, left) ← client.moveAssign other
      return (.rpcClient client, .rpcClient left)
  | object, other => return (object, other)

def destroy : Object → Kernel Unit
  | .tcpTransport transport => transport.destroy
  | .rpcClient client => client.destroy

end Object

/-- The objects are numbered; a number without an object is free storage. -/
structure World where
  objects : Nat → Option Object := fun _ => none
  ledger : List (Entry Int) := []

inductive Action where
  | construct (object : Nat) (isClient : Bool)
  | connect (object : Nat) (outcome : Outcome)
  | disconnect (object : Nat)
  | moveConstruct (target source : Nat)
  | moveAssign (target source : Nat)
  | destroy (object : Nat)
  deriving DecidableEq

def World.put (world : World) (number : Nat) (object : Option Object) : World :=
  { world with objects := Function.update world.objects number object }

/-- An action on storage without an object, or a construction over an object, is no C++ program and does nothing. -/
def World.step (world : World) : Action → World
  | .construct number isClient =>
      match world.objects number with
      | some _ => world
      | none => world.put number (some (if isClient then .rpcClient {} else .tcpTransport {}))
  | .connect number outcome =>
      match world.objects number with
      | none => world
      | some old =>
          let (object, ledger) := old.connect outcome world.ledger
          { world.put number (some object) with ledger }
  | .disconnect number =>
      match world.objects number with
      | none => world
      | some old =>
          let (object, ledger) := old.disconnect world.ledger
          { world.put number (some object) with ledger }
  | .moveConstruct target source =>
      match world.objects target, world.objects source with
      | none, some other =>
          let (object, left) := other.moveConstruct
          (world.put source (some left)).put target (some object)
      | _, _ => world
  | .moveAssign target source =>
      -- The guard of the operator leaves an object alone that is moved to itself.
      if target = source then world
      else
        match world.objects target, world.objects source with
        | some old, some other =>
            let ((object, left), ledger) := old.moveAssign other world.ledger
            { (world.put source (some left)).put target (some object) with ledger }
        | _, _ => world
  | .destroy number =>
      match world.objects number with
      | none => world
      | some old =>
          let ((), ledger) := old.destroy world.ledger
          { world.put number none with ledger }

def World.run (actions : List Action) : World := actions.foldl World.step {}

/-- A negative `fd_` is no descriptor. -/
def owned (fd : Int) : Option Int := if fd ≥ 0 then some fd else none

/-- A live object owns the descriptor in its `fd_`. -/
def World.owner (world : World) (number : Nat) : Option Int :=
  (world.objects number).bind fun object => owned object.fd

/-- No `socket` returns a descriptor that is open. -/
def FreshSockets (ledger : List (Entry Int)) : Prop :=
  ∀ earlier fd later, ledger = earlier ++ .acquired fd :: later → held fd earlier = false

end Nfs3Rpc.SimpleRpc.Descriptors
