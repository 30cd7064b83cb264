/-
This file is the life of a descriptor in `rpc_transport.cpp` and `rpc_client.cpp`: every `socket` and every
`close` of the two classes, with the outcome of each system call on the way.
-/

import Nfs3Rpc.Resources.Ledger

namespace Nfs3Rpc.SimpleRpc.Descriptors
open Resources

/-- The kernel keeps a ledger of its descriptors. -/
abbrev Kernel := StateM (List (Entry Int))

/-- A negative result is an error and no descriptor. -/
def socket (result : Int) : Kernel Int := do
  if result ≥ 0 then
    modify (· ++ [.acquired result])
  return result

def close (fd : Int) : Kernel Unit := modify (· ++ [.released fd])

/-- These are the outcomes of the system calls of one `connect`, in their order. -/
structure Outcome where
  socket : Int
  hostFound : Bool
  connectRet : Int
  inProgress : Bool
  pollRet : Int
  getsockoptRet : Int
  err : Int
  deriving DecidableEq

structure TcpTransport where
  fd : Int := -1
  deriving DecidableEq

namespace TcpTransport

def disconnect (transport : TcpTransport) : Kernel TcpTransport := do
  if transport.fd ≥ 0 then
    close transport.fd
    return { transport with fd := -1 }
  else
    return transport

def isConnected (transport : TcpTransport) : Bool := transport.fd ≥ 0

/-- Each failure after `socket` disconnects before it returns. -/
def failed (transport : TcpTransport) : Kernel (Bool × TcpTransport) := do
  let transport ← transport.disconnect
  return (false, transport)

def connect (transport : TcpTransport) (outcome : Outcome) : Kernel (Bool × TcpTransport) := do
  let transport ← transport.disconnect
  let fd ← socket outcome.socket
  let transport := { transport with fd }
  if transport.fd < 0 then
    return (false, transport)
  if ¬ outcome.hostFound then
    return ← transport.failed
  if outcome.connectRet < 0 ∧ ¬ outcome.inProgress then
    return ← transport.failed
  if outcome.connectRet < 0 then
    if outcome.pollRet ≤ 0 then
      return ← transport.failed
    if outcome.getsockoptRet < 0 ∨ outcome.err ≠ 0 then
      return ← transport.failed
  return (true, transport)

/-- The second result is the object that was moved from. -/
def moveConstruct (other : TcpTransport) : TcpTransport × TcpTransport :=
  ({ fd := other.fd }, { other with fd := -1 })

/-- The two objects are different; the guard of the operator skips an object moved to itself. -/
def moveAssign (transport other : TcpTransport) : Kernel (TcpTransport × TcpTransport) := do
  let transport ← transport.disconnect
  return ({ transport with fd := other.fd }, { other with fd := -1 })

def destroy (transport : TcpTransport) : Kernel Unit := do
  let _ ← transport.disconnect

end TcpTransport

structure RpcClient where
  transport : TcpTransport := {}
  xid : UInt32 := 1
  deriving DecidableEq

namespace RpcClient

def connect (client : RpcClient) (outcome : Outcome) : Kernel (Bool × RpcClient) := do
  let (done, transport) ← client.transport.connect outcome
  return (done, { client with transport })

def disconnect (client : RpcClient) : Kernel RpcClient := do
  let transport ← client.transport.disconnect
  return { transport, xid := 1 }

def moveConstruct (other : RpcClient) : RpcClient × RpcClient :=
  let (transport, left) := other.transport.moveConstruct
  ({ transport, xid := other.xid }, { transport := left, xid := 1 })

def moveAssign (client other : RpcClient) : Kernel (RpcClient × RpcClient) := do
  let (transport, left) ← client.transport.moveAssign other.transport
  return ({ transport, xid := other.xid }, { transport := left, xid := 1 })

/-- The destructor disconnects, and then the destructor of the member does so again. -/
def destroy (client : RpcClient) : Kernel Unit := do
  let client ← client.disconnect
  client.transport.destroy

end RpcClient

end Nfs3Rpc.SimpleRpc.Descriptors
