/-
This file is `rpc_transport.cpp`: the socket loops and the record marking of TCP messages.
The kernel decides how much each system call moves, so a socket carries the outcomes of its calls.
-/

import Nfs3Rpc.Encoding.Words

namespace Nfs3Rpc.SimpleRpc
open Encoding

/-- These are the outcomes of one `write` or `read`; `blocked` also tells whether `poll` succeeds. -/
inductive IoEvent where
  | moved (count : Nat)
  | interrupted
  | blocked (ready : Bool)
  | failed
  deriving DecidableEq

/-- A call after the last listed outcome moves all the bytes that it can. -/
structure Socket where
  sent : Bytes := []
  incoming : Bytes := []
  writes : List IoEvent := []
  reads : List IoEvent := []
  deriving DecidableEq

/-- A read of a blocking descriptor waits for bytes. A read that moves nothing or fails ends the connection, so the
socket has no bytes behind it. -/
def IoEvent.Blocking : IoEvent → Prop
  | .moved count => 0 < count
  | .interrupted => True
  | .blocked _ => False
  | .failed => False

def Socket.Blocking (socket : Socket) : Prop := ∀ event ∈ socket.reads, event.Blocking

/-- The loop ends when no byte is left to write. -/
def writeLoop : List IoEvent → Bytes → Bytes → Bool × List IoEvent × Bytes
  | events, [], sent => (true, events, sent)
  | [], data, sent => (true, [], sent ++ data)
  | .moved count :: events, data, sent => writeLoop events (data.drop count) (sent ++ data.take count)
  | .interrupted :: events, data, sent => writeLoop events data sent
  | .blocked ready :: events, data, sent => if ready then writeLoop events data sent else (false, events, sent)
  | .failed :: events, _, sent => (false, events, sent)

/-- A call that moves no byte is the end of the stream. -/
def readLoop : List IoEvent → Nat → Bytes → Bytes → Option Bytes × List IoEvent × Bytes
  | events, 0, incoming, data => (some data, events, incoming)
  | [], len, incoming, data =>
      if incoming.length < len then (none, [], []) else (some (data ++ incoming.take len), [], incoming.drop len)
  | .moved count :: events, len, incoming, data =>
      let n := min count (min len incoming.length)
      if n = 0 then (none, events, incoming)
      else readLoop events (len - n) (incoming.drop n) (data ++ incoming.take n)
  | .interrupted :: events, len, incoming, data => readLoop events len incoming data
  | .blocked ready :: events, len, incoming, data =>
      if ready then readLoop events len incoming data else (none, events, incoming)
  | .failed :: events, _, incoming, _ => (none, events, incoming)

def Socket.writeAll (socket : Socket) (data : Bytes) : Bool × Socket :=
  let (done, writes, sent) := writeLoop socket.writes data socket.sent
  (done, { socket with writes, sent })

def Socket.readAll (socket : Socket) (len : Nat) : Option Bytes × Socket :=
  let (data, reads, incoming) := readLoop socket.reads len socket.incoming []
  (data, { socket with reads, incoming })

/-- The descriptor is absent when `fd_` is negative. -/
structure TcpTransport where
  fd : Option Socket := none
  deriving DecidableEq

def LAST_FRAG_FLAG : UInt32 := 0x80000000

def FRAG_LEN_MASK : UInt32 := 0x7FFFFFFF

def TcpTransport.isConnected (transport : TcpTransport) : Bool := transport.fd.isSome

def TcpTransport.disconnect (_transport : TcpTransport) : TcpTransport := ⟨none⟩

/-- The system calls give a socket, or one of them fails; the old descriptor is closed in both cases. The last of them
puts the flags of the descriptor back, so the reads of a connection are those of `Socket.Blocking`. -/
def TcpTransport.connect (transport : TcpTransport) (opened : Option Socket) : Bool × TcpTransport :=
  let transport := transport.disconnect
  match opened with
  | none => (false, transport.disconnect)
  | some socket => (true, { transport with fd := some socket })

/-- The second result is the object that was moved from. -/
def TcpTransport.moveConstruct (other : TcpTransport) : TcpTransport × TcpTransport :=
  (⟨other.fd⟩, { other with fd := none })

/-- The two objects are different; the guard of the operator skips an object moved to itself. -/
def TcpTransport.moveAssign (transport other : TcpTransport) : TcpTransport × TcpTransport :=
  let transport := transport.disconnect
  ({ transport with fd := other.fd }, { other with fd := none })

/-- The cast keeps the low 32 bits of the message size. -/
def fragHeader (message : Bytes) : UInt32 := UInt32.ofNat message.length ||| LAST_FRAG_FLAG

def TcpTransport.send (transport : TcpTransport) (message : Bytes) : Bool × TcpTransport :=
  match transport.fd with
  | none => (false, transport)
  | some socket =>
      let (headerSent, socket) := socket.writeAll (be32 (fragHeader message))
      if headerSent then
        let (messageSent, socket) := socket.writeAll message
        (messageSent, ⟨some socket⟩)
      else
        (false, ⟨some socket⟩)

/-- The last-fragment bit is masked and not tested. -/
def TcpTransport.recv (transport : TcpTransport) : Option Bytes × TcpTransport :=
  match transport.fd with
  | none => (none, transport)
  | some socket =>
      match socket.readAll 4 with
      | (none, socket) => (none, ⟨some socket⟩)
      | (some header, socket) =>
          let fragLen := leadingWord header &&& FRAG_LEN_MASK
          if fragLen > 0 then
            let (message, socket) := socket.readAll fragLen.toNat
            (message, ⟨some socket⟩)
          else
            (some [], ⟨some socket⟩)

end Nfs3Rpc.SimpleRpc
