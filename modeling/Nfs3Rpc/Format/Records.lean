/-
This file states record marking over whole runs: sequences of `send` and `recv` on one connection, and
the streams of fragments that a peer may send.
-/

import Nfs3Rpc.Format.Exchange

namespace Nfs3Rpc.SimpleRpc
open Encoding

/-- The calls of `send` follow one another on one transport. -/
def TcpTransport.sendEach (transport : TcpTransport) : List Bytes → List Bool × TcpTransport
  | [] => ([], transport)
  | message :: messages =>
      let (sent, transport) := transport.send message
      let (later, transport) := transport.sendEach messages
      (sent :: later, transport)

/-- The calls of `recv` follow one another; a result is absent where the call returns false. -/
def TcpTransport.recvEach (transport : TcpTransport) : Nat → List (Option Bytes) × TcpTransport
  | 0 => ([], transport)
  | count + 1 =>
      let (message, transport) := transport.recv
      let (later, transport) := transport.recvEach count
      (message :: later, transport)

/-- One fragment has its length in the low bits of its mark, and the flag of the last one in the top bit. -/
structure Fragment where
  last : Bool
  piece : Bytes
  deriving DecidableEq

def Fragment.mark (fragment : Fragment) : UInt32 :=
  UInt32.ofNat ((if fragment.last then 2 ^ 31 else 0) + fragment.piece.length)

def Fragment.wire (fragment : Fragment) : Bytes := be32 fragment.mark ++ fragment.piece

def fragmentStream (fragments : List Fragment) : Bytes := (fragments.map Fragment.wire).flatten

/-- A record is cut into these pieces, and only the final one is marked as the last. -/
def recordFragments : List Bytes → List Fragment
  | [] => []
  | [piece] => [⟨true, piece⟩]
  | piece :: next :: pieces => ⟨false, piece⟩ :: recordFragments (next :: pieces)

/-- The outcomes move `len` bytes that have arrived; the result is what they leave to later calls. -/
def delivers : List IoEvent → Nat → Option (List IoEvent)
  | events, 0 => some events
  | [], _ => some []
  | .moved count :: events, len => if count = 0 then none else delivers events (len - count)
  | .interrupted :: events, len => delivers events len
  | .blocked ready :: events, len => if ready then delivers events len else none
  | .failed :: _, _ => none

/-- The outcomes end a read before its first byte. -/
def stalls : List IoEvent → Bool
  | [] => false
  | .moved count :: _ => count = 0
  | .interrupted :: events => stalls events
  | .blocked ready :: events => !ready || stalls events
  | .failed :: _ => true

/-- The next `recv` does not stop inside a fragment: it finds the end of the stream, it stops before the
first byte of the mark, or its outcomes move the mark and the bytes that the mark counts. -/
def Socket.RecvsWhole (socket : Socket) : Prop :=
  socket.incoming = [] ∨ stalls socket.reads ∨
    ((delivers socket.reads 4).bind fun left =>
      delivers left (leadingWord socket.incoming &&& FRAG_LEN_MASK).toNat).isSome

instance (socket : Socket) : Decidable socket.RecvsWhole := inferInstanceAs (Decidable (_ ∨ _ ∨ _))

/-- A closed transport does not read at all. -/
def TcpTransport.RecvsWhole (transport : TcpTransport) : Prop :=
  ∀ socket, transport.fd = some socket → socket.RecvsWhole

/-- These bytes of the peer wait for the next `recv`. -/
def TcpTransport.unread (transport : TcpTransport) : Bytes :=
  match transport.fd with
  | none => []
  | some socket => socket.incoming

/-- Each message that came back is a record of its own, and the messages keep the order of the records. -/
def InStreamOrder (records : List Bytes) (results : List (Option Bytes)) : Prop :=
  (results.filterMap id).Sublist records

instance (records : List Bytes) (results : List (Option Bytes)) : Decidable (InStreamOrder records results) :=
  inferInstanceAs (Decidable (List.Sublist _ _))

/-- The messages are records in stream order, and a `recv` that returns one starts at the mark of a record. -/
structure ReceivesRecords (records : List Bytes) (transport : TcpTransport) (count : Nat) : Prop where
  order : InStreamOrder records (transport.recvEach count).1
  starts : ∀ index < count, (transport.recvEach index).2.recv.1.isSome →
    ∃ later, later <:+ records ∧ (transport.recvEach index).2.unread = (later.map Peer.recordWire).flatten

end Nfs3Rpc.SimpleRpc
