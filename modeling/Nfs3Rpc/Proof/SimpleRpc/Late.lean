import Nfs3Rpc.Proof.SimpleRpc.Clients
import Nfs3Rpc.Proof.SimpleRpc.Replies

namespace Nfs3Rpc.SimpleRpc
open Encoding Peer

/-- Each call uses up one xid, whatever it returns. -/
theorem RpcClient.callEach_connected (requests : List Request) (socket : Socket) (xid : UInt32) :
    ∃ next, (RpcClient.callEach ⟨⟨some socket⟩, xid⟩ requests).2 =
      ⟨⟨some next⟩, xid + UInt32.ofNat requests.length⟩ := by
  induction requests generalizing socket xid with
  | nil => exact ⟨socket, by simp [RpcClient.callEach]⟩
  | cons request requests recurse =>
      obtain ⟨outcome, middle, runs, _⟩ := request.run_connected socket xid
      obtain ⟨next, ends⟩ := recurse middle (xid + 1)
      refine ⟨next, ?_⟩
      simp only [RpcClient.callEach, runs, ends, List.length_cons]
      rw [UInt32.add_assoc, UInt32.ofNat_add, UInt32.add_comm 1]
      rfl

/-- Fewer than 2 ^ 32 calls on a connection have different xids. -/
theorem xid_ne_of_lt {start : UInt32} {earlier later : Nat} (before : earlier < later) (few : later < 2 ^ 32) :
    start + UInt32.ofNat later ≠ start + UInt32.ofNat earlier := by
  intro same
  have words := congrArg UInt32.toNat same
  rw [UInt32.toNat_add, UInt32.toNat_add, UInt32.toNat_ofNat', UInt32.toNat_ofNat'] at words
  omega

/-- A call that sends and receives gives the first reply of the stream to its parser. -/
theorem Request.run_front (request : Request) {socket : Socket} {xid : UInt32} {front : Reply} {later : List Reply}
    (small : front.wire.length < 2 ^ 31) (unread : socket.incoming = replyStream (front :: later))
    (sends : (TcpTransport.send ⟨some socket⟩ (request.message xid)).1)
    (receives : (TcpTransport.send ⟨some socket⟩ (request.message xid)).2.recv.1.isSome) :
    (request.run ⟨⟨some socket⟩, xid⟩).1 = parseReply front.wire xid [] := by
  obtain ⟨done, writes, sent, goes⟩ := TcpTransport.send_keeps socket (request.message xid)
  rw [goes] at sends receives
  obtain rfl : done = true := sends
  have arrives : Socket.incoming { socket with writes, sent } =
      Fragment.wire ⟨true, front.wire⟩ ++ replyStream later := unread
  rw [Request.run_eq, goes]
  rcases TcpTransport.recv_front_or_fails small arrives with
    ⟨rest, takes⟩ | ⟨final, fails⟩
  · simp only [takes]
  · rw [fails] at receives
    cases receives

/-- A call that times out before the first byte leaves the stream to the next one. -/
theorem Request.run_stalls (request : Request) {socket : Socket} {xid : UInt32}
    (sends : (TcpTransport.send ⟨some socket⟩ (request.message xid)).1) (stopped : stalls socket.reads) :
    ∃ next, request.run ⟨⟨some socket⟩, xid⟩ = (.ok (.RECV_ERR, []), ⟨⟨some next⟩, xid + 1⟩) ∧
      next.incoming = socket.incoming := by
  obtain ⟨done, writes, sent, goes⟩ := TcpTransport.send_keeps socket (request.message xid)
  rw [goes] at sends
  obtain rfl : done = true := sends
  have waits : stalls (Socket.reads { socket with writes, sent }) := stopped
  obtain ⟨left, fails, _⟩ := TcpTransport.recv_stalls waits
  rw [Request.run_eq, goes]
  simp only [fails]
  exact ⟨_, rfl, rfl⟩

/-- The calls before this one were lost: each of them returned RECV_ERR, and what they left unread starts with
whole replies to them, up to the reply to this call. -/
structure LeftBehind (socket : Socket) (first : UInt32) (missed : List Request) (stale : List Reply) (own : Reply)
    (later : List Reply) : Prop where
  few : missed.length < 2 ^ 32
  lost : ∀ outcome ∈ (RpcClient.callEach ⟨⟨some socket⟩, first⟩ missed).1, outcome = .ok (.RECV_ERR, [])
  unread : (RpcClient.callEach ⟨⟨some socket⟩, first⟩ missed).2.transport.unread =
    replyStream (stale ++ own :: later)
  sized : ∀ reply ∈ stale ++ [own], reply.Sized ∧ reply.wire.length < 2 ^ 31
  earlier : ∀ reply ∈ stale, ∃ index < missed.length, reply.xid = first + UInt32.ofNat index
  current : own.xid = first + UInt32.ofNat missed.length

/-- The message of the next call goes out, and its `recv` returns a record. -/
structure Completes (client : RpcClient) (request : Request) : Prop where
  sends : (client.transport.send (request.message client.xid)).1
  receives : (client.transport.send (request.message client.xid)).2.recv.1.isSome

/-- A call finds its own reply exactly when no late reply is in front of it. Two more cases are settled by the
reply itself: an AUTH_SYS success is always misread, and a system error looks like a foreign xid. -/
theorem call_after_lost_iff (socket : Socket) (first : UInt32) (missed : List Request) (stale : List Reply)
    (own : Reply) (later : List Reply) (request : Request)
    (left : LeftBehind socket first missed stale own later)
    (completes : Completes (RpcClient.callEach ⟨⟨some socket⟩, first⟩ missed).2 request) :
    (request.run (RpcClient.callEach ⟨⟨some socket⟩, first⟩ missed).2).1 = .ok (own.outcome []) ↔
      (stale = [] ∧ ¬ own.SysSuccess) ∨ own.outcome [] = (.PROTO_ERR, []) := by
  obtain ⟨next, ends⟩ := RpcClient.callEach_connected missed socket first
  have unread := left.unread
  have sends := completes.sends
  have receives := completes.receives
  rw [ends] at unread sends receives ⊢
  rw [← left.current] at sends receives ⊢
  cases stale with
  | nil =>
      obtain ⟨sized, small⟩ := left.sized own (by simp)
      rw [request.run_front small unread sends receives, parseReply_own_iff own sized]
      constructor
      · intro foreign
        exact .inl ⟨rfl, foreign⟩
      · intro cases sys
        rcases cases with ⟨_, foreign⟩ | failed
        · exact foreign sys
        · obtain ⟨verf, results, body, _⟩ := sys
          rw [Reply.outcome, body] at failed
          cases failed
  | cons front stale =>
      obtain ⟨sized, small⟩ := left.sized front List.mem_cons_self
      obtain ⟨index, before, xid⟩ := left.earlier front List.mem_cons_self
      have different : own.xid ≠ front.xid := by
        rw [left.current, xid]
        exact xid_ne_of_lt before left.few
      rw [request.run_front small unread sends receives, parseReply_other front sized [] different]
      constructor
      · intro same
        exact .inr (Except.ok.inj same).symm
      · intro cases
        rcases cases with ⟨empty, _⟩ | failed
        · cases empty
        · rw [failed]

/-- This is the null procedure of the NFS program. -/
def nullRequest : Request := ⟨100003, 3, 0, []⟩

/-- The replies to the first two calls of a client. -/
def firstReply : Reply := ⟨1, .accepted ⟨0, []⟩ (.SUCCESS [5])⟩

def secondReply : Reply := ⟨2, .accepted ⟨0, []⟩ (.SUCCESS [9])⟩

/-- The first `recv` on this socket times out before its first byte. -/
def slowSocket (incoming : Bytes) : Socket := { incoming, reads := [.blocked false] }

theorem slow_callEach (incoming : Bytes) :
    ∃ next, RpcClient.callEach ⟨⟨some (slowSocket incoming)⟩, 1⟩ [nullRequest] =
        ([.ok (.RECV_ERR, [])], ⟨⟨some next⟩, 2⟩) ∧ next.incoming = incoming := by
  have small : (nullRequest.message 1).length < 2 ^ 31 := by decide
  obtain ⟨writes, sends, _⟩ := TcpTransport.send_through (slowSocket incoming) (nullRequest.message 1) small
    (by simp [slowSocket])
  obtain ⟨next, runs, unread⟩ :=
    nullRequest.run_stalls (by rw [sends]) (by rfl : stalls (slowSocket incoming).reads)
  refine ⟨next, ?_, unread⟩
  simp only [RpcClient.callEach, runs]
  rfl

theorem success_sized (xid : UInt32) (results : Bytes) :
    Reply.Sized ⟨xid, .accepted ⟨0, []⟩ (.SUCCESS results)⟩ := by
  intro verf body same
  rw [← (ReplyBody.accepted.inj same).1]
  decide

theorem slow_leftBehind {stale : List Reply} (late : ∀ reply ∈ stale, reply = firstReply) :
    LeftBehind (slowSocket (replyStream (stale ++ [secondReply]))) 1 [nullRequest] stale secondReply [] := by
  obtain ⟨next, runs, unread⟩ := slow_callEach (replyStream (stale ++ [secondReply]))
  constructor
  · decide
  · intro outcome member
    rwa [runs, List.mem_singleton] at member
  · rw [runs]
    exact unread
  · intro reply member
    rcases List.mem_append.mp member with early | own
    · rw [late reply early]
      exact ⟨success_sized 1 [5], by decide⟩
    · rw [List.mem_singleton.mp own]
      exact ⟨success_sized 2 [9], by decide⟩
  · intro reply member
    rw [late reply member]
    exact ⟨0, by decide, rfl⟩
  · rfl

/-- The client of this socket has lost its first call. -/
def slowClient (incoming : Bytes) : RpcClient :=
  (RpcClient.callEach ⟨⟨some (slowSocket incoming)⟩, 1⟩ [nullRequest]).2

/-- The first reply never comes, so the second call finds its own. -/
theorem call_after_lost_own :
    (nullRequest.run (slowClient (replyStream [secondReply]))).1 = .ok (secondReply.outcome []) := by
  refine (call_after_lost_iff _ 1 [nullRequest] [] secondReply [] nullRequest (slow_leftBehind (by simp))
    ⟨by rfl, by rfl⟩).mpr (.inl ⟨rfl, ?_⟩)
  intro ⟨verf, results, same, sys⟩
  rw [← (ReplyBody.accepted.inj same).1] at sys
  exact absurd sys (by decide)

/-- The first reply comes late, so the second call takes it for an error. -/
theorem call_after_lost_poisoned :
    LeftBehind (slowSocket (replyStream [firstReply, secondReply])) 1 [nullRequest] [firstReply] secondReply [] ∧
      Completes (slowClient (replyStream [firstReply, secondReply])) nullRequest ∧
      (nullRequest.run (slowClient (replyStream [firstReply, secondReply]))).1 ≠ .ok (secondReply.outcome []) := by
  have late : ∀ reply ∈ [firstReply], reply = firstReply := by simp
  refine ⟨slow_leftBehind late, ⟨by rfl, by rfl⟩, ?_⟩
  have returned : (nullRequest.run (slowClient (replyStream [firstReply, secondReply]))).1 = .ok (.PROTO_ERR, []) := by
    rfl
  rw [returned]
  intro same
  cases same

end Nfs3Rpc.SimpleRpc
