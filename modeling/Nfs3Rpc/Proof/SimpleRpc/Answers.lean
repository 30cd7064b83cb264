import Nfs3Rpc.Proof.SimpleRpc.Clients
import Nfs3Rpc.Proof.SimpleRpc.Replies

namespace Nfs3Rpc.SimpleRpc
open Encoding Peer

theorem outcome_ok {reply : Reply} {outBody results : Bytes} (ok : reply.outcome outBody = (.OK, results)) :
    ∃ verf, reply.body = .accepted verf (.SUCCESS results) := by
  obtain ⟨xid, body⟩ := reply
  cases body with
  | accepted verf body =>
      cases body with
      | SUCCESS results => exact ⟨verf, by simp_all [Reply.outcome]⟩
      | _ => simp [Reply.outcome, AcceptBody.status] at ok
  | rpcMismatch low high => simp [Reply.outcome] at ok
  | authError stat => simp [Reply.outcome] at ok

/-- A record of the stream gives OK only to the call that it answers. -/
theorem parseReply_answers {replies : List Reply} (plain : ∀ reply ∈ replies, reply.Plain) {message : Bytes}
    (member : message ∈ replies.map Reply.wire) {xid : UInt32} {results : Bytes}
    (ok : parseReply message xid [] = .ok (.OK, results)) :
    ∃ verf, Reply.mk xid (.accepted verf (.SUCCESS results)) ∈ replies := by
  obtain ⟨reply, sent, rfl⟩ := List.mem_map.mp member
  obtain ⟨own, foreign⟩ := parseReply_classifies reply (plain reply sent) []
  by_cases same : xid = reply.xid
  · subst same
    rw [own] at ok
    obtain ⟨verf, body⟩ := outcome_ok (Except.ok.inj ok)
    exact ⟨verf, by rwa [← body]⟩
  · rw [foreign xid same] at ok
    simp at ok

theorem Socket.Blocking.through {socket : Socket} (blocking : socket.Blocking) :
    ∀ event ∈ socket.reads, ReadsThrough event := by
  intro event member
  have allowed := blocking event member
  cases event with
  | moved count => exact ⟨⟨by simp, by simp⟩, by simpa [IoEvent.Blocking, Nat.pos_iff_ne_zero] using allowed⟩
  | interrupted => exact ⟨⟨by simp, by simp⟩, by simp⟩
  | blocked ready => exact absurd allowed id
  | failed => exact absurd allowed id

theorem Socket.Blocking.suffix {socket next : Socket} (blocking : socket.Blocking)
    (used : next.reads <:+ socket.reads) : next.Blocking :=
  fun event member => blocking event (used.mem member)

/-- A `recv` on a stream of replies returns one of them or nothing, and leaves the stream at a reply. -/
theorem recv_replies {replies : List Reply} (known : ∀ reply ∈ replies, reply.Plain ∧ reply.wire.length < 2 ^ 31)
    {socket : Socket} (blocking : socket.Blocking) (arrives : socket.incoming <+: replyStream replies) :
    ∃ result next, TcpTransport.recv ⟨some socket⟩ = (result, ⟨some next⟩) ∧
      (∀ message, result = some message → message ∈ replies.map Reply.wire) ∧
      ∃ later, later <:+ replies ∧ next.incoming <+: replyStream later := by
  cases replies with
  | nil =>
      have ended : socket.incoming = [] := List.prefix_nil.mp arrives
      obtain ⟨left, fails⟩ := TcpTransport.recv_ended ended
      exact ⟨none, _, fails, by simp, [], List.suffix_rfl, arrives⟩
  | cons reply later =>
      have front : socket.incoming <+: recordWire reply.wire ++ replyStream later := arrives
      rcases TcpTransport.recv_record_or_end socket reply.wire _ (known reply List.mem_cons_self).2
        blocking.through front with ⟨reads, left, waits, receives⟩ | ⟨reads, fails⟩
      · exact ⟨some reply.wire, _, receives, by simp, later, List.suffix_cons _ _, waits⟩
      · exact ⟨none, _, fails, by simp, later, List.suffix_cons _ _, List.nil_prefix⟩

/-- A call at the front of a stream of replies takes OK only from its own reply, and leaves the stream at a
reply. -/
theorem Request.run_replies (request : Request) {client : RpcClient} {replies : List Reply} {socket next : Socket}
    (known : ∀ reply ∈ replies, reply.Plain ∧ reply.wire.length < 2 ^ 31) (blocking : socket.Blocking)
    (transport : client.transport = ⟨some socket⟩) (arrives : socket.incoming <+: replyStream replies)
    {outcome : Except OutOfBounds (RpcStatus × Bytes)}
    (runs : request.run client = (outcome, ⟨⟨some next⟩, client.xid + 1⟩)) :
    (∀ results, outcome = .ok (.OK, results) →
        ∃ verf, Reply.mk client.xid (.accepted verf (.SUCCESS results)) ∈ replies) ∧
      ∃ later, later <:+ replies ∧ next.incoming <+: replyStream later := by
  obtain ⟨transport', xid⟩ := client
  obtain rfl : transport' = ⟨some socket⟩ := transport
  obtain ⟨done, writes, sent, sends⟩ := TcpTransport.send_keeps socket (request.message xid)
  rw [Request.run_eq, sends] at runs
  cases done with
  | false =>
      simp only [Prod.mk.injEq, RpcClient.mk.injEq, TcpTransport.mk.injEq, Option.some.injEq, and_true] at runs
      obtain ⟨rfl, rfl⟩ := runs
      exact ⟨by simp, replies, List.suffix_rfl, arrives⟩
  | true =>
      have waiting : ({ socket with writes, sent } : Socket).Blocking := blocking
      obtain ⟨result, final, receives, taken, left⟩ := recv_replies known waiting arrives
      simp only [receives] at runs
      cases result with
      | none =>
          simp only [Prod.mk.injEq, RpcClient.mk.injEq, TcpTransport.mk.injEq, Option.some.injEq, and_true] at runs
          obtain ⟨rfl, rfl⟩ := runs
          exact ⟨by simp, left⟩
      | some message =>
          simp only [Prod.mk.injEq, RpcClient.mk.injEq, TcpTransport.mk.injEq, Option.some.injEq, and_true] at runs
          obtain ⟨rfl, rfl⟩ := runs
          have plain : ∀ reply ∈ replies, reply.Plain := fun reply sent => (known reply sent).1
          exact ⟨fun _ ok => parseReply_answers plain (taken message rfl) ok, left⟩

/-- The unread bytes of a connection start at a reply of its peer. -/
def Endpoint.AtReply (endpoint : Endpoint) (replies : List Reply) : Prop :=
  ∀ socket, endpoint.client.transport = ⟨some socket⟩ →
    socket.Blocking ∧ ∃ later, later <:+ replies ∧ socket.incoming <+: replyStream later

/-- Every connection is at a reply, and the calls so far were answered by replies to them. -/
structure Attributed (replies : Nat → List Reply) (clients : Clients) : Prop where
  streams : ∀ object, (clients.endpoints object).AtReply (replies (clients.endpoints object).connection)
  answered : ∀ call ∈ clients.calls, call.Answered (replies call.connection)

section Steps
variable {peer : Nat → Socket} {replies : Nat → List Reply} {clients : Clients}

/-- A new connection starts at the first reply of its peer. -/
theorem Attributed.opens (only : RepliesOnly peer replies) (blocking : ∀ connection, (peer connection).Blocking)
    (attributed : Attributed replies clients) (object : Nat) : Attributed replies (clients.opens peer object) := by
  constructor
  · intro other
    by_cases same : other = object
    · subst same
      intro socket transport
      obtain rfl : peer clients.opened = socket := by simpa [Clients.opens, Clients.put] using transport
      exact ⟨blocking _, replies clients.opened, by simp [Clients.opens, Clients.put], (only _).1⟩
    · have kept : (clients.opens peer object).endpoints other = clients.endpoints other := by
        simp [Clients.opens, Clients.put, same]
      rw [kept]
      exact attributed.streams other
  · exact attributed.answered

/-- A call starts at a reply and leaves its connection at a reply. -/
theorem Attributed.calls (only : RepliesOnly peer replies) (attributed : Attributed replies clients) {object : Nat}
    {request : Request} {socket next : Socket} {outcome : Except OutOfBounds (RpcStatus × Bytes)}
    (transport : (clients.endpoints object).client.transport = ⟨some socket⟩)
    (runs : request.run (clients.endpoints object).client =
      (outcome, ⟨⟨some next⟩, (clients.endpoints object).client.xid + 1⟩))
    (used : next.reads <:+ socket.reads) : Attributed replies (clients.calling object next outcome) := by
  obtain ⟨blocking, waiting, suffix, unread⟩ := attributed.streams object socket transport
  have known : ∀ reply ∈ waiting, reply.Plain ∧ reply.wire.length < 2 ^ 31 := fun reply member =>
    (only _).2 reply (suffix.mem member)
  obtain ⟨answered, later, shorter, waits⟩ := request.run_replies known blocking transport unread runs
  constructor
  · intro other
    by_cases same : other = object
    · subst same
      intro final transport
      obtain rfl : next = final := by simpa [Clients.calling, Clients.put] using transport
      exact ⟨blocking.suffix used, later, by simpa [Clients.calling, Clients.put] using shorter.trans suffix, waits⟩
    · have kept : (clients.calling object next outcome).endpoints other = clients.endpoints other := by
        simp [Clients.calling, Clients.put, same]
      rw [kept]
      exact attributed.streams other
  · intro call member
    rcases List.mem_append.mp member with old | new
    · exact attributed.answered call old
    · rw [List.mem_singleton.mp new]
      intro results ok
      obtain ⟨verf, inside⟩ := answered results ok
      exact ⟨verf, suffix.mem inside⟩

end Steps

end Nfs3Rpc.SimpleRpc
