import Nfs3Rpc.Format.Sessions
import Nfs3Rpc.Proof.SimpleRpc.Replies
import Nfs3Rpc.Proof.SimpleRpc.Transport

namespace Nfs3Rpc.SimpleRpc
open Encoding Peer

variable {socket : Socket} {session : Session}

/-- The header of a call has 72 bytes. -/
theorem buildCall_length (xid prog vers proc : UInt32) (args : Bytes) :
    (buildCall xid prog vers proc args).length = 72 + args.length := by
  have cred : (opaqueBytes (credBody 0 0 0 [])).length = 36 := rfl
  have verf : (opaqueBytes []).length = 4 := rfl
  rw [buildCall_fields]
  simp only [List.flatten_cons, List.flatten_nil, List.length_append, List.length_nil, be32_length, cred, verf]

theorem Transfer.fits_of_short {transfer : Transfer} (short : transfer.bytes.length < 2 ^ 31 - 72) :
    transfer.Fits := by
  intro xid
  cases transfer with
  | call prog vers proc xdrArgs =>
      have length := buildCall_length xid prog vers proc xdrArgs
      have args : xdrArgs.length < 2 ^ 31 - 72 := short
      show (buildCall xid prog vers proc xdrArgs).length < 2 ^ 31
      omega
  | raw rawMsg => exact short.trans (by decide)

/-- A message and its reply cross the connection whole, however the system calls split them. -/
theorem Linked.exchange (linked : Linked socket session) {message : Bytes} (fits : message.length < 2 ^ 31) :
    ∃ between final, TcpTransport.send ⟨some socket⟩ message = (true, ⟨some between⟩) ∧
      TcpTransport.recv ⟨some between⟩ = (session.replies.head?, ⟨some final⟩) ∧
      Linked final (session.after message) := by
  obtain ⟨writes, sends, through⟩ := TcpTransport.send_through socket message fits linked.writes
  have sent : socket.sent ++ Peer.recordWire message = ((session.sent ++ [message]).map Peer.recordWire).flatten := by
    simp [linked.sent]
  obtain ⟨xid, before, replies⟩ := session
  cases replies with
  | nil =>
      obtain ⟨reads, ends⟩ := @TcpTransport.recv_ended
        { socket with writes, sent := socket.sent ++ Peer.recordWire message } linked.incoming
      exact ⟨_, _, sends, ends, sent, linked.incoming, through, fun some => absurd rfl some, linked.small⟩
  | cons reply replies =>
      obtain ⟨small, rest⟩ := List.forall_mem_cons.mp linked.small
      obtain ⟨reads, receives, passing⟩ := TcpTransport.recv_through
        { socket with writes, sent := socket.sent ++ Peer.recordWire message } reply _ small
        (linked.reads (List.cons_ne_nil _ _)) linked.incoming
      exact ⟨_, _, sends, receives, sent, rfl, through, fun _ => passing, rest⟩

/-- A method takes the bytes of its transfer. -/
def Transfer.method : Transfer → Bytes → EStateM OutOfBounds RpcClient (RpcStatus × Bytes)
  | .call prog vers proc _ => RpcClient.call prog vers proc
  | .raw _ => RpcClient.rawCall

theorem Transfer.method_run {transfer : Transfer} {xid : UInt32} {between final : Socket} {reply : Option Bytes}
    (sends : TcpTransport.send ⟨some socket⟩ (transfer.message xid) = (true, ⟨some between⟩))
    (receives : TcpTransport.recv ⟨some between⟩ = (reply, ⟨some final⟩)) :
    transfer.method transfer.bytes ⟨⟨some socket⟩, xid⟩ =
      transfer.outcome xid reply ⟨⟨some final⟩, transfer.nextXid xid⟩ := by
  have connected : RpcClient.isConnected ⟨⟨some socket⟩, xid⟩ = true := rfl
  cases transfer with
  | call prog vers proc xdrArgs =>
      have sends : TcpTransport.send ⟨some socket⟩ (buildCall xid prog vers proc xdrArgs) = _ := sends
      show RpcClient.call prog vers proc xdrArgs ⟨⟨some socket⟩, xid⟩ = _
      cases reply with
      | none => simp only [RpcClient.call, if_pos connected, sends, receives, outcome, nextXid]
      | some reply =>
          cases parsed : parseReply reply xid [] <;>
            simp only [RpcClient.call, if_pos connected, sends, receives, parsed, outcome, result, nextXid]
  | raw rawMsg =>
      have sends : TcpTransport.send ⟨some socket⟩ rawMsg = _ := sends
      show RpcClient.rawCall rawMsg ⟨⟨some socket⟩, xid⟩ = _
      cases reply with
      | none => simp only [RpcClient.rawCall, if_pos connected, sends, receives, outcome, nextXid]
      | some reply => simp only [RpcClient.rawCall, if_pos connected, sends, receives, outcome, result, nextXid]

/-- Each method does with the bytes what its exchange is for. -/
theorem Transfer.method_mirrors {transfer : Transfer} (fits : transfer.Fits) :
    Mirrors (fun client session => Serves (some client) session) (transfer.method transfer.bytes) transfer.plain
      (fun result found client session => result = found ∧ Serves (some client) session)
      fun fault found _ _ => fault = found := by
  rintro client session ⟨socket, same, linked⟩
  obtain rfl := Option.some.inj same
  obtain ⟨between, final, sends, receives, sent, incoming, writes, reads, small⟩ :=
    linked.exchange (fits session.xid)
  have runs := transfer.method_run sends receives
  have serves : Serves (some ⟨⟨some final⟩, transfer.nextXid session.xid⟩)
      { session.after (transfer.message session.xid) with xid := transfer.nextXid session.xid } :=
    ⟨final, rfl, sent, incoming, writes, reads, small⟩
  rw [runs, Transfer.plain]
  cases session.replies.head? with
  | none => exact .inl ⟨_, _, _, _, rfl, rfl, rfl, serves⟩
  | some reply =>
      simp only [outcome]
      cases transfer.result session.xid reply with
      | ok result => exact .inl ⟨_, _, _, _, rfl, rfl, rfl, serves⟩
      | error fault => exact .inr ⟨_, _, _, _, rfl, rfl, rfl⟩

theorem ApiCall.run_eq (call : ApiCall) : call.run =
    interfaceCall call.transfer.method call.data call.transfer.bytes.length (some {}) call.allocated := by
  obtain ⟨transfer, data, allocated⟩ := call
  cases transfer with
  | call prog vers proc xdrArgs => rfl
  | raw rawMsg => rfl

/-- The interface hands the bytes of the caller on. -/
theorem ApiCall.copyArgs_valid {call : ApiCall} (valid : call.Valid) :
    copyArgs call.data call.transfer.bytes.length = .ok call.transfer.bytes := by
  rcases valid with ⟨null, none⟩ | ⟨behind, block⟩
  · rw [null, none]
    rfl
  · have inside : 0 + call.transfer.bytes.length ≤ (call.transfer.bytes ++ behind).length := by
      rw [List.length_append]
      omega
    rw [block, copyArgs, copyRange, if_pos inside, List.drop_zero, List.take_left]

/-- Each call of the interface does what its exchange is for, and its caller gets the results in a block. -/
theorem ApiCall.run_mirrors {call : ApiCall} (valid : call.Valid) (fits : call.transfer.Fits) :
    Mirrors Serves call.run call.plain (fun result found handle session => result = found ∧ Serves handle session)
      fun fault found _ _ => fault = found := by
  rintro handle session ⟨socket, rfl, linked⟩
  have passes : ¬ ((some ({} : Response)).isNone ∨ (call.transfer.bytes.length > 0 ∧ call.data = .null)) := by
    rintro (absent | ⟨some, null⟩)
    · exact absurd absent (by decide)
    · rcases valid with ⟨_, none⟩ | ⟨behind, block⟩
      · rw [none] at some
        exact absurd some (by decide)
      · rw [null] at block
        cases block
  rw [call.run_eq]
  obtain ⟨result, _, client, next, runs, runs', rfl, serves⟩ | ⟨fault, _, client, next, fails, fails', rfl⟩ :=
    call.transfer.method_mirrors fits _ session ⟨socket, rfl, linked⟩
  · refine .inl ⟨_, _, some client, next, ?_, bind_of_ok runs', rfl, serves⟩
    simp only [interfaceCall, if_neg passes, copyArgs_valid valid, runs]
    rfl
  · refine .inr ⟨fault, _, some client, next, ?_, bind_of_error fails', rfl⟩
    simp only [interfaceCall, if_neg passes, copyArgs_valid valid, fails]

end Nfs3Rpc.SimpleRpc
