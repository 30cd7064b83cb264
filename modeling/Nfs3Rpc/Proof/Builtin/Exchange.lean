import Nfs3Rpc.Proof.Builtin.RoundTrip
import Nfs3Rpc.Proof.SimpleRpc.Messages
import Nfs3Rpc.Proof.SimpleRpc.Transport

namespace Nfs3Rpc
open Encoding Builtin SimpleRpc

/-- A writer with a known wire leaves exactly that wire in an empty buffer. -/
theorem packed_of_emits {program : Xdr Unit} {wire : Bytes}
    (emits : Emits (XdrBuffer.writing 0) program () wire) : packed program = wire := by
  rw [packed, run_of_emits emits]

/-- A call whose reply arrives returns what the parser makes of it. -/
theorem RpcClient.call_of_reply {client : RpcClient} {prog vers proc : UInt32} {args replyData : Bytes}
    {sentState received : TcpTransport} {reply : RpcStatus × Bytes} (connected : client.isConnected = true)
    (sends : client.transport.send (buildCall client.xid prog vers proc args) = (true, sentState))
    (receives : sentState.recv = (some replyData, received))
    (parses : parseReply replyData client.xid [] = .ok reply) :
    RpcClient.call prog vers proc args client = .ok reply ⟨received, client.xid + 1⟩ := by
  simp only [RpcClient.call, if_pos connected, sends, receives, parses]

/-- A connected client uses up one xid for a call, whatever comes back. -/
theorem RpcClient.call_counts {client left : RpcClient} {prog vers proc : UInt32} {args : Bytes}
    {result : RpcStatus × Bytes} (connected : client.isConnected = true)
    (calls : RpcClient.call prog vers proc args client = .ok result left) : left.xid = client.xid + 1 := by
  simp only [RpcClient.call, if_pos connected] at calls
  split at calls
  · cases calls
    rfl
  · split at calls
    · cases calls
      rfl
    · split at calls <;> cases calls
      rfl

/-- A call is refused, and leaves its endpoint alone, exactly when there is no connection. -/
theorem RPCEndpoint.call_refused_iff (memory : Uninitialized) (proc : ProcNum) (args : proc.Args)
    (endpoint : RPCEndpoint) :
    RPCEndpoint.call memory proc args endpoint = .ok (.error .CONNECTION_FAILED) endpoint ↔
      endpoint.isConnected = false := by
  obtain ⟨impl⟩ := endpoint
  cases impl with
  | none => exact iff_of_true rfl rfl
  | some client =>
      by_cases connected : client.isConnected = true
      · apply iff_of_false
        · intro refused
          simp only [RPCEndpoint.call, if_pos connected] at refused
          have moved : ∀ left : RpcClient, left.xid = client.xid + 1 → left ≠ client := by
            rintro left counted rfl
            simp at counted
          split at refused
          · cases refused
          · split at refused
            · cases refused
            · next calls =>
                have counted := RpcClient.call_counts connected calls
                split at refused <;>
                  exact moved _ counted (Option.some.inj (RPCEndpoint.mk.inj (EStateM.Result.ok.inj refused).2))
        · simpa [RPCEndpoint.isConnected] using connected
      · apply iff_of_true
        · simp only [RPCEndpoint.call, if_neg connected]
        · simpa [RPCEndpoint.isConnected] using connected

theorem ProcNum.resWire_isEmpty (proc : ProcNum) (res : Res proc.Resok) : (proc.resWire res).isEmpty = false :=
  rfl

/-- The response body of a fitting result decodes to what is visible of it. -/
theorem decodeResponse_resWire (memory : Uninitialized) (proc : ProcNum) (res : Res proc.Resok)
    (fits : proc.ResFit res) :
    ∃ got, decodeResponse memory proc (proc.resWire res) = .ok got ∧ proc.visibleRes got = proc.visibleRes res := by
  obtain ⟨got, runs, same⟩ := run_of_reads
    (proc.deserializeRes_reads memory.verf { status := memory.status } res rfl fits)
  refine ⟨got, ?_, same⟩
  rw [decodeResponse, proc.resWire_isEmpty, runs]
  rfl

/-- The tests after the call depend only on what is visible. -/
theorem resultOf_returns (proc : ProcNum) (res got : Res proc.Resok) (fits : proc.ResFit res)
    (same : proc.visibleRes got = proc.visibleRes res) : CallerReturns proc res (resultOf (.ok got)) := by
  obtain ⟨status, resok⟩ := res
  obtain ⟨gotStatus, gotResok⟩ := got
  obtain ⟨rfl, sameResok⟩ : gotStatus = status ∧
      gotResok.map proc.visibleResok = resok.map proc.visibleResok := by
    simpa [ProcNum.visibleRes] using same
  constructor
  · intro succeeded
    obtain ⟨ok, rfl⟩ := Option.isSome_iff_exists.mp (fits.1.mp succeeded)
    obtain ⟨gotOk, rfl, visible⟩ := Option.map_eq_some_iff.mp sameResok
    exact ⟨ok, rfl, gotOk, if_neg (not_not.mpr succeeded), visible⟩
  · intro failed
    exact if_pos failed

/-- Each method runs the shared call with the arguments that it is meant to send. -/
theorem NFS3TestClient.Method.run_eq_invoke {proc : ProcNum} (method : NFS3TestClient.Method proc) :
    method.run = NFS3TestClient.invoke proc method.args := by
  cases method <;> rfl

end Nfs3Rpc
