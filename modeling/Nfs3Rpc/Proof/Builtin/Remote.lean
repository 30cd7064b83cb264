import Nfs3Rpc.Format.Remote
import Nfs3Rpc.Proof.Builtin.Exchange
import Nfs3Rpc.Proof.SimpleRpc.Sessions

namespace Nfs3Rpc
open Encoding Builtin SimpleRpc

variable {σ α : Type} {server : FileServer σ}

/-- What the caller can see of a result depends on what can be seen of the reply. -/
theorem CallerReturns.seen {proc : ProcNum} {res : Res proc.Resok} {result : Except Nfs3Error proc.Resok}
    (fits : proc.ResFit res) (returns : CallerReturns proc res result) :
    Nfs3Rpc.seen proc result = Nfs3Rpc.seen proc (resultOf (.ok res)) := by
  obtain ⟨succeeds, fails⟩ := returns
  obtain ⟨status, resok⟩ := res
  by_cases good : status = .NFS3_OK
  · obtain ⟨ok, held, got, rfl, visible⟩ := succeeds good
    obtain rfl : resok = some ok := held
    have found : resultOf (.ok ⟨status, some ok⟩) = .ok ok := if_neg (not_not.mpr good)
    rw [found]
    exact congrArg Except.ok visible
  · rw [fails good]
    have refused : resultOf (.ok ⟨status, resok⟩) = .error .SERVERFAULT := if_pos good
    rw [refused]

/-- The connection holds the replies to the calls that are still to come, and their messages complete those of the
whole run. -/
def RemoteLinked (server : FileServer σ) (messages : List Bytes) (endpoint : RPCEndpoint) (_ : σ)
    (later : List (Asked NFS3TestClient.Method σ)) : Prop :=
  ∃ socket xid sent, endpoint = ⟨some ⟨⟨some socket⟩, xid⟩⟩ ∧
    sent ++ numbered callMessage xid later = messages ∧
    (∀ asked ∈ later, server.Allows asked) ∧ Linked socket ⟨xid, sent, numbered server.reply xid later⟩

theorem callMessage_short {asked : Asked NFS3TestClient.Method σ} (allows : server.Allows asked) (xid : UInt32) :
    (callMessage xid asked).length < 2 ^ 31 := by
  have length := buildCall_length xid NFS_PROGRAM NFS_V3 asked.index.code
    (packed (asked.index.serializeArgs asked.op.args))
  have short := allows.shortCall
  show (buildCall _ _ _ _ _).length < 2 ^ 31
  omega

/-- One method over the connection returns what the server alone returns, and the connection keeps up. -/
theorem perform_linked {memory : RPCEndpoint → Uninitialized} {messages : List Bytes} (proc : ProcNum)
    (method : NFS3TestClient.Method proc) (endpoint : RPCEndpoint) (state : σ)
    (later : List (Asked NFS3TestClient.Method σ))
    (linked : RemoteLinked server messages endpoint state (⟨proc, method, state⟩ :: later)) :
    ∃ next, NFS3TestClient.perform memory proc method endpoint = .ok (server.serve proc method state).1 next ∧
      RemoteLinked server messages next (server.serve proc method state).2 later := by
  obtain ⟨socket, xid, sent, rfl, whole, allowed, linked⟩ := linked
  obtain ⟨allows, rest⟩ := List.forall_mem_cons.mp allowed
  obtain ⟨between, final, sends, receives, still⟩ := linked.exchange (callMessage_short allows xid)
  have argsEmit := @ProcNum.serializeArgs_emits 0 proc method.args allows.args
  have resEmit := @ProcNum.serializeRes_emits 0 proc _ allows.res
  obtain ⟨got, decodes, same⟩ :=
    decodeResponse_resWire (memory ⟨some ⟨⟨some socket⟩, xid⟩⟩) proc _ allows.res
  have results : server.results ⟨proc, method, state⟩ = proc.resWire (server.act proc method.args state).1 :=
    packed_of_emits resEmit
  have packs : packed (proc.serializeArgs method.args) = proc.argsWire method.args := packed_of_emits argsEmit
  rw [callMessage, packs] at sends
  have calls : RpcClient.call NFS_PROGRAM NFS_V3 proc.code (proc.argsWire method.args) ⟨⟨some socket⟩, xid⟩ =
      .ok (.OK, proc.resWire (server.act proc method.args state).1) ⟨⟨some final⟩, xid + 1⟩ := by
    apply RpcClient.call_of_reply rfl sends receives
    show parseReply (Peer.successReply xid (server.results ⟨proc, method, state⟩)) xid [] = _
    rw [parseReply_successReply, results]
  have connected : RpcClient.isConnected ⟨⟨some socket⟩, xid⟩ = true := rfl
  have answers : RPCEndpoint.call (memory ⟨some ⟨⟨some socket⟩, xid⟩⟩) proc method.args
    ⟨some ⟨⟨some socket⟩, xid⟩⟩ =
      .ok (.ok got) ⟨some ⟨⟨some final⟩, xid + 1⟩⟩ := by
    simp only [RPCEndpoint.call, if_pos connected, run_of_emits argsEmit, calls, statusError, decodes]
  have returns : method.run (memory ⟨some ⟨⟨some socket⟩, xid⟩⟩) ⟨some ⟨⟨some socket⟩, xid⟩⟩ =
      .ok (resultOf (.ok got)) ⟨some ⟨⟨some final⟩, xid + 1⟩⟩ := by
    rw [method.run_eq_invoke, NFS3TestClient.invoke, bind_of_ok answers]
    rfl
  refine ⟨⟨some ⟨⟨some final⟩, xid + 1⟩⟩, ?_, final, xid + 1,
    sent ++ [callMessage xid ⟨proc, method, state⟩], rfl,
    ?_, rest, ?_⟩
  · simp only [NFS3TestClient.perform, returns]
    rw [(resultOf_returns proc _ got allows.res same).seen allows.res]
    rfl
  · rw [List.append_assoc]
    exact whole
  · exact ⟨still.sent, still.incoming, still.writes, still.reads, still.small⟩

theorem ProcNum.find_code (proc : ProcNum) : (ProcNum.all.find? fun other => other.code = proc.code) = some proc := by
  cases proc <;> rfl

/-- The server makes of the message of a call the reply to it, and ends where it would end without a connection. -/
theorem FileServer.answer_callMessage {asked : Asked NFS3TestClient.Method σ} (allows : server.Allows asked)
    (xid : UInt32) : server.answer (callMessage xid asked) asked.state =
      some (server.reply xid asked, (server.serve asked.index asked.op asked.state).2) := by
  obtain ⟨proc, method, state⟩ := asked
  have argsEmit := @ProcNum.serializeArgs_emits 0 proc method.args allows.args
  have packs : packed (proc.serializeArgs method.args) = proc.argsWire method.args := packed_of_emits argsEmit
  obtain ⟨got, decodes, same⟩ := run_of_reads
    (proc.deserializeArgs_reads (server.prior proc) method.args (server.fresh proc) allows.args)
  have passes : ¬ (NFS_PROGRAM ≠ NFS_PROGRAM ∨ NFS_V3 ≠ NFS_V3) := by simp
  have whole : ¬ (proc.argsWire method.args).length ≠ (proc.argsWire method.args).length := not_not.mpr rfl
  simp only [answer, callMessage, packs, buildCall_header, if_neg passes, proc.find_code, decodes, if_neg whole,
    server.sees proc got method.args state same]
  rfl

/-- By induction on the script: the server answers the messages of the run one by one. -/
theorem FileServer.answerAll_asked (usage : Usage α) (state : σ)
    (allowed : ∀ asked ∈ usage.asked server.serve state, server.Allows asked) (xid : UInt32) :
    server.answerAll (numbered callMessage xid (usage.asked server.serve state)) state =
      some (numbered server.reply xid (usage.asked server.serve state), (usage.runWith server.serve state).2) := by
  induction usage generalizing state xid with
  | done value => rfl
  | call proc method next recurse =>
      obtain ⟨allows, rest⟩ := List.forall_mem_cons.mp allowed
      have first := server.answer_callMessage allows xid
      have others := recurse (server.serve proc method state).1 (server.serve proc method state).2 rest (xid + 1)
      simp only [Script.asked, numbered, answerAll, first, Script.runWith]
      rw [Option.bind_eq_bind, Option.bind_some, others]
      rfl

/-- A client program with a file server behind its connection returns what it returns with the server alone, however
the system calls split the bytes; the server gets its calls in order, and ends in the same state. -/
theorem remote_is_local (server : FileServer σ) (usage : Usage α) (state : σ)
    (memory : RPCEndpoint → Uninitialized)
    (socket : Socket) (xid : UInt32) (allowed : ∀ asked ∈ usage.asked server.serve state, server.Allows asked)
    (linked : Linked socket ⟨xid, [], numbered server.reply xid (usage.asked server.serve state)⟩) :
    (∃ final last, usage.run (NFS3TestClient.perform memory) ⟨some ⟨⟨some socket⟩, xid⟩⟩ =
        .ok (usage.runWith server.serve state).1 ⟨some ⟨⟨some final⟩, last⟩⟩ ∧
      Linked final ⟨last, numbered callMessage xid (usage.asked server.serve state), []⟩) ∧
    server.answerAll (numbered callMessage xid (usage.asked server.serve state)) state =
      some (numbered server.reply xid (usage.asked server.serve state), (usage.runWith server.serve state).2) := by
  refine ⟨?_, server.answerAll_asked usage state allowed xid⟩
  obtain ⟨_, runs, final, last, sent, rfl, whole, _, ends⟩ := Script.run_of_steps
    (fun proc method endpoint state later => @perform_linked _ server memory _ proc method endpoint state later)
    usage _ state ⟨socket, xid, [], rfl, rfl, allowed, linked⟩
  rw [numbered, List.append_nil] at whole
  rw [whole] at ends
  exact ⟨final, last, runs, ends⟩

/-- The undefined members of default-initialized arguments are zero here. -/
def ProcNum.zeroArgs : (proc : ProcNum) → proc.Args
  | .GETATTR => ({} : GETATTR3args)
  | .SETATTR => ({} : SETATTR3args)
  | .LOOKUP => ({} : LOOKUP3args)
  | .ACCESS => ({} : ACCESS3args)
  | .READLINK => ({} : READLINK3args)
  | .READ => ({} : READ3args)
  | .WRITE => ({} : WRITE3args)
  | .CREATE => ({ howMode := ⟨0⟩, howVerf := .zero } : CREATE3args)
  | .MKDIR => ({} : MKDIR3args)
  | .SYMLINK => ({} : SYMLINK3args)
  | .MKNOD => ({ whatType := ⟨0⟩ } : MKNOD3args)
  | .REMOVE => ({} : REMOVE3args)
  | .RMDIR => ({} : RMDIR3args)
  | .RENAME => ({} : RENAME3args)
  | .LINK => ({} : LINK3args)
  | .READDIR => ({} : READDIR3args)
  | .READDIRPLUS => ({} : READDIRPLUS3args)
  | .FSSTAT => ({} : FSSTAT3args)
  | .FSINFO => ({} : FSINFO3args)
  | .PATHCONF => ({} : PATHCONF3args)
  | .COMMIT => ({} : COMMIT3args)

theorem ProcNum.zeroArgs_fresh (proc : ProcNum) : proc.FreshArgs proc.zeroArgs := by
  cases proc with
  | CREATE => exact ⟨⟨0⟩, .zero, rfl⟩
  | MKNOD => exact ⟨⟨0⟩, rfl⟩
  | _ => rfl

/-- This server grants every access, refuses the other calls, and counts them all. -/
def grantingServer : FileServer Nat where
  act := fun proc args count =>
    match proc, args with
    | .ACCESS, args => ({ status := .NFS3_OK, resok := some { access := ACCESS3args.access args } }, count + 1)
    | _, _ => ({ status := .NFS3ERR_INVAL, resok := none }, count + 1)
  sees := by
    intro proc args args' count same
    cases proc with
    | ACCESS =>
        obtain rfl : args = args' := same
        rfl
    | _ => rfl
  prior := ProcNum.zeroArgs
  fresh := ProcNum.zeroArgs_fresh

/-- The second call is made only when the first one succeeds. -/
def accessThenGetattr : Usage Bool :=
  .call .ACCESS (.access {} 7) fun granted =>
    match granted with
    | .ok _ => .call .GETATTR (.getattr {}) fun _ => .done true
    | .error _ => .done false

def grantingPeer : Socket where
  incoming := ((numbered grantingServer.reply 1 (accessThenGetattr.asked grantingServer.serve 0)).map
    Peer.recordWire).flatten
  writes := [.moved 1, .interrupted]
  reads := List.replicate 9 (.moved 1)

theorem remote_is_local_granted :
    (∃ final last, accessThenGetattr.run (NFS3TestClient.perform fun _ => ⟨⟨9⟩, .zero⟩)
          ⟨some ⟨⟨some grantingPeer⟩, 1⟩⟩ =
        .ok (accessThenGetattr.runWith grantingServer.serve 0).1 ⟨some ⟨⟨some final⟩, last⟩⟩ ∧
      Linked final ⟨last, numbered callMessage 1 (accessThenGetattr.asked grantingServer.serve 0), []⟩) ∧
    grantingServer.answerAll (numbered callMessage 1 (accessThenGetattr.asked grantingServer.serve 0)) 0 =
      some (numbered grantingServer.reply 1 (accessThenGetattr.asked grantingServer.serve 0),
        (accessThenGetattr.runWith grantingServer.serve 0).2) := by
  have asked : accessThenGetattr.asked grantingServer.serve 0 =
      [⟨.ACCESS, .access {} 7, 0⟩, ⟨.GETATTR, .getattr {}, 1⟩] := rfl
  apply remote_is_local
  · rw [asked]
    simp only [List.forall_mem_cons]
    have noHandle : Short [] := show 0 < 2 ^ 32 by decide
    have access : grantingServer.Allows ⟨.ACCESS, .access {} 7, 0⟩ :=
      ⟨noHandle, ⟨by decide, fun _ _ => trivial⟩, by decide, by decide⟩
    have getattr : grantingServer.Allows ⟨.GETATTR, .getattr {}, 1⟩ :=
      ⟨noHandle, ⟨by decide, fun _ _ => trivial⟩, by decide, by decide⟩
    exact ⟨access, getattr, List.forall_mem_nil _⟩
  · refine ⟨rfl, rfl, ?_, fun _ => ?_, by decide⟩
    · unfold WritesThrough
      decide
    · unfold ReadsThrough WritesThrough
      decide

end Nfs3Rpc
