import Nfs3Rpc.Format.Messages
import Nfs3Rpc.Proof.SimpleRpc.Messages

namespace Nfs3Rpc
open Encoding SimpleRpc

theorem Peer.uints_reads (values : List UInt32) :
    Reads Peer.reading (Peer.uints values.length) (values.map be32).flatten (· = values) := by
  induction values with
  | nil => exact Reads.pure rfl
  | cons value later recurse =>
      apply Reads.field (Peer.uint_reads value)
      exact Reads.returning recurse rfl

theorem SimpleRpc.credBody_fields (stamp uid gid : UInt32) (gids : List UInt32) :
    credBody stamp uid gid gids = [be32 stamp, opaqueBytes hostname, be32 uid, be32 gid,
      be32 (UInt32.ofNat gids.length), (gids.map be32).flatten].flatten := by
  simp only [credBody, opaqueBytes, List.flatten_cons, List.append_assoc]
  rfl

/-- A credential is read to its last byte. -/
theorem SimpleRpc.credBody_parms (stamp uid gid : UInt32) (gids : List UInt32) (few : gids.length < 2 ^ 32) :
    Peer.authSysParms (credBody stamp uid gid gids) = .ok ⟨stamp, hostname, uid, gid, gids⟩ [] := by
  have count : (UInt32.ofNat gids.length).toNat = gids.length := by
    rw [UInt32.toNat_ofNat', Nat.mod_eq_of_lt few]
  have short : Short hostname := show 9 < 2 ^ 32 by decide
  have reads : Reads Peer.reading Peer.authSysFields (credBody stamp uid gid gids)
      (· = ⟨stamp, hostname, uid, gid, gids⟩) := by
    rw [credBody_fields]
    apply Reads.field (Peer.uint_reads stamp)
    apply Reads.field (Peer.varOpaque_reads hostname short)
    apply Reads.field (Peer.uint_reads uid)
    apply Reads.field (Peer.uint_reads gid)
    apply Reads.field (Peer.uint_reads _)
    rw [count]
    exact .field (Peer.uints_reads gids) <| .done rfl
  obtain ⟨parms, left, runs, rfl, rfl⟩ := reads (credBody stamp uid gid gids) [] [] (List.append_nil _).symm
  have empty : (do Peer.finished; return (⟨stamp, hostname, uid, gid, gids⟩ : Peer.AuthSysParms) : Peer.Read _) [] =
      .ok ⟨stamp, hostname, uid, gid, gids⟩ [] := rfl
  rw [← empty, Peer.authSysParms]
  exact bind_of_ok runs

theorem SimpleRpc.flatten_be32_length (values : List UInt32) :
    (values.map be32).flatten.length = 4 * values.length := by
  induction values with
  | nil => rfl
  | cons value later recurse =>
      rw [List.map_cons, List.flatten_cons, List.length_append, be32_length, recurse, List.length_cons]
      omega

theorem SimpleRpc.credBody_length (stamp uid gid : UInt32) (gids : List UInt32) :
    (credBody stamp uid gid gids).length = 32 + 4 * gids.length := by
  have name : (padded hostname).length = 12 := rfl
  simp only [credBody, List.flatten_cons, List.flatten_nil, List.length_append, be32_length, name,
    flatten_be32_length, List.length_nil]
  omega

/-- The bytes before the credential stay, and the credential describes itself to its last byte. -/
theorem SimpleRpc.writeAuthSysCred_describes (buf : Bytes) (stamp uid gid : UInt32) (gids : List UInt32)
    (few : gids.length < 2 ^ 29) :
    ∃ len body, writeAuthSysCred buf stamp uid gid gids = buf ++ (be32 AUTH_SYS ++ (be32 len ++ body)) ∧
      len.toNat = body.length ∧
      Peer.opaqueAuth (be32 AUTH_SYS ++ (be32 len ++ body)) = .ok ⟨AUTH_SYS, body⟩ [] ∧
      Peer.authSysParms body = .ok ⟨stamp, hostname, uid, gid, gids⟩ [] ∧
      (body.drop 4).take 16 = be32 9 ++ hostname ++ [0, 0, 0] := by
  have length := credBody_length stamp uid gid gids
  have short : Short (credBody stamp uid gid gids) := by
    unfold Short
    omega
  have whole : opaqueBytes (credBody stamp uid gid gids) =
      be32 (UInt32.ofNat (credBody stamp uid gid gids).length) ++ credBody stamp uid gid gids := by
    have aligned : padding (credBody stamp uid gid gids).length = 0 := by
      unfold padding
      omega
    rw [opaqueBytes, padded, aligned, List.replicate_zero, List.append_nil]
  obtain ⟨auth, left, runs, rfl, rfl⟩ := Peer.opaqueAuth_reads AUTH_SYS _ short
    [be32 AUTH_SYS, opaqueBytes (credBody stamp uid gid gids)].flatten [] [] (List.append_nil _).symm
  refine ⟨_, credBody stamp uid gid gids, ?_, UInt32.toNat_ofNat_of_lt' short, ?_,
    credBody_parms _ _ _ _ (by omega), ?_⟩
  · rw [writeAuthSysCred_eq, List.append_assoc, List.append_assoc]
  · rw [← runs, List.flatten_cons, List.flatten_cons, List.flatten_nil, List.append_nil, whole]
  · have name : opaqueBytes hostname = be32 9 ++ hostname ++ [0, 0, 0] := rfl
    have size : (opaqueBytes hostname).length = 16 := rfl
    rw [credBody_fields, List.flatten_cons, List.drop_left' (be32_length stamp), List.flatten_cons,
      List.take_left' size, name]

theorem SimpleRpc.writeAuthSysCred_describes_two : ∃ len body,
    writeAuthSysCred [7] 1 2 3 [4, 5] = [7] ++ (be32 AUTH_SYS ++ (be32 len ++ body)) ∧
      len.toNat = body.length ∧
      Peer.opaqueAuth (be32 AUTH_SYS ++ (be32 len ++ body)) = .ok ⟨AUTH_SYS, body⟩ [] ∧
      Peer.authSysParms body = .ok ⟨1, hostname, 2, 3, [4, 5]⟩ [] ∧
      (body.drop 4).take 16 = be32 9 ++ hostname ++ [0, 0, 0] :=
  writeAuthSysCred_describes [7] 1 2 3 [4, 5] (by decide)

/-- The peer finds one legal call with the given words, an exact credential, and exactly the arguments. -/
theorem SimpleRpc.buildCall_legal (xid prog vers proc : UInt32) (argsBody : Bytes) :
    (∃ cred, Peer.callHeader (buildCall xid prog vers proc argsBody) =
        .ok ⟨xid, prog, vers, proc, ⟨AUTH_SYS, cred⟩, ⟨AUTH_NONE, []⟩⟩ argsBody ∧
      Peer.authSysParms cred = .ok ⟨0, hostname, 0, 0, []⟩ []) ∧
    ∀ xid' prog' vers' proc' argsBody', buildCall xid prog vers proc argsBody =
        buildCall xid' prog' vers' proc' argsBody' →
      xid = xid' ∧ prog = prog' ∧ vers = vers' ∧ proc = proc' ∧ argsBody = argsBody' := by
  constructor
  · exact ⟨credBody 0 0 0 [], buildCall_header xid prog vers proc argsBody, credBody_parms 0 0 0 [] (by decide)⟩
  · intro xid' prog' vers' proc' argsBody' same
    have headers := congrArg Peer.callHeader same
    rw [buildCall_header, buildCall_header] at headers
    obtain ⟨calls, args⟩ := EStateM.Result.ok.inj headers
    obtain ⟨xids, progs, verss, procs, _⟩ := Peer.CallHeader.mk.inj calls
    exact ⟨xids, progs, verss, procs, args⟩

end Nfs3Rpc
