import Nfs3Rpc.Format.Exchange
import Nfs3Rpc.Proof.Builtin.Mount

namespace Nfs3Rpc
open Encoding Builtin SimpleRpc

/-- Only a connected client gets an answer. -/
theorem MountClient.Gets.connected {client : MountClient} {proc : UInt32} {args body : Bytes}
    (gets : client.Gets proc args body) : client.isConnected = true := by
  obtain ⟨left, calls⟩ := gets
  by_contra lost
  have refused : RpcClient.call MOUNTPROG MOUNTVERS proc args client.rpcClient =
      .ok (.CONN_ERR, []) client.rpcClient := if_neg lost
  exact nomatch calls.symm.trans refused

/-- A method returns what its decoder returns for the body. -/
theorem MountClient.answered_ok_iff {α : Type} {client : MountClient} {proc : UInt32} {args body : Bytes}
    {decode : Bytes → Except XdrError (Except MountError α)} (gets : client.Gets proc args body)
    (result : Except MountError α) :
    (∃ last, MountClient.answered proc args decode client = .ok result last) ↔ decode body = .ok result := by
  obtain ⟨left, calls⟩ := gets
  simp only [MountClient.answered, calls]
  cases decode body with
  | ok value => simp
  | error error => simp

theorem MountClient.mnt_ok_iff {client : MountClient} {path body : Bytes} {args : XdrBuffer}
    (packs : packString path XdrBuffer.empty = .ok () args) (gets : client.Gets MOUNTPROC_MNT args.buffer body)
    (result : Except MountError MountResult) :
    (∃ last, MountClient.mnt path client = .ok result last) ↔ ∃ fhs, xdrUnpackFhstatus body = .ok fhs ∧
      result = if fhs.status ≠ 0 then .error (mountError fhs.status)
        else .ok { rootHandle := ⟨fhs.fhandle⟩ } := by
  simp only [MountClient.mnt, if_pos gets.connected, packs]
  rw [MountClient.answered_ok_iff gets]
  cases xdrUnpackFhstatus body with
  | error error => simp [bind, Except.bind]
  | ok fhs =>
      by_cases zero : fhs.status = 0
      · simp [bind, Except.bind, pure, Except.pure, zero, eq_comm]
      · simp [bind, Except.bind, pure, Except.pure, zero, eq_comm]

theorem MountClient.listExports_ok_iff {client : MountClient} {body : Bytes}
    (gets : client.Gets MOUNTPROC_EXPORT [] body) (result : Except MountError (List Bytes)) :
    (∃ last, MountClient.listExports client = .ok result last) ↔
      ∃ dirs, xdrUnpackExports body [] = .ok dirs ∧ result = .ok dirs := by
  simp only [MountClient.listExports, if_pos gets.connected]
  rw [MountClient.answered_ok_iff gets]
  cases xdrUnpackExports body [] with
  | error error => simp [bind, Except.bind]
  | ok dirs => simp [bind, Except.bind, pure, Except.pure, eq_comm]

/-- A reply becomes a value exactly when it is complete for its decoder; otherwise an exception leaves the method.
A handle is returned only for a body with the status zero and a whole handle. -/
theorem MountClient.replies_become_values_iff (client : MountClient) (path body : Bytes) (args : XdrBuffer) :
    (packString path XdrBuffer.empty = .ok () args → client.Gets MOUNTPROC_MNT args.buffer body →
      ((∃ result last, MountClient.mnt path client = .ok result last) ↔ HoldsFhstatus body) ∧
        ∀ mounted last, MountClient.mnt path client = .ok (.ok mounted) last →
          HoldsHandle mounted.rootHandle.data body) ∧
    (client.Gets MOUNTPROC_EXPORT [] body →
      ((∃ result last, MountClient.listExports client = .ok result last) ↔ ∃ dirs, HoldsExports dirs body)) := by
  constructor
  · intro packs gets
    constructor
    · rw [← xdrUnpackFhstatus_returns_iff]
      simp only [MountClient.mnt_ok_iff packs gets]
      constructor
      · intro returns
        obtain ⟨_, fhs, returns, _⟩ := returns
        exact ⟨fhs, returns⟩
      · intro returns
        obtain ⟨fhs, returns⟩ := returns
        exact ⟨_, fhs, returns, rfl⟩
    · intro mounted last returns
      obtain ⟨fhs, decodes, same⟩ := (MountClient.mnt_ok_iff packs gets _).mp ⟨last, returns⟩
      by_cases zero : fhs.status = 0
      · rw [if_neg (not_not.mpr zero)] at same
        obtain rfl := Except.ok.inj same
        exact (xdrUnpackFhstatus_found decodes).2 zero
      · rw [if_pos zero] at same
        exact nomatch same
  · intro gets
    simp only [MountClient.listExports_ok_iff gets, xdrUnpackExports_ok_iff]
    constructor
    · intro returns
      obtain ⟨_, dirs, holds, _⟩ := returns
      exact ⟨dirs, holds⟩
    · intro holds
      obtain ⟨dirs, holds⟩ := holds
      exact ⟨_, dirs, holds, rfl⟩

/-- The body of the answer is not looked at, so `umnt` takes any one for a success. -/
theorem MountClient.umnt_ok_iff {client : MountClient} {path : Bytes} {args : XdrBuffer}
    (packs : packString path XdrBuffer.empty = .ok () args) :
    (∃ last, MountClient.umnt path client = .ok (.ok ()) last) ↔
      ∃ body, client.Gets MOUNTPROC_UMNT args.buffer body := by
  constructor
  · intro returns
    obtain ⟨last, returns⟩ := returns
    by_cases connected : client.isConnected = true
    · simp only [MountClient.umnt, if_pos connected, packs, MountClient.answered] at returns
      split at returns
      · cases returns
      · next body left calls => exact ⟨body, left, calls⟩
      · cases returns
    · rw [MountClient.umnt, if_neg connected] at returns
      cases returns
  · intro gets
    obtain ⟨body, gets⟩ := gets
    simp only [MountClient.umnt, if_pos gets.connected, packs]
    exact (MountClient.answered_ok_iff gets _).mpr rfl

/-- The constructor does not tell whether it could connect, but each method does: without a connection it refuses, and
leaves the client alone. -/
theorem MountClient.construct_refuses_iff (opened : Option Socket) (path : Bytes) :
    (MountClient.mnt path (.construct opened) = .ok (.error .RPC_ERROR) (.construct opened) ∧
      MountClient.umnt path (.construct opened) = .ok (.error .RPC_ERROR) (.construct opened) ∧
      MountClient.listExports (.construct opened) = .ok (.error .RPC_ERROR) (.construct opened) ∧
      MountClient.dump (.construct opened) = .ok (.error .RPC_ERROR) (.construct opened)) ↔ opened = none := by
  cases opened with
  | none => exact iff_of_true ⟨rfl, rfl, rfl, rfl⟩ rfl
  | some socket =>
      -- A dump on a connection returns an empty list without asking anyone.
      have dumps : MountClient.dump (.construct (some socket)) = .ok (.ok []) (.construct (some socket)) := rfl
      apply iff_of_false
      · intro ⟨_, _, _, refused⟩
        exact nomatch dumps.symm.trans refused
      · exact nofun

/-- A new client whose server answers its first call with this body. -/
def mountedOn (body : Bytes) : MountClient :=
  ⟨⟨⟨some { incoming := Peer.recordWire (Peer.successReply 1 body) }⟩, 1⟩⟩

theorem MountClient.replies_become_values_small :
    ((∃ result last, MountClient.mnt [47] (mountedOn (be32 13)) = .ok result last) ↔ HoldsFhstatus (be32 13)) ∧
      ((∃ result last, MountClient.listExports (mountedOn (be32 0)) = .ok result last) ↔
        ∃ dirs, HoldsExports dirs (be32 0)) :=
  ⟨((MountClient.replies_become_values_iff (mountedOn (be32 13)) [47] (be32 13) ⟨[0, 0, 0, 1, 47, 0, 0, 0], 0⟩).1
      rfl ⟨_, rfl⟩).1,
    (MountClient.replies_become_values_iff (mountedOn (be32 0)) [] (be32 0) XdrBuffer.empty).2 ⟨_, rfl⟩⟩

/-- An empty body and a body with nothing but the status zero make exceptions leave the methods. -/
theorem MountClient.short_replies_escape :
    (∃ args, packString [47] XdrBuffer.empty = .ok () args ∧
      (mountedOn (be32 0)).Gets MOUNTPROC_MNT args.buffer (be32 0) ∧
      ∃ last, MountClient.mnt [47] (mountedOn (be32 0)) = .error (.uncaught (.insufficientData 4 4 0)) last) ∧
    (mountedOn []).Gets MOUNTPROC_EXPORT [] [] ∧
      ∃ last, MountClient.listExports (mountedOn []) = .error (.uncaught (.insufficientData 4 0 0)) last :=
  ⟨⟨_, rfl, ⟨_, rfl⟩, _, rfl⟩, ⟨_, rfl⟩, _, rfl⟩

end Nfs3Rpc
