import Nfs3Rpc.Proof.Builtin.Arguments
import Nfs3Rpc.Proof.Builtin.Directory

namespace Nfs3Rpc
open Encoding Builtin

variable {pos : Nat}

theorem ProcNum.serializeArgs_emits (proc : ProcNum) (args : proc.Args) (fits : proc.ArgsFit args) :
    Emits (XdrBuffer.writing pos) (proc.serializeArgs args) () (proc.argsWire args) := by
  cases proc with
  | GETATTR => exact GETATTR3args.serialize_emits args fits
  | SETATTR => exact SETATTR3args.serialize_emits args fits
  | LOOKUP => exact LOOKUP3args.serialize_emits args fits
  | ACCESS => exact ACCESS3args.serialize_emits args fits
  | READLINK => exact READLINK3args.serialize_emits args fits
  | READ => exact READ3args.serialize_emits args fits
  | WRITE => exact WRITE3args.serialize_emits args fits
  | CREATE => exact CREATE3args.serialize_emits args fits
  | MKDIR => exact MKDIR3args.serialize_emits args fits
  | SYMLINK => exact SYMLINK3args.serialize_emits args fits
  | MKNOD => exact MKNOD3args.serialize_emits args fits
  | REMOVE => exact REMOVE3args.serialize_emits args fits
  | RMDIR => exact RMDIR3args.serialize_emits args fits
  | RENAME => exact RENAME3args.serialize_emits args fits
  | LINK => exact LINK3args.serialize_emits args fits
  | READDIR => exact READDIR3args.serialize_emits args fits
  | READDIRPLUS => exact READDIRPLUS3args.serialize_emits args fits
  | FSSTAT => exact FSSTAT3args.serialize_emits args fits
  | FSINFO => exact FSINFO3args.serialize_emits args fits
  | PATHCONF => exact PATHCONF3args.serialize_emits args fits
  | COMMIT => exact COMMIT3args.serialize_emits args fits

/-- A fresh argument object receives what is visible of the arguments. -/
theorem ProcNum.deserializeArgs_reads (proc : ProcNum) (prior args : proc.Args)
    (fresh : proc.FreshArgs prior) (fits : proc.ArgsFit args) :
    Reads XdrBuffer.reading (proc.deserializeArgs prior) (proc.argsWire args)
      (proc.visibleArgs · = proc.visibleArgs args) := by
  cases proc with
  | GETATTR => exact GETATTR3args.deserialize_reads args fits
  | SETATTR =>
      obtain rfl := fresh
      exact SETATTR3args.deserialize_reads args fits
  | LOOKUP => exact LOOKUP3args.deserialize_reads args fits
  | ACCESS => exact ACCESS3args.deserialize_reads args fits
  | READLINK => exact READLINK3args.deserialize_reads args fits
  | READ => exact READ3args.deserialize_reads args fits
  | WRITE => exact WRITE3args.deserialize_reads args fits
  | CREATE =>
      obtain ⟨mode, verf, rfl⟩ := fresh
      exact CREATE3args.deserialize_reads _ args fits rfl
  | MKDIR =>
      obtain rfl := fresh
      exact MKDIR3args.deserialize_reads args fits
  | SYMLINK =>
      obtain rfl := fresh
      exact SYMLINK3args.deserialize_reads args fits
  | MKNOD =>
      obtain ⟨type, rfl⟩ := fresh
      exact MKNOD3args.deserialize_reads _ args fits rfl
  | REMOVE => exact REMOVE3args.deserialize_reads args fits
  | RMDIR => exact RMDIR3args.deserialize_reads args fits
  | RENAME => exact RENAME3args.deserialize_reads args fits
  | LINK => exact LINK3args.deserialize_reads args fits
  | READDIR => exact READDIR3args.deserialize_reads args fits
  | READDIRPLUS => exact READDIRPLUS3args.deserialize_reads args fits
  | FSSTAT => exact FSSTAT3args.deserialize_reads args fits
  | FSINFO => exact FSINFO3args.deserialize_reads args fits
  | PATHCONF => exact PATHCONF3args.deserialize_reads args fits
  | COMMIT => exact COMMIT3args.deserialize_reads args fits

theorem ProcNum.serializeRes_emits (proc : ProcNum) (res : Res proc.Resok) (fits : proc.ResFit res) :
    Emits (XdrBuffer.writing pos) (proc.serializeRes res) () (proc.resWire res) := by
  obtain ⟨matching, short⟩ := fits
  cases proc with
  | GETATTR => exact Res.serialize_emits res matching fun resok _ => GETATTR3resok.serialize_emits resok
  | SETATTR => exact Res.serialize_emits res matching fun resok _ => SETATTR3resok.serialize_emits resok
  | LOOKUP =>
      exact Res.serialize_emits res matching fun resok present =>
        LOOKUP3resok.serialize_emits resok (short resok present)
  | ACCESS => exact Res.serialize_emits res matching fun resok _ => ACCESS3resok.serialize_emits resok
  | READLINK =>
      exact Res.serialize_emits res matching fun resok present =>
        READLINK3resok.serialize_emits resok (short resok present)
  | READ =>
      exact Res.serialize_emits res matching fun resok present =>
        READ3resok.serialize_emits resok (short resok present)
  | WRITE => exact Res.serialize_emits res matching fun resok _ => WRITE3resok.serialize_emits resok
  | CREATE =>
      exact Res.serialize_emits res matching fun resok present =>
        NewObject.serialize_emits resok (short resok present)
  | MKDIR =>
      exact Res.serialize_emits res matching fun resok present =>
        NewObject.serialize_emits resok (short resok present)
  | SYMLINK =>
      exact Res.serialize_emits res matching fun resok present =>
        NewObject.serialize_emits resok (short resok present)
  | MKNOD =>
      exact Res.serialize_emits res matching fun resok present =>
        NewObject.serialize_emits resok (short resok present)
  | REMOVE => exact Res.serialize_emits res matching fun resok _ => RemovedEntry.serialize_emits resok
  | RMDIR => exact Res.serialize_emits res matching fun resok _ => RemovedEntry.serialize_emits resok
  | RENAME => exact Res.serialize_emits res matching fun resok _ => RENAME3resok.serialize_emits resok
  | LINK => exact Res.serialize_emits res matching fun resok _ => LINK3resok.serialize_emits resok
  | READDIR =>
      exact Res.serialize_emits res matching fun resok present =>
        READDIR3resok.serialize_emits resok (short resok present)
  | READDIRPLUS =>
      exact Res.serialize_emits res matching fun resok present =>
        READDIRPLUS3resok.serialize_emits resok (short resok present)
  | FSSTAT => exact Res.serialize_emits res matching fun resok _ => FSSTAT3resok.serialize_emits resok
  | FSINFO => exact Res.serialize_emits res matching fun resok _ => FSINFO3resok.serialize_emits resok
  | PATHCONF => exact Res.serialize_emits res matching fun resok _ => PATHCONF3resok.serialize_emits resok
  | COMMIT => exact Res.serialize_emits res matching fun resok _ => COMMIT3resok.serialize_emits resok

/-- A fresh result object receives the status and what is visible of the `resok`. -/
theorem ProcNum.deserializeRes_reads (proc : ProcNum) (uninit : Verifier) (prior res : Res proc.Resok)
    (fresh : proc.FreshRes prior) (fits : proc.ResFit res) :
    Reads XdrBuffer.reading (proc.deserializeRes uninit prior) (proc.resWire res)
      (proc.visibleRes · = proc.visibleRes res) := by
  obtain ⟨matching, short⟩ := fits
  show Reads XdrBuffer.reading (proc.deserializeRes uninit prior) (proc.resWire res) fun got =>
    (⟨got.status, got.resok.map proc.visibleResok⟩ : Res proc.Resok) =
      ⟨res.status, res.resok.map proc.visibleResok⟩
  cases proc with
  | GETATTR =>
      exact Res.deserialize_reads prior res fresh matching fun resok _ => GETATTR3resok.deserialize_reads resok
  | SETATTR =>
      exact Res.deserialize_reads prior res fresh matching fun resok _ => SETATTR3resok.deserialize_reads _ resok
  | LOOKUP =>
      exact Res.deserialize_reads prior res fresh matching fun resok present =>
        LOOKUP3resok.deserialize_reads _ resok (short resok present)
  | ACCESS =>
      exact Res.deserialize_reads prior res fresh matching fun resok _ => ACCESS3resok.deserialize_reads _ resok
  | READLINK =>
      exact Res.deserialize_reads prior res fresh matching fun resok present =>
        READLINK3resok.deserialize_reads _ resok (short resok present)
  | READ =>
      exact Res.deserialize_reads prior res fresh matching fun resok present =>
        READ3resok.deserialize_reads _ resok (short resok present)
  | WRITE =>
      exact Res.deserialize_reads prior res fresh matching fun resok _ => WRITE3resok.deserialize_reads _ resok
  | CREATE =>
      exact Res.deserialize_reads prior res fresh matching fun resok present =>
        NewObject.deserialize_reads _ resok (short resok present)
  | MKDIR =>
      exact Res.deserialize_reads prior res fresh matching fun resok present =>
        NewObject.deserialize_reads _ resok (short resok present)
  | SYMLINK =>
      exact Res.deserialize_reads prior res fresh matching fun resok present =>
        NewObject.deserialize_reads _ resok (short resok present)
  | MKNOD =>
      exact Res.deserialize_reads prior res fresh matching fun resok present =>
        NewObject.deserialize_reads _ resok (short resok present)
  | REMOVE =>
      exact Res.deserialize_reads prior res fresh matching fun resok _ => RemovedEntry.deserialize_reads _ resok
  | RMDIR =>
      exact Res.deserialize_reads prior res fresh matching fun resok _ => RemovedEntry.deserialize_reads _ resok
  | RENAME =>
      exact Res.deserialize_reads prior res fresh matching fun resok _ => RENAME3resok.deserialize_reads _ resok
  | LINK =>
      exact Res.deserialize_reads prior res fresh matching fun resok _ => LINK3resok.deserialize_reads _ resok
  | READDIR =>
      exact Res.deserialize_reads prior res fresh matching fun resok present =>
        READDIR3resok.deserialize_reads resok (short resok present)
  | READDIRPLUS =>
      exact Res.deserialize_reads prior res fresh matching fun resok present =>
        READDIRPLUS3resok.deserialize_reads resok (short resok present)
  | FSSTAT =>
      exact Res.deserialize_reads prior res fresh matching fun resok _ => FSSTAT3resok.deserialize_reads _ resok
  | FSINFO =>
      exact Res.deserialize_reads prior res fresh matching fun resok _ => FSINFO3resok.deserialize_reads _ resok
  | PATHCONF =>
      exact Res.deserialize_reads prior res fresh matching fun resok _ => PATHCONF3resok.deserialize_reads _ resok
  | COMMIT =>
      exact Res.deserialize_reads prior res fresh matching fun resok _ => COMMIT3resok.deserialize_reads _ resok

/-- A fresh object reads back each fitting value from where it was written, and consumes no other byte. -/
def RoundTrips {α : Type} (serialize : α → Xdr Unit) (deserialize : α → Xdr α) (Fresh Fits : α → Prop)
    (visible : α → α) : Prop :=
  ∀ value, Fits value → ∀ prior, Fresh prior → ∀ (packed trailing : Bytes) (pos : Nat),
    4 ∣ packed.length →
    ∃ wire got, serialize value ⟨packed, pos⟩ = .ok () ⟨packed ++ wire, pos⟩ ∧
      deserialize prior ⟨packed ++ wire ++ trailing, packed.length⟩ =
        .ok got ⟨packed ++ wire ++ trailing, packed.length + wire.length⟩ ∧
      visible got = visible value

/-- A writer and a reader of the same wire form a round trip. -/
theorem RoundTrips.of_wire {α : Type} {serialize : α → Xdr Unit} {deserialize : α → Xdr α}
    {Fresh Fits : α → Prop} {visible : α → α} (wire : α → Bytes)
    (emits : ∀ pos value, Fits value → Emits (XdrBuffer.writing pos) (serialize value) () (wire value))
    (reads : ∀ prior value, Fresh prior → Fits value →
      Reads XdrBuffer.reading (deserialize prior) (wire value) (visible · = visible value)) :
    RoundTrips serialize deserialize Fresh Fits visible := by
  intro value fits prior fresh packed trailing pos aligned
  obtain ⟨_, written, rfl, _⟩ := emits pos value fits ⟨packed, pos⟩ packed ⟨rfl, aligned⟩
  have start : XdrBuffer.reading ⟨packed ++ wire value ++ trailing, packed.length⟩ packed
      (wire value ++ trailing) := by
    rw [XdrBuffer.reading, List.append_assoc]
  obtain ⟨got, _, taken, same, rfl⟩ := reads prior value fresh fits _ packed trailing start
  refine ⟨wire value, got, written, ?_, same⟩
  rw [taken, List.length_append]

/-- The arguments and the result of every procedure round-trip through the C++ codec. -/
theorem ProcNum.codec_round_trips (proc : ProcNum) (uninit : Verifier) :
    RoundTrips proc.serializeArgs proc.deserializeArgs proc.FreshArgs proc.ArgsFit proc.visibleArgs ∧
      RoundTrips proc.serializeRes (proc.deserializeRes uninit) proc.FreshRes proc.ResFit
        proc.visibleRes :=
  ⟨.of_wire proc.argsWire (fun _ => proc.serializeArgs_emits) proc.deserializeArgs_reads,
    .of_wire proc.resWire (fun _ => proc.serializeRes_emits) (proc.deserializeRes_reads uninit)⟩

/-- The arguments of a LOOKUP stand behind one word and in front of one byte, and the result is a failure. -/
theorem ProcNum.codec_round_trips_lookup :
    (∃ wire got, LOOKUP3args.serialize ⟨⟨[1, 2]⟩, [97]⟩ ⟨[0, 0, 0, 9], 4⟩ =
      .ok () ⟨[0, 0, 0, 9] ++ wire, 4⟩ ∧
      LOOKUP3args.deserialize ⟨[0, 0, 0, 9] ++ wire ++ [5], 4⟩ =
        .ok got ⟨[0, 0, 0, 9] ++ wire ++ [5], 4 + wire.length⟩ ∧
      got = ⟨⟨[1, 2]⟩, [97]⟩) ∧
    ∃ wire got, ProcNum.LOOKUP.serializeRes { status := .NFS3ERR_NOENT } ⟨[], 0⟩ = .ok () ⟨[] ++ wire, 0⟩ ∧
      ProcNum.LOOKUP.deserializeRes .zero { status := ⟨7⟩ } ⟨[] ++ wire ++ [5], 0⟩ =
        .ok got ⟨[] ++ wire ++ [5], 0 + wire.length⟩ ∧
      ProcNum.LOOKUP.visibleRes got = { status := .NFS3ERR_NOENT } := by
  obtain ⟨args, res⟩ := ProcNum.codec_round_trips .LOOKUP .zero
  have argsFit : ProcNum.LOOKUP.ArgsFit ⟨⟨[1, 2]⟩, [97]⟩ :=
    ⟨show Short [1, 2] by decide, show Short [97] by decide⟩
  have resFit : ProcNum.LOOKUP.ResFit { status := .NFS3ERR_NOENT } := ⟨by decide, nofun⟩
  exact ⟨args ⟨⟨[1, 2]⟩, [97]⟩ argsFit {} rfl [0, 0, 0, 9] [5] 4 (by decide),
    res { status := .NFS3ERR_NOENT } resFit { status := ⟨7⟩ } rfl [] [5] 0 (by decide)⟩

end Nfs3Rpc
