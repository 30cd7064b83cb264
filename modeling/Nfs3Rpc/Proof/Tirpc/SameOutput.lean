import Nfs3Rpc.Proof.Builtin.RoundTrip
import Nfs3Rpc.Proof.Tirpc.Filters
import Nfs3Rpc.Proof.Tirpc.MemoryLibrary

namespace Nfs3Rpc
open Encoding Builtin Tirpc

variable {σ : Type} {lib : Libtirpc σ} {host : ByteOrder}

/-- The filter handles the fields of the inner structure itself. -/
theorem PATHCONF3resok.wire_eq (obj : PATHCONF3resok) :
    obj.wire = [obj.objAttributes.wire, be32 obj.info.linkmax.toUInt32, be32 obj.info.nameMax.toUInt32,
      beBool obj.info.noTrunc, beBool obj.info.chownRestricted, beBool obj.info.caseInsensitive,
      beBool obj.info.casePreserving].flatten := by
  simp [PATHCONF3resok.wire, Pathconf3ResokInfo.wire]

section
variable (encoder : Rfc4506Encoder lib)
include encoder

theorem Tirpc.xdrWRITE3args_emits (args : WRITE3args) (handle : HandleBounded args.file)
    (data : DataBounded args.data) :
    Emits lib.writing (xdrWRITE3args lib .XDR_ENCODE args) args args.wire := by
  obtain ⟨file, offset, count, stable, bytes⟩ := args
  -- An empty vector has a null pointer and the others a pointer to their bytes; both keep the vector.
  cases bytes <;>
    exact .cons (xdrNfsFh3_emits encoder _ handle) <| .cons (encoder.uHyper _) <| .cons (encoder.uInt _) <|
      .cons (xdrWord_emits encoder _) <| .cons (xdrBytes_emits encoder _ 65536 data) .done

theorem ProcNum.xdrArgs_emits (proc : ProcNum) (plain : proc.plainArgs = true) (args : proc.Args)
    (bounded : proc.ArgsBounded args) :
    Emits lib.writing (proc.xdrArgs lib host .XDR_ENCODE args) args (proc.argsWire args) := by
  cases proc with
  | GETATTR => exact Emits.returning (xdrNfsFh3_emits encoder _ bounded)
  | LOOKUP =>
      exact .cons (xdrNfsFh3_emits encoder _ bounded.1) <| .cons (xdrName_emits encoder _ 255 bounded.2) .done
  | ACCESS => exact .cons (xdrNfsFh3_emits encoder _ bounded) <| .cons (encoder.uInt _) .done
  | READLINK => exact Emits.returning (xdrNfsFh3_emits encoder _ bounded)
  | READ =>
      exact .cons (xdrNfsFh3_emits encoder _ bounded) <| .cons (encoder.uHyper _) <|
        .cons (encoder.uInt _) .done
  | WRITE => exact xdrWRITE3args_emits encoder args bounded.1 bounded.2
  | REMOVE =>
      exact .cons (xdrNfsFh3_emits encoder _ bounded.1) <| .cons (xdrName_emits encoder _ 255 bounded.2) .done
  | RMDIR =>
      exact .cons (xdrNfsFh3_emits encoder _ bounded.1) <| .cons (xdrName_emits encoder _ 255 bounded.2) .done
  | RENAME =>
      obtain ⟨fromDir, fromName, toDir, toName⟩ := bounded
      exact .cons (xdrNfsFh3_emits encoder _ fromDir) <| .cons (xdrName_emits encoder _ 255 fromName) <|
        .cons (xdrNfsFh3_emits encoder _ toDir) <| .cons (xdrName_emits encoder _ 255 toName) .done
  | LINK =>
      obtain ⟨file, linkDir, linkName⟩ := bounded
      exact .cons (xdrNfsFh3_emits encoder _ file) <| .cons (xdrNfsFh3_emits encoder _ linkDir) <|
        .cons (xdrName_emits encoder _ 255 linkName) .done
  | FSSTAT => exact Emits.returning (xdrNfsFh3_emits encoder _ bounded)
  | FSINFO => exact Emits.returning (xdrNfsFh3_emits encoder _ bounded)
  | PATHCONF => exact Emits.returning (xdrNfsFh3_emits encoder _ bounded)
  | COMMIT =>
      exact .cons (xdrNfsFh3_emits encoder _ bounded) <| .cons (encoder.uHyper _) <|
        .cons (encoder.uInt _) .done
  | _ => exact nomatch plain

/-- The local `resok` of an encoding is the sent one. -/
theorem Tirpc.filtered_emits {ok : Type} {start : Filter σ ok} {filter : ok → Filter σ ok} {wire : ok → Bytes}
    (res : Res ok) (matching : res.status = .NFS3_OK ↔ res.resok.isSome = true)
    (starts : ∀ resok ∈ res.resok, start = pure resok)
    (inner : ∀ resok ∈ res.resok, Emits lib.writing (filter resok) resok (wire resok)) :
    Emits lib.writing (xdrRes lib .XDR_ENCODE start filter res) res
      (be32 res.status.code :: res.resok.toList.map wire).flatten := by
  obtain ⟨status, resok⟩ := res
  apply Emits.cons (xdrWord_emits encoder _)
  cases resok with
  | none =>
      have failed : ¬ status = .NFS3_OK := by simpa using matching
      rw [if_neg failed]
      exact Emits.done
  | some resok =>
      have success : status = .NFS3_OK := matching.mpr rfl
      rw [if_pos success, starts resok rfl]
      exact .silent (Emits.pure resok) <| .cons (inner resok rfl) .done

theorem Tirpc.valueRes_emits {ok : Type} {fresh : ok} {filter : ok → Filter σ ok} {wire : ok → Bytes}
    (res : Res ok) (matching : res.status = .NFS3_OK ↔ res.resok.isSome = true)
    (inner : ∀ resok ∈ res.resok, Emits lib.writing (filter resok) resok (wire resok)) :
    Emits lib.writing (xdrRes lib .XDR_ENCODE (resokValue .XDR_ENCODE fresh res) filter res) res
      (be32 res.status.code :: res.resok.toList.map wire).flatten := by
  apply filtered_emits encoder res matching _ inner
  intro resok member
  rw [resokValue, if_pos rfl, Option.mem_def.mp member]
  rfl

theorem Tirpc.orRes_emits {ok : Type} {fresh : ok} {filter : ok → Filter σ ok} {wire : ok → Bytes}
    (res : Res ok) (matching : res.status = .NFS3_OK ↔ res.resok.isSome = true)
    (inner : ∀ resok ∈ res.resok, Emits lib.writing (filter resok) resok (wire resok)) :
    Emits lib.writing (xdrRes lib .XDR_ENCODE (resokOr .XDR_ENCODE fresh res) filter res) res
      (be32 res.status.code :: res.resok.toList.map wire).flatten := by
  apply filtered_emits encoder res matching _ inner
  intro resok member
  rw [resokOr, if_pos rfl, Option.mem_def.mp member]
  rfl

theorem Tirpc.xdrNewObject_emits (obj : NewObject) (bounded : HandleBounded obj.object) :
    Emits lib.writing (xdrNewObject lib .XDR_ENCODE obj) obj obj.wire :=
  .cons (xdrPostOpAttr_emits encoder _) <| .cons (xdrWccData_emits encoder _) <|
  .cons (xdrNfsFh3_emits encoder _ bounded) .done

theorem Tirpc.xdrRemovedEntry_emits (obj : RemovedEntry) :
    Emits lib.writing (xdrRemovedEntry lib .XDR_ENCODE obj) obj obj.wire :=
  Emits.returning (xdrWccData_emits encoder _)

theorem Tirpc.xdrFSSTAT3resok_emits (obj : FSSTAT3resok) :
    Emits lib.writing (xdrFSSTAT3resok lib .XDR_ENCODE obj) obj obj.wire :=
  .cons (xdrPostOpAttr_emits encoder _) <| .cons (encoder.uHyper _) <| .cons (encoder.uHyper _) <|
  .cons (encoder.uHyper _) <| .cons (encoder.uHyper _) <| .cons (encoder.uHyper _) <|
  .cons (encoder.uHyper _) <| .cons (encoder.uInt _) .done

theorem Tirpc.xdrFSINFO3resok_emits (obj : FSINFO3resok) :
    Emits lib.writing (xdrFSINFO3resok lib .XDR_ENCODE obj) obj obj.wire :=
  .cons (xdrPostOpAttr_emits encoder _) <| .cons (encoder.uInt _) <| .cons (encoder.uInt _) <|
  .cons (encoder.uInt _) <| .cons (encoder.uInt _) <| .cons (encoder.uInt _) <| .cons (encoder.uInt _) <|
  .cons (encoder.uInt _) <| .cons (encoder.uHyper _) <| .cons (encoder.uInt _) <|
  .cons (encoder.uInt _) <| .cons (encoder.uInt _) .done

theorem Tirpc.xdrPATHCONF3resok_emits (obj : PATHCONF3resok) :
    Emits lib.writing (xdrPATHCONF3resok lib .XDR_ENCODE obj) obj obj.wire := by
  rw [PATHCONF3resok.wire_eq]
  exact .cons (xdrPostOpAttr_emits encoder _) <| .cons (encoder.int _) <| .cons (encoder.int _) <|
    .cons (xdrFlag_emits encoder _) <| .cons (xdrFlag_emits encoder _) <|
    .cons (xdrFlag_emits encoder _) <| .cons (xdrFlag_emits encoder _) .done

theorem ProcNum.xdrRes_emits (proc : ProcNum) (plain : proc.plainRes = true) (uninit : Verifier)
    (res : Res proc.Resok) (bounded : proc.ResBounded res) :
    Emits lib.writing (proc.xdrRes lib host .XDR_ENCODE uninit res) res (proc.resWire res) := by
  obtain ⟨matching, bounds⟩ := bounded
  cases proc with
  | GETATTR =>
      exact valueRes_emits encoder res matching fun resok _ => Emits.returning (xdrFattr3_emits encoder _)
  | SETATTR =>
      exact valueRes_emits encoder res matching fun resok _ => Emits.returning (xdrWccData_emits encoder _)
  | LOOKUP =>
      apply orRes_emits encoder res matching
      intro resok member
      exact .cons (xdrNfsFh3_emits encoder _ (bounds resok member)) <|
        .cons (xdrPostOpAttr_emits encoder _) <| .cons (xdrPostOpAttr_emits encoder _) .done
  | ACCESS =>
      exact orRes_emits encoder res matching fun resok _ =>
        .cons (xdrPostOpAttr_emits encoder _) <| .cons (encoder.uInt _) .done
  | READLINK =>
      apply orRes_emits encoder res matching
      intro resok member
      exact .cons (xdrPostOpAttr_emits encoder _) <|
        .cons (xdrText_emits encoder _ 4096 (bounds resok member)) .done
  | READ =>
      apply orRes_emits encoder res matching
      intro resok member
      exact .cons (xdrPostOpAttr_emits encoder _) <| .cons (encoder.uHyper _) <|
        .cons (xdrFlag_emits encoder _) <| .cons (xdrData_emits encoder _ (bounds resok member)) .done
  | CREATE =>
      exact orRes_emits encoder res matching fun resok member => xdrNewObject_emits encoder _ (bounds resok member)
  | MKDIR =>
      exact orRes_emits encoder res matching fun resok member => xdrNewObject_emits encoder _ (bounds resok member)
  | SYMLINK =>
      exact orRes_emits encoder res matching fun resok member => xdrNewObject_emits encoder _ (bounds resok member)
  | MKNOD =>
      exact orRes_emits encoder res matching fun resok member => xdrNewObject_emits encoder _ (bounds resok member)
  | REMOVE => exact orRes_emits encoder res matching fun resok _ => xdrRemovedEntry_emits encoder _
  | RMDIR => exact orRes_emits encoder res matching fun resok _ => xdrRemovedEntry_emits encoder _
  | RENAME =>
      exact orRes_emits encoder res matching fun resok _ =>
        .cons (xdrWccData_emits encoder _) <| .cons (xdrWccData_emits encoder _) .done
  | LINK =>
      exact orRes_emits encoder res matching fun resok _ =>
        .cons (xdrPostOpAttr_emits encoder _) <| .cons (xdrWccData_emits encoder _) .done
  | FSSTAT => exact orRes_emits encoder res matching fun resok _ => xdrFSSTAT3resok_emits encoder _
  | FSINFO => exact orRes_emits encoder res matching fun resok _ => xdrFSINFO3resok_emits encoder _
  | PATHCONF => exact orRes_emits encoder res matching fun resok _ => xdrPATHCONF3resok_emits encoder _
  | _ => exact nomatch plain

end

/-- The bounds of the filters are below those of the built-in codec. -/
theorem ProcNum.argsFit_of_bounded (proc : ProcNum) (plain : proc.plainArgs = true) (args : proc.Args)
    (bounded : proc.ArgsBounded args) : proc.ArgsFit args := by
  have handle : ∀ fh : NfsFh3, HandleBounded fh → fh.Fits := fun fh bound => Nat.lt_of_le_of_lt bound (by decide)
  have name : ∀ s : Bytes, StringBounded 255 s → Short s := fun s bound => Nat.lt_of_le_of_lt bound.1 (by decide)
  cases proc with
  | GETATTR | ACCESS | READLINK | READ | FSSTAT | FSINFO | PATHCONF | COMMIT => exact handle _ bounded
  | LOOKUP | REMOVE | RMDIR => exact ⟨handle _ bounded.1, name _ bounded.2⟩
  | WRITE => exact ⟨handle _ bounded.1, Nat.lt_of_le_of_lt bounded.2 (by decide)⟩
  | RENAME =>
      obtain ⟨fromDir, fromName, toDir, toName⟩ := bounded
      exact ⟨handle _ fromDir, name _ fromName, handle _ toDir, name _ toName⟩
  | LINK =>
      obtain ⟨file, linkDir, linkName⟩ := bounded
      exact ⟨handle _ file, handle _ linkDir, name _ linkName⟩
  | _ => exact nomatch plain

theorem ProcNum.resFit_of_bounded (proc : ProcNum) (plain : proc.plainRes = true) (res : Res proc.Resok)
    (bounded : proc.ResBounded res) : proc.ResFit res := by
  refine ⟨bounded.1, fun resok member => ?_⟩
  have bound := bounded.2 resok member
  cases proc with
  | LOOKUP | CREATE | MKDIR | SYMLINK | MKNOD | READ => exact Nat.lt_of_le_of_lt bound (by decide)
  | READLINK => exact Nat.lt_of_le_of_lt bound.1 (by decide)
  | WRITE | READDIR | READDIRPLUS | COMMIT => exact nomatch plain
  | _ => trivial

/-- A filter and an encoder with the same wire append the same bytes from every pair of states. -/
theorem Tirpc.sameOutput_of_emits {α : Type} {filter : Filter σ α} {obj : α} {serialize : Xdr Unit}
    {wire : Bytes} (filters : Emits lib.writing filter obj wire)
    (serializes : ∀ pos, Emits (XdrBuffer.writing pos) serialize () wire) (stream : σ) (buf : XdrBuffer)
    (aligned : 4 ∣ buf.buffer.length) : SameOutput lib filter serialize stream buf := by
  obtain ⟨last, filtered, written⟩ := filters stream (lib.written stream) rfl
  obtain ⟨next, serialized, rfl, _⟩ := serializes buf.pos buf buf.buffer ⟨rfl, aligned⟩
  exact ⟨wire, obj, last, filtered, written, serialized⟩

section
variable {α : Type} {filter : Filter σ α} {serialize : Xdr Unit} {stream : σ}
  {buf : XdrBuffer}

theorem Tirpc.SameOutput.serialized {condition : Prop} (same : SameOutput lib filter serialize stream buf)
    (checks : Checks serialize condition) : condition := by
  obtain ⟨bytes, obj, last, _, _, serialized⟩ := same
  exact checks _ _ _ serialized

theorem Tirpc.SameOutput.filtered {condition : Prop} (same : SameOutput lib filter serialize stream buf)
    (checks : Checks filter condition) : condition := by
  obtain ⟨bytes, obj, last, filtered, _, _⟩ := same
  exact checks _ _ _ filtered

/-- Two wires that both builds send as the same output are equal. -/
theorem Tirpc.SameOutput.wires {obj : α} {left right : Bytes} (same : SameOutput lib filter serialize stream buf)
    (filters : Emits lib.writing filter obj left)
    (serializes : ∀ pos, Emits (XdrBuffer.writing pos) serialize () right)
    (aligned : 4 ∣ buf.buffer.length) : left = right := by
  obtain ⟨bytes, value, last, filtered, appended, serialized⟩ := same
  obtain ⟨next, emitted, written⟩ := filters stream (lib.written stream) rfl
  obtain ⟨packed, packs, rfl, _⟩ := serializes buf.pos buf buf.buffer ⟨rfl, aligned⟩
  rw [filtered] at emitted
  rw [serialized] at packs
  obtain ⟨_, rfl⟩ := EStateM.Result.ok.inj emitted
  have buffers := congrArg XdrBuffer.buffer (EStateM.Result.ok.inj packs).2
  have written : lib.written last = lib.written stream ++ left := written
  have streams : lib.written stream ++ bytes = lib.written stream ++ left := appended.symm.trans written
  exact (List.append_cancel_left streams).symm.trans (List.append_cancel_left buffers)

end

/-- Both builds send the same bytes where no settable attributes and no verifiers travel. -/
theorem ProcNum.builds_same_output (proc : ProcNum) (lib : Libtirpc σ) (encoder : Rfc4506Encoder lib)
    (host : ByteOrder) (uninit : Verifier) (stream : σ) (buf : XdrBuffer) (aligned : 4 ∣ buf.buffer.length) :
    (proc.plainArgs = true → ∀ args, proc.ArgsBounded args →
      SameOutput lib (proc.xdrArgs lib host .XDR_ENCODE args) (proc.serializeArgs args) stream buf) ∧
    (proc.plainRes = true → ∀ res, proc.ResBounded res →
      SameOutput lib (proc.xdrRes lib host .XDR_ENCODE uninit res) (proc.serializeRes res) stream buf) := by
  constructor
  · intro plain args bounded
    exact sameOutput_of_emits (proc.xdrArgs_emits encoder plain args bounded)
      (fun _ => proc.serializeArgs_emits args (proc.argsFit_of_bounded plain args bounded)) stream buf aligned
  · intro plain res bounded
    exact sameOutput_of_emits (proc.xdrRes_emits encoder plain uninit res bounded)
      (fun _ => proc.serializeRes_emits res (proc.resFit_of_bounded plain res bounded)) stream buf aligned

theorem ProcNum.builds_same_output_small :
    SameOutput memoryLibrary
        (ProcNum.xdrArgs memoryLibrary .littleEndian .XDR_ENCODE .LOOKUP ⟨⟨[1, 2, 3]⟩, [97, 98]⟩)
        (ProcNum.serializeArgs .LOOKUP ⟨⟨[1, 2, 3]⟩, [97, 98]⟩) {} XdrBuffer.empty ∧
      SameOutput memoryLibrary
        (ProcNum.xdrRes memoryLibrary .littleEndian .XDR_ENCODE ⟨List.replicate 8 0, rfl⟩ .READ
          ⟨.NFS3_OK, some { count := 5, eof := true, data := [1, 2, 3, 4, 5] }⟩)
        (ProcNum.serializeRes .READ ⟨.NFS3_OK, some { count := 5, eof := true, data := [1, 2, 3, 4, 5] }⟩) {}
          XdrBuffer.empty := by
  have aligned : 4 ∣ XdrBuffer.empty.buffer.length := ⟨0, rfl⟩
  constructor
  · apply (ProcNum.builds_same_output .LOOKUP memoryLibrary memoryLibrary_encoder .littleEndian
      ⟨List.replicate 8 0, rfl⟩ {} XdrBuffer.empty aligned).1 rfl
    exact ⟨show 3 ≤ 64 by decide, show 2 ≤ 255 by decide, by decide⟩
  · apply (ProcNum.builds_same_output .READ memoryLibrary memoryLibrary_encoder .littleEndian
      ⟨List.replicate 8 0, rfl⟩ {} XdrBuffer.empty aligned).2 rfl
    constructor
    · exact ⟨fun _ => rfl, fun _ => rfl⟩
    · intro resok held
      obtain ⟨rfl⟩ := held
      show 5 ≤ 65536
      decide

end Nfs3Rpc
