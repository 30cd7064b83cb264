import Nfs3Rpc.Proof.Csuite.Attributes

namespace Nfs3Rpc.Csuite
open Encoding

variable {pos depth : Nat}

/-- A `resok` follows the status when the flag of the structure says so, and the flag agrees with the status. -/
theorem ResT.pack_emits {ok sent : Type} {packOk : ok → Run Unit} {okWire : sent → Bytes} {value : sent}
    (res : ResT ok) (matching : res.status = .NFS3_OK ↔ res.hasResok ≠ 0)
    (inner : Emits (writing pos depth) (packOk res.resok) () (okWire value)) :
    Emits (writing pos depth) (ResT.pack packOk res) ()
      (be32 res.status.code :: (whenSet res.hasResok value).toList.map okWire).flatten := by
  apply Emits.cons (xdrPackUint32_emits _)
  by_cases zero : res.hasResok = 0
  · have failed : ¬ (res.status = .NFS3_OK ∧ res.hasResok ≠ 0) := fun both => both.2 zero
    rw [if_neg failed, whenSet, if_neg (not_not.mpr zero)]
    exact Emits.pure ()
  · rw [if_pos ⟨matching.mpr zero, zero⟩, whenSet, if_pos zero]
    exact Emits.last inner

/-- The status decides whether the decoder looks for a `resok`. -/
theorem ResT.unpack_decodes {ok sent : Type} {unpackOk : ok → Run ok} {message : ok → sent}
    {okWire : sent → Bytes} {strings : sent → List Bytes} {value : sent} (dest res : ResT ok)
    (matching : res.status = .NFS3_OK ↔ res.hasResok ≠ 0)
    (inner : res.hasResok ≠ 0 → Decodes (reading depth) (unpackOk dest.resok) (okWire value)
      (∀ s ∈ strings value, Terminates s) (message · = value)) :
    Decodes (reading depth) (ResT.unpack unpackOk dest)
      (be32 res.status.code :: (whenSet res.hasResok value).toList.map okWire).flatten
      (∀ s ∈ (whenSet res.hasResok value).toList.flatMap strings, Terminates s)
      (ResT.message message · = ⟨res.status, whenSet res.hasResok value⟩) := by
  refine Decodes.silent uninitialized_reads fun _ _ => Decodes.field (intoUint32_reads _ _) ?_
  by_cases zero : res.hasResok = 0
  · have failed : (⟨res.status.code⟩ : Nfsstat3) ≠ .NFS3_OK := fun succeeded => matching.mp succeeded zero
    have hidden : whenSet res.hasResok value = none := if_neg (not_not.mpr zero)
    simp only [failed, if_false, hidden]
    exact decodes_plain (Reads.done rfl)
  · have succeeded : (⟨res.status.code⟩ : Nfsstat3) = .NFS3_OK := matching.mpr zero
    have shown : whenSet res.hasResok value = some value := if_pos zero
    simp only [succeeded, if_true, shown, Option.toList_some, List.map_cons, List.map_nil,
      List.flatMap_cons, List.flatMap_nil, List.append_nil]
    refine Decodes.congr (and_iff_left trivial) (Decodes.both (inner zero) fun got same => Decodes.of_reads ?_)
    apply Reads.done
    simp [ResT.message, same, whenSet, matching.mpr zero]

/-- The destruction of the prior content leaves an empty destination. -/
theorem ResT.unpackFresh_decodes {ok sent : Type} {okDestroy unpackOk : ok → Run ok} {message : ok → sent}
    {okWire : sent → Bytes} {strings : sent → List Bytes} {value : sent} {fresh : ok} (dest res : ResT ok)
    (matching : res.status = .NFS3_OK ↔ res.hasResok ≠ 0)
    (destroyed : Reads (reading depth) (okDestroy dest.resok) [] (· = fresh))
    (inner : res.hasResok ≠ 0 → Decodes (reading depth) (unpackOk fresh) (okWire value)
      (∀ s ∈ strings value, Terminates s) (message · = value)) :
    Decodes (reading depth) (ResT.unpackFresh okDestroy unpackOk dest)
      (be32 res.status.code :: (whenSet res.hasResok value).toList.map okWire).flatten
      (∀ s ∈ (whenSet res.hasResok value).toList.flatMap strings, Terminates s)
      (ResT.message message · = ⟨res.status, whenSet res.hasResok value⟩) := by
  apply Decodes.silent destroyed
  intro _ same
  subst same
  exact ResT.unpack_decodes _ res matching inner

/-- The attributes of this result have no flag in front of them. -/
theorem GETATTR3resokT.pack_emits (res : GETATTR3resokT) :
    Emits (writing pos depth) res.pack () res.message.wire :=
  xdrPackFattr3_emits _

theorem GETATTR3resokT.unpack_reads (dest res : GETATTR3resokT) :
    Reads (reading depth) dest.unpack res.message.wire (·.message = res.message) :=
  Reads.returning (xdrUnpackFattr3_reads _ _) rfl

theorem SETATTR3resokT.pack_emits (res : SETATTR3resokT) :
    Emits (writing pos depth) res.pack () res.message.wire :=
  xdrPackWccData_emits _

/-- Attributes behind a false flag stay those of the destination, and nobody sees them. -/
theorem SETATTR3resokT.unpack_reads (dest res : SETATTR3resokT) :
    Reads (reading depth) dest.unpack res.message.wire (·.message = res.message) :=
  Reads.converting (xdrUnpackWccData_reads _ res.objWcc) fun _ same => congrArg SETATTR3resok.mk same

/-- REMOVE and RMDIR report the directory before and after the call. -/
theorem RemovedEntryT.pack_emits (res : RemovedEntryT) :
    Emits (writing pos depth) res.pack () res.message.wire :=
  xdrPackWccData_emits _

theorem RemovedEntryT.unpack_reads (dest res : RemovedEntryT) :
    Reads (reading depth) dest.unpack res.message.wire (·.message = res.message) :=
  Reads.converting (xdrUnpackWccData_reads _ res.dirWcc) fun _ same => congrArg RemovedEntry.mk same

/-- The handle of the entry is followed by two optional attributes. -/
theorem LOOKUP3resokT.pack_emits (res : LOOKUP3resokT) (formed : res.object.WellFormed) :
    Emits (writing pos depth) res.pack () res.message.wire :=
  .cons (xdrPackNfsFh3_emits _ formed) <| .cons (xdrPackPostOpAttr_emits _) <|
  .last (xdrPackPostOpAttr_emits _)

/-- The handle of the destination is destroyed, so that one has to own its block. -/
theorem LOOKUP3resokT.unpack_reads (dest res : LOOKUP3resokT) (owned : dest.object.Owned) :
    Reads (reading depth) dest.unpack res.message.wire (·.message = res.message) := by
  apply Reads.cons (xdrUnpackNfsFh3_reads _ res.object owned)
  intro _ sameObject
  apply Reads.cons (xdrUnpackPostOpAttr_reads _ res.objAttributes)
  intro _ sameObjAttributes
  apply Reads.cons (xdrUnpackPostOpAttr_reads _ res.dirAttributes)
  intro _ sameDirAttributes
  exact .done (by simp only [LOOKUP3resokT.message, sameObject, sameObjAttributes, sameDirAttributes])

theorem ACCESS3resokT.pack_emits (res : ACCESS3resokT) :
    Emits (writing pos depth) res.pack () res.message.wire :=
  .cons (xdrPackPostOpAttr_emits _) <| .last (xdrPackUint32_emits _)

/-- The rights are plain, and the attributes in front of them are optional. -/
theorem ACCESS3resokT.unpack_reads (dest res : ACCESS3resokT) :
    Reads (reading depth) dest.unpack res.message.wire (·.message = res.message) := by
  apply Reads.cons (xdrUnpackPostOpAttr_reads _ res.objAttributes)
  intro _ same
  exact .field (intoUint32_reads _ _) <| .done (by simp only [ACCESS3resokT.message, same])

theorem RENAME3resokT.pack_emits (res : RENAME3resokT) :
    Emits (writing pos depth) res.pack () res.message.wire :=
  .cons (xdrPackWccData_emits _) <| .last (xdrPackWccData_emits _)

/-- Both directories are reported, and each may hide its attributes. -/
theorem RENAME3resokT.unpack_reads (dest res : RENAME3resokT) :
    Reads (reading depth) dest.unpack res.message.wire (·.message = res.message) := by
  apply Reads.cons (xdrUnpackWccData_reads _ res.fromdirWcc)
  intro _ sameFromdirWcc
  apply Reads.cons (xdrUnpackWccData_reads _ res.todirWcc)
  intro _ sameTodirWcc
  exact .done (by simp only [RENAME3resokT.message, sameFromdirWcc, sameTodirWcc])

theorem LINK3resokT.pack_emits (res : LINK3resokT) :
    Emits (writing pos depth) res.pack () res.message.wire :=
  .cons (xdrPackPostOpAttr_emits _) <| .last (xdrPackWccData_emits _)

theorem LINK3resokT.unpack_reads (dest res : LINK3resokT) :
    Reads (reading depth) dest.unpack res.message.wire (·.message = res.message) := by
  apply Reads.cons (xdrUnpackPostOpAttr_reads _ res.fileAttributes)
  intro _ sameFileAttributes
  apply Reads.cons (xdrUnpackWccData_reads _ res.linkdirWcc)
  intro _ sameLinkdirWcc
  exact .done (by simp only [LINK3resokT.message, sameFileAttributes, sameLinkdirWcc])

/-- Six sizes and the time for which they hold follow the attributes. -/
theorem FSSTAT3resokT.pack_emits (res : FSSTAT3resokT) :
    Emits (writing pos depth) res.pack () res.message.wire :=
  .cons (xdrPackPostOpAttr_emits _) <| .cons (xdrPackUint64_emits _) <| .cons (xdrPackUint64_emits _) <|
  .cons (xdrPackUint64_emits _) <| .cons (xdrPackUint64_emits _) <| .cons (xdrPackUint64_emits _) <|
  .cons (xdrPackUint64_emits _) <| .last (xdrPackUint32_emits _)

theorem FSSTAT3resokT.unpack_reads (dest res : FSSTAT3resokT) :
    Reads (reading depth) dest.unpack res.message.wire (·.message = res.message) := by
  apply Reads.cons (xdrUnpackPostOpAttr_reads _ res.objAttributes)
  intro _ same
  exact .field (intoUint64_reads _ _) <| .field (intoUint64_reads _ _) <|
    .field (intoUint64_reads _ _) <| .field (intoUint64_reads _ _) <| .field (intoUint64_reads _ _) <|
    .field (intoUint64_reads _ _) <| .field (intoUint32_reads _ _) <|
    .done (by simp only [FSSTAT3resokT.message, same])

/-- The transfer limits, the largest file, the clock step and the properties follow the attributes. -/
theorem FSINFO3resokT.pack_emits (res : FSINFO3resokT) :
    Emits (writing pos depth) res.pack () res.message.wire :=
  .cons (xdrPackPostOpAttr_emits _) <| .cons (xdrPackUint32_emits _) <| .cons (xdrPackUint32_emits _) <|
  .cons (xdrPackUint32_emits _) <| .cons (xdrPackUint32_emits _) <| .cons (xdrPackUint32_emits _) <|
  .cons (xdrPackUint32_emits _) <| .cons (xdrPackUint32_emits _) <| .cons (xdrPackUint64_emits _) <|
  .cons (xdrPackUint32_emits _) <| .cons (xdrPackUint32_emits _) <| .last (xdrPackUint32_emits _)

theorem FSINFO3resokT.unpack_reads (dest res : FSINFO3resokT) :
    Reads (reading depth) dest.unpack res.message.wire (·.message = res.message) := by
  apply Reads.cons (xdrUnpackPostOpAttr_reads _ res.objAttributes)
  intro _ same
  exact .field (intoUint32_reads _ _) <| .field (intoUint32_reads _ _) <|
    .field (intoUint32_reads _ _) <| .field (intoUint32_reads _ _) <| .field (intoUint32_reads _ _) <|
    .field (intoUint32_reads _ _) <| .field (intoUint32_reads _ _) <| .field (intoUint64_reads _ _) <|
    .field (intoUint32_reads _ _) <| .field (intoUint32_reads _ _) <| .field (intoUint32_reads _ _) <|
    .done (by simp only [FSINFO3resokT.message, same])

theorem COMMIT3resokT.pack_emits (res : COMMIT3resokT) :
    Emits (writing pos depth) res.pack () (COMMIT3resokWire res.message) :=
  .cons (xdrPackPostOpAttr_emits _) <| .last (xdrPackVerifier_emits _)

theorem COMMIT3resokT.unpack_reads (dest res : COMMIT3resokT) :
    Reads (reading depth) dest.unpack (COMMIT3resokWire res.message) (·.message = res.message) := by
  apply Reads.cons (xdrUnpackPostOpAttr_reads _ res.fileWcc)
  intro _ same
  exact .field (xdrUnpackVerifier_reads _) <| .done (by simp only [COMMIT3resokT.message, same])

/-- The text of the link is a C string, so it goes out clipped. -/
theorem READLINK3resokT.pack_emits (res : READLINK3resokT) (formed : res.data.IsString) :
    Emits (writing pos depth) res.pack () res.message.clipped.wire :=
  .cons (xdrPackPostOpAttr_emits _) <| .last (xdrPackCstring_emits _ formed)

theorem READLINK3resokT.unpack_decodes (dest res : READLINK3resokT) :
    Decodes (reading depth) dest.unpack res.message.clipped.wire
      (∀ s ∈ res.message.clipped.strings, Terminates s) (·.message = res.message.clipped) := by
  apply Decodes.cons (xdrUnpackPostOpAttr_reads _ res.symlinkAttributes)
  intro _ same
  refine intoString_decodes _ res.data fun _ sameData => decodes_plain (Reads.done ?_)
  simp only [READLINK3resokT.message, READLINK3resok.clipped, same, sameData]

/-- The data are taken from their block, with the length that the structure names. -/
theorem READ3resokT.pack_emits (res : READ3resokT) (formed : res.data.Holds res.dataLen) :
    Emits (writing pos depth) res.pack () (READ3resokWire res.message) := by
  have count : be32 res.message.count.toUInt32 = be32 res.count := congrArg be32 (by simp [READ3resokT.message])
  rw [READ3resokWire, count]
  exact .cons (xdrPackPostOpAttr_emits _) <| .cons (xdrPackUint32_emits _) <| .cons (xdrPackBool_emits _) <|
    .last (xdrPackOpaque_emits _ _ formed)

theorem READ3resokT.unpack_reads (dest res : READ3resokT) :
    Reads (reading depth) dest.unpack (READ3resokWire res.message) (·.message = res.message) := by
  have short := Ptr.bytes_short res.data res.dataLen
  apply Reads.cons (xdrUnpackPostOpAttr_reads _ res.fileAttributes)
  intro _ same
  refine Reads.field (intoUint32_reads _ _) <| Reads.field (intoBool_reads _ _) ?_
  apply Reads.silent uninitialized_reads
  intro len _
  refine Reads.field (xdrUnpackOpaque_reads _ len _ short) (Reads.done ?_)
  simp [READ3resokT.message, same, bytes_block short]

/-- The verifier of this result travels without a length word. -/
theorem WRITE3resokT.pack_emits (res : WRITE3resokT) :
    Emits (writing pos depth) res.pack () [res.fileWcc.message.wire, be32 res.count, be32 res.committed.code,
      res.verf.data].flatten :=
  .cons (xdrPackWccData_emits _) <| .cons (xdrPackUint32_emits _) <| .cons (xdrPackUint32_emits _) <|
  .last (xdrPackVerifier_emits _)

theorem WRITE3resokT.unpack_reads (dest res : WRITE3resokT) :
    Reads (reading depth) dest.unpack [res.fileWcc.message.wire, be32 res.count, be32 res.committed.code,
      res.verf.data].flatten fun got => got.fileWcc.message = res.fileWcc.message ∧ got.count = res.count ∧
        got.committed = res.committed ∧ got.verf = res.verf := by
  apply Reads.cons (xdrUnpackWccData_reads _ res.fileWcc)
  intro _ same
  apply Reads.field (intoUint32_reads _ _)
  refine Reads.silent uninitialized_reads fun _ _ => Reads.field (intoUint32_reads _ _) ?_
  exact .field (xdrUnpackVerifier_reads _) <| .done ⟨same, rfl, rfl, rfl⟩

/-- Both arms of the WRITE result travel. -/
theorem xdrPackWRITE3res_emits (res : WRITE3resT) (formed : res.WellFormed) :
    Emits (writing pos depth) (xdrPackWRITE3res res) () (WRITE3replyWire res.message) := by
  by_cases zero : res.hasResok = 0
  · have failed : ¬ (res.status = .NFS3_OK ∧ res.hasResok ≠ 0) := fun both => both.2 zero
    rw [xdrPackWRITE3res, if_neg failed, WRITE3resT.message, if_neg (not_not.mpr zero)]
    exact .cons (xdrPackUint32_emits _) <| .last (xdrPackWccData_emits _)
  · rw [xdrPackWRITE3res, if_pos ⟨formed.mpr zero, zero⟩, WRITE3resT.message, if_pos zero]
    exact .cons (xdrPackUint32_emits _) <| .last (WRITE3resokT.pack_emits _)

theorem xdrUnpackWRITE3res_reads (dest res : WRITE3resT) (formed : res.WellFormed) :
    Reads (reading depth) (xdrUnpackWRITE3res dest) (WRITE3replyWire res.message)
      (·.message = res.message) := by
  by_cases zero : res.hasResok = 0
  · have failed : (⟨res.status.code⟩ : Nfsstat3) ≠ .NFS3_OK := fun succeeded => formed.mp succeeded zero
    rw [show res.message = ⟨res.status, none, some res.resfail.fileWcc.message⟩ from if_neg (not_not.mpr zero)]
    refine Reads.silent uninitialized_reads fun _ _ => Reads.field (intoUint32_reads _ _) ?_
    simp only [failed, if_false]
    refine Reads.cons (xdrUnpackWccData_reads _ res.resfail.fileWcc) fun _ same => Reads.done ?_
    simp [WRITE3resT.message, same]
  · have succeeded : (⟨res.status.code⟩ : Nfsstat3) = .NFS3_OK := formed.mpr zero
    rw [show res.message = ⟨res.status, some ⟨res.resok.fileWcc.message, res.resok.count,
      res.resok.committed, res.resok.verf⟩, none⟩ from if_pos zero]
    refine Reads.silent uninitialized_reads fun _ _ => Reads.field (intoUint32_reads _ _) ?_
    simp only [succeeded, if_true]
    refine Reads.cons (dest.resok.unpack_reads res.resok) fun _ same => Reads.done ?_
    simp [WRITE3resT.message, same, formed.mpr zero]

theorem message_empty_iff {fh : NfsFh3T} (formed : fh.WellFormed) : fh.message.data = [] ↔ fh.len = 0 := by
  rw [← List.length_eq_zero_iff, NfsFh3T.message, Ptr.bytes_length formed, ← UInt32.toNat_inj]
  rfl

/-- A handle travels after its flag, and an empty handle is only a flag. -/
theorem packHandle_emits {next : Run Unit} {fields : List Bytes} (fh : NfsFh3T) (formed : fh.WellFormed)
    (rest : Emits (writing pos depth) next () fields.flatten) :
    Emits (writing pos depth) (do
      xdrPackBool (if nfsFh3IsEmpty fh then 0 else 1)
      if !nfsFh3IsEmpty fh then
        xdrPackNfsFh3 fh
      next) () (handleWire fh.message :: fields).flatten := by
  by_cases empty : fh.len = 0
  · have flag : nfsFh3IsEmpty fh = true := by simp [nfsFh3IsEmpty, empty]
    have wire : handleWire fh.message = beBool false := by
      simp [handleWire, (message_empty_iff formed).mpr empty]
    simp only [flag, if_true, wire]
    exact .cons (xdrPackBool_emits 0) rest
  · have flag : nfsFh3IsEmpty fh = false := by simp [nfsFh3IsEmpty, empty]
    have full : fh.message.data.isEmpty = false := by simp [message_empty_iff formed, empty]
    have wire : (handleWire fh.message :: fields).flatten =
        (beBool true :: fh.message.wire :: fields).flatten := by
      simp [handleWire, full]
    rw [wire]
    simp only [flag]
    exact .cons (xdrPackBool_emits 1) <| .cons (xdrPackNfsFh3_emits _ formed) rest

/-- A destination without handle keeps none when the flag is false. -/
theorem unpackHandle_decodes {α : Type} {next : NfsFh3T → Run α} {fields : List Bytes} {sound : Prop}
    {result : α → Prop} (fh : NfsFh3T) (rest : ∀ got : NfsFh3T, got.message = fh.message →
      Decodes (reading depth) (next got) fields.flatten sound result) :
    Decodes (reading depth) (do
      let has ← uninitialized
      let has ← into has.toInt32 xdrUnpackBool
      let got ← if has ≠ 0 then xdrUnpackNfsFh3 {} else pure {}
      next got) (handleWire fh.message :: fields).flatten sound result := by
  apply Decodes.silent uninitialized_reads
  intro _ _
  by_cases empty : fh.message.data = []
  · have wire : handleWire fh.message = beBool false := by simp [handleWire, empty]
    rw [wire]
    exact Decodes.field (intoBool_reads _ false) (rest {} (congrArg NfsFh3.mk empty.symm))
  · have full : fh.message.data.isEmpty = false := by simp [empty]
    have wire : (handleWire fh.message :: fields).flatten =
        (beBool true :: fh.message.wire :: fields).flatten := by
      simp [handleWire, full]
    rw [wire]
    apply Decodes.field (intoBool_reads _ true)
    exact Decodes.cons (xdrUnpackNfsFh3_reads {} fh Ptr.noConfusion) fun got same => rest got same

/-- An empty handle is sent as a false flag. -/
theorem NewObjectT.pack_emits (res : NewObjectT) (formed : res.object.WellFormed) :
    Emits (writing pos depth) res.pack () (NewObjectWire res.message) :=
  packHandle_emits res.object formed <| .cons (xdrPackPostOpAttr_emits _) <| .last (xdrPackWccData_emits _)

/-- The destination is new, so it has no handle that a false flag could leave behind. -/
theorem NewObjectT.unpack_reads (res : NewObjectT) :
    Reads (reading depth) (NewObjectT.unpack {}) (NewObjectWire res.message) (·.message = res.message) := by
  suffices decodes : Decodes (reading depth) (NewObjectT.unpack {}) (NewObjectWire res.message) True
      (·.message = res.message) from decodes.1 trivial
  refine unpackHandle_decodes res.object fun _ sameObject => Decodes.of_reads ?_
  apply Reads.cons (xdrUnpackPostOpAttr_reads _ res.objAttributes)
  intro _ sameAttributes
  refine Reads.cons (xdrUnpackWccData_reads _ res.dirWcc) fun _ sameWcc => Reads.done ?_
  simp only [NewObjectT.message, sameObject, sameAttributes, sameWcc]

theorem xdrPackPathconf3ResokInfo_emits (info : Pathconf3ResokInfoT) :
    Emits (writing pos depth) (xdrPackPathconf3ResokInfo info) () info.message.wire :=
  .cons (xdrPackUint32_emits _) <| .cons (xdrPackUint32_emits _) <| .cons (xdrPackBool_emits _) <|
  .cons (xdrPackBool_emits _) <| .cons (xdrPackBool_emits _) <| .last (xdrPackBool_emits _)

theorem xdrUnpackPathconf3ResokInfo_reads (dest info : Pathconf3ResokInfoT) :
    Reads (reading depth) (xdrUnpackPathconf3ResokInfo dest) info.message.wire (·.message = info.message) :=
  .silent uninitialized_reads fun _ _ =>
  .field (intoUint32_reads _ _) <| .field (intoUint32_reads _ _) <| .field (intoBool_reads _ _) <|
  .field (intoBool_reads _ _) <| .field (intoBool_reads _ _) <| .field (intoBool_reads _ _) <|
  .done (by simp [Pathconf3ResokInfoT.message])

theorem PATHCONF3resokT.pack_emits (res : PATHCONF3resokT) :
    Emits (writing pos depth) res.pack () res.message.wire :=
  .cons (xdrPackPostOpAttr_emits _) <| .last (xdrPackPathconf3ResokInfo_emits _)

theorem PATHCONF3resokT.unpack_reads (dest res : PATHCONF3resokT) :
    Reads (reading depth) dest.unpack res.message.wire (·.message = res.message) := by
  apply Reads.cons (xdrUnpackPostOpAttr_reads _ res.objAttributes)
  intro _ same
  apply Reads.cons (xdrUnpackPathconf3ResokInfo_reads _ res.info)
  intro _ sameInfo
  exact .done (by simp only [PATHCONF3resokT.message, same, sameInfo])

end Nfs3Rpc.Csuite
