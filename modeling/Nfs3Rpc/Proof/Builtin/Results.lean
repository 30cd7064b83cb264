import Nfs3Rpc.Format.Results
import Nfs3Rpc.Proof.Builtin.Attributes

namespace Nfs3Rpc
open Encoding Builtin

variable {pos : Nat}

/-- The status goes out first, and the `resok` only behind the status NFS3_OK. -/
theorem Res.serialize_emits {ok : Type} {okSerialize : ok → Xdr Unit} {okWire : ok → Bytes} (res : Res ok)
    (matching : res.status = .NFS3_OK ↔ res.resok.isSome = true)
    (inner : ∀ resok ∈ res.resok, Emits (XdrBuffer.writing pos) (okSerialize resok) () (okWire resok)) :
    Emits (XdrBuffer.writing pos) (Res.serialize okSerialize res) ()
      (be32 res.status.code :: res.resok.toList.map okWire).flatten := by
  obtain ⟨status, resok⟩ := res
  apply Emits.cons (packUint32_emits _)
  cases resok with
  | none =>
      have failed : status ≠ .NFS3_OK := by simpa using matching
      simp only [failed, if_false]
      exact Emits.pure ()
  | some resok =>
      have succeeded : status = .NFS3_OK := matching.mpr rfl
      simp only [succeeded, if_true]
      exact Emits.last (inner resok rfl)

/-- A fresh result receives the status and what is visible of the `resok`. -/
theorem Res.deserialize_reads {ok : Type} {okDeserialize : Xdr ok} {okWire : ok → Bytes} {visible : ok → ok}
    (self res : Res ok) (fresh : self.resok = none)
    (matching : res.status = .NFS3_OK ↔ res.resok.isSome = true)
    (inner : ∀ resok ∈ res.resok,
      Reads XdrBuffer.reading okDeserialize (okWire resok) (visible · = visible resok)) :
    Reads XdrBuffer.reading (Res.deserialize okDeserialize self)
      (be32 res.status.code :: res.resok.toList.map okWire).flatten
      fun got => (⟨got.status, got.resok.map visible⟩ : Res ok) = ⟨res.status, res.resok.map visible⟩ := by
  obtain ⟨status, resok⟩ := res
  apply Reads.field (unpackUint32_reads status.code)
  cases resok with
  | none =>
      have failed : status ≠ .NFS3_OK := by simpa using matching
      simp only [failed, if_false]
      exact Reads.done (by rw [fresh])
  | some resok =>
      have succeeded : status = .NFS3_OK := matching.mpr rfl
      subst succeeded
      refine Reads.cons (inner resok rfl) fun got same => Reads.done ?_
      simp only [Option.map_some, same]

/-- The attributes of this result have no flag in front of them. -/
theorem GETATTR3resok.serialize_emits (res : GETATTR3resok) :
    Emits (XdrBuffer.writing pos) res.serialize () res.wire :=
  res.objAttributes.serialize_emits

theorem GETATTR3resok.deserialize_reads (res : GETATTR3resok) :
    Reads XdrBuffer.reading GETATTR3resok.deserialize res.wire (· = res) :=
  Reads.returning res.objAttributes.deserialize_reads rfl

theorem SETATTR3resok.serialize_emits (res : SETATTR3resok) :
    Emits (XdrBuffer.writing pos) res.serialize () res.wire :=
  res.objWcc.serialize_emits

/-- Attributes that are flagged as absent stay those of the object, and nobody sees them. -/
theorem SETATTR3resok.deserialize_reads (self res : SETATTR3resok) :
    Reads XdrBuffer.reading self.deserialize res.wire (·.visible = res.visible) :=
  Reads.converting (self.objWcc.deserialize_reads res.objWcc) fun _ same => by
    simp only [SETATTR3resok.visible, same]

/-- REMOVE and RMDIR report the directory before and after the call. -/
theorem RemovedEntry.serialize_emits (res : RemovedEntry) :
    Emits (XdrBuffer.writing pos) res.serialize () res.wire :=
  res.dirWcc.serialize_emits

theorem RemovedEntry.deserialize_reads (self res : RemovedEntry) :
    Reads XdrBuffer.reading self.deserialize res.wire (·.visible = res.visible) :=
  Reads.converting (self.dirWcc.deserialize_reads res.dirWcc) fun _ same => by
    simp only [RemovedEntry.visible, same]

/-- The handle of the entry is followed by two optional attributes. -/
theorem LOOKUP3resok.serialize_emits (res : LOOKUP3resok) (fits : res.object.Fits) :
    Emits (XdrBuffer.writing pos) res.serialize () res.wire :=
  .cons (res.object.serialize_emits fits) <| .cons res.objAttributes.serialize_emits <|
  .last res.dirAttributes.serialize_emits

/-- Both optional attributes are compared as far as their flags show them. -/
theorem LOOKUP3resok.deserialize_reads (self res : LOOKUP3resok) (fits : res.object.Fits) :
    Reads XdrBuffer.reading self.deserialize res.wire (·.visible = res.visible) := by
  apply Reads.field (res.object.deserialize_reads fits)
  apply Reads.cons (self.objAttributes.deserialize_reads res.objAttributes)
  intro _ sameObj
  apply Reads.cons (self.dirAttributes.deserialize_reads res.dirAttributes)
  intro _ sameDir
  exact .done (by simp only [LOOKUP3resok.visible, sameObj, sameDir])

theorem ACCESS3resok.serialize_emits (res : ACCESS3resok) :
    Emits (XdrBuffer.writing pos) res.serialize () res.wire :=
  .cons res.objAttributes.serialize_emits <| .last (packUint32_emits _)

/-- The rights are plain, and the attributes in front of them are optional. -/
theorem ACCESS3resok.deserialize_reads (self res : ACCESS3resok) :
    Reads XdrBuffer.reading self.deserialize res.wire (·.visible = res.visible) := by
  apply Reads.cons (self.objAttributes.deserialize_reads res.objAttributes)
  intro _ same
  exact .field (unpackUint32_reads _) <| .done (by simp only [ACCESS3resok.visible, same])

/-- The text of the link has to be short enough for its length word. -/
theorem READLINK3resok.serialize_emits (res : READLINK3resok) (fits : Short res.data) :
    Emits (XdrBuffer.writing pos) res.serialize () res.wire :=
  .cons res.symlinkAttributes.serialize_emits <| .last (packString_emits _ fits)

theorem READLINK3resok.deserialize_reads (self res : READLINK3resok) (fits : Short res.data) :
    Reads XdrBuffer.reading self.deserialize res.wire (·.visible = res.visible) := by
  apply Reads.cons (self.symlinkAttributes.deserialize_reads res.symlinkAttributes)
  intro _ same
  exact .field (unpackString_reads _ fits) <| .done (by simp only [READLINK3resok.visible, same])

/-- The count, the end mark and the data travel in this order. -/
theorem READ3resok.serialize_emits (res : READ3resok) (fits : Short res.data) :
    Emits (XdrBuffer.writing pos) res.serialize () res.wire :=
  .cons res.fileAttributes.serialize_emits <| .cons (packUint64_emits _) <| .cons (packBool_emits _) <|
  .last (packOpaque_emits _ fits)

/-- The count is a word of its own, and the data bring their own length. -/
theorem READ3resok.deserialize_reads (self res : READ3resok) (fits : Short res.data) :
    Reads XdrBuffer.reading self.deserialize res.wire (·.visible = res.visible) := by
  apply Reads.cons (self.fileAttributes.deserialize_reads res.fileAttributes)
  intro _ same
  exact .field (unpackUint64_reads _) <| .field (unpackBool_reads _) <|
    .field (unpackOpaque_reads _ fits) <| .done (by simp only [READ3resok.visible, same])

/-- The verifier goes out as a byte string with a length word. -/
theorem WRITE3resok.serialize_emits (res : WRITE3resok) :
    Emits (XdrBuffer.writing pos) res.serialize () res.wire :=
  .cons res.fileAttributes.serialize_emits <| .cons (packUint32_emits _) <|
  .cons (packUint32_emits _) <| .last res.verf.serialize_emits

/-- Eight bytes arrive for the verifier, so nothing of the old one is left. -/
theorem WRITE3resok.deserialize_reads (self res : WRITE3resok) :
    Reads XdrBuffer.reading self.deserialize res.wire (·.visible = res.visible) := by
  apply Reads.cons (self.fileAttributes.deserialize_reads res.fileAttributes)
  intro _ same
  exact .field (unpackUint32_reads _) <| .field (unpackUint32_reads _) <|
    .field (self.verf.deserialize_reads res.verf) <| .done (by simp only [WRITE3resok.visible, same])

/-- The four creating calls put the attributes and the directory in front of the handle. -/
theorem NewObject.serialize_emits (res : NewObject) (fits : res.object.Fits) :
    Emits (XdrBuffer.writing pos) res.serialize () res.wire :=
  .cons res.objAttributes.serialize_emits <| .cons res.dirWcc.serialize_emits <|
  .last (res.object.serialize_emits fits)

/-- The handle comes last, behind two values that may hide their attributes. -/
theorem NewObject.deserialize_reads (self res : NewObject) (fits : res.object.Fits) :
    Reads XdrBuffer.reading self.deserialize res.wire (·.visible = res.visible) := by
  apply Reads.cons (self.objAttributes.deserialize_reads res.objAttributes)
  intro _ sameObj
  apply Reads.cons (self.dirWcc.deserialize_reads res.dirWcc)
  intro _ sameDir
  exact .field (res.object.deserialize_reads fits) <|
    .done (by simp only [NewObject.visible, sameObj, sameDir])

theorem RENAME3resok.serialize_emits (res : RENAME3resok) :
    Emits (XdrBuffer.writing pos) res.serialize () res.wire :=
  .cons res.fromdirWcc.serialize_emits <| .last res.todirWcc.serialize_emits

/-- Both directories are reported, and each may hide its attributes. -/
theorem RENAME3resok.deserialize_reads (self res : RENAME3resok) :
    Reads XdrBuffer.reading self.deserialize res.wire (·.visible = res.visible) := by
  apply Reads.cons (self.fromdirWcc.deserialize_reads res.fromdirWcc)
  intro _ sameFromdir
  apply Reads.cons (self.todirWcc.deserialize_reads res.todirWcc)
  intro _ sameTodir
  exact .done (by simp only [RENAME3resok.visible, sameFromdir, sameTodir])

theorem LINK3resok.serialize_emits (res : LINK3resok) :
    Emits (XdrBuffer.writing pos) res.serialize () res.wire :=
  .cons res.fileAttributes.serialize_emits <| .last res.linkdirWcc.serialize_emits

/-- The file may hide its attributes, and so may the directory of its new name. -/
theorem LINK3resok.deserialize_reads (self res : LINK3resok) :
    Reads XdrBuffer.reading self.deserialize res.wire (·.visible = res.visible) := by
  apply Reads.cons (self.fileAttributes.deserialize_reads res.fileAttributes)
  intro _ sameFile
  apply Reads.cons (self.linkdirWcc.deserialize_reads res.linkdirWcc)
  intro _ sameLinkdir
  exact .done (by simp only [LINK3resok.visible, sameFile, sameLinkdir])

/-- Six sizes and the time for which they hold follow the attributes. -/
theorem FSSTAT3resok.serialize_emits (res : FSSTAT3resok) :
    Emits (XdrBuffer.writing pos) res.serialize () res.wire :=
  .cons res.objAttributes.serialize_emits <| .cons (packUint64_emits _) <| .cons (packUint64_emits _) <|
  .cons (packUint64_emits _) <| .cons (packUint64_emits _) <| .cons (packUint64_emits _) <|
  .cons (packUint64_emits _) <| .last (packUint32_emits _)

/-- Only the attributes in front can hide something. -/
theorem FSSTAT3resok.deserialize_reads (self res : FSSTAT3resok) :
    Reads XdrBuffer.reading self.deserialize res.wire (·.visible = res.visible) := by
  apply Reads.cons (self.objAttributes.deserialize_reads res.objAttributes)
  intro _ same
  exact .field (unpackUint64_reads _) <| .field (unpackUint64_reads _) <|
    .field (unpackUint64_reads _) <| .field (unpackUint64_reads _) <| .field (unpackUint64_reads _) <|
    .field (unpackUint64_reads _) <| .field (unpackUint32_reads _) <|
    .done (by simp only [FSSTAT3resok.visible, same])

/-- The transfer limits, the largest file, the clock step and the properties follow the attributes. -/
theorem FSINFO3resok.serialize_emits (res : FSINFO3resok) :
    Emits (XdrBuffer.writing pos) res.serialize () res.wire :=
  .cons res.objAttributes.serialize_emits <| .cons (packUint32_emits _) <| .cons (packUint32_emits _) <|
  .cons (packUint32_emits _) <| .cons (packUint32_emits _) <| .cons (packUint32_emits _) <|
  .cons (packUint32_emits _) <| .cons (packUint32_emits _) <| .cons (packUint64_emits _) <|
  .cons (packUint32_emits _) <| .cons (packUint32_emits _) <| .last (packUint32_emits _)

/-- All limits return as they were sent. -/
theorem FSINFO3resok.deserialize_reads (self res : FSINFO3resok) :
    Reads XdrBuffer.reading self.deserialize res.wire (·.visible = res.visible) := by
  apply Reads.cons (self.objAttributes.deserialize_reads res.objAttributes)
  intro _ same
  exact .field (unpackUint32_reads _) <| .field (unpackUint32_reads _) <|
    .field (unpackUint32_reads _) <| .field (unpackUint32_reads _) <| .field (unpackUint32_reads _) <|
    .field (unpackUint32_reads _) <| .field (unpackUint32_reads _) <| .field (unpackUint64_reads _) <|
    .field (unpackUint32_reads _) <| .field (unpackUint32_reads _) <| .field (unpackUint32_reads _) <|
    .done (by simp only [FSINFO3resok.visible, same])

/-- The writer sends the name limit as the second of six words. -/
theorem Fsinfo3ResokProperty.serialize_emits (res : Fsinfo3ResokProperty) :
    Emits (XdrBuffer.writing pos) res.serialize () res.wire :=
  .cons (packUint32_emits _) <| .cons (packUint32_emits _) <| .cons (packBool_emits _) <|
  .cons (packBool_emits _) <| .cons (packBool_emits _) <| .last (packBool_emits _)

/-- The name limit is never read, so each flag takes the word in front of its own. -/
theorem Fsinfo3ResokProperty.deserialize_reads (self res : Fsinfo3ResokProperty) :
    Reads XdrBuffer.reading self.deserialize
      [be32 res.linkmax, be32 res.nameMax, beBool res.noTrunc, beBool res.chownRestricted,
        beBool res.caseInsensitive].flatten
      (· = { linkmax := res.linkmax, nameMax := self.nameMax, noTrunc := res.nameMax != 0,
             chownRestricted := res.noTrunc, caseInsensitive := res.chownRestricted,
             casePreserving := res.caseInsensitive }) := by
  have unread : Reads XdrBuffer.reading (Fsinfo3ResokProperty.unpack self.nameMax) [] (· = self.nameMax) :=
    Reads.pure rfl
  apply Reads.field (unpackUint32_reads _)
  apply Reads.silent unread
  intro _ same
  rw [same]
  exact .field (unpackBool_reads_word _) <| .field (unpackBool_reads _) <| .field (unpackBool_reads _) <|
    .field (unpackBool_reads _) <| .done rfl

/-- The last word of its own serialization stays behind. -/
theorem Fsinfo3ResokProperty.deserialize_own (self res : Fsinfo3ResokProperty) :
    ∃ wire got, res.serialize XdrBuffer.empty = .ok () ⟨wire, 0⟩ ∧ wire.length = 24 ∧
      self.deserialize ⟨wire, 0⟩ = .ok got ⟨wire, 20⟩ ∧ got.nameMax = self.nameMax := by
  obtain ⟨got, _, runs, same, rfl⟩ := self.deserialize_reads res ⟨res.wire, 0⟩ [] (beBool res.casePreserving)
    (by simp [XdrBuffer.reading, Fsinfo3ResokProperty.wire])
  have wire : res.wire = [be32 res.linkmax, be32 res.nameMax, beBool res.noTrunc, beBool res.chownRestricted,
      beBool res.caseInsensitive].flatten ++ beBool res.casePreserving := by
    simp [Fsinfo3ResokProperty.wire]
  refine ⟨res.wire, got, run_of_emits res.serialize_emits, ?_, ?_, by rw [same]⟩
  · simp [wire]
  · rw [runs, List.nil_append, ← wire]
    simp

theorem Pathconf3ResokInfo.serialize_emits (info : Pathconf3ResokInfo) :
    Emits (XdrBuffer.writing pos) info.serialize () info.wire :=
  .cons (packInt32_emits _) <| .cons (packInt32_emits _) <| .cons (packBool_emits _) <|
  .cons (packBool_emits _) <| .cons (packBool_emits _) <| .last (packBool_emits _)

/-- Each of the six words is replaced, so no old limit is left. -/
theorem Pathconf3ResokInfo.deserialize_reads (info : Pathconf3ResokInfo) :
    Reads XdrBuffer.reading Pathconf3ResokInfo.deserialize info.wire (· = info) :=
  .field (unpackInt32_reads _) <| .field (unpackInt32_reads _) <| .field (unpackBool_reads _) <|
  .field (unpackBool_reads _) <| .field (unpackBool_reads _) <| .field (unpackBool_reads _) <| .done rfl

theorem PATHCONF3resok.serialize_emits (res : PATHCONF3resok) :
    Emits (XdrBuffer.writing pos) res.serialize () res.wire :=
  .cons res.objAttributes.serialize_emits <| .last res.info.serialize_emits

/-- The limits are plain, and the attributes in front of them are optional. -/
theorem PATHCONF3resok.deserialize_reads (self res : PATHCONF3resok) :
    Reads XdrBuffer.reading self.deserialize res.wire (·.visible = res.visible) := by
  apply Reads.cons (self.objAttributes.deserialize_reads res.objAttributes)
  intro _ same
  exact .field res.info.deserialize_reads <| .done (by simp only [PATHCONF3resok.visible, same])

/-- A commit reports the attributes and the verifier of the server. -/
theorem COMMIT3resok.serialize_emits (res : COMMIT3resok) :
    Emits (XdrBuffer.writing pos) res.serialize () res.wire :=
  .cons res.fileWcc.serialize_emits <| .last res.verf.serialize_emits

/-- The verifier has all of its eight bytes. -/
theorem COMMIT3resok.deserialize_reads (self res : COMMIT3resok) :
    Reads XdrBuffer.reading self.deserialize res.wire (·.visible = res.visible) := by
  apply Reads.cons (self.fileWcc.deserialize_reads res.fileWcc)
  intro _ same
  exact .field (self.verf.deserialize_reads res.verf) <|
    .done (by simp only [COMMIT3resok.visible, same])

end Nfs3Rpc
