import Nfs3Rpc.Encoding.Alike
import Nfs3Rpc.Format.Priors

namespace Nfs3Rpc
open Encoding Builtin

/-- The two runs return what looks the same exactly when the third one returns a true condition. -/
abbrev LooksSameIff {α : Type} (visible : α → α) (first second : Xdr α) (agrees : Xdr Prop) : Prop :=
  Alike (fun a b condition => visible a = visible b ↔ condition) first second agrees

/-- The two runs always return what looks the same. -/
abbrev LooksSame {α : Type} (visible : α → α) (first second third : Xdr α) : Prop :=
  Alike (fun a b _ => visible a = visible b) first second third

theorem unpackSentinel_alike (first second : Option UInt32) :
    LooksSameIff id (unpackSentinel first) (unpackSentinel second) (sentinelAgrees first second) := by
  apply Alike.field
  intro val
  apply Alike.pure
  by_cases absent : val = absentWord
  · simp [absent]
  · simp [absent]

theorem unpackOptional_alike {α : Type} (unpack : Xdr α) (first second : Option α) :
    LooksSameIff id (unpackOptional unpack first) (unpackOptional unpack second)
      (optionalAgrees unpack first second) := by
  apply Alike.field
  intro flag
  cases flag with
  | true =>
      apply Alike.field
      intro value
      exact Alike.pure (by simp)
  | false => exact Alike.pure (by simp)

theorem Verifier.deserialize_alike (first second : Verifier) :
    LooksSameIff id first.deserialize second.deserialize (Verifier.agrees first second) := by
  apply Alike.field
  intro data
  by_cases enough : 8 ≤ data.length
  · rw [dif_pos enough, dif_pos enough]
    exact Alike.pure (by simp; omega)
  · rw [dif_neg enough, dif_neg enough]
    exact Alike.pure (by simp; omega)

theorem Sattr3.deserialize_alike (first second : Sattr3) :
    LooksSameIff id first.deserialize second.deserialize (Sattr3.agrees first second) := by
  apply Alike.bind (unpackSentinel_alike _ _)
  intro mode mode' modeAgrees sameMode
  apply Alike.bind (unpackSentinel_alike _ _)
  intro uid uid' uidAgrees sameUid
  apply Alike.bind (unpackSentinel_alike _ _)
  intro gid gid' gidAgrees sameGid
  apply Alike.bind (unpackOptional_alike _ _ _)
  intro size size' sizeAgrees sameSize
  apply Alike.bind (unpackOptional_alike _ _ _)
  intro atime atime' atimeAgrees sameAtime
  apply Alike.bind (unpackOptional_alike _ _ _)
  intro mtime mtime' mtimeAgrees sameMtime
  apply Alike.pure
  simp only [id, Sattr3.mk.injEq] at *
  rw [sameMode, sameUid, sameGid, sameSize, sameAtime, sameMtime]

theorem SETATTR3args.deserialize_alike (first second : SETATTR3args) :
    LooksSameIff id first.deserialize second.deserialize (SETATTR3args.agrees first second) := by
  apply Alike.field
  intro object
  apply Alike.bind (Sattr3.deserialize_alike _ _)
  intro attributes attributes' attributesAgree sameAttributes
  apply Alike.bind (unpackOptional_alike _ _ _)
  intro guard guard' guardAgrees sameGuard
  apply Alike.pure
  simp only [id, SETATTR3args.mk.injEq, true_and] at *
  rw [sameAttributes, sameGuard]

theorem CREATE3args.deserialize_alike (first second : CREATE3args) :
    LooksSameIff id first.deserialize second.deserialize (CREATE3args.agrees first second) := by
  apply Alike.field
  intro dir
  apply Alike.field
  intro name
  apply Alike.field
  intro modeVal
  apply Alike.bind (Sattr3.deserialize_alike _ _)
  intro attributes attributes' attributesAgree sameAttributes
  by_cases exclusive : (⟨modeVal⟩ : Createmode3) = .EXCLUSIVE
  · simp only [exclusive, if_true]
    apply Alike.bind (Verifier.deserialize_alike _ _)
    intro verf verf' verfAgrees sameVerf
    apply Alike.pure
    simp only [id, CREATE3args.mk.injEq, true_and] at *
    rw [sameAttributes, sameVerf]
  · simp only [exclusive, if_false]
    apply Alike.pure
    simp only [id, CREATE3args.mk.injEq, true_and] at *
    rw [sameAttributes]

theorem MKDIR3args.deserialize_alike (first second : MKDIR3args) :
    LooksSameIff id first.deserialize second.deserialize (MKDIR3args.agrees first second) := by
  apply Alike.field
  intro dir
  apply Alike.field
  intro name
  apply (Sattr3.deserialize_alike _ _).closing
  intro attributes attributes' agree same
  simpa only [id, MKDIR3args.mk.injEq, true_and] using same

theorem SYMLINK3args.deserialize_alike (first second : SYMLINK3args) :
    LooksSameIff id first.deserialize second.deserialize (SYMLINK3args.agrees first second) := by
  apply Alike.field
  intro dir
  apply Alike.field
  intro name
  apply Alike.bind (Sattr3.deserialize_alike _ _)
  intro attributes attributes' agree same
  apply Alike.field
  intro data
  apply Alike.pure
  simpa only [id, SYMLINK3args.mk.injEq, true_and, and_true] using same

theorem MKNOD3args.deserialize_alike (first second : MKNOD3args) :
    LooksSameIff id first.deserialize second.deserialize (MKNOD3args.agrees first second) := by
  apply Alike.field
  intro dir
  apply Alike.field
  intro name
  apply Alike.field
  intro typeVal
  apply (Sattr3.deserialize_alike _ _).closing
  intro attributes attributes' agree same
  simpa only [id, MKNOD3args.mk.injEq, true_and] using same

/-- A decoder that does not look at its object returns the same in each run. -/
theorem looksSameIff_of_same {α : Type} (visible : α → α) (program : Xdr α) :
    LooksSameIff visible program program (program >>= fun _ => pure True) := by
  have same : Alike (fun a b _ => b = a) program program program :=
    (Alike.same program).weaken fun _ _ _ same => same.1
  apply same.returning
  intro a b equal
  rw [equal]
  exact iff_true_intro rfl

theorem ProcNum.deserializeArgs_alike (proc : ProcNum) (first second : proc.Args) :
    LooksSameIff id (proc.deserializeArgs first) (proc.deserializeArgs second) (proc.argsAgree first second) := by
  cases proc with
  | SETATTR => exact SETATTR3args.deserialize_alike first second
  | CREATE => exact CREATE3args.deserialize_alike first second
  | MKDIR => exact MKDIR3args.deserialize_alike first second
  | SYMLINK => exact SYMLINK3args.deserialize_alike first second
  | MKNOD => exact MKNOD3args.deserialize_alike first second
  | _ => exact looksSameIff_of_same id _

/-- The flag comes from the bytes, so it hides the same attributes in each run. -/
theorem PostOpAttr.deserialize_alike (first second third : PostOpAttr) :
    LooksSame PostOpAttr.visible first.deserialize second.deserialize third.deserialize := by
  apply Alike.field
  intro follow
  cases follow with
  | true =>
      apply Alike.field
      intro attributes
      exact Alike.pure rfl
  | false => exact Alike.pure rfl

theorem PreOpAttr.deserialize_alike (first second third : PreOpAttr) :
    LooksSame PreOpAttr.visible first.deserialize second.deserialize third.deserialize := by
  apply Alike.field
  intro check
  cases check with
  | true =>
      apply Alike.field
      intro attributes
      exact Alike.pure rfl
  | false => exact Alike.pure rfl

theorem WccData.deserialize_alike (first second third : WccData) :
    LooksSame WccData.visible first.deserialize second.deserialize third.deserialize := by
  apply Alike.bind (PreOpAttr.deserialize_alike _ _ _)
  intro before before' _ sameBefore
  apply Alike.bind (PostOpAttr.deserialize_alike _ _ _)
  intro after after' _ sameAfter
  apply Alike.pure
  simp only [WccData.visible, sameBefore, sameAfter]

theorem LOOKUP3resok.deserialize_alike (first second third : LOOKUP3resok) :
    LooksSame LOOKUP3resok.visible first.deserialize second.deserialize third.deserialize := by
  apply Alike.field
  intro object
  apply Alike.bind (PostOpAttr.deserialize_alike _ _ _)
  intro attributes attributes' _ same
  apply Alike.bind (PostOpAttr.deserialize_alike _ _ _)
  intro dirAttributes dirAttributes' _ sameDir
  apply Alike.pure
  simp only [LOOKUP3resok.visible, same, sameDir]

theorem ACCESS3resok.deserialize_alike (first second third : ACCESS3resok) :
    LooksSame ACCESS3resok.visible first.deserialize second.deserialize third.deserialize := by
  apply Alike.bind (PostOpAttr.deserialize_alike _ _ _)
  intro attributes attributes' _ same
  apply Alike.field
  intro access
  apply Alike.pure
  simp only [ACCESS3resok.visible, same]

theorem READLINK3resok.deserialize_alike (first second third : READLINK3resok) :
    LooksSame READLINK3resok.visible first.deserialize second.deserialize third.deserialize := by
  apply Alike.bind (PostOpAttr.deserialize_alike _ _ _)
  intro attributes attributes' _ same
  apply Alike.field
  intro data
  apply Alike.pure
  simp only [READLINK3resok.visible, same]

theorem READ3resok.deserialize_alike (first second third : READ3resok) :
    LooksSame READ3resok.visible first.deserialize second.deserialize third.deserialize := by
  apply Alike.bind (PostOpAttr.deserialize_alike _ _ _)
  intro attributes attributes' _ same
  apply Alike.field
  intro count
  apply Alike.field
  intro eof
  apply Alike.field
  intro data
  apply Alike.pure
  simp only [READ3resok.visible, same]

theorem NewObject.deserialize_alike (first second third : NewObject) :
    LooksSame NewObject.visible first.deserialize second.deserialize third.deserialize := by
  apply Alike.bind (PostOpAttr.deserialize_alike _ _ _)
  intro attributes attributes' _ same
  apply Alike.bind (WccData.deserialize_alike _ _ _)
  intro wcc wcc' _ sameWcc
  apply Alike.field
  intro object
  apply Alike.pure
  simp only [NewObject.visible, same, sameWcc]

theorem SETATTR3resok.deserialize_alike (first second third : SETATTR3resok) :
    LooksSame SETATTR3resok.visible first.deserialize second.deserialize third.deserialize := by
  apply Alike.bind (WccData.deserialize_alike _ _ _)
  intro wcc wcc' _ same
  apply Alike.pure
  simp only [SETATTR3resok.visible, same]

theorem RemovedEntry.deserialize_alike (first second third : RemovedEntry) :
    LooksSame RemovedEntry.visible first.deserialize second.deserialize third.deserialize := by
  apply Alike.bind (WccData.deserialize_alike _ _ _)
  intro wcc wcc' _ same
  apply Alike.pure
  simp only [RemovedEntry.visible, same]

theorem RENAME3resok.deserialize_alike (first second third : RENAME3resok) :
    LooksSame RENAME3resok.visible first.deserialize second.deserialize third.deserialize := by
  apply Alike.bind (WccData.deserialize_alike _ _ _)
  intro fromWcc fromWcc' _ sameFrom
  apply Alike.bind (WccData.deserialize_alike _ _ _)
  intro toWcc toWcc' _ sameTo
  apply Alike.pure
  simp only [RENAME3resok.visible, sameFrom, sameTo]

theorem LINK3resok.deserialize_alike (first second third : LINK3resok) :
    LooksSame LINK3resok.visible first.deserialize second.deserialize third.deserialize := by
  apply Alike.bind (PostOpAttr.deserialize_alike _ _ _)
  intro attributes attributes' _ same
  apply Alike.bind (WccData.deserialize_alike _ _ _)
  intro wcc wcc' _ sameWcc
  apply Alike.pure
  simp only [LINK3resok.visible, same, sameWcc]

theorem FSSTAT3resok.deserialize_alike (first second third : FSSTAT3resok) :
    LooksSame FSSTAT3resok.visible first.deserialize second.deserialize third.deserialize := by
  apply Alike.bind (PostOpAttr.deserialize_alike _ _ _)
  intro attributes attributes' _ same
  iterate 7
    apply Alike.field
    intro _
  apply Alike.pure
  simp only [FSSTAT3resok.visible, same]

theorem FSINFO3resok.deserialize_alike (first second third : FSINFO3resok) :
    LooksSame FSINFO3resok.visible first.deserialize second.deserialize third.deserialize := by
  apply Alike.bind (PostOpAttr.deserialize_alike _ _ _)
  intro attributes attributes' _ same
  iterate 11
    apply Alike.field
    intro _
  apply Alike.pure
  simp only [FSINFO3resok.visible, same]

theorem PATHCONF3resok.deserialize_alike (first second third : PATHCONF3resok) :
    LooksSame PATHCONF3resok.visible first.deserialize second.deserialize third.deserialize := by
  apply Alike.bind (PostOpAttr.deserialize_alike _ _ _)
  intro attributes attributes' _ same
  apply Alike.field
  intro info
  apply Alike.pure
  simp only [PATHCONF3resok.visible, same]

/-- The name limit stays on every input. -/
theorem Fsinfo3ResokProperty.deserialize_alike (first second : Fsinfo3ResokProperty) :
    LooksSameIff id first.deserialize second.deserialize (Fsinfo3ResokProperty.agrees first second) := by
  have third : Fsinfo3ResokProperty.agrees first second = do
      let _ ← unpackUint32
      let _ ← unpackBool
      let _ ← unpackBool
      let _ ← unpackBool
      let _ ← unpackBool
      return first.nameMax = second.nameMax := by
    simp only [Fsinfo3ResokProperty.agrees, Fsinfo3ResokProperty.deserialize, Fsinfo3ResokProperty.unpack, bind_assoc,
      pure_bind]
  rw [third]
  simp only [Fsinfo3ResokProperty.deserialize, Fsinfo3ResokProperty.unpack, pure_bind]
  iterate 5
    apply Alike.field
    intro _
  apply Alike.pure
  simp only [id, Fsinfo3ResokProperty.mk.injEq, true_and, and_true]

/-- A verifier that is too short keeps the bytes of its object. -/
theorem WRITE3resok.deserialize_alike (first second : WRITE3resok) :
    LooksSameIff WRITE3resok.visible first.deserialize second.deserialize (WRITE3resok.agrees first second) := by
  apply Alike.bind (PostOpAttr.deserialize_alike _ _ _)
  intro attributes attributes' _ sameAttributes
  apply Alike.field
  intro count
  apply Alike.field
  intro committed
  apply (Verifier.deserialize_alike _ _).closing
  intro verf verf' agree same
  simpa only [id, WRITE3resok.visible, WRITE3resok.mk.injEq, sameAttributes, true_and] using same

theorem COMMIT3resok.deserialize_alike (first second : COMMIT3resok) :
    LooksSameIff COMMIT3resok.visible first.deserialize second.deserialize (COMMIT3resok.agrees first second) := by
  apply Alike.bind (PostOpAttr.deserialize_alike _ _ _)
  intro attributes attributes' _ sameAttributes
  apply (Verifier.deserialize_alike _ _).closing
  intro verf verf' agree same
  simpa only [id, COMMIT3resok.visible, COMMIT3resok.mk.injEq, sameAttributes, true_and] using same

/-- Only the first entry of the chain has an object of its own; the next ones are new. -/
theorem Entry3.deserialize_alike (unread : Nat) (first second : List Entry3) :
    LooksSameIff id (Entry3.deserialize unread first) (Entry3.deserialize unread second)
      (Entry3.agrees unread first second) := by
  unfold Entry3.deserialize Entry3.agrees
  apply Alike.field
  intro fileid
  cases unread with
  | zero => exact Alike.pure Iff.rfl
  | succ unread =>
      apply Alike.field
      intro name
      apply Alike.field
      intro cookie
      apply Alike.field
      intro hasNext
      cases hasNext with
      | true =>
          apply Alike.field
          intro entries
          exact Alike.pure (by simp)
      | false => exact Alike.pure (by simp)

theorem Dirlist3.deserialize_alike (first second : Dirlist3) :
    LooksSameIff id first.deserialize second.deserialize (Dirlist3.agrees first second) := by
  apply Alike.field
  intro hasEntries
  cases hasEntries with
  | true =>
      apply Alike.field
      intro unread
      apply Alike.field
      intro entries
      apply Alike.field
      intro eof
      exact Alike.pure (by simp)
  | false =>
      simp only [Bool.false_eq_true, if_false, pure_bind]
      apply Alike.field
      intro eof
      exact Alike.pure (by simp)

theorem READDIR3resok.deserialize_alike (first second : READDIR3resok) :
    LooksSameIff READDIR3resok.visible first.deserialize second.deserialize (READDIR3resok.agrees first second) := by
  apply Alike.bind (PostOpAttr.deserialize_alike _ _ _)
  intro attributes attributes' _ sameAttributes
  apply Alike.field
  intro cookieverf
  apply (Dirlist3.deserialize_alike _ _).closing
  intro reply reply' agree same
  simpa only [id, READDIR3resok.visible, READDIR3resok.mk.injEq, sameAttributes, true_and] using same

theorem Entryplus3.deserialize_alike (unread : Nat) (self self' : Entryplus3) (first second : List Entryplus3) :
    LooksSameIff (List.map Entryplus3.visible) (Entryplus3.deserialize unread self first)
      (Entryplus3.deserialize unread self' second) (Entryplus3.agrees unread first second) := by
  unfold Entryplus3.deserialize Entryplus3.agrees
  apply Alike.field
  intro fileid
  cases unread with
  | zero => exact Alike.pure Iff.rfl
  | succ unread =>
      apply Alike.field
      intro name
      apply Alike.field
      intro cookie
      apply Alike.field
      intro handle
      apply Alike.bind (PostOpAttr.deserialize_alike _ _ _)
      intro attributes attributes' _ same
      apply Alike.field
      intro hasNext
      cases hasNext with
      | true =>
          apply Alike.field
          intro entries
          exact Alike.pure (by simp [Entryplus3.visible, same])
      | false => exact Alike.pure (by simp [Entryplus3.visible, same])

theorem Dirlistplus3.deserialize_alike (first second : Dirlistplus3) :
    LooksSameIff Dirlistplus3.visible first.deserialize second.deserialize (Dirlistplus3.agrees first second) := by
  apply Alike.field
  intro hasEntries
  cases hasEntries with
  | true =>
      apply Alike.field
      intro unread
      apply Alike.field
      intro entries
      apply Alike.field
      intro eof
      exact Alike.pure (by simp)
  | false =>
      simp only [Bool.false_eq_true, if_false, pure_bind]
      apply Alike.field
      intro eof
      exact Alike.pure (by simp [Dirlistplus3.visible])

theorem READDIRPLUS3resok.deserialize_alike (first second : READDIRPLUS3resok) :
    LooksSameIff READDIRPLUS3resok.visible first.deserialize second.deserialize
      (READDIRPLUS3resok.agrees first second) := by
  apply Alike.bind (PostOpAttr.deserialize_alike _ _ _)
  intro attributes attributes' _ sameAttributes
  apply Alike.field
  intro cookieverf
  apply (Dirlistplus3.deserialize_alike _ _).closing
  intro reply reply' agree same
  simpa only [READDIRPLUS3resok.visible, READDIRPLUS3resok.mk.injEq, sameAttributes, true_and] using same

theorem looksSameIff_of_looksSame {α : Type} {visible : α → α} {first second : Xdr α}
    (same : LooksSame visible first second first) :
    LooksSameIff visible first second (first >>= fun _ => pure True) := by
  apply same.returning
  intro a b looksSame
  exact iff_true_intro looksSame

/-- Short verifiers and empty directory lists keep what their objects held. -/
theorem ProcNum.deserializeResok_alike (proc : ProcNum) (first second : proc.Resok) :
    LooksSameIff proc.visibleResok (proc.deserializeResok first) (proc.deserializeResok second)
      (proc.resokAgree first second) := by
  cases proc with
  | GETATTR => exact looksSameIff_of_same id GETATTR3resok.deserialize
  | SETATTR => exact looksSameIff_of_looksSame (SETATTR3resok.deserialize_alike first second first)
  | LOOKUP => exact looksSameIff_of_looksSame (LOOKUP3resok.deserialize_alike first second first)
  | ACCESS => exact looksSameIff_of_looksSame (ACCESS3resok.deserialize_alike first second first)
  | READLINK => exact looksSameIff_of_looksSame (READLINK3resok.deserialize_alike first second first)
  | READ => exact looksSameIff_of_looksSame (READ3resok.deserialize_alike first second first)
  | WRITE => exact WRITE3resok.deserialize_alike first second
  | CREATE => exact looksSameIff_of_looksSame (NewObject.deserialize_alike first second first)
  | MKDIR => exact looksSameIff_of_looksSame (NewObject.deserialize_alike first second first)
  | SYMLINK => exact looksSameIff_of_looksSame (NewObject.deserialize_alike first second first)
  | MKNOD => exact looksSameIff_of_looksSame (NewObject.deserialize_alike first second first)
  | REMOVE => exact looksSameIff_of_looksSame (RemovedEntry.deserialize_alike first second first)
  | RMDIR => exact looksSameIff_of_looksSame (RemovedEntry.deserialize_alike first second first)
  | RENAME => exact looksSameIff_of_looksSame (RENAME3resok.deserialize_alike first second first)
  | LINK => exact looksSameIff_of_looksSame (LINK3resok.deserialize_alike first second first)
  | READDIR => exact READDIR3resok.deserialize_alike first second
  | READDIRPLUS => exact READDIRPLUS3resok.deserialize_alike first second
  | FSSTAT => exact looksSameIff_of_looksSame (FSSTAT3resok.deserialize_alike first second first)
  | FSINFO => exact looksSameIff_of_looksSame (FSINFO3resok.deserialize_alike first second first)
  | PATHCONF => exact looksSameIff_of_looksSame (PATHCONF3resok.deserialize_alike first second first)
  | COMMIT => exact COMMIT3resok.deserialize_alike first second

theorem ProcNum.deserializeRes_eq (proc : ProcNum) (uninit : Verifier) (self : Res proc.Resok) :
    proc.deserializeRes uninit self = Res.deserialize (proc.deserializeResok (proc.newResok uninit)) self := by
  cases proc <;> rfl

/-- A successful result decodes a new `resok`, and a failed one keeps the `resok` of its object. -/
theorem ProcNum.deserializeRes_alike (proc : ProcNum) (uninit uninit' : Verifier) (first second : Res proc.Resok) :
    LooksSameIff proc.visibleRes (proc.deserializeRes uninit first) (proc.deserializeRes uninit' second)
      (proc.resAgree uninit uninit' first second) := by
  rw [proc.deserializeRes_eq, proc.deserializeRes_eq]
  apply Alike.field
  intro statusVal
  by_cases succeeded : (⟨statusVal⟩ : Nfsstat3) = .NFS3_OK
  · simp only [succeeded, if_true]
    apply (proc.deserializeResok_alike _ _).closing
    intro resok resok' agree same
    simpa only [ProcNum.visibleRes, Res.mk.injEq, true_and, Option.map_some, Option.some.injEq] using same
  · simp only [succeeded, if_false]
    apply Alike.pure
    simp only [ProcNum.visibleRes, Res.mk.injEq, true_and]

/-- Two runs of a decoder on the same bytes fail together or return together. -/
theorem NfsStruct.deserialize_alike (struct : NfsStruct) (uninit uninit' : Verifier)
    (first second : struct.Object) :
    LooksSameIff struct.visible (struct.deserialize uninit first) (struct.deserialize uninit' second)
      (struct.agrees uninit uninit' first second) := by
  cases struct with
  | writeverf3 => exact Verifier.deserialize_alike first second
  | createverf3 => exact Verifier.deserialize_alike first second
  | nfsFh3 => exact looksSameIff_of_same id NfsFh3.deserialize
  | nfstime3 => exact looksSameIff_of_same id Nfstime3.deserialize
  | specdata3 => exact looksSameIff_of_same id Specdata3.deserialize
  | fattr3 => exact looksSameIff_of_same id Fattr3.deserialize
  | postOpAttr => exact looksSameIff_of_looksSame (PostOpAttr.deserialize_alike first second first)
  | sattr3 => exact Sattr3.deserialize_alike first second
  | wccAttr => exact looksSameIff_of_same id WccAttr.deserialize
  | preOpAttr => exact looksSameIff_of_looksSame (PreOpAttr.deserialize_alike first second first)
  | wccData => exact looksSameIff_of_looksSame (WccData.deserialize_alike first second first)
  | entry3 =>
      apply Alike.field
      intro unread
      exact Entry3.deserialize_alike unread _ _
  | dirlist3 => exact Dirlist3.deserialize_alike first second
  | entryplus3 =>
      apply Alike.field
      intro unread
      exact Entryplus3.deserialize_alike unread _ _ _ _
  | dirlistplus3 => exact Dirlistplus3.deserialize_alike first second
  | fsinfo3ResokProperty => exact Fsinfo3ResokProperty.deserialize_alike first second
  | pathconf3ResokInfo => exact looksSameIff_of_same id Pathconf3ResokInfo.deserialize
  | args proc => exact proc.deserializeArgs_alike first second
  | resok proc => exact proc.deserializeResok_alike first second
  | res proc => exact proc.deserializeRes_alike uninit uninit' first second

/-- Where a decoder returns, it returns with every other object too. The two results look the same exactly when the
two objects agree in each field that the bytes leave out. -/
theorem NfsStruct.deserialize_same_iff (struct : NfsStruct) (uninit uninit' : Verifier)
    (first second got : struct.Object) (buf next : XdrBuffer)
    (returns : struct.deserialize uninit first buf = .ok got next) :
    ∃ got' agree, struct.deserialize uninit' second buf = .ok got' next ∧
      struct.agrees uninit uninit' first second buf = .ok agree next ∧
      (struct.visible got = struct.visible got' ↔ agree) :=
  (struct.deserialize_alike uninit uninit' first second).of_ok returns

/-- These settable attributes carry a mode and leave all other fields out. -/
def modeOnly : XdrBuffer :=
  ⟨[0, 0, 1, 0xA4, 0xFF, 0xFF, 0xFF, 0xFF, 0xFF, 0xFF, 0xFF, 0xFF, 0, 0, 0, 0, 0, 0, 0, 0, 0, 0, 0, 0], 0⟩

/-- The two objects differ only in the mode, which the bytes replace. -/
theorem Sattr3.deserialize_same_mode :
    ∃ got' agree,
      Sattr3.deserialize { mode := some 5, uid := some 7 } modeOnly = .ok got' { modeOnly with pos := 24 } ∧
      Sattr3.agrees { uid := some 7 } { mode := some 5, uid := some 7 } modeOnly =
        .ok agree { modeOnly with pos := 24 } ∧
      (({ mode := some 420, uid := some 7 } : Sattr3) = got' ↔ agree) :=
  NfsStruct.deserialize_same_iff .sattr3 .zero .zero ({ uid := some 7 } : Sattr3) _
    ({ mode := some 420, uid := some 7 } : Sattr3) modeOnly _ rfl

/-- The bytes leave the uid out, so two runs on them return the uid of their object. -/
theorem Sattr3.deserialize_keeps_uid :
    Sattr3.deserialize {} modeOnly = .ok { mode := some 420 } { modeOnly with pos := 24 } ∧
      Sattr3.deserialize { uid := some 7 } modeOnly =
        .ok { mode := some 420, uid := some 7 } { modeOnly with pos := 24 } ∧
      ({ mode := some 420 } : Sattr3) ≠ { mode := some 420, uid := some 7 } :=
  ⟨rfl, rfl, by decide⟩

end Nfs3Rpc
