import Nfs3Rpc.Proof.Suites.SameBytes
import Nfs3Rpc.Proof.Tirpc.Verifiers

namespace Nfs3Rpc.Tirpc
open Encoding

variable {σ : Type} {lib : Libtirpc σ} {input : σ → Bytes}

section
variable (decoder : Rfc4506Decoder lib input)
include decoder

theorem xdrWord_reads (start value : UInt32) :
    Reads (Libtirpc.reading input) (xdrWord lib .XDR_DECODE start) (be32 value) (· = value) :=
  Reads.returning (decoder.uInt _ value) rfl

theorem xdrFlag_reads (start value : Bool) :
    Reads (Libtirpc.reading input) (xdrFlag lib .XDR_DECODE start) (beBool value) (· = value) :=
  Reads.returning (decoder.uInt _ _) (beBool_word value)

theorem xdrSpecdata3_reads (start obj : Specdata3) :
    Reads (Libtirpc.reading input) (xdrSpecdata3 lib .XDR_DECODE start) obj.wire (· = obj) :=
  .field (decoder.uInt _ _) <| .field (decoder.uInt _ _) <| .done rfl

theorem xdrNfstime3_reads (start obj : Nfstime3) :
    Reads (Libtirpc.reading input) (xdrNfstime3 lib .XDR_DECODE start) obj.wire (· = obj) :=
  .field (decoder.uInt _ _) <| .field (decoder.uInt _ _) <| .done rfl

/-- An absent field is reset, whatever the object held before. -/
theorem xdrOptional_reads {α : Type} {filter : α → Filter σ α} {zero : α} {wire : α → Bytes}
    (start obj : Option α)
    (inner : ∀ value, Reads (Libtirpc.reading input) (filter zero) (wire value) (· = value)) :
    Reads (Libtirpc.reading input) (xdrOptional lib .XDR_DECODE filter zero start)
      (optionalWire wire obj) (· = obj) := by
  cases obj with
  | none => exact Reads.ending (decoder.uInt _ 0) (Reads.pure rfl)
  | some value =>
      exact .field (decoder.uInt _ 1) <| .silent (Reads.pure rfl) fun _ same =>
        same ▸ .field (inner value) (.done rfl)

/-- Each of the six attributes is reset when its flag is false. -/
theorem xdrSattr3_reads (start obj : Sattr3) :
    Reads (Libtirpc.reading input) (xdrSattr3 lib .XDR_DECODE start) (sattr3Wire obj) (· = obj) :=
  .field (xdrOptional_reads decoder _ _ (decoder.uInt 0)) <| .field (xdrOptional_reads decoder _ _ (decoder.uInt 0)) <|
  .field (xdrOptional_reads decoder _ _ (decoder.uInt 0)) <|
  .field (xdrOptional_reads decoder _ _ (decoder.uHyper 0)) <|
  .field (xdrOptional_reads decoder _ _ (xdrNfstime3_reads decoder {})) <|
  .field (xdrOptional_reads decoder _ _ (xdrNfstime3_reads decoder {})) <| .done rfl

theorem xdrFattr3_reads (start obj : Fattr3) :
    Reads (Libtirpc.reading input) (xdrFattr3 lib .XDR_DECODE start) obj.wire (· = obj) :=
  .field (xdrWord_reads decoder _ _) <| .field (decoder.uInt _ _) <| .field (decoder.uInt _ _) <|
  .field (decoder.uInt _ _) <| .field (decoder.uInt _ _) <| .field (decoder.uHyper _ _) <|
  .field (decoder.uHyper _ _) <| .field (xdrSpecdata3_reads decoder _ _) <| .field (decoder.uHyper _ _) <|
  .field (decoder.uHyper _ _) <| .field (xdrNfstime3_reads decoder _ _) <|
  .field (xdrNfstime3_reads decoder _ _) <| .field (xdrNfstime3_reads decoder _ _) <| .done rfl

/-- A false flag leaves the old attributes, which nobody can see. -/
theorem xdrPostOpAttr_reads (start obj : PostOpAttr) :
    Reads (Libtirpc.reading input) (xdrPostOpAttr lib .XDR_DECODE start) obj.wire (·.visible = obj.visible) := by
  obtain ⟨follow, attributes⟩ := obj
  apply Reads.field (xdrFlag_reads decoder _ follow)
  cases follow
  · exact Reads.done rfl
  · exact .field (xdrFattr3_reads decoder _ attributes) <| .done rfl

theorem xdrWccAttr_reads (start obj : WccAttr) :
    Reads (Libtirpc.reading input) (xdrWccAttr lib .XDR_DECODE start) obj.wire (· = obj) :=
  .field (decoder.uHyper _ _) <| .field (xdrNfstime3_reads decoder _ _) <|
  .field (xdrNfstime3_reads decoder _ _) <| .done rfl

/-- The attributes before the call hide in the same way as those after it. -/
theorem xdrPreOpAttr_reads (start obj : PreOpAttr) :
    Reads (Libtirpc.reading input) (xdrPreOpAttr lib .XDR_DECODE start) obj.wire (·.visible = obj.visible) := by
  obtain ⟨check, attributes⟩ := obj
  apply Reads.field (xdrFlag_reads decoder _ check)
  cases check
  · exact Reads.done rfl
  · exact .field (xdrWccAttr_reads decoder _ attributes) <| .done rfl

/-- Both parts are compared as far as their flags show them. -/
theorem xdrWccData_reads (start obj : WccData) :
    Reads (Libtirpc.reading input) (xdrWccData lib .XDR_DECODE start) obj.wire (·.visible = obj.visible) := by
  apply Reads.cons (xdrPreOpAttr_reads decoder _ obj.before)
  intro before sameBefore
  apply Reads.cons (xdrPostOpAttr_reads decoder _ obj.after)
  intro after sameAfter
  exact .done (by simp only [WccData.visible, sameBefore, sameAfter])

end

/-- The decoded memory holds the byte string, and the library owns it. -/
theorem assign_decoded (data : Bytes) (short : Short data) :
    (assign (if data = [] then .null else .heap data) (UInt32.ofNat data.length) : Filter σ Bytes) = pure data := by
  have count : (UInt32.ofNat data.length).toNat = data.length := by
    rw [UInt32.toNat_ofNat', Nat.mod_eq_of_lt short]
  have memory : CharPtr.memory (if data = [] then .null else .heap data) = data := by
    split
    · rename_i empty
      rw [empty]
      rfl
    · rfl
  rw [assign, memory, count, if_pos (Nat.le_refl _), List.take_length]

/-- The memory that the library allocated may be freed, and null too. -/
theorem free_decoded (data : Bytes) :
    (free (if data = [] then .null else .heap data) : Filter σ Unit) = pure () := by
  split <;> rfl

/-- The string ends at the terminator that the library wrote. -/
theorem stringFrom_decoded (s : Bytes) (clean : 0 ∉ s) :
    (stringFrom (.heap (s ++ [0])) : Filter σ Bytes) = pure s := by
  have whole : (s ++ [0]).takeWhile (· != 0) = s := (cStr_cstring_eq_iff s).mpr clean
  have terminated : 0 ∈ (CharPtr.heap (s ++ [0])).memory := cStr_terminated s
  rw [stringFrom, if_pos terminated, CharPtr.memory, whole]

section
variable (decoder : Rfc4506Decoder lib input)
include decoder

/-- A handle within the bound of the filter returns whole. -/
theorem xdrNfsFh3_reads (start obj : NfsFh3) (bounded : HandleBounded obj) :
    Reads (Libtirpc.reading input) (xdrNfsFh3 lib .XDR_DECODE start) obj.wire (· = obj) := by
  have short : Short obj.data := Nat.lt_of_le_of_lt bounded (by decide)
  apply Reads.ending (decoder.bytes obj.data 0 64 bounded)
  simp only [assign_decoded obj.data short, free_decoded]
  exact Reads.pure rfl

theorem xdrData_reads (start data : Bytes) (bounded : DataBounded data) :
    Reads (Libtirpc.reading input) (xdrData lib .XDR_DECODE start) (opaqueBytes data) (· = data) := by
  have short : Short data := Nat.lt_of_le_of_lt bounded (by decide)
  apply Reads.ending (decoder.bytes data 0 65536 bounded)
  simp only [if_true, assign_decoded data short, free_decoded]
  exact Reads.pure rfl

/-- The bound of the filter and the zero bytes are the only limits of a text. -/
theorem xdrText_reads (start s : Bytes) (maxsize : UInt32) (bounded : StringBounded maxsize.toNat s) :
    Reads (Libtirpc.reading input) (xdrText lib .XDR_DECODE maxsize start) (opaqueBytes s) (· = s) := by
  apply Reads.ending (decoder.string s maxsize bounded.1)
  rw [if_pos rfl, stringFrom_decoded s bounded.2]
  exact Reads.pure rfl

/-- An array has no length word, so its eight bytes stand alone. -/
theorem xdrVerifier_reads (start obj : Verifier) :
    Reads (Libtirpc.reading input) (xdrVerifier lib .XDR_DECODE start) obj.data (· = obj) := by
  have array := decoder.array ⟨start.data, start.eight⟩ ⟨obj.data, obj.eight⟩
  have whole : padded obj.data = obj.data := by
    simp [padded, obj.eight, padding]
  rw [whole] at array
  exact Reads.returning array rfl

/-- The bytes of the number are those of the host, in both directions. -/
theorem xdrCookieverf_reads (host : ByteOrder) (start obj : UInt64) :
    Reads (Libtirpc.reading input) (xdrCookieverf lib host .XDR_DECODE start) (hyperArray host obj).val (· = obj) := by
  have array := decoder.array (hyperArray host start) (hyperArray host obj)
  have whole : padded (hyperArray host obj).val = (hyperArray host obj).val := by
    simp [padded, (hyperArray host obj).property, padding]
  rw [whole] at array
  exact Reads.returning array (arrayHyper_hyperArray host obj)

/-- A decoded result has the status and what is visible of the `resok`. -/
theorem filtered_reads {ok : Type} {fresh : ok} {filter : ok → Filter σ ok} {wire : ok → Bytes}
    {visible : ok → ok}
    (start : Filter σ ok) (prior res : Res ok) (empty : prior.resok = none)
    (matching : res.status = .NFS3_OK ↔ res.resok.isSome = true) (starts : start = pure fresh)
    (inner : ∀ resok ∈ res.resok,
      Reads (Libtirpc.reading input) (filter fresh) (wire resok) (visible · = visible resok)) :
    Reads (Libtirpc.reading input) (xdrRes lib .XDR_DECODE start filter prior)
      (be32 res.status.code :: res.resok.toList.map wire).flatten
      fun got => (⟨got.status, got.resok.map visible⟩ : Res ok) = ⟨res.status, res.resok.map visible⟩ := by
  obtain ⟨status, resok⟩ := res
  apply Reads.field (xdrWord_reads decoder _ status.code)
  cases resok with
  | none =>
      have failed : ¬ status = .NFS3_OK := by simpa using matching
      rw [if_neg failed]
      exact Reads.done (by rw [empty])
  | some resok =>
      obtain rfl : status = .NFS3_OK := matching.mpr rfl
      rw [if_pos rfl, starts]
      apply Reads.silent (Reads.pure rfl)
      intro value same
      subst same
      apply Reads.cons (inner resok rfl)
      intro got same
      exact Reads.done (by simp only [if_true, Option.map_some, same])

end

end Nfs3Rpc.Tirpc

namespace Nfs3Rpc
open Encoding Tirpc

variable {σ : Type} {lib : Libtirpc σ} {input : σ → Bytes} {host : ByteOrder}

/-- The results without a list of entries. -/
def ProcNum.flatRes : ProcNum → Bool
  | .READDIR | .READDIRPLUS => false
  | _ => true

theorem ProcNum.xdrRes_emits_flat (encoder : Rfc4506Encoder lib) (proc : ProcNum) (flat : proc.flatRes = true)
    (uninit : Verifier) (res : Res proc.Resok) (bounded : proc.ResBounded res) :
    Emits lib.writing (proc.xdrRes lib host .XDR_ENCODE uninit res) res
      (be32 res.status.code :: res.resok.toList.map proc.filterWire).flatten := by
  cases proc with
  | WRITE =>
      exact orRes_emits encoder res bounded.1 fun resok _ => .cons (xdrPostOpAttr_emits encoder _) <|
        .cons (encoder.uInt _) <| .cons (xdrWord_emits encoder _) <| .cons (xdrVerifier_emits encoder _) .done
  | COMMIT =>
      exact orRes_emits encoder res bounded.1 fun resok _ => .cons (xdrPostOpAttr_emits encoder _) <|
        .cons (xdrVerifier_emits encoder _) .done
  | READDIR | READDIRPLUS => exact nomatch flat
  | _ => exact ProcNum.xdrRes_emits encoder _ rfl uninit res bounded

section
variable (decoder : Rfc4506Decoder lib input)
include decoder

/-- The handle comes first, and two optional attributes follow it. -/
theorem Tirpc.xdrLOOKUP3resok_reads (start obj : LOOKUP3resok) (bounded : HandleBounded obj.object) :
    Reads (Libtirpc.reading input) (xdrLOOKUP3resok lib .XDR_DECODE start) obj.wire (·.visible = obj.visible) := by
  apply Reads.field (xdrNfsFh3_reads decoder _ obj.object bounded)
  apply Reads.cons (xdrPostOpAttr_reads decoder _ obj.objAttributes)
  intro objAttributes sameObjAttributes
  apply Reads.cons (xdrPostOpAttr_reads decoder _ obj.dirAttributes)
  intro dirAttributes sameDirAttributes
  exact .done (by simp only [LOOKUP3resok.visible, sameObjAttributes, sameDirAttributes])

theorem Tirpc.xdrACCESS3resok_reads (start obj : ACCESS3resok) :
    Reads (Libtirpc.reading input) (xdrACCESS3resok lib .XDR_DECODE start) obj.wire (·.visible = obj.visible) := by
  apply Reads.cons (xdrPostOpAttr_reads decoder _ obj.objAttributes)
  intro objAttributes sameObjAttributes
  exact .field (decoder.uInt _ _) <|
    .done (by simp only [ACCESS3resok.visible, sameObjAttributes])

theorem Tirpc.xdrREADLINK3resok_reads (start obj : READLINK3resok) (bounded : StringBounded 4096 obj.data) :
    Reads (Libtirpc.reading input) (xdrREADLINK3resok lib .XDR_DECODE start) obj.wire (·.visible = obj.visible) := by
  apply Reads.cons (xdrPostOpAttr_reads decoder _ obj.symlinkAttributes)
  intro symlinkAttributes sameSymlinkAttributes
  exact .field (xdrText_reads decoder _ _ 4096 bounded) <|
    .done (by simp only [READLINK3resok.visible, sameSymlinkAttributes])

/-- The data have a bound, and the words in front of them do not. -/
theorem Tirpc.xdrREAD3resok_reads (start obj : READ3resok) (bounded : DataBounded obj.data) :
    Reads (Libtirpc.reading input) (xdrREAD3resok lib .XDR_DECODE start) obj.wire (·.visible = obj.visible) := by
  apply Reads.cons (xdrPostOpAttr_reads decoder _ obj.fileAttributes)
  intro fileAttributes sameFileAttributes
  exact .field (decoder.uHyper _ _) <|
    .field (xdrFlag_reads decoder _ _) <|
    .field (xdrData_reads decoder _ _ bounded) <|
    .done (by simp only [READ3resok.visible, sameFileAttributes])

theorem Tirpc.xdrWRITE3resok_reads (start obj : WRITE3resok) :
    Reads (Libtirpc.reading input) (xdrWRITE3resok lib .XDR_DECODE start) (ProcNum.filterWire .WRITE obj)
      (·.visible = obj.visible) := by
  apply Reads.cons (xdrPostOpAttr_reads decoder _ obj.fileAttributes)
  intro fileAttributes sameFileAttributes
  exact .field (decoder.uInt _ _) <|
    .field (xdrWord_reads decoder _ _) <|
    .field (xdrVerifier_reads decoder _ _) <|
    .done (by simp only [WRITE3resok.visible, sameFileAttributes])

/-- The bound of the handle is the only limit of the four creating calls. -/
theorem Tirpc.xdrNewObject_reads (start obj : NewObject) (bounded : HandleBounded obj.object) :
    Reads (Libtirpc.reading input) (xdrNewObject lib .XDR_DECODE start) obj.wire (·.visible = obj.visible) := by
  apply Reads.cons (xdrPostOpAttr_reads decoder _ obj.objAttributes)
  intro objAttributes sameObjAttributes
  apply Reads.cons (xdrWccData_reads decoder _ obj.dirWcc)
  intro dirWcc sameDirWcc
  exact .field (xdrNfsFh3_reads decoder _ _ bounded) <|
    .done (by simp only [NewObject.visible, sameObjAttributes, sameDirWcc])

theorem Tirpc.xdrRENAME3resok_reads (start obj : RENAME3resok) :
    Reads (Libtirpc.reading input) (xdrRENAME3resok lib .XDR_DECODE start) obj.wire (·.visible = obj.visible) := by
  apply Reads.cons (xdrWccData_reads decoder _ obj.fromdirWcc)
  intro fromdirWcc sameFromdirWcc
  apply Reads.cons (xdrWccData_reads decoder _ obj.todirWcc)
  intro todirWcc sameTodirWcc
  exact .done (by simp only [RENAME3resok.visible, sameFromdirWcc, sameTodirWcc])

theorem Tirpc.xdrLINK3resok_reads (start obj : LINK3resok) :
    Reads (Libtirpc.reading input) (xdrLINK3resok lib .XDR_DECODE start) obj.wire (·.visible = obj.visible) := by
  apply Reads.cons (xdrPostOpAttr_reads decoder _ obj.fileAttributes)
  intro fileAttributes sameFileAttributes
  apply Reads.cons (xdrWccData_reads decoder _ obj.linkdirWcc)
  intro linkdirWcc sameLinkdirWcc
  exact .done (by simp only [LINK3resok.visible, sameFileAttributes, sameLinkdirWcc])

theorem Tirpc.xdrFSSTAT3resok_reads (start obj : FSSTAT3resok) :
    Reads (Libtirpc.reading input) (xdrFSSTAT3resok lib .XDR_DECODE start) obj.wire (·.visible = obj.visible) := by
  apply Reads.cons (xdrPostOpAttr_reads decoder _ obj.objAttributes)
  intro objAttributes sameObjAttributes
  exact .field (decoder.uHyper _ _) <|
    .field (decoder.uHyper _ _) <|
    .field (decoder.uHyper _ _) <|
    .field (decoder.uHyper _ _) <|
    .field (decoder.uHyper _ _) <|
    .field (decoder.uHyper _ _) <|
    .field (decoder.uInt _ _) <|
    .done (by simp only [FSSTAT3resok.visible, sameObjAttributes])

theorem Tirpc.xdrFSINFO3resok_reads (start obj : FSINFO3resok) :
    Reads (Libtirpc.reading input) (xdrFSINFO3resok lib .XDR_DECODE start) obj.wire (·.visible = obj.visible) := by
  apply Reads.cons (xdrPostOpAttr_reads decoder _ obj.objAttributes)
  intro objAttributes sameObjAttributes
  exact .field (decoder.uInt _ _) <|
    .field (decoder.uInt _ _) <|
    .field (decoder.uInt _ _) <|
    .field (decoder.uInt _ _) <|
    .field (decoder.uInt _ _) <|
    .field (decoder.uInt _ _) <|
    .field (decoder.uInt _ _) <|
    .field (decoder.uHyper _ _) <|
    .field (decoder.uInt _ _) <|
    .field (decoder.uInt _ _) <|
    .field (decoder.uInt _ _) <|
    .done (by simp only [FSINFO3resok.visible, sameObjAttributes])

theorem Tirpc.xdrCOMMIT3resok_reads (start obj : COMMIT3resok) :
    Reads (Libtirpc.reading input) (xdrCOMMIT3resok lib .XDR_DECODE start) (ProcNum.filterWire .COMMIT obj)
      (·.visible = obj.visible) := by
  apply Reads.cons (xdrPostOpAttr_reads decoder _ obj.fileWcc)
  intro fileWcc sameFileWcc
  exact .field (xdrVerifier_reads decoder _ _) <|
    .done (by simp only [COMMIT3resok.visible, sameFileWcc])

theorem Tirpc.xdrPATHCONF3resok_reads (start obj : PATHCONF3resok) :
    Reads (Libtirpc.reading input) (xdrPATHCONF3resok lib .XDR_DECODE start) obj.wire (·.visible = obj.visible) := by
  rw [PATHCONF3resok.wire_eq]
  apply Reads.cons (xdrPostOpAttr_reads decoder _ obj.objAttributes)
  intro objAttributes sameObjAttributes
  exact .field (decoder.int _ _) <| .field (decoder.int _ _) <| .field (xdrFlag_reads decoder _ _) <|
    .field (xdrFlag_reads decoder _ _) <| .field (xdrFlag_reads decoder _ _) <|
    .field (xdrFlag_reads decoder _ _) <| .done (by simp only [PATHCONF3resok.visible, sameObjAttributes])

theorem Tirpc.xdrSETATTR3resok_reads (start obj : SETATTR3resok) :
    Reads (Libtirpc.reading input) (xdrSETATTR3resok lib .XDR_DECODE start) obj.wire (·.visible = obj.visible) := by
  apply Reads.converting (xdrWccData_reads decoder _ obj.objWcc)
  intro objWcc sameObjWcc
  simp only [SETATTR3resok.visible, sameObjWcc]

theorem Tirpc.xdrRemovedEntry_reads (start obj : RemovedEntry) :
    Reads (Libtirpc.reading input) (xdrRemovedEntry lib .XDR_DECODE start) obj.wire (·.visible = obj.visible) := by
  apply Reads.converting (xdrWccData_reads decoder _ obj.dirWcc)
  intro dirWcc sameDirWcc
  simp only [RemovedEntry.visible, sameDirWcc]

theorem ProcNum.xdrRes_reads (proc : ProcNum) (flat : proc.flatRes = true) (uninit : Verifier)
    (prior res : Res proc.Resok) (empty : prior.resok = none) (bounded : proc.ResBounded res) :
    Reads (Libtirpc.reading input) (proc.xdrRes lib host .XDR_DECODE uninit prior)
      (be32 res.status.code :: res.resok.toList.map proc.filterWire).flatten
      (proc.visibleRes · = proc.visibleRes res) := by
  obtain ⟨matching, bounds⟩ := bounded
  show Reads (Libtirpc.reading input) (proc.xdrRes lib host .XDR_DECODE uninit prior)
    (be32 res.status.code :: res.resok.toList.map proc.filterWire).flatten fun got =>
      (⟨got.status, got.resok.map proc.visibleResok⟩ : Res proc.Resok) =
        ⟨res.status, res.resok.map proc.visibleResok⟩
  cases proc with
  | GETATTR =>
      exact filtered_reads decoder _ prior res empty matching rfl fun resok _ =>
        Reads.returning (xdrFattr3_reads decoder _ _) rfl
  | SETATTR =>
      exact filtered_reads decoder _ prior res empty matching rfl fun resok _ => xdrSETATTR3resok_reads decoder _ resok
  | LOOKUP =>
      exact filtered_reads decoder _ prior res empty matching rfl fun resok member =>
        xdrLOOKUP3resok_reads decoder _ resok (bounds resok member)
  | ACCESS =>
      exact filtered_reads decoder _ prior res empty matching rfl fun resok _ => xdrACCESS3resok_reads decoder _ resok
  | READLINK =>
      exact filtered_reads decoder _ prior res empty matching rfl fun resok member =>
        xdrREADLINK3resok_reads decoder _ resok (bounds resok member)
  | READ =>
      exact filtered_reads decoder _ prior res empty matching rfl fun resok member =>
        xdrREAD3resok_reads decoder _ resok (bounds resok member)
  | WRITE =>
      exact filtered_reads decoder _ prior res empty matching rfl fun resok _ => xdrWRITE3resok_reads decoder _ resok
  | CREATE =>
      exact filtered_reads decoder _ prior res empty matching rfl fun resok member =>
        xdrNewObject_reads decoder _ resok (bounds resok member)
  | MKDIR =>
      exact filtered_reads decoder _ prior res empty matching rfl fun resok member =>
        xdrNewObject_reads decoder _ resok (bounds resok member)
  | SYMLINK =>
      exact filtered_reads decoder _ prior res empty matching rfl fun resok member =>
        xdrNewObject_reads decoder _ resok (bounds resok member)
  | MKNOD =>
      exact filtered_reads decoder _ prior res empty matching rfl fun resok member =>
        xdrNewObject_reads decoder _ resok (bounds resok member)
  | REMOVE =>
      exact filtered_reads decoder _ prior res empty matching rfl fun resok _ => xdrRemovedEntry_reads decoder _ resok
  | RMDIR =>
      exact filtered_reads decoder _ prior res empty matching rfl fun resok _ => xdrRemovedEntry_reads decoder _ resok
  | RENAME =>
      exact filtered_reads decoder _ prior res empty matching rfl fun resok _ => xdrRENAME3resok_reads decoder _ resok
  | LINK =>
      exact filtered_reads decoder _ prior res empty matching rfl fun resok _ => xdrLINK3resok_reads decoder _ resok
  | FSSTAT =>
      exact filtered_reads decoder _ prior res empty matching rfl fun resok _ => xdrFSSTAT3resok_reads decoder _ resok
  | FSINFO =>
      exact filtered_reads decoder _ prior res empty matching rfl fun resok _ => xdrFSINFO3resok_reads decoder _ resok
  | PATHCONF =>
      exact filtered_reads decoder _ prior res empty matching rfl fun resok _ =>
        xdrPATHCONF3resok_reads decoder _ resok
  | COMMIT =>
      exact filtered_reads decoder _ prior res empty matching rfl fun resok _ => xdrCOMMIT3resok_reads decoder _ resok
  | READDIR | READDIRPLUS => exact nomatch flat

end

/-- The filter of the settable attributes gives every value back into every object. -/
theorem Tirpc.xdrSattr3_round_trips (lib : Libtirpc σ) (input : σ → Bytes) (encoder : Rfc4506Encoder lib)
    (decoder : Rfc4506Decoder lib input) (attr : Sattr3) (stream : σ) :
    ∃ bytes last, xdrSattr3 lib .XDR_ENCODE attr stream = .ok attr last ∧
      lib.written last = lib.written stream ++ bytes ∧
      ∀ (prior : Sattr3) (loaded : σ) (rest : Bytes), input loaded = bytes ++ rest →
        ∃ final, xdrSattr3 lib .XDR_DECODE prior loaded = .ok attr final ∧ input final = rest := by
  obtain ⟨last, encoded, written⟩ := xdrSattr3_emits encoder attr stream (lib.written stream) rfl
  refine ⟨sattr3Wire attr, last, encoded, written, ?_⟩
  intro prior loaded rest holds
  obtain ⟨got, final, decoded, rfl, consumed⟩ := xdrSattr3_reads decoder prior attr loaded [] rest holds
  exact ⟨final, decoded, consumed⟩

theorem Tirpc.xdrSattr3_round_trips_small :
    ∃ bytes last, xdrSattr3 memoryLibrary .XDR_ENCODE { mode := some 0xFFFFFFFF } {} =
      .ok { mode := some 0xFFFFFFFF } last ∧
      last.written = bytes ∧ ∃ final,
        xdrSattr3 memoryLibrary .XDR_DECODE { uid := some 5, size := some 7 } ⟨[], bytes ++ [1]⟩ =
          .ok { mode := some 0xFFFFFFFF } final ∧ final.unread = [1] := by
  obtain ⟨bytes, last, encoded, written, decodes⟩ := Tirpc.xdrSattr3_round_trips memoryLibrary MemoryStream.unread
    memoryLibrary_encoder memoryLibrary_decoder { mode := some 0xFFFFFFFF } {}
  exact ⟨bytes, last, encoded, written, decodes _ _ [1] rfl⟩

/-- Each filter without a list of entries decodes what it encodes, and consumes exactly those bytes. -/
theorem ProcNum.filters_round_trip (proc : ProcNum) (flat : proc.flatRes = true) (lib : Libtirpc σ)
    (input : σ → Bytes) (encoder : Rfc4506Encoder lib) (decoder : Rfc4506Decoder lib input) (host : ByteOrder)
    (uninit : Verifier) (res : Res proc.Resok) (bounded : proc.ResBounded res) (stream : σ) :
    ∃ bytes last, proc.xdrRes lib host .XDR_ENCODE uninit res stream = .ok res last ∧
      lib.written last = lib.written stream ++ bytes ∧
      ∀ (fresh : Verifier) (prior : Res proc.Resok) (loaded : σ) (rest : Bytes), prior.resok = none →
        input loaded = bytes ++ rest →
        ∃ got final, proc.xdrRes lib host .XDR_DECODE fresh prior loaded = .ok got final ∧
          proc.visibleRes got = proc.visibleRes res ∧ input final = rest := by
  obtain ⟨last, encoded, written⟩ := proc.xdrRes_emits_flat encoder flat uninit res bounded stream
    (lib.written stream) rfl
  refine ⟨_, last, encoded, written, ?_⟩
  intro fresh prior loaded rest empty holds
  exact proc.xdrRes_reads decoder flat fresh prior res empty bounded loaded [] rest holds

theorem ProcNum.filters_round_trip_small :
    ∃ bytes, ∃ got final : Res READLINK3resok × MemoryStream,
      ProcNum.xdrRes memoryLibrary .littleEndian .XDR_ENCODE .zero .READLINK
        ⟨.NFS3_OK, some { data := [97, 98] }⟩ {} =
        .ok got.1 got.2 ∧ got.2.written = bytes ∧
      ProcNum.xdrRes memoryLibrary .littleEndian .XDR_DECODE .zero .READLINK ⟨.NFS3_OK, none⟩ ⟨[], bytes⟩ =
        .ok final.1 final.2 ∧
      ProcNum.visibleRes .READLINK final.1 = ProcNum.visibleRes .READLINK ⟨.NFS3_OK, some { data := [97, 98] }⟩ ∧
      final.2.unread = [] := by
  have bounded : ProcNum.ResBounded .READLINK ⟨.NFS3_OK, some { data := [97, 98] }⟩ := by
    constructor
    · exact ⟨fun _ => rfl, fun _ => rfl⟩
    · intro resok held
      obtain ⟨rfl⟩ := held
      exact ⟨show 2 ≤ 4096 by decide, by decide⟩
  obtain ⟨bytes, last, encoded, written, decodes⟩ := ProcNum.filters_round_trip .READLINK rfl memoryLibrary
    MemoryStream.unread memoryLibrary_encoder memoryLibrary_decoder .littleEndian .zero _ bounded {}
  obtain ⟨got, final, decoded, same, consumed⟩ :=
    decodes .zero ⟨.NFS3_OK, none⟩ ⟨[], bytes⟩ [] rfl (by simp)
  exact ⟨bytes, (_, last), (got, final), encoded, written, decoded, same, consumed⟩

end Nfs3Rpc
