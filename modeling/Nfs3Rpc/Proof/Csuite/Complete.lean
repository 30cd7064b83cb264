import Nfs3Rpc.Format.Csuite.Complete
import Nfs3Rpc.Proof.Csuite.XdrBuf

namespace Nfs3Rpc.Csuite
open Encoding

/-- The cursor stands between the bytes before it and the bytes that are left. -/
def placed : Reading Machine := fun machine before rest => machine.buf = ⟨before ++ rest, before.length⟩

theorem uninitialized_keeps : Keeps placed uninitialized fun _ => True := by
  intro machine before rest value next buf runs
  obtain ⟨_, rfl⟩ := EStateM.Result.ok.inj runs
  exact ⟨trivial, buf⟩

/-- The program only looks at its arguments. -/
def Untouched {α : Type} (program : Run α) (result : α → Prop) : Prop :=
  ∀ machine value next, program machine = .ok value next → result value ∧ next = machine

theorem Untouched.pure {α : Type} {value : α} {result : α → Prop} (holds : result value) :
    Untouched (Pure.pure value) result := by
  intro machine _ next runs
  obtain ⟨rfl, rfl⟩ := EStateM.Result.ok.inj runs
  exact ⟨holds, rfl⟩

theorem Untouched.bind {α β : Type} {program : Run α} {next : α → Run β} {middle : α → Prop}
    {result : β → Prop}
    (first : Untouched program middle) (second : ∀ value, middle value → Untouched (next value) result) :
    Untouched (program >>= next) result := by
  intro machine final last runs
  obtain ⟨value, reached, starts, continues⟩ := ok_of_bind_ok runs
  obtain ⟨holds, rfl⟩ := first machine value reached starts
  exact second value holds reached final last continues

theorem Untouched.keeps {α : Type} {program : Run α} {result : α → Prop} (untouched : Untouched program result) :
    Keeps placed program result := by
  intro machine before rest value next buf runs
  obtain ⟨holds, rfl⟩ := untouched machine value next runs
  exact ⟨holds, buf⟩

theorem free_untouched (pointer : Ptr) : Untouched (free pointer) fun _ => True := by
  cases pointer with
  | null => exact .pure trivial
  | block data => exact .pure trivial
  | wild =>
      intro machine value next runs
      cases runs

/-- The reader of plain bytes finds what is there and nothing more. -/
theorem bytes_found {count : Nat} {input found rest : Bytes} (reads : Peer.bytes count input = .ok found rest) :
    count ≤ input.length ∧ found = input.take count ∧ rest = input.drop count := by
  by_cases few : input.length < count
  · have fails : Peer.bytes count input = .error () input := by
      simp only [Peer.bytes, get_bind, if_pos few]
      rfl
    rw [fails] at reads
    cases reads
  · have takes : Peer.bytes count input = .ok (input.take count) (input.drop count) := by
      simp only [Peer.bytes, get_bind, if_neg few]
      rfl
    rw [takes] at reads
    obtain ⟨rfl, rfl⟩ := EStateM.Result.ok.inj reads
    exact ⟨Nat.le_of_not_lt few, rfl, rfl⟩

theorem fetch_follows (count : Nat) :
    Follows placed (Peer.bytes count) (fetch count) fun found value => some found = value ∧ found.length = count := by
  intro machine before input found rest value next buf reads runs
  obtain ⟨enough, rfl, rfl⟩ := bytes_found reads
  have wire : input.take count ++ input.drop count = input := List.take_append_drop count input
  have moves : Reads (reading machine.depth) (fetch (input.take count).length) (input.take count)
      (· = some (input.take count)) := fetch_reads _
  rw [List.length_take_of_le enough] at moves
  obtain ⟨got, reached, ran, same, after, _⟩ :=
    moves machine before (input.drop count) ⟨by rw [wire]; exact buf, rfl⟩
  rw [runs] at ran
  obtain ⟨rfl, rfl⟩ := EStateM.Result.ok.inj ran
  exact ⟨⟨same.symm, List.length_take_of_le enough⟩, input.take count, wire.symm, after⟩

theorem xdrUnpackUint32_follows : Follows placed Peer.uint xdrUnpackUint32 (some · = ·) :=
  .bind (fetch_follows 4) fun _ _ same => .pure (by rw [← same.1]; rfl)

theorem xdrUnpackUint64_follows : Follows placed Whole.uhyper xdrUnpackUint64 (some · = ·) :=
  .bind (fetch_follows 8) fun _ _ same => .pure (by rw [← same.1]; rfl)

theorem into_follows {α : Type} {reader : Peer.Read α} {unpack : Run (Option α)} (prior : α)
    (inner : Follows placed reader unpack (some · = ·)) : Follows placed reader (into prior unpack) (· = ·) :=
  .finishing inner fun _ _ same => .pure (by rw [← same]; rfl)

theorem intoUint32_follows (prior : UInt32) : Follows placed Peer.uint (into prior xdrUnpackUint32) (· = ·) :=
  into_follows prior xdrUnpackUint32_follows

theorem intoUint64_follows (prior : UInt64) : Follows placed Whole.uhyper (into prior xdrUnpackUint64) (· = ·) :=
  into_follows prior xdrUnpackUint64_follows

/-- A flag is one or zero after the decoder. -/
theorem intoBool_follows (prior : Int32) :
    Follows placed Whole.flag (into prior xdrUnpackBool) fun found value => value = if found then 1 else 0 := by
  have inner : Follows placed Whole.flag xdrUnpackBool fun found value => value = some (if found then 1 else 0) := by
    apply Follows.bind xdrUnpackUint32_follows
    intro found value same
    subst same
    apply Follows.pure
    simp
  exact .finishing inner fun _ _ same => .pure (by rw [same]; rfl)

/-- The padding is skipped where the reader finds it. -/
theorem skipPadding_follows (len : Nat) :
    Follows placed (Peer.bytes (padding len)) (skipPadding len) fun _ _ => True := by
  intro machine before input found rest value next buf reads runs
  obtain ⟨enough, rfl, rfl⟩ := bytes_found reads
  obtain ⟨_, rfl⟩ := EStateM.Result.ok.inj runs
  have wire : input.take (padding len) ++ input.drop (padding len) = input := List.take_append_drop _ input
  refine ⟨trivial, input.take (padding len), wire.symm, ?_⟩
  have held : machine.buf = ⟨before ++ input, before.length⟩ := buf
  simp [placed, held, enough]

theorem xdrUnpackOpaque_follows (data : Ptr) (len : UInt32) :
    Follows placed Peer.varOpaque (xdrUnpackOpaque data len) fun found value =>
      value.2.1 = .block found ∧ found.length = value.2.2.toNat := by
  apply Follows.bind xdrUnpackUint32_follows
  intro length _ same
  subst same
  apply Follows.bind (fetch_follows length.toNat)
  intro found _ same
  obtain ⟨rfl, size⟩ := same
  apply Follows.bind (skipPadding_follows length.toNat)
  intro _ _ _
  exact .pure ⟨rfl, size⟩

/-- A string that does not fit its block ends the run. -/
theorem xdrUnpackCstring_follows :
    Follows placed Peer.varOpaque xdrUnpackCstring fun found value => value = some (.block (found ++ [0])) := by
  apply Follows.bind xdrUnpackUint32_follows
  intro length _ same
  subst same
  apply Follows.bind (fetch_follows length.toNat)
  intro found _ same
  obtain ⟨rfl, _⟩ := same
  dsimp only
  by_cases overflows : (length + 1).toNat < length.toNat + 1
  · rw [if_pos overflows]
    intro machine before input _ rest _ next _ _ runs
    cases runs
  · rw [if_neg overflows]
    apply Follows.bind (skipPadding_follows length.toNat)
    intro _ _ _
    exact .pure rfl

/-- The string ends at its first zero byte, or at the terminator behind it. -/
theorem intoCstring_follows (prior : Ptr) :
    Follows placed Whole.cstring (into prior xdrUnpackCstring) fun found value => value.cstring = found := by
  apply Follows.bind xdrUnpackCstring_follows
  intro found _ same
  subst same
  apply Follows.pure
  exact takeWhile_terminated found

theorem xdrUnpackVerifier_follows : Follows placed Whole.verifier xdrUnpackVerifier (· = ·) := by
  intro machine before input found rest value next buf reads runs
  by_cases space : 8 ≤ input.length
  · have length : (input.take 8).length = 8 := List.length_take_of_le space
    have wire : input.take 8 ++ input.drop 8 = input := List.take_append_drop 8 input
    have finds : Whole.verifier input = .ok ⟨input.take 8, length⟩ (input.drop 8) := by
      simp only [Whole.verifier, get_bind, dif_pos space]
      rfl
    have moves : Reads (reading machine.depth) xdrUnpackVerifier (input.take 8) (· = ⟨input.take 8, length⟩) :=
      xdrUnpackVerifier_reads ⟨input.take 8, length⟩
    obtain ⟨got, reached, ran, same, after, _⟩ :=
      moves machine before (input.drop 8) ⟨by rw [wire]; exact buf, rfl⟩
    rw [finds] at reads
    rw [runs] at ran
    obtain ⟨rfl, rfl⟩ := EStateM.Result.ok.inj reads
    obtain ⟨rfl, rfl⟩ := EStateM.Result.ok.inj ran
    exact ⟨same.symm, input.take 8, wire.symm, after⟩
  · have fails : Whole.verifier input = .error () input := by
      simp only [Whole.verifier, get_bind, dif_neg space]
      rfl
    rw [fails] at reads
    cases reads

theorem nfsFh3Destroy_untouched (fh : NfsFh3T) : Untouched (nfsFh3Destroy fh) (· = {}) :=
  .bind (free_untouched fh.data) fun _ _ => .pure rfl

theorem xdrUnpackNfsFh3_follows (fh : NfsFh3T) :
    Follows placed Whole.nfsFh3 (xdrUnpackNfsFh3 fh) fun found value => value.message = found := by
  apply Follows.silent uninitialized_keeps
  intro len _
  apply Follows.bind (xdrUnpackOpaque_follows .wild len)
  intro found value same
  obtain ⟨_, pointer, size⟩ := value
  obtain ⟨rfl, size⟩ := same
  apply Follows.silent (nfsFh3Destroy_untouched fh).keeps
  intro _ _
  exact .pure (congrArg NfsFh3.mk (bytes_whole size))

theorem xdrUnpackNfstime3_follows (t : Nfstime3) : Follows placed Whole.nfstime3 (xdrUnpackNfstime3 t) (· = ·) :=
  .field (intoUint32_follows _) fun _ => .field (intoUint32_follows _) fun _ => .pure rfl

theorem xdrUnpackSpecdata3_follows (s : Specdata3) : Follows placed Whole.specdata3 (xdrUnpackSpecdata3 s) (· = ·) :=
  .field (intoUint32_follows _) fun _ => .field (intoUint32_follows _) fun _ => .pure rfl

theorem xdrUnpackFattr3_follows (attr : Fattr3) : Follows placed Whole.fattr3 (xdrUnpackFattr3 attr) (· = ·) :=
  .silent uninitialized_keeps fun _ _ =>
  .field (intoUint32_follows _) fun _ => .field (intoUint32_follows _) fun _ =>
  .field (intoUint32_follows _) fun _ => .field (intoUint32_follows _) fun _ =>
  .field (intoUint32_follows _) fun _ => .field (intoUint64_follows _) fun _ =>
  .field (intoUint64_follows _) fun _ => .field (xdrUnpackSpecdata3_follows _) fun _ =>
  .field (intoUint64_follows _) fun _ => .field (intoUint64_follows _) fun _ =>
  .field (xdrUnpackNfstime3_follows _) fun _ => .field (xdrUnpackNfstime3_follows _) fun _ =>
  .field (xdrUnpackNfstime3_follows _) fun _ => .pure rfl

/-- The attributes follow their flag; a clear flag hides what the structure held before. -/
theorem xdrUnpackPostOpAttr_follows (a : PostOpAttrT) :
    Follows placed Whole.postOpAttr (xdrUnpackPostOpAttr a) fun found value => value.message = found := by
  apply Follows.bind (intoBool_follows _)
  intro follow _ same
  subst same
  cases follow with
  | false => exact .pure rfl
  | true => exact .field (xdrUnpackFattr3_follows _) fun _ => .pure rfl

theorem xdrUnpackWccAttr_follows (a : WccAttr) : Follows placed Whole.wccAttr (xdrUnpackWccAttr a) (· = ·) :=
  .field (intoUint64_follows _) fun _ => .field (xdrUnpackNfstime3_follows _) fun _ =>
  .field (xdrUnpackNfstime3_follows _) fun _ => .pure rfl

theorem xdrUnpackPreOpAttr_follows (a : PreOpAttrT) :
    Follows placed Whole.preOpAttr (xdrUnpackPreOpAttr a) fun found value => value.message = found := by
  apply Follows.bind (intoBool_follows _)
  intro check _ same
  subst same
  cases check with
  | false => exact .pure rfl
  | true => exact .field (xdrUnpackWccAttr_follows _) fun _ => .pure rfl

theorem xdrUnpackWccData_follows (d : WccDataT) :
    Follows placed Whole.wccData (xdrUnpackWccData d) fun found value => value.message = found := by
  apply Follows.bind (xdrUnpackPreOpAttr_follows _)
  intro before _ sameBefore
  apply Follows.bind (xdrUnpackPostOpAttr_follows _)
  intro after _ sameAfter
  apply Follows.pure
  rw [WccDataT.message, sameBefore, sameAfter]

/-- The handle that follows its flag is put into an empty structure. -/
theorem unpackHandle_follows {α γ : Type} {readNext : NfsFh3 → Peer.Read γ} {next : NfsFh3T → Run α}
    {agrees : γ → α → Prop}
    (rest : ∀ (found : NfsFh3) (value : NfsFh3T), value.message = found →
      Follows placed (readNext found) (next value) agrees) :
    Follows placed (Whole.postOpFh3 >>= readNext) (do
      let has ← uninitialized
      let has ← into has.toInt32 xdrUnpackBool
      let value ← if has ≠ 0 then xdrUnpackNfsFh3 {} else pure {}
      next value) agrees := by
  apply Follows.silent uninitialized_keeps
  intro has _
  rw [Whole.postOpFh3, bind_assoc]
  apply Follows.bind (intoBool_follows _)
  intro present _ same
  subst same
  cases present with
  | false => exact rest {} {} rfl
  | true => exact .bind (xdrUnpackNfsFh3_follows {}) rest

theorem GETATTR3resokT.unpack_follows (dest : GETATTR3resokT) :
    Follows placed Whole.GETATTR3resok dest.unpack fun found value => value.message = found :=
  .field (xdrUnpackFattr3_follows _) fun _ => .pure rfl

theorem SETATTR3resokT.unpack_follows (dest : SETATTR3resokT) :
    Follows placed Whole.SETATTR3resok dest.unpack fun found value => value.message = found :=
  .bind (xdrUnpackWccData_follows _) fun _ _ same => .pure (congrArg SETATTR3resok.mk same)

theorem LOOKUP3resokT.unpack_follows (dest : LOOKUP3resokT) :
    Follows placed Whole.LOOKUP3resok dest.unpack fun found value => value.message = found := by
  apply Follows.bind (xdrUnpackNfsFh3_follows _)
  intro object _ sameObject
  apply Follows.bind (xdrUnpackPostOpAttr_follows _)
  intro objAttributes _ sameObjAttributes
  apply Follows.bind (xdrUnpackPostOpAttr_follows _)
  intro dirAttributes _ sameDirAttributes
  apply Follows.pure
  rw [LOOKUP3resokT.message, sameObject, sameObjAttributes, sameDirAttributes]

theorem ACCESS3resokT.unpack_follows (dest : ACCESS3resokT) :
    Follows placed Whole.ACCESS3resok dest.unpack fun found value => value.message = found := by
  apply Follows.bind (xdrUnpackPostOpAttr_follows _)
  intro objAttributes _ same
  apply Follows.field (intoUint32_follows _)
  intro access
  exact .pure (by rw [ACCESS3resokT.message, same])

theorem READLINK3resokT.unpack_follows (dest : READLINK3resokT) :
    Follows placed Whole.READLINK3resok dest.unpack fun found value => value.message = found := by
  apply Follows.bind (xdrUnpackPostOpAttr_follows _)
  intro symlinkAttributes _ sameAttributes
  apply Follows.bind (intoCstring_follows _)
  intro data _ sameData
  exact .pure (by rw [READLINK3resokT.message, sameAttributes, sameData])

theorem READ3resokT.unpack_follows (dest : READ3resokT) :
    Follows placed Whole.READ3resok dest.unpack fun found value => value.message = found := by
  apply Follows.bind (xdrUnpackPostOpAttr_follows _)
  intro fileAttributes _ sameAttributes
  apply Follows.field (intoUint32_follows _)
  intro count
  apply Follows.bind (intoBool_follows _)
  intro eof _ sameEof
  apply Follows.silent uninitialized_keeps
  intro len _
  apply Follows.bind (xdrUnpackOpaque_follows .wild len)
  intro data value same
  obtain ⟨_, pointer, size⟩ := value
  obtain ⟨rfl, size⟩ := same
  apply Follows.pure
  subst sameEof
  cases eof <;> simp [READ3resokT.message, sameAttributes, bytes_whole size]

theorem WRITE3resokT.unpack_follows (dest : WRITE3resokT) :
    Follows placed Whole.WRITE3resok dest.unpack fun found value => value.message = found := by
  apply Follows.bind (xdrUnpackWccData_follows _)
  intro fileWcc _ same
  apply Follows.field (intoUint32_follows _)
  intro count
  apply Follows.silent uninitialized_keeps
  intro st _
  apply Follows.field (intoUint32_follows _)
  intro committed
  apply Follows.field xdrUnpackVerifier_follows
  intro verf
  exact .pure (by rw [WRITE3resokT.message, same])

theorem NewObjectT.unpack_follows :
    Follows placed Whole.newObject (NewObjectT.unpack {}) fun found value => value.message = found := by
  apply unpackHandle_follows
  intro object _ sameObject
  apply Follows.bind (xdrUnpackPostOpAttr_follows _)
  intro objAttributes _ sameAttributes
  apply Follows.bind (xdrUnpackWccData_follows _)
  intro dirWcc _ sameWcc
  exact .pure (by rw [NewObjectT.message, sameObject, sameAttributes, sameWcc])

theorem RemovedEntryT.unpack_follows (dest : RemovedEntryT) :
    Follows placed Whole.removedEntry dest.unpack fun found value => value.message = found :=
  .bind (xdrUnpackWccData_follows _) fun _ _ same => .pure (congrArg RemovedEntry.mk same)

theorem RENAME3resokT.unpack_follows (dest : RENAME3resokT) :
    Follows placed Whole.RENAME3resok dest.unpack fun found value => value.message = found := by
  apply Follows.bind (xdrUnpackWccData_follows _)
  intro fromdirWcc _ sameFromdirWcc
  apply Follows.bind (xdrUnpackWccData_follows _)
  intro todirWcc _ sameTodirWcc
  exact .pure (by rw [RENAME3resokT.message, sameFromdirWcc, sameTodirWcc])

theorem LINK3resokT.unpack_follows (dest : LINK3resokT) :
    Follows placed Whole.LINK3resok dest.unpack fun found value => value.message = found := by
  apply Follows.bind (xdrUnpackPostOpAttr_follows _)
  intro fileAttributes _ sameAttributes
  apply Follows.bind (xdrUnpackWccData_follows _)
  intro linkdirWcc _ sameWcc
  exact .pure (by rw [LINK3resokT.message, sameAttributes, sameWcc])

theorem FSSTAT3resokT.unpack_follows (dest : FSSTAT3resokT) :
    Follows placed Whole.FSSTAT3resok dest.unpack fun found value => value.message = found := by
  apply Follows.bind (xdrUnpackPostOpAttr_follows _)
  intro objAttributes _ same
  exact .field (intoUint64_follows _) fun _ => .field (intoUint64_follows _) fun _ =>
    .field (intoUint64_follows _) fun _ => .field (intoUint64_follows _) fun _ =>
    .field (intoUint64_follows _) fun _ => .field (intoUint64_follows _) fun _ =>
    .field (intoUint32_follows _) fun _ => .pure (by rw [FSSTAT3resokT.message, same])

theorem FSINFO3resokT.unpack_follows (dest : FSINFO3resokT) :
    Follows placed Whole.FSINFO3resok dest.unpack fun found value => value.message = found := by
  apply Follows.bind (xdrUnpackPostOpAttr_follows _)
  intro objAttributes _ same
  exact .field (intoUint32_follows _) fun _ => .field (intoUint32_follows _) fun _ =>
    .field (intoUint32_follows _) fun _ => .field (intoUint32_follows _) fun _ =>
    .field (intoUint32_follows _) fun _ => .field (intoUint32_follows _) fun _ =>
    .field (intoUint32_follows _) fun _ => .field (intoUint64_follows _) fun _ =>
    .field (intoUint32_follows _) fun _ => .field (intoUint32_follows _) fun _ =>
    .field (intoUint32_follows _) fun _ => .pure (by rw [FSINFO3resokT.message, same])

theorem xdrUnpackPathconf3ResokInfo_follows (dest : Pathconf3ResokInfoT) :
    Follows placed Whole.pathconf3ResokInfo (xdrUnpackPathconf3ResokInfo dest) fun found value =>
      value.message = found := by
  apply Follows.silent uninitialized_keeps
  intro val _
  apply Follows.field (intoUint32_follows _)
  intro linkmax
  apply Follows.field (intoUint32_follows _)
  intro nameMax
  apply Follows.bind (intoBool_follows _)
  intro noTrunc _ sameNoTrunc
  apply Follows.bind (intoBool_follows _)
  intro chownRestricted _ sameChown
  apply Follows.bind (intoBool_follows _)
  intro caseInsensitive _ sameInsensitive
  apply Follows.bind (intoBool_follows _)
  intro casePreserving _ samePreserving
  apply Follows.pure
  simp [Pathconf3ResokInfoT.message, sameNoTrunc, sameChown, sameInsensitive, samePreserving]

theorem PATHCONF3resokT.unpack_follows (dest : PATHCONF3resokT) :
    Follows placed Whole.PATHCONF3resok dest.unpack fun found value => value.message = found := by
  apply Follows.bind (xdrUnpackPostOpAttr_follows _)
  intro objAttributes _ sameAttributes
  apply Follows.bind (xdrUnpackPathconf3ResokInfo_follows _)
  intro info _ sameInfo
  exact .pure (by rw [PATHCONF3resokT.message, sameAttributes, sameInfo])

theorem COMMIT3resokT.unpack_follows (dest : COMMIT3resokT) :
    Follows placed Whole.COMMIT3resok dest.unpack fun found value => value.message = found := by
  apply Follows.bind (xdrUnpackPostOpAttr_follows _)
  intro fileWcc _ same
  apply Follows.field xdrUnpackVerifier_follows
  intro verf
  exact .pure (by rw [COMMIT3resokT.message, same])

end Nfs3Rpc.Csuite
