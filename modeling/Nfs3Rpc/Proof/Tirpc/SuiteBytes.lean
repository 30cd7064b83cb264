import Nfs3Rpc.Format.Builds
import Nfs3Rpc.Proof.Csuite.Arguments
import Nfs3Rpc.Proof.Tirpc.Verifiers

namespace Nfs3Rpc
open Encoding Tirpc Csuite

/-- The words of a time tell the two encoders apart: one sends the flag 1, the other `SET_TO_CLIENT_TIME`. -/
theorem timeWire_append_eq_iff {time : Option Nfstime3} {left right : Bytes} :
    optionalWire Nfstime3.wire time ++ left = timeWire time ++ right ↔ time = none ∧ left = right := by
  cases time with
  | none =>
      have plain : optionalWire Nfstime3.wire none = timeWire none := rfl
      rw [plain, List.append_cancel_left_eq]
      simp
  | some time =>
      constructor
      · intro same
        have flags : be32 1 ++ (time.wire ++ left) = be32 2 ++ (time.wire ++ right) := by
          simpa [optionalWire, timeWire, beBool] using same
        exact absurd (be32_append_inj.mp flags).1 (by decide)
      · intro held
        cases held.1

/-- Both encoders send settable attributes alike exactly when no time is set. -/
theorem sattr3Wire_append_eq_iff {attr : Sattr3} {left right : Bytes} :
    Tirpc.sattr3Wire attr ++ left = Csuite.sattr3Wire attr ++ right ↔ attr.Untimed ∧ left = right := by
  simp only [Tirpc.sattr3Wire, Csuite.sattr3Wire, List.flatten_cons, List.flatten_nil, List.append_nil,
    List.append_assoc, List.append_cancel_left_eq, timeWire_append_eq_iff, Sattr3.Untimed]
  exact and_assoc.symm

section
variable {σ α : Type} {lib : Libtirpc σ} {filter : Filter σ α} {pack : Run Unit} {stream : σ} {machine : Machine}

theorem Tirpc.SameAsC.filtered {condition : Prop} (same : SameAsC lib filter pack stream machine)
    (checks : Checks filter condition) : condition := by
  obtain ⟨bytes, obj, last, final, filtered, _⟩ := same
  exact checks _ _ _ filtered

/-- Where both encoders write, they write alike exactly when their wires are equal. -/
theorem Tirpc.sameAsC_iff_wires {obj : α} {left right : Bytes} (aligned : 4 ∣ machine.buf.data.length)
    (filters : Emits lib.writing filter obj left)
    (packs : ∀ pos depth, Emits (writing pos depth) pack () right) :
    SameAsC lib filter pack stream machine ↔ left = right := by
  obtain ⟨last, filtered, written⟩ := filters stream (lib.written stream) rfl
  obtain ⟨final, packed, held⟩ :=
    packs machine.buf.pos machine.depth machine machine.buf.data ⟨rfl, rfl, aligned⟩
  have appended : final.buf.data = machine.buf.data ++ right := congrArg XdrBufT.data held.1
  constructor
  · intro same
    obtain ⟨bytes, obj, last, final, refiltered, rewritten, repacked, reappended⟩ := same
    rw [filtered] at refiltered
    rw [packed] at repacked
    obtain ⟨_, rfl⟩ := EStateM.Result.ok.inj refiltered
    obtain ⟨_, rfl⟩ := EStateM.Result.ok.inj repacked
    rw [appended, List.append_cancel_left_eq] at reappended
    rw [show lib.written _ = _ from written, List.append_cancel_left_eq] at rewritten
    rw [rewritten, reappended]
  · rintro rfl
    exact ⟨left, obj, last, final, filtered, written, packed, appended⟩

/-- The filter takes its strings and its handle, or it returns FALSE; only in the first case are there wires to
compare. -/
theorem Tirpc.matches_iff_of_taken {taken equal : Prop}
    (refuses : SameAsC lib filter pack stream machine → taken)
    (compares : taken → (SameAsC lib filter pack stream machine ↔ equal)) :
    SameAsC lib filter pack stream machine ↔ taken ∧ equal := by
  constructor
  · intro same
    exact ⟨refuses same, (compares (refuses same)).mp same⟩
  · intro held
    exact (compares held.1).mpr held.2

end

theorem Csuite.NfsFh3T.message_fits (fh : NfsFh3T) : fh.message.Fits := Ptr.bytes_short fh.data fh.len

theorem Csuite.Ptr.cstring_clean (s : Ptr) : 0 ∉ s.cstring := by
  cases s with
  | block data =>
      intro member
      exact absurd (List.mem_takeWhile_imp member) (by decide)
  | null => exact List.not_mem_nil
  | wild => exact List.not_mem_nil

theorem Csuite.Ptr.cStr_cstring (s : Ptr) : (cStr s.cstring).cstring = s.cstring :=
  (cStr_cstring_eq_iff s.cstring).mpr s.cstring_clean

section
variable {σ : Type} {lib : Libtirpc σ} {stream : σ} {machine : Machine} (encoder : Rfc4506Encoder lib)
  (aligned : 4 ∣ machine.buf.data.length)
include encoder aligned

theorem Tirpc.sattr3_matches_iff (attr : Sattr3T) :
    SameAsC lib (xdrSattr3 lib .XDR_ENCODE attr.message) (xdrPackSattr3 attr) stream machine ↔
      attr.message.Untimed := by
  rw [sameAsC_iff_wires aligned (xdrSattr3_emits encoder attr.message) fun _ _ => xdrPackSattr3_emits attr]
  rw [← List.append_cancel_right_eq _ (be32 0), sattr3Wire_append_eq_iff]
  exact and_iff_left rfl

theorem Tirpc.setattr_matches_iff (args : SETATTR3argsT) (formed : args.WellFormed) (unguarded : args.hasGuard = 0) :
    SameAsC lib (xdrSETATTR3args lib .XDR_ENCODE args.message) (xdrPackSETATTR3args args) stream machine ↔
      HandleBounded args.message.object ∧ args.message.newAttributes.Untimed := by
  have noGuard : args.message.guard = none := if_neg (not_not.mpr unguarded)
  apply matches_iff_of_taken
  · intro same
    exact same.filtered (.here (xdrNfsFh3_checks encoder _ args.object.message_fits))
  · intro handle
    have filters : Emits lib.writing (xdrSETATTR3args lib .XDR_ENCODE args.message) args.message
        [args.message.object.wire, Tirpc.sattr3Wire args.message.newAttributes,
          optionalWire NfsFh3.wire args.message.guard].flatten :=
      .cons (xdrNfsFh3_emits encoder _ handle) <| .cons (xdrSattr3_emits encoder _) <|
        .cons (xdrOptional_emits encoder _ fun fh present => absurd present (by rw [noGuard]; simp)) .done
    rw [sameAsC_iff_wires aligned filters fun _ _ => xdrPackSETATTR3args_emits args formed]
    simp only [SETATTR3argsWire, List.flatten_cons, List.append_cancel_left_eq, sattr3Wire_append_eq_iff]
    exact and_iff_left trivial

theorem Tirpc.mkdir_matches_iff (args : MKDIR3argsT) (formed : args.WellFormed)
    (short : Short args.whereName.cstring) :
    SameAsC lib (xdrMKDIR3args lib .XDR_ENCODE args.message) (xdrPackMKDIR3args args) stream machine ↔
      (HandleBounded args.message.whereDir ∧ args.whereName.Taken 255) ∧ args.message.attributes.Untimed := by
  apply matches_iff_of_taken
  · intro same
    have name := same.filtered (.later fun _ => .here (xdrName_checks encoder args.whereName.cstring 255 short))
    rw [args.whereName.cStr_cstring] at name
    exact ⟨same.filtered (.here (xdrNfsFh3_checks encoder _ args.whereDir.message_fits)), name⟩
  · intro taken
    obtain ⟨handle, name⟩ := taken
    have filters : Emits lib.writing (xdrMKDIR3args lib .XDR_ENCODE args.message) args.message
        [args.message.whereDir.wire, opaqueBytes args.whereName.cstring,
          Tirpc.sattr3Wire args.message.attributes].flatten :=
      .cons (xdrNfsFh3_emits encoder _ handle) <|
        .cons (xdrName_emits encoder _ 255 ⟨name, args.whereName.cstring_clean⟩) <|
        .cons (xdrSattr3_emits encoder _) .done
    rw [sameAsC_iff_wires aligned filters fun _ _ => xdrPackMKDIR3args_emits args formed]
    simp only [MKDIR3argsWire, MKDIR3args.clipped, MKDIR3argsT.message, clip_of_short short, List.flatten_cons,
      List.append_cancel_left_eq, sattr3Wire_append_eq_iff]
    exact and_iff_left trivial

theorem Tirpc.symlink_matches_iff (args : SYMLINK3argsT) (formed : args.WellFormed)
    (short : Short args.whereName.cstring) (shortData : Short args.symlinkData.cstring) :
    SameAsC lib (xdrSYMLINK3args lib .XDR_ENCODE args.message) (xdrPackSYMLINK3args args) stream machine ↔
      (HandleBounded args.message.whereDir ∧ args.whereName.Taken 255 ∧ args.symlinkData.Taken 4096) ∧
        args.message.symlinkAttributes.Untimed := by
  apply matches_iff_of_taken
  · intro same
    have name := same.filtered (.later fun _ => .here (xdrName_checks encoder args.whereName.cstring 255 short))
    have data := same.filtered (.later fun _ => .later fun _ => .later fun _ =>
      .here (xdrName_checks encoder args.symlinkData.cstring 4096 shortData))
    rw [Ptr.cStr_cstring] at name data
    exact ⟨same.filtered (.here (xdrNfsFh3_checks encoder _ args.whereDir.message_fits)), name, data⟩
  · intro taken
    obtain ⟨handle, name, data⟩ := taken
    have filters : Emits lib.writing (xdrSYMLINK3args lib .XDR_ENCODE args.message) args.message
        [args.message.whereDir.wire, opaqueBytes args.whereName.cstring,
          Tirpc.sattr3Wire args.message.symlinkAttributes, opaqueBytes args.symlinkData.cstring].flatten :=
      .cons (xdrNfsFh3_emits encoder _ handle) <|
        .cons (xdrName_emits encoder _ 255 ⟨name, args.whereName.cstring_clean⟩) <|
        .cons (xdrSattr3_emits encoder _) <|
        .cons (xdrName_emits encoder _ 4096 ⟨data, args.symlinkData.cstring_clean⟩) .done
    rw [sameAsC_iff_wires aligned filters fun _ _ => xdrPackSYMLINK3args_emits args formed]
    simp only [SYMLINK3argsWire, SYMLINK3args.clipped, SYMLINK3argsT.message, clip_of_short short,
      clip_of_short shortData, List.flatten_cons, List.append_cancel_left_eq, sattr3Wire_append_eq_iff]
    exact and_iff_left trivial

end

/-- The filters and the C encoders send settable attributes alike exactly when no time is set, and so for the calls
that carry them, as far as the filters take the handle and the strings at all. -/
theorem Tirpc.settable_attributes_match_iff {σ : Type} (lib : Libtirpc σ) (encoder : Rfc4506Encoder lib) (stream : σ)
    (machine : Machine) (aligned : 4 ∣ machine.buf.data.length) :
    (∀ attr : Sattr3T, SameAsC lib (xdrSattr3 lib .XDR_ENCODE attr.message) (xdrPackSattr3 attr) stream machine ↔
      attr.message.Untimed) ∧
    (∀ args : SETATTR3argsT, args.WellFormed → args.hasGuard = 0 →
      (SameAsC lib (xdrSETATTR3args lib .XDR_ENCODE args.message) (xdrPackSETATTR3args args) stream machine ↔
        HandleBounded args.message.object ∧ args.message.newAttributes.Untimed)) ∧
    (∀ args : MKDIR3argsT, args.WellFormed → Short args.whereName.cstring →
      (SameAsC lib (xdrMKDIR3args lib .XDR_ENCODE args.message) (xdrPackMKDIR3args args) stream machine ↔
        (HandleBounded args.message.whereDir ∧ args.whereName.Taken 255) ∧ args.message.attributes.Untimed)) ∧
    (∀ args : SYMLINK3argsT, args.WellFormed → Short args.whereName.cstring → Short args.symlinkData.cstring →
      (SameAsC lib (xdrSYMLINK3args lib .XDR_ENCODE args.message) (xdrPackSYMLINK3args args) stream machine ↔
        (HandleBounded args.message.whereDir ∧ args.whereName.Taken 255 ∧ args.symlinkData.Taken 4096) ∧
          args.message.symlinkAttributes.Untimed)) :=
  ⟨sattr3_matches_iff encoder aligned, setattr_matches_iff encoder aligned, mkdir_matches_iff encoder aligned,
    symlink_matches_iff encoder aligned⟩

/-- A machine with an empty buffer. -/
def Csuite.emptyMachine : Machine := ⟨⟨[], 0⟩, fun _ => 0, 0⟩

theorem Tirpc.settable_attributes_match_small :
    SameAsC memoryLibrary (xdrMKDIR3args memoryLibrary .XDR_ENCODE ⟨⟨[1, 2]⟩, [97], { mode := some 493 }⟩)
        (xdrPackMKDIR3args ⟨⟨.block [1, 2], 2, 2⟩, .block [97, 0], { modeSet := 1, mode := 493 }⟩) {}
          emptyMachine := by
  have all := settable_attributes_match_iff memoryLibrary memoryLibrary_encoder {} emptyMachine ⟨0, rfl⟩
  apply (all.2.2.1 ⟨⟨.block [1, 2], 2, 2⟩, .block [97, 0], { modeSet := 1, mode := 493 }⟩ ?_ ?_).mpr
  · exact ⟨⟨by show 2 ≤ 64; decide, by show 1 ≤ 255; decide⟩, rfl, rfl⟩
  · exact ⟨⟨nofun, fun _ => ⟨[1, 2], rfl, by decide⟩⟩, .inr ⟨[97, 0], rfl, by decide⟩⟩
  · decide

/-- The filter sends the flag 1 before a time, and the C encoder sends the word 2. -/
theorem Tirpc.access_time_mismatch :
    ¬ SameAsC memoryLibrary (xdrSattr3 memoryLibrary .XDR_ENCODE { atime := some ⟨10, 20⟩ })
      (xdrPackSattr3 { atimeSet := 1, atime := ⟨10, 20⟩ }) {} emptyMachine := by
  have different : ¬ Sattr3.Untimed { atime := some ⟨10, 20⟩ } := nofun
  exact fun same => different
    ((sattr3_matches_iff memoryLibrary_encoder ⟨0, rfl⟩ { atimeSet := 1, atime := ⟨10, 20⟩ }).mp same)

theorem Tirpc.sattr3Wire_length (attr : Sattr3) : 24 ≤ (Tirpc.sattr3Wire attr).length := by
  have flagged : ∀ {α : Type} (wire : α → Bytes) (value : Option α), 4 ≤ (optionalWire wire value).length := by
    intro α wire value
    cases value <;> simp [optionalWire]
  have mode := flagged be32 attr.mode
  have uid := flagged be32 attr.uid
  have gid := flagged be32 attr.gid
  have size := flagged be64 attr.size
  have atime := flagged Nfstime3.wire attr.atime
  have mtime := flagged Nfstime3.wire attr.mtime
  simp only [Tirpc.sattr3Wire, List.flatten_cons, List.flatten_nil, List.length_append, List.append_nil]
  omega

section
variable {σ : Type} {lib : Libtirpc σ} {stream : σ} {machine : Machine} (encoder : Rfc4506Encoder lib)
  (aligned : 4 ∣ machine.buf.data.length) {args : CREATE3argsT} (formed : args.WellFormed)
  (handle : HandleBounded args.whereDir.message) (name : args.whereName.Taken 255)
include encoder aligned formed handle name

/-- For the other modes, both encoders send the attributes and nothing else. -/
theorem Tirpc.create_matches_inclusive (inclusive : args.howMode ≠ .EXCLUSIVE) :
    SameAsC lib (xdrCREATE3args lib .XDR_ENCODE args.object) (xdrPackCREATE3args args) stream machine ↔
      args.howAttributes.message.Untimed := by
  have short : Short args.whereName.cstring := Nat.lt_of_le_of_lt name (by decide)
  have filters : Emits lib.writing (xdrCREATE3args lib .XDR_ENCODE args.object) args.object
      [args.object.whereDir.wire, opaqueBytes args.whereName.cstring, be32 args.howMode.code,
        Tirpc.sattr3Wire args.howAttributes.message].flatten := by
    apply Emits.cons (xdrNfsFh3_emits encoder _ handle)
    apply Emits.cons (xdrName_emits encoder _ 255 ⟨name, args.whereName.cstring_clean⟩)
    apply Emits.cons (xdrWord_emits encoder _)
    apply Emits.cons (xdrSattr3_emits encoder _)
    have sent : (⟨args.object.howMode.code⟩ : Createmode3) ≠ .EXCLUSIVE := inclusive
    rw [if_neg sent]
    exact .silent (Emits.pure _) .done
  rw [sameAsC_iff_wires aligned filters fun _ _ => xdrPackCREATE3args_emits args formed]
  simp only [CREATE3argsWire, CREATE3args.clipped, CREATE3argsT.message, CREATE3argsT.object, if_neg inclusive,
    clip_of_short short, List.flatten_cons, List.append_cancel_left_eq, sattr3Wire_append_eq_iff]
  exact and_iff_left trivial

/-- For the exclusive mode, the filter sends the attributes before the verifier. -/
theorem Tirpc.create_differs_exclusive (exclusive : args.howMode = .EXCLUSIVE) :
    ¬ SameAsC lib (xdrCREATE3args lib .XDR_ENCODE args.object) (xdrPackCREATE3args args) stream machine := by
  have short : Short args.whereName.cstring := Nat.lt_of_le_of_lt name (by decide)
  have filters : Emits lib.writing (xdrCREATE3args lib .XDR_ENCODE args.object) args.object
      [args.object.whereDir.wire, opaqueBytes args.whereName.cstring, be32 args.howMode.code,
        Tirpc.sattr3Wire args.howAttributes.message, args.howVerf.data].flatten := by
    apply Emits.cons (xdrNfsFh3_emits encoder _ handle)
    apply Emits.cons (xdrName_emits encoder _ 255 ⟨name, args.whereName.cstring_clean⟩)
    apply Emits.cons (xdrWord_emits encoder _)
    apply Emits.cons (xdrSattr3_emits encoder _)
    have sent : (⟨args.object.howMode.code⟩ : Createmode3) = .EXCLUSIVE := exclusive
    rw [if_pos sent]
    exact .cons (xdrVerifier_emits encoder _) .done
  rw [sameAsC_iff_wires aligned filters fun _ _ => xdrPackCREATE3args_emits args formed]
  intro same
  have lengths := congrArg List.length same
  have attributes := sattr3Wire_length args.howAttributes.message
  simp only [CREATE3argsWire, CREATE3args.clipped, CREATE3argsT.message, CREATE3argsT.object, if_pos exclusive,
    clip_of_short short, List.flatten_cons, List.flatten_nil, List.length_append, List.append_nil] at lengths
  omega

end

/-- Without times, the filter and the C encoder send the arguments of CREATE alike exactly when the mode is not
EXCLUSIVE. -/
theorem Tirpc.create_matches_iff {σ : Type} (lib : Libtirpc σ) (encoder : Rfc4506Encoder lib) (stream : σ)
    (machine : Machine) (aligned : 4 ∣ machine.buf.data.length) (args : CREATE3argsT) (formed : args.WellFormed)
    (handle : HandleBounded args.whereDir.message) (name : args.whereName.Taken 255)
    (untimed : args.howAttributes.message.Untimed) :
    SameAsC lib (xdrCREATE3args lib .XDR_ENCODE args.object) (xdrPackCREATE3args args) stream machine ↔
      args.howMode ≠ .EXCLUSIVE := by
  constructor
  · intro same exclusive
    exact create_differs_exclusive encoder aligned formed handle name exclusive same
  · intro inclusive
    exact (create_matches_inclusive encoder aligned formed handle name inclusive).mpr untimed

/-- The C arguments to create the file `a` in this mode. -/
def createA (mode : Createmode3) : CREATE3argsT :=
  { whereDir := ⟨.block [1, 2], 2, 2⟩, whereName := .block [97, 0], howMode := mode }

theorem createA_formed (mode : Createmode3) : (createA mode).WellFormed :=
  ⟨⟨nofun, fun _ => ⟨[1, 2], rfl, Nat.le_refl 2⟩⟩, .inr ⟨[97, 0], rfl, by decide⟩⟩

theorem Tirpc.create_matches_small :
    SameAsC memoryLibrary (xdrCREATE3args memoryLibrary .XDR_ENCODE (createA .UNCHECKED).object)
      (xdrPackCREATE3args (createA .UNCHECKED)) {} emptyMachine :=
  (create_matches_iff memoryLibrary memoryLibrary_encoder {} emptyMachine ⟨0, rfl⟩ (createA .UNCHECKED)
    (createA_formed _) (by show 2 ≤ 64; decide) (by show 1 ≤ 255; decide) ⟨rfl, rfl⟩).mpr (by decide)

/-- The filter sends the 24 bytes of no attributes before the verifier. -/
theorem Tirpc.exclusive_create_mismatch :
    ¬ SameAsC memoryLibrary (xdrCREATE3args memoryLibrary .XDR_ENCODE (createA .EXCLUSIVE).object)
      (xdrPackCREATE3args (createA .EXCLUSIVE)) {} emptyMachine :=
  create_differs_exclusive memoryLibrary_encoder ⟨0, rfl⟩ (createA_formed _) (by show 2 ≤ 64; decide)
    (by show 1 ≤ 255; decide) rfl

end Nfs3Rpc
