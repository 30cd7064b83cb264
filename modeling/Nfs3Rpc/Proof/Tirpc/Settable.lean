import Nfs3Rpc.Proof.Tirpc.SameOutput

namespace Nfs3Rpc
open Encoding Builtin Tirpc

/-- A difference of three words remains between the two encodings of settable attributes. -/
def Tirpc.threeOnes : Bytes := be32 1 ++ (be32 1 ++ be32 1)

/-- A present field of eight bytes takes three words, and all of them are ones here. -/
theorem Tirpc.optionalWire_of_ones {α : Type} {wire : α → Bytes} (eight : ∀ value, (wire value).length = 8)
    {obj : Option α} {rest more : Bytes} (same : threeOnes ++ rest = optionalWire wire obj ++ more) :
    optionalWire wire obj = threeOnes ∧ rest = more := by
  cases obj with
  | none =>
      have words : be32 1 ++ (be32 1 ++ be32 1 ++ rest) = be32 0 ++ more := same
      exact absurd (be32_append_inj.mp words).1 (by decide)
  | some value =>
      have length : threeOnes.length = (optionalWire wire (some value)).length := by
        simp [threeOnes, optionalWire, eight]
      obtain ⟨ones, rests⟩ := List.append_inj same length
      exact ⟨ones.symm, rests⟩

/-- The presence word of a field meets the value of that field in the other build. -/
theorem Tirpc.optionalWord_eq {obj : Option UInt32} {rest more : Bytes}
    (same : optionalWire be32 obj ++ rest = be32 (obj.getD absentWord) ++ more) :
    obj = some 1 ∧ more = be32 1 ++ rest := by
  cases obj with
  | none =>
      have words : be32 0 ++ rest = be32 absentWord ++ more := same
      exact absurd (be32_append_inj.mp words).1 (by decide)
  | some value =>
      have words : be32 1 ++ (be32 value ++ rest) = be32 value ++ more := by
        simpa [optionalWire, beBool] using same
      obtain ⟨rfl, rests⟩ := be32_append_inj.mp words
      exact ⟨rfl, rests.symm⟩

theorem Tirpc.optionalOne : optionalWire be32 (some 1) = be32 1 ++ be32 1 := rfl

theorem Tirpc.sentinel_of_one {obj : Option UInt32} {rest more : Bytes}
    (same : be32 1 ++ rest = be32 (obj.getD absentWord) ++ more) : obj = some 1 ∧ rest = more := by
  obtain ⟨word, rests⟩ := be32_append_inj.mp same
  cases obj with
  | none => exact absurd word (by decide)
  | some value => exact ⟨congrArg some word.symm, rests⟩

/-- The sentinels of one build cost three words less than the presence words of the other. -/
theorem Tirpc.sattr3Wire_append_eq {attr : Sattr3} {left right : Bytes}
    (same : sattr3Wire attr ++ left = attr.wire ++ right) : right = threeOnes ++ left := by
  obtain ⟨mode, uid, gid, size, atime, mtime⟩ := attr
  simp only [sattr3Wire, Sattr3.wire, List.flatten_cons, List.flatten_nil, List.append_assoc,
    List.nil_append] at same
  -- The presence word of each field forces a one into the next sentinel.
  obtain ⟨setMode, afterMode⟩ := optionalWord_eq same
  obtain ⟨setUid, afterUid⟩ := sentinel_of_one afterMode.symm
  rw [setUid, optionalOne, List.append_assoc] at afterUid
  obtain ⟨setGid, afterGid⟩ := sentinel_of_one afterUid
  rw [setGid, optionalOne, List.append_assoc] at afterGid
  -- Each later field of this build stands three words behind the same field of the other.
  obtain ⟨setSize, afterSize⟩ := optionalWire_of_ones (fun _ => rfl) afterGid
  rw [setSize] at afterSize
  obtain ⟨setAtime, afterAtime⟩ := optionalWire_of_ones (fun _ => rfl) afterSize
  rw [setAtime] at afterAtime
  obtain ⟨setMtime, afterMtime⟩ := optionalWire_of_ones (fun _ => rfl) afterAtime
  rw [setMtime] at afterMtime
  exact afterMtime.symm

theorem Tirpc.ne_threeOnes_append (rest : Bytes) : rest ≠ threeOnes ++ rest := by
  intro same
  have lengths := congrArg List.length same
  rw [List.length_append] at lengths
  have ones : threeOnes.length = 12 := rfl
  omega

/-- The words after a handle and a name agree, because a name does not run into them. -/
theorem Tirpc.named_wires {dir : NfsFh3} {name : Bytes} {left right : List Bytes} (short : Short name)
    (same : (dir.wire :: opaqueBytes (cStr name).cstring :: left).flatten =
      (dir.wire :: opaqueBytes name :: right).flatten) : left.flatten = right.flatten := by
  have named := List.append_cancel_left same
  exact ((opaqueBytes_append_inj (cStr_cstring_short short) short).mp named).2

section
variable {σ : Type} {lib : Libtirpc σ} {stream : σ} {buf : XdrBuffer} (encoder : Rfc4506Encoder lib)
  (aligned : 4 ∣ buf.buffer.length)
include encoder aligned

theorem Tirpc.sattr3_differs (attr : Sattr3) :
    ¬ SameOutput lib (xdrSattr3 lib .XDR_ENCODE attr) attr.serialize stream buf := by
  intro same
  have wires := same.wires (xdrSattr3_emits encoder attr) (fun _ => attr.serialize_emits) aligned
  have ones := sattr3Wire_append_eq (congrArg (· ++ []) wires)
  exact ne_threeOnes_append _ ones

theorem Tirpc.setattr_differs (args : SETATTR3args) :
    ¬ SameOutput lib (xdrSETATTR3args lib .XDR_ENCODE args) args.serialize stream buf := by
  intro same
  have short : args.object.Fits := same.serialized (.here (packOpaque_checks _))
  have handle : HandleBounded args.object := same.filtered (.here (xdrNfsFh3_checks encoder _ short))
  have shorts : ∀ fh ∈ args.guard, fh.Fits := by
    intro fh member
    apply same.serialized
    apply Checks.later
    intro _
    apply Checks.later
    intro _
    rw [Option.mem_def.mp member]
    exact .later fun _ => packOpaque_checks _
  have guards : ∀ fh ∈ args.guard, HandleBounded fh := by
    intro fh member
    apply same.filtered
    apply Checks.later
    intro _
    apply Checks.later
    intro _
    apply Checks.here
    rw [Option.mem_def.mp member]
    exact xdrOptional_checks encoder (xdrNfsFh3_checks encoder fh (shorts fh member))
  have wires := same.wires
    (.cons (xdrNfsFh3_emits encoder _ handle) <| .cons (xdrSattr3_emits encoder _) <|
      .cons (xdrOptional_emits encoder _ fun fh present => xdrNfsFh3_emits encoder fh (guards fh present)) .done)
    (fun _ => .cons (packOpaque_emits _ short) <| .cons args.newAttributes.serialize_emits <|
      .last (packOptional_emits _ fun fh present => packOpaque_emits _ (shorts fh present))) aligned
  have ones := sattr3Wire_append_eq (List.append_cancel_left wires)
  exact ne_threeOnes_append _ ones

theorem Tirpc.mkdir_differs (args : MKDIR3args) :
    ¬ SameOutput lib (xdrMKDIR3args lib .XDR_ENCODE args) args.serialize stream buf := by
  intro same
  have short : args.whereDir.Fits := same.serialized (.here (packOpaque_checks _))
  have named : Short args.whereName := same.serialized (.later fun _ => .here (packString_checks _))
  have handle : HandleBounded args.whereDir := same.filtered (.here (xdrNfsFh3_checks encoder _ short))
  have bounded := same.filtered (.later fun _ => .here (xdrName_checks encoder args.whereName 255 named))
  have wires := same.wires
    (.cons (xdrNfsFh3_emits encoder _ handle) <| .cons (xdrName_emits_cstring encoder _ 255 bounded) <|
      .cons (xdrSattr3_emits encoder _) .done)
    (fun _ => .cons (packOpaque_emits _ short) <| .cons (packString_emits _ named) <|
      .last args.attributes.serialize_emits) aligned
  exact ne_threeOnes_append _ (sattr3Wire_append_eq (named_wires named wires))

theorem Tirpc.mknod_differs (args : MKNOD3args) :
    ¬ SameOutput lib (xdrMKNOD3args lib .XDR_ENCODE args) args.serialize stream buf := by
  intro same
  have short : args.whereDir.Fits := same.serialized (.here (packOpaque_checks _))
  have named : Short args.whereName := same.serialized (.later fun _ => .here (packString_checks _))
  have handle : HandleBounded args.whereDir := same.filtered (.here (xdrNfsFh3_checks encoder _ short))
  have bounded := same.filtered (.later fun _ => .here (xdrName_checks encoder args.whereName 255 named))
  have wires := same.wires
    (.cons (xdrNfsFh3_emits encoder _ handle) <| .cons (xdrName_emits_cstring encoder _ 255 bounded) <|
      .cons (xdrWord_emits encoder _) <| .cons (xdrSattr3_emits encoder _) .done)
    (fun _ => .cons (packOpaque_emits _ short) <| .cons (packString_emits _ named) <|
      .cons (packUint32_emits _) <| .last args.whatAttributes.serialize_emits) aligned
  exact ne_threeOnes_append _ (sattr3Wire_append_eq (List.append_cancel_left (named_wires named wires)))

/-- The other modes send no verifier after the settable attributes. -/
theorem Tirpc.create_differs (args : CREATE3args) (inclusive : args.howMode ≠ .EXCLUSIVE) :
    ¬ SameOutput lib (xdrCREATE3args lib .XDR_ENCODE args) args.serialize stream buf := by
  intro same
  have short : args.whereDir.Fits := same.serialized (.here (packOpaque_checks _))
  have named : Short args.whereName := same.serialized (.later fun _ => .here (packString_checks _))
  have handle : HandleBounded args.whereDir := same.filtered (.here (xdrNfsFh3_checks encoder _ short))
  have bounded := same.filtered (.later fun _ => .here (xdrName_checks encoder args.whereName 255 named))
  have filters : Emits lib.writing (xdrCREATE3args lib .XDR_ENCODE args) args
      [args.whereDir.wire, opaqueBytes (cStr args.whereName).cstring, be32 args.howMode.code,
        sattr3Wire args.howAttributes].flatten := by
    apply Emits.cons (xdrNfsFh3_emits encoder _ handle)
    apply Emits.cons (xdrName_emits_cstring encoder _ 255 bounded)
    apply Emits.cons (xdrWord_emits encoder _)
    apply Emits.cons (xdrSattr3_emits encoder _)
    rw [if_neg inclusive]
    exact .silent (Emits.pure _) .done
  have serializes : ∀ pos, Emits (XdrBuffer.writing pos) args.serialize ()
      [args.whereDir.wire, opaqueBytes args.whereName, be32 args.howMode.code, args.howAttributes.wire].flatten := by
    intro pos
    apply Emits.cons (packOpaque_emits _ short)
    apply Emits.cons (packString_emits _ named)
    apply Emits.cons (packUint32_emits _)
    apply Emits.cons args.howAttributes.serialize_emits
    rw [if_neg inclusive]
    exact .done
  have wires := same.wires filters serializes aligned
  exact ne_threeOnes_append _ (sattr3Wire_append_eq (List.append_cancel_left (named_wires named wires)))

/-- The text after the attributes would have one byte, which is too short for the three words. -/
theorem Tirpc.symlink_differs (args : SYMLINK3args) :
    ¬ SameOutput lib (xdrSYMLINK3args lib .XDR_ENCODE args) args.serialize stream buf := by
  intro same
  have short : args.whereDir.Fits := same.serialized (.here (packOpaque_checks _))
  have named : Short args.whereName := same.serialized (.later fun _ => .here (packString_checks _))
  have text : Short args.symlinkData :=
    same.serialized (.later fun _ => .later fun _ => .later fun _ => packString_checks _)
  have handle : HandleBounded args.whereDir := same.filtered (.here (xdrNfsFh3_checks encoder _ short))
  have bounded := same.filtered (.later fun _ => .here (xdrName_checks encoder args.whereName 255 named))
  have textBounded := same.filtered (.later fun _ => .later fun _ => .later fun _ =>
    .here (xdrName_checks encoder args.symlinkData 4096 text))
  have wires := same.wires
    (.cons (xdrNfsFh3_emits encoder _ handle) <| .cons (xdrName_emits_cstring encoder _ 255 bounded) <|
      .cons (xdrSattr3_emits encoder _) <| .cons (xdrName_emits_cstring encoder _ 4096 textBounded) .done)
    (fun _ => .cons (packOpaque_emits _ short) <| .cons (packString_emits _ named) <|
      .cons args.symlinkAttributes.serialize_emits <| .last (packString_emits _ text)) aligned
  have ones : opaqueBytes args.symlinkData ++ [] = threeOnes ++ (opaqueBytes (cStr args.symlinkData).cstring ++ []) :=
    sattr3Wire_append_eq (named_wires named wires)
  have words : UInt32.ofNat args.symlinkData.length = 1 := by
    rw [opaqueBytes, threeOnes, List.append_assoc, List.append_assoc] at ones
    exact (be32_append_inj.mp ones).1
  have one : args.symlinkData.length = 1 := by
    have count := congrArg UInt32.toNat words
    rwa [UInt32.toNat_ofNat', Nat.mod_eq_of_lt text] at count
  have lengths := congrArg List.length ones
  have sent : threeOnes.length = 12 := rfl
  simp only [List.length_append, opaqueBytes_length, one, sent] at lengths
  have pad : padding 1 = 3 := rfl
  omega

end

/-- The two builds never send the same bytes for settable attributes, nor for a call that carries them. -/
theorem Tirpc.settable_attributes_differ {σ : Type} (lib : Libtirpc σ) (encoder : Rfc4506Encoder lib) (stream : σ)
    (buf : XdrBuffer) (aligned : 4 ∣ buf.buffer.length) :
    (∀ attr : Sattr3, ¬ SameOutput lib (xdrSattr3 lib .XDR_ENCODE attr) attr.serialize stream buf) ∧
    (∀ args : SETATTR3args, ¬ SameOutput lib (xdrSETATTR3args lib .XDR_ENCODE args) args.serialize stream buf) ∧
    (∀ args : MKDIR3args, ¬ SameOutput lib (xdrMKDIR3args lib .XDR_ENCODE args) args.serialize stream buf) ∧
    (∀ args : SYMLINK3args, ¬ SameOutput lib (xdrSYMLINK3args lib .XDR_ENCODE args) args.serialize stream buf) ∧
    (∀ args : MKNOD3args, ¬ SameOutput lib (xdrMKNOD3args lib .XDR_ENCODE args) args.serialize stream buf) ∧
    (∀ args : CREATE3args, args.howMode ≠ .EXCLUSIVE →
      ¬ SameOutput lib (xdrCREATE3args lib .XDR_ENCODE args) args.serialize stream buf) :=
  ⟨sattr3_differs encoder aligned, setattr_differs encoder aligned, mkdir_differs encoder aligned,
    symlink_differs encoder aligned, mknod_differs encoder aligned, create_differs encoder aligned⟩

theorem Tirpc.settable_attributes_differ_small :
    ¬ SameOutput memoryLibrary (xdrMKDIR3args memoryLibrary .XDR_ENCODE ⟨⟨[1, 2]⟩, [97], { mode := some 493 }⟩)
        (MKDIR3args.serialize ⟨⟨[1, 2]⟩, [97], { mode := some 493 }⟩) {} XdrBuffer.empty ∧
      ¬ SameOutput memoryLibrary
        (xdrCREATE3args memoryLibrary .XDR_ENCODE ⟨⟨[1, 2]⟩, [97], .UNCHECKED, { size := some 0 }, .zero⟩)
        (CREATE3args.serialize ⟨⟨[1, 2]⟩, [97], .UNCHECKED, { size := some 0 }, .zero⟩) {} XdrBuffer.empty := by
  obtain ⟨_, _, mkdir, _, _, create⟩ :=
    settable_attributes_differ memoryLibrary memoryLibrary_encoder {} XdrBuffer.empty ⟨0, rfl⟩
  exact ⟨mkdir _, create _ (by decide)⟩

/-- One build sends six zero words for no attributes, and the other starts with the sentinel. -/
theorem Tirpc.no_attributes_differ :
    ¬ SameOutput memoryLibrary (xdrSattr3 memoryLibrary .XDR_ENCODE {}) (Sattr3.serialize {}) {} XdrBuffer.empty := by
  intro same
  have wires := same.wires (xdrSattr3_emits memoryLibrary_encoder {}) (fun _ => Sattr3.serialize_emits {}) ⟨0, rfl⟩
  exact absurd wires (by decide)

end Nfs3Rpc
