import Nfs3Rpc.Format.Tirpc
import Nfs3Rpc.Proof.Builtin.Attributes

namespace Nfs3Rpc.Tirpc
open Encoding

variable {σ : Type} {lib : Libtirpc σ}

theorem Libtirpc.writing_total (lib : Libtirpc σ) (stream : σ) : ∃ done, lib.writing stream done :=
  ⟨lib.written stream, rfl⟩

section
variable (encoder : Rfc4506Encoder lib)
include encoder

theorem xdrWord_emits (value : UInt32) :
    Emits lib.writing (xdrWord lib .XDR_ENCODE value) value (be32 value) :=
  Emits.returning (encoder.uInt value)

theorem xdrFlag_emits (value : Bool) :
    Emits lib.writing (xdrFlag lib .XDR_ENCODE value) value (beBool value) := by
  cases value
  · exact Emits.returning (encoder.uInt 0)
  · exact Emits.returning (encoder.uInt 1)

theorem xdrOptional_emits {α : Type} {filter : α → Filter σ α} {zero : α} {wire : α → Bytes} (obj : Option α)
    (inner : ∀ value, obj = some value → Emits lib.writing (filter value) value (wire value)) :
    Emits lib.writing (xdrOptional lib .XDR_ENCODE filter zero obj) obj (optionalWire wire obj) := by
  cases obj with
  | none => exact Emits.finishing (encoder.uInt 0) (Emits.pure _)
  | some value =>
      exact .cons (encoder.uInt 1) <| .silent (Emits.pure value) <| .cons (inner value rfl) .done

theorem xdrSpecdata3_emits (obj : Specdata3) :
    Emits lib.writing (xdrSpecdata3 lib .XDR_ENCODE obj) obj obj.wire :=
  .cons (encoder.uInt _) <| .cons (encoder.uInt _) .done

theorem xdrNfstime3_emits (obj : Nfstime3) :
    Emits lib.writing (xdrNfstime3 lib .XDR_ENCODE obj) obj obj.wire :=
  .cons (encoder.uInt _) <| .cons (encoder.uInt _) .done

theorem xdrFattr3_emits (obj : Fattr3) : Emits lib.writing (xdrFattr3 lib .XDR_ENCODE obj) obj obj.wire :=
  .cons (xdrWord_emits encoder _) <| .cons (encoder.uInt _) <| .cons (encoder.uInt _) <|
  .cons (encoder.uInt _) <| .cons (encoder.uInt _) <| .cons (encoder.uHyper _) <|
  .cons (encoder.uHyper _) <| .cons (xdrSpecdata3_emits encoder _) <| .cons (encoder.uHyper _) <|
  .cons (encoder.uHyper _) <| .cons (xdrNfstime3_emits encoder _) <|
  .cons (xdrNfstime3_emits encoder _) <| .cons (xdrNfstime3_emits encoder _) .done

theorem xdrPostOpAttr_emits (obj : PostOpAttr) :
    Emits lib.writing (xdrPostOpAttr lib .XDR_ENCODE obj) obj obj.wire := by
  obtain ⟨follow, attributes⟩ := obj
  apply Emits.cons (xdrFlag_emits encoder follow)
  cases follow
  · exact Emits.done
  · exact .cons (xdrFattr3_emits encoder attributes) .done

theorem xdrWccAttr_emits (obj : WccAttr) : Emits lib.writing (xdrWccAttr lib .XDR_ENCODE obj) obj obj.wire :=
  .cons (encoder.uHyper _) <| .cons (xdrNfstime3_emits encoder _) <|
  .cons (xdrNfstime3_emits encoder _) .done

theorem xdrPreOpAttr_emits (obj : PreOpAttr) :
    Emits lib.writing (xdrPreOpAttr lib .XDR_ENCODE obj) obj obj.wire := by
  obtain ⟨check, attributes⟩ := obj
  apply Emits.cons (xdrFlag_emits encoder check)
  cases check
  · exact Emits.done
  · exact .cons (xdrWccAttr_emits encoder attributes) .done

theorem xdrWccData_emits (obj : WccData) : Emits lib.writing (xdrWccData lib .XDR_ENCODE obj) obj obj.wire :=
  .cons (xdrPreOpAttr_emits encoder _) <| .cons (xdrPostOpAttr_emits encoder _) .done

theorem xdrSattr3_emits (obj : Sattr3) :
    Emits lib.writing (xdrSattr3 lib .XDR_ENCODE obj) obj (sattr3Wire obj) :=
  .cons (xdrOptional_emits encoder _ fun _ _ => encoder.uInt _) <|
  .cons (xdrOptional_emits encoder _ fun _ _ => encoder.uInt _) <|
  .cons (xdrOptional_emits encoder _ fun _ _ => encoder.uInt _) <|
  .cons (xdrOptional_emits encoder _ fun _ _ => encoder.uHyper _) <|
  .cons (xdrOptional_emits encoder _ fun _ _ => xdrNfstime3_emits encoder _) <|
  .cons (xdrOptional_emits encoder _ fun _ _ => xdrNfstime3_emits encoder _) .done

end

theorem vectorData_memory (data : Bytes) : (vectorData data).memory = data := by
  cases data <;> rfl

section
variable (encoder : Rfc4506Encoder lib)
include encoder

/-- A vector within the bound travels whole. -/
theorem xdrBytes_emits (data : Bytes) (maxsize : UInt32) (bounded : data.length ≤ maxsize.toNat) :
    Emits lib.writing (lib.xdrBytes .XDR_ENCODE (vectorData data) (UInt32.ofNat data.length) maxsize)
      (vectorData data, UInt32.ofNat data.length) (opaqueBytes data) := by
  have count : (UInt32.ofNat data.length).toNat = data.length := by
    have bound := maxsize.toNat_lt
    rw [UInt32.toNat_ofNat', Nat.mod_eq_of_lt (by omega)]
  have emits := encoder.bytes (vectorData data) (UInt32.ofNat data.length) maxsize
    (by rw [count, vectorData_memory]) (by rw [UInt32.le_iff_toNat_le, count]; exact bounded)
  rwa [count, vectorData_memory, List.take_length] at emits

theorem xdrNfsFh3_emits (obj : NfsFh3) (bounded : HandleBounded obj) :
    Emits lib.writing (xdrNfsFh3 lib .XDR_ENCODE obj) obj obj.wire :=
  Emits.returning (xdrBytes_emits encoder obj.data 64 bounded)

end

theorem cStr_terminated (s : Bytes) : 0 ∈ (cStr s).memory := by
  simp [cStr, CharPtr.memory]

theorem cStr_cstring (s : Bytes) : (cStr s).cstring = s.takeWhile (· != 0) :=
  takeWhile_terminated s

theorem cStr_cstring_short {s : Bytes} (short : Short s) : Short (cStr s).cstring := by
  rw [cStr_cstring]
  exact Nat.lt_of_le_of_lt (List.takeWhile_prefix _).length_le short

/-- A string is its own C string when it has no zero byte. -/
theorem cStr_cstring_eq_iff (s : Bytes) : (cStr s).cstring = s ↔ 0 ∉ s := by
  rw [cStr_cstring]
  exact takeWhile_nonzero_iff s

section
variable (encoder : Rfc4506Encoder lib)
include encoder

/-- A string within the bound travels whole. -/
theorem xdrString_emits (s : Bytes) (maxsize : UInt32) (bounded : StringBounded maxsize.toNat s) :
    Emits lib.writing (lib.xdrString .XDR_ENCODE (cStr s) maxsize) (cStr s) (opaqueBytes s) := by
  have whole := (cStr_cstring_eq_iff s).mpr bounded.2
  have emits := encoder.string (cStr s) maxsize (cStr_terminated s) (by rw [whole]; exact bounded.1)
  rwa [whole] at emits

/-- A longer string travels up to its first zero byte. -/
theorem xdrName_emits_cstring (s : Bytes) (maxsize : UInt32) (bounded : (cStr s).cstring.length ≤ maxsize.toNat) :
    Emits lib.writing (xdrName lib .XDR_ENCODE maxsize s) s (opaqueBytes (cStr s).cstring) :=
  Emits.returning (encoder.string (cStr s) maxsize (cStr_terminated s) bounded)

theorem xdrText_emits_cstring (s : Bytes) (maxsize : UInt32) (bounded : (cStr s).cstring.length ≤ maxsize.toNat) :
    Emits lib.writing (xdrText lib .XDR_ENCODE maxsize s) s (opaqueBytes (cStr s).cstring) :=
  Emits.returning (encoder.string (cStr s) maxsize (cStr_terminated s) bounded)

theorem xdrName_emits (s : Bytes) (maxsize : UInt32) (bounded : StringBounded maxsize.toNat s) :
    Emits lib.writing (xdrName lib .XDR_ENCODE maxsize s) s (opaqueBytes s) :=
  Emits.returning (xdrString_emits encoder s maxsize bounded)

theorem xdrText_emits (s : Bytes) (maxsize : UInt32) (bounded : StringBounded maxsize.toNat s) :
    Emits lib.writing (xdrText lib .XDR_ENCODE maxsize s) s (opaqueBytes s) :=
  Emits.returning (xdrString_emits encoder s maxsize bounded)

theorem xdrData_emits (data : Bytes) (bounded : DataBounded data) :
    Emits lib.writing (xdrData lib .XDR_ENCODE data) data (opaqueBytes data) :=
  Emits.returning (xdrBytes_emits encoder data 65536 bounded)

/-- A filter refuses a vector above the bound. -/
theorem xdrBytes_checks (data : Bytes) (maxsize : UInt32) (short : Short data) :
    Checks (lib.xdrBytes .XDR_ENCODE (vectorData data) (UInt32.ofNat data.length) maxsize)
      (data.length ≤ maxsize.toNat) := by
  intro stream value last runs
  by_contra long
  have count : maxsize < UInt32.ofNat data.length := by
    rw [UInt32.lt_iff_toNat_lt, UInt32.toNat_ofNat', Nat.mod_eq_of_lt short]
    exact Nat.lt_of_not_le long
  obtain ⟨state, refused⟩ := encoder.bytesRefused (vectorData data) _ maxsize stream count
  rw [refused] at runs
  exact nomatch runs

theorem xdrNfsFh3_checks (obj : NfsFh3) (short : obj.Fits) :
    Checks (xdrNfsFh3 lib .XDR_ENCODE obj) (HandleBounded obj) :=
  .here (xdrBytes_checks encoder obj.data 64 short)

/-- A present field meets the condition of its own filter. -/
theorem xdrOptional_checks {α : Type} {filter : α → Filter σ α} {zero value : α} {condition : Prop}
    (inner : Checks (filter value) condition) :
    Checks (xdrOptional lib .XDR_ENCODE filter zero (some value)) condition := by
  have filtered : Checks (filter value >>= fun _ => pure (some value)) condition := .here inner
  exact Checks.after lib.writing_total (encoder.uInt 1) filtered

theorem xdrString_checks (s : Bytes) (maxsize : UInt32) (short : Short s) :
    Checks (lib.xdrString .XDR_ENCODE (cStr s) maxsize) ((cStr s).cstring.length ≤ maxsize.toNat) := by
  intro stream value last runs
  by_contra long
  obtain ⟨state, refused⟩ := encoder.stringRefused (cStr s) maxsize stream (cStr_terminated s)
    (Nat.lt_of_not_le long) (cStr_cstring_short short)
  rw [refused] at runs
  exact nomatch runs

theorem xdrName_checks (s : Bytes) (maxsize : UInt32) (short : Short s) :
    Checks (xdrName lib .XDR_ENCODE maxsize s) ((cStr s).cstring.length ≤ maxsize.toNat) :=
  .here (xdrString_checks encoder s maxsize short)

theorem xdrText_checks (s : Bytes) (maxsize : UInt32) (short : Short s) :
    Checks (xdrText lib .XDR_ENCODE maxsize s) ((cStr s).cstring.length ≤ maxsize.toNat) :=
  .here (xdrString_checks encoder s maxsize short)

end

end Nfs3Rpc.Tirpc
