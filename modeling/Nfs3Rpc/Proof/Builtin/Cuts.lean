import Nfs3Rpc.Encoding.Cuts
import Nfs3Rpc.Format.Attributes
import Nfs3Rpc.Proof.Builtin.XdrBuffer

namespace Nfs3Rpc
open Encoding Builtin

/-- A cursor that skips the padding of a byte string can leave the bytes. -/
def Builtin.XdrBuffer.past (buf : XdrBuffer) : Prop := buf.buffer.length < buf.pos

abbrev Cuts {α : Type} (program : Xdr α) (wire : Bytes) (slack : Nat) : Prop :=
  Trims XdrBuffer.reading XdrBuffer.past program wire slack fun _ => True

abbrev CutsTo {α : Type} (program : Xdr α) (wire : Bytes) (slack : Nat) (value : α) : Prop :=
  Trims XdrBuffer.reading XdrBuffer.past program wire slack (· = value)

theorem pos_of_empty {buf : XdrBuffer} (empty : buf.past ∨ ∃ before, XdrBuffer.reading buf before []) :
    buf.buffer.length ≤ buf.pos := by
  cases empty with
  | inl past => exact Nat.le_of_lt past
  | inr placed =>
      obtain ⟨before, rfl⟩ := placed
      simp

/-- No byte is left, so a read of at least one byte throws. -/
theorem fetch_starves {count : Nat} (positive : 0 < count) :
    Starves XdrBuffer.reading XdrBuffer.past (fetch count) := by
  intro buf empty
  have short := pos_of_empty empty
  exact ⟨_, _, fetch_throws count buf (by omega)⟩

/-- A read of fixed size notices every cut. -/
theorem fetch_cuts (data : Bytes) (positive : 0 < data.length) : CutsTo (fetch data.length) data 0 data := by
  constructor
  · exact ⟨data, rfl⟩
  · exact positive
  · exact fetch_reads data
  · exact fetch_starves positive
  · intro cut noticed
    apply fetch_rejects
    rw [List.length_take]
    omega
  · intro cut inside unseen
    omega

theorem unpackUint32_cuts (val : UInt32) : CutsTo unpackUint32 (be32 val) 0 val := by
  apply (fetch_cuts (be32 val) (by simp)).returning
  intro bytes same
  rw [same]
  exact word_be32 val

theorem unpackUint64_cuts (val : UInt64) : CutsTo unpackUint64 (be64 val) 0 val := by
  apply (fetch_cuts (be64 val) (by simp)).returning
  intro bytes same
  rw [same]
  simpa using leadingHyper_be64 val []

theorem unpackInt32_cuts (val : Int32) : CutsTo unpackInt32 (be32 val.toUInt32) 0 val := by
  apply (fetch_cuts (be32 val.toUInt32) (by simp)).returning
  intro bytes same
  subst same
  exact (congrArg UInt32.toInt32 (word_be32 val.toUInt32)).trans (by simp)

/-- A flag is a whole word, so a part of it is noticed. -/
theorem unpackBool_cuts (val : Bool) : CutsTo unpackBool (beBool val) 0 val := by
  apply (unpackUint32_cuts _).returning
  intro word same
  rw [same]
  exact beBool_word val

/-- A message that ends inside its padding still has its length word and its data. -/
theorem opaqueBytes_take {data : Bytes} {cut : Nat} (whole : 4 + data.length ≤ cut) :
    (opaqueBytes data).take cut = be32 (UInt32.ofNat data.length) ++
      (data ++ (List.replicate (padding data.length) 0).take (cut - (4 + data.length))) := by
  have length : (be32 (UInt32.ofNat data.length) ++ data).length = 4 + data.length := by simp
  rw [opaqueBytes, padded, ← List.append_assoc, List.take_append, List.take_of_length_le (by omega), length,
    List.append_assoc]

/-- The length word and the data must be there; a cut in the padding moves the cursor past the end. -/
theorem unpackOpaque_cuts (data : Bytes) (short : Short data) :
    CutsTo unpackOpaque (opaqueBytes data) (padding data.length) data := by
  have size : (UInt32.ofNat data.length).toNat = data.length := by
    rw [UInt32.toNat_ofNat', Nat.mod_eq_of_lt short]
  have length := opaqueBytes_length data
  constructor
  · exact ⟨data, rfl⟩
  · omega
  · exact unpackOpaque_reads data short
  · exact (unpackUint32_cuts 0).starves.bind
  · intro cut noticed
    rw [opaqueBytes]
    by_cases early : cut < 4
    · rw [List.take_append_of_le_length (by simp; omega)]
      exact ((unpackUint32_cuts _).rejects cut early).bind
    · apply (unpackUint32_reads _).rejects_late (by simp; omega)
      intro len same
      rw [same, size]
      apply Rejects.bind
      apply fetch_rejects
      rw [List.length_take, be32_length]
      omega
  · intro cut inside unseen buf before placed
    rw [opaqueBytes_take (by omega)] at placed
    obtain ⟨_, middle, reads, rfl, placed⟩ := unpackUint32_reads _ buf before _ placed
    obtain ⟨taken, last, fetches, same, placed⟩ := fetch_reads data middle _ _ placed
    refine ⟨data, { last with pos := last.pos + padding data.length }, ?_, rfl, ?_⟩
    · rw [unpackOpaque, bind_of_ok reads, size, bind_of_ok fetches, same]
      rfl
    · subst placed
      simp only [XdrBuffer.past, List.length_append, List.length_take, List.length_replicate]
      omega

theorem unpackString_cuts (s : Bytes) (short : Short s) :
    CutsTo unpackString (opaqueBytes s) (padding s.length) s :=
  unpackOpaque_cuts s short

/-- Eight bytes need no padding. -/
theorem Verifier.deserialize_cuts (self verf : Verifier) : Cuts self.deserialize verf.wire 0 := by
  have short : Short verf.data := by
    simp [Short, verf.eight]
  have slack : padding verf.data.length = 0 := by
    rw [verf.eight]
    rfl
  have cuts := unpackOpaque_cuts verf.data short
  rw [slack] at cuts
  apply cuts.finishing
  intro data _
  by_cases enough : 8 ≤ data.length
  · exact ⟨_, dif_pos enough, trivial⟩
  · exact ⟨self, dif_neg enough, trivial⟩

/-- A handle misses a cut in its padding like every byte string. -/
theorem NfsFh3.deserialize_cuts (fh : NfsFh3) (fits : fh.Fits) :
    Cuts NfsFh3.deserialize fh.wire (padding fh.data.length) :=
  (unpackOpaque_cuts fh.data fits).returning fun _ _ => trivial

theorem Nfstime3.deserialize_cuts (time : Nfstime3) : Cuts Nfstime3.deserialize time.wire 0 :=
  .field (unpackUint32_cuts _) (.last (unpackUint32_cuts _))

theorem Specdata3.deserialize_cuts (spec : Specdata3) : Cuts Specdata3.deserialize spec.wire 0 :=
  .field (unpackUint32_cuts _) (.last (unpackUint32_cuts _))

theorem Fattr3.deserialize_cuts (attr : Fattr3) : Cuts Fattr3.deserialize attr.wire 0 := by
  apply Trims.field (unpackUint32_cuts _)
  apply Trims.field (unpackUint32_cuts _)
  apply Trims.field (unpackUint32_cuts _)
  apply Trims.field (unpackUint32_cuts _)
  apply Trims.field (unpackUint32_cuts _)
  apply Trims.field (unpackUint64_cuts _)
  apply Trims.field (unpackUint64_cuts _)
  apply Trims.cons attr.rdev.deserialize_cuts
  intro _ _
  apply Trims.field (unpackUint64_cuts _)
  apply Trims.field (unpackUint64_cuts _)
  apply Trims.cons attr.atime.deserialize_cuts
  intro _ _
  apply Trims.cons attr.mtime.deserialize_cuts
  intro _ _
  exact Trims.last attr.ctime.deserialize_cuts

/-- The attributes end in a word, so this value has no padding with its flag or without. -/
theorem PostOpAttr.deserialize_cuts (self attr : PostOpAttr) : Cuts self.deserialize attr.wire 0 := by
  have flag := unpackBool_cuts attr.follow
  unfold PostOpAttr.wire
  cases follow : attr.follow with
  | true =>
      rw [follow] at flag
      exact .field flag (.last attr.attributes.deserialize_cuts)
  | false =>
      rw [follow] at flag
      exact flag.finishing fun got same => ⟨{ self with follow := got }, by rw [same]; rfl, trivial⟩

theorem WccAttr.deserialize_cuts (attr : WccAttr) : Cuts WccAttr.deserialize attr.wire 0 := by
  apply Trims.field (unpackUint64_cuts _)
  apply Trims.cons attr.mtime.deserialize_cuts
  intro _ _
  exact Trims.last attr.ctime.deserialize_cuts

theorem PreOpAttr.deserialize_cuts (self attr : PreOpAttr) : Cuts self.deserialize attr.wire 0 := by
  have flag := unpackBool_cuts attr.check
  unfold PreOpAttr.wire
  cases check : attr.check with
  | true =>
      rw [check] at flag
      exact .field flag (.last attr.attributes.deserialize_cuts)
  | false =>
      rw [check] at flag
      exact flag.finishing fun got same => ⟨{ self with check := got }, by rw [same]; rfl, trivial⟩

theorem WccData.deserialize_cuts (self wcc : WccData) : Cuts self.deserialize wcc.wire 0 := by
  apply Trims.cons (PreOpAttr.deserialize_cuts _ wcc.before)
  intro _ _
  exact Trims.last (PostOpAttr.deserialize_cuts _ wcc.after)

theorem unpackSentinel_cuts (prior : Option UInt32) (val : UInt32) : Cuts (unpackSentinel prior) (be32 val) 0 :=
  (unpackUint32_cuts val).returning fun _ _ => trivial

/-- An absent field is only its flag, which has no padding. -/
theorem unpackOptional_cuts {α : Type} {unpack : Xdr α} {wire : α → Bytes} {slack : α → Nat}
    (prior value : Option α) (present : ∀ v ∈ value, Cuts unpack (wire v) (slack v)) :
    Cuts (unpackOptional unpack prior) (optionalWire wire value) ((value.map slack).getD 0) := by
  cases value with
  | none =>
      apply (unpackBool_cuts false).finishing
      intro flag same
      exact ⟨prior, by rw [same]; rfl, trivial⟩
  | some v => exact .field (unpackBool_cuts true) (.last (present v rfl))

theorem unpackOptional_cuts_whole {α : Type} {unpack : Xdr α} {wire : α → Bytes}
    (prior value : Option α) (present : ∀ v, Cuts unpack (wire v) 0) :
    Cuts (unpackOptional unpack prior) (optionalWire wire value) 0 := by
  have cuts := unpackOptional_cuts prior value fun v _ => present v
  cases value <;> exact cuts

theorem Sattr3.deserialize_cuts (self attr : Sattr3) : Cuts self.deserialize attr.wire 0 := by
  apply Trims.cons (unpackSentinel_cuts _ _)
  intro _ _
  apply Trims.cons (unpackSentinel_cuts _ _)
  intro _ _
  apply Trims.cons (unpackSentinel_cuts _ _)
  intro _ _
  apply Trims.cons (unpackOptional_cuts_whole _ _ fun size =>
    (unpackUint64_cuts size).weaken fun _ _ => trivial)
  intro _ _
  apply Trims.cons (unpackOptional_cuts_whole _ _ Nfstime3.deserialize_cuts)
  intro _ _
  exact Trims.last (unpackOptional_cuts_whole _ _ Nfstime3.deserialize_cuts)

end Nfs3Rpc
