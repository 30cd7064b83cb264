import Nfs3Rpc.Format.Attributes
import Nfs3Rpc.Proof.Builtin.XdrBuffer

namespace Nfs3Rpc
open Encoding Builtin

variable {pos : Nat}

theorem Verifier.short (verf : Verifier) : Short verf.data := by
  rw [Short, verf.eight]
  decide

theorem Verifier.serialize_emits (verf : Verifier) :
    Emits (XdrBuffer.writing pos) verf.serialize () verf.wire :=
  packOpaque_emits verf.data verf.short

/-- A complete verifier replaces the prior array. -/
theorem Verifier.deserialize_reads (self verf : Verifier) :
    Reads XdrBuffer.reading self.deserialize verf.wire (· = verf) := by
  have sequence : Reads XdrBuffer.reading self.deserialize (verf.wire ++ []) (· = verf) := by
    apply Reads.bind (unpackOpaque_reads verf.data verf.short)
    intro v same
    subst same
    rw [dif_pos (Nat.le_of_eq verf.eight.symm)]
    apply Reads.pure
    simp only [← verf.eight, List.take_length]
  rwa [List.append_nil] at sequence

theorem NfsFh3.serialize_emits (fh : NfsFh3) (fits : fh.Fits) :
    Emits (XdrBuffer.writing pos) fh.serialize () fh.wire :=
  packOpaque_emits fh.data fits

theorem NfsFh3.deserialize_reads (fh : NfsFh3) (fits : fh.Fits) :
    Reads XdrBuffer.reading NfsFh3.deserialize fh.wire (· = fh) :=
  Reads.returning (unpackOpaque_reads fh.data fits) rfl

theorem Nfstime3.serialize_emits (time : Nfstime3) :
    Emits (XdrBuffer.writing pos) time.serialize () time.wire :=
  .cons (packUint32_emits _) (.last (packUint32_emits _))

theorem Nfstime3.deserialize_reads (time : Nfstime3) :
    Reads XdrBuffer.reading Nfstime3.deserialize time.wire (· = time) :=
  .field (unpackUint32_reads _) (.field (unpackUint32_reads _) (.done rfl))

theorem Specdata3.serialize_emits (spec : Specdata3) :
    Emits (XdrBuffer.writing pos) spec.serialize () spec.wire :=
  .cons (packUint32_emits _) (.last (packUint32_emits _))

theorem Specdata3.deserialize_reads (spec : Specdata3) :
    Reads XdrBuffer.reading Specdata3.deserialize spec.wire (· = spec) :=
  .field (unpackUint32_reads _) (.field (unpackUint32_reads _) (.done rfl))

theorem Fattr3.serialize_emits (attr : Fattr3) :
    Emits (XdrBuffer.writing pos) attr.serialize () attr.wire :=
  .cons (packUint32_emits _) <| .cons (packUint32_emits _) <| .cons (packUint32_emits _) <|
  .cons (packUint32_emits _) <| .cons (packUint32_emits _) <| .cons (packUint64_emits _) <|
  .cons (packUint64_emits _) <| .cons attr.rdev.serialize_emits <| .cons (packUint64_emits _) <|
  .cons (packUint64_emits _) <| .cons attr.atime.serialize_emits <| .cons attr.mtime.serialize_emits <|
  .last attr.ctime.serialize_emits

theorem Fattr3.deserialize_reads (attr : Fattr3) :
    Reads XdrBuffer.reading Fattr3.deserialize attr.wire (· = attr) :=
  .field (unpackUint32_reads _) <| .field (unpackUint32_reads _) <| .field (unpackUint32_reads _) <|
  .field (unpackUint32_reads _) <| .field (unpackUint32_reads _) <| .field (unpackUint64_reads _) <|
  .field (unpackUint64_reads _) <| .field attr.rdev.deserialize_reads <| .field (unpackUint64_reads _) <|
  .field (unpackUint64_reads _) <| .field attr.atime.deserialize_reads <|
  .field attr.mtime.deserialize_reads <| .field attr.ctime.deserialize_reads <| .done rfl

theorem PostOpAttr.serialize_emits (attr : PostOpAttr) :
    Emits (XdrBuffer.writing pos) attr.serialize () attr.wire := by
  apply Emits.cons (packBool_emits _)
  cases attr.follow
  · exact Emits.pure ()
  · exact Emits.last attr.attributes.serialize_emits

theorem PostOpAttr.deserialize_reads (self attr : PostOpAttr) :
    Reads XdrBuffer.reading self.deserialize attr.wire (·.visible = attr.visible) := by
  obtain ⟨follow, attributes⟩ := attr
  apply Reads.field (unpackBool_reads follow)
  cases follow
  · exact Reads.done rfl
  · exact Reads.field attributes.deserialize_reads (Reads.done rfl)

/-- A new object holds exactly what is visible of the attributes. -/
theorem PostOpAttr.deserialize_new_reads (attr : PostOpAttr) :
    Reads XdrBuffer.reading (PostOpAttr.deserialize {}) attr.wire (· = attr.visible) := by
  obtain ⟨follow, attributes⟩ := attr
  apply Reads.field (unpackBool_reads follow)
  cases follow
  · exact Reads.done rfl
  · exact Reads.field attributes.deserialize_reads (Reads.done rfl)

theorem WccAttr.serialize_emits (attr : WccAttr) :
    Emits (XdrBuffer.writing pos) attr.serialize () attr.wire :=
  .cons (packUint64_emits _) <| .cons attr.mtime.serialize_emits <| .last attr.ctime.serialize_emits

theorem WccAttr.deserialize_reads (attr : WccAttr) :
    Reads XdrBuffer.reading WccAttr.deserialize attr.wire (· = attr) :=
  .field (unpackUint64_reads _) <| .field attr.mtime.deserialize_reads <|
  .field attr.ctime.deserialize_reads <| .done rfl

theorem PreOpAttr.serialize_emits (attr : PreOpAttr) :
    Emits (XdrBuffer.writing pos) attr.serialize () attr.wire := by
  apply Emits.cons (packBool_emits _)
  cases attr.check
  · exact Emits.pure ()
  · exact Emits.last attr.attributes.serialize_emits

theorem PreOpAttr.deserialize_reads (self attr : PreOpAttr) :
    Reads XdrBuffer.reading self.deserialize attr.wire (·.visible = attr.visible) := by
  obtain ⟨check, attributes⟩ := attr
  apply Reads.field (unpackBool_reads check)
  cases check
  · exact Reads.done rfl
  · exact Reads.field attributes.deserialize_reads (Reads.done rfl)

theorem PreOpAttr.deserialize_new_reads (attr : PreOpAttr) :
    Reads XdrBuffer.reading (PreOpAttr.deserialize {}) attr.wire (· = attr.visible) := by
  obtain ⟨check, attributes⟩ := attr
  apply Reads.field (unpackBool_reads check)
  cases check
  · exact Reads.done rfl
  · exact Reads.field attributes.deserialize_reads (Reads.done rfl)

theorem WccData.serialize_emits (wcc : WccData) :
    Emits (XdrBuffer.writing pos) wcc.serialize () wcc.wire :=
  .cons wcc.before.serialize_emits <| .last wcc.after.serialize_emits

theorem WccData.deserialize_reads (self wcc : WccData) :
    Reads XdrBuffer.reading self.deserialize wcc.wire (·.visible = wcc.visible) := by
  apply Reads.cons (self.before.deserialize_reads wcc.before)
  intro before sameBefore
  apply Reads.cons (self.after.deserialize_reads wcc.after)
  intro after sameAfter
  exact Reads.done (by simp only [WccData.visible, sameBefore, sameAfter])

theorem WccData.deserialize_new_reads (wcc : WccData) :
    Reads XdrBuffer.reading (WccData.deserialize {}) wcc.wire (· = wcc.visible) :=
  .field wcc.before.deserialize_new_reads <| .field wcc.after.deserialize_new_reads <| .done rfl

theorem packOptional_emits {α : Type} {pack : α → Xdr Unit} {wire : α → Bytes} (value : Option α)
    (inner : ∀ v, value = some v → Emits (XdrBuffer.writing pos) (pack v) () (wire v)) :
    Emits (XdrBuffer.writing pos) (packOptional pack value) () (optionalWire wire value) := by
  cases value with
  | none => exact Emits.finishing (packBool_emits false) (Emits.pure ())
  | some v => exact Emits.cons (packBool_emits true) (Emits.last (inner v rfl))

/-- An absent field keeps the prior value, so a new object reads it as absent. -/
theorem unpackOptional_reads {α : Type} {unpack : Xdr α} {wire : α → Bytes} (prior value : Option α)
    (inner : ∀ v, value = some v → Reads XdrBuffer.reading unpack (wire v) (· = v)) :
    Reads XdrBuffer.reading (unpackOptional unpack prior) (optionalWire wire value)
      (· = value.orElse fun _ => prior) := by
  cases value with
  | none => exact Reads.ending (unpackBool_reads false) (Reads.pure rfl)
  | some v => exact Reads.field (unpackBool_reads true) (Reads.field (inner v rfl) (Reads.done rfl))

/-- The word for absence leaves the prior value. -/
def afterSentinel (prior value : Option UInt32) : Option UInt32 :=
  if value.getD absentWord = absentWord then prior else value

theorem unpackSentinel_reads (prior value : Option UInt32) :
    Reads XdrBuffer.reading (unpackSentinel prior) (be32 (value.getD absentWord)) (· = afterSentinel prior value) := by
  apply Reads.returning (unpackUint32_reads _)
  by_cases absent : value.getD absentWord = absentWord
  · rw [afterSentinel, if_pos absent, absent, if_neg (by decide)]
  · rw [afterSentinel, if_neg absent, if_pos (bne_iff_ne.mpr absent)]
    cases value with
    | none => exact absurd rfl absent
    | some word => rfl

/-- A new object tells a value from its absence unless the value is the word for absence. -/
theorem afterSentinel_none_iff (value : Option UInt32) : afterSentinel none value = value ↔
    value ≠ some absentWord := by
  unfold afterSentinel
  cases value with
  | none => simp
  | some word => by_cases absent : word = absentWord <;> simp [absent]

theorem Sattr3.serialize_emits (attr : Sattr3) :
    Emits (XdrBuffer.writing pos) attr.serialize () attr.wire :=
  .cons (packUint32_emits _) <| .cons (packUint32_emits _) <| .cons (packUint32_emits _) <|
  .cons (packOptional_emits _ fun _ _ => packUint64_emits _) <|
  .cons (packOptional_emits _ fun _ _ => Nfstime3.serialize_emits _) <|
  .last (packOptional_emits _ fun _ _ => Nfstime3.serialize_emits _)

/-- These attributes are left in an object after it has read others. -/
def Sattr3.afterRead (self attr : Sattr3) : Sattr3 where
  mode := afterSentinel self.mode attr.mode
  uid := afterSentinel self.uid attr.uid
  gid := afterSentinel self.gid attr.gid
  size := attr.size.orElse fun _ => self.size
  atime := attr.atime.orElse fun _ => self.atime
  mtime := attr.mtime.orElse fun _ => self.mtime

theorem Sattr3.deserialize_over_reads (self attr : Sattr3) :
    Reads XdrBuffer.reading self.deserialize attr.wire (· = self.afterRead attr) :=
  .field (unpackSentinel_reads _ _) <| .field (unpackSentinel_reads _ _) <| .field (unpackSentinel_reads _ _) <|
  .field (unpackOptional_reads _ _ fun _ _ => unpackUint64_reads _) <|
  .field (unpackOptional_reads _ _ fun _ _ => Nfstime3.deserialize_reads _) <|
  .field (unpackOptional_reads _ _ fun _ _ => Nfstime3.deserialize_reads _) <| .done rfl

theorem Sattr3.afterRead_new_iff (attr : Sattr3) : Sattr3.afterRead {} attr = attr ↔ attr.Fits := by
  obtain ⟨mode, uid, gid, size, atime, mtime⟩ := attr
  simp [Sattr3.afterRead, Sattr3.Fits, afterSentinel_none_iff]

/-- A new object receives exactly the settable attributes that were sent. -/
theorem Sattr3.deserialize_reads (attr : Sattr3) (fits : attr.Fits) :
    Reads XdrBuffer.reading (Sattr3.deserialize {}) attr.wire (· = attr) := by
  apply (Sattr3.deserialize_over_reads {} attr).weaken
  intro value same
  rw [same, (Sattr3.afterRead_new_iff attr).mpr fits]

/-- The built-in codec gives settable attributes back exactly when no value is the word for absence. -/
theorem Sattr3.round_trips_iff (attr : Sattr3) :
    (∃ packed final, attr.serialize XdrBuffer.empty = .ok () packed ∧
      Sattr3.deserialize {} packed = .ok attr final) ↔ attr.Fits := by
  obtain ⟨value, runs, same⟩ := run_of_reads (Sattr3.deserialize_over_reads {} attr)
  rw [run_of_emits attr.serialize_emits, ← Sattr3.afterRead_new_iff, ← same]
  constructor
  · intro ⟨packed, final, sent, received⟩
    obtain ⟨_, rfl⟩ := EStateM.Result.ok.inj sent
    rw [runs] at received
    exact (EStateM.Result.ok.inj received).1
  · intro equal
    exact ⟨_, _, rfl, equal ▸ runs⟩

/-- A mode of all ones comes back as no mode. -/
theorem Sattr3.all_ones_lost : ¬ ∃ packed final,
    Sattr3.serialize { mode := some 0xFFFFFFFF } XdrBuffer.empty = .ok () packed ∧
      Sattr3.deserialize {} packed = .ok { mode := some 0xFFFFFFFF } final := by
  intro ⟨packed, final, sent, received⟩
  obtain ⟨value, runs, same⟩ := run_of_reads (Sattr3.deserialize_over_reads {} { mode := some 0xFFFFFFFF })
  rw [run_of_emits (Sattr3.serialize_emits _)] at sent
  obtain ⟨_, rfl⟩ := EStateM.Result.ok.inj sent
  rw [runs, same] at received
  have mode := congrArg Sattr3.mode (EStateM.Result.ok.inj received).1
  exact absurd mode (by decide)

end Nfs3Rpc
