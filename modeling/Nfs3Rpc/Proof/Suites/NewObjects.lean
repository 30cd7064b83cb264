import Nfs3Rpc.Proof.Suites.Accepts

namespace Nfs3Rpc
open Encoding Builtin Csuite

theorem Nfstime3.deserialize_finds :
    Finds XdrBuffer.reading Nfstime3.deserialize fun time bytes => bytes = time.wire :=
  .field unpackUint32_finds fun _ => .field unpackUint32_finds fun _ => .pure rfl

theorem Specdata3.deserialize_finds :
    Finds XdrBuffer.reading Specdata3.deserialize fun spec bytes => bytes = spec.wire :=
  .field unpackUint32_finds fun _ => .field unpackUint32_finds fun _ => .pure rfl

theorem Fattr3.deserialize_finds :
    Finds XdrBuffer.reading Fattr3.deserialize fun attr bytes => bytes = attr.wire :=
  .field unpackUint32_finds fun _ => .field unpackUint32_finds fun _ => .field unpackUint32_finds fun _ =>
  .field unpackUint32_finds fun _ => .field unpackUint32_finds fun _ => .field unpackUint64_finds fun _ =>
  .field unpackUint64_finds fun _ => .field Specdata3.deserialize_finds fun _ =>
  .field unpackUint64_finds fun _ => .field unpackUint64_finds fun _ =>
  .field Nfstime3.deserialize_finds fun _ => .field Nfstime3.deserialize_finds fun _ =>
  .field Nfstime3.deserialize_finds fun _ => .pure rfl

theorem WccAttr.deserialize_finds :
    Finds XdrBuffer.reading WccAttr.deserialize fun attr bytes => bytes = attr.wire :=
  .field unpackUint64_finds fun _ => .field Nfstime3.deserialize_finds fun _ =>
  .field Nfstime3.deserialize_finds fun _ => .pure rfl

theorem PostOpAttr.deserialize_finds :
    Finds XdrBuffer.reading (PostOpAttr.deserialize {}) PostOpAttr.Encoded := by
  apply Finds.bind unpackBool_finds
  intro follow _ held
  obtain ⟨flag, rfl, rfl⟩ := held
  by_cases zero : flag = 0
  · subst zero
    exact Finds.pure .absent
  · have set : (flag != 0) = true := bne_iff_ne.mpr zero
    simp only [set, if_true]
    apply Finds.field Fattr3.deserialize_finds
    intro attributes
    exact Finds.pure (by simpa using PostOpAttr.Encoded.present zero attributes)

theorem PreOpAttr.deserialize_finds :
    Finds XdrBuffer.reading (PreOpAttr.deserialize {}) PreOpAttr.Encoded := by
  apply Finds.bind unpackBool_finds
  intro check _ held
  obtain ⟨flag, rfl, rfl⟩ := held
  by_cases zero : flag = 0
  · subst zero
    exact Finds.pure .absent
  · have set : (flag != 0) = true := bne_iff_ne.mpr zero
    simp only [set, if_true]
    apply Finds.field WccAttr.deserialize_finds
    intro attributes
    exact Finds.pure (by simpa using PreOpAttr.Encoded.present zero attributes)

theorem WccData.deserialize_finds :
    Finds XdrBuffer.reading (WccData.deserialize {}) WccData.Encoded := by
  apply Finds.bind PreOpAttr.deserialize_finds
  intro before first encodedBefore
  apply Finds.bind PostOpAttr.deserialize_finds
  intro after second encodedAfter
  exact Finds.pure (by simpa using WccData.Encoded.both encodedBefore encodedAfter)

theorem PostOpAttr.Encoded.reads {attr : PostOpAttr} {bytes : Bytes} (encoded : attr.Encoded bytes) :
    Reads XdrBuffer.reading (PostOpAttr.deserialize {}) bytes (· = attr) := by
  cases encoded with
  | absent => exact Reads.finishing (unpackBool_reads_word 0) fun _ same => same ▸ Reads.pure rfl
  | present set attributes =>
      apply Reads.bind (unpackBool_reads_word _)
      intro _ same
      subst same
      rw [bne_iff_ne.mpr set]
      exact Reads.returning attributes.deserialize_reads rfl

theorem PreOpAttr.Encoded.reads {attr : PreOpAttr} {bytes : Bytes} (encoded : attr.Encoded bytes) :
    Reads XdrBuffer.reading (PreOpAttr.deserialize {}) bytes (· = attr) := by
  cases encoded with
  | absent => exact Reads.finishing (unpackBool_reads_word 0) fun _ same => same ▸ Reads.pure rfl
  | present set attributes =>
      apply Reads.bind (unpackBool_reads_word _)
      intro _ same
      subst same
      rw [bne_iff_ne.mpr set]
      exact Reads.returning attributes.deserialize_reads rfl

theorem WccData.Encoded.reads {wcc : WccData} {bytes : Bytes} (encoded : wcc.Encoded bytes) :
    Reads XdrBuffer.reading (WccData.deserialize {}) bytes (· = wcc) := by
  obtain ⟨before, after⟩ := encoded
  apply Reads.bind before.reads
  intro _ same
  subst same
  exact Reads.returning after.reads rfl

/-- Such a decoder accepts the encodings of its values and nothing else. -/
theorem accepts_encoded {α β : Type} {program : Xdr α} {next : α → Xdr β} {encodes : α → Bytes → Prop}
    {before tail : Bytes} {result : β → Prop} (finds : Finds XdrBuffer.reading program encodes)
    (reads : ∀ {value bytes}, encodes value bytes → Reads XdrBuffer.reading program bytes (· = value)) :
    Accepts (program >>= next) before tail result ↔ ∃ value bytes rest, encodes value bytes ∧
      tail = bytes ++ rest ∧ Accepts (next value) (before ++ bytes) rest result := by
  constructor
  · intro held
    obtain ⟨final, last, runs, holds⟩ := held
    obtain ⟨value, middle, starts, continues⟩ := ok_of_bind_ok runs
    obtain ⟨bytes, rest, split, encoded, rfl⟩ := finds _ before tail value middle rfl starts
    exact ⟨value, bytes, rest, encoded, split, final, last, continues, holds⟩
  · intro held
    obtain ⟨value, bytes, rest, encoded, rfl, accepts⟩ := held
    exact (accepts_field (reads encoded)).mpr accepts

theorem PostOpAttr.Encoded.visible {attr : PostOpAttr} {bytes : Bytes} (encoded : attr.Encoded bytes) :
    attr.visible = attr := by
  cases encoded <;> rfl

theorem PreOpAttr.Encoded.visible {attr : PreOpAttr} {bytes : Bytes} (encoded : attr.Encoded bytes) :
    attr.visible = attr := by
  cases encoded <;> rfl

theorem WccData.Encoded.visible {wcc : WccData} {bytes : Bytes} (encoded : wcc.Encoded bytes) :
    wcc.visible = wcc := by
  obtain ⟨before, after⟩ := encoded
  rw [WccData.visible, before.visible, after.visible]

/-- A last handle takes the bytes after its length, with or without padding. -/
theorem NfsFh3.accepts_iff {before tail : Bytes} {fh : NfsFh3} (fits : fh.Fits) :
    Accepts NfsFh3.deserialize before tail (· = fh) ↔
      be32 (UInt32.ofNat fh.data.length) ++ fh.data <+: tail := by
  constructor
  · intro accepts
    have opened := accepts
    simp only [NfsFh3.deserialize, unpackOpaque, bind_assoc] at opened
    obtain ⟨len, bytes, rest, rfl, rfl, _⟩ :=
      (accepts_encoded unpackUint32_finds fun same => same ▸ unpackUint32_reads _).mp opened
    obtain ⟨inside, taken⟩ := accepts_lastOpaque.mp accepts
    have data : rest.take len.toNat = fh.data := congrArg NfsFh3.data taken
    have count : fh.data.length = len.toNat := by
      rw [← data, List.length_take_of_le inside]
    rw [count, UInt32.ofNat_toNat, List.prefix_append_right_inj, ← data]
    exact List.take_prefix _ _
  · intro held
    obtain ⟨rest, rfl⟩ := held
    rw [List.append_assoc, NfsFh3.deserialize, accepts_lastOpaque, toNat_length fits]
    simp

theorem NewObject.accepts_iff {before tail : Bytes} {res : NewObject} (fits : res.object.Fits) :
    Accepts (NewObject.deserialize {}) before tail (·.visible = res) ↔
      ∃ attributes wcc, res.objAttributes.Encoded attributes ∧ res.dirWcc.Encoded wcc ∧
        [attributes, wcc, be32 (UInt32.ofNat res.object.data.length), res.object.data].flatten <+: tail := by
  obtain ⟨objAttributes, dirWcc, object⟩ := res
  rw [NewObject.deserialize, accepts_encoded PostOpAttr.deserialize_finds PostOpAttr.Encoded.reads]
  constructor
  · intro held
    obtain ⟨decoded, attributes, rest, encodedAttributes, rfl, accepts⟩ := held
    obtain ⟨decodedWcc, wcc, rest, encodedWcc, rfl, acceptsHandle⟩ :=
      (accepts_encoded WccData.deserialize_finds WccData.Encoded.reads).mp accepts
    obtain ⟨handle, last, runs, same⟩ := accepts_returning.mp acceptsHandle
    rw [NewObject.visible, encodedAttributes.visible, encodedWcc.visible] at same
    obtain ⟨rfl, rfl, rfl⟩ := NewObject.mk.inj same
    refine ⟨attributes, wcc, encodedAttributes, encodedWcc, ?_⟩
    have found := (NfsFh3.accepts_iff fits).mp ⟨_, last, runs, rfl⟩
    simpa [List.prefix_append_right_inj] using found
  · intro held
    obtain ⟨attributes, wcc, encodedAttributes, encodedWcc, rest, rfl⟩ := held
    refine ⟨_, attributes, _, encodedAttributes, by simp; rfl, ?_⟩
    refine (accepts_encoded WccData.deserialize_finds WccData.Encoded.reads).mpr
      ⟨_, wcc, _, encodedWcc, rfl, accepts_returning.mpr ?_⟩
    obtain ⟨handle, last, runs, rfl⟩ := (@NfsFh3.accepts_iff (before ++ attributes ++ wcc) _ _ fits).mpr
      ⟨rest, rfl⟩
    refine ⟨handle, last, by simpa using runs, ?_⟩
    simp only [NewObject.visible, encodedAttributes.visible, encodedWcc.visible]

theorem PostOpAttr.Encoded.of_zero {attr : PostOpAttr} {bytes more rest : Bytes}
    (encoded : attr.Encoded bytes) (starts : bytes ++ more <+: be32 0 ++ rest) : attr = {} ∧ more <+: rest := by
  obtain ⟨last, whole⟩ := starts
  cases encoded with
  | absent => exact ⟨rfl, (List.prefix_append_right_inj _).mp ⟨last, whole⟩⟩
  | present set attributes =>
      simp only [List.append_assoc] at whole
      exact absurd (be32_append_inj.mp whole).1 set

theorem PreOpAttr.Encoded.of_zero {attr : PreOpAttr} {bytes more rest : Bytes}
    (encoded : attr.Encoded bytes) (starts : bytes ++ more <+: be32 0 ++ rest) : attr = {} ∧ more <+: rest := by
  obtain ⟨last, whole⟩ := starts
  cases encoded with
  | absent => exact ⟨rfl, (List.prefix_append_right_inj _).mp ⟨last, whole⟩⟩
  | present set attributes =>
      simp only [List.append_assoc] at whole
      exact absurd (be32_append_inj.mp whole).1 set

theorem PostOpAttr.Encoded.of_one {attr : PostOpAttr} {bytes more rest : Bytes} (encoded : attr.Encoded bytes)
    (starts : bytes ++ more <+: be32 1 ++ rest) :
    ∃ attributes, attr = ⟨true, attributes⟩ ∧ attributes.wire ++ more <+: rest := by
  obtain ⟨last, whole⟩ := starts
  cases encoded with
  | absent =>
      simp only [List.append_assoc] at whole
      exact absurd (be32_append_inj.mp whole).1 (by decide)
  | present set attributes =>
      simp only [List.append_assoc] at whole
      refine ⟨attributes, rfl, last, ?_⟩
      rw [List.append_assoc]
      exact (be32_append_inj.mp whole).2

/-- An absent handle is read as absent attributes, so every later flag must be false too. -/
theorem NewObject.accepts_empty {before : Bytes} {res : NewObject} (empty : res.object.data = []) :
    Accepts (NewObject.deserialize {}) before (NewObjectWire res) (·.visible = res) ↔ res = {} := by
  have fits : res.object.Fits := by simp [NfsFh3.Fits, Short, empty]
  rw [NewObject.accepts_iff fits]
  constructor
  · intro held
    obtain ⟨attributes, wcc, encodedAttributes, encodedWcc, starts⟩ := held
    obtain ⟨objAttributes, dirWcc, ⟨data⟩⟩ := res
    obtain rfl : data = [] := empty
    obtain ⟨encodedBefore, encodedAfter⟩ := encodedWcc
    simp only [NewObjectWire, handleWire, List.flatten_cons, List.append_assoc] at starts
    obtain ⟨rfl, starts⟩ := encodedAttributes.of_zero starts
    obtain ⟨rfl, starts⟩ := encodedBefore.of_zero starts
    obtain ⟨rfl, _⟩ := encodedAfter.of_zero starts
    rfl
  · rintro rfl
    exact ⟨_, _, .absent, .both .absent .absent, List.prefix_rfl⟩

theorem Csuite.PostOpAttrT.message_eq_absent_iff (a : PostOpAttrT) : a.message = {} ↔ a.follow = 0 := by
  rw [PostOpAttrT.message]
  split
  · rename_i set
    exact iff_of_false (fun same => absurd (congrArg PostOpAttr.follow same) (by simp)) set
  · rename_i unset
    exact iff_of_true rfl (not_not.mp unset)

theorem Csuite.PreOpAttrT.message_eq_absent_iff (a : PreOpAttrT) : a.message = {} ↔ a.check = 0 := by
  rw [PreOpAttrT.message]
  split
  · rename_i set
    exact iff_of_false (fun same => absurd (congrArg PreOpAttr.check same) (by simp)) set
  · rename_i unset
    exact iff_of_true rfl (not_not.mp unset)

theorem Csuite.PostOpAttrT.message_eq_present_iff (a : PostOpAttrT) (attributes : Fattr3) :
    a.message = ⟨true, attributes⟩ ↔ a.follow ≠ 0 ∧ a.attributes = attributes := by
  rw [PostOpAttrT.message]
  split
  · rename_i set
    simp [set]
  · rename_i unset
    exact iff_of_false (fun same => absurd (congrArg PostOpAttr.follow same) (by simp)) fun both => unset both.1

/-- A present handle is read as present attributes, which start at the handle. -/
theorem NewObject.accepts_full {before : Bytes} {res : NewObject} (full : res.object.data ≠ [])
    (fits : res.object.Fits) :
    Accepts (NewObject.deserialize {}) before (NewObjectWire res) (·.visible = res) ↔
      ∃ attributes, res.objAttributes = ⟨true, attributes⟩ ∧ ∃ wcc, res.dirWcc.Encoded wcc ∧
        [attributes.wire, wcc, be32 (UInt32.ofNat res.object.data.length), res.object.data].flatten <+:
          [res.object.wire, be32 1, attributes.wire, res.dirWcc.wire].flatten := by
  have wire : NewObjectWire res =
      be32 1 ++ [res.object.wire, res.objAttributes.wire, res.dirWcc.wire].flatten := by
    simp [NewObjectWire, handleWire, full, beBool]
  rw [NewObject.accepts_iff fits, wire]
  constructor
  · intro held
    obtain ⟨bytes, wcc, encodedAttributes, encodedWcc, starts⟩ := held
    obtain ⟨attributes, present, shifted⟩ := encodedAttributes.of_one starts
    refine ⟨attributes, present, wcc, encodedWcc, ?_⟩
    simpa [present, PostOpAttr.wire, beBool] using shifted
  · intro held
    obtain ⟨attributes, present, wcc, encodedWcc, starts⟩ := held
    have encoded : res.objAttributes.Encoded (be32 1 ++ attributes.wire) := by
      rw [present]
      exact .present (by decide) attributes
    refine ⟨_, wcc, encoded, encodedWcc, ?_⟩
    simpa [present, PostOpAttr.wire, beBool, List.prefix_append_right_inj] using starts

theorem Csuite.NewObjectT.message_eq_bare_iff (res : NewObjectT) (formed : res.object.WellFormed) :
    res.message = {} ↔ res.Bare := by
  rw [NewObjectT.Bare, ← message_empty_iff formed]
  constructor
  · intro bare
    have attributes : res.objAttributes.message = {} := congrArg NewObject.objAttributes bare
    have before : res.dirWcc.before.message = {} := congrArg (fun r => r.dirWcc.before) bare
    have after : res.dirWcc.after.message = {} := congrArg (fun r => r.dirWcc.after) bare
    have object : res.object.message.data = [] := congrArg (fun r => r.object.data) bare
    rw [PostOpAttrT.message_eq_absent_iff] at attributes after
    rw [PreOpAttrT.message_eq_absent_iff] at before
    exact ⟨object, attributes, before, after⟩
  · intro held
    obtain ⟨object, attributes, before, after⟩ := held
    rw [← PostOpAttrT.message_eq_absent_iff] at attributes after
    rw [← PreOpAttrT.message_eq_absent_iff] at before
    rw [NewObjectT.message, WccDataT.message, attributes, before, after]
    exact congrArg (NewObject.mk {} {}) (congrArg NfsFh3.mk object)

theorem Csuite.NewObjectT.accepted_iff (res : NewObjectT) (formed : res.object.WellFormed) (before : Bytes) :
    Accepts (NewObject.deserialize {}) before (NewObjectWire res.message) (·.visible = res.message) ↔
      res.Bare ∨ res.Repeats := by
  by_cases empty : res.object.len = 0
  · have noRepeat : ¬ res.Repeats := fun repeats => repeats.1 empty
    rw [NewObject.accepts_empty ((message_empty_iff formed).mpr empty), res.message_eq_bare_iff formed,
      or_iff_left noRepeat]
  · have full : res.message.object.data ≠ [] := fun none => empty ((message_empty_iff formed).mp none)
    have notBare : ¬ res.Bare := fun bare => empty bare.1
    have word : UInt32.ofNat res.message.object.data.length = res.object.len := by
      change UInt32.ofNat (res.object.data.bytes res.object.len).length = _
      rw [Ptr.bytes_length formed, UInt32.ofNat_toNat]
    rw [NewObject.accepts_full full (Ptr.bytes_short _ _), word, or_iff_right notBare, NewObjectT.Repeats]
    constructor
    · intro held
      obtain ⟨attributes, present, wcc, encodedWcc, starts⟩ := held
      obtain ⟨set, rfl⟩ := (res.objAttributes.message_eq_present_iff attributes).mp present
      exact ⟨empty, set, wcc, encodedWcc, starts⟩
    · intro held
      obtain ⟨_, set, wcc, encodedWcc, starts⟩ := held
      exact ⟨_, (res.objAttributes.message_eq_present_iff _).mpr ⟨set, rfl⟩, wcc, encodedWcc, starts⟩

section
variable (res : Csuite.ResT NewObjectT)

/-- All four encoders are this one. -/
theorem Csuite.newObject_emits (formed : res.WellFormed fun ok : NewObjectT => ok.object.WellFormed)
    (success : res.status = .NFS3_OK) (pos depth : Nat) :
    Emits (writing pos depth) (ResT.pack NewObjectT.pack res) () (be32 0 ++ NewObjectWire res.resok.message) :=
  success_emits res formed.1 success (NewObjectT.pack_emits _ formed.2)

theorem Csuite.newObject_accepted_iff (formed : res.WellFormed fun ok : NewObjectT => ok.object.WellFormed) :
    (∀ _ : Verifier, Accepts (NewObject.deserialize {}) (be32 0) (NewObjectWire res.resok.message)
      (·.visible = res.resok.message)) ↔ res.resok.Bare ∨ res.resok.Repeats := by
  rw [← res.resok.accepted_iff formed.2 (be32 0)]
  exact ⟨fun accepts => accepts .zero, fun accepts _ => accepts⟩

theorem Csuite.CREATE3resT_read_iff (formed : ProcNum.CREATE.WellFormedRes res)
    (success : res.status = .NFS3_OK) :
    Interoperates .CREATE (xdrPackCREATE3res res) NewObject.visible res.resok.message ↔
      res.resok.Bare ∨ res.resok.Repeats :=
  (interoperates_iff .CREATE NewObject.visible (fun _ => NewObject.deserialize {})
    (newObject_emits res formed success) fun _ _ => rfl).trans (newObject_accepted_iff res formed)

end

/-- The C++ suite reads a new object of the C suite only when nothing is present or the bytes repeat. -/
theorem new_objects_interoperate_iff (res : Csuite.ResT NewObjectT) :
    (ProcNum.CREATE.WellFormedRes res → res.status = .NFS3_OK →
      (Interoperates .CREATE (xdrPackCREATE3res res) NewObject.visible res.resok.message ↔
        res.resok.Bare ∨ res.resok.Repeats)) ∧
    (ProcNum.MKDIR.WellFormedRes res → res.status = .NFS3_OK →
      (Interoperates .MKDIR (xdrPackMKDIR3res res) NewObject.visible res.resok.message ↔
        res.resok.Bare ∨ res.resok.Repeats)) ∧
    (ProcNum.SYMLINK.WellFormedRes res → res.status = .NFS3_OK →
      (Interoperates .SYMLINK (xdrPackSYMLINK3res res) NewObject.visible res.resok.message ↔
        res.resok.Bare ∨ res.resok.Repeats)) ∧
    (ProcNum.MKNOD.WellFormedRes res → res.status = .NFS3_OK →
      (Interoperates .MKNOD (xdrPackMKNOD3res res) NewObject.visible res.resok.message ↔
        res.resok.Bare ∨ res.resok.Repeats)) := by
  refine ⟨CREATE3resT_read_iff res, ?_, ?_, ?_⟩
  · intro formed success
    exact (interoperates_iff .MKDIR NewObject.visible (fun _ => NewObject.deserialize {})
      (newObject_emits res formed success) fun _ _ => rfl).trans (newObject_accepted_iff res formed)
  · intro formed success
    exact (interoperates_iff .SYMLINK NewObject.visible (fun _ => NewObject.deserialize {})
      (newObject_emits res formed success) fun _ _ => rfl).trans (newObject_accepted_iff res formed)
  · intro formed success
    exact (interoperates_iff .MKNOD NewObject.visible (fun _ => NewObject.deserialize {})
      (newObject_emits res formed success) fun _ _ => rfl).trans (newObject_accepted_iff res formed)

/-- The attributes of this result repeat the three words of its handle and its flag. -/
def repeatingObject : Csuite.ResT NewObjectT :=
  { status := .NFS3_OK
    hasResok := 1
    resok :=
      { object := ⟨.block [0], 1, 1⟩
        objAttributes :=
          ⟨1, ⟨⟨1⟩, 0, 1, 1, 0, hyper 1 1, hyper 0 1, ⟨1, 0⟩, hyper 1 1, hyper 0 1, ⟨1, 0⟩,
          ⟨1, 1⟩, ⟨0, 1⟩⟩⟩
        dirWcc := ⟨⟨1, ⟨hyper 0 1, ⟨1, 0⟩, ⟨1, 1⟩⟩⟩, ⟨0, {}⟩⟩ } }

theorem repeatingObject_formed : repeatingObject.WellFormed fun ok : NewObjectT => ok.object.WellFormed :=
  ⟨by decide, Ptr.noConfusion, fun _ => ⟨[0], rfl, by decide⟩⟩

theorem repeatingObject_repeats : repeatingObject.resok.Repeats := by
  refine ⟨by decide, by decide, _, .both (@PreOpAttr.Encoded.present 1 (by decide) _) .absent, by decide⟩

theorem new_objects_interoperate_small :
    Interoperates .CREATE (xdrPackCREATE3res ⟨.NFS3_OK, 1, {}⟩) NewObject.visible (NewObjectT.message {}) ∧
      Interoperates .MKDIR (xdrPackMKDIR3res repeatingObject) NewObject.visible
        repeatingObject.resok.message ∧
      Interoperates .SYMLINK (xdrPackSYMLINK3res repeatingObject) NewObject.visible
        repeatingObject.resok.message ∧
      Interoperates .MKNOD (xdrPackMKNOD3res repeatingObject) NewObject.visible
        repeatingObject.resok.message := by
  obtain ⟨creates, _⟩ := new_objects_interoperate_iff ⟨.NFS3_OK, 1, {}⟩
  obtain ⟨_, makesDir, links, makesNode⟩ := new_objects_interoperate_iff repeatingObject
  refine ⟨?_, ?_, ?_, ?_⟩
  · exact (creates ⟨by decide, Ptr.noConfusion, fun positive => absurd rfl positive⟩ rfl).mpr
      (.inl (by unfold NewObjectT.Bare; decide))
  · exact (makesDir repeatingObject_formed rfl).mpr (.inr repeatingObject_repeats)
  · exact (links repeatingObject_formed rfl).mpr (.inr repeatingObject_repeats)
  · exact (makesNode repeatingObject_formed rfl).mpr (.inr repeatingObject_repeats)

/-- This result has a handle of four bytes and no attributes. -/
def handleOnly : Csuite.ResT NewObjectT :=
  { status := .NFS3_OK, hasResok := 1, resok := { object := ⟨.block [1, 2, 3, 4], 4, 4⟩ } }

/-- The C++ decoder takes the flag of the handle for the flag of the attributes. -/
theorem handle_only_misread : ProcNum.CREATE.WellFormedRes handleOnly ∧ handleOnly.status = .NFS3_OK ∧
    ¬ Interoperates .CREATE (xdrPackCREATE3res handleOnly) NewObject.visible handleOnly.resok.message := by
  have formed : ProcNum.CREATE.WellFormedRes handleOnly :=
    ⟨by decide, Ptr.noConfusion, fun _ => ⟨[1, 2, 3, 4], rfl, by decide⟩⟩
  refine ⟨formed, rfl, ?_⟩
  rw [CREATE3resT_read_iff handleOnly formed rfl]
  rintro (bare | repeats)
  · exact absurd bare.1 (by decide)
  · exact repeats.2.1 rfl

end Nfs3Rpc
