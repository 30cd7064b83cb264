import Nfs3Rpc.Proof.Csuite.XdrBuf

namespace Nfs3Rpc.Csuite
open Encoding

variable {pos depth : Nat}

/-- The length of a block comes from a word, so it fits one. -/
theorem Ptr.bytes_short (data : Ptr) (len : UInt32) : Short (data.bytes len) := by
  have bound := len.toNat_lt
  cases data with
  | null => exact Nat.two_pow_pos 32
  | wild => exact Nat.two_pow_pos 32
  | block data =>
      rw [Short, Ptr.bytes, List.length_take]
      omega

/-- Clipping takes the length modulo 2 ^ 32. -/
theorem clip_short (s : Bytes) : Short (clip s) := by
  have bound := Nat.mod_lt s.length (Nat.two_pow_pos 32)
  rw [Short, clip, List.length_take]
  omega

theorem clip_of_short {s : Bytes} (short : Short s) : clip s = s := by
  rw [clip, Nat.mod_eq_of_lt short, List.take_length]

/-- A C string has no zero byte, and neither has a front part of it. -/
theorem zero_notMem_clip (s : Ptr) : 0 ∉ clip s.cstring := by
  intro member
  have inside := List.mem_of_mem_take member
  cases s with
  | null => exact absurd inside List.not_mem_nil
  | wild => exact absurd inside List.not_mem_nil
  | block data => simpa using List.all_eq_true.mp List.all_takeWhile 0 inside

/-- A string without zero bytes ends at its own terminator. -/
theorem cstring_terminated {s : Bytes} (clean : 0 ∉ s) : (Ptr.block (s ++ [0])).cstring = s :=
  (takeWhile_terminated s).trans ((takeWhile_nonzero_iff s).mpr clean)

/-- A string arrives as it was sent. -/
theorem intoClipped_decodes (prior s : Ptr) :
    Decodes (reading depth) (into prior xdrUnpackCstring) (opaqueBytes (clip s.cstring))
      (Terminates (clip s.cstring)) (·.cstring = clip s.cstring) := by
  have decodes := @intoCstring_decodes depth prior (clip s.cstring) (clip_short _)
  refine ⟨fun terminates => (decodes.1 terminates).weaken ?_, decodes.2⟩
  intro _ same
  subst same
  exact cstring_terminated (zero_notMem_clip s)

/-- A message without further strings decodes in every case. -/
theorem decodes_plain {α : Type} {program : Run α} {wire : Bytes} {result : α → Prop}
    (reads : Reads (reading depth) program wire result) :
    Decodes (reading depth) program wire (∀ s ∈ ([] : List Bytes), Terminates s) result :=
  (Decodes.of_reads reads).congr (by simp)

/-- A string decodes when it and all later strings have room for their terminators. -/
theorem intoString_decodes {α : Type} {next : Ptr → Run α} {fields strings : List Bytes} {result : α → Prop}
    (prior s : Ptr) (continues : ∀ got : Ptr, got.cstring = clip s.cstring →
      Decodes (reading depth) (next got) fields.flatten (∀ t ∈ strings, Terminates t) result) :
    Decodes (reading depth) (into prior xdrUnpackCstring >>= next)
      (opaqueBytes (clip s.cstring) :: fields).flatten
      (∀ t ∈ clip s.cstring :: strings, Terminates t) result :=
  (Decodes.both (intoClipped_decodes prior s) continues).congr List.forall_mem_cons.symm

theorem nfsFh3Destroy_reads (fh : NfsFh3T) (owned : fh.Owned) :
    Reads (reading depth) (nfsFh3Destroy fh) [] fun _ => True :=
  Reads.silent (free_reads fh.data owned) fun _ _ => Reads.pure trivial

/-- A handle is a byte string with the length of its structure. -/
theorem xdrPackNfsFh3_emits (fh : NfsFh3T) (formed : fh.WellFormed) :
    Emits (writing pos depth) (xdrPackNfsFh3 fh) () fh.message.wire :=
  xdrPackOpaque_emits fh.data fh.len formed

theorem bytes_block {data : Bytes} (short : Short data) :
    (Ptr.block data).bytes (UInt32.ofNat data.length) = data :=
  bytes_whole (toNat_length short).symm

/-- The new block has the bytes of the message, and the old one is freed. -/
theorem xdrUnpackNfsFh3_reads (dest fh : NfsFh3T) (owned : dest.Owned) :
    Reads (reading depth) (xdrUnpackNfsFh3 dest) fh.message.wire (·.message = fh.message) := by
  apply Reads.silent uninitialized_reads
  intro len _
  apply Reads.finishing (xdrUnpackOpaque_reads _ len _ (Ptr.bytes_short fh.data fh.len))
  intro _ same
  subst same
  refine Reads.silent (nfsFh3Destroy_reads dest owned) fun _ _ => Reads.pure ?_
  exact congrArg NfsFh3.mk (bytes_block (Ptr.bytes_short fh.data fh.len))

theorem xdrPackNfstime3_emits (t : Nfstime3) : Emits (writing pos depth) (xdrPackNfstime3 t) () t.wire :=
  .cons (xdrPackUint32_emits _) <| .last (xdrPackUint32_emits _)

theorem xdrUnpackNfstime3_reads (dest t : Nfstime3) :
    Reads (reading depth) (xdrUnpackNfstime3 dest) t.wire (· = t) :=
  .field (intoUint32_reads _ _) <| .field (intoUint32_reads _ _) <| .done rfl

theorem xdrPackSpecdata3_emits (s : Specdata3) :
    Emits (writing pos depth) (xdrPackSpecdata3 s) () s.wire :=
  .cons (xdrPackUint32_emits _) <| .last (xdrPackUint32_emits _)

theorem xdrUnpackSpecdata3_reads (dest s : Specdata3) :
    Reads (reading depth) (xdrUnpackSpecdata3 dest) s.wire (· = s) :=
  .field (intoUint32_reads _ _) <| .field (intoUint32_reads _ _) <| .done rfl

theorem xdrPackFattr3_emits (attr : Fattr3) : Emits (writing pos depth) (xdrPackFattr3 attr) () attr.wire :=
  .cons (xdrPackUint32_emits _) <| .cons (xdrPackUint32_emits _) <| .cons (xdrPackUint32_emits _) <|
  .cons (xdrPackUint32_emits _) <| .cons (xdrPackUint32_emits _) <| .cons (xdrPackUint64_emits _) <|
  .cons (xdrPackUint64_emits _) <| .cons (xdrPackSpecdata3_emits _) <| .cons (xdrPackUint64_emits _) <|
  .cons (xdrPackUint64_emits _) <| .cons (xdrPackNfstime3_emits _) <| .cons (xdrPackNfstime3_emits _) <|
  .last (xdrPackNfstime3_emits _)

/-- Every field is replaced, so nothing of the destination is left. -/
theorem xdrUnpackFattr3_reads (dest attr : Fattr3) :
    Reads (reading depth) (xdrUnpackFattr3 dest) attr.wire (· = attr) :=
  .silent uninitialized_reads fun _ _ =>
  .field (intoUint32_reads _ _) <| .field (intoUint32_reads _ _) <| .field (intoUint32_reads _ _) <|
  .field (intoUint32_reads _ _) <| .field (intoUint32_reads _ _) <| .field (intoUint64_reads _ _) <|
  .field (intoUint64_reads _ _) <| .field (xdrUnpackSpecdata3_reads _ _) <| .field (intoUint64_reads _ _) <|
  .field (intoUint64_reads _ _) <| .field (xdrUnpackNfstime3_reads _ _) <|
  .field (xdrUnpackNfstime3_reads _ _) <| .field (xdrUnpackNfstime3_reads _ _) <| .done rfl

/-- A flag decides in both suites whether its attributes travel. -/
theorem packFlagged_emits {flag : Int32} {pack : Run Unit} {wire : Bytes}
    (inner : Emits (writing pos depth) pack () wire) :
    Emits (writing pos depth) (do xdrPackBool flag; if flag ≠ 0 then pack) ()
      (if flag ≠ 0 then [beBool true, wire].flatten else beBool false) := by
  have sent : Emits (writing pos depth) (xdrPackBool flag) () (beBool (flag ≠ 0)) := xdrPackBool_emits flag
  by_cases zero : flag = 0
  · simp only [zero, ne_eq, not_true_eq_false, decide_false, if_false] at sent ⊢
    exact Emits.finishing sent (Emits.pure ())
  · simp only [zero, ne_eq, not_false_eq_true, decide_true, if_true] at sent ⊢
    exact Emits.cons sent (Emits.last inner)

theorem PostOpAttrT.wire_message (a : PostOpAttrT) : a.message.wire =
    if a.follow ≠ 0 then [beBool true, a.attributes.wire].flatten else beBool false := by
  rw [PostOpAttrT.message]
  split <;> rfl

theorem PreOpAttrT.wire_message (a : PreOpAttrT) : a.message.wire =
    if a.check ≠ 0 then [beBool true, a.attributes.wire].flatten else beBool false := by
  rw [PreOpAttrT.message]
  split <;> rfl

theorem xdrPackPostOpAttr_emits (a : PostOpAttrT) :
    Emits (writing pos depth) (xdrPackPostOpAttr a) () a.message.wire := by
  rw [PostOpAttrT.wire_message]
  exact packFlagged_emits (xdrPackFattr3_emits a.attributes)

/-- A false flag hides the attributes that the destination keeps. -/
theorem xdrUnpackPostOpAttr_reads (dest a : PostOpAttrT) :
    Reads (reading depth) (xdrUnpackPostOpAttr dest) a.message.wire (·.message = a.message) := by
  by_cases zero : a.follow = 0
  · have hidden : a.message = {} := if_neg (not_not.mpr zero)
    rw [hidden]
    exact .ending (intoBool_reads _ false) <| .pure rfl
  · have shown : a.message = ⟨true, a.attributes⟩ := if_pos zero
    rw [shown]
    exact .field (intoBool_reads _ true) <| .field (xdrUnpackFattr3_reads _ _) <| .done rfl

theorem xdrPackWccAttr_emits (a : WccAttr) : Emits (writing pos depth) (xdrPackWccAttr a) () a.wire :=
  .cons (xdrPackUint64_emits _) <| .cons (xdrPackNfstime3_emits _) <| .last (xdrPackNfstime3_emits _)

theorem xdrUnpackWccAttr_reads (dest a : WccAttr) :
    Reads (reading depth) (xdrUnpackWccAttr dest) a.wire (· = a) :=
  .field (intoUint64_reads _ _) <| .field (xdrUnpackNfstime3_reads _ _) <|
  .field (xdrUnpackNfstime3_reads _ _) <| .done rfl

theorem xdrPackPreOpAttr_emits (a : PreOpAttrT) :
    Emits (writing pos depth) (xdrPackPreOpAttr a) () a.message.wire := by
  rw [PreOpAttrT.wire_message]
  exact packFlagged_emits (xdrPackWccAttr_emits a.attributes)

/-- The attributes before the call hide in the same way as those after it. -/
theorem xdrUnpackPreOpAttr_reads (dest a : PreOpAttrT) :
    Reads (reading depth) (xdrUnpackPreOpAttr dest) a.message.wire (·.message = a.message) := by
  by_cases zero : a.check = 0
  · have hidden : a.message = {} := if_neg (not_not.mpr zero)
    rw [hidden]
    exact .ending (intoBool_reads _ false) <| .pure rfl
  · have shown : a.message = ⟨true, a.attributes⟩ := if_pos zero
    rw [shown]
    exact .field (intoBool_reads _ true) <| .field (xdrUnpackWccAttr_reads _ _) <| .done rfl

theorem xdrPackWccData_emits (d : WccDataT) :
    Emits (writing pos depth) (xdrPackWccData d) () d.message.wire :=
  .cons (xdrPackPreOpAttr_emits _) <| .last (xdrPackPostOpAttr_emits _)

/-- Both parts are compared as far as their flags show them. -/
theorem xdrUnpackWccData_reads (dest d : WccDataT) :
    Reads (reading depth) (xdrUnpackWccData dest) d.message.wire (·.message = d.message) := by
  refine .cons (xdrUnpackPreOpAttr_reads _ d.before) fun _ sameBefore => ?_
  refine .cons (xdrUnpackPostOpAttr_reads _ d.after) fun _ sameAfter => ?_
  exact .done (by rw [WccDataT.message, WccDataT.message, sameBefore, sameAfter])

/-- An attribute that is not set is only its false flag. -/
theorem packWhen_emits {α : Type} {set : Int32} {value : α} {pack : Run Unit} {wire : α → Bytes}
    (inner : Emits (writing pos depth) pack () (wire value)) :
    Emits (writing pos depth) (packWhen set pack) () (optionalWire wire (whenSet set value)) := by
  have same : optionalWire wire (whenSet set value) =
      if set ≠ 0 then [beBool true, wire value].flatten else beBool false := by
    rw [whenSet]
    split <;> rfl
  rw [same]
  exact packFlagged_emits inner

/-- A time that the client sets travels behind a word of its own. -/
theorem packTime_emits (set : Int32) (time : Nfstime3) :
    Emits (writing pos depth) (packTime set time) () (timeWire (whenSet set time)) := by
  unfold packTime whenSet
  split
  · exact .cons (xdrPackUint32_emits 2) <| .last (xdrPackNfstime3_emits time)
  · exact .finishing (xdrPackUint32_emits 0) <| .pure ()

theorem xdrPackSattr3_emits (s : Sattr3T) :
    Emits (writing pos depth) (xdrPackSattr3 s) () (sattr3Wire s.message) :=
  .cons (packWhen_emits (xdrPackUint32_emits _)) <| .cons (packWhen_emits (xdrPackUint32_emits _)) <|
  .cons (packWhen_emits (xdrPackUint32_emits _)) <| .cons (packWhen_emits (xdrPackUint64_emits _)) <|
  .cons (packTime_emits _ _) <| .last (packTime_emits _ _)

/-- A false flag keeps the old value, which is then not set. -/
theorem unpackWhen_reads {α : Type} {unpack : Run (Option α)} {wire : α → Bytes} (flag set : Int32)
    (prior value : α) (inner : Reads (reading depth) unpack (wire value) (· = some value)) :
    Reads (reading depth) (unpackWhen flag prior unpack) (optionalWire wire (whenSet set value))
      fun got => whenSet got.1 got.2 = whenSet set value := by
  by_cases zero : set = 0
  · have hidden : whenSet set value = none := if_neg (not_not.mpr zero)
    rw [hidden]
    exact .ending (intoBool_reads _ false) <| .pure rfl
  · have shown : whenSet set value = some value := if_pos zero
    rw [shown]
    exact .field (intoBool_reads _ true) <| .field (into_reads prior inner) <| .done rfl

theorem unpackTime_reads (timeHow : UInt32) (set : Int32) (prior time : Nfstime3) :
    Reads (reading depth) (unpackTime timeHow prior) (timeWire (whenSet set time))
      fun got => whenSet got.2.1 got.2.2 = whenSet set time := by
  by_cases zero : set = 0
  · have hidden : whenSet set time = none := if_neg (not_not.mpr zero)
    rw [hidden]
    exact .ending (intoUint32_reads _ 0) <| .pure rfl
  · have shown : whenSet set time = some time := if_pos zero
    rw [shown]
    exact .field (intoUint32_reads _ 2) <| .field (xdrUnpackNfstime3_reads _ _) <| .done rfl

/-- All six attributes return, set or not. -/
theorem xdrUnpackSattr3_reads (dest s : Sattr3T) :
    Reads (reading depth) (xdrUnpackSattr3 dest) (sattr3Wire s.message) (·.message = s.message) := by
  refine .silent uninitialized_reads fun _ _ => ?_
  refine .cons (unpackWhen_reads _ s.modeSet _ s.mode (xdrUnpackUint32_reads _)) fun _ sameMode => ?_
  refine .cons (unpackWhen_reads _ s.uidSet _ s.uid (xdrUnpackUint32_reads _)) fun _ sameUid => ?_
  refine .cons (unpackWhen_reads _ s.gidSet _ s.gid (xdrUnpackUint32_reads _)) fun _ sameGid => ?_
  refine .cons (unpackWhen_reads _ s.sizeSet _ s.size (xdrUnpackUint64_reads _)) fun _ sameSize => ?_
  refine .silent uninitialized_reads fun _ _ => ?_
  refine .cons (unpackTime_reads _ s.atimeSet _ s.atime) fun _ sameAtime => ?_
  refine .cons (unpackTime_reads _ s.mtimeSet _ s.mtime) fun _ sameMtime => ?_
  exact .done (by simp only [Sattr3T.message, sameMode, sameUid, sameGid, sameSize, sameAtime, sameMtime])

end Nfs3Rpc.Csuite
