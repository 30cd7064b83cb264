import Nfs3Rpc.Encoding.Triples
import Nfs3Rpc.Format.Csuite.Walk
import Nfs3Rpc.Proof.Csuite.XdrBuf

namespace Nfs3Rpc.Csuite
open Encoding

/-- The cursor stands here, and every uninitialized local gets one of these words. -/
structure Stands (b : Bytes) (garbage : UInt32 → Prop) (depth pos : Nat) (machine : Machine) : Prop where
  buf : machine.buf = ⟨b, pos⟩
  garbage : ∀ index, garbage (machine.stack index)
  depth : machine.depth = depth

/-- The program returns a value of this kind and moves the cursor. -/
def Walks {α : Type} (b : Bytes) (garbage : UInt32 → Prop) (depth : Nat) (program : Run α) (start stop : Nat)
    (result : α → Prop) : Prop :=
  Returns (Stands b garbage depth start) program fun value machine =>
    Stands b garbage depth stop machine ∧ result value

variable {α β : Type} {b : Bytes} {garbage : UInt32 → Prop} {depth start middle stop pos : Nat}

theorem Walks.pure {value : α} {result : α → Prop} (holds : result value) :
    Walks b garbage depth (Pure.pure value) pos pos result :=
  Returns.pure fun _ stands => ⟨stands, holds⟩

theorem Walks.bind {program : Run α} {next : α → Run β} {between : α → Prop} {result : β → Prop}
    (first : Walks b garbage depth program start middle between)
    (second : ∀ value, between value → Walks b garbage depth (next value) middle stop result) :
    Walks b garbage depth (program >>= next) start stop result :=
  Returns.bind first fun value state stands => second value stands.2 state stands.1

theorem Walks.weaken {program : Run α} {strong weak : α → Prop}
    (inner : Walks b garbage depth program start stop strong) (implies : ∀ value, strong value → weak value) :
    Walks b garbage depth program start stop weak :=
  Returns.weaken inner fun value _ stands => ⟨stands.1, implies value stands.2⟩

/-- The program returns from no machine whose cursor stands here. -/
def Hangs (b : Bytes) (garbage : UInt32 → Prop) (depth : Nat) (program : Run α) (pos : Nat) : Prop :=
  NeverReturns (Stands b garbage depth pos) program

theorem Hangs.after {program : Run α} {next : α → Run β} {between : α → Prop}
    (first : Walks b garbage depth program start middle between)
    (second : ∀ value, between value → Hangs b garbage depth (next value) middle) :
    Hangs b garbage depth (program >>= next) start :=
  NeverReturns.after first fun value state stands => second value stands.2 state stands.1

theorem uninitialized_walks : Walks b garbage depth uninitialized pos pos garbage := by
  intro machine stands
  have later : ∀ index, garbage (machine.stack (index + 1)) := fun index => stands.garbage (index + 1)
  exact ⟨machine.stack 0, _, rfl, ⟨stands.buf, later, stands.depth⟩, stands.garbage 0⟩

theorem callDepth_walks : Walks b garbage depth callDepth pos pos (· = depth) := by
  intro machine stands
  exact ⟨machine.depth, machine, rfl, stands, stands.depth⟩

theorem free_walks {pointer : Ptr} (owned : pointer.Owned) :
    Walks b garbage depth (free pointer) pos pos fun _ => True := by
  cases pointer with
  | null => exact .pure trivial
  | block data => exact .pure trivial
  | wild => exact absurd rfl owned

/-- A read moves the cursor when its bytes are there. -/
theorem fetch_walks (count : Nat) :
    Walks b garbage depth (fetch count) pos (skip count b pos)
      (· = if pos + count ≤ b.length then some ((b.drop pos).take count) else none) := by
  intro machine stands
  by_cases space : pos + count ≤ b.length
  · have enough : machine.buf.pos + count ≤ machine.buf.data.length := by
      rw [stands.buf]
      exact space
    refine ⟨_, _, fetch_enough enough, ⟨?_, stands.garbage, stands.depth⟩, ?_⟩
    · rw [skip, if_pos space, stands.buf]
    · rw [if_pos space, stands.buf]
  · have missing : ¬ machine.buf.pos + count ≤ machine.buf.data.length := by
      rw [stands.buf]
      exact space
    refine ⟨none, machine, fetch_missing missing, ⟨?_, stands.garbage, stands.depth⟩, ?_⟩
    · rw [skip, if_neg space, stands.buf]
    · rw [if_neg space]

theorem xdrUnpackUint32_walks :
    Walks b garbage depth xdrUnpackUint32 pos (skip 4 b pos)
      (· = if pos + 4 ≤ b.length then some (wordAt b pos) else none) := by
  apply Walks.bind (fetch_walks 4)
  intro bytes same
  apply Walks.pure
  rw [same]
  split
  · exact congrArg some (leadingWord_take (b.drop pos))
  · rfl

theorem into_walks {unpack : Run (Option α)} (prior : α)
    (inner : Walks b garbage depth unpack start stop fun _ => True) :
    Walks b garbage depth (into prior unpack) start stop fun _ => True :=
  .bind inner fun _ _ => .pure trivial

/-- A word that is missing keeps what the variable held before. -/
theorem intoWord_walks (prior : UInt32) :
    Walks b garbage depth (into prior xdrUnpackUint32) pos (skip 4 b pos)
      (· = if pos + 4 ≤ b.length then wordAt b pos else prior) := by
  apply Walks.bind xdrUnpackUint32_walks
  intro found same
  apply Walks.pure
  rw [same]
  split <;> rfl

theorem intoUint32_walks (prior : UInt32) :
    Walks b garbage depth (into prior xdrUnpackUint32) pos (skip 4 b pos) fun _ => True :=
  (intoWord_walks prior).weaken fun _ _ => trivial

theorem intoUint64_walks (prior : UInt64) :
    Walks b garbage depth (into prior xdrUnpackUint64) pos (skip 8 b pos) fun _ => True :=
  into_walks prior (.bind (fetch_walks 8) fun _ _ => .pure trivial)

/-- A flag that is missing keeps what the local held before. -/
theorem intoBool_walks (prior : Int32) :
    Walks b garbage depth (into prior xdrUnpackBool) pos (skip 4 b pos) fun value =>
      if pos + 4 ≤ b.length then (value ≠ 0 ↔ wordAt b pos ≠ 0) else value = prior := by
  have inner : Walks b garbage depth xdrUnpackBool pos (skip 4 b pos)
      (· = if pos + 4 ≤ b.length then some (if wordAt b pos ≠ 0 then 1 else 0) else none) := by
    apply Walks.bind xdrUnpackUint32_walks
    intro found same
    apply Walks.pure
    rw [same]
    split <;> rfl
  apply Walks.bind inner
  intro found same
  apply Walks.pure
  rw [same]
  by_cases inside : pos + 4 ≤ b.length
  · rw [if_pos inside, if_pos inside]
    by_cases zero : wordAt b pos = 0 <;> simp [zero]
  · rw [if_neg inside, if_neg inside]
    rfl

theorem skip_enough {count : Nat} (space : pos + count ≤ b.length) : skip count b pos = pos + count := if_pos space

theorem skip_missing {count : Nat} (short : ¬ pos + count ≤ b.length) : skip count b pos = pos := if_neg short

/-- Without a length word there is no data. -/
theorem skipOpaque_missing (short : ¬ pos + 4 ≤ b.length) : skipOpaque b pos = pos := by
  rw [skipOpaque, if_neg fun whole => short whole.1, skip_missing short]

theorem skipPadding_walks (len : Nat) :
    Walks b garbage depth (skipPadding len) pos (pos + padding len) fun _ => True := by
  intro machine stands
  have buf : ({ machine.buf with pos := machine.buf.pos + padding len } : XdrBufT) = ⟨b, pos + padding len⟩ := by
    rw [stands.buf]
  exact ⟨(), _, rfl, ⟨buf, stands.garbage, stands.depth⟩, trivial⟩

/-- The opaque and the string decoder come to their bytes in the same way. -/
theorem lengthData_walks {absent : Run α} {cut : UInt32 → Run α} {whole : UInt32 → Bytes → Run α}
    {result : α → Prop} (noLength : ¬ pos + 4 ≤ b.length → Walks b garbage depth absent pos pos result)
    (noData : pos + 4 ≤ b.length → ¬ HoldsOpaque b pos →
      Walks b garbage depth (cut (wordAt b pos)) (pos + 4) (pos + 4) result)
    (data : HoldsOpaque b pos → ∀ bytes, bytes.length = (wordAt b pos).toNat →
      Walks b garbage depth (whole (wordAt b pos) bytes) (pos + 4 + (wordAt b pos).toNat)
        (pos + 4 + (wordAt b pos).toNat + padding (wordAt b pos).toNat) result) :
    Walks b garbage depth (do
      match ← xdrUnpackUint32 with
      | none => absent
      | some len =>
        match ← fetch len.toNat with
        | none => cut len
        | some bytes => whole len bytes) pos (skipOpaque b pos) result := by
  apply Walks.bind xdrUnpackUint32_walks
  intro found same
  subst same
  by_cases inside : pos + 4 ≤ b.length
  · rw [if_pos inside, skip_enough inside]
    apply Walks.bind (fetch_walks _)
    intro bytes same
    subst same
    by_cases space : pos + 4 + (wordAt b pos).toNat ≤ b.length
    · rw [if_pos space, skip_enough space, skipOpaque, if_pos ⟨inside, space⟩]
      apply data ⟨inside, space⟩
      rw [List.length_take_of_le]
      rw [List.length_drop]
      omega
    · rw [if_neg space, skip_missing space, skipOpaque, if_neg fun held => space held.2, skip_enough inside]
      exact noData inside fun held => space held.2
  · rw [if_neg inside, skip_missing inside, skipOpaque_missing inside]
    exact noLength inside

/-- The pointer stays when the data is missing, and the length stays when the length word is missing. -/
structure Unpacked (b : Bytes) (pos : Nat) (data : Ptr) (len : UInt32) (value : Bool × Ptr × UInt32) : Prop where
  whole : HoldsOpaque b pos → ∃ bytes, value.2.1 = .block bytes ∧ bytes.length = value.2.2.toNat
  pointer : ¬ HoldsOpaque b pos → value.2.1 = data
  length : value.2.2 = if pos + 4 ≤ b.length then wordAt b pos else len

theorem xdrUnpackOpaque_walks (data : Ptr) (len : UInt32) :
    Walks b garbage depth (xdrUnpackOpaque data len) pos (skipOpaque b pos) (Unpacked b pos data len) := by
  apply lengthData_walks
  · intro missing
    exact .pure ⟨fun whole => absurd whole.1 missing, fun _ => rfl, (if_neg missing).symm⟩
  · intro inside cut
    exact .pure ⟨fun whole => absurd whole cut, fun _ => rfl, (if_pos inside).symm⟩
  · intro whole bytes length
    apply Walks.bind (skipPadding_walks _)
    intro _ _
    exact .pure ⟨fun _ => ⟨bytes, rfl, length⟩, fun cut => absurd whole cut, (if_pos whole.1).symm⟩

/-- A name that fits its block, or that is cut off, lets the decoder go on. -/
theorem intoCstring_walks (prior : Ptr) (fits : NameFits b pos) :
    Walks b garbage depth (into prior xdrUnpackCstring) pos (skipOpaque b pos) fun _ => True := by
  apply into_walks
  apply lengthData_walks
  · intro _
    exact .pure trivial
  · intro _ _
    exact .pure trivial
  · intro whole bytes _
    have room : ¬ (wordAt b pos + 1).toNat < (wordAt b pos).toNat + 1 := by
      have long : (wordAt b pos).toNat ≠ 2 ^ 32 - 1 := fun long => fits ⟨whole, long⟩
      have bound := (wordAt b pos).toNat_lt
      rw [UInt32.toNat_add, UInt32.toNat_one]
      omega
    rw [if_neg room]
    apply Walks.bind (skipPadding_walks _)
    intro _ _
    exact .pure trivial

/-- A name that is too long for its block ends the run. -/
theorem intoCstring_hangs (prior : Ptr) (long : ¬ NameFits b pos) :
    Hangs b garbage depth (into prior xdrUnpackCstring) pos := by
  obtain ⟨⟨inside, space⟩, size⟩ := not_not.mp long
  have wraps : (wordAt b pos + 1).toNat < (wordAt b pos).toNat + 1 := by
    rw [UInt32.toNat_add, UInt32.toNat_one, size]
    decide
  apply NeverReturns.bind
  apply Hangs.after xdrUnpackUint32_walks
  intro found same
  subst same
  rw [if_pos inside, skip_enough inside]
  apply Hangs.after (fetch_walks _)
  intro bytes same
  subst same
  rw [if_pos space]
  dsimp only
  rw [if_pos wraps]
  exact NeverReturns.bind NeverReturns.throw

theorem nfsFh3Destroy_walks {fh : NfsFh3T} (owned : fh.Owned) :
    Walks b garbage depth (nfsFh3Destroy fh) pos pos (· = {}) :=
  .bind (free_walks owned) fun _ _ => .pure rfl

/-- A handle takes what its two locals hold after the decoder. -/
theorem xdrUnpackNfsFh3_walks {fh : NfsFh3T} (owned : fh.Owned) :
    Walks b garbage depth (xdrUnpackNfsFh3 fh) pos (skipOpaque b pos) fun got =>
      ∃ len, garbage len ∧ Unpacked b pos .wild len (true, got.data, got.len) := by
  apply Walks.bind uninitialized_walks
  intro len word
  apply Walks.bind (xdrUnpackOpaque_walks .wild len)
  intro value unpacked
  apply Walks.bind (nfsFh3Destroy_walks owned)
  intro _ _
  exact .pure ⟨len, word, unpacked.whole, unpacked.pointer, unpacked.length⟩

/-- A field whose value does not matter. -/
theorem Walks.field {program : Run α} {next : α → Run β} {result : β → Prop}
    (first : Walks b garbage depth program start middle fun _ => True)
    (second : ∀ value, Walks b garbage depth (next value) middle stop result) :
    Walks b garbage depth (program >>= next) start stop result :=
  .bind first fun value _ => second value

theorem xdrUnpackNfstime3_walks (t : Nfstime3) :
    Walks b garbage depth (xdrUnpackNfstime3 t) pos (skip 4 b (skip 4 b pos)) fun _ => True :=
  .field (intoUint32_walks _) fun _ => .field (intoUint32_walks _) fun _ => .pure trivial

theorem xdrUnpackSpecdata3_walks (s : Specdata3) :
    Walks b garbage depth (xdrUnpackSpecdata3 s) pos (skip 4 b (skip 4 b pos)) fun _ => True :=
  .field (intoUint32_walks _) fun _ => .field (intoUint32_walks _) fun _ => .pure trivial

theorem xdrUnpackFattr3_walks (attr : Fattr3) :
    Walks b garbage depth (xdrUnpackFattr3 attr) pos (skipFattr3 b pos) fun _ => True :=
  .bind uninitialized_walks fun _ _ => .field (intoUint32_walks _) fun _ => .field (intoUint32_walks _) fun _ =>
    .field (intoUint32_walks _) fun _ => .field (intoUint32_walks _) fun _ => .field (intoUint32_walks _) fun _ =>
    .field (intoUint64_walks _) fun _ => .field (intoUint64_walks _) fun _ =>
    .field (xdrUnpackSpecdata3_walks _) fun _ => .field (intoUint64_walks _) fun _ =>
    .field (intoUint64_walks _) fun _ => .field (xdrUnpackNfstime3_walks _) fun _ =>
    .field (xdrUnpackNfstime3_walks _) fun _ => .field (xdrUnpackNfstime3_walks _) fun _ => .pure trivial

/-- A missing flag counts as a clear flag in a new structure. -/
theorem xdrUnpackPostOpAttr_walks {a : PostOpAttrT} (clear : a.follow = 0) :
    Walks b garbage depth (xdrUnpackPostOpAttr a) pos (skipPostOpAttr b pos) fun _ => True := by
  apply Walks.bind (intoBool_walks a.follow)
  intro follow read
  by_cases set : FlagSet b pos
  · rw [if_pos set.1] at read
    rw [if_pos (read.mpr set.2), skip_enough set.1, skipPostOpAttr, if_pos set]
    exact .field (xdrUnpackFattr3_walks _) fun _ => .pure trivial
  · have zero : ¬ follow ≠ 0 := by
      by_cases inside : pos + 4 ≤ b.length
      · rw [if_pos inside] at read
        exact fun nonzero => set ⟨inside, read.mp nonzero⟩
      · rw [if_neg inside, clear] at read
        exact not_not.mpr read
    rw [if_neg zero, skipPostOpAttr, if_neg set]
    exact .pure trivial

/-- A missing flag of a handle is followed by no length word. -/
theorem unpackHandle_walks {fh : NfsFh3T} (owned : fh.Owned) {next : NfsFh3T → Run α} {result : α → Prop}
    (rest : ∀ got, Walks b garbage depth (next got) (skipPostOpFh3 b pos) stop result) :
    Walks b garbage depth (do
      let has ← uninitialized
      let has ← into has.toInt32 xdrUnpackBool
      let got ← if has ≠ 0 then xdrUnpackNfsFh3 fh else pure fh
      next got) pos stop result := by
  apply Walks.bind uninitialized_walks
  intro word _
  apply Walks.bind (intoBool_walks _)
  intro has read
  by_cases inside : pos + 4 ≤ b.length
  · rw [if_pos inside] at read
    by_cases zero : wordAt b pos = 0
    · have clear : ¬ has ≠ 0 := fun set => read.mp set zero
      have stays : skipPostOpFh3 b pos = skip 4 b pos := if_neg fun set => set.2 zero
      rw [if_neg clear, ← stays]
      exact rest fh
    · have moves : skipPostOpFh3 b pos = skipOpaque b (pos + 4) := if_pos ⟨inside, zero⟩
      rw [if_pos (read.mpr zero), skip_enough inside]
      apply Walks.bind (xdrUnpackNfsFh3_walks owned)
      intro got _
      rw [← moves]
      exact rest got
  · have stays : skipPostOpFh3 b pos = pos := by
      rw [skipPostOpFh3, if_neg fun set => inside set.1, skip_missing inside]
    rw [stays] at rest
    rw [skip_missing inside]
    by_cases set : has ≠ 0
    · rw [if_pos set]
      have reads := @xdrUnpackNfsFh3_walks b garbage depth pos fh owned
      rw [skipOpaque_missing inside] at reads
      exact .bind reads fun got _ => rest got
    · rw [if_neg set]
      exact rest fh

end Nfs3Rpc.Csuite
