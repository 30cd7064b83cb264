import Nfs3Rpc.Format.Csuite.Memory
import Nfs3Rpc.Proof.Csuite.Attributes
import Nfs3Rpc.Proof.Csuite.Walk

namespace Nfs3Rpc.Csuite
open Encoding

variable {b : Bytes} {garbage : UInt32 → Prop} {depth pos : Nat}

/-- A well-formed handle is valid, and its pointer can be freed. -/
theorem NfsFh3T.wellFormed_iff {fh : NfsFh3T} : fh.WellFormed ↔ fh.Owned ∧ fh.Valid := by
  constructor
  · intro formed
    exact ⟨formed.1, (em (fh.len = 0)).imp id formed.2⟩
  · intro held
    exact ⟨held.1, held.2.resolve_left⟩

theorem NfsFh3T.WellFormed.sendable {fh : NfsFh3T} (formed : fh.WellFormed) : fh.Sendable := by
  intro packed stack pos depth aligned
  obtain ⟨last, runs, view⟩ :=
    xdrPackNfsFh3_emits fh formed ⟨⟨packed, pos⟩, stack, depth⟩ packed ⟨rfl, rfl, aligned⟩
  obtain ⟨⟨stack', rfl⟩, _⟩ := writing_iff.mp view
  exact ⟨stack', runs⟩

theorem nfsFh3Init_wellFormed : nfsFh3Init.WellFormed :=
  ⟨Ptr.noConfusion, fun positive => absurd rfl positive⟩

theorem readBlock_walks {data : Bytes} {len : Nat} (inside : len ≤ data.length) :
    Walks b garbage depth (readBlock (.block data) len) pos pos (· = data.take len) := by
  rw [readBlock, if_pos inside]
  exact .pure rfl

theorem nfsFh3Set_walks {fh : NfsFh3T} {buf : Ptr} {len : UInt32} (owned : fh.Owned) (backs : buf.Backs len) :
    Walks b garbage depth (nfsFh3Set fh buf len) pos pos NfsFh3T.WellFormed := by
  apply Walks.bind (free_walks owned)
  intro _ _
  rcases backs with rfl | ⟨data, rfl, inside⟩
  · exact .pure nfsFh3Init_wellFormed
  · by_cases positive : len > 0
    · rw [if_pos positive]
      apply Walks.bind (readBlock_walks inside)
      intro copied same
      subst same
      refine .pure ⟨Ptr.noConfusion, fun _ => ⟨_, rfl, ?_⟩⟩
      rw [List.length_take_of_le inside]
    · rw [if_neg positive]
      exact .pure nfsFh3Init_wellFormed

/-- A whole handle is decoded into a block of its own length. -/
theorem xdrUnpackNfsFh3_whole {fh : NfsFh3T} (owned : fh.Owned) (whole : HoldsOpaque b pos) :
    Walks b garbage depth (xdrUnpackNfsFh3 fh) pos (skipOpaque b pos) NfsFh3T.WellFormed := by
  apply (xdrUnpackNfsFh3_walks owned).weaken
  intro got decoded
  obtain ⟨_, _, unpacked⟩ := decoded
  obtain ⟨bytes, data, length⟩ := unpacked.whole whole
  refine ⟨?_, fun _ => ⟨bytes, data, Nat.le_of_eq length.symm⟩⟩
  intro wild
  exact Ptr.noConfusion (data.symm.trans wild)

/-- A handle that is cut off leaves a length without data. -/
theorem xdrUnpackNfsFh3_cut {fh : NfsFh3T} (owned : fh.Owned) (cut : ¬ HoldsOpaque b pos) :
    Walks b (· = 1) depth (xdrUnpackNfsFh3 fh) pos (skipOpaque b pos) fun got => ¬ got.Valid := by
  apply (xdrUnpackNfsFh3_walks owned).weaken
  intro got decoded
  obtain ⟨_, rfl, unpacked⟩ := decoded
  intro valid
  rcases valid with zero | ⟨data, block, _⟩
  · have length : got.len = if pos + 4 ≤ b.length then wordAt b pos else 1 := unpacked.length
    rw [show got.len = 0 from zero] at length
    by_cases inside : pos + 4 ≤ b.length
    · rw [if_pos inside] at length
      refine cut ⟨inside, ?_⟩
      rw [← length]
      exact inside
    · rw [if_neg inside] at length
      exact absurd length (by decide)
  · exact Ptr.noConfusion (block.symm.trans (unpacked.pointer cut))

/-- Every uninitialized local gets one of these words. -/
def Filled (garbage : UInt32 → Prop) (machine : Machine) : Prop := ∀ index, garbage (machine.stack index)

theorem Walks.filled {α : Type} {program : Run α} {result : α → Prop}
    (walks : ∀ b depth pos, ∃ stop, Walks b garbage depth program pos stop result) :
    Returns (Filled garbage) program fun value machine => Filled garbage machine ∧ result value := by
  intro machine filled
  obtain ⟨stop, inner⟩ := walks machine.buf.data machine.depth machine.buf.pos
  obtain ⟨value, last, runs, stands, holds⟩ := inner machine ⟨rfl, filled, rfl⟩
  exact ⟨value, last, runs, stands.garbage, holds⟩

/-- A decoder call starts at the cursor of its buffer. -/
theorem HandleOp.unpack_returns {fh : NfsFh3T} {buf : XdrBufT} {stop : Nat} {result : NfsFh3T → Prop}
    (walks : ∀ depth, Walks buf.data garbage depth (xdrUnpackNfsFh3 fh) buf.pos stop result) :
    Returns (Filled garbage) ((HandleOp.unpack buf).apply fh) fun got machine =>
      Filled garbage machine ∧ result got := by
  intro machine filled
  obtain ⟨got, last, runs, stands, holds⟩ := walks machine.depth { machine with buf } ⟨rfl, filled, rfl⟩
  exact ⟨got, last, runs, stands.garbage, holds⟩

theorem HandleOp.apply_keeps {op : HandleOp} {fh : NfsFh3T} (legal : op.Legal) (whole : op.Whole)
    (formed : fh.WellFormed) :
    Returns (Filled garbage) (op.apply fh) fun got machine => Filled garbage machine ∧ got.WellFormed := by
  cases op with
  | set buf len => exact Walks.filled fun _ _ pos => ⟨pos, nfsFh3Set_walks formed.1 legal⟩
  | destroy =>
      apply Walks.filled
      intro _ _ pos
      refine ⟨pos, (nfsFh3Destroy_walks formed.1).weaken ?_⟩
      intro got same
      rw [same]
      exact nfsFh3Init_wellFormed
  | unpack buf => exact unpack_returns fun _ => xdrUnpackNfsFh3_whole formed.1 whole

/-- Only a decoder call can break a handle. -/
theorem HandleOp.apply_breaks {op : HandleOp} {fh : NfsFh3T} (cut : ¬ op.Whole) (formed : fh.WellFormed) :
    Returns (Filled (· = 1)) (op.apply fh) fun got machine => Filled (· = 1) machine ∧ ¬ got.Valid := by
  cases op with
  | set buf len => exact absurd trivial cut
  | destroy => exact absurd trivial cut
  | unpack buf => exact unpack_returns fun _ => xdrUnpackNfsFh3_cut formed.1 cut

theorem applyAll_keeps {ops : List HandleOp} {fh : NfsFh3T} (legal : ∀ op ∈ ops, op.Legal)
    (whole : ∀ op ∈ ops, op.Whole) (formed : fh.WellFormed) :
    Returns (Filled garbage) (applyAll ops fh) fun got machine => Filled garbage machine ∧ got.WellFormed := by
  induction ops generalizing fh with
  | nil => exact Returns.pure fun _ filled => ⟨filled, formed⟩
  | cons op ops recurse =>
      apply Returns.bind (HandleOp.apply_keeps (legal op List.mem_cons_self) (whole op List.mem_cons_self) formed)
      intro got machine held
      exact recurse (fun other member => legal other (List.mem_cons_of_mem op member))
        (fun other member => whole other (List.mem_cons_of_mem op member)) held.2 machine held.1

/-- The first decoder call without a whole handle ends a run with an invalid handle. -/
theorem applyAll_breaks {ops : List HandleOp} (legal : ∀ op ∈ ops, op.Legal) (cut : ¬ ∀ op ∈ ops, op.Whole) :
    ∃ done, done <+: ops ∧ ∀ fh : NfsFh3T, fh.WellFormed →
      Returns (Filled (· = 1)) (applyAll done fh) fun got _ => ¬ got.Valid := by
  induction ops with
  | nil => exact absurd (List.forall_mem_nil _) cut
  | cons op ops recurse =>
      by_cases whole : op.Whole
      · have later : ¬ ∀ other ∈ ops, other.Whole := fun all => cut (List.forall_mem_cons.mpr ⟨whole, all⟩)
        obtain ⟨done, before, breaks⟩ :=
          recurse (fun other member => legal other (List.mem_cons_of_mem op member)) later
        refine ⟨op :: done, List.cons_prefix_cons.mpr ⟨rfl, before⟩, fun fh formed => ?_⟩
        apply Returns.bind (HandleOp.apply_keeps (legal op List.mem_cons_self) whole formed)
        intro got machine held
        exact breaks got held.2 machine held.1
      · refine ⟨[op], List.cons_prefix_cons.mpr ⟨rfl, List.nil_prefix⟩, fun fh formed => ?_⟩
        apply Returns.bind (HandleOp.apply_breaks whole formed)
        intro got
        exact Returns.pure fun _ held => held.2

/-- The operations keep a handle valid exactly as long as each decoder call finds a whole handle. The source of a
`set` is a byte string, so it does not lie in the block that the handle itself owns. -/
theorem handles_stay_valid_iff (start : NfsFh3T) (formed : start.WellFormed) (ops : List HandleOp)
    (legal : ∀ op ∈ ops, op.Legal) :
    nfsFh3Init.WellFormed ∧ (StaysValid start ops ↔ ∀ op ∈ ops, op.Whole) := by
  refine ⟨nfsFh3Init_wellFormed, ?_⟩
  constructor
  · intro stays
    by_contra cut
    obtain ⟨done, before, breaks⟩ := applyAll_breaks legal cut
    obtain ⟨got, last, runs, invalid⟩ := breaks start formed ⟨⟨[], 0⟩, fun _ => 1, 0⟩ fun _ => rfl
    obtain ⟨fh, last', same, valid, _⟩ := stays done before ⟨⟨[], 0⟩, fun _ => 1, 0⟩
    obtain ⟨rfl, rfl⟩ := EStateM.Result.ok.inj (runs.symm.trans same)
    exact invalid valid
  · intro whole done before machine
    obtain ⟨fh, last, runs, _, kept⟩ := @applyAll_keeps (fun _ => True) done start
      (fun op member => legal op (before.subset member)) (fun op member => whole op (before.subset member)) formed
      machine fun _ => trivial
    exact ⟨fh, last, runs, (NfsFh3T.wellFormed_iff.mp kept).2, kept.sendable⟩

theorem handles_stay_valid_small :
    StaysValid nfsFh3Init
      [.set (.block [1, 2, 3]) 2, .unpack ⟨[0, 0, 0, 3, 7, 8, 9], 0⟩, .destroy, .unpack ⟨[0, 0, 0, 0], 0⟩] := by
  apply (handles_stay_valid_iff nfsFh3Init nfsFh3Init_wellFormed _ _).2.mpr
  · have three : HoldsOpaque [0, 0, 0, 3, 7, 8, 9] 0 := by decide
    have empty : HoldsOpaque [0, 0, 0, 0] 0 := by decide
    simp only [List.forall_mem_cons]
    exact ⟨trivial, three, trivial, empty, List.forall_mem_nil _⟩
  · simp only [List.forall_mem_cons]
    exact ⟨.inr ⟨_, rfl, by decide⟩, trivial, trivial, trivial, List.forall_mem_nil _⟩

/-- A length word of four with one byte behind it leaves a handle of four bytes and no data. -/
theorem cut_handle_invalid :
    (∃ got last, xdrUnpackNfsFh3 nfsFh3Init ⟨⟨[0, 0, 0, 4, 9], 0⟩, fun _ => 7, 0⟩ = .ok got last ∧
      ¬ got.Valid ∧
      ∃ final, xdrPackNfsFh3 got ⟨⟨[], 0⟩, fun _ => 7, 0⟩ = .error .invalidRead final) ∧
    ¬ StaysValid nfsFh3Init [.unpack ⟨[0, 0, 0, 4, 9], 0⟩] := by
  have invalid : ¬ NfsFh3T.Valid ⟨.wild, 4, 4⟩ := by
    intro valid
    rcases valid with zero | ⟨_, block, _⟩
    · exact absurd zero (by decide)
    · exact Ptr.noConfusion block
  refine ⟨⟨⟨.wild, 4, 4⟩, _, rfl, invalid, _, rfl⟩, ?_⟩
  intro stays
  obtain ⟨fh, last, runs, valid, _⟩ := stays _ (List.prefix_refl _) ⟨⟨[], 0⟩, fun _ => 7, 0⟩
  obtain ⟨rfl, _⟩ := EStateM.Result.ok.inj runs
  exact invalid valid

end Nfs3Rpc.Csuite
