import Nfs3Rpc.Format.Suites
import Nfs3Rpc.Proof.Builtin.RoundTrip
import Nfs3Rpc.Proof.Csuite.Procedures

namespace Nfs3Rpc
open Encoding Builtin Csuite

variable {α β : Type}

/-- The C++ decoder returns a value with this property when only these bytes are left. -/
def Accepts (program : Xdr α) (before rest : Bytes) (result : α → Prop) : Prop :=
  ∃ value buf, program ⟨before ++ rest, before.length⟩ = .ok value buf ∧ result value

/-- A field that is present in full leaves the question to the next decoder. -/
theorem accepts_field {program : Xdr α} {next : α → Xdr β} {value : α} {wire before rest : Bytes}
    {result : β → Prop} (first : Reads XdrBuffer.reading program wire (· = value)) :
    Accepts (program >>= next) before (wire ++ rest) result ↔
      Accepts (next value) (before ++ wire) rest result := by
  obtain ⟨got, last, runs, same, placed⟩ := first ⟨before ++ (wire ++ rest), before.length⟩ before rest rfl
  have sequence : (program >>= next) ⟨before ++ (wire ++ rest), before.length⟩ =
      next value ⟨before ++ wire ++ rest, (before ++ wire).length⟩ := by
    rw [bind_of_ok runs, same, placed]
  rw [Accepts, Accepts, sequence]

/-- A decoder that finds too few bytes does not return. -/
theorem not_accepts {program : Xdr α} {next : α → Xdr β} {before rest : Bytes} {result : β → Prop}
    (first : Rejects XdrBuffer.reading program rest) : ¬ Accepts (program >>= next) before rest result := by
  intro held
  obtain ⟨value, buf, runs, _⟩ := held
  have rejects : Rejects XdrBuffer.reading (program >>= next) rest := first.bind
  obtain ⟨error, last, fails⟩ := rejects ⟨before ++ rest, before.length⟩ before rfl
  exact nomatch runs.symm.trans fails

theorem unpackUint32_rejects {rest : Bytes} (short : rest.length < 4) :
    Rejects XdrBuffer.reading unpackUint32 rest :=
  (fetch_rejects 4 rest short).bind

theorem unpackOpaque_rejects {rest : Bytes} (short : rest.length < 4) :
    Rejects XdrBuffer.reading unpackOpaque rest :=
  (unpackUint32_rejects short).bind

theorem accepts_pure {value : α} {before rest : Bytes} {result : α → Prop} :
    Accepts (pure value) before rest result ↔ result value := by
  constructor
  · intro held
    obtain ⟨got, buf, runs, holds⟩ := held
    obtain ⟨rfl, _⟩ := EStateM.Result.ok.inj runs
    exact holds
  · intro holds
    exact ⟨value, _, rfl, holds⟩

/-- A decoder that only converts its last value accepts the same bytes. -/
theorem accepts_returning {program : Xdr α} {f : α → β} {before rest : Bytes} {result : β → Prop} :
    Accepts (program >>= fun value => pure (f value)) before rest result ↔
      Accepts program before rest fun value => result (f value) := by
  constructor
  · intro held
    obtain ⟨final, last, runs, holds⟩ := held
    obtain ⟨value, middle, starts, continues⟩ := ok_of_bind_ok runs
    obtain ⟨rfl, _⟩ := EStateM.Result.ok.inj continues
    exact ⟨value, middle, starts, holds⟩
  · intro held
    obtain ⟨value, last, runs, holds⟩ := held
    refine ⟨f value, last, ?_, holds⟩
    rw [bind_of_ok runs]
    rfl

/-- A skip past the end is no error when nothing is read after it. -/
theorem accepts_skipped {value : α} {count : Nat} {before rest : Bytes} {result : α → Prop} :
    Accepts (Builtin.skipPadding count >>= fun _ => pure value) before rest result ↔ result value := by
  constructor
  · intro held
    obtain ⟨got, buf, runs, holds⟩ := held
    obtain ⟨rfl, _⟩ := EStateM.Result.ok.inj runs
    exact holds
  · intro holds
    exact ⟨value, _, rfl, holds⟩

/-- A last opaque value takes as many bytes as its length word says, with or without padding. -/
theorem accepts_lastOpaque {g : Bytes → β} {len : UInt32} {before rest : Bytes} {result : β → Prop} :
    Accepts (unpackOpaque >>= fun data => pure (g data)) before (be32 len ++ rest) result ↔
      len.toNat ≤ rest.length ∧ result (g (rest.take len.toNat)) := by
  simp only [unpackOpaque, bind_assoc, pure_bind]
  rw [accepts_field (unpackUint32_reads len)]
  by_cases inside : len.toNat ≤ rest.length
  · have taken : (rest.take len.toNat).length = len.toNat := List.length_take_of_le inside
    have reads := Builtin.fetch_reads (rest.take len.toNat)
    rw [taken] at reads
    rw [← List.take_append_drop len.toNat rest, accepts_field reads, accepts_skipped]
    simp [inside]
  · have missing := fetch_rejects len.toNat rest (Nat.lt_of_not_le inside)
    exact iff_of_false (not_accepts missing) fun both => inside both.1

/-- The question about a result is one about its `resok` after the status word. -/
theorem interoperates_iff (proc : ProcNum) {pack : Run Unit} (view : proc.Resok → β) {expected : β}
    {tail : Bytes} (okDeserialize : Verifier → Xdr proc.Resok)
    (packs : ∀ pos depth, Emits (writing pos depth) pack () (be32 0 ++ tail))
    (decoder : ∀ uninit prior, proc.deserializeRes uninit prior = Res.deserialize (okDeserialize uninit) prior) :
    Interoperates proc pack view expected ↔
      ∀ uninit, Accepts (okDeserialize uninit) (be32 0) tail (view · = expected) := by
  have sequence : ∀ uninit (prior : Res proc.Resok),
      Accepts (proc.deserializeRes uninit prior) [] (be32 0 ++ tail)
        (fun got => got.status = .NFS3_OK ∧ got.resok.map view = some expected) ↔
      Accepts (okDeserialize uninit) (be32 0) tail (view · = expected) := by
    intro uninit prior
    rw [decoder, Res.deserialize, accepts_field (unpackUint32_reads 0)]
    apply accepts_returning.trans
    simp only [List.nil_append, Option.map_some, Option.some.injEq, Nfsstat3.NFS3_OK, true_and]
  constructor
  · intro interoperates uninit
    obtain ⟨bytes, stack, got, buf, packed, decoded, status, shown⟩ :=
      interoperates uninit ⟨⟨0⟩, none⟩ (fun _ => 0) 0 rfl
    obtain ⟨_, written, placed, _⟩ := packs 0 0 ⟨⟨[], 0⟩, fun _ => 0, 0⟩ [] ⟨rfl, rfl, Nat.dvd_zero 4⟩
    rw [packed] at written
    obtain ⟨_, rfl⟩ := EStateM.Result.ok.inj written
    obtain rfl : bytes = be32 0 ++ tail := congrArg XdrBufT.data placed
    exact (sequence uninit ⟨⟨0⟩, none⟩).mp ⟨got, buf, decoded, status, shown⟩
  · intro accepts uninit prior stack depth fresh
    obtain ⟨_, written, view⟩ := packs 0 depth ⟨⟨[], 0⟩, stack, depth⟩ [] ⟨rfl, rfl, Nat.dvd_zero 4⟩
    obtain ⟨⟨stack', rfl⟩, _⟩ := writing_iff.mp view
    obtain ⟨got, buf, decoded, status, shown⟩ := (sequence uninit prior).mpr (accepts uninit)
    exact ⟨be32 0 ++ tail, stack', got, buf, written, decoded, status, shown⟩

/-- A successful result travels as the word zero and its `resok`. -/
theorem success_emits {ok sent : Type} {packOk : ok → Run Unit} {okWire : sent → Bytes} {value : sent}
    {pos depth : Nat} (res : Csuite.ResT ok) (matching : res.status = .NFS3_OK ↔ res.hasResok ≠ 0)
    (success : res.status = .NFS3_OK)
    (inner : Emits (writing pos depth) (packOk res.resok) () (okWire value)) :
    Emits (writing pos depth) (ResT.pack packOk res) () (be32 0 ++ okWire value) := by
  have emits := ResT.pack_emits res matching inner
  rw [whenSet, if_pos (matching.mp success), success] at emits
  simpa [Nfsstat3.NFS3_OK] using emits

end Nfs3Rpc
