import Nfs3Rpc.Proof.Builtin.Native
import Nfs3Rpc.Proof.Csuite.Native

namespace Nfs3Rpc
open Encoding

/-- Both suites append the encoding of each item, and whole words only, where the compiler tells of a big-endian
host. -/
theorem primitives_conform (compiler : Compiler) (tells : compiler.Tells) :
    (∀ items, 4 ∣ (Builtin.Native.packItems compiler items .empty).buffer.length) ∧
    (∀ (items : List Item) (item : Item), item.Fits →
      let buf := Builtin.Native.packItems compiler items .empty
      Builtin.Native.packItem compiler item buf = .ok () ⟨buf.buffer ++ item.wire, buf.pos⟩ ∧
        4 ∣ (buf.buffer ++ item.wire).length) ∧
    ∀ (start machine : Csuite.Machine) (packs : List Csuite.Pack), start.buf = ⟨[], 0⟩ →
      (∀ pack ∈ packs, pack.Whole) → Csuite.Native.runPacks compiler packs start = .ok () machine →
      4 ∣ machine.buf.data.length ∧
      ∀ (pack : Csuite.Pack) (item : Item), pack.Carries item → item.Fits →
        ∃ next, Csuite.Native.xdrPack compiler pack machine = .ok () next ∧
        next.buf = ⟨machine.buf.data ++ item.wire, machine.buf.pos⟩ ∧ 4 ∣ next.buf.data.length := by
  have packed : ∀ items, 4 ∣ (Builtin.Native.packItems compiler items .empty).buffer.length := fun items =>
    Builtin.Native.packItems_whole tells items (Nat.dvd_zero 4)
  refine ⟨packed, ?_, ?_⟩
  · intro items item fits
    exact Builtin.Native.packItem_run tells fits (packed items)
  · intro start machine packs empty whole runs
    have started : Csuite.Native.WholeWords start := by
      rw [Csuite.Native.WholeWords, empty]
      exact Nat.dvd_zero 4
    have aligned := (Csuite.Native.runPacks_whole tells whole).returned start started () machine runs
    refine ⟨aligned, ?_⟩
    intro pack item carries fits
    obtain ⟨next, appends, buf, _, after⟩ :=
      Csuite.Native.xdrPack_emits tells carries fits machine machine.buf.data ⟨rfl, rfl, aligned⟩
    refine ⟨next, appends, buf, ?_⟩
    rw [buf]
    exact after

/-- This compiler builds for a big-endian host with the masked shifts. -/
def bigEndianCompiler : Compiler := ⟨.big, some .big, false, false, by decide⟩

/-- Both suites go on after a string of five bytes. -/
theorem primitives_conform_big :
    Builtin.Native.packItem bigEndianCompiler (.uint64 7)
        (Builtin.Native.packItems bigEndianCompiler [.string [1, 2, 3, 4, 5]] .empty) =
      .ok () ⟨[0, 0, 0, 5, 1, 2, 3, 4, 5, 0, 0, 0] ++ [0, 0, 0, 0, 0, 0, 0, 7], 0⟩ ∧
    ∃ machine next, Csuite.Native.runPacks bigEndianCompiler [.cstring (.block [1, 2, 3, 4, 5, 0]), .uint32 9]
        ⟨⟨[], 0⟩, fun _ => 0, 0⟩ = .ok () machine ∧
      Csuite.Native.xdrPack bigEndianCompiler (.bool 3) machine = .ok () next ∧
      next.buf = ⟨[0, 0, 0, 5, 1, 2, 3, 4, 5, 0, 0, 0, 0, 0, 0, 9] ++ [0, 0, 0, 1], 0⟩ ∧
      4 ∣ next.buf.data.length := by
  obtain ⟨_, builtin, csuite⟩ := primitives_conform bigEndianCompiler (by decide)
  have whole : ∀ pack ∈ [Csuite.Pack.cstring (.block [1, 2, 3, 4, 5, 0]), .uint32 9], pack.Whole := by decide
  have continues := (csuite ⟨⟨[], 0⟩, fun _ => 0, 0⟩ _ _ rfl whole rfl).2
  obtain ⟨next, packs, buf, aligned⟩ := continues (.bool 3) _ (.bool 3) trivial
  exact ⟨(builtin [.string [1, 2, 3, 4, 5]] (.uint64 7) trivial).1, _, next, rfl, packs, buf, aligned⟩

/-- This compiler has no macro for the byte order of its big-endian host. -/
def silentCompiler : Compiler := ⟨.big, none, false, false, by decide⟩

/-- There, both suites write the number one with its lowest byte first. -/
theorem silentCompiler_differs :
    (Builtin.Native.packItem silentCompiler (.uint32 1) .empty = .ok () ⟨[1, 0, 0, 0], 0⟩ ∧
      ¬ ∀ (compiler : Compiler) (item : Item), item.Fits →
        Builtin.Native.packItem compiler item .empty = .ok () ⟨item.wire, 0⟩) ∧
    ∀ start : Csuite.Machine, start.buf = ⟨[], 0⟩ →
      ∃ next, Csuite.Native.xdrPack silentCompiler (.uint32 1) start = .ok () next ∧
        next.buf = ⟨[1, 0, 0, 0], 0⟩ := by
  refine ⟨⟨rfl, ?_⟩, ?_⟩
  · intro conforms
    have same := (EStateM.Result.ok.inj (conforms silentCompiler (.uint32 1) trivial)).2
    have wire : [1, 0, 0, 0] = be32 1 := congrArg Builtin.XdrBuffer.buffer same
    exact absurd wire (by decide)
  · rintro ⟨buf, stack, depth⟩ rfl
    exact ⟨_, rfl, rfl⟩

end Nfs3Rpc
