import Nfs3Rpc.Format.Natives
import Nfs3Rpc.Proof.Csuite.Attributes

namespace Nfs3Rpc.Csuite.Native
open Encoding

variable {compiler : Compiler}

theorem hostToNetwork32_memory (tells : compiler.Tells) (val : UInt32) :
    compiler.host.memory32 (hostToNetwork32 compiler val) = be32 val := by
  simp only [hostToNetwork32, nativeBigEndian, decide_eq_true_eq, tells.big_iff]
  exact compiler.host.memory32_network _ val

theorem hostToNetwork64_memory (tells : compiler.Tells) (val : UInt64) :
    compiler.host.memory64 (hostToNetwork64 compiler val) = be64 val := by
  simp only [hostToNetwork64, nativeBigEndian, decide_eq_true_eq, tells.big_iff]
  exact compiler.host.memory64_network _ val

theorem xdrPackUint32_eq (tells : compiler.Tells) : xdrPackUint32 compiler = Csuite.xdrPackUint32 := by
  funext val
  rw [xdrPackUint32, hostToNetwork32_memory tells, Csuite.xdrPackUint32]

theorem xdrPackInt32_eq (tells : compiler.Tells) : xdrPackInt32 compiler = Csuite.xdrPackInt32 := by
  funext val
  rw [xdrPackInt32, xdrPackUint32_eq tells, Csuite.xdrPackInt32]

theorem xdrPackUint64_eq (tells : compiler.Tells) : xdrPackUint64 compiler = Csuite.xdrPackUint64 := by
  funext val
  rw [xdrPackUint64, hostToNetwork64_memory tells, Csuite.xdrPackUint64]

theorem xdrPackBool_eq (tells : compiler.Tells) : xdrPackBool compiler = Csuite.xdrPackBool := by
  funext val
  rw [xdrPackBool, xdrPackUint32_eq tells, Csuite.xdrPackBool]

theorem xdrPackCstring_eq (tells : compiler.Tells) : xdrPackCstring compiler = Csuite.xdrPackCstring := by
  funext s
  rw [xdrPackCstring, xdrPackUint32_eq tells, Csuite.xdrPackCstring]

theorem xdrPackOpaque_eq (tells : compiler.Tells) : xdrPackOpaque compiler = Csuite.xdrPackOpaque := by
  funext data len
  rw [xdrPackOpaque, xdrPackUint32_eq tells, Csuite.xdrPackOpaque]

variable {pos depth : Nat}

/-- On a host that the build knows, the calls are those of the buffer that is modeled without a host. -/
theorem xdrPack_eq (tells : compiler.Tells) : xdrPack compiler = Csuite.xdrPack := by
  funext pack
  cases pack with
  | int32 val => exact congrFun (xdrPackInt32_eq tells) val
  | uint32 val => exact congrFun (xdrPackUint32_eq tells) val
  | uint64 val => exact congrFun (xdrPackUint64_eq tells) val
  | bool val => exact congrFun (xdrPackBool_eq tells) val
  | cstring s => exact congrFun (xdrPackCstring_eq tells) s
  | varOpaque data len => exact congrFun (congrFun (xdrPackOpaque_eq tells) data) len
  | bytes data len => rfl

/-- A call whose arguments carry an item appends the encoding of the item. -/
theorem xdrPack_emits (tells : compiler.Tells) {pack : Pack} {item : Item} (carries : pack.Carries item)
    (fits : item.Fits) : Emits (writing pos depth) (xdrPack compiler pack) () item.wire := by
  rw [xdrPack_eq tells]
  cases carries with
  | int32 val => exact xdrPackInt32_emits val
  | uint32 val => exact xdrPackUint32_emits val
  | uint64 val => exact xdrPackUint64_emits val
  | bool val => exact xdrPackBool_emits val
  | cstring s isString =>
      have emits := @xdrPackCstring_emits pos depth s isString
      rwa [clip_of_short fits] at emits
  | varOpaque data len holds => exact xdrPackOpaque_emits data len holds

def WholeWords (machine : Machine) : Prop := 4 ∣ machine.buf.data.length

theorem append_whole {bytes : Bytes} (whole : 4 ∣ bytes.length) :
    Exits WholeWords (append bytes) (fun _ => WholeWords) fun _ => True := by
  apply Exits.modify
  intro machine aligned
  rw [WholeWords, List.length_append]
  exact Nat.dvd_add aligned whole

/-- Padding fills the last word, whatever was written before. -/
theorem padTo4Bytes_whole : Exits (fun _ => True) padTo4Bytes (fun _ => WholeWords) fun _ => True := by
  apply Exits.modify
  intro machine _
  rw [WholeWords, List.length_append, List.length_replicate]
  exact add_padding_dvd _

/-- Copied bytes have the length that was asked for. -/
theorem readBlock_whole (source : Ptr) (len : Nat) :
    Exits WholeWords (readBlock source len) (fun bytes machine => bytes.length = len ∧ WholeWords machine)
      fun _ => True := by
  cases source with
  | null => exact Exits.throw fun _ _ => trivial
  | wild => exact Exits.throw fun _ _ => trivial
  | block data =>
      by_cases inside : len ≤ data.length
      · rw [readBlock, if_pos inside]
        exact Exits.pure fun _ aligned => ⟨List.length_take_of_le inside, aligned⟩
      · rw [readBlock, if_neg inside]
        exact Exits.throw fun _ _ => trivial

theorem xdrPackBytes_whole {data : Ptr} {len : Nat} (whole : 4 ∣ len) :
    Exits WholeWords (xdrPackBytes data len) (fun _ => WholeWords) fun _ => True := by
  unfold xdrPackBytes
  split
  · apply Exits.bind (readBlock_whole data len)
    intro bytes
    apply Exits.modify
    intro machine copied
    rw [WholeWords, List.length_append, copied.1]
    exact Nat.dvd_add copied.2 whole
  · exact Exits.pure fun _ aligned => aligned

theorem xdrPackCstring_whole (s : Ptr) :
    Exits WholeWords (Csuite.xdrPackCstring s) (fun _ => WholeWords) fun _ => True := by
  have tail : ∀ len : UInt32, Exits (fun _ => True) (do
      Csuite.xdrPackUint32 len
      xdrPackBytes s len.toNat
      padTo4Bytes) (fun _ => WholeWords) fun _ => True := by
    intro len
    apply Exits.bind Exits.anywhere
    intro _
    exact Exits.bind Exits.anywhere fun _ => padTo4Bytes_whole
  by_cases null : s = .null
  · rw [Csuite.xdrPackCstring, if_pos null]
    exact Exits.bind Exits.anywhere tail
  · rw [Csuite.xdrPackCstring, if_neg null]
    exact Exits.bind Exits.anywhere tail

/-- Whatever a call does, the buffer holds whole words when it returns. -/
theorem xdrPack_whole (tells : compiler.Tells) {pack : Pack} (whole : pack.Whole) :
    Exits WholeWords (xdrPack compiler pack) (fun _ => WholeWords) fun _ => True := by
  rw [xdrPack_eq tells]
  cases pack with
  | int32 val => exact append_whole (Nat.dvd_refl 4)
  | uint32 val => exact append_whole (Nat.dvd_refl 4)
  | uint64 val => exact append_whole (Nat.dvd_mul_left 4 2)
  | bool val => exact append_whole (Nat.dvd_refl 4)
  | cstring s => exact xdrPackCstring_whole s
  | varOpaque data len =>
      apply Exits.bind Exits.anywhere
      intro _
      exact Exits.bind Exits.anywhere fun _ => padTo4Bytes_whole
  | bytes data len => exact xdrPackBytes_whole whole

theorem runPacks_whole (tells : compiler.Tells) {packs : List Pack} (whole : ∀ pack ∈ packs, pack.Whole) :
    Exits WholeWords (runPacks compiler packs) (fun _ => WholeWords) fun _ => True := by
  induction packs with
  | nil => exact Exits.pure fun _ aligned => aligned
  | cons pack packs later =>
      obtain ⟨first, rest⟩ := List.forall_mem_cons.mp whole
      exact Exits.bind (xdrPack_whole tells first) fun _ => later rest

end Nfs3Rpc.Csuite.Native
