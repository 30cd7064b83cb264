import Nfs3Rpc.Format.Natives
import Nfs3Rpc.Proof.Suites.Queues

namespace Nfs3Rpc.Builtin.Native
open Encoding

variable {compiler : Compiler}

/-- A compiler that tells the byte order of a big-endian host lets the build know every host. -/
theorem nativeEndian_host (tells : compiler.Tells) : nativeEndian compiler = compiler.host := by
  have big := tells.big_iff
  unfold nativeEndian
  cases told : compiler.byteOrder with
  | some order =>
      have same : order = compiler.host := compiler.truthful order told
      cases order <;> exact same
  | none =>
      rw [told] at big
      cases host : compiler.host with
      | little => rfl
      | big => exact (Option.some_ne_none _ (big.mpr host).symm).elim

/-- The host stores the converted number in network order. -/
theorem hostToNetwork32_memory (tells : compiler.Tells) (val : UInt32) :
    compiler.host.memory32 (hostToNetwork32 compiler val) = be32 val := by
  rw [hostToNetwork32, nativeEndian_host tells]
  exact compiler.host.memory32_network _ val

theorem hostToNetwork64_memory (tells : compiler.Tells) (val : UInt64) :
    compiler.host.memory64 (hostToNetwork64 compiler val) = be64 val := by
  rw [hostToNetwork64, nativeEndian_host tells]
  exact compiler.host.memory64_network _ val

theorem packUint32_eq (tells : compiler.Tells) : packUint32 compiler = Builtin.packUint32 := by
  funext val
  rw [packUint32, hostToNetwork32_memory tells, Builtin.packUint32]

theorem packInt32_eq (tells : compiler.Tells) : packInt32 compiler = Builtin.packInt32 := by
  funext val
  rw [packInt32, hostToNetwork32_memory tells, Builtin.packInt32]

theorem packUint64_eq (tells : compiler.Tells) : packUint64 compiler = Builtin.packUint64 := by
  funext val
  rw [packUint64, hostToNetwork64_memory tells, Builtin.packUint64]

theorem packBool_eq (tells : compiler.Tells) : packBool compiler = Builtin.packBool := by
  funext val
  rw [packBool, packUint32_eq tells, Builtin.packBool]

theorem packString_eq (tells : compiler.Tells) : packString compiler = Builtin.packString := by
  funext s
  rw [packString, packUint32_eq tells, Builtin.packString]

theorem packOpaque_eq (tells : compiler.Tells) : packOpaque compiler = Builtin.packOpaque := by
  funext data
  rw [packOpaque, packUint32_eq tells, Builtin.packOpaque]

/-- The host packs the items of the buffer that is modeled without a host. -/
theorem packItem_eq (tells : compiler.Tells) : packItem compiler = Builtin.packItem := by
  funext item
  cases item with
  | int32 val => exact congrFun (packInt32_eq tells) val
  | uint32 val => exact congrFun (packUint32_eq tells) val
  | uint64 val => exact congrFun (packUint64_eq tells) val
  | bool val => exact congrFun (packBool_eq tells) val
  | string s => exact congrFun (packString_eq tells) s
  | varOpaque data => exact congrFun (packOpaque_eq tells) data

/-- An item that no length word describes is refused before its first byte. -/
theorem packItem_throws {item : Item} (long : ¬ item.Fits) (buf : XdrBuffer) :
    ∃ error, Builtin.packItem item buf = .error error buf := by
  cases item with
  | string s => exact ⟨_, packString_throws s buf (Nat.le_of_not_lt long)⟩
  | varOpaque data => exact ⟨_, packOpaque_throws data buf (Nat.le_of_not_lt long)⟩
  | int32 val => exact absurd trivial long
  | uint32 val => exact absurd trivial long
  | uint64 val => exact absurd trivial long
  | bool val => exact absurd trivial long

/-- An item with a length word is appended as its encoding. -/
theorem packItem_run (tells : compiler.Tells) {item : Item} (fits : item.Fits) {buf : XdrBuffer}
    (whole : 4 ∣ buf.buffer.length) :
    packItem compiler item buf = .ok () ⟨buf.buffer ++ item.wire, buf.pos⟩ ∧
      4 ∣ (buf.buffer ++ item.wire).length := by
  rw [packItem_eq tells]
  obtain ⟨next, runs, rfl, after⟩ := packItem_emits item fits buf.pos buf buf.buffer ⟨rfl, whole⟩
  exact ⟨runs, after⟩

/-- A call leaves whole words, whether it returns or throws. -/
theorem packItem_whole (tells : compiler.Tells) (item : Item) {buf : XdrBuffer} (whole : 4 ∣ buf.buffer.length) :
    4 ∣ (stateAfter (packItem compiler item) buf).buffer.length := by
  by_cases fits : item.Fits
  · obtain ⟨runs, after⟩ := packItem_run tells fits whole
    rw [stateAfter, runs]
    exact after
  · obtain ⟨error, throws⟩ := packItem_throws fits buf
    rw [stateAfter, packItem_eq tells, throws]
    exact whole

theorem packItems_whole (tells : compiler.Tells) (items : List Item) {buf : XdrBuffer}
    (whole : 4 ∣ buf.buffer.length) : 4 ∣ (packItems compiler items buf).buffer.length := by
  induction items generalizing buf with
  | nil => exact whole
  | cons item items later => exact later (packItem_whole tells item whole)

end Nfs3Rpc.Builtin.Native
