import Nfs3Rpc.Encoding.Programs
import Nfs3Rpc.Format.Csuite.Wire

namespace Nfs3Rpc.Csuite
open Encoding

/-- A buffer that only these writers have filled holds whole words. -/
def writing (pos depth : Nat) : Writing Machine :=
  fun machine done => machine.buf = ⟨done, pos⟩ ∧ machine.depth = depth ∧ 4 ∣ done.length

def reading (depth : Nat) : Reading Machine :=
  fun machine before rest => machine.buf = ⟨before ++ rest, before.length⟩ ∧ machine.depth = depth

variable {pos depth : Nat}

/-- The machine is determined by its buffer, its stack, and its depth. -/
theorem writing_iff {machine : Machine} {done : Bytes} :
    writing pos depth machine done ↔
      (∃ stack, machine = ⟨⟨done, pos⟩, stack, depth⟩) ∧ 4 ∣ done.length := by
  obtain ⟨buf, stack, deep⟩ := machine
  constructor
  · intro held
    obtain ⟨rfl, rfl, aligned⟩ := held
    exact ⟨⟨stack, rfl⟩, aligned⟩
  · intro held
    obtain ⟨⟨_, same⟩, aligned⟩ := held
    cases same
    exact ⟨rfl, rfl, aligned⟩

theorem append_emits (bytes : Bytes) (whole : 4 ∣ bytes.length) :
    Emits (writing pos depth) (append bytes) () bytes := by
  intro machine done held
  obtain ⟨buf, deep, aligned⟩ := held
  refine ⟨{ machine with buf.data := machine.buf.data ++ bytes }, rfl, ?_, deep, ?_⟩
  · simp only [buf]
  · rw [List.length_append]
    exact Nat.dvd_add aligned whole

theorem xdrPackUint32_emits (val : UInt32) : Emits (writing pos depth) (xdrPackUint32 val) () (be32 val) :=
  append_emits _ (by simp)

theorem xdrPackInt32_emits (val : Int32) :
    Emits (writing pos depth) (xdrPackInt32 val) () (be32 val.toUInt32) :=
  xdrPackUint32_emits _

theorem xdrPackUint64_emits (val : UInt64) : Emits (writing pos depth) (xdrPackUint64 val) () (be64 val) :=
  append_emits _ (by simp)

theorem xdrPackBool_emits (val : Int32) :
    Emits (writing pos depth) (xdrPackBool val) () (beBool (val ≠ 0)) := by
  have wire : beBool (val ≠ 0) = be32 (if val ≠ 0 then 1 else 0) := by
    by_cases zero : val = 0 <;> simp [beBool, zero]
  rw [wire]
  exact xdrPackUint32_emits _

/-- A copy that stays inside its block appends the bytes. -/
theorem xdrPackBytes_run {source : Ptr} {len : Nat} {data : Bytes} (length : data.length = len)
    (holds : len ≠ 0 → ∃ block, source = .block block ∧ data <+: block)
    (done : Bytes) (stack : Nat → UInt32) :
    xdrPackBytes source len ⟨⟨done, pos⟩, stack, depth⟩ =
      .ok () ⟨⟨done ++ data, pos⟩, stack, depth⟩ := by
  by_cases zero : len = 0
  · obtain rfl : data = [] := List.eq_nil_of_length_eq_zero (length.trans zero)
    have skips : ¬ (len > 0 ∧ source ≠ .null) := by omega
    rw [xdrPackBytes, if_neg skips, List.append_nil]
    rfl
  · obtain ⟨block, rfl, rest, rfl⟩ := holds zero
    have copies : len > 0 ∧ Ptr.block (data ++ rest) ≠ .null := ⟨Nat.pos_of_ne_zero zero, by simp⟩
    have inside : len ≤ (data ++ rest).length := by
      rw [List.length_append]
      omega
    have taken : (data ++ rest).take len = data := by
      rw [← length, List.take_left]
    have read : readBlock (.block (data ++ rest)) len ⟨⟨done, pos⟩, stack, depth⟩ =
        .ok data ⟨⟨done, pos⟩, stack, depth⟩ := by
      rw [readBlock, if_pos inside, taken]
      rfl
    rw [xdrPackBytes, if_pos copies, bind_of_ok read]
    rfl

/-- An aligned buffer pads a value to its own length. -/
theorem pad_emits {source : Ptr} {len : UInt32} {data : Bytes} (length : data.length = len.toNat)
    (holds : len.toNat ≠ 0 → ∃ block, source = .block block ∧ data <+: block) :
    Emits (writing pos depth) (do xdrPackUint32 len; xdrPackBytes source len.toNat; padTo4Bytes) ()
      (opaqueBytes data) := by
  intro machine done view
  obtain ⟨⟨stack, rfl⟩, aligned⟩ := writing_iff.mp view
  have copy := @xdrPackBytes_run pos depth source len.toNat data length holds (done ++ be32 len) stack
  have pad : padding (done ++ be32 len ++ data).length = padding data.length := by
    simp only [List.length_append, be32_length, padding]
    omega
  have wire : done ++ be32 len ++ data ++ List.replicate (padding data.length) 0 =
      done ++ opaqueBytes data := by
    rw [opaqueBytes, padded, length, UInt32.ofNat_toNat]
    simp only [List.append_assoc]
  refine ⟨⟨⟨done ++ opaqueBytes data, pos⟩, stack, depth⟩, ?_, writing_iff.mpr ⟨⟨stack, rfl⟩, ?_⟩⟩
  · change (xdrPackBytes source len.toNat >>= _) ⟨⟨done ++ be32 len, pos⟩, stack, depth⟩ = _
    rw [bind_of_ok copy]
    change EStateM.Result.ok () (Machine.mk ⟨done ++ be32 len ++ data ++
      List.replicate (padding (done ++ be32 len ++ data).length) 0, pos⟩ stack depth) = _
    rw [pad, wire]
  · rw [List.length_append]
    exact Nat.dvd_add aligned (opaqueBytes_dvd data)

theorem Ptr.bytes_length {data : Ptr} {len : UInt32} (holds : data.Holds len) :
    (data.bytes len).length = len.toNat := by
  by_cases zero : len = 0
  · subst zero
    cases data <;> simp [Ptr.bytes]
  · obtain ⟨block, rfl, inside⟩ := holds.2 zero
    simp [Ptr.bytes, inside]

/-- A block of exactly this length holds its own bytes. -/
theorem bytes_whole {data : Bytes} {len : UInt32} (size : data.length = len.toNat) :
    (Ptr.block data).bytes len = data := by
  rw [Ptr.bytes, ← size, List.take_length]

theorem xdrPackOpaque_emits (data : Ptr) (len : UInt32) (holds : data.Holds len) :
    Emits (writing pos depth) (xdrPackOpaque data len) () (opaqueBytes (data.bytes len)) := by
  apply pad_emits (Ptr.bytes_length holds)
  intro positive
  obtain ⟨block, rfl, inside⟩ := holds.2 fun zero => positive (by rw [zero]; rfl)
  exact ⟨block, rfl, List.take_prefix _ _⟩

/-- The string that travels is cut at its length modulo 2 ^ 32. -/
theorem xdrPackCstring_emits (s : Ptr) (isString : s.IsString) :
    Emits (writing pos depth) (xdrPackCstring s) () (opaqueBytes (clip s.cstring)) := by
  rcases isString with rfl | ⟨data, rfl, terminated⟩
  · exact @pad_emits pos depth .null 0 [] rfl fun positive => absurd rfl positive
  · have length : (clip (Ptr.block data).cstring).length =
        (UInt32.ofNat (data.takeWhile (· != 0)).length).toNat := by
      rw [UInt32.toNat_ofNat', clip, List.length_take]
      exact Nat.min_eq_left (Nat.mod_le _ _)
    have inside : clip (Ptr.block data).cstring <+: data :=
      (List.take_prefix _ _).trans (List.takeWhile_prefix _)
    have counts : strlen (.block data) = pure (data.takeWhile (· != 0)).length := if_pos terminated
    have program : xdrPackCstring (.block data) = (do
        xdrPackUint32 (UInt32.ofNat (data.takeWhile (· != 0)).length)
        xdrPackBytes (.block data) (UInt32.ofNat (data.takeWhile (· != 0)).length).toNat
        padTo4Bytes) := by
      rw [xdrPackCstring, if_neg (by simp), counts]
      rfl
    rw [program]
    exact pad_emits length fun _ => ⟨data, rfl, inside⟩

theorem xdrPackVerifier_emits (v : Verifier) :
    Emits (writing pos depth) (xdrPackVerifier v) () v.data := by
  intro machine done view
  obtain ⟨⟨stack, rfl⟩, aligned⟩ := writing_iff.mp view
  refine ⟨_, xdrPackBytes_run v.eight (fun _ => ⟨v.data, rfl, List.prefix_rfl⟩) done stack, ?_⟩
  refine writing_iff.mpr ⟨⟨stack, rfl⟩, ?_⟩
  rw [List.length_append, v.eight]
  omega

theorem uninitialized_reads : Reads (reading depth) uninitialized [] fun _ => True := by
  intro machine before rest held
  obtain ⟨buf, deep⟩ := held
  refine ⟨machine.stack 0, _, rfl, trivial, ?_, deep⟩
  simpa using buf

theorem free_reads (pointer : Ptr) (owned : pointer.Owned) :
    Reads (reading depth) (free pointer) [] fun _ => True := by
  cases pointer with
  | null => exact Reads.pure trivial
  | block data => exact Reads.pure trivial
  | wild => exact absurd rfl owned

/-- The space check passes. -/
theorem fetch_enough {count : Nat} {machine : Machine} (space : machine.buf.pos + count ≤ machine.buf.data.length) :
    fetch count machine = .ok (some ((machine.buf.data.drop machine.buf.pos).take count))
      { machine with buf.pos := machine.buf.pos + count } := by
  simp only [fetch, get_bind, if_pos space]
  rfl

/-- The space check fails. -/
theorem fetch_missing {count : Nat} {machine : Machine}
    (short : ¬ machine.buf.pos + count ≤ machine.buf.data.length) :
    fetch count machine = .ok none machine := by
  simp only [fetch, get_bind, if_neg short]
  rfl

theorem fetch_reads (data : Bytes) : Reads (reading depth) (fetch data.length) data (· = some data) := by
  intro machine before rest held
  obtain ⟨buf, deep⟩ := held
  have space : machine.buf.pos + data.length ≤ machine.buf.data.length := by
    simp only [buf, List.length_append]
    omega
  refine ⟨_, { machine with buf.pos := machine.buf.pos + data.length }, ?_, rfl, ?_, deep⟩
  · rw [fetch_enough space, buf, List.drop_left, List.take_left]
  · simp [buf]

theorem xdrUnpackUint32_reads (val : UInt32) :
    Reads (reading depth) xdrUnpackUint32 (be32 val) (· = some val) :=
  Reads.returning (fetch_reads (be32 val)) (congrArg some (word_be32 val))

theorem xdrUnpackInt32_reads (val : Int32) :
    Reads (reading depth) xdrUnpackInt32 (be32 val.toUInt32) (· = some val) :=
  Reads.returning (xdrUnpackUint32_reads _) (by simp)

theorem xdrUnpackUint64_reads (val : UInt64) :
    Reads (reading depth) xdrUnpackUint64 (be64 val) (· = some val) :=
  Reads.returning (fetch_reads (be64 val)) (congrArg some (by simpa using leadingHyper_be64 val []))

theorem xdrUnpackBool_reads (val : Bool) :
    Reads (reading depth) xdrUnpackBool (beBool val) (· = some (if val then 1 else 0)) := by
  apply Reads.returning (xdrUnpackUint32_reads _)
  cases val <;> rfl

theorem into_reads {α : Type} {unpack : Run (Option α)} {wire : Bytes} {value : α} (prior : α)
    (inner : Reads (reading depth) unpack wire (· = some value)) :
    Reads (reading depth) (into prior unpack) wire (· = value) :=
  Reads.returning inner rfl

theorem intoUint32_reads (prior val : UInt32) :
    Reads (reading depth) (into prior xdrUnpackUint32) (be32 val) (· = val) :=
  into_reads prior (xdrUnpackUint32_reads val)

theorem intoUint64_reads (prior val : UInt64) :
    Reads (reading depth) (into prior xdrUnpackUint64) (be64 val) (· = val) :=
  into_reads prior (xdrUnpackUint64_reads val)

/-- A flag arrives as zero or one. -/
theorem intoBool_reads (prior : Int32) (val : Bool) :
    Reads (reading depth) (into prior xdrUnpackBool) (beBool val) (· = if val then 1 else 0) :=
  into_reads prior (xdrUnpackBool_reads val)

theorem skipPadding_reads (data : Bytes) :
    Reads (reading depth) (skipPadding data.length) (List.replicate (padding data.length) 0) fun _ => True := by
  intro machine before rest held
  obtain ⟨buf, deep⟩ := held
  refine ⟨(), { machine with buf.pos := machine.buf.pos + padding data.length }, rfl, trivial, ?_, deep⟩
  simp [buf]

theorem opaqueBytes_fields (data : Bytes) :
    opaqueBytes data = [be32 (UInt32.ofNat data.length), data, List.replicate (padding data.length) 0].flatten := by
  simp [opaqueBytes, padded]

theorem toNat_length {data : Bytes} (short : Short data) : (UInt32.ofNat data.length).toNat = data.length := by
  rw [UInt32.toNat_ofNat', Nat.mod_eq_of_lt short]

theorem xdrUnpackOpaque_reads (prior : Ptr) (len : UInt32) (data : Bytes) (short : Short data) :
    Reads (reading depth) (xdrUnpackOpaque prior len) (opaqueBytes data)
      (· = (true, .block data, UInt32.ofNat data.length)) := by
  rw [opaqueBytes_fields]
  apply Reads.field (xdrUnpackUint32_reads _)
  simp only [toNat_length short]
  refine Reads.field (fetch_reads data) (Reads.cons (skipPadding_reads data) fun _ _ => ?_)
  exact Reads.done rfl

theorem wraps_iff {s : Bytes} (short : Short s) :
    (UInt32.ofNat s.length + 1).toNat < s.length + 1 ↔ ¬ Terminates s := by
  have bound : s.length < 2 ^ 32 := short
  simp only [Terminates, UInt32.toNat_add, UInt32.toNat_ofNat', UInt32.toNat_one]
  omega

/-- A string of 2 ^ 32 - 1 bytes overflows its block; each shorter one arrives with its terminator. -/
theorem xdrUnpackCstring_decodes (s : Bytes) (short : Short s) :
    Decodes (reading depth) xdrUnpackCstring (opaqueBytes s) (Terminates s) (· = some (.block (s ++ [0]))) := by
  rw [opaqueBytes_fields]
  apply Decodes.field (xdrUnpackUint32_reads _)
  simp only [toNat_length short]
  apply Decodes.field (fetch_reads s)
  dsimp only
  by_cases terminates : Terminates s
  · rw [if_neg (mt (wraps_iff short).mp (not_not.mpr terminates))]
    exact ⟨fun _ => .cons (skipPadding_reads s) fun _ _ => .done rfl, fun broken => absurd terminates broken⟩
  · rw [if_pos ((wraps_iff short).mpr terminates)]
    exact ⟨fun terminated => absurd terminated terminates, fun _ machine _ _ _ => ⟨.heapOverflow, machine, rfl⟩⟩

theorem intoCstring_decodes (prior : Ptr) (s : Bytes) (short : Short s) :
    Decodes (reading depth) (into prior xdrUnpackCstring) (opaqueBytes s) (Terminates s)
      (· = .block (s ++ [0])) :=
  (xdrUnpackCstring_decodes s short).finishing fun _ same => Reads.pure (by rw [same]; rfl)

theorem xdrUnpackVerifier_reads (v : Verifier) :
    Reads (reading depth) xdrUnpackVerifier v.data (· = v) := by
  intro machine before rest held
  obtain ⟨buf, deep⟩ := held
  have space : machine.buf.pos + 8 ≤ machine.buf.data.length := by
    simp only [buf, List.length_append, v.eight]
    omega
  have taken : (machine.buf.data.drop machine.buf.pos).take 8 = v.data := by
    simp only [buf, List.drop_left]
    rw [← v.eight, List.take_left]
  refine ⟨v, { machine with buf.pos := machine.buf.pos + 8 }, ?_, rfl, ?_, deep⟩
  · simp only [xdrUnpackVerifier, get_bind, dif_pos space,
      taken]
    rfl
  · simp [buf, v.eight]

end Nfs3Rpc.Csuite
