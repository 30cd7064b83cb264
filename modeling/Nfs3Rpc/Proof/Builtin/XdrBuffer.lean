import Nfs3Rpc.Construction.Builtin.XdrBuffer
import Nfs3Rpc.Encoding.Programs

namespace Nfs3Rpc.Builtin
open Encoding

/-- A buffer that only `pack` has filled holds whole words. -/
def XdrBuffer.writing (pos : Nat) : Writing XdrBuffer :=
  fun buf done => buf = ⟨done, pos⟩ ∧ 4 ∣ done.length

/-- The cursor stands between the bytes before it and the rest. -/
def XdrBuffer.reading : Reading XdrBuffer :=
  fun buf before rest => buf = ⟨before ++ rest, before.length⟩

variable {pos : Nat}

theorem append_emits (bytes : Bytes) (whole : 4 ∣ bytes.length) :
    Emits (XdrBuffer.writing pos) (append bytes) () bytes := by
  intro state done held
  obtain ⟨rfl, aligned⟩ := held
  refine ⟨⟨done ++ bytes, pos⟩, rfl, rfl, ?_⟩
  rw [List.length_append]
  exact Nat.dvd_add aligned whole

theorem packUint32_emits (val : UInt32) : Emits (XdrBuffer.writing pos) (packUint32 val) () (be32 val) :=
  append_emits _ (by simp)

theorem packInt32_emits (val : Int32) :
    Emits (XdrBuffer.writing pos) (packInt32 val) () (be32 val.toUInt32) :=
  append_emits _ (by simp)

theorem packUint64_emits (val : UInt64) : Emits (XdrBuffer.writing pos) (packUint64 val) () (be64 val) :=
  append_emits _ (by simp)

theorem packBool_emits (val : Bool) : Emits (XdrBuffer.writing pos) (packBool val) () (beBool val) :=
  packUint32_emits _

/-- An aligned buffer gives a string the padding of its own length. -/
theorem padding_add_aligned {whole : Nat} (aligned : 4 ∣ whole) (length : Nat) :
    padding (whole + length) = padding length := by
  unfold padding
  omega

theorem packString_run (s done : Bytes) (fits : s.length < 2 ^ 32) (aligned : 4 ∣ done.length) :
    packString s ⟨done, pos⟩ = .ok () ⟨done ++ opaqueBytes s, pos⟩ := by
  have short : ¬ s.length > uint32Max := by
    unfold uint32Max
    omega
  have runs : packString s ⟨done, pos⟩ = .ok () ⟨done ++ be32 (UInt32.ofNat s.length) ++ s ++
      List.replicate (padding (done ++ be32 (UInt32.ofNat s.length) ++ s).length) 0, pos⟩ := by
    simp only [packString, if_neg short]
    rfl
  have whole : 4 ∣ done.length + 4 := Nat.dvd_add aligned (Nat.dvd_refl 4)
  rw [runs, List.length_append, List.length_append, be32_length, padding_add_aligned whole]
  simp only [opaqueBytes, padded, List.append_assoc]

theorem packString_emits (s : Bytes) (fits : s.length < 2 ^ 32) :
    Emits (XdrBuffer.writing pos) (packString s) () (opaqueBytes s) := by
  intro state done held
  obtain ⟨rfl, aligned⟩ := held
  refine ⟨_, packString_run s done fits aligned, rfl, ?_⟩
  rw [List.length_append]
  exact Nat.dvd_add aligned (opaqueBytes_dvd s)

theorem packString_throws (s : Bytes) (state : XdrBuffer) (long : 2 ^ 32 ≤ s.length) :
    packString s state = .error (.stringTooLong s.length) state := by
  have refused : s.length > uint32Max := by
    unfold uint32Max
    omega
  simp only [packString, if_pos refused]
  rfl

theorem packOpaque_emits (data : Bytes) (fits : data.length < 2 ^ 32) :
    Emits (XdrBuffer.writing pos) (packOpaque data) () (opaqueBytes data) := by
  intro state done held
  obtain ⟨rfl, aligned⟩ := held
  have short : ¬ data.length > uint32Max := by
    unfold uint32Max
    omega
  refine ⟨⟨done ++ opaqueBytes data, pos⟩, ?_, rfl, ?_⟩
  · have runs : packOpaque data ⟨done, pos⟩ = .ok () ⟨done ++ be32 (UInt32.ofNat data.length) ++ data ++
        List.replicate (padding data.length) 0, pos⟩ := by
      simp only [packOpaque, if_neg short]
      rfl
    rw [runs]
    simp only [opaqueBytes, padded, List.append_assoc]
  · rw [List.length_append]
    exact Nat.dvd_add aligned (opaqueBytes_dvd data)

theorem packOpaque_throws (data : Bytes) (state : XdrBuffer) (long : 2 ^ 32 ≤ data.length) :
    packOpaque data state = .error (.opaqueTooLong data.length) state := by
  have refused : data.length > uint32Max := by
    unfold uint32Max
    omega
  simp only [packOpaque, if_pos refused]
  rfl

theorem packString_checks (s : Bytes) : Checks (packString s) (Short s) := by
  intro state value next runs
  by_contra long
  rw [packString_throws s state (Nat.le_of_not_lt long)] at runs
  exact nomatch runs

theorem packOpaque_checks (data : Bytes) : Checks (packOpaque data) (Short data) := by
  intro state value next runs
  by_contra long
  rw [packOpaque_throws data state (Nat.le_of_not_lt long)] at runs
  exact nomatch runs

theorem ensureReadSpace_returns {count : Nat} {buf : XdrBuffer} (space : buf.pos + count ≤ buf.buffer.length) :
    ensureReadSpace count buf = .ok () buf := by
  rw [ensureReadSpace, get_bind, if_neg (Nat.not_lt.mpr space)]
  rfl

theorem ensureReadSpace_throws {count : Nat} {buf : XdrBuffer} (short : buf.buffer.length < buf.pos + count) :
    ensureReadSpace count buf =
      .error (.insufficientData count buf.pos (sizeSub buf.buffer.length buf.pos)) buf := by
  rw [ensureReadSpace, get_bind, if_pos short]
  rfl

/-- A read with enough bytes returns them and moves the cursor. -/
theorem fetch_returns {count : Nat} {buf : XdrBuffer} (space : buf.pos + count ≤ buf.buffer.length) :
    fetch count buf = .ok ((buf.buffer.drop buf.pos).take count) { buf with pos := buf.pos + count } := by
  rw [fetch, bind_of_ok (ensureReadSpace_returns space), get_bind]
  rfl

/-- A read past the end throws and leaves the buffer alone. -/
theorem fetch_throws (count : Nat) (buf : XdrBuffer) (short : buf.buffer.length < buf.pos + count) :
    fetch count buf =
      .error (.insufficientData count buf.pos (sizeSub buf.buffer.length buf.pos)) buf := by
  rw [fetch, bind_of_error (ensureReadSpace_throws short)]

/-- A read that returns had its bytes, and it moved the cursor over them. -/
theorem fetch_ok {count : Nat} {buf next : XdrBuffer} {bytes : Bytes} (runs : fetch count buf = .ok bytes next) :
    buf.pos + count ≤ buf.buffer.length ∧ bytes = (buf.buffer.drop buf.pos).take count ∧
      next = { buf with pos := buf.pos + count } := by
  by_cases space : buf.pos + count ≤ buf.buffer.length
  · rw [fetch_returns space] at runs
    obtain ⟨rfl, rfl⟩ := EStateM.Result.ok.inj runs
    exact ⟨space, rfl, rfl⟩
  · rw [fetch_throws count buf (Nat.lt_of_not_le space)] at runs
    exact nomatch runs

theorem fetch_run (before data rest : Bytes) :
    fetch data.length ⟨before ++ (data ++ rest), before.length⟩ =
      .ok data ⟨before ++ (data ++ rest), before.length + data.length⟩ := by
  have space : before.length + data.length ≤ (before ++ (data ++ rest)).length := by
    simp only [List.length_append]
    omega
  rw [fetch_returns space, List.drop_left, List.take_left]

theorem fetch_reads (data : Bytes) : Reads XdrBuffer.reading (fetch data.length) data (· = data) := by
  intro state before rest same
  subst same
  refine ⟨data, _, fetch_run before data rest, rfl, ?_⟩
  simp [XdrBuffer.reading]

theorem fetch_rejects (count : Nat) (rest : Bytes) (short : rest.length < count) :
    Rejects XdrBuffer.reading (fetch count) rest := by
  intro state before same
  subst same
  refine ⟨_, _, fetch_throws count _ ?_⟩
  simp only [List.length_append]
  omega

theorem fetch_finds (count : Nat) :
    Finds XdrBuffer.reading (fetch count) fun data bytes => bytes = data ∧ data.length = count := by
  rintro _ before rest value next rfl runs
  by_cases short : rest.length < count
  · obtain ⟨error, last, fails⟩ := fetch_rejects count rest short ⟨before ++ rest, before.length⟩ before rfl
    exact nomatch runs.symm.trans fails
  · have taken : (rest.take count).length = count := List.length_take_of_le (Nat.le_of_not_lt short)
    have split : rest = rest.take count ++ rest.drop count := (List.take_append_drop count rest).symm
    have reads := fetch_reads (rest.take count)
    rw [taken] at reads
    obtain ⟨got, last, fetched, rfl, placed⟩ := reads ⟨before ++ rest, before.length⟩ before (rest.drop count)
      (by rw [List.take_append_drop]; rfl)
    obtain ⟨rfl, rfl⟩ := EStateM.Result.ok.inj (runs.symm.trans fetched)
    exact ⟨_, _, split, ⟨rfl, taken⟩, placed⟩

theorem unpackUint32_reads (val : UInt32) :
    Reads XdrBuffer.reading unpackUint32 (be32 val) (· = val) :=
  Reads.returning (fetch_reads (be32 val)) (word_be32 val)

theorem unpackInt32_reads (val : Int32) :
    Reads XdrBuffer.reading unpackInt32 (be32 val.toUInt32) (· = val) :=
  Reads.returning (fetch_reads (be32 val.toUInt32))
    ((congrArg UInt32.toInt32 (word_be32 val.toUInt32)).trans (by simp))

theorem unpackUint64_reads (val : UInt64) :
    Reads XdrBuffer.reading unpackUint64 (be64 val) (· = val) :=
  Reads.returning (fetch_reads (be64 val)) (by simpa using leadingHyper_be64 val [])

/-- Every nonzero word reads as a true flag. -/
theorem unpackBool_reads_word (val : UInt32) :
    Reads XdrBuffer.reading unpackBool (be32 val) (· = (val != 0)) :=
  Reads.returning (unpackUint32_reads val) rfl

theorem unpackBool_reads (val : Bool) : Reads XdrBuffer.reading unpackBool (beBool val) (· = val) :=
  (unpackBool_reads_word _).weaken fun _ equal => by rw [equal, beBool_word]

theorem unpackUint32_finds : Finds XdrBuffer.reading unpackUint32 fun value bytes => bytes = be32 value :=
  Finds.bind (fetch_finds 4) fun _ _ found => Finds.pure (by
    rw [List.append_nil, found.1, be32_leadingWord found.2])

theorem unpackUint64_finds : Finds XdrBuffer.reading unpackUint64 fun value bytes => bytes = be64 value :=
  Finds.bind (fetch_finds 8) fun _ _ found => Finds.pure (by
    rw [List.append_nil, found.1, be64_leadingHyper found.2])

theorem unpackBool_finds : Finds XdrBuffer.reading unpackBool
    fun value bytes => ∃ flag, bytes = be32 flag ∧ value = (flag != 0) :=
  Finds.field unpackUint32_finds fun flag => Finds.pure ⟨flag, by simp, rfl⟩

theorem skipPadding_reads (length : Nat) (skipped : Bytes) (count : skipped.length = padding length) :
    Reads XdrBuffer.reading (skipPadding length) skipped fun _ => True := by
  intro state before rest same
  subst same
  refine ⟨(), ⟨before ++ (skipped ++ rest), before.length + padding length⟩, rfl, trivial, ?_⟩
  simp [XdrBuffer.reading, count]

/-- An opaque value reads back whatever its padding bytes are. -/
theorem unpackOpaque_reads_padded (data skipped : Bytes) (fits : data.length < 2 ^ 32)
    (count : skipped.length = padding data.length) :
    Reads XdrBuffer.reading unpackOpaque
      [be32 (UInt32.ofNat data.length), data, skipped].flatten (· = data) := by
  have size : (UInt32.ofNat data.length).toNat = data.length := by
    rw [UInt32.toNat_ofNat', Nat.mod_eq_of_lt fits]
  apply Reads.field (unpackUint32_reads _)
  rw [size]
  refine Reads.field (fetch_reads data) (Reads.cons (skipPadding_reads _ skipped count) fun _ _ => ?_)
  exact Reads.done rfl

theorem unpackOpaque_reads (data : Bytes) (fits : data.length < 2 ^ 32) :
    Reads XdrBuffer.reading unpackOpaque (opaqueBytes data) (· = data) := by
  have inner := unpackOpaque_reads_padded data (List.replicate (padding data.length) 0) fits (by simp)
  simpa [opaqueBytes, padded] using inner

theorem unpackString_reads (s : Bytes) (fits : s.length < 2 ^ 32) :
    Reads XdrBuffer.reading unpackString (opaqueBytes s) (· = s) :=
  unpackOpaque_reads s fits

theorem run_of_emits {program : Xdr Unit} {wire : Bytes}
    (emits : Emits (XdrBuffer.writing 0) program () wire) : program XdrBuffer.empty = .ok () ⟨wire, 0⟩ := by
  obtain ⟨_, runs, rfl, _⟩ := emits XdrBuffer.empty [] ⟨rfl, by simp⟩
  exact runs

/-- A reader with a known wire takes it whole when nothing follows. -/
theorem run_of_reads {α : Type} {program : Xdr α} {wire : Bytes} {result : α → Prop}
    (reads : Reads XdrBuffer.reading program wire result) :
    ∃ value, program ⟨wire, 0⟩ = .ok value ⟨wire, wire.length⟩ ∧ result value := by
  obtain ⟨value, _, runs, holds, rfl⟩ := reads ⟨wire, 0⟩ [] [] (by simp [XdrBuffer.reading])
  exact ⟨value, by simpa using runs, holds⟩

end Nfs3Rpc.Builtin
