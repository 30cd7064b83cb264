import Nfs3Rpc.Format.Tirpc
import Nfs3Rpc.Proof.Builtin.XdrBuffer

namespace Nfs3Rpc.Tirpc
open Encoding

/-- This stream holds the bytes that a filter has written and those that it has still to read. -/
structure MemoryStream where
  written : Bytes := []
  unread : Bytes := []
  deriving DecidableEq

def putBytes (bytes : Bytes) : Filter MemoryStream Unit := modify fun s => { s with written := s.written ++ bytes }

def getBytes (count : Nat) : Filter MemoryStream Bytes := do
  let stream ← get
  if count ≤ stream.unread.length then
    set { stream with unread := stream.unread.drop count }
    return stream.unread.take count
  else
    throw .returnFalse

/-- A read fills the memory of a pointer from its start. -/
def fillPtr (ptr : CharPtr) (data : Bytes) : Filter MemoryStream CharPtr :=
  match ptr with
  | .null => return .heap data
  | .heap block => if data.length ≤ block.length then return .heap (data ++ block.drop data.length)
      else throw .invalidMemory
  | .inner block => if data.length ≤ block.length then return .inner (data ++ block.drop data.length)
      else throw .invalidMemory

/-- The variable part of a value travels in whole words. -/
def getPadded (count : Nat) : Filter MemoryStream Bytes := do
  let data ← getBytes count
  let _ ← getBytes (padding count)
  return data

/-- These primitives follow RFC 4506 on a stream in memory. -/
def memoryLibrary : Libtirpc MemoryStream where
  written := MemoryStream.written
  unread stream := stream.unread.length
  xdrUInt
    | .XDR_ENCODE, value => do putBytes (be32 value); return value
    | .XDR_DECODE, _ => do return leadingWord (← getBytes 4)
    | .XDR_FREE, value => return value
  xdrInt
    | .XDR_ENCODE, value => do putBytes (be32 value.toUInt32); return value
    | .XDR_DECODE, _ => do return (leadingWord (← getBytes 4)).toInt32
    | .XDR_FREE, value => return value
  xdrUHyper
    | .XDR_ENCODE, value => do putBytes (be64 value); return value
    | .XDR_DECODE, _ => do return leadingHyper (← getBytes 8)
    | .XDR_FREE, value => return value
  xdrOpaque op size array :=
    match op with
    | .XDR_ENCODE => do putBytes (padded array.val); return array
    | .XDR_DECODE => do
        let data ← getPadded size
        return if same : data.length = size then ⟨data, same⟩ else array
    | .XDR_FREE => return array
  xdrBytes
    | .XDR_ENCODE, ptr, len, maxsize => do
        if maxsize < len then throw .returnFalse
        if ptr.memory.length < len.toNat then throw .invalidMemory
        putBytes (opaqueBytes (ptr.memory.take len.toNat))
        return (ptr, len)
    | .XDR_DECODE, ptr, _, maxsize => do
        let len := leadingWord (← getBytes 4)
        if maxsize < len then throw .returnFalse
        if len = 0 then return (ptr, len)
        let data ← getPadded len.toNat
        return (← fillPtr ptr data, len)
    | .XDR_FREE, _, len, _ => return (.null, len)
  xdrString
    | .XDR_ENCODE, ptr, maxsize => do
        if 0 ∉ ptr.memory then throw .invalidMemory
        if maxsize.toNat < ptr.cstring.length then throw .returnFalse
        putBytes (opaqueBytes ptr.cstring)
        return ptr
    | .XDR_DECODE, ptr, maxsize => do
        let len := leadingWord (← getBytes 4)
        if maxsize < len then throw .returnFalse
        let data ← getPadded len.toNat
        fillPtr ptr (data ++ [0])
    | .XDR_FREE, _, _ => return .null

theorem putBytes_emits {α : Type} (bytes : Bytes) (value : α) :
    Emits memoryLibrary.writing (do putBytes bytes; return value) value bytes := by
  rintro ⟨written, unread⟩ done rfl
  exact ⟨⟨written ++ bytes, unread⟩, rfl, rfl⟩

theorem memoryLibrary_encoder : Rfc4506Encoder memoryLibrary where
  uInt value := putBytes_emits _ _
  int value := putBytes_emits _ _
  uHyper value := putBytes_emits _ _
  array data := putBytes_emits _ _
  bytes ptr len maxsize inside bounded := by
    have first : ¬ maxsize < len := UInt32.not_lt.mpr bounded
    have second : ¬ ptr.memory.length < len.toNat := Nat.not_lt.mpr inside
    simp only [memoryLibrary, if_neg first, if_neg second]
    exact putBytes_emits _ _
  bytesRefused ptr len maxsize stream long := by
    refine ⟨stream, ?_⟩
    simp only [memoryLibrary, if_pos long]
    rfl
  string ptr maxsize terminated bounded := by
    have first : ¬ 0 ∉ ptr.memory := not_not.mpr terminated
    have second : ¬ maxsize.toNat < ptr.cstring.length := Nat.not_lt.mpr bounded
    simp only [memoryLibrary, if_neg first, if_neg second]
    exact putBytes_emits _ _
  stringRefused ptr maxsize stream terminated long _ := by
    have first : ¬ 0 ∉ ptr.memory := not_not.mpr terminated
    refine ⟨stream, ?_⟩
    simp only [memoryLibrary, if_neg first, if_pos long]
    rfl

theorem getBytes_reads (data : Bytes) :
    Reads (Libtirpc.reading MemoryStream.unread) (getBytes data.length) data (· = data) := by
  intro stream before rest placed
  obtain ⟨written, unread⟩ := stream
  obtain rfl : unread = data ++ rest := placed
  refine ⟨data, ⟨written, rest⟩, ?_, rfl, rfl⟩
  have enough : data.length ≤ (data ++ rest).length := by simp
  have runs : getBytes data.length ⟨written, data ++ rest⟩ =
      .ok ((data ++ rest).take data.length) ⟨written, (data ++ rest).drop data.length⟩ := by
    simp only [getBytes, get_bind, if_pos enough]
    rfl
  rw [runs, List.take_left, List.drop_left]

theorem getPadded_reads (data : Bytes) :
    Reads (Libtirpc.reading MemoryStream.unread) (getPadded data.length) (padded data) (· = data) := by
  have zeros := getBytes_reads (List.replicate (padding data.length) 0)
  rw [List.length_replicate] at zeros
  apply Reads.bind (getBytes_reads data)
  intro value same
  subst same
  exact Reads.returning zeros rfl

theorem lengthWord_decoded (data : Bytes) (maxsize : UInt32) (bounded : data.length ≤ maxsize.toNat) :
    (UInt32.ofNat data.length).toNat = data.length ∧ ¬ maxsize < UInt32.ofNat data.length ∧
      leadingWord (be32 (UInt32.ofNat data.length)) = UInt32.ofNat data.length := by
  have count : (UInt32.ofNat data.length).toNat = data.length := by
    have bound := maxsize.toNat_lt
    rw [UInt32.toNat_ofNat', Nat.mod_eq_of_lt (by omega)]
  refine ⟨count, ?_, by simpa using leadingWord_be32 (UInt32.ofNat data.length) []⟩
  rw [UInt32.lt_iff_toNat_lt, count]
  exact Nat.not_lt.mpr bounded

theorem memoryLibrary_decoder : Rfc4506Decoder memoryLibrary MemoryStream.unread where
  unread stream := rfl
  uInt start value := Reads.returning (getBytes_reads (be32 value)) (by simpa using leadingWord_be32 value [])
  int start value := by
    apply Reads.returning (getBytes_reads (be32 value.toUInt32))
    have word := leadingWord_be32 value.toUInt32 []
    rw [List.append_nil] at word
    rw [word, Int32.toInt32_toUInt32]
  uHyper start value := Reads.returning (getBytes_reads (be64 value)) (by simpa using leadingHyper_be64 value [])
  array start data := by
    obtain ⟨data, rfl⟩ := data
    apply Reads.returning (getPadded_reads data)
    rw [dif_pos rfl]
  bytes data len maxsize bounded := by
    obtain ⟨count, inside, word⟩ := lengthWord_decoded data maxsize bounded
    apply Reads.bind (getBytes_reads (be32 (UInt32.ofNat data.length)))
    intro value same
    subst same
    rw [word, if_neg inside]
    by_cases empty : data = []
    · subst empty
      exact Reads.pure rfl
    · have positive : UInt32.ofNat data.length ≠ 0 := by
        intro zero
        rw [zero] at count
        exact empty (List.length_eq_zero_iff.mp count.symm)
      show Reads _ (if UInt32.ofNat data.length = 0 then pure (CharPtr.null, UInt32.ofNat data.length) else _) _ _
      rw [if_neg positive, if_neg empty, count]
      exact Reads.returning (getPadded_reads data) rfl
  string s maxsize bounded := by
    obtain ⟨count, inside, word⟩ := lengthWord_decoded s maxsize bounded
    apply Reads.bind (getBytes_reads (be32 (UInt32.ofNat s.length)))
    intro value same
    subst same
    rw [word, if_neg inside]
    show Reads _ (getPadded (UInt32.ofNat s.length).toNat >>= fun data => fillPtr .null (data ++ [0])) _ _
    rw [count]
    exact Reads.ending (getPadded_reads s) (Reads.pure rfl)

theorem lengthWord_positive {data : Bytes} (short : Short data) (filled : data ≠ []) :
    UInt32.ofNat data.length ≠ 0 := by
  intro zero
  have count := congrArg UInt32.toNat zero
  rw [UInt32.toNat_ofNat', Nat.mod_eq_of_lt short] at count
  exact filled (List.length_eq_zero_iff.mp count)

theorem memoryLibrary_filler : Rfc4506Filler memoryLibrary MemoryStream.unread where
  fills data block len maxsize bounded inside := by
    obtain ⟨count, within, word⟩ := lengthWord_decoded data maxsize bounded
    apply Reads.bind (getBytes_reads (be32 (UInt32.ofNat data.length)))
    intro value same
    subst same
    rw [word, if_neg within]
    by_cases empty : data = []
    · subst empty
      exact Reads.pure rfl
    · have positive := lengthWord_positive (Nat.lt_of_le_of_lt bounded maxsize.toNat_lt) empty
      show Reads _ (if UInt32.ofNat data.length = 0 then pure (CharPtr.inner block, UInt32.ofNat data.length) else _)
        _ _
      rw [if_neg positive, count]
      apply Reads.ending (getPadded_reads data)
      rw [fillPtr, if_pos inside]
      exact Reads.pure rfl
  overflows data block len maxsize bounded outside := by
    obtain ⟨count, within, word⟩ := lengthWord_decoded data maxsize bounded
    have filled : data ≠ [] := by
      rintro rfl
      exact Nat.not_lt_zero _ outside
    apply Faults.after (getBytes_reads (be32 (UInt32.ofNat data.length)))
    intro value same
    subst same
    have positive := lengthWord_positive (Nat.lt_of_le_of_lt bounded maxsize.toNat_lt) filled
    rw [word, if_neg within]
    show Faults _ (if UInt32.ofNat data.length = 0 then pure (CharPtr.inner block, UInt32.ofNat data.length) else _) _
    rw [if_neg positive, count]
    have sequence : padded data = padded data ++ [] := (List.append_nil _).symm
    rw [sequence]
    apply Faults.after (getPadded_reads data)
    intro found same
    rw [same, fillPtr, if_neg (Nat.not_le_of_lt outside)]
    intro stream before rest placed
    exact ⟨.invalidMemory, stream, rfl⟩

end Nfs3Rpc.Tirpc
