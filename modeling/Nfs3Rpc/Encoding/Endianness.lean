/-
This file is the order of the bytes of a number in the memory of a host, and two ways to reverse it.
-/

import Nfs3Rpc.Encoding.Words

namespace Nfs3Rpc.Encoding

/-- A host stores the most significant byte of a number first or last. -/
inductive Endianness where
  | big
  | little
  deriving DecidableEq

def Endianness.memory32 (host : Endianness) (val : UInt32) : Bytes :=
  match host with
  | .big => be32 val
  | .little => (be32 val).reverse

def Endianness.memory64 (host : Endianness) (val : UInt64) : Bytes :=
  match host with
  | .big => be64 val
  | .little => (be64 val).reverse

/-- The built-in function of a compiler returns its argument with the order of the bytes reversed. -/
def builtinBswap32 (val : UInt32) : UInt32 := leadingWord (be32 val).reverse

def builtinBswap64 (val : UInt64) : UInt64 := leadingHyper (be64 val).reverse

/-- Each byte is masked out and shifted to its new place. -/
def maskedSwap32 (val : UInt32) : UInt32 :=
  ((val &&& 0xFF000000) >>> 24) ||| ((val &&& 0x00FF0000) >>> 8) |||
    ((val &&& 0x0000FF00) <<< 8) ||| ((val &&& 0x000000FF) <<< 24)

def maskedSwap64 (val : UInt64) : UInt64 :=
  ((val &&& 0xFF00000000000000) >>> 56) ||| ((val &&& 0x00FF000000000000) >>> 40) |||
    ((val &&& 0x0000FF0000000000) >>> 24) ||| ((val &&& 0x000000FF00000000) >>> 8) |||
    ((val &&& 0x00000000FF000000) <<< 8) ||| ((val &&& 0x0000000000FF0000) <<< 24) |||
    ((val &&& 0x000000000000FF00) <<< 40) ||| ((val &&& 0x00000000000000FF) <<< 56)

/-- A mask of eight ones takes one byte out of a number. -/
theorem and_byte (value place : Nat) : value &&& 255 * 2 ^ place = value / 2 ^ place % 256 * 2 ^ place := by
  have ones : (255 : Nat) = 2 ^ 8 - 1 := rfl
  have range : (256 : Nat) = 2 ^ 8 := rfl
  apply Nat.eq_of_testBit_eq
  intro bit
  rw [Nat.testBit_and, Nat.testBit_mul_two_pow, Nat.testBit_mul_two_pow, ones, range, Nat.testBit_two_pow_sub_one,
    Nat.testBit_mod_two_pow, Nat.testBit_div_two_pow]
  by_cases inside : place ≤ bit
  · rw [Nat.sub_add_cancel inside]
    simp [inside, Bool.and_comm]
  · simp [inside]

theorem masked_right (value low shift : Nat) :
    (value &&& 255 * 2 ^ (low + shift)) >>> shift = value / 2 ^ (low + shift) % 256 * 2 ^ low := by
  rw [and_byte, Nat.shiftRight_eq_div_pow, Nat.pow_add, ← Nat.mul_assoc,
    Nat.mul_div_cancel _ (Nat.two_pow_pos shift)]

/-- A byte that is shifted to a place inside the number loses nothing. -/
theorem masked_left {bits : Nat} (value place shift : Nat) (inside : place + shift + 8 ≤ bits) :
    (value &&& 255 * 2 ^ place) <<< shift % 2 ^ bits = value / 2 ^ place % 256 * 2 ^ (place + shift) := by
  have byte : value / 2 ^ place % 256 < 2 ^ 8 := Nat.mod_lt _ (by decide)
  have small : value / 2 ^ place % 256 * 2 ^ (place + shift) < 2 ^ bits :=
    calc value / 2 ^ place % 256 * 2 ^ (place + shift)
      _ < 2 ^ 8 * 2 ^ (place + shift) := Nat.mul_lt_mul_of_pos_right byte (Nat.two_pow_pos _)
      _ = 2 ^ (place + shift + 8) := by rw [← Nat.pow_add, Nat.add_comm]
      _ ≤ 2 ^ bits := Nat.pow_le_pow_right (by decide) inside
  rw [and_byte, Nat.shiftLeft_eq, Nat.mul_assoc, ← Nat.pow_add, Nat.mod_eq_of_lt small]

/-- Bytes form a number, the first one at its low end. -/
def joined (byte : Nat → Nat) : Nat → Nat
  | 0 => 0
  | count + 1 => joined byte count ||| byte count * 2 ^ (8 * count)

section
variable {byte : Nat → Nat} (small : ∀ place, byte place < 256)

include small

theorem joined_lt (count : Nat) : joined byte count < 2 ^ (8 * count) := by
  induction count with
  | zero => exact Nat.one_pos
  | succ count recurse =>
      have wider : 2 ^ (8 * count) ≤ 2 ^ (8 * (count + 1)) := Nat.pow_le_pow_right (by decide) (by omega)
      have last : byte count * 2 ^ (8 * count) < 2 ^ (8 * (count + 1)) :=
        calc byte count * 2 ^ (8 * count)
          _ < 2 ^ 8 * 2 ^ (8 * count) := Nat.mul_lt_mul_of_pos_right (small count) (Nat.two_pow_pos _)
          _ = 2 ^ (8 * (count + 1)) := by rw [← Nat.pow_add, Nat.mul_succ, Nat.add_comm]
      exact Nat.or_lt_two_pow (recurse.trans_le wider) last

/-- A bit of a byte is found again at the place of the byte. -/
theorem joined_testBit {place count bit : Nat} (inside : place < count) (low : bit < 8) :
    (joined byte count).testBit (bit + 8 * place) = (byte place).testBit bit := by
  induction count with
  | zero => omega
  | succ count recurse =>
      rw [joined, Nat.testBit_or, Nat.testBit_mul_two_pow]
      rcases Nat.lt_succ_iff_lt_or_eq.mp inside with before | rfl
      · have outside : ¬ 8 * count ≤ bit + 8 * place := by omega
        rw [recurse before, decide_eq_false outside, Bool.false_and, Bool.or_false]
      · have behind : (joined byte place).testBit (bit + 8 * place) = false :=
          Nat.testBit_lt_two_pow ((joined_lt small place).trans_le (Nat.pow_le_pow_right (by decide) (by omega)))
        rw [behind, Nat.add_sub_cancel, Bool.false_or, decide_eq_true (Nat.le_add_left _ _), Bool.true_and]

theorem joined_byte {place count : Nat} (inside : place < count) :
    joined byte count / 2 ^ (8 * place) % 256 = byte place := by
  have range : (256 : Nat) = 2 ^ 8 := rfl
  apply Nat.eq_of_testBit_eq
  intro bit
  rw [range, Nat.testBit_mod_two_pow, Nat.testBit_div_two_pow]
  by_cases low : bit < 8
  · rw [decide_eq_true low, Bool.true_and, joined_testBit small inside low]
  · have beyond : (byte place).testBit bit = false :=
      Nat.testBit_lt_two_pow ((small place).trans_le (range.le.trans (Nat.pow_le_pow_right (by decide) (by omega))))
    rw [decide_eq_false low, beyond, Bool.false_and]

end

/-- A number of some bytes travels with its highest byte first. -/
def networkBytes (count value : Nat) : Bytes :=
  ((List.range count).map fun place => UInt8.ofNat (value / 2 ^ (8 * place))).reverse

theorem be32_network (val : UInt32) : be32 val = networkBytes 4 val.toNat := by
  simp only [be32, networkBytes, List.range, List.range.loop, List.map, List.reverse_cons, List.reverse_nil,
    List.nil_append, List.cons_append, List.cons.injEq, and_true]
  refine ⟨?_, ?_, ?_, ?_⟩ <;> apply UInt8.toNat_inj.mp <;> simp [Nat.shiftRight_eq_div_pow]

theorem be64_network (val : UInt64) : be64 val = networkBytes 8 val.toNat := by
  simp only [be64, be32, highWord, lowWord, networkBytes, List.range, List.range.loop, List.map, List.reverse_cons,
    List.reverse_nil, List.nil_append, List.cons_append, List.cons.injEq, and_true]
  refine ⟨?_, ?_, ?_, ?_, ?_, ?_, ?_, ?_⟩ <;> apply UInt8.toNat_inj.mp <;>
    simp [Nat.shiftRight_eq_div_pow] <;> omega

/-- A number that is joined from the bytes of another, highest byte first, travels with its bytes reversed. -/
theorem networkBytes_joined (count value : Nat) :
    networkBytes count (joined (fun place => value / 2 ^ (8 * (count - 1 - place)) % 256) count) =
      (networkBytes count value).reverse := by
  have small : ∀ place, value / 2 ^ (8 * (count - 1 - place)) % 256 < 256 := fun _ => Nat.mod_lt _ (by decide)
  apply List.ext_getElem
  · simp [networkBytes]
  · intro index inside _
    have bound : index < count := by simpa [networkBytes] using inside
    have found := joined_byte small (show count - 1 - index < count by omega)
    have place : count - 1 - (count - 1 - index) = index := by omega
    rw [place] at found
    simp only [networkBytes, List.reverse_reverse, List.getElem_reverse, List.getElem_map, List.getElem_range,
      List.length_map, List.length_range]
    apply UInt8.toNat_inj.mp
    rw [UInt8.toNat_ofNat', UInt8.toNat_ofNat']
    exact found

theorem maskedSwap32_toNat (val : UInt32) :
    (maskedSwap32 val).toNat = joined (fun place => val.toNat / 2 ^ (8 * (3 - place)) % 256) 4 := by
  simp only [maskedSwap32, UInt32.toNat_or, UInt32.toNat_shiftLeft, UInt32.toNat_shiftRight, UInt32.toNat_and,
    UInt32.reduceToNat, Nat.reduceMod]
  generalize val.toNat = value
  have byte0 : (value &&& 0xFF000000) >>> 24 = value / 2 ^ 24 % 256 * 2 ^ 0 := masked_right value 0 24
  have byte1 : (value &&& 0x00FF0000) >>> 8 = value / 2 ^ 16 % 256 * 2 ^ 8 := masked_right value 8 8
  have byte2 : (value &&& 0x0000FF00) <<< 8 % 2 ^ 32 = value / 2 ^ 8 % 256 * 2 ^ 16 :=
    masked_left value 8 8 (by decide)
  have byte3 : (value &&& 0x000000FF) <<< 24 % 2 ^ 32 = value / 2 ^ 0 % 256 * 2 ^ 24 :=
    masked_left value 0 24 (by decide)
  rw [byte0, byte1, byte2, byte3]
  simp only [joined, Nat.zero_or, Nat.reduceMul, Nat.reduceSub]

theorem maskedSwap64_toNat (val : UInt64) :
    (maskedSwap64 val).toNat = joined (fun place => val.toNat / 2 ^ (8 * (7 - place)) % 256) 8 := by
  simp only [maskedSwap64, UInt64.toNat_or, UInt64.toNat_shiftLeft, UInt64.toNat_shiftRight, UInt64.toNat_and,
    UInt64.reduceToNat, Nat.reduceMod]
  generalize val.toNat = value
  have byte0 : (value &&& 0xFF00000000000000) >>> 56 = value / 2 ^ 56 % 256 * 2 ^ 0 := masked_right value 0 56
  have byte1 : (value &&& 0x00FF000000000000) >>> 40 = value / 2 ^ 48 % 256 * 2 ^ 8 := masked_right value 8 40
  have byte2 : (value &&& 0x0000FF0000000000) >>> 24 = value / 2 ^ 40 % 256 * 2 ^ 16 := masked_right value 16 24
  have byte3 : (value &&& 0x000000FF00000000) >>> 8 = value / 2 ^ 32 % 256 * 2 ^ 24 := masked_right value 24 8
  have byte4 : (value &&& 0x00000000FF000000) <<< 8 % 2 ^ 64 = value / 2 ^ 24 % 256 * 2 ^ 32 :=
    masked_left value 24 8 (by decide)
  have byte5 : (value &&& 0x0000000000FF0000) <<< 24 % 2 ^ 64 = value / 2 ^ 16 % 256 * 2 ^ 40 :=
    masked_left value 16 24 (by decide)
  have byte6 : (value &&& 0x000000000000FF00) <<< 40 % 2 ^ 64 = value / 2 ^ 8 % 256 * 2 ^ 48 :=
    masked_left value 8 40 (by decide)
  have byte7 : (value &&& 0x00000000000000FF) <<< 56 % 2 ^ 64 = value / 2 ^ 0 % 256 * 2 ^ 56 :=
    masked_left value 0 56 (by decide)
  rw [byte0, byte1, byte2, byte3, byte4, byte5, byte6, byte7]
  simp only [joined, Nat.zero_or, Nat.reduceMul, Nat.reduceSub]

theorem be32_maskedSwap32 (val : UInt32) : be32 (maskedSwap32 val) = (be32 val).reverse := by
  rw [be32_network, be32_network, maskedSwap32_toNat]
  exact networkBytes_joined 4 val.toNat

theorem be64_maskedSwap64 (val : UInt64) : be64 (maskedSwap64 val) = (be64 val).reverse := by
  rw [be64_network, be64_network, maskedSwap64_toNat]
  exact networkBytes_joined 8 val.toNat

theorem be32_builtinBswap32 (val : UInt32) : be32 (builtinBswap32 val) = (be32 val).reverse :=
  be32_leadingWord (List.length_reverse.trans (be32_length val))

theorem be64_builtinBswap64 (val : UInt64) : be64 (builtinBswap64 val) = (be64 val).reverse :=
  be64_leadingHyper (List.length_reverse.trans (be64_length val))

/-- A number that a little-endian host has reversed lies in its memory in network order. -/
theorem Endianness.memory32_network (host : Endianness) (builtin : Bool) (val : UInt32) :
    host.memory32 (if host = .big then val else if builtin then builtinBswap32 val else maskedSwap32 val) =
      be32 val := by
  cases host with
  | big => rfl
  | little =>
      cases builtin with
      | true => exact (congrArg List.reverse (be32_builtinBswap32 val)).trans (List.reverse_reverse _)
      | false => exact (congrArg List.reverse (be32_maskedSwap32 val)).trans (List.reverse_reverse _)

theorem Endianness.memory64_network (host : Endianness) (builtin : Bool) (val : UInt64) :
    host.memory64 (if host = .big then val else if builtin then builtinBswap64 val else maskedSwap64 val) =
      be64 val := by
  cases host with
  | big => rfl
  | little =>
      cases builtin with
      | true => exact (congrArg List.reverse (be64_builtinBswap64 val)).trans (List.reverse_reverse _)
      | false => exact (congrArg List.reverse (be64_maskedSwap64 val)).trans (List.reverse_reverse _)

end Nfs3Rpc.Encoding
