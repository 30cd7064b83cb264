/-
This file is a byte buffer that grows in memory: the bytes at its indices, and a capacity that is doubled until it
reaches a request. The capacity is a number of a fixed size, so the doubling may wrap.
-/

import Nfs3Rpc.Encoding.Words

namespace Nfs3Rpc.Encoding

abbrev Memory := Nat → UInt8

/-- The bytes replace those from the start index on. -/
def overwrite (memory : Memory) (start : Nat) (bytes : Bytes) : Memory := fun index =>
  if start ≤ index then (bytes[index - start]?).getD (memory index) else memory index

def contents (memory : Memory) (size : Nat) : Bytes := (List.range size).map memory

@[simp] theorem contents_length (memory : Memory) (size : Nat) : (contents memory size).length = size := by
  simp [contents]

theorem contents_congr {first second : Memory} {size : Nat} (same : ∀ index < size, first index = second index) :
    contents first size = contents second size :=
  List.map_congr_left fun index member => same index (List.mem_range.mp member)

theorem overwrite_before {memory : Memory} {start index : Nat} (before : index < start) (bytes : Bytes) :
    overwrite memory start bytes index = memory index :=
  if_neg (Nat.not_le.mpr before)

/-- Bytes that are written at the end are appended. -/
theorem contents_overwrite (memory : Memory) (size : Nat) (bytes : Bytes) :
    contents (overwrite memory size bytes) (size + bytes.length) = contents memory size ++ bytes := by
  apply List.ext_getElem
  · simp
  · intro index inside _
    rw [contents_length] at inside
    simp only [contents, List.getElem_map, List.getElem_range, List.getElem_append, List.length_map, List.length_range]
    by_cases before : index < size
    · rw [dif_pos before, overwrite_before before]
    · rw [dif_neg before, overwrite, if_pos (Nat.le_of_not_lt before),
        List.getElem?_eq_getElem (by omega), Option.getD_some]

/-- A number is doubled and keeps its low bits. -/
def doubleSize (bits value : Nat) : Nat := value * 2 % 2 ^ bits

/-- Nothing is returned by a loop that has not ended after so many turns. -/
def doubleUntil (bits needed : Nat) : Nat → Nat → Option Nat
  | 0, value => if value < needed then none else some value
  | turns + 1, value => if value < needed then doubleUntil bits needed turns (doubleSize bits value) else some value

variable {bits needed : Nat}

/-- The loop has not ended as long as each value so far was too small. -/
theorem doubleUntil_none_iff (turns value : Nat) (word : value < 2 ^ bits) :
    doubleUntil bits needed turns value = none ↔ ∀ turn ≤ turns, value * 2 ^ turn % 2 ^ bits < needed := by
  induction turns generalizing value with
  | zero =>
      have start : value * 2 ^ 0 % 2 ^ bits = value := by rw [Nat.pow_zero, Nat.mul_one, Nat.mod_eq_of_lt word]
      constructor
      · intro running turn none
        obtain rfl := Nat.le_zero.mp none
        rw [start]
        by_contra reached
        rw [doubleUntil, if_neg reached] at running
        cases running
      · intro small
        have first := small 0 (Nat.le_refl 0)
        rw [start] at first
        exact if_pos first
  | succ turns recurse =>
      have later := recurse (doubleSize bits value) (Nat.mod_lt _ (Nat.two_pow_pos bits))
      have turned : ∀ turn, doubleSize bits value * 2 ^ turn % 2 ^ bits = value * 2 ^ (turn + 1) % 2 ^ bits := by
        intro turn
        rw [doubleSize, Nat.mod_mul_mod, Nat.mul_assoc, Nat.pow_succ']
      simp only [turned] at later
      by_cases first : value < needed
      · rw [doubleUntil, if_pos first, later]
        constructor
        · intro small turn inside
          cases turn with
          | zero => rwa [Nat.pow_zero, Nat.mul_one, Nat.mod_eq_of_lt word]
          | succ turn => exact small turn (Nat.le_of_succ_le_succ inside)
        · intro small turn inside
          exact small (turn + 1) (Nat.succ_le_succ inside)
      · rw [doubleUntil, if_neg first]
        constructor
        · intro running
          cases running
        · intro small
          have start := small 0 (Nat.zero_le _)
          rw [Nat.pow_zero, Nat.mul_one, Nat.mod_eq_of_lt word] at start
          exact absurd start first

/-- As many turns as the number has bits decide whether the loop ever ends. -/
theorem doubleUntil_decided {value : Nat} (word : value < 2 ^ bits)
    (running : doubleUntil bits needed bits value = none)
    (turns : Nat) : doubleUntil bits needed turns value = none := by
  have small := (doubleUntil_none_iff bits value word).mp running
  have positive : 0 < needed := Nat.lt_of_le_of_lt (Nat.zero_le _) (small 0 (Nat.zero_le _))
  apply (doubleUntil_none_iff turns value word).mpr
  intro turn _
  by_cases early : turn ≤ bits
  · exact small turn early
  · obtain ⟨later, rfl⟩ := Nat.exists_eq_add_of_le (Nat.le_of_not_le early)
    rw [Nat.pow_add, ← Nat.mul_assoc, Nat.mul_right_comm, Nat.mul_mod_left]
    exact positive

/-- The loop ends with the value after some turns, and no turn has wrapped. -/
structure Doubled (bits needed turns value : Nat) (final : Nat) : Prop where
  exactly : ∃ turn ≤ turns, final = value * 2 ^ turn
  reaches : needed ≤ final
  fits : final < 2 ^ bits

theorem doubleUntil_reaches {half : Nat} (bound : needed ≤ 2 ^ half) (turns value : Nat)
    (word : value < 2 ^ (half + 1))
    (enough : needed ≤ value * 2 ^ turns) :
    ∃ final, doubleUntil (half + 1) needed turns value = some final ∧
      Doubled (half + 1) needed turns value final := by
  induction turns generalizing value with
  | zero =>
      rw [Nat.pow_zero, Nat.mul_one] at enough
      exact ⟨value, if_neg (Nat.not_lt.mpr enough), ⟨0, Nat.le_refl 0, by rw [Nat.pow_zero, Nat.mul_one]⟩, enough,
        word⟩
  | succ turns recurse =>
      by_cases first : value < needed
      · have room : value * 2 < 2 ^ (half + 1) := by
          rw [Nat.pow_succ]
          omega
        have next : doubleSize (half + 1) value = value * 2 := Nat.mod_eq_of_lt room
        have reached : needed ≤ value * 2 * 2 ^ turns := by rwa [Nat.mul_assoc, ← Nat.pow_succ']
        obtain ⟨final, ends, ⟨turn, inside, exactly⟩, reaches, fits⟩ := recurse (value * 2) room reached
        refine ⟨final, ?_, ⟨turn + 1, Nat.succ_le_succ inside, ?_⟩, reaches, fits⟩
        · rw [doubleUntil, if_pos first, next]
          exact ends
        · rw [exactly, Nat.mul_assoc, ← Nat.pow_succ']
      · exact ⟨value, if_neg first, ⟨0, Nat.zero_le _, by rw [Nat.pow_zero, Nat.mul_one]⟩,
          Nat.le_of_not_lt first, word⟩

/-- Whenever the loop ends, it has reached the request. -/
theorem doubleUntil_ends {turns value final : Nat} (word : value < 2 ^ bits)
    (ends : doubleUntil bits needed turns value = some final) : needed ≤ final ∧ final < 2 ^ bits := by
  induction turns generalizing value with
  | zero =>
      by_cases first : value < needed
      · rw [doubleUntil, if_pos first] at ends
        cases ends
      · rw [doubleUntil, if_neg first] at ends
        obtain rfl := Option.some.inj ends
        exact ⟨Nat.le_of_not_lt first, word⟩
  | succ turns recurse =>
      by_cases first : value < needed
      · rw [doubleUntil, if_pos first] at ends
        exact recurse (Nat.mod_lt _ (Nat.two_pow_pos bits)) ends
      · rw [doubleUntil, if_neg first] at ends
        obtain rfl := Option.some.inj ends
        exact ⟨Nat.le_of_not_lt first, word⟩

end Nfs3Rpc.Encoding
