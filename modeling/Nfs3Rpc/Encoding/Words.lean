/-
This file fixes the byte encodings of RFC 4506: big-endian words, and byte strings padded to words.
-/

import Mathlib.Data.List.TakeWhile
import Mathlib.Tactic

namespace Nfs3Rpc.Encoding

abbrev Bytes := List UInt8

/-- A word travels as four bytes with the most significant byte first. -/
def be32 (value : UInt32) : Bytes :=
  [(value >>> 24).toUInt8, (value >>> 16).toUInt8, (value >>> 8).toUInt8, value.toUInt8]

/-- Four bytes in network order form one word. -/
def word (b0 b1 b2 b3 : UInt8) : UInt32 :=
  UInt32.ofNat (b0.toNat * 2 ^ 24 + b1.toNat * 2 ^ 16 + b2.toNat * 2 ^ 8 + b3.toNat)

def highWord (value : UInt64) : UInt32 := (value >>> 32).toUInt32

def lowWord (value : UInt64) : UInt32 := value.toUInt32

/-- Two words in network order form one double word. -/
def hyper (high low : UInt32) : UInt64 := UInt64.ofNat (high.toNat * 2 ^ 32 + low.toNat)

/-- A double word travels as its high word and its low word. -/
def be64 (value : UInt64) : Bytes := be32 (highWord value) ++ be32 (lowWord value)

/-- This count completes a byte string to whole words. -/
def padding (length : Nat) : Nat := (4 - length % 4) % 4

/-- Zero bytes follow a byte string up to the next word boundary. -/
def padded (data : Bytes) : Bytes := data ++ List.replicate (padding data.length) 0

/-- A variable byte string travels after its length word. -/
def opaqueBytes (data : Bytes) : Bytes := be32 (UInt32.ofNat data.length) ++ padded data

/-- A linked list travels with the word one before each element and the word zero at the end. -/
def chainBytes {α : Type} (wire : α → Bytes) : List α → Bytes
  | [] => be32 0
  | element :: later => be32 1 ++ (wire element ++ chainBytes wire later)

/-- The first four bytes of a string give a word; a shorter string gives zero. -/
def leadingWord : Bytes → UInt32
  | b0 :: b1 :: b2 :: b3 :: _ => word b0 b1 b2 b3
  | _ => 0

/-- The first eight bytes of a string give a double word. -/
def leadingHyper (data : Bytes) : UInt64 := hyper (leadingWord data) (leadingWord (data.drop 4))

/-- An unsigned 64-bit difference wraps below zero. -/
def sizeSub (first second : Nat) : Nat :=
  if second ≤ first then first - second else 2 ^ 64 - (second - first)

/-- A length word can describe exactly these byte strings. -/
def Short (data : Bytes) : Prop := data.length < 2 ^ 32

instance : DecidablePred Short := fun data => inferInstanceAs (Decidable (data.length < 2 ^ 32))

/-- A flag travels as the word zero or one. -/
def beBool (value : Bool) : Bytes := be32 (if value then 1 else 0)

@[simp] theorem be32_length (value : UInt32) : (be32 value).length = 4 := rfl

@[simp] theorem be64_length (value : UInt64) : (be64 value).length = 8 := rfl

@[simp] theorem beBool_length (value : Bool) : (beBool value).length = 4 := rfl

/-- The padded length is the rounded length. -/
theorem add_padding (length : Nat) : length + padding length = (length + 3) / 4 * 4 := by
  unfold padding
  omega

theorem add_padding_dvd (length : Nat) : 4 ∣ length + padding length := by
  rw [add_padding]
  exact Nat.dvd_mul_left 4 _

@[simp] theorem padded_length (data : Bytes) :
    (padded data).length = data.length + padding data.length := by
  simp [padded]

theorem opaqueBytes_length (data : Bytes) :
    (opaqueBytes data).length = 4 + (data.length + padding data.length) := by
  simp [opaqueBytes]

theorem opaqueBytes_dvd (data : Bytes) : 4 ∣ (opaqueBytes data).length := by
  rw [opaqueBytes_length]
  exact Nat.dvd_add (Nat.dvd_refl 4) (add_padding_dvd data.length)

/-- The word reads back from its own bytes. -/
@[simp] theorem word_be32 (value : UInt32) :
    word (value >>> 24).toUInt8 (value >>> 16).toUInt8 (value >>> 8).toUInt8 value.toUInt8 = value := by
  apply UInt32.toNat_inj.mp
  have bound := value.toNat_lt
  simp only [word, UInt32.toNat_ofNat', UInt32.toNat_toUInt8, UInt32.toNat_shiftRight,
    Nat.shiftRight_eq_div_pow, UInt32.reduceToNat, Nat.reduceMod, Nat.reducePow]
  omega

/-- Each group of four bytes is the encoding of its own word. -/
theorem be32_word (b0 b1 b2 b3 : UInt8) : be32 (word b0 b1 b2 b3) = [b0, b1, b2, b3] := by
  have h0 := b0.toNat_lt
  have h1 := b1.toNat_lt
  have h2 := b2.toNat_lt
  have h3 := b3.toNat_lt
  simp only [be32, List.cons.injEq, and_true]
  refine ⟨?_, ?_, ?_, ?_⟩ <;> apply UInt8.toNat_inj.mp <;>
    simp only [word, UInt32.toNat_ofNat', UInt32.toNat_toUInt8, UInt32.toNat_shiftRight,
      Nat.shiftRight_eq_div_pow, UInt32.reduceToNat, Nat.reduceMod, Nat.reducePow] <;> omega

theorem be32_injective : Function.Injective be32 := by
  intro first second equal
  simp only [be32, List.cons.injEq, and_true] at equal
  obtain ⟨h0, h1, h2, h3⟩ := equal
  rw [← word_be32 first, ← word_be32 second, h0, h1, h2, h3]

/-- Two strings that start with words agree on the word and on the rest. -/
theorem be32_append_inj {first second : UInt32} {left right : Bytes} :
    be32 first ++ left = be32 second ++ right ↔ first = second ∧ left = right := by
  constructor
  · intro equal
    obtain ⟨words, rests⟩ := List.append_inj equal rfl
    exact ⟨be32_injective words, rests⟩
  · rintro ⟨rfl, rfl⟩
    rfl

/-- A length word separates a byte string from the rest. -/
theorem opaqueBytes_append_inj {first second left right : Bytes} (short : Short first) (short' : Short second) :
    opaqueBytes first ++ left = opaqueBytes second ++ right ↔ first = second ∧ left = right := by
  constructor
  · intro equal
    simp only [opaqueBytes, padded, List.append_assoc] at equal
    obtain ⟨words, rests⟩ := be32_append_inj.mp equal
    have length : first.length = second.length := by
      have counts := congrArg UInt32.toNat words
      rwa [UInt32.toNat_ofNat', UInt32.toNat_ofNat', Nat.mod_eq_of_lt short, Nat.mod_eq_of_lt short'] at counts
    obtain ⟨data, tails⟩ := List.append_inj rests length
    rw [length] at tails
    exact ⟨data, List.append_cancel_left tails⟩
  · rintro ⟨rfl, rfl⟩
    rfl

/-- Lists whose elements do not run into what follows agree element by element. -/
theorem chainBytes_append_inj {α : Type} {first second : α → Bytes} {elements : List α} {left right : Bytes}
    (apart : ∀ element ∈ elements, ∀ l r, first element ++ l = second element ++ r →
      first element = second element)
    (equal : chainBytes first elements ++ left = chainBytes second elements ++ right) :
    (∀ element ∈ elements, first element = second element) ∧ left = right := by
  induction elements with
  | nil => exact ⟨List.forall_mem_nil _, List.append_cancel_left equal⟩
  | cons element later recurse =>
      simp only [chainBytes, List.append_assoc] at equal
      have bodies := List.append_cancel_left equal
      have same := apart element List.mem_cons_self _ _ bodies
      rw [same] at bodies
      obtain ⟨rests, tails⟩ := recurse (fun other member => apart other (List.mem_cons_of_mem _ member))
        (List.append_cancel_left bodies)
      exact ⟨List.forall_mem_cons.mpr ⟨same, rests⟩, tails⟩

theorem chainBytes_congr {α : Type} {first second : α → Bytes} {elements : List α}
    (same : ∀ element ∈ elements, first element = second element) :
    chainBytes first elements = chainBytes second elements := by
  induction elements with
  | nil => rfl
  | cons element later recurse =>
      rw [chainBytes, chainBytes, same element List.mem_cons_self,
        recurse fun other member => same other (List.mem_cons_of_mem _ member)]

@[simp] theorem hyper_words (value : UInt64) : hyper (highWord value) (lowWord value) = value := by
  apply UInt64.toNat_inj.mp
  have bound := value.toNat_lt
  simp only [hyper, highWord, lowWord, UInt64.toNat_ofNat', UInt64.toNat_toUInt32,
    UInt64.toNat_shiftRight, Nat.shiftRight_eq_div_pow, UInt64.reduceToNat, Nat.reduceMod, Nat.reducePow]
  omega

@[simp] theorem highWord_hyper (high low : UInt32) : highWord (hyper high low) = high := by
  apply UInt32.toNat_inj.mp
  have h := high.toNat_lt
  have l := low.toNat_lt
  simp only [hyper, highWord, UInt64.toNat_ofNat', UInt64.toNat_toUInt32,
    UInt64.toNat_shiftRight, Nat.shiftRight_eq_div_pow, UInt64.reduceToNat, Nat.reduceMod, Nat.reducePow]
  omega

@[simp] theorem lowWord_hyper (high low : UInt32) : lowWord (hyper high low) = low := by
  apply UInt32.toNat_inj.mp
  have h := high.toNat_lt
  have l := low.toNat_lt
  simp only [hyper, lowWord, UInt64.toNat_ofNat', UInt64.toNat_toUInt32, Nat.reducePow]
  omega

/-- A double word is the same as its two words. -/
theorem be64_hyper (high low : UInt32) : be64 (hyper high low) = be32 high ++ be32 low := by
  simp [be64]

@[simp] theorem leadingWord_be32 (value : UInt32) (rest : Bytes) :
    leadingWord (be32 value ++ rest) = value :=
  word_be32 value

/-- The word of a string depends on its first four bytes only. -/
theorem leadingWord_take (data : Bytes) : leadingWord (data.take 4) = leadingWord data := by
  match data with
  | _ :: _ :: _ :: _ :: _ => rfl
  | [] | [_] | [_, _] | [_, _, _] => rfl

@[simp] theorem leadingHyper_be64 (value : UInt64) (rest : Bytes) :
    leadingHyper (be64 value ++ rest) = value := by
  have tail : (be64 value ++ rest).drop 4 = be32 (lowWord value) ++ rest := rfl
  rw [leadingHyper, tail, leadingWord_be32, be64, List.append_assoc, leadingWord_be32, hyper_words]

/-- A flag reads back as a nonzero test on its word. -/
@[simp] theorem beBool_word (value : Bool) : ((if value then (1 : UInt32) else 0) != 0) = value := by
  cases value <;> rfl

theorem take_eight_length {data : Bytes} (enough : 8 ≤ data.length) : (data.take 8).length = 8 :=
  List.length_take_of_le enough

/-- A terminator behind a string does not change where its first zero byte ends it. -/
theorem takeWhile_terminated (s : Bytes) : (s ++ [0]).takeWhile (· != 0) = s.takeWhile (· != 0) := by
  have stop : [(0 : UInt8)].takeWhile (· != 0) = [] := rfl
  rw [List.takeWhile_append, stop, List.append_nil]
  split
  · rename_i whole
    exact ((List.takeWhile_prefix _).eq_of_length whole).symm
  · rfl

/-- A string is whole when it has no zero byte. -/
theorem takeWhile_nonzero_iff (s : Bytes) : s.takeWhile (· != 0) = s ↔ 0 ∉ s := by
  rw [List.takeWhile_eq_self_iff]
  constructor
  · intro inside member
    exact absurd (inside 0 member) (by decide)
  · intro clean byte member
    exact bne_iff_ne.mpr fun zero => clean (zero ▸ member)

/-- Every four bytes are a word. -/
theorem be32_leadingWord {data : Bytes} (four : data.length = 4) : be32 (leadingWord data) = data := by
  match data, four with
  | [b0, b1, b2, b3], _ => exact be32_word b0 b1 b2 b3

theorem be64_leadingHyper {data : Bytes} (eight : data.length = 8) : be64 (leadingHyper data) = data := by
  match data, eight with
  | [b0, b1, b2, b3, b4, b5, b6, b7], _ =>
      rw [leadingHyper, be64_hyper]
      exact congrArg₂ (· ++ ·) (be32_word b0 b1 b2 b3) (be32_word b4 b5 b6 b7)

end Nfs3Rpc.Encoding
