import Nfs3Rpc.Proof.Csuite.Truncated
import Nfs3Rpc.Proof.Csuite.Walk

namespace Nfs3Rpc.Csuite
open Encoding

variable {ε ρ ok : Type} {b : Bytes} {garbage : UInt32 → Prop} {depth pos size : Nat}
    {flagAt : Bytes → Nat → Nat}
  {fields : Run ε} {unpack : Nat → Run (List ε)}

/-- The two chains differ in the fields of an entry. -/
structure EntryDecoder (flagAt : Bytes → Nat → Nat) (size : Nat) (fields : Run ε)
    (unpack : Nat → Run (List ε)) : Prop where
  empty : unpack 0 = throw .callDepth
  step : ∀ level, unpack (level + 1) = do
    let e ← fields
    let hasNext ← uninitialized
    let hasNext ← into hasNext.toInt32 xdrUnpackBool
    if hasNext ≠ 0 then
      let entries ← unpack level
      return e :: entries
    else
      return [e]
  walks : ∀ {b garbage depth pos}, NameFits b (skip 8 b pos) →
    Walks b garbage depth fields pos (flagAt b pos) fun _ => True
  hangs : ∀ {b garbage depth pos}, ¬ NameFits b (skip 8 b pos) → Hangs b garbage depth fields pos
  later : ∀ b pos, pos ≤ flagAt b pos
  apart : ∀ b pos, flagAt b pos + 8 ≤ b.length → pos + size ≤ flagAt b pos + 4

/-- A linked entry has its own presence word in the buffer. -/
theorem Linked.inside (linked : Linked flagAt b pos) : flagAt b pos + 4 ≤ b.length := by
  cases linked with
  | last name inside zero => exact inside
  | more name set later => exact set.1

/-- Where no word is left, no entry is linked. -/
theorem EntryDecoder.broken_of_missing (decoder : EntryDecoder flagAt size fields unpack)
    (missing : ¬ pos + 4 ≤ b.length) : ¬ Linked flagAt b pos := by
  intro linked
  have inside := linked.inside
  have moved := decoder.later b pos
  omega

/-- Where a presence word is missing, each level of the recursion starts the next one. -/
theorem EntryDecoder.hangs_of_broken (decoder : EntryDecoder flagAt size fields unpack) (level : Nat)
    (broken : ¬ Linked flagAt b pos) : Hangs b (· = 1) depth (unpack level) pos := by
  induction level generalizing pos with
  | zero =>
      rw [decoder.empty]
      exact NeverReturns.throw
  | succ level recurse =>
      rw [decoder.step]
      by_cases name : NameFits b (skip 8 b pos)
      · apply Hangs.after (decoder.walks name)
        intro e _
        apply Hangs.after uninitialized_walks
        intro word one
        subst one
        apply Hangs.after (intoBool_walks _)
        intro hasNext read
        by_cases inside : flagAt b pos + 4 ≤ b.length
        · rw [if_pos inside] at read
          have set : wordAt b (flagAt b pos) ≠ 0 := fun zero => broken (.last name inside zero)
          rw [if_pos (read.mpr set), skip_enough inside]
          exact NeverReturns.bind (recurse fun later => broken (.more name ⟨inside, set⟩ later))
        · rw [if_neg inside] at read
          have set : hasNext ≠ 0 := by
            rw [read]
            decide
          rw [if_pos set, skip_missing inside]
          exact NeverReturns.bind (recurse (decoder.broken_of_missing inside))
      · exact NeverReturns.bind (decoder.hangs name)

/-- A linked chain ends after as many entries as it has set presence words, whatever the locals hold. -/
theorem EntryDecoder.returns_of_linked (decoder : EntryDecoder flagAt size fields unpack)
    (linked : Linked flagAt b pos) :
    ∃ count, pos + size * count ≤ b.length ∧ (∀ word ∈ presenceWords flagAt b count pos, FlagSet b word) ∧
      ∀ garbage depth level, count < level →
        ∃ stop, Walks b garbage depth (unpack level) pos stop (·.length = count + 1) := by
  induction linked with
  | @last pos name inside zero =>
      refine ⟨0, ?_, List.forall_mem_nil _, ?_⟩
      · have moved := decoder.later b pos
        omega
      · intro garbage depth level positive
        obtain ⟨level, rfl⟩ := Nat.exists_eq_succ_of_ne_zero (Nat.ne_of_gt positive)
        refine ⟨flagAt b pos + 4, ?_⟩
        rw [decoder.step]
        apply Walks.bind (decoder.walks name)
        intro e _
        apply Walks.bind uninitialized_walks
        intro word _
        apply Walks.bind (intoBool_walks _)
        intro hasNext read
        rw [if_pos inside] at read
        rw [if_neg fun set => read.mp set zero, skip_enough inside]
        exact .pure rfl
  | @more pos name set later recurse =>
      obtain ⟨count, room, words, returns⟩ := recurse
      refine ⟨count + 1, ?_, ?_, ?_⟩
      · have next := later.inside
        have moved := decoder.later b (flagAt b pos + 4)
        have apart := decoder.apart b pos (by omega)
        rw [Nat.mul_succ]
        omega
      · intro word member
        rcases List.mem_cons.mp member with rfl | further
        · exact set
        · exact words word further
      · intro garbage depth level enough
        obtain ⟨level, rfl⟩ := Nat.exists_eq_succ_of_ne_zero (Nat.ne_of_gt (Nat.zero_lt_of_lt enough))
        obtain ⟨stop, walks⟩ := returns garbage depth level (Nat.lt_of_succ_lt_succ enough)
        refine ⟨stop, ?_⟩
        rw [decoder.step]
        apply Walks.bind (decoder.walks name)
        intro e _
        apply Walks.bind uninitialized_walks
        intro word _
        apply Walks.bind (intoBool_walks _)
        intro hasNext read
        rw [if_pos set.1] at read
        rw [if_pos (read.mpr set.2), skip_enough set.1]
        apply Walks.bind walks
        intro entries length
        exact .pure (congrArg (· + 1) length)

end Nfs3Rpc.Csuite
