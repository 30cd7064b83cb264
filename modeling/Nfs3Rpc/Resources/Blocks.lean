/-
This file hands out blocks and takes them back: a block that is not out can be neither taken back nor read.
-/

import Nfs3Rpc.Encoding.Triples
import Nfs3Rpc.Resources.Ledger

namespace Nfs3Rpc.Resources
open Encoding

variable {α : Type} [DecidableEq α]

/-- A block is named after its allocation, so no name is used twice. -/
structure Allocator (α : Type) where
  next : List (Entry α) → α
  fresh : ∀ ledger, Entry.acquired (next ledger) ∉ ledger

/-- These are the two misuses of a block. -/
inductive Misuse where
  | invalidFree
  | invalidRead
  deriving DecidableEq

abbrev Heap (α : Type) := EStateM Misuse (List (Entry α))

def malloc (allocator : Allocator α) : Heap α α := fun ledger =>
  .ok (allocator.next ledger) (ledger ++ [.acquired (allocator.next ledger)])

/-- The null pointer may be freed. -/
def free (pointer : Option α) : Heap α Unit := fun ledger =>
  match pointer with
  | none => .ok () ledger
  | some block => if held block ledger then .ok () (ledger ++ [.released block]) else .error .invalidFree ledger

def load (pointer : Option α) : Heap α Unit := fun ledger =>
  match pointer with
  | none => .error .invalidRead ledger
  | some block => if held block ledger then .ok () ledger else .error .invalidRead ledger

/-- The block behind a pointer. -/
def blocks (pointer : Option α) : Multiset α :=
  match pointer with
  | none => 0
  | some block => {block}

/-- Exactly these blocks are out, each with one owner. -/
structure Accounts (ledger : List (Entry α)) (owned : Multiset α) : Prop where
  settled : Settled ledger
  unique : owned.Nodup
  held_iff : ∀ block, held block ledger = true ↔ block ∈ owned

variable {ledger : List (Entry α)} {owned : Multiset α} {block : α}

/-- Only a block that was handed out is out. -/
theorem acquired_of_held (out : held block ledger = true) : Entry.acquired block ∈ ledger := by
  induction ledger using List.reverseRecOn with
  | nil => cases out
  | append_singleton ledger last recurse =>
      cases last with
      | acquired other =>
          rw [held_acquired, Bool.or_eq_true, decide_eq_true_iff] at out
          rcases out with rfl | out
          · simp
          · exact List.mem_append_left _ (recurse out)
      | released other =>
          rw [held_released, Bool.and_eq_true] at out
          exact List.mem_append_left _ (recurse out.2)

theorem Allocator.next_free (allocator : Allocator α) (ledger : List (Entry α)) :
    held (allocator.next ledger) ledger = false := by
  rw [Bool.eq_false_iff]
  exact fun out => allocator.fresh ledger (acquired_of_held out)

theorem Accounts.empty : Accounts ([] : List (Entry α)) 0 where
  settled := Settled.empty
  unique := Multiset.nodup_zero
  held_iff block := by simp

theorem Accounts.acquire (accounts : Accounts ledger owned) (fresh : held block ledger = false) :
    Accounts (ledger ++ [.acquired block]) ({block} + owned) where
  settled := accounts.settled.acquire fresh
  unique := by
    have other : block ∉ owned := by
      intro member
      rw [(accounts.held_iff block).mpr member] at fresh
      cases fresh
    exact Multiset.nodup_cons.mpr ⟨other, accounts.unique⟩
  held_iff other := by
    rw [held_acquired, Bool.or_eq_true, decide_eq_true_iff, accounts.held_iff, Multiset.mem_add,
      Multiset.mem_singleton, eq_comm]

theorem Accounts.release (accounts : Accounts ledger ({block} + owned)) :
    Accounts (ledger ++ [.released block]) owned where
  settled := accounts.settled.release ((accounts.held_iff block).mpr (by simp))
  unique := (Multiset.nodup_cons.mp accounts.unique).2
  held_iff other := by
    have absent : block ∉ owned := (Multiset.nodup_cons.mp accounts.unique).1
    rw [held_released, Bool.and_eq_true, decide_eq_true_iff, accounts.held_iff, Multiset.mem_add,
      Multiset.mem_singleton]
    constructor
    · rintro ⟨different, rfl | member⟩
      · exact absurd rfl different
      · exact member
    · intro member
      exact ⟨fun same => absent (same ▸ member), .inr member⟩

/-- A fresh block joins those that are out. -/
theorem malloc_returns (allocator : Allocator α) :
    Returns (Accounts · owned) (malloc allocator) fun block ledger => Accounts ledger ({block} + owned) := by
  intro ledger accounts
  exact ⟨_, _, rfl, accounts.acquire (allocator.next_free ledger)⟩

theorem free_returns (pointer : Option α) :
    Returns (Accounts · (blocks pointer + owned)) (free pointer) fun _ ledger => Accounts ledger owned := by
  intro ledger accounts
  cases pointer with
  | none =>
      rw [blocks, zero_add] at accounts
      exact ⟨(), ledger, rfl, accounts⟩
  | some block =>
      have out : held block ledger = true := (accounts.held_iff block).mpr (by simp [blocks])
      refine ⟨(), ledger ++ [.released block], ?_, accounts.release⟩
      simp only [free, out, if_true]

theorem load_out (out : held block ledger = true) : load (some block) ledger = .ok () ledger := by
  simp only [load, out, if_true]

theorem load_returns (member : block ∈ owned) :
    Returns (Accounts · owned) (load (some block)) fun _ ledger => Accounts ledger owned := by
  intro ledger accounts
  have out : held block ledger = true := (accounts.held_iff block).mpr member
  exact ⟨(), ledger, load_out out, accounts⟩

/-- A block that is not out is not read. -/
theorem load_stops (absent : block ∉ owned) : NeverReturns (Accounts · owned) (load (some block)) := by
  intro ledger accounts value next runs
  have dead : ¬ held block ledger = true := fun out => absent ((accounts.held_iff block).mp out)
  simp only [load, dead, Bool.false_eq_true, if_false] at runs
  cases runs

/-- The program takes over the blocks that its caller had, leaves these behind, and touches no others. -/
def Trades {β : Type} (taken : Multiset α) (program : Heap α β) (left : β → Multiset α) : Prop :=
  ∀ owned, Returns (Accounts · (taken + owned)) program fun value ledger => Accounts ledger (left value + owned)

section Trades

variable {β γ : Type} {taken kept : Multiset α} {program : Heap α β} {left middle : β → Multiset α}

theorem Trades.pure {value : β} (same : taken = left value) : Trades taken (Pure.pure value) left := by
  intro owned
  exact Returns.pure fun ledger accounts => same ▸ accounts

theorem Trades.bind {next : β → Heap α γ} {last : γ → Multiset α} (first : Trades taken program middle)
    (second : ∀ value, Trades (middle value) (next value) last) : Trades taken (program >>= next) last :=
  fun owned => Returns.bind (first owned) fun value => second value owned

theorem Trades.frame (inner : Trades taken program left) (kept : Multiset α) :
    Trades (taken + kept) program fun value => left value + kept := by
  intro owned
  have whole := inner (kept + owned)
  simpa only [add_assoc] using whole

/-- The blocks that a step does not need wait for the next one. -/
theorem Trades.andThen {next : β → Heap α γ} {last : γ → Multiset α} (first : Trades taken program middle)
    (second : ∀ value, Trades (middle value + kept) (next value) last) :
    Trades (taken + kept) (program >>= next) last :=
  (first.frame kept).bind second

theorem free_trades (pointer : Option α) : Trades (blocks pointer) (free pointer) fun _ => 0 := by
  intro owned
  simpa only [zero_add] using @free_returns α _ owned pointer

theorem malloc_trades (allocator : Allocator α) : Trades 0 (malloc allocator) fun block => {block} := by
  intro owned
  rw [zero_add]
  exact malloc_returns allocator

theorem load_trades : Trades {block} (load (some block)) fun _ => {block} := fun _ =>
  load_returns (Multiset.mem_add.mpr (.inl (Multiset.mem_singleton_self block)))

end Trades

omit [DecidableEq α] in
/-- One element of a sum is replaced, and the rest of the sum stays. -/
theorem sum_set {ι : Type} (worth : ι → Multiset α) {list : List ι} {index : Nat} {old : ι}
    (found : list[index]? = some old) :
    ∃ rest, (list.map worth).sum = worth old + rest ∧
      ∀ new, ((list.set index new).map worth).sum = worth new + rest := by
  induction list generalizing index with
  | nil => cases found
  | cons first list recurse =>
      cases index with
      | zero =>
          obtain rfl := Option.some.inj found
          exact ⟨(list.map worth).sum, rfl, fun _ => rfl⟩
      | succ index =>
          obtain ⟨rest, before, after⟩ := recurse found
          refine ⟨worth first + rest, ?_, fun new => ?_⟩
          · rw [List.map_cons, List.sum_cons, before, add_left_comm]
          · rw [List.set_cons_succ, List.map_cons, List.sum_cons, after, add_left_comm]

end Nfs3Rpc.Resources
