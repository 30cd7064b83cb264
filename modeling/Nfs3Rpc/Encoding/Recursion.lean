/-
This file states when a recursive reader ends, and how many bytes its result has cost.
A measure counts what is left of the input, and each recursive call must find less of it.
-/

import Nfs3Rpc.Encoding.Programs

namespace Nfs3Rpc.Encoding

variable {ε σ α β ι : Type}

/-- The program pays for its result: with the credit of earlier steps, the input covers the cost. -/
def Spends (left : σ → Nat) (program : EStateM ε σ α) (credit : Nat) (cost : α → Nat) : Prop :=
  ∀ state value next, program state = .ok value next → left next + cost value ≤ left state + credit

/-- The two programs do the same wherever less than the bound is left. -/
def SameBelow (left : σ → Nat) (bound : Nat) (program other : EStateM ε σ α) : Prop :=
  ∀ state, left state < bound → program state = other state

/-- A recursive body looks at its recursive calls only where less is left. -/
def Guarded (left : σ → Nat) (body : (ι → EStateM ε σ α) → ι → EStateM ε σ α) : Prop :=
  ∀ bound (call other : ι → EStateM ε σ α), (∀ index, SameBelow left bound (call index) (other index)) →
    ∀ index, SameBelow left (bound + 1) (body call index) (body other index)

/-- The recursion ends with this result: after finitely many calls, the result does not depend on what a
deeper call would do. -/
def Settles (body : (ι → EStateM ε σ α) → ι → EStateM ε σ α) (index : ι) (state : σ)
    (result : EStateM.Result ε σ α) : Prop :=
  ∃ calls, ∀ deeper, body^[calls] deeper index state = result

variable {left : σ → Nat} {program : EStateM ε σ α} {next : α → EStateM ε σ β} {credit : Nat}

theorem Spends.pure {cost : α → Nat} {value : α} (covered : cost value ≤ credit) :
    Spends left (Pure.pure value : EStateM ε σ α) credit cost := by
  intro state got last runs
  obtain ⟨rfl, rfl⟩ := EStateM.Result.ok.inj runs
  omega

/-- What the first program has paid is credit for the next one. -/
theorem Spends.bind {price : α → Nat} {cost : β → Nat} (first : Spends left program 0 price)
    (second : ∀ value, Spends left (next value) (credit + price value) cost) :
    Spends left (program >>= next) credit cost := by
  intro state final last runs
  obtain ⟨value, middle, starts, continues⟩ := ok_of_bind_ok runs
  have paid := first state value middle starts
  have rest := second value middle final last continues
  omega

/-- This form of the sequence rule gives up what the first program has paid. -/
theorem Spends.free {price : α → Nat} {cost : β → Nat} (first : Spends left program 0 price)
    (second : ∀ value, Spends left (next value) credit cost) : Spends left (program >>= next) credit cost := by
  intro state final last runs
  obtain ⟨value, middle, starts, continues⟩ := ok_of_bind_ok runs
  have paid := first state value middle starts
  have rest := second value middle final last continues
  omega

theorem Spends.weaken {cost less : α → Nat} (inner : Spends left program credit cost)
    (cheaper : ∀ value, less value ≤ cost value) : Spends left program credit less := by
  intro state value last runs
  have paid := inner state value last runs
  have smaller := cheaper value
  omega

theorem SameBelow.refl (bound : Nat) (program : EStateM ε σ α) : SameBelow left bound program program := by
  intro state _
  rfl

/-- A first step that takes something from the input raises the bound. -/
theorem SameBelow.after {bound taken : Nat} {other : α → EStateM ε σ β}
    (first : Spends left program 0 fun _ => taken)
    (second : ∀ value, SameBelow left bound (next value) (other value)) :
    SameBelow left (bound + taken) (program >>= next) (program >>= other) := by
  intro state below
  cases starts : program state with
  | ok value middle =>
      rw [bind_of_ok starts, bind_of_ok starts]
      apply second value middle
      have paid : left middle + taken ≤ left state + 0 := first state value middle starts
      omega
  | error error last => rw [bind_of_error starts, bind_of_error starts]

/-- This form of the rule forgets what the first step takes. -/
theorem SameBelow.step {bound taken : Nat} {other : α → EStateM ε σ β}
    (first : Spends left program 0 fun _ => taken)
    (second : ∀ value, SameBelow left bound (next value) (other value)) :
    SameBelow left bound (program >>= next) (program >>= other) := by
  intro state below
  exact SameBelow.after first second state (by omega)

theorem SameBelow.head {bound : Nat} {other : EStateM ε σ α} {following : α → EStateM ε σ β}
    (first : SameBelow left bound program other) :
    SameBelow left bound (program >>= following) (other >>= following) := by
  intro state below
  change EStateM.bind program following state = EStateM.bind other following state
  rw [EStateM.bind, EStateM.bind, first state below]

theorem SameBelow.iterate {body : (ι → EStateM ε σ α) → ι → EStateM ε σ α} (guarded : Guarded left body)
    (bound : Nat) (call other : ι → EStateM ε σ α) (index : ι) :
    SameBelow left bound (body^[bound] call index) (body^[bound] other index) := by
  induction bound generalizing index with
  | zero =>
      intro state below
      omega
  | succ bound shallower =>
      rw [Function.iterate_succ_apply', Function.iterate_succ_apply']
      exact guarded bound _ _ shallower index

/-- A family with one more call at each level computes the recursion, as soon as its level covers what is
left of the input. -/
theorem Settles.of_levels {body : (ι → EStateM ε σ α) → ι → EStateM ε σ α}
    {levels : Nat → ι → EStateM ε σ α} (guarded : Guarded left body)
    (unfolds : ∀ level, levels (level + 1) = body (levels level))
    (lowest : ∀ call index state, left state = 0 → levels 0 index state = body call index state)
    (index : ι) (state : σ) (level : Nat) (covered : left state ≤ level) :
    Settles body index state (levels level index state) := by
  have iterates : ∀ level, levels level = body^[level] (levels 0) := by
    intro level
    induction level with
    | zero => rfl
    | succ level earlier => rw [unfolds, earlier, Function.iterate_succ_apply']
  have saturated : ∀ level index state, left state ≤ level →
      levels level index state = levels (level + 1) index state := by
    intro level
    induction level with
    | zero =>
        intro index state covered
        rw [unfolds]
        exact lowest _ index state (by omega)
    | succ level earlier =>
        intro index state covered
        rw [unfolds level, unfolds (level + 1)]
        apply guarded (level + 1) _ _ _ index state (by omega)
        intro deeper reached below
        exact earlier deeper reached (by omega)
  refine ⟨level + 1, fun deeper => ?_⟩
  rw [saturated level index state covered, iterates]
  exact SameBelow.iterate guarded (level + 1) _ _ index state (by omega)

end Nfs3Rpc.Encoding
