/-
This file is an adaptive program that sees a world only through operations: each operation may depend on the answers
to those before it.
-/

import Nfs3Rpc.Encoding.Programs

namespace Nfs3Rpc.Encoding

/-- An operation of an index has the answers of that index. -/
inductive Script {ι : Type} (Op Answer : ι → Type) (α : Type) where
  | done (value : α)
  | call (index : ι) (op : Op index) (next : Answer index → Script Op Answer α)

/-- A service answers an operation at once, from the state that it has then. -/
abbrev Service {ι : Type} (Op Answer : ι → Type) (σ : Type) :=
  (index : ι) → Op index → σ → Answer index × σ

/-- An operation, and the state in which it was asked for. -/
structure Asked {ι : Type} (Op : ι → Type) (σ : Type) where
  index : ι
  op : Op index
  state : σ

namespace Script

variable {ι ε σ τ α : Type} {Op Answer : ι → Type}

def run (perform : (index : ι) → Op index → EStateM ε τ (Answer index)) :
    Script Op Answer α → EStateM ε τ α
  | .done value => return value
  | .call index op next => do
    let answer ← perform index op
    run perform (next answer)

def runWith (serve : Service Op Answer σ) : Script Op Answer α → σ → α × σ
  | .done value, state => (value, state)
  | .call index op next, state => runWith serve (next (serve index op state).1) (serve index op state).2

/-- These are the operations of the run, each with its state. -/
def asked (serve : Service Op Answer σ) : Script Op Answer α → σ → List (Asked Op σ)
  | .done _, _ => []
  | .call index op next, state =>
      ⟨index, op, state⟩ :: asked serve (next (serve index op state).1) (serve index op state).2

/-- By induction on the script: a world that keeps up with the service over each operation keeps up over the run. -/
theorem run_of_steps {perform : (index : ι) → Op index → EStateM ε τ (Answer index)}
    {serve : Service Op Answer σ}
    {linked : τ → σ → List (Asked Op σ) → Prop}
    (step : ∀ index op world state later, linked world state (⟨index, op, state⟩ :: later) →
      ∃ next, perform index op world = .ok (serve index op state).1 next ∧
        linked next (serve index op state).2 later)
    (script : Script Op Answer α) (world : τ) (state : σ) (start : linked world state (script.asked serve state)) :
    ∃ last, script.run perform world = .ok (script.runWith serve state).1 last ∧
      linked last (script.runWith serve state).2 [] := by
  induction script generalizing world state with
  | done value => exact ⟨world, rfl, start⟩
  | call index op next recurse =>
      obtain ⟨middle, performs, still⟩ := step index op world state _ start
      obtain ⟨last, runs, ends⟩ := recurse (serve index op state).1 middle (serve index op state).2 still
      refine ⟨last, ?_, ends⟩
      rw [run, bind_of_ok performs]
      exact runs

end Script

/-- The members of a list get the numbers from a first one on. -/
def numbered {κ ρ : Type} (make : UInt32 → κ → ρ) : UInt32 → List κ → List ρ
  | _, [] => []
  | number, member :: members => make number member :: numbered make (number + 1) members

end Nfs3Rpc.Encoding
