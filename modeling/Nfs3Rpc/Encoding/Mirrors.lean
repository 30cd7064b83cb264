/-
This file runs two programs side by side, each on a state of its own: they return, or raise errors, together.
-/

import Nfs3Rpc.Encoding.Triples

namespace Nfs3Rpc.Encoding

variable {ε δ σ τ α β α' β' : Type}

/-- From related states both programs return with related values, or raise related errors. -/
def Mirrors (pre : σ → τ → Prop) (program : EStateM ε σ α) (other : EStateM δ τ β)
    (post : α → β → σ → τ → Prop)
    (stopped : ε → δ → σ → τ → Prop) : Prop :=
  ∀ state mirror, pre state mirror →
    (∃ value found next reached, program state = .ok value next ∧ other mirror = .ok found reached ∧
      post value found next reached) ∨
    ∃ error raised next reached, program state = .error error next ∧ other mirror = .error raised reached ∧
      stopped error raised next reached

/-- The error of a program is caught, and the caller goes on with it. -/
def caught (program : EStateM ε σ α) : EStateM δ σ (Except ε α) := fun state =>
  match program state with
  | .ok value next => .ok (.ok value) next
  | .error error next => .ok (.error error) next

/-- The calls run one after the other, and the caller keeps what each of them returns. -/
def inOrder {κ : Type} (run : κ → EStateM ε σ α) : List κ → EStateM ε σ (List α)
  | [] => return []
  | call :: calls => do
    let value ← run call
    let values ← inOrder run calls
    return value :: values

variable {pre : σ → τ → Prop} {program : EStateM ε σ α} {other : EStateM δ τ β}
    {stopped : ε → δ → σ → τ → Prop}

theorem Mirrors.pure {value : α} {found : β} {post : α → β → σ → τ → Prop}
    (holds : ∀ state mirror, pre state mirror → post value found state mirror) :
    Mirrors pre (Pure.pure value : EStateM ε σ α) (Pure.pure found : EStateM δ τ β) post stopped := by
  intro state mirror held
  left
  exact ⟨value, found, state, mirror, rfl, rfl, holds state mirror held⟩

theorem Mirrors.modify {f : σ → σ} {g : τ → τ} {post : PUnit → PUnit → σ → τ → Prop}
    (holds : ∀ state mirror, pre state mirror → post ⟨⟩ ⟨⟩ (f state) (g mirror)) :
    Mirrors pre (modify f : EStateM ε σ PUnit) (modify g : EStateM δ τ PUnit) post stopped := by
  intro state mirror held
  left
  exact ⟨⟨⟩, ⟨⟩, f state, g mirror, rfl, rfl, holds state mirror held⟩

theorem Mirrors.bind {middle : α → β → σ → τ → Prop} {next : α → EStateM ε σ α'}
    {later : β → EStateM δ τ β'}
    {post : α' → β' → σ → τ → Prop} (first : Mirrors pre program other middle stopped)
    (second : ∀ value found, Mirrors (middle value found) (next value) (later found) post stopped) :
    Mirrors pre (program >>= next) (other >>= later) post stopped := by
  intro state mirror held
  obtain ⟨value, found, reached, matched, runs, runs', after⟩ |
      ⟨error, raised, last, last', fails, fails', after⟩ :=
    first state mirror held
  · rw [bind_of_ok runs, bind_of_ok runs']
    exact second value found reached matched after
  · right
    exact ⟨error, raised, last, last', bind_of_error fails, bind_of_error fails', after⟩

theorem Mirrors.weaken {stronger : σ → τ → Prop} {strong weak : α → β → σ → τ → Prop}
    (inner : Mirrors pre program other strong stopped)
    (starts : ∀ state mirror, stronger state mirror → pre state mirror)
    (implies : ∀ value found state mirror, strong value found state mirror → weak value found state mirror) :
    Mirrors stronger program other weak stopped := by
  intro state mirror held
  obtain ⟨value, found, next, reached, runs, runs', after⟩ | failed := inner state mirror (starts state mirror held)
  · left
    exact ⟨value, found, next, reached, runs, runs', implies value found next reached after⟩
  · exact .inr failed

/-- This form of the sequence rule passes on a value that both programs have read. -/
theorem Mirrors.field {middle : σ → τ → Prop} {other : EStateM δ τ α} {next : α → EStateM ε σ α'}
    {later : α → EStateM δ τ β'} {post : α' → β' → σ → τ → Prop}
    (first : Mirrors pre program other (fun value found state mirror => value = found ∧ middle state mirror) stopped)
    (second : ∀ value, Mirrors middle (next value) (later value) post stopped) :
    Mirrors pre (program >>= next) (other >>= later) post stopped := by
  apply Mirrors.bind first
  rintro value found state mirror ⟨rfl, held⟩
  exact second value state mirror held

/-- The values are converted at the end. -/
theorem Mirrors.closing {f : α → α'} {g : β → β'} {middle : α → β → σ → τ → Prop}
    {post : α' → β' → σ → τ → Prop}
    (first : Mirrors pre program other middle stopped)
    (holds : ∀ value found state mirror, middle value found state mirror → post (f value) (g found) state mirror) :
    Mirrors pre (program >>= fun value => Pure.pure (f value)) (other >>= fun found => Pure.pure (g found)) post
      stopped :=
  Mirrors.bind first fun value found => Mirrors.pure (holds value found)

/-- What two programs raise is returned instead. -/
theorem Mirrors.caught {ε' δ' : Type} {related : Except ε α → Except δ β → Prop} {left : σ → τ → Prop}
    {stops : ε' → δ' → σ → τ → Prop}
    (inner : Mirrors pre program other (fun value found state mirror => related (.ok value) (.ok found) ∧
      left state mirror)
      fun error raised state mirror => related (.error error) (.error raised) ∧ left state mirror) :
    Mirrors pre (caught program : EStateM ε' σ _) (caught other : EStateM δ' τ _)
      (fun value found state mirror => related value found ∧ left state mirror) stops := by
  intro state mirror held
  left
  obtain ⟨value, found, next, reached, runs, runs', after⟩ |
      ⟨error, raised, next, reached, fails, fails', after⟩ :=
    inner state mirror held
  · exact ⟨.ok value, .ok found, next, reached, by simp only [Encoding.caught, runs],
      by simp only [Encoding.caught, runs'], after⟩
  · exact ⟨.error error, .error raised, next, reached, by simp only [Encoding.caught, fails],
      by simp only [Encoding.caught, fails'], after⟩

/-- Two runs of the same calls return related values, as long as each call keeps the relation of the states. -/
theorem Mirrors.inOrder {κ : Type} {run : κ → EStateM ε σ α} {follow : κ → EStateM δ τ β}
    {related : α → β → Prop}
    {calls : List κ} (step : ∀ call ∈ calls, Mirrors pre (run call) (follow call)
      (fun value found state mirror => related value found ∧ pre state mirror) stopped) :
    Mirrors pre (inOrder run calls) (inOrder follow calls)
      (fun values founds state mirror => List.Forall₂ related values founds ∧ pre state mirror) stopped := by
  induction calls with
  | nil => exact Mirrors.pure fun _ _ held => ⟨.nil, held⟩
  | cons call calls later =>
      obtain ⟨first, rest⟩ := List.forall_mem_cons.mp step
      apply Mirrors.bind first
      rintro value found state mirror ⟨same, held⟩
      apply Mirrors.closing (later rest) _ state mirror held
      intro values founds final reached held
      exact ⟨.cons same held.1, held.2⟩

/-- A run in order is a run of its first call, and of the others from there. -/
theorem inOrder_cons_ok {κ : Type} {run : κ → EStateM ε σ α} {call : κ} {calls : List κ} {values : List α}
    {state last : σ} (runs : inOrder run (call :: calls) state = .ok values last) :
    ∃ value rest next, values = value :: rest ∧ run call state = .ok value next ∧
      inOrder run calls next = .ok rest last := by
  obtain ⟨value, next, first, continues⟩ := ok_of_bind_ok runs
  obtain ⟨rest, final, second, ends⟩ := ok_of_bind_ok continues
  obtain ⟨rfl, rfl⟩ := EStateM.Result.ok.inj ends
  exact ⟨value, rest, next, rfl, first, second⟩

end Nfs3Rpc.Encoding
