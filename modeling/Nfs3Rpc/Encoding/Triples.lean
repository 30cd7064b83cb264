/-
This file states total correctness of a program: from every state of a set it returns, or from none.
-/

import Nfs3Rpc.Encoding.Programs

namespace Nfs3Rpc.Encoding

variable {ε σ α β : Type}

/-- From each of these states the program returns, and the result meets the condition. -/
def Returns (pre : σ → Prop) (program : EStateM ε σ α) (post : α → σ → Prop) : Prop :=
  ∀ state, pre state → ∃ value next, program state = .ok value next ∧ post value next

/-- From none of these states the program returns. -/
def NeverReturns (pre : σ → Prop) (program : EStateM ε σ α) : Prop :=
  ∀ state, pre state → ∀ value next, program state ≠ .ok value next

theorem Returns.pure {pre : σ → Prop} {value : α} {post : α → σ → Prop}
    (holds : ∀ state, pre state → post value state) :
    Returns pre (Pure.pure value : EStateM ε σ α) post := by
  intro state held
  exact ⟨value, state, rfl, holds state held⟩

theorem Returns.bind {pre : σ → Prop} {program : EStateM ε σ α} {next : α → EStateM ε σ β}
    {middle : α → σ → Prop} {post : β → σ → Prop} (first : Returns pre program middle)
    (second : ∀ value, Returns (middle value) (next value) post) : Returns pre (program >>= next) post := by
  intro state held
  obtain ⟨value, reached, runs, after⟩ := first state held
  obtain ⟨final, last, continues, finished⟩ := second value reached after
  refine ⟨final, last, ?_, finished⟩
  rw [bind_of_ok runs]
  exact continues

theorem Returns.weaken {pre : σ → Prop} {program : EStateM ε σ α} {strong weak : α → σ → Prop}
    (inner : Returns pre program strong) (implies : ∀ value state, strong value state → weak value state) :
    Returns pre program weak := by
  intro state held
  obtain ⟨value, next, runs, holds⟩ := inner state held
  exact ⟨value, next, runs, implies value next holds⟩

/-- A program that raises an error never returns. -/
theorem NeverReturns.throw {pre : σ → Prop} {error : ε} :
    NeverReturns pre (MonadExceptOf.throw error : EStateM ε σ α) := by
  intro state _ value next runs
  exact nomatch runs

/-- A sequence stops where its first program stops. -/
theorem NeverReturns.bind {pre : σ → Prop} {program : EStateM ε σ α} {next : α → EStateM ε σ β}
    (first : NeverReturns pre program) : NeverReturns pre (program >>= next) := by
  intro state held final last runs
  obtain ⟨value, middle, starts, _⟩ := ok_of_bind_ok runs
  exact first state held value middle starts

theorem NeverReturns.after {pre : σ → Prop} {program : EStateM ε σ α} {next : α → EStateM ε σ β}
    {middle : α → σ → Prop} (first : Returns pre program middle)
    (second : ∀ value, NeverReturns (middle value) (next value)) : NeverReturns pre (program >>= next) := by
  intro state held final last runs
  obtain ⟨value, reached, starts, after⟩ := first state held
  rw [bind_of_ok starts] at runs
  exact second value reached after final last runs

/-- Whatever its first program does, a sequence does not return when its second program never does. -/
theorem NeverReturns.later {pre : σ → Prop} {program : EStateM ε σ α} {next : α → EStateM ε σ β}
    (second : ∀ value, NeverReturns (fun _ => True) (next value)) : NeverReturns pre (program >>= next) := by
  intro state _ final last runs
  obtain ⟨value, middle, _, continues⟩ := ok_of_bind_ok runs
  exact second value middle trivial final last continues

/-- From each of these states the program returns in a state of one kind, or raises its error in a state of another. -/
structure Exits (pre : σ → Prop) (program : EStateM ε σ α) (post : α → σ → Prop)
    (stopped : σ → Prop) : Prop where
  returned : ∀ state, pre state → ∀ value next, program state = .ok value next → post value next
  raised : ∀ state, pre state → ∀ error next, program state = .error error next → stopped next

theorem Exits.pure {pre stopped : σ → Prop} {value : α} {post : α → σ → Prop}
    (holds : ∀ state, pre state → post value state) : Exits pre
    (Pure.pure value : EStateM ε σ α) post stopped where
  returned := by
    intro state held got next runs
    obtain ⟨rfl, rfl⟩ := EStateM.Result.ok.inj runs
    exact holds state held
  raised := by
    intro state _ error next runs
    cases runs

theorem Exits.throw {pre stopped : σ → Prop} {error : ε} {post : α → σ → Prop}
    (holds : ∀ state, pre state → stopped state) :
    Exits pre (MonadExceptOf.throw error : EStateM ε σ α) post stopped where
  returned := by
    intro state _ value next runs
    cases runs
  raised := by
    intro state held raised next runs
    obtain ⟨_, rfl⟩ := EStateM.Result.error.inj runs
    exact holds state held

/-- Nothing is asked of a program that no run comes to. -/
theorem Exits.unreachable {program : EStateM ε σ α} {post : α → σ → Prop} {stopped : σ → Prop} :
    Exits (fun _ => False) program post stopped :=
  ⟨fun _ never => never.elim, fun _ never => never.elim⟩

/-- Nothing is said of where the program exits. -/
theorem Exits.anywhere {pre : σ → Prop} {program : EStateM ε σ α} :
    Exits pre program (fun _ _ => True) fun _ => True :=
  ⟨fun _ _ _ _ _ => trivial, fun _ _ _ _ _ => trivial⟩

theorem Exits.bind {pre stopped : σ → Prop} {program : EStateM ε σ α} {next : α → EStateM ε σ β}
    {middle : α → σ → Prop} {post : β → σ → Prop} (first : Exits pre program middle stopped)
    (second : ∀ value, Exits (middle value) (next value) post stopped) :
    Exits pre (program >>= next) post stopped where
  returned := by
    intro state held final last runs
    obtain ⟨value, reached, starts, continues⟩ := ok_of_bind_ok runs
    exact (second value).returned reached (first.returned state held value reached starts) final last continues
  raised := by
    intro state held error last runs
    cases starts : program state with
    | ok value reached =>
        rw [bind_of_ok starts] at runs
        exact (second value).raised reached (first.returned state held value reached starts) error last runs
    | error raised reached =>
        rw [bind_of_error starts] at runs
        obtain ⟨_, rfl⟩ := EStateM.Result.error.inj runs
        exact first.raised state held raised reached starts

theorem Exits.weaken {pre weaker stopped : σ → Prop} {program : EStateM ε σ α} {strong weak : α → σ → Prop}
    (inner : Exits weaker program strong stopped) (starts : ∀ state, pre state → weaker state)
    (implies : ∀ value state, strong value state → weak value state) : Exits pre program weak stopped where
  returned := fun state held value next runs =>
    implies value next (inner.returned state (starts state held) value next runs)
  raised := fun state held => inner.raised state (starts state held)

theorem Exits.modify {pre stopped : σ → Prop} {f : σ → σ} {post : PUnit → σ → Prop}
    (holds : ∀ state, pre state → post ⟨⟩ (f state)) : Exits pre
    (modify f : EStateM ε σ PUnit) post stopped where
  returned := by
    intro state held value next runs
    obtain ⟨rfl, rfl⟩ := EStateM.Result.ok.inj runs
    exact holds state held
  raised := by
    intro state _ error next runs
    cases runs

/-- A program that looks at its state goes on from that state. -/
theorem Exits.looking {pre stopped : σ → Prop} {next : σ → EStateM ε σ α} {post : α → σ → Prop}
    (inner : ∀ state, pre state → Exits (· = state) (next state) post stopped) :
    Exits pre (get >>= next) post stopped where
  returned := fun state held value last runs => (inner state held).returned state rfl value last runs
  raised := fun state held error last runs => (inner state held).raised state rfl error last runs

/-- A program may replace its state. -/
theorem Exits.setting {pre stopped : σ → Prop} {state : σ} {next : PUnit → EStateM ε σ α}
    {post : α → σ → Prop}
    (inner : Exits (· = state) (next ⟨⟩) post stopped) : Exits pre (set state >>= next) post stopped where
  returned := fun _ _ value last runs => inner.returned state rfl value last runs
  raised := fun _ _ error last runs => inner.raised state rfl error last runs

/-- A program that checks a condition first either stops there or knows that it does not hold. -/
theorem Exits.unless {pre stopped : σ → Prop} {condition : Prop} [Decidable condition] {error : ε}
    {next : PUnit → EStateM ε σ α} {post : α → σ → Prop}
    (held : condition → ∀ state, pre state → stopped state)
    (rest : ¬ condition → Exits pre (next ⟨⟩) post stopped) :
    Exits pre (if condition then MonadExceptOf.throw error >>= next else next ⟨⟩) post stopped := by
  by_cases holds : condition
  · rw [if_pos holds]
    exact Exits.bind (Exits.throw (held holds)) fun _ => Exits.unreachable
  · rw [if_neg holds]
    exact rest holds

/-- Sequences agree when their second programs do so where the first one leads. -/
theorem bind_congr_of_ok {program : EStateM ε σ α} {first second : α → EStateM ε σ β} {state : σ}
    (same : ∀ value next, program state = .ok value next → first value next = second value next) :
    (program >>= first) state = (program >>= second) state := by
  cases runs : program state with
  | ok value next => rw [bind_of_ok runs, bind_of_ok runs, same value next runs]
  | error error next => rw [bind_of_error runs, bind_of_error runs]

/-- A program leaves its state, whether it returns or raises an error. -/
def stateAfter (program : EStateM ε σ α) (state : σ) : σ :=
  match program state with
  | .ok _ next => next
  | .error _ next => next

theorem Exits.after {pre stopped : σ → Prop} {program : EStateM ε σ α} {state : σ}
    (exits : Exits pre program (fun _ => stopped) stopped) (held : pre state) : stopped (stateAfter program state) := by
  unfold stateAfter
  cases runs : program state with
  | ok value next => exact exits.returned state held value next runs
  | error error next => exact exits.raised state held error next runs

end Nfs3Rpc.Encoding
