/-
This file compares two runs of a decoder that start from the same bytes with different objects.
A third program reads the same bytes and returns the condition that relates the two results.
-/

import Nfs3Rpc.Encoding.Programs

namespace Nfs3Rpc.Encoding

variable {ε σ α β γ α' β' γ' : Type}

/-- From each state the three programs raise the same error, or return in the same state with related values. -/
def Alike (relation : α → β → γ → Prop) (first : EStateM ε σ α) (second : EStateM ε σ β)
    (third : EStateM ε σ γ) :
    Prop :=
  ∀ state,
    (∃ error last, first state = .error error last ∧ second state = .error error last ∧
      third state = .error error last) ∨
    ∃ a b c next, first state = .ok a next ∧ second state = .ok b next ∧
      third state = .ok c next ∧ relation a b c

theorem Alike.pure {relation : α → β → γ → Prop} {a : α} {b : β} {c : γ} (holds : relation a b c) :
    Alike relation (Pure.pure a : EStateM ε σ α) (Pure.pure b) (Pure.pure c) := by
  intro state
  right
  exact ⟨a, b, c, state, rfl, rfl, rfl, holds⟩

theorem Alike.bind {middle : α → β → γ → Prop} {relation : α' → β' → γ' → Prop}
    {first : EStateM ε σ α}
    {second : EStateM ε σ β} {third : EStateM ε σ γ} {first' : α → EStateM ε σ α'}
    {second' : β → EStateM ε σ β'}
    {third' : γ → EStateM ε σ γ'} (starts : Alike middle first second third)
    (continues : ∀ a b c, middle a b c → Alike relation (first' a) (second' b) (third' c)) :
    Alike relation (first >>= first') (second >>= second') (third >>= third') := by
  intro state
  obtain ⟨error, last, one, two, three⟩ | ⟨a, b, c, next, one, two, three, holds⟩ := starts state
  · left
    exact ⟨error, last, bind_of_error one, bind_of_error two, bind_of_error three⟩
  · rw [bind_of_ok one, bind_of_ok two, bind_of_ok three]
    exact continues a b c holds next

/-- A program that does not depend on the object is the same in all runs. -/
theorem Alike.same (program : EStateM ε σ α) : Alike (fun a b c => b = a ∧ c = a) program program program := by
  intro state
  cases runs : program state with
  | ok value next =>
      right
      exact ⟨value, value, value, next, rfl, rfl, rfl, rfl, rfl⟩
  | error error last =>
      left
      exact ⟨error, last, rfl, rfl, rfl⟩

/-- This form of the sequence rule passes on a field that does not depend on the object. -/
theorem Alike.field {relation : α' → β' → γ' → Prop} {program : EStateM ε σ α}
    {first : α → EStateM ε σ α'}
    {second : α → EStateM ε σ β'} {third : α → EStateM ε σ γ'}
    (continues : ∀ value, Alike relation (first value) (second value) (third value)) :
    Alike relation (program >>= first) (program >>= second) (program >>= third) := by
  apply Alike.bind (Alike.same program)
  intro value _ _ ⟨two, three⟩
  rw [two, three]
  exact continues value

theorem Alike.weaken {strong weak : α → β → γ → Prop} {first : EStateM ε σ α} {second : EStateM ε σ β}
    {third : EStateM ε σ γ} (inner : Alike strong first second third)
    (implies : ∀ a b c, strong a b c → weak a b c) : Alike weak first second third := by
  intro state
  obtain failed | ⟨a, b, c, next, one, two, three, holds⟩ := inner state
  · exact .inl failed
  · exact .inr ⟨a, b, c, next, one, two, three, implies a b c holds⟩

/-- The steps after the last field only build the two values. -/
theorem Alike.closing {middle : α → β → γ → Prop} {relation : α' → β' → γ → Prop}
    {first : EStateM ε σ α}
    {second : EStateM ε σ β} {third : EStateM ε σ γ} {f : α → α'} {g : β → β'}
    (starts : Alike middle first second third) (holds : ∀ a b c, middle a b c → relation (f a) (g b) c) :
    Alike relation (first >>= fun a => Pure.pure (f a)) (second >>= fun b => Pure.pure (g b)) third := by
  intro state
  obtain ⟨error, last, one, two, three⟩ | ⟨a, b, c, next, one, two, three, related⟩ := starts state
  · left
    exact ⟨error, last, bind_of_error one, bind_of_error two, three⟩
  · right
    exact ⟨f a, g b, c, next, bind_of_ok one, bind_of_ok two, three, holds a b c related⟩

/-- A relation that needs no condition leaves the third program free to return any value. -/
theorem Alike.returning {relation : α → β → Prop} {result : α → β → γ' → Prop} {first : EStateM ε σ α}
    {second : EStateM ε σ β} {third : EStateM ε σ γ} {value : γ'}
    (inner : Alike (fun a b _ => relation a b) first second third)
    (holds : ∀ a b, relation a b → result a b value) :
    Alike result first second (third >>= fun _ => Pure.pure value) := by
  intro state
  obtain ⟨error, last, one, two, three⟩ | ⟨a, b, c, next, one, two, three, related⟩ := inner state
  · left
    exact ⟨error, last, one, two, bind_of_error three⟩
  · right
    exact ⟨a, b, value, next, one, two, bind_of_ok three, holds a b related⟩

/-- Where the first program returns, the other two return in the same state. -/
theorem Alike.of_ok {relation : α → β → γ → Prop} {first : EStateM ε σ α} {second : EStateM ε σ β}
    {third : EStateM ε σ γ} {state next : σ} {a : α} (alike : Alike relation first second third)
    (runs : first state = .ok a next) :
    ∃ b c, second state = .ok b next ∧ third state = .ok c next ∧ relation a b c := by
  obtain ⟨error, last, one, _⟩ | ⟨a', b, c, next', one, two, three, holds⟩ := alike state
  · rw [runs] at one
    exact nomatch one
  · rw [runs] at one
    obtain ⟨rfl, rfl⟩ := EStateM.Result.ok.inj one
    exact ⟨b, c, two, three, holds⟩

end Nfs3Rpc.Encoding
