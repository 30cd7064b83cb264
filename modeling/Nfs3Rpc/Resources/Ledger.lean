/-
This file keeps a ledger of resources. A resource may be handed out again after it was given back, so each
entry that hands it out starts a tenure of its own.
-/

import Mathlib.Tactic

namespace Nfs3Rpc.Resources

inductive Entry (α : Type) where
  | acquired (resource : α)
  | released (resource : α)
  deriving DecidableEq

variable {α : Type} [DecidableEq α]

/-- The last entry of a resource decides whether it is out. -/
def held (resource : α) (ledger : List (Entry α)) : Bool :=
  ledger.foldl (fun out entry =>
    match entry with
    | .acquired other => other = resource || out
    | .released other => other ≠ resource && out) false

/-- This counts the returns of a resource until it is handed out again. -/
def releases (resource : α) : List (Entry α) → Nat
  | [] => 0
  | .acquired other :: later => if other = resource then 0 else releases resource later
  | .released other :: later => (if other = resource then 1 else 0) + releases resource later

/-- In its tenure a resource is still out, or it was given back once. -/
def Settled (ledger : List (Entry α)) : Prop :=
  ∀ earlier resource later, ledger = earlier ++ .acquired resource :: later →
    (.acquired resource ∉ later ∧ held resource ledger ∧ releases resource later = 0) ∨
      (releases resource later = 1 ∧ (.acquired resource ∉ later → held resource ledger = false))

@[simp]
theorem held_nil (resource : α) : held resource [] = false := rfl

@[simp]
theorem held_acquired (resource other : α) (ledger : List (Entry α)) :
    held resource (ledger ++ [.acquired other]) = (other = resource || held resource ledger) := by
  simp [held]

@[simp]
theorem held_released (resource other : α) (ledger : List (Entry α)) :
    held resource (ledger ++ [.released other]) = (other ≠ resource && held resource ledger) := by
  simp [held]

theorem releases_acquired (resource other : α) (later : List (Entry α)) :
    releases resource (later ++ [.acquired other]) = releases resource later := by
  induction later with
  | nil => simp [releases]
  | cons entry later recurse =>
      cases entry with
      | acquired first => simp only [List.cons_append, releases, recurse]
      | released first => simp only [List.cons_append, releases, recurse]

/-- A return counts for the last tenure only. -/
theorem releases_released (resource other : α) (later : List (Entry α)) :
    releases resource (later ++ [.released other]) =
      releases resource later + if other = resource ∧ .acquired resource ∉ later then 1 else 0 := by
  induction later with
  | nil => simp [releases]
  | cons entry later recurse =>
      cases entry with
      | acquired first =>
          by_cases same : first = resource
          · simp [releases, same]
          · simp [releases, same, recurse, Ne.symm same]
      | released first =>
          simp only [List.cons_append, releases, recurse]
          by_cases last : other = resource ∧ Entry.acquired resource ∉ later
          · simp [last, Nat.add_assoc]
          · simp [last]

theorem Settled.empty : Settled ([] : List (Entry α)) := by
  intro earlier resource later parts
  simp at parts

omit [DecidableEq α] in
/-- A longer ledger ends a tenure with its last entry, or it starts one there. -/
theorem concat_eq_acquired {ledger earlier later : List (Entry α)} {last : Entry α} {resource : α}
    (parts : ledger ++ [last] = earlier ++ .acquired resource :: later) :
    (later = [] ∧ last = .acquired resource ∧ earlier = ledger) ∨
      ∃ before, later = before ++ [last] ∧ ledger = earlier ++ .acquired resource :: before := by
  rcases List.eq_nil_or_concat later with rfl | ⟨before, final, rfl⟩
  · obtain ⟨same, ends⟩ := List.append_inj' parts rfl
    exact .inl ⟨rfl, (List.cons.inj ends).1, same.symm⟩
  · have whole : ledger ++ [last] = (earlier ++ .acquired resource :: before) ++ [final] := by
      simpa using parts
    obtain ⟨same, ends⟩ := List.append_inj' whole rfl
    exact .inr ⟨before, by rw [(List.cons.inj ends).1, List.concat_eq_append], same⟩

/-- A resource that is not out may be handed out. -/
theorem Settled.acquire {ledger : List (Entry α)} {other : α} (settled : Settled ledger)
    (fresh : held other ledger = false) : Settled (ledger ++ [.acquired other]) := by
  intro earlier resource later parts
  rcases concat_eq_acquired parts with ⟨rfl, same, rfl⟩ | ⟨before, rfl, whole⟩
  · left
    simp [(Entry.acquired.inj same), releases]
  rw [releases_acquired, held_acquired]
  rcases settled earlier resource before whole with ⟨current, out, none⟩ | ⟨once, gone⟩
  · left
    have different : other ≠ resource := by
      rintro rfl
      rw [fresh] at out
      cases out
    exact ⟨by simp [current, Ne.symm different], by simp [out], none⟩
  · right
    refine ⟨once, ?_⟩
    intro absent
    simp only [List.mem_append, List.mem_singleton, Entry.acquired.injEq, not_or] at absent
    simp [gone absent.1, Ne.symm absent.2]

/-- A resource that is out may be given back. -/
theorem Settled.release {ledger : List (Entry α)} {other : α} (settled : Settled ledger)
    (out : held other ledger = true) : Settled (ledger ++ [.released other]) := by
  intro earlier resource later parts
  rcases concat_eq_acquired parts with ⟨_, same, _⟩ | ⟨before, rfl, whole⟩
  · cases same
  rw [releases_released, held_released]
  rcases settled earlier resource before whole with ⟨current, still, none⟩ | ⟨once, gone⟩
  · by_cases same : other = resource
    · right
      exact ⟨by simp [same, current, none], fun _ => by simp [same]⟩
    · left
      exact ⟨by simp [current], by simp [same, still], by simp [same, none]⟩
  · right
    have later : ¬ (other = resource ∧ Entry.acquired resource ∉ before) := by
      rintro ⟨rfl, absent⟩
      rw [gone absent] at out
      cases out
    refine ⟨by rw [if_neg later, once], ?_⟩
    intro absent
    simp only [List.mem_append, List.mem_singleton, reduceCtorEq, or_false] at absent
    simp [gone absent]

variable {ι : Type} [DecidableEq ι]

/-- Every resource that is out has one owner, and every owner has its own. -/
structure OwnedBy (owner : ι → Option α) (ledger : List (Entry α)) : Prop where
  settled : Settled ledger
  held_iff : ∀ resource, held resource ledger = true ↔ ∃ index, owner index = some resource
  unique : ∀ first second resource, owner first = some resource → owner second = some resource → first = second

omit [DecidableEq ι] in
theorem OwnedBy.empty : OwnedBy (fun _ : ι => none) ([] : List (Entry α)) := by
  refine ⟨Settled.empty, ?_, ?_⟩
  · simp
  · intro first second resource owned
    cases owned

theorem OwnedBy.release {owner : ι → Option α} {ledger : List (Entry α)} {index : ι} {resource : α}
    (owned : OwnedBy owner ledger) (owns : owner index = some resource) :
    OwnedBy (Function.update owner index none) (ledger ++ [.released resource]) := by
  have out : held resource ledger = true := (owned.held_iff resource).mpr ⟨index, owns⟩
  refine ⟨owned.settled.release out, ?_, ?_⟩
  · intro other
    rw [held_released, Bool.and_eq_true, decide_eq_true_iff, owned.held_iff]
    constructor
    · intro ⟨different, holder, holds⟩
      have elsewhere : holder ≠ index := by
        rintro rfl
        rw [owns] at holds
        exact different (Option.some.inj holds)
      exact ⟨holder, by rw [Function.update_of_ne elsewhere, holds]⟩
    · intro ⟨holder, holds⟩
      have elsewhere : holder ≠ index := by
        rintro rfl
        simp at holds
      rw [Function.update_of_ne elsewhere] at holds
      refine ⟨?_, holder, holds⟩
      rintro rfl
      exact elsewhere (owned.unique holder index resource holds owns)
  · intro first second other firstOwns secondOwns
    by_cases one : first = index <;> by_cases two : second = index <;> simp_all
    exact owned.unique first second other firstOwns secondOwns

theorem OwnedBy.acquire {owner : ι → Option α} {ledger : List (Entry α)} {index : ι} {resource : α}
    (owned : OwnedBy owner ledger) (idle : owner index = none) (fresh : held resource ledger = false) :
    OwnedBy (Function.update owner index (some resource)) (ledger ++ [.acquired resource]) := by
  have free : ∀ holder, owner holder ≠ some resource := by
    intro holder holds
    rw [(owned.held_iff resource).mpr ⟨holder, holds⟩] at fresh
    cases fresh
  refine ⟨owned.settled.acquire fresh, ?_, ?_⟩
  · intro other
    rw [held_acquired, Bool.or_eq_true, decide_eq_true_iff, owned.held_iff]
    constructor
    · rintro (rfl | ⟨holder, holds⟩)
      · exact ⟨index, by simp⟩
      · have elsewhere : holder ≠ index := by
          rintro rfl
          rw [idle] at holds
          cases holds
        exact ⟨holder, by rw [Function.update_of_ne elsewhere, holds]⟩
    · intro ⟨holder, holds⟩
      by_cases here : holder = index
      · subst here
        left
        simpa using holds
      · right
        exact ⟨holder, by rwa [Function.update_of_ne here] at holds⟩
  · intro first second other firstOwns secondOwns
    by_cases one : first = index <;> by_cases two : second = index
    · rw [one, two]
    · subst one
      rw [Function.update_self] at firstOwns
      rw [Function.update_of_ne two, ← firstOwns] at secondOwns
      exact absurd secondOwns (free second)
    · subst two
      rw [Function.update_self] at secondOwns
      rw [Function.update_of_ne one, ← secondOwns] at firstOwns
      exact absurd firstOwns (free first)
    · rw [Function.update_of_ne one] at firstOwns
      rw [Function.update_of_ne two] at secondOwns
      exact owned.unique first second other firstOwns secondOwns

/-- The target takes over what the source had. -/
theorem OwnedBy.move {owner : ι → Option α} {ledger : List (Entry α)} {target source : ι}
    (owned : OwnedBy owner ledger) (different : target ≠ source) (idle : owner target = none) :
    OwnedBy (Function.update (Function.update owner source none) target (owner source)) ledger := by
  -- An index of the new assignment takes its resource from this index of the old one.
  let origin : ι → ι := Function.update id target source
  have before : ∀ index resource,
      Function.update (Function.update owner source none) target (owner source) index = some resource →
        index ≠ source ∧ owner (origin index) = some resource := by
    intro index resource owns
    by_cases here : index = target
    · subst here
      simpa [origin, different] using owns
    · by_cases there : index = source
      · subst there
        simp [here] at owns
      · simpa [origin, here, there] using owns
  refine ⟨owned.settled, ?_, ?_⟩
  · intro resource
    rw [owned.held_iff]
    constructor
    · intro ⟨index, owns⟩
      by_cases here : index = source
      · subst here
        exact ⟨target, by simpa using owns⟩
      · have elsewhere : index ≠ target := by
          rintro rfl
          rw [idle] at owns
          cases owns
        exact ⟨index, by simpa [here, elsewhere] using owns⟩
    · intro ⟨index, owns⟩
      exact ⟨origin index, (before index resource owns).2⟩
  · intro first second resource firstOwns secondOwns
    obtain ⟨firstOther, firstHeld⟩ := before first resource firstOwns
    obtain ⟨secondOther, secondHeld⟩ := before second resource secondOwns
    have same := owned.unique _ _ resource firstHeld secondHeld
    have stays : ∀ index, index ≠ target → origin index = index := fun index other =>
      Function.update_of_ne other source id
    have taken : origin target = source := Function.update_self target source id
    by_cases one : first = target
    · by_cases two : second = target
      · rw [one, two]
      · rw [one, taken, stays second two] at same
        exact absurd same.symm secondOther
    · by_cases two : second = target
      · rw [two, taken, stays first one] at same
        exact absurd same firstOther
      · rwa [stays first one, stays second two] at same

/-- A resource that was handed out has one owner, or it was given back once and has none. -/
def Fate (owner : ι → Option α) (resource : α) (later : List (Entry α)) : Prop :=
  (releases resource later = 0 ∧ .acquired resource ∉ later ∧ ∃! index, owner index = some resource) ∨
    (releases resource later = 1 ∧ (.acquired resource ∉ later → ∀ index, owner index ≠ some resource))

omit [DecidableEq ι] in
theorem OwnedBy.fate {owner : ι → Option α} {ledger earlier later : List (Entry α)} {resource : α}
    (owned : OwnedBy owner ledger) (parts : ledger = earlier ++ .acquired resource :: later) :
    Fate owner resource later := by
  rcases owned.settled earlier resource later parts with ⟨current, out, none⟩ | ⟨once, gone⟩
  · left
    obtain ⟨index, owns⟩ := (owned.held_iff resource).mp out
    exact ⟨none, current, index, owns, fun other holds => owned.unique other index resource holds owns⟩
  · right
    refine ⟨once, fun current index owns => ?_⟩
    have out := (owned.held_iff resource).mpr ⟨index, owns⟩
    rw [gone current] at out
    cases out

end Nfs3Rpc.Resources
