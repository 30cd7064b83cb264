/-
This file states that a decoder takes exactly the texts of a grammar, and how such decoders compose.
-/

import Nfs3Rpc.Encoding.Programs

namespace Nfs3Rpc.Encoding

variable {ε σ α β : Type}

/-- At this state the decoder takes the text of a value from the front of its input. One error stands for an input
without such a text, and another one for an input on which the decoder breaks. -/
structure Parses (input : σ → Bytes) (refusal fault : ε) (program : EStateM ε σ α) (text : α → Bytes → Prop)
    (breaks : Bytes → Prop) (state : σ) : Prop where
  takes : ∀ value bytes rest, text value bytes → input state = bytes ++ rest →
    ∃ next, program state = .ok value next ∧ input next = rest
  stops : breaks (input state) → ∃ last, program state = .error fault last
  refuses : (∀ value bytes rest, text value bytes → input state ≠ bytes ++ rest) → ¬ breaks (input state) →
    ∃ last, program state = .error refusal last

variable {input : σ → Bytes} {refusal fault : ε} {program : EStateM ε σ α} {text : α → Bytes → Prop}
  {breaks : Bytes → Prop} {state : σ}

theorem Parses.congr {texts : α → Bytes → Prop} {faults : Bytes → Prop}
    (parses : Parses input refusal fault program text breaks state)
    (same : ∀ value bytes, texts value bytes ↔ text value bytes) (alike : ∀ body, faults body ↔ breaks body) :
    Parses input refusal fault program texts faults state := by
  have sameTexts : texts = text := by
    ext value bytes
    exact same value bytes
  have sameFaults : faults = breaks := by
    ext body
    exact alike body
  rw [sameTexts, sameFaults]
  exact parses

theorem Parses.pure (value : α) :
    Parses input refusal fault (Pure.pure value) (fun final bytes => final = value ∧ bytes = []) (fun _ => False)
      state where
  takes := by
    rintro final bytes rest ⟨rfl, rfl⟩ split
    exact ⟨state, rfl, split⟩
  stops := False.elim
  refuses := by
    intro nothing _
    exact absurd rfl (nothing value [] (input state) ⟨rfl, rfl⟩)

theorem Parses.refusing :
    Parses input refusal fault (throw refusal) (fun (_ : α) _ => False) (fun _ => False) state where
  takes := fun _ _ _ never => never.elim
  stops := False.elim
  refuses := fun _ _ => ⟨state, rfl⟩

theorem Parses.breaking :
    Parses input refusal fault (throw fault) (fun (_ : α) _ => False) (fun _ => True) state where
  takes := fun _ _ _ never => never.elim
  stops := fun _ => ⟨state, rfl⟩
  refuses := fun _ sound => absurd trivial sound

/-- A sequence takes the texts of its parts one after the other, and breaks where one of its parts does. -/
theorem Parses.bind {next : α → EStateM ε σ β} {texts : α → β → Bytes → Prop}
    {faults : α → Bytes → Prop}
    (first : Parses input refusal fault program text breaks state)
    (second : ∀ value bytes middle, text value bytes → input state = bytes ++ input middle →
      Parses input refusal fault (next value) (texts value) (faults value) middle) :
    Parses input refusal fault (program >>= next)
      (fun final whole => ∃ value head tail, text value head ∧ texts value final tail ∧ whole = head ++ tail)
      (fun body => breaks body ∨ ∃ value head rest, text value head ∧ body = head ++ rest ∧ faults value rest)
      state where
  takes := by
    rintro final _ rest ⟨value, head, tail, written, more, rfl⟩ split
    rw [List.append_assoc] at split
    obtain ⟨middle, runs, left⟩ := first.takes value head (tail ++ rest) written split
    obtain ⟨last, continues, finished⟩ :=
      (second value head middle written (by rw [left, split])).takes final tail rest more left
    exact ⟨last, by rw [bind_of_ok runs, continues], finished⟩
  stops := by
    rintro (broken | ⟨value, head, rest, written, split, broken⟩)
    · obtain ⟨last, fails⟩ := first.stops broken
      exact ⟨last, bind_of_error fails⟩
    · obtain ⟨middle, runs, left⟩ := first.takes value head rest written split
      obtain ⟨last, fails⟩ :=
        (second value head middle written (by rw [left, split])).stops (by rw [left]; exact broken)
      exact ⟨last, by rw [bind_of_ok runs, fails]⟩
  refuses := by
    intro nothing sound
    by_cases readable : ∃ value head rest, text value head ∧ input state = head ++ rest
    · obtain ⟨value, head, rest, written, split⟩ := readable
      obtain ⟨middle, runs, left⟩ := first.takes value head rest written split
      have later := second value head middle written (by rw [left, split])
      rw [bind_of_ok runs]
      apply later.refuses
      · intro final tail remainder more same
        apply nothing final (head ++ tail) remainder ⟨value, head, tail, written, more, rfl⟩
        rw [split, ← left, same, List.append_assoc]
      · intro broken
        rw [left] at broken
        exact sound (.inr ⟨value, head, rest, written, split, broken⟩)
    · obtain ⟨last, fails⟩ := first.refuses
        (fun value head rest written split => readable ⟨value, head, rest, written, split⟩)
        (fun broken => sound (.inl broken))
      exact ⟨last, bind_of_error fails⟩

/-- A sequence whose first part never breaks can break only behind a text of that part. -/
theorem Parses.after {next : α → EStateM ε σ β} {texts : α → β → Bytes → Prop}
    {faults : α → Bytes → Prop}
    (first : Parses input refusal fault program text (fun _ => False) state)
    (second : ∀ value bytes middle, text value bytes → input state = bytes ++ input middle →
      Parses input refusal fault (next value) (texts value) (faults value) middle) :
    Parses input refusal fault (program >>= next)
      (fun final whole => ∃ value head tail, text value head ∧ texts value final tail ∧ whole = head ++ tail)
      (fun body => ∃ value head rest, text value head ∧ body = head ++ rest ∧ faults value rest) state :=
  (Parses.bind first second).congr (fun _ _ => Iff.rfl) fun _ => by simp

/-- A decoder may look at its own state. -/
theorem Parses.looking {next : σ → EStateM ε σ α}
    (inner : Parses input refusal fault (next state) text breaks state) :
    Parses input refusal fault (get >>= next) text breaks state where
  takes := by
    rw [get_bind]
    exact inner.takes
  stops := by
    rw [get_bind]
    exact inner.stops
  refuses := by
    rw [get_bind]
    exact inner.refuses

/-- A step that only computes takes nothing and fails nowhere. -/
theorem Parses.converting {next : α → EStateM ε σ β}
    (first : Parses input refusal fault program text breaks state)
    (computes : ∀ value bytes, text value bytes → ∃ final, next value = Pure.pure final) :
    Parses input refusal fault (program >>= next)
      (fun final bytes => ∃ value, text value bytes ∧ next value = Pure.pure final) breaks state where
  takes := by
    rintro final bytes rest ⟨value, written, same⟩ split
    obtain ⟨middle, runs, left⟩ := first.takes value bytes rest written split
    exact ⟨middle, by rw [bind_of_ok runs, same]; rfl, left⟩
  stops := by
    intro broken
    obtain ⟨last, fails⟩ := first.stops broken
    exact ⟨last, bind_of_error fails⟩
  refuses := by
    intro nothing sound
    have unreadable : ∀ value bytes rest, text value bytes → input state ≠ bytes ++ rest := by
      intro value bytes rest written split
      obtain ⟨final, same⟩ := computes value bytes written
      exact nothing final bytes rest ⟨value, written, same⟩ split
    obtain ⟨last, fails⟩ := first.refuses unreadable sound
    exact ⟨last, bind_of_error fails⟩

/-- A flag is set by every nonzero word; the two branches go on behind it. -/
theorem Parses.flag {flag : EStateM ε σ Bool} {next otherwise : EStateM ε σ β}
    {texts rests : β → Bytes → Prop}
    {faults breaks : Bytes → Prop}
    (first : Parses input refusal fault flag (fun value word => ∃ code, value = (code != 0) ∧ word = be32 code)
      (fun _ => False) state)
    (set : ∀ middle, (input middle).length < (input state).length →
      Parses input refusal fault next texts faults middle)
    (clear : ∀ middle, (input middle).length < (input state).length →
      Parses input refusal fault otherwise rests breaks middle) :
    Parses input refusal fault (flag >>= fun value => if value then next else otherwise)
      (fun final whole => (∃ tail, rests final tail ∧ whole = be32 0 ++ tail) ∨
        ∃ code tail, code ≠ 0 ∧ texts final tail ∧ whole = be32 code ++ tail)
      (fun body => (∃ rest, body = be32 0 ++ rest ∧ breaks rest) ∨
        ∃ code rest, code ≠ 0 ∧ body = be32 code ++ rest ∧ faults rest) state := by
  have shorter : ∀ (code : UInt32) (middle : σ), input state = be32 code ++ input middle →
      (input middle).length < (input state).length := by
    intro code middle split
    rw [split, List.length_append, be32_length]
    omega
  have second : ∀ value bytes middle, (∃ code, value = (code != 0) ∧ bytes = be32 code) →
      input state = bytes ++ input middle →
      Parses input refusal fault (if value then next else otherwise)
        (fun final tail => if value then texts final tail else rests final tail)
        (fun body => if value then faults body else breaks body) middle := by
    rintro value _ middle ⟨code, same, rfl⟩ split
    cases value with
    | true => exact set middle (shorter code middle split)
    | false => exact clear middle (shorter code middle split)
  apply (Parses.after first second).congr
  · intro final whole
    constructor
    · rintro (⟨tail, written, rfl⟩ | ⟨code, tail, nonzero, written, rfl⟩)
      · exact ⟨false, be32 0, tail, ⟨0, rfl, rfl⟩, written, rfl⟩
      · exact ⟨true, be32 code, tail, ⟨code, (bne_iff_ne.mpr nonzero).symm, rfl⟩, written, rfl⟩
    · rintro ⟨value, _, tail, ⟨code, rfl, rfl⟩, written, rfl⟩
      by_cases zero : code = 0
      · subst zero
        exact .inl ⟨tail, written, rfl⟩
      · rw [if_pos (bne_iff_ne.mpr zero)] at written
        exact .inr ⟨code, tail, zero, written, rfl⟩
  · intro body
    constructor
    · rintro (⟨rest, rfl, broken⟩ | ⟨code, rest, nonzero, rfl, broken⟩)
      · exact ⟨false, be32 0, rest, ⟨0, rfl, rfl⟩, rfl, broken⟩
      · exact ⟨true, be32 code, rest, ⟨code, (bne_iff_ne.mpr nonzero).symm, rfl⟩, rfl, broken⟩
    · rintro ⟨value, _, rest, ⟨code, rfl, rfl⟩, rfl, broken⟩
      by_cases zero : code = 0
      · subst zero
        exact .inl ⟨rest, rfl, broken⟩
      · rw [if_pos (bne_iff_ne.mpr zero)] at broken
        exact .inr ⟨code, rest, zero, rfl, broken⟩

end Nfs3Rpc.Encoding
