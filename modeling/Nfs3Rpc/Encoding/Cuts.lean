/-
This file states what a reader does with a message that was cut short.
A reader may skip the last bytes of its wire unseen; the number of these bytes decides which cuts it notices.
-/

import Nfs3Rpc.Encoding.Programs

namespace Nfs3Rpc.Encoding

variable {ε σ α β : Type}

/-- The program raises an error where no byte is left, and also where the cursor is behind the last byte. -/
def Starves (view : Reading σ) (past : σ → Prop) (program : EStateM ε σ α) : Prop :=
  ∀ state, (past state ∨ ∃ before, view state before []) → ∃ error next, program state = .error error next

/-- The program reads the wire, notices each cut before the slack, and moves its cursor past the end at each
cut inside the slack. -/
structure Trims (view : Reading σ) (past : σ → Prop) (program : EStateM ε σ α) (wire : Bytes) (slack : Nat)
    (result : α → Prop) : Prop where
  possible : ∃ value, result value
  short : slack < wire.length
  reads : Reads view program wire result
  starves : Starves view past program
  rejects : ∀ cut, cut + slack < wire.length → Rejects view program (wire.take cut)
  slips : ∀ cut, cut < wire.length → wire.length ≤ cut + slack → ∀ state before,
    view state before (wire.take cut) → ∃ value next, program state = .ok value next ∧ result value ∧ past next

variable {view : Reading σ} {past : σ → Prop} {program : EStateM ε σ α} {next : α → EStateM ε σ β}

theorem Starves.bind (first : Starves view past program) : Starves view past (program >>= next) := by
  intro state empty
  obtain ⟨error, last, fails⟩ := first state empty
  exact ⟨error, last, bind_of_error fails⟩

/-- A cut in the first program is noticed there, or by the next program that finds no byte. -/
theorem Trims.rejects_early {wire tail : Bytes} {slack cut : Nat} {middle : α → Prop}
    (first : Trims view past program wire slack middle)
    (starves : ∀ value, middle value → Starves view past (next value)) (early : cut < wire.length) :
    Rejects view (program >>= next) ((wire ++ tail).take cut) := by
  intro state before placed
  rw [List.take_append_of_le_length (Nat.le_of_lt early)] at placed
  by_cases noticed : cut + slack < wire.length
  · exact (first.rejects cut noticed).bind state before placed
  · obtain ⟨value, middle, runs, holds, beyond⟩ :=
      first.slips cut early (Nat.le_of_not_lt noticed) state before placed
    obtain ⟨error, last, fails⟩ := starves value holds middle (.inl beyond)
    refine ⟨error, last, ?_⟩
    rw [bind_of_ok runs]
    exact fails

/-- A cut behind the first program is left to the next one. -/
theorem Reads.take_late {wire tail : Bytes} {middle : α → Prop} {cut : Nat} {state : σ} {before : Bytes}
    (first : Reads view program wire middle) (late : wire.length ≤ cut)
    (placed : view state before ((wire ++ tail).take cut)) :
    ∃ value reached, program state = .ok value reached ∧ middle value ∧
      view reached (before ++ wire) (tail.take (cut - wire.length)) := by
  rw [List.take_append, List.take_of_length_le late] at placed
  exact first state before _ placed

theorem Reads.rejects_late {wire tail : Bytes} {middle : α → Prop} {cut : Nat}
    (first : Reads view program wire middle) (late : wire.length ≤ cut)
    (second : ∀ value, middle value → Rejects view (next value) (tail.take (cut - wire.length))) :
    Rejects view (program >>= next) ((wire ++ tail).take cut) := by
  intro state before placed
  obtain ⟨value, reached, runs, holds, placed⟩ := first.take_late late placed
  obtain ⟨error, last, fails⟩ := second value holds reached _ placed
  refine ⟨error, last, ?_⟩
  rw [bind_of_ok runs]
  exact fails

/-- This form of the two rules follows one cut through a sequence. -/
theorem Trims.rejects_field {wire : Bytes} {fields : List Bytes} {slack cut : Nat} {middle : α → Prop}
    (first : Trims view past program wire slack middle)
    (starves : ∀ value, middle value → Starves view past (next value))
    (later : wire.length ≤ cut → ∀ value, middle value →
      Rejects view (next value) (fields.flatten.take (cut - wire.length))) :
    Rejects view (program >>= next) ((wire :: fields).flatten.take cut) := by
  rw [List.flatten_cons]
  by_cases early : cut < wire.length
  · exact first.rejects_early starves early
  · exact first.reads.rejects_late (Nat.le_of_not_lt early) (later (Nat.le_of_not_lt early))

/-- Only the slack of the last program remains in a sequence. -/
theorem Trims.bind {wire tail : Bytes} {slack slack' : Nat} {middle : α → Prop} {result : β → Prop}
    (first : Trims view past program wire slack middle)
    (second : ∀ value, middle value → Trims view past (next value) tail slack' result) :
    Trims view past (program >>= next) (wire ++ tail) slack' result := by
  obtain ⟨sample, holds⟩ := first.possible
  have short := (second sample holds).short
  have length : (wire ++ tail).length = wire.length + tail.length := List.length_append
  constructor
  · exact (second sample holds).possible
  · omega
  · exact Reads.bind first.reads fun value reached => (second value reached).reads
  · exact first.starves.bind
  · intro cut noticed
    by_cases early : cut < wire.length
    · exact first.rejects_early (fun value reached => (second value reached).starves) early
    · apply first.reads.rejects_late (Nat.le_of_not_lt early)
      intro value reached
      apply (second value reached).rejects
      omega
  · intro cut inside unseen state before placed
    obtain ⟨value, middle, runs, reached, placed⟩ := first.reads.take_late (by omega) placed
    obtain ⟨final, last, continues, holds, beyond⟩ :=
      (second value reached).slips (cut - wire.length) (by omega) (by omega) middle _ placed
    refine ⟨final, last, ?_, holds, beyond⟩
    rw [bind_of_ok runs]
    exact continues

/-- A sequence of readers notices the cuts that its last field notices. -/
theorem Trims.cons {wire : Bytes} {fields : List Bytes} {slack slack' : Nat} {middle : α → Prop}
    {result : β → Prop} (first : Trims view past program wire slack middle)
    (second : ∀ value, middle value → Trims view past (next value) fields.flatten slack' result) :
    Trims view past (program >>= next) (wire :: fields).flatten slack' result :=
  Trims.bind first second

/-- This form of the sequence rule passes on a known value. -/
theorem Trims.field {value : α} {wire : Bytes} {fields : List Bytes} {slack slack' : Nat} {result : β → Prop}
    (first : Trims view past program wire slack (· = value))
    (second : Trims view past (next value) fields.flatten slack' result) :
    Trims view past (program >>= next) (wire :: fields).flatten slack' result :=
  Trims.cons first fun _ same => same ▸ second

/-- The steps after the last field only build the value. -/
theorem Trims.finishing {wire : Bytes} {slack : Nat} {middle : α → Prop} {result : β → Prop}
    (first : Trims view past program wire slack middle)
    (second : ∀ value, middle value → ∃ final, next value = pure final ∧ result final) :
    Trims view past (program >>= next) wire slack result := by
  obtain ⟨sample, reached⟩ := first.possible
  constructor
  · obtain ⟨final, _, holds⟩ := second sample reached
    exact ⟨final, holds⟩
  · exact first.short
  · apply Reads.finishing first.reads
    intro value reached
    obtain ⟨final, same, holds⟩ := second value reached
    rw [same]
    exact Reads.pure holds
  · exact first.starves.bind
  · intro cut noticed
    exact (first.rejects cut noticed).bind
  · intro cut inside unseen state before placed
    obtain ⟨value, last, runs, reached, beyond⟩ := first.slips cut inside unseen state before placed
    obtain ⟨final, same, holds⟩ := second value reached
    refine ⟨final, last, ?_, holds, beyond⟩
    rw [bind_of_ok runs, same]
    rfl

theorem Trims.returning {f : α → β} {wire : Bytes} {slack : Nat} {middle : α → Prop} {result : β → Prop}
    (first : Trims view past program wire slack middle) (holds : ∀ value, middle value → result (f value)) :
    Trims view past (program >>= fun value => pure (f value)) wire slack result :=
  first.finishing fun value reached => ⟨f value, rfl, holds value reached⟩

theorem Trims.weaken {wire : Bytes} {slack : Nat} {strong weak : α → Prop}
    (inner : Trims view past program wire slack strong) (implies : ∀ value, strong value → weak value) :
    Trims view past program wire slack weak := by
  constructor
  · obtain ⟨value, holds⟩ := inner.possible
    exact ⟨value, implies value holds⟩
  · exact inner.short
  · exact inner.reads.weaken implies
  · exact inner.starves
  · exact inner.rejects
  · intro cut inside unseen state before placed
    obtain ⟨value, last, runs, holds, beyond⟩ := inner.slips cut inside unseen state before placed
    exact ⟨value, last, runs, implies value holds, beyond⟩

theorem Trims.last {f : α → β} {wire : Bytes} {slack : Nat} {middle : α → Prop}
    (first : Trims view past program wire slack middle) :
    Trims view past (program >>= fun value => pure (f value)) [wire].flatten slack fun _ => True := by
  have only : [wire].flatten = wire := List.append_nil wire
  rw [only]
  exact first.returning fun _ _ => trivial

/-- A message that only the slack of its reader can lose: the reader raises an error at a cut exactly when the
cut is before the slack. -/
theorem Trims.rejects_iff {wire : Bytes} {slack cut : Nat} {result : α → Prop} {state : σ} {before : Bytes}
    (trims : Trims view past program wire slack result) (inside : cut < wire.length)
    (placed : view state before (wire.take cut)) :
    (∃ error next, program state = .error error next) ↔ cut + slack < wire.length := by
  constructor
  · intro ⟨error, last, fails⟩
    by_contra unseen
    obtain ⟨value, reached, runs, _⟩ := trims.slips cut inside (Nat.le_of_not_lt unseen) state before placed
    rw [runs] at fails
    exact nomatch fails
  · intro noticed
    exact trims.rejects cut noticed state before placed

end Nfs3Rpc.Encoding
