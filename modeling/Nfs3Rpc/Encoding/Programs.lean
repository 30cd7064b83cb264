/-
This file states how a program writes or reads a byte string, and how such programs compose.
A view relates a program state to its bytes, so the rules hold for every buffer or stream type.
-/

import Nfs3Rpc.Encoding.Words

namespace Nfs3Rpc.Encoding

variable {ε σ α β : Type}

/-- A writer view relates a state to the bytes that it holds. -/
abbrev Writing (σ : Type) := σ → Bytes → Prop

/-- A reader view relates a state to the bytes before and after its cursor. -/
abbrev Reading (σ : Type) := σ → Bytes → Bytes → Prop

/-- The program returns the value and appends exactly the wire. -/
def Emits (view : Writing σ) (program : EStateM ε σ α) (value : α) (wire : Bytes) : Prop :=
  ∀ state done, view state done →
    ∃ next, program state = .ok value next ∧ view next (done ++ wire)

/-- The program consumes exactly the wire and its result meets the condition. -/
def Reads (view : Reading σ) (program : EStateM ε σ α) (wire : Bytes) (result : α → Prop) : Prop :=
  ∀ state before rest, view state before (wire ++ rest) →
    ∃ value next, program state = .ok value next ∧ result value ∧ view next (before ++ wire) rest

/-- The program raises an error at the wire, whatever follows it. -/
def Faults (view : Reading σ) (program : EStateM ε σ α) (wire : Bytes) : Prop :=
  ∀ state before rest, view state before (wire ++ rest) → ∃ error next, program state = .error error next

/-- The condition decides whether the program consumes the wire or raises an error at it. -/
def Decodes (view : Reading σ) (program : EStateM ε σ α) (wire : Bytes) (sound : Prop)
    (result : α → Prop) : Prop :=
  (sound → Reads view program wire result) ∧ (¬ sound → Faults view program wire)

/-- Whatever the program returns is encoded by the bytes that it consumes. -/
def Finds (view : Reading σ) (program : EStateM ε σ α) (encodes : α → Bytes → Prop) : Prop :=
  ∀ state before rest value next, view state before rest → program state = .ok value next →
    ∃ bytes tail, rest = bytes ++ tail ∧ encodes value bytes ∧ view next (before ++ bytes) tail

/-- Where a reader of plain bytes finds a value, the program returns nothing but a value that agrees with
it, and takes the same bytes. -/
def Follows {υ γ : Type} (view : Reading σ) (reader : EStateM υ Bytes γ) (program : EStateM ε σ α)
    (agrees : γ → α → Prop) : Prop :=
  ∀ state before input found rest value next, view state before input → reader input = .ok found rest →
    program state = .ok value next →
      agrees found value ∧ ∃ taken, input = taken ++ rest ∧ view next (before ++ taken) rest

/-- The program reads nothing, and what it returns meets the condition. -/
def Keeps (view : Reading σ) (program : EStateM ε σ α) (result : α → Prop) : Prop :=
  ∀ state before rest value next, view state before rest → program state = .ok value next →
    result value ∧ view next before rest

/-- The program returns only when the condition holds. -/
def Checks (program : EStateM ε σ α) (condition : Prop) : Prop :=
  ∀ state value next, program state = .ok value next → condition

/-- The program raises an error when only these bytes remain. -/
def Rejects (view : Reading σ) (program : EStateM ε σ α) (wire : Bytes) : Prop :=
  ∀ state before, view state before wire → ∃ error next, program state = .error error next

/-- A sequence goes on from where its first program returns. -/
theorem bind_of_ok {program : EStateM ε σ α} {next : α → EStateM ε σ β} {state middle : σ} {value : α}
    (runs : program state = .ok value middle) : (program >>= next) state = next value middle := by
  change EStateM.bind program next state = _
  rw [EStateM.bind, runs]

theorem bind_of_error {program : EStateM ε σ α} {next : α → EStateM ε σ β} {state last : σ} {error : ε}
    (fails : program state = .error error last) : (program >>= next) state = .error error last := by
  change EStateM.bind program next state = _
  rw [EStateM.bind, fails]

/-- A program may look at its own state. -/
theorem get_bind (next : σ → EStateM ε σ α) (state : σ) : (get >>= next) state = next state state := rfl

/-- A sequence that returns has run both of its parts. -/
theorem ok_of_bind_ok {program : EStateM ε σ α} {next : α → EStateM ε σ β} {state last : σ} {final : β}
    (runs : (program >>= next) state = .ok final last) :
    ∃ value middle, program state = .ok value middle ∧ next value middle = .ok final last := by
  change EStateM.bind program next state = _ at runs
  rw [EStateM.bind] at runs
  cases first : program state with
  | ok value middle =>
      rw [first] at runs
      exact ⟨value, middle, rfl, runs⟩
  | error error middle =>
      rw [first] at runs
      exact nomatch runs

theorem Emits.pure {view : Writing σ} (value : α) :
    Emits view (Pure.pure value : EStateM ε σ α) value [] := by
  intro state done held
  exact ⟨state, rfl, by simpa using held⟩

theorem Emits.bind {view : Writing σ} {program : EStateM ε σ α} {next : α → EStateM ε σ β}
    {value : α} {final : β} {wire tail : Bytes} (first : Emits view program value wire)
    (second : Emits view (next value) final tail) :
    Emits view (program >>= next) final (wire ++ tail) := by
  intro state done held
  obtain ⟨middle, runs, held⟩ := first state done held
  obtain ⟨last, continues, held⟩ := second middle (done ++ wire) held
  refine ⟨last, ?_, by simpa using held⟩
  rw [bind_of_ok runs]
  exact continues

/-- A sequence of writers appends its fields in order. -/
theorem Emits.cons {view : Writing σ} {program : EStateM ε σ α} {next : α → EStateM ε σ β}
    {value : α} {final : β} {wire : Bytes} {fields : List Bytes} (first : Emits view program value wire)
    (second : Emits view (next value) final fields.flatten) :
    Emits view (program >>= next) final (wire :: fields).flatten :=
  Emits.bind first second

theorem Emits.last {view : Writing σ} {program : EStateM ε σ α} {value : α} {wire : Bytes}
    (only : Emits view program value wire) : Emits view program value [wire].flatten := by
  simpa using only

/-- The steps after the last field write nothing. -/
theorem Emits.done {view : Writing σ} {value : α} :
    Emits view (Pure.pure value : EStateM ε σ α) value [].flatten :=
  Emits.pure value

theorem Emits.finishing {view : Writing σ} {program : EStateM ε σ α} {next : α → EStateM ε σ β} {value : α}
    {final : β} {wire : Bytes} (first : Emits view program value wire)
    (second : Emits view (next value) final []) : Emits view (program >>= next) final wire := by
  have sequence : Emits view (program >>= next) final (wire ++ []) := Emits.bind first second
  rwa [List.append_nil] at sequence

theorem Emits.returning {view : Writing σ} {program : EStateM ε σ α} {value : α} {f : α → β} {wire : Bytes}
    (inner : Emits view program value wire) :
    Emits view (program >>= fun v => Pure.pure (f v)) (f value) wire :=
  Emits.finishing inner (Emits.pure _)

/-- A step that writes nothing leaves the wire to the next one. -/
theorem Emits.silent {view : Writing σ} {program : EStateM ε σ α} {next : α → EStateM ε σ β} {value : α}
    {final : β} {wire : Bytes} (first : Emits view program value [])
    (second : Emits view (next value) final wire) : Emits view (program >>= next) final wire :=
  Emits.bind first second

theorem Reads.pure {view : Reading σ} {result : α → Prop} {value : α} (holds : result value) :
    Reads view (Pure.pure value : EStateM ε σ α) [] result := by
  intro state before rest placed
  exact ⟨value, state, rfl, holds, by simpa using placed⟩

theorem Reads.bind {view : Reading σ} {program : EStateM ε σ α} {next : α → EStateM ε σ β}
    {wire tail : Bytes} {middle : α → Prop} {result : β → Prop} (first : Reads view program wire middle)
    (second : ∀ value, middle value → Reads view (next value) tail result) :
    Reads view (program >>= next) (wire ++ tail) result := by
  intro state before rest placed
  obtain ⟨value, state', runs, holds, placed⟩ := first state before (tail ++ rest) (by simpa using placed)
  obtain ⟨final, last, continues, holds, placed⟩ := second value holds state' (before ++ wire) rest placed
  refine ⟨final, last, ?_, holds, by simpa using placed⟩
  rw [bind_of_ok runs]
  exact continues

/-- A sequence of readers consumes the fields in order. -/
theorem Reads.cons {view : Reading σ} {program : EStateM ε σ α} {next : α → EStateM ε σ β}
    {wire : Bytes} {fields : List Bytes} {middle : α → Prop} {result : β → Prop}
    (first : Reads view program wire middle)
    (second : ∀ value, middle value → Reads view (next value) fields.flatten result) :
    Reads view (program >>= next) (wire :: fields).flatten result :=
  Reads.bind first second

/-- This form of the sequence rule passes on a known value. -/
theorem Reads.field {view : Reading σ} {program : EStateM ε σ α} {next : α → EStateM ε σ β}
    {value : α} {wire : Bytes} {fields : List Bytes} {result : β → Prop}
    (first : Reads view program wire (· = value))
    (second : Reads view (next value) fields.flatten result) :
    Reads view (program >>= next) (wire :: fields).flatten result :=
  Reads.cons first fun _ equal => equal ▸ second

/-- The steps after the last field read nothing. -/
theorem Reads.finishing {view : Reading σ} {program : EStateM ε σ α} {next : α → EStateM ε σ β} {wire : Bytes}
    {middle : α → Prop} {result : β → Prop} (first : Reads view program wire middle)
    (second : ∀ value, middle value → Reads view (next value) [] result) :
    Reads view (program >>= next) wire result := by
  have sequence : Reads view (program >>= next) (wire ++ []) result := Reads.bind first second
  rwa [List.append_nil] at sequence

theorem Reads.ending {view : Reading σ} {program : EStateM ε σ α} {next : α → EStateM ε σ β} {value : α}
    {wire : Bytes} {result : β → Prop} (first : Reads view program wire (· = value))
    (second : Reads view (next value) [] result) : Reads view (program >>= next) wire result :=
  Reads.finishing first fun _ equal => equal ▸ second

/-- A reader that only converts its value consumes the same bytes. -/
theorem Reads.converting {view : Reading σ} {program : EStateM ε σ α} {f : α → β} {wire : Bytes}
    {middle : α → Prop} {result : β → Prop} (first : Reads view program wire middle)
    (holds : ∀ value, middle value → result (f value)) :
    Reads view (program >>= fun v => Pure.pure (f v)) wire result :=
  Reads.finishing first fun value reached => Reads.pure (holds value reached)

theorem Reads.returning {view : Reading σ} {program : EStateM ε σ α} {f : α → β} {value : α} {wire : Bytes}
    {result : β → Prop} (first : Reads view program wire (· = value)) (holds : result (f value)) :
    Reads view (program >>= fun v => Pure.pure (f v)) wire result :=
  Reads.converting first fun _ equal => equal ▸ holds

/-- A step that reads nothing leaves the wire to the next one. -/
theorem Reads.silent {view : Reading σ} {program : EStateM ε σ α} {next : α → EStateM ε σ β}
    {wire : Bytes} {middle : α → Prop} {result : β → Prop} (first : Reads view program [] middle)
    (second : ∀ value, middle value → Reads view (next value) wire result) :
    Reads view (program >>= next) wire result :=
  Reads.bind first second

theorem Reads.done {view : Reading σ} {result : α → Prop} {value : α} (holds : result value) :
    Reads view (Pure.pure value : EStateM ε σ α) [].flatten result :=
  Reads.pure holds

theorem Reads.last {view : Reading σ} {program : EStateM ε σ α} {wire : Bytes} {result : α → Prop}
    (only : Reads view program wire result) : Reads view program [wire].flatten result := by
  simpa using only

theorem Reads.weaken {view : Reading σ} {program : EStateM ε σ α} {wire : Bytes}
    {strong weak : α → Prop} (inner : Reads view program wire strong)
    (implies : ∀ value, strong value → weak value) : Reads view program wire weak := by
  intro state before rest placed
  obtain ⟨value, next, runs, holds, placed⟩ := inner state before rest placed
  exact ⟨value, next, runs, implies value holds, placed⟩

theorem Faults.bind {view : Reading σ} {program : EStateM ε σ α} {next : α → EStateM ε σ β}
    {wire tail : Bytes} (first : Faults view program wire) : Faults view (program >>= next) (wire ++ tail) := by
  intro state before rest placed
  obtain ⟨error, last, runs⟩ := first state before (tail ++ rest) (by simpa using placed)
  exact ⟨error, last, bind_of_error runs⟩

theorem Faults.after {view : Reading σ} {program : EStateM ε σ α} {next : α → EStateM ε σ β}
    {wire tail : Bytes} {middle : α → Prop} (first : Reads view program wire middle)
    (second : ∀ value, middle value → Faults view (next value) tail) :
    Faults view (program >>= next) (wire ++ tail) := by
  intro state before rest placed
  obtain ⟨value, state', runs, holds, placed⟩ := first state before (tail ++ rest) (by simpa using placed)
  obtain ⟨error, last, fails⟩ := second value holds state' (before ++ wire) rest placed
  refine ⟨error, last, ?_⟩
  rw [bind_of_ok runs]
  exact fails

/-- A sequence is sound when both of its parts are. -/
theorem Decodes.both {view : Reading σ} {program : EStateM ε σ α} {next : α → EStateM ε σ β}
    {wire : Bytes} {fields : List Bytes} {first second : Prop} {middle : α → Prop} {result : β → Prop}
    (decodes : Decodes view program wire first middle)
    (continues : ∀ value, middle value → Decodes view (next value) fields.flatten second result) :
    Decodes view (program >>= next) (wire :: fields).flatten (first ∧ second) result := by
  constructor
  · rintro ⟨firstSound, secondSound⟩
    exact Reads.cons (decodes.1 firstSound) fun value reached => (continues value reached).1 secondSound
  · intro broken
    by_cases firstSound : first
    · exact Faults.after (decodes.1 firstSound) fun value reached =>
        (continues value reached).2 fun secondSound => broken ⟨firstSound, secondSound⟩
    · exact Faults.bind (decodes.2 firstSound)

theorem Decodes.cons {view : Reading σ} {program : EStateM ε σ α} {next : α → EStateM ε σ β}
    {wire : Bytes} {fields : List Bytes} {sound : Prop} {middle : α → Prop} {result : β → Prop}
    (first : Reads view program wire middle)
    (second : ∀ value, middle value → Decodes view (next value) fields.flatten sound result) :
    Decodes view (program >>= next) (wire :: fields).flatten sound result :=
  ⟨fun holds => Reads.cons first fun value reached => (second value reached).1 holds,
    fun broken => Faults.after first fun value reached => (second value reached).2 broken⟩

theorem Decodes.field {view : Reading σ} {program : EStateM ε σ α} {next : α → EStateM ε σ β}
    {value : α} {wire : Bytes} {fields : List Bytes} {sound : Prop} {result : β → Prop}
    (first : Reads view program wire (· = value))
    (second : Decodes view (next value) fields.flatten sound result) :
    Decodes view (program >>= next) (wire :: fields).flatten sound result :=
  Decodes.cons first fun _ equal => equal ▸ second

theorem Decodes.silent {view : Reading σ} {program : EStateM ε σ α} {next : α → EStateM ε σ β}
    {wire : Bytes} {sound : Prop} {middle : α → Prop} {result : β → Prop}
    (first : Reads view program [] middle)
    (second : ∀ value, middle value → Decodes view (next value) wire sound result) :
    Decodes view (program >>= next) wire sound result :=
  ⟨fun holds => Reads.silent first fun value reached => (second value reached).1 holds,
    fun broken => @Faults.after _ _ _ _ _ _ _ [] _ _ first fun value reached =>
      (second value reached).2 broken⟩

theorem Decodes.finishing {view : Reading σ} {program : EStateM ε σ α} {next : α → EStateM ε σ β}
    {wire : Bytes} {sound : Prop} {middle : α → Prop} {result : β → Prop}
    (first : Decodes view program wire sound middle)
    (second : ∀ value, middle value → Reads view (next value) [] result) :
    Decodes view (program >>= next) wire sound result := by
  refine ⟨fun reached => Reads.finishing (first.1 reached) second, fun broken => ?_⟩
  have sequence : Faults view (program >>= next) (wire ++ []) := Faults.bind (first.2 broken)
  rwa [List.append_nil] at sequence

theorem Decodes.last {view : Reading σ} {program : EStateM ε σ α} {wire : Bytes} {sound : Prop}
    {result : α → Prop} (only : Decodes view program wire sound result) :
    Decodes view program [wire].flatten sound result := by
  simpa using only

theorem Decodes.of_reads {view : Reading σ} {program : EStateM ε σ α} {wire : Bytes} {result : α → Prop}
    (reads : Reads view program wire result) : Decodes view program wire True result :=
  ⟨fun _ => reads, fun broken => absurd trivial broken⟩

theorem Decodes.congr {view : Reading σ} {program : EStateM ε σ α} {wire : Bytes} {sound other : Prop}
    {result : α → Prop} (same : sound ↔ other) (decodes : Decodes view program wire sound result) :
    Decodes view program wire other result :=
  propext same ▸ decodes

theorem Finds.pure {view : Reading σ} {encodes : α → Bytes → Prop} {value : α} (holds : encodes value []) :
    Finds view (Pure.pure value : EStateM ε σ α) encodes := by
  intro state before rest got next placed runs
  obtain ⟨rfl, rfl⟩ := EStateM.Result.ok.inj runs
  exact ⟨[], rest, rfl, holds, by simpa using placed⟩

theorem Finds.bind {view : Reading σ} {program : EStateM ε σ α} {next : α → EStateM ε σ β}
    {first : α → Bytes → Prop} {encodes : β → Bytes → Prop} (starts : Finds view program first)
    (continues : ∀ value bytes, first value bytes →
      Finds view (next value) fun final tail => encodes final (bytes ++ tail)) :
    Finds view (program >>= next) encodes := by
  intro state before rest final last placed runs
  obtain ⟨value, middle, one, two⟩ := ok_of_bind_ok runs
  obtain ⟨bytes, tail, rfl, encoded, placed⟩ := starts state before rest value middle placed one
  obtain ⟨more, left, rfl, whole, placed⟩ :=
    continues value bytes encoded middle (before ++ bytes) tail final last placed two
  exact ⟨bytes ++ more, left, by simp, whole, by simpa using placed⟩

/-- This form of the sequence rule follows a decoder with one encoding of each value. -/
theorem Finds.field {view : Reading σ} {program : EStateM ε σ α} {next : α → EStateM ε σ β}
    {wire : α → Bytes} {encodes : β → Bytes → Prop}
    (starts : Finds view program fun value bytes => bytes = wire value)
    (continues : ∀ value, Finds view (next value) fun final tail => encodes final (wire value ++ tail)) :
    Finds view (program >>= next) encodes :=
  Finds.bind starts fun value _ same => same ▸ continues value

section Follows
variable {υ γ δ : Type} {view : Reading σ}

theorem Follows.pure {agrees : γ → α → Prop} {found : γ} {value : α} (holds : agrees found value) :
    Follows view (Pure.pure found : EStateM υ Bytes γ) (Pure.pure value : EStateM ε σ α) agrees := by
  intro state before input _ rest _ next placed reads runs
  obtain ⟨rfl, rfl⟩ := EStateM.Result.ok.inj reads
  obtain ⟨rfl, rfl⟩ := EStateM.Result.ok.inj runs
  exact ⟨holds, [], rfl, by simpa using placed⟩

theorem Follows.bind {reader : EStateM υ Bytes γ} {readNext : γ → EStateM υ Bytes δ} {program : EStateM ε σ α}
    {next : α → EStateM ε σ β} {middle : γ → α → Prop} {agrees : δ → β → Prop}
    (first : Follows view reader program middle)
    (second : ∀ found value, middle found value → Follows view (readNext found) (next value) agrees) :
    Follows view (reader >>= readNext) (program >>= next) agrees := by
  intro state before input final rest result last placed reads runs
  obtain ⟨found, left, one, two⟩ := ok_of_bind_ok reads
  obtain ⟨value, reached, starts, continues⟩ := ok_of_bind_ok runs
  obtain ⟨agreed, taken, rfl, after⟩ := first state before input found left value reached placed one starts
  obtain ⟨holds, more, rfl, finished⟩ :=
    second found value agreed reached (before ++ taken) left final rest result last after two continues
  exact ⟨holds, taken ++ more, by simp, by simpa using finished⟩

/-- This form of the sequence rule passes on a value that both sides return. -/
theorem Follows.field {reader : EStateM υ Bytes α} {readNext : α → EStateM υ Bytes δ}
    {program : EStateM ε σ α}
    {next : α → EStateM ε σ β} {agrees : δ → β → Prop} (first : Follows view reader program (· = ·))
    (second : ∀ value, Follows view (readNext value) (next value) agrees) :
    Follows view (reader >>= readNext) (program >>= next) agrees :=
  Follows.bind first fun found _ same => same ▸ second found

/-- The reader has nothing to do while the program runs a step that reads nothing. -/
theorem Follows.silent {reader : EStateM υ Bytes δ} {program : EStateM ε σ α} {next : α → EStateM ε σ β}
    {result : α → Prop} {agrees : δ → β → Prop} (first : Keeps view program result)
    (second : ∀ value, result value → Follows view reader (next value) agrees) :
    Follows view reader (program >>= next) agrees := by
  intro state before input found rest final last placed reads runs
  obtain ⟨value, middle, starts, continues⟩ := ok_of_bind_ok runs
  obtain ⟨holds, placed⟩ := first state before input value middle placed starts
  exact second value holds middle before input found rest final last placed reads continues

theorem Keeps.pure {result : α → Prop} {value : α} (holds : result value) :
    Keeps view (Pure.pure value : EStateM ε σ α) result := by
  intro state before rest _ next placed runs
  obtain ⟨rfl, rfl⟩ := EStateM.Result.ok.inj runs
  exact ⟨holds, placed⟩

/-- The steps after the last field read nothing. -/
theorem Follows.finishing {reader : EStateM υ Bytes γ} {program : EStateM ε σ α} {next : α → EStateM ε σ β}
    {middle : γ → α → Prop} {agrees : γ → β → Prop} (first : Follows view reader program middle)
    (second : ∀ found value, middle found value → Keeps view (next value) (agrees found)) :
    Follows view reader (program >>= next) agrees := by
  intro state before input found rest final last placed reads runs
  obtain ⟨value, reached, starts, continues⟩ := ok_of_bind_ok runs
  obtain ⟨agreed, taken, rfl, after⟩ := first state before input found rest value reached placed reads starts
  obtain ⟨holds, finished⟩ := second found value agreed reached (before ++ taken) rest final last after continues
  exact ⟨holds, taken, rfl, finished⟩

/-- The reader may look at its input. -/
theorem Follows.looking {readNext : Bytes → EStateM υ Bytes γ} {program : EStateM ε σ α}
    {agrees : γ → α → Prop}
    (inner : ∀ input, Follows view (readNext input) program agrees) :
    Follows view (get >>= readNext) program agrees := by
  intro state before input found rest value next placed reads runs
  exact inner input state before input found rest value next placed reads runs

end Follows

theorem Checks.here {program : EStateM ε σ α} {next : α → EStateM ε σ β} {condition : Prop}
    (first : Checks program condition) : Checks (program >>= next) condition := by
  intro state final last runs
  obtain ⟨value, middle, starts, _⟩ := ok_of_bind_ok runs
  exact first state value middle starts

theorem Checks.later {program : EStateM ε σ α} {next : α → EStateM ε σ β} {condition : Prop}
    (second : ∀ value, Checks (next value) condition) : Checks (program >>= next) condition := by
  intro state final last runs
  obtain ⟨value, middle, _, continues⟩ := ok_of_bind_ok runs
  exact second value middle final last continues

/-- A writer passes a known value to the next program. -/
theorem Checks.after {view : Writing σ} {program : EStateM ε σ α} {next : α → EStateM ε σ β} {value : α}
    {wire : Bytes} {condition : Prop} (total : ∀ state, ∃ done, view state done)
    (first : Emits view program value wire) (second : Checks (next value) condition) :
    Checks (program >>= next) condition := by
  intro state final last runs
  obtain ⟨got, middle, starts, continues⟩ := ok_of_bind_ok runs
  obtain ⟨done, held⟩ := total state
  obtain ⟨reached, emitted, _⟩ := first state done held
  rw [starts] at emitted
  obtain ⟨rfl, rfl⟩ := EStateM.Result.ok.inj emitted
  exact second middle final last continues

theorem Checks.both {program : EStateM ε σ α} {one two : Prop} (first : Checks program one)
    (second : Checks program two) : Checks program (one ∧ two) :=
  fun state value next runs => ⟨first state value next runs, second state value next runs⟩

/-- An error in the first program is an error of the sequence. -/
theorem Rejects.bind {view : Reading σ} {program : EStateM ε σ α} {next : α → EStateM ε σ β}
    {wire : Bytes} (first : Rejects view program wire) : Rejects view (program >>= next) wire := by
  intro state before placed
  obtain ⟨error, last, runs⟩ := first state before placed
  exact ⟨error, last, bind_of_error runs⟩

end Nfs3Rpc.Encoding
