/-
This file compares a buffer that is packed and unpacked in any order with a queue of typed values.
The buffer, its items, and their kinds are arbitrary.
-/

import Nfs3Rpc.Encoding.Programs

namespace Nfs3Rpc.Encoding

variable {ε σ ι κ β : Type}

/-- A client appends one item, or takes an item of a kind that it names. -/
inductive Operation (ι κ : Type) where
  | push (item : ι)
  | pop (kind : κ)
  deriving DecidableEq

/-- The queue returns its oldest item. It refuses an operation that names another kind or outruns the items. -/
def fifo [DecidableEq κ] (kind : ι → κ) : List (Operation ι κ) → List ι → Option (List ι × List ι)
  | [], queue => some ([], queue)
  | .push item :: rest, queue => fifo kind rest (queue ++ [item])
  | .pop expected :: rest, item :: queue =>
      if kind item = expected then
        (fifo kind rest queue).map fun (popped, left) => (item :: popped, left)
      else
        none
  | .pop _ :: _, [] => none

/-- A client of a buffer runs the same operations and keeps what it takes. -/
def serve (pack : ι → EStateM ε σ Unit) (unpack : κ → EStateM ε σ β) :
    List (Operation ι κ) → EStateM ε σ (List β)
  | [] => pure []
  | .push item :: rest => do
      pack item
      serve pack unpack rest
  | .pop kind :: rest => do
      let value ← unpack kind
      let later ← serve pack unpack rest
      return value :: later

/-- The buffer holds the items of a queue: each admitted item goes to the back, and the front item comes back
when it is sound. -/
structure Queues (pack : ι → EStateM ε σ Unit) (unpack : κ → EStateM ε σ β) (kind : ι → κ)
    (report : ι → β)
    (admits sound : ι → Prop) (holds : σ → List ι → Prop) : Prop where
  pushes : ∀ state queue item, holds state queue → admits item →
    ∃ next, pack item state = .ok () next ∧ holds next (queue ++ [item])
  pops : ∀ state queue item, holds state (item :: queue) → sound item →
    ∃ next, unpack (kind item) state = .ok (report item) next ∧ holds next queue
  faults : ∀ state queue item, holds state (item :: queue) → ¬ sound item →
    ∃ error next, unpack (kind item) state = .error error next

section Runs
variable [DecidableEq κ] {pack : ι → EStateM ε σ Unit} {unpack : κ → EStateM ε σ β} {kind : ι → κ}
  {report : ι → β} {admits sound : ι → Prop} {holds : σ → List ι → Prop}

/-- A queue accepts a pop exactly when the kind is the one of its oldest item. -/
theorem fifo_pop {expected : κ} {rest : List (Operation ι κ)} {queue popped left : List ι}
    (legal : fifo kind (.pop expected :: rest) queue = some (popped, left)) :
    ∃ item others later, queue = item :: others ∧ kind item = expected ∧ popped = item :: later ∧
      fifo kind rest others = some (later, left) := by
  cases queue with
  | nil => exact nomatch legal
  | cons item others =>
      unfold fifo at legal
      by_cases named : kind item = expected
      · rw [if_pos named] at legal
        obtain ⟨⟨later, final⟩, runs, same⟩ := Option.map_eq_some_iff.mp legal
        obtain ⟨rfl, rfl⟩ := Prod.mk.inj same
        exact ⟨item, others, later, rfl, named, rfl, runs⟩
      · rw [if_neg named] at legal
        exact nomatch legal

/-- A legal run returns the items in their order while each of them is sound. -/
theorem Queues.serve_returns (queues : Queues pack unpack kind report admits sound holds)
    (operations : List (Operation ι κ)) :
    ∀ state queue popped left, holds state queue → (∀ item, .push item ∈ operations → admits item) →
      fifo kind operations queue = some (popped, left) → (∀ item ∈ popped, sound item) →
        ∃ next, serve pack unpack operations state = .ok (popped.map report) next ∧ holds next left := by
  induction operations with
  | nil =>
      intro state queue popped left held _ legal _
      obtain ⟨rfl, rfl⟩ := Prod.mk.inj (Option.some.inj legal)
      exact ⟨state, rfl, held⟩
  | cons operation rest ih =>
      intro state queue popped left held admitted legal safe
      have others : ∀ item, .push item ∈ rest → admits item := by
        intro item member
        exact admitted item (List.mem_cons_of_mem _ member)
      cases operation with
      | push item =>
          obtain ⟨middle, packs, held⟩ :=
            queues.pushes state queue item held (admitted item (List.mem_cons_self ..))
          obtain ⟨next, runs, held⟩ := ih middle (queue ++ [item]) popped left held others legal safe
          refine ⟨next, ?_, held⟩
          rw [serve, bind_of_ok packs]
          exact runs
      | pop expected =>
          obtain ⟨item, queue, later, rfl, rfl, rfl, continues⟩ := fifo_pop legal
          obtain ⟨middle, unpacks, held⟩ := queues.pops state queue item held (safe item (List.mem_cons_self ..))
          obtain ⟨next, runs, held⟩ := ih middle queue later left held others continues
            fun item member => safe item (List.mem_cons_of_mem _ member)
          refine ⟨next, ?_, held⟩
          rw [serve, bind_of_ok unpacks, bind_of_ok runs]
          rfl

/-- A legal run that reaches an unsound item raises an error. -/
theorem Queues.serve_faults (queues : Queues pack unpack kind report admits sound holds)
    (operations : List (Operation ι κ)) :
    ∀ state queue popped left, holds state queue → (∀ item, .push item ∈ operations → admits item) →
      fifo kind operations queue = some (popped, left) → (∃ item ∈ popped, ¬ sound item) →
        ∃ error next, serve pack unpack operations state = .error error next := by
  induction operations with
  | nil =>
      intro state queue popped left _ _ legal ⟨item, member, _⟩
      obtain ⟨rfl, rfl⟩ := Prod.mk.inj (Option.some.inj legal)
      exact absurd member List.not_mem_nil
  | cons operation rest ih =>
      intro state queue popped left held admitted legal broken
      have others : ∀ item, .push item ∈ rest → admits item := by
        intro item member
        exact admitted item (List.mem_cons_of_mem _ member)
      cases operation with
      | push item =>
          obtain ⟨middle, packs, held⟩ :=
            queues.pushes state queue item held (admitted item (List.mem_cons_self ..))
          obtain ⟨error, next, fails⟩ := ih middle (queue ++ [item]) popped left held others legal broken
          refine ⟨error, next, ?_⟩
          rw [serve, bind_of_ok packs]
          exact fails
      | pop expected =>
          obtain ⟨item, queue, later, rfl, rfl, rfl, continues⟩ := fifo_pop legal
          by_cases safe : sound item
          · obtain ⟨middle, unpacks, held⟩ := queues.pops state queue item held safe
            -- The front item is sound, so the unsound one comes later.
            obtain ⟨bad, member, unsound⟩ := broken
            have behind : bad ∈ later := by
              cases List.mem_cons.mp member with
              | inl same => exact absurd (same ▸ safe) unsound
              | inr behind => exact behind
            obtain ⟨error, next, fails⟩ :=
              ih middle queue later left held others continues ⟨bad, behind, unsound⟩
            refine ⟨error, next, ?_⟩
            rw [serve, bind_of_ok unpacks, bind_of_error fails]
          · obtain ⟨error, next, fails⟩ := queues.faults state queue item held safe
            exact ⟨error, next, bind_of_error fails⟩

/-- A legal run returns the items in their order exactly when it takes only sound items. It ends in a state
that holds the items left. -/
theorem Queues.serve_iff (queues : Queues pack unpack kind report admits sound holds)
    {operations : List (Operation ι κ)} {state : σ} {queue popped left : List ι} {finished : σ → Prop}
    (held : holds state queue) (admitted : ∀ item, .push item ∈ operations → admits item)
    (legal : fifo kind operations queue = some (popped, left)) (ends : ∀ next, holds next left → finished next) :
    (∃ next, serve pack unpack operations state = .ok (popped.map report) next ∧ finished next) ↔
      ∀ item ∈ popped, sound item := by
  constructor
  · intro ⟨next, runs, _⟩ item member
    by_contra unsound
    obtain ⟨error, last, fails⟩ :=
      queues.serve_faults operations state queue popped left held admitted legal ⟨item, member, unsound⟩
    rw [runs] at fails
    exact nomatch fails
  · intro safe
    obtain ⟨next, runs, held⟩ := queues.serve_returns operations state queue popped left held admitted legal safe
    exact ⟨next, runs, ends next held⟩

end Runs

section Buffers
variable {writing : Nat → Writing σ} {reading : Reading σ} {wire : ι → Bytes} {admits : ι → Prop}

/-- The bytes after the cursor are the items that were not taken yet. -/
def Buffered (writing : Nat → Writing σ) (wire : ι → Bytes) (admits : ι → Prop) (state : σ)
    (queue : List ι) : Prop :=
  (∀ item ∈ queue, admits item) ∧ ∃ before, writing before.length state (before ++ queue.flatMap wire)

/-- A buffer whose writers append the wire of an item and whose readers take it back is a queue. -/
theorem queues_of_wire {pack : ι → EStateM ε σ Unit} {unpack : κ → EStateM ε σ β} {kind : ι → κ}
    {report : ι → β} {sound : ι → Prop}
    (views : ∀ state before rest,
      writing before.length state (before ++ rest) ↔ reading state before rest ∧ 4 ∣ (before ++ rest).length)
    (packs : ∀ item, admits item → ∀ pos, Emits (writing pos) (pack item) () (wire item))
    (unpacks : ∀ item, admits item →
      Decodes reading (unpack (kind item)) (wire item) (sound item) (· = report item)) :
    Queues pack unpack kind report admits sound (Buffered writing wire admits) := by
  constructor
  · intro state queue item ⟨admitted, before, held⟩ allowed
    obtain ⟨next, runs, held⟩ := packs item allowed before.length state _ held
    refine ⟨next, runs, ?_, before, ?_⟩
    · intro other member
      cases List.mem_append.mp member with
      | inl inside => exact admitted other inside
      | inr last => exact List.mem_singleton.mp last ▸ allowed
    · simpa using held
  · intro state queue item ⟨admitted, before, held⟩ safe
    obtain ⟨placed, aligned⟩ := (views state before _).mp held
    rw [List.flatMap_cons] at placed aligned
    obtain ⟨value, next, runs, rfl, placed⟩ :=
      (unpacks item (admitted item (List.mem_cons_self ..))).1 safe state before _ placed
    refine ⟨next, runs, fun other member => admitted other (List.mem_cons_of_mem _ member), before ++ wire item, ?_⟩
    exact (views next _ _).mpr ⟨placed, by simpa using aligned⟩
  · intro state queue item ⟨admitted, before, held⟩ unsound
    obtain ⟨placed, _⟩ := (views state before _).mp held
    rw [List.flatMap_cons] at placed
    exact (unpacks item (admitted item (List.mem_cons_self ..))).2 unsound state before _ placed

end Buffers

end Nfs3Rpc.Encoding
