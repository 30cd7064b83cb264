import Nfs3Rpc.Proof.Csuite.Capacities

namespace Nfs3Rpc.Csuite.Growth
open Encoding

/-- A copy moves no cursor, whether its block grows or not. -/
theorem write_pos {machine after : Machine} {bytes : Bytes} (runs : write bytes machine = .ok () after) :
    after.buf.pos = machine.buf.pos := by
  obtain ⟨ready, ensured, rfl⟩ := write_ok runs
  rcases ensureWriteCapacity_ok ensured with ⟨_, rfl⟩ | ⟨newCap, _, ⟨rfl, _⟩ | ⟨fresh, _, rfl⟩⟩
  · rfl
  · rfl
  · rfl

theorem writeAll_pos {machine after : Machine} {chunks : List Bytes} (runs : writeAll chunks machine = .ok () after) :
    after.buf.pos = machine.buf.pos := by
  induction chunks generalizing machine with
  | nil =>
      obtain ⟨_, rfl⟩ := EStateM.Result.ok.inj runs
      rfl
  | cons chunk chunks later =>
      obtain ⟨_, middle, writes, continues⟩ := ok_of_bind_ok runs
      rw [later continues, write_pos writes]

/-- The copy of a block starts with its bytes. -/
theorem xdrBufInitCopy_view {data : Ptr} {len : Nat} (valid : (Call.initCopy data len).Valid) {machine after : Machine}
    (grants : machine.Grants) (bounded : len ≤ 2 ^ 63) (runs : xdrBufInitCopy data len machine = .ok () after) :
    after.view = ⟨data.copied len, 0⟩ := by
  obtain ⟨fresh, allocates⟩ := malloc_returns grants (if len = 0 then 1 else len)
  have program : xdrBufInitCopy data len machine =
      (if len > 0 then copyFrom data len >>= fun bytes => store bytes else pure ())
        (machine.opened ⟨fresh, if len = 0 then 1 else len, 0, len, 0⟩) :=
    bind_of_ok allocates
  rw [program] at runs
  by_cases positive : len > 0
  · obtain ⟨block, rfl, enough⟩ := valid (Nat.ne_of_gt positive)
    have found : copyFrom (.block block) len = pure (block.take len) := if_pos enough
    have length : (block.take len).length = len := List.length_take_of_le enough
    have size : sizeSum 64 0 (block.take len).length = 0 + (block.take len).length := sizeSum_small (by omega)
    rw [if_pos positive, found] at runs
    obtain ⟨_, rfl⟩ := EStateM.Result.ok.inj runs
    have bytes := contents_overwrite fresh 0 (block.take len)
    rw [← size] at bytes
    exact congrArg (Csuite.XdrBufT.mk · 0) bytes
  · have skips : data.copied len = [] := copied_skipped fun copies => positive copies.1
    rw [if_neg positive] at runs
    obtain ⟨_, rfl⟩ := EStateM.Result.ok.inj runs
    rw [skips]
    rfl

/-- A call that starts a buffer leaves what it is for, whatever was in the memory before. -/
theorem Call.initializes_view {call : Call} (initializes : call.Initializes) (valid : call.Valid)
    {machine after : Machine} (grants : machine.Grants) (bounded : call.sizeAfter machine.buf.size ≤ 2 ^ 63)
    (runs : call.run machine = .ok () after) (plain : Csuite.Machine) :
    call.plain plain = .ok () { plain with buf := after.view } := by
  cases call with
  | init =>
      obtain ⟨_, rfl⟩ := EStateM.Result.ok.inj runs
      rfl
  | initCapacity cap =>
      obtain ⟨fresh, allocates⟩ :=
        malloc_returns grants (if cap.toNat < xdrMinCapacity then xdrMinCapacity else cap.toNat)
      have program : xdrBufInitCapacity cap machine = .ok () (machine.opened _) := bind_of_ok allocates
      obtain ⟨_, rfl⟩ := EStateM.Result.ok.inj (program.symm.trans runs)
      rfl
  | initCopy data len =>
      rw [xdrBufInitCopy_view valid grants bounded runs]
      rfl
  | clear => exact initializes.elim
  | resetRead => exact initializes.elim
  | pack call => exact initializes.elim

/-- Each call on a running buffer does to its view what it is for. -/
theorem Call.run_refines {call : Call} (valid : call.Valid) {machine : Machine} (running : machine.Running)
    (bounded : call.sizeAfter machine.buf.size ≤ 2 ^ 63) {plain : Csuite.Machine} (same : plain.buf = machine.view) :
    ∃ after final, call.run machine = .ok () after ∧ after.Running ∧
      after.buf.size = call.sizeAfter machine.buf.size ∧ call.plain plain = .ok () final ∧
        final.buf = after.view := by
  by_cases initializes : call.Initializes
  · obtain ⟨after, runs, still, size⟩ :=
      call.initializes_running initializes valid running.grants running.sound.inside bounded
    exact ⟨after, _, runs, still, size, call.initializes_view initializes valid running.grants bounded runs plain,
      rfl⟩
  · obtain ⟨sound, grants⟩ := running
    cases call with
    | init => exact absurd trivial initializes
    | initCapacity cap => exact absurd trivial initializes
    | initCopy data len => exact absurd trivial initializes
    | clear =>
        exact ⟨_, { plain with buf := ⟨[], 0⟩ }, rfl,
          ⟨⟨Nat.zero_le _, sound.capacity, sound.word, sound.inside⟩, grants⟩, rfl, rfl, rfl⟩
    | resetRead =>
        refine ⟨_, { plain with buf.pos := 0 }, rfl,
          ⟨⟨sound.size, sound.capacity, sound.word, sound.inside⟩, grants⟩,
          rfl, rfl, ?_⟩
        rw [same]
        rfl
    | pack values =>
        obtain ⟨after, packs, extended, granting⟩ := xdrPack_extends sound grants valid bounded
        rw [xdrPack_writes valid] at packs
        have cursor := writeAll_pos packs
        rw [← xdrPack_writes valid] at packs
        refine ⟨after, _, packs, ⟨extended.sound, granting⟩, extended.size, xdrPack_appends valid plain, ?_⟩
        rw [same, Machine.view, Machine.view, extended.appends, contents_length, cursor]

theorem running_refines {machine : Machine} (running : machine.Running) {calls : List Call}
    (valid : ∀ call ∈ calls, call.Valid) (bounded : Bounded (2 ^ 63) calls machine.buf.size)
    {plain : Csuite.Machine}
    (same : plain.buf = machine.view) :
    ∃ after final, runAll calls machine = .ok () after ∧ plainAll calls plain = .ok () final ∧
      final.buf = after.view := by
  induction calls generalizing machine plain with
  | nil => exact ⟨machine, plain, rfl, rfl, same⟩
  | cons call calls later =>
      obtain ⟨first, rest⟩ := List.forall_mem_cons.mp valid
      obtain ⟨middle, reached, runs, still, size, plains, follows⟩ := call.run_refines first running bounded.1 same
      obtain ⟨after, final, continues, ends, equal⟩ := later still rest (size ▸ bounded.2) follows
      refine ⟨after, final, ?_, ?_, equal⟩
      · rw [runAll, bind_of_ok runs]
        exact continues
      · rw [plainAll, bind_of_ok plains]
        exact ends

/-- Behind its first call a buffer in memory holds, after every run of calls, the bytes and the cursor of the buffer
that has no block, and no capacity shows. No source of a call lies in the block of the buffer itself. -/
theorem started_buffer_refines (buf : XdrBufT) {heap : Nat → Option Memory}
    (succeeds : ∀ later, (heap later).isSome)
    {first : Call} (initializes : first.Initializes) {calls : List Call}
    (valid : ∀ call ∈ first :: calls, call.Valid)
    (bounded : Bounded (2 ^ 63) (first :: calls) buf.size) (plain : Csuite.Machine) :
    ∃ after final, runAll (first :: calls) (.start buf heap) = .ok () after ∧
      plainAll (first :: calls) plain = .ok () final ∧ final.buf = after.view := by
  obtain ⟨head, rest⟩ := List.forall_mem_cons.mp valid
  obtain ⟨middle, runs, running, size⟩ :=
    @Call.initializes_running first initializes head (.start buf heap) succeeds rfl bounded.1
  have plains := @Call.initializes_view first initializes head (.start buf heap) middle succeeds bounded.1 runs plain
  obtain ⟨after, final, continues, ends, equal⟩ :=
    @running_refines middle running calls rest (size ▸ bounded.2) { plain with buf := middle.view } rfl
  refine ⟨after, final, ?_, ?_, equal⟩
  · rw [runAll, bind_of_ok runs]
    exact continues
  · rw [plainAll, bind_of_ok plains]
    exact ends

/-- A copy of three bytes takes a word, is emptied, and takes a string. -/
theorem started_buffer_refines_copy : ∃ after final,
    runAll [.initCopy (.block [1, 2, 3]) 3, .pack (.uint64 5), .clear, .pack (.cstring (.block [78, 0]))]
      (.start ⟨fun _ => 9, 5, 4, 3, 2⟩ fun _ => some fun _ => 0) = .ok () after ∧
    plainAll [.initCopy (.block [1, 2, 3]) 3, .pack (.uint64 5), .clear, .pack (.cstring (.block [78, 0]))]
      ⟨⟨[8], 1⟩, fun _ => 0, 0⟩ = .ok () final ∧ final.buf = after.view := by
  have valid : ∀ call ∈ ([.initCopy (.block [1, 2, 3]) 3, .pack (.uint64 5), .clear,
      .pack (.cstring (.block [78, 0]))] : List Call), call.Valid := by
    simp only [List.forall_mem_cons]
    exact ⟨fun _ => ⟨_, rfl, by decide⟩, trivial, trivial, .inr ⟨_, rfl, by decide⟩, List.forall_mem_nil _⟩
  have initializes : (Call.initCopy (.block [1, 2, 3]) 3).Initializes := trivial
  exact started_buffer_refines ⟨fun _ => 9, 5, 4, 3, 2⟩ (fun _ => rfl) initializes valid
    ⟨by decide, by decide, by decide, by decide, trivial⟩ ⟨⟨[8], 1⟩, fun _ => 0, 0⟩

end Nfs3Rpc.Csuite.Growth
