import Nfs3Rpc.Proof.Csuite.Growth
import Nfs3Rpc.Proof.Csuite.XdrBuf

namespace Nfs3Rpc.Csuite.Growth
open Encoding

/-- The loop reaches every request up to half of the range, and none of its turns wraps. -/
theorem newCapacity_reaches {capacity needed : Nat} (short : capacity < needed) (bound : needed ≤ 2 ^ 63) :
    ∃ newCap, newCapacity capacity needed = some newCap ∧
      Doubled 64 needed 64 (if capacity = 0 then xdrMinCapacity else capacity * 2) newCap := by
  by_cases empty : capacity = 0
  · rw [newCapacity, if_pos empty, if_pos empty]
    apply doubleUntil_reaches bound 64 xdrMinCapacity (by decide)
    exact bound.trans (by decide)
  · have room : capacity * 2 < 2 ^ 64 := by omega
    have first : doubleSize 64 capacity = capacity * 2 := Nat.mod_eq_of_lt room
    rw [newCapacity, if_neg empty, if_neg empty, first]
    apply doubleUntil_reaches bound 64 (capacity * 2) room
    omega

theorem serves_of_bounded {machine : Machine} (grants : machine.Grants) {bytes : Nat}
    (bounded : machine.buf.size + bytes ≤ 2 ^ 63) : machine.Serves bytes := by
  refine ⟨by omega, ?_⟩
  by_cases room : machine.buf.size + bytes ≤ machine.buf.capacity
  · exact .inl room
  · obtain ⟨newCap, ends, _⟩ := newCapacity_reaches (Nat.lt_of_not_le room) bounded
    exact .inr ⟨Option.isSome_iff_exists.mpr ⟨newCap, ends⟩, grants 0⟩

theorem write_grants {machine after : Machine} (grants : machine.Grants) {bytes : Bytes}
    (runs : write bytes machine = .ok () after) : after.Grants := by
  obtain ⟨ready, ensured, rfl⟩ := write_ok runs
  rcases ensureWriteCapacity_ok ensured with ⟨_, rfl⟩ | ⟨newCap, _, ⟨rfl, _⟩ | ⟨fresh, _, rfl⟩⟩
  · exact grants
  · exact fun later => grants (later + 1)
  · exact fun later => grants (later + 1)

/-- Copies extend the buffer as long as the heap grants every request and the size stays small. -/
theorem writeAll_extends {machine : Machine} (sound : machine.Sound) (grants : machine.Grants) {chunks : List Bytes}
    (bounded : machine.buf.size + chunks.flatten.length ≤ 2 ^ 63) :
    ∃ after, writeAll chunks machine = .ok () after ∧ machine.Extends chunks.flatten after ∧ after.Grants := by
  induction chunks generalizing machine with
  | nil => exact ⟨machine, rfl, .refl sound, grants⟩
  | cons chunk chunks later =>
      rw [List.flatten_cons, List.length_append] at bounded
      obtain ⟨middle, writes, extended⟩ :=
        write_served sound (@serves_of_bounded machine grants chunk.length (by omega))
      have rest : middle.buf.size + chunks.flatten.length ≤ 2 ^ 63 := by
        rw [extended.size]
        omega
      obtain ⟨after, continues, last, granting⟩ := later extended.sound (write_grants grants writes) rest
      refine ⟨after, ?_, extended.trans last, granting⟩
      rw [writeAll, bind_of_ok writes]
      exact continues

theorem xdrPack_extends {machine : Machine} (sound : machine.Sound) (grants : machine.Grants) {call : Pack}
    (valid : call.Valid) (bounded : machine.buf.size + (call.chunks machine.buf.size).flatten.length ≤ 2 ^ 63) :
    ∃ after, xdrPack call machine = .ok () after ∧
      machine.Extends (call.chunks machine.buf.size).flatten after ∧ after.Grants := by
  rw [xdrPack_writes valid]
  exact writeAll_extends sound grants bounded

theorem malloc_returns {machine : Machine} (grants : machine.Grants) (bytes : Nat) :
    ∃ fresh, malloc bytes machine =
      .ok (fresh, bytes) { machine with heap := fun later => machine.heap (later + 1) } := by
  obtain ⟨fresh, answer⟩ := Option.isSome_iff_exists.mp (grants 0)
  have asked : request machine = .ok (some fresh) { machine with heap := fun later => machine.heap (later + 1) } := by
    rw [request, answer]
  refine ⟨fresh, ?_⟩
  rw [malloc, bind_of_ok asked]
  rfl

/-- What is known of a buffer that has run with a granting heap. -/
structure Machine.Running (machine : Machine) : Prop where
  sound : machine.Sound
  grants : machine.Grants

/-- The heap has answered one request for a buffer. -/
def Machine.opened (machine : Machine) (buf : XdrBufT) : Machine :=
  { machine with
    buf
    heap := fun later => machine.heap (later + 1) }

/-- The copy fills a block that was allocated for it. -/
theorem xdrBufInitCopy_running {data : Ptr} {len : Nat} (valid : (Call.initCopy data len).Valid) {machine : Machine}
    (grants : machine.Grants) (inside : machine.strayed = []) (bounded : len ≤ 2 ^ 63) :
    ∃ after, xdrBufInitCopy data len machine = .ok () after ∧ after.Running ∧ after.buf.size = len := by
  obtain ⟨fresh, allocates⟩ := malloc_returns grants (if len = 0 then 1 else len)
  have within : len ≤ if len = 0 then 1 else len := by split <;> omega
  have word : len < 2 ^ 64 := bounded.trans_lt (by decide)
  have program : xdrBufInitCopy data len machine =
      (if len > 0 then copyFrom data len >>= fun bytes => store bytes else pure ())
        (machine.opened ⟨fresh, if len = 0 then 1 else len, 0, len, 0⟩) :=
    bind_of_ok allocates
  have sound : (machine.opened ⟨fresh, if len = 0 then 1 else len, 0, len, 0⟩).Sound :=
    ⟨Nat.zero_le _, within, word, inside⟩
  have granting : (machine.opened ⟨fresh, if len = 0 then 1 else len, 0, len, 0⟩).Grants :=
    fun later => grants (later + 1)
  by_cases positive : len > 0
  · obtain ⟨block, rfl, enough⟩ := valid (Nat.ne_of_gt positive)
    have found : copyFrom (.block block) len = pure (block.take len) := if_pos enough
    have length : (block.take len).length = len := List.length_take_of_le enough
    have size : 0 + (block.take len).length = len := (Nat.zero_add _).trans length
    have extended := stored_extends sound size.le
    rw [program, if_pos positive, found]
    exact ⟨_, rfl, ⟨extended.sound, granting⟩, extended.size.trans size⟩
  · obtain rfl : len = 0 := by omega
    rw [program]
    exact ⟨_, rfl, ⟨sound, granting⟩, rfl⟩

theorem xdrBufInitCapacity_running {machine : Machine} (grants : machine.Grants) (inside : machine.strayed = [])
    (cap : UInt64) :
    ∃ after, xdrBufInitCapacity cap machine = .ok () after ∧ after.Running ∧ after.buf.size = 0 := by
  obtain ⟨fresh, allocates⟩ :=
    malloc_returns grants (if cap.toNat < xdrMinCapacity then xdrMinCapacity else cap.toNat)
  have word : (if cap.toNat < xdrMinCapacity then xdrMinCapacity else cap.toNat) < 2 ^ 64 := by
    split
    · decide
    · exact cap.toNat_lt
  exact ⟨_, bind_of_ok allocates,
    ⟨⟨Nat.zero_le _, Nat.le_refl _, word, inside⟩, fun later => grants (later + 1)⟩, rfl⟩

/-- A call that starts a buffer makes it sound, whatever its memory held. -/
theorem Call.initializes_running {call : Call} (initializes : call.Initializes) (valid : call.Valid)
    {machine : Machine} (grants : machine.Grants) (inside : machine.strayed = [])
    (bounded : call.sizeAfter machine.buf.size ≤ 2 ^ 63) :
    ∃ after, call.run machine = .ok () after ∧ after.Running ∧
      after.buf.size = call.sizeAfter machine.buf.size := by
  cases call with
  | init => exact ⟨_, rfl, ⟨⟨Nat.le_refl 0, Nat.le_refl 0, Nat.two_pow_pos 64, inside⟩, grants⟩, rfl⟩
  | initCapacity cap => exact xdrBufInitCapacity_running grants inside cap
  | initCopy data len => exact xdrBufInitCopy_running valid grants inside bounded
  | clear => exact initializes.elim
  | resetRead => exact initializes.elim
  | pack call => exact initializes.elim

/-- Each call on a running buffer returns, and a pack leaves the bytes that were there. -/
theorem Call.run_running {call : Call} (valid : call.Valid) {machine : Machine} (running : machine.Running)
    (bounded : call.sizeAfter machine.buf.size ≤ 2 ^ 63) :
    ∃ after, call.run machine = .ok () after ∧ after.Running ∧
      after.buf.size = call.sizeAfter machine.buf.size ∧
      ((∃ values, call = .pack values) → machine.Keeps after) := by
  obtain ⟨sound, grants⟩ := running
  by_cases initializes : call.Initializes
  · obtain ⟨after, runs, running, size⟩ := call.initializes_running initializes valid grants sound.inside bounded
    refine ⟨after, runs, running, size, ?_⟩
    rintro ⟨values, rfl⟩
    exact initializes.elim
  · cases call with
    | init => exact absurd trivial initializes
    | initCapacity cap => exact absurd trivial initializes
    | initCopy data len => exact absurd trivial initializes
    | clear => exact ⟨_, rfl, ⟨⟨Nat.zero_le _, sound.capacity, sound.word, sound.inside⟩, grants⟩, rfl,
        nofun⟩
    | resetRead =>
        exact ⟨_, rfl, ⟨⟨sound.size, sound.capacity, sound.word, sound.inside⟩, grants⟩, rfl, nofun⟩
    | pack values =>
        obtain ⟨after, packs, extended, granting⟩ := xdrPack_extends sound grants valid bounded
        exact ⟨after, packs, ⟨extended.sound, granting⟩, extended.size, fun _ => extended.keeps⟩

theorem running_grows {machine : Machine} (running : machine.Running) {calls : List Call}
    (valid : ∀ call ∈ calls, call.Valid) (bounded : Bounded (2 ^ 63) calls machine.buf.size) :
    Grows calls machine := by
  induction calls generalizing machine with
  | nil => trivial
  | cons call calls later =>
      obtain ⟨first, rest⟩ := List.forall_mem_cons.mp valid
      obtain ⟨after, runs, running, size, keeps⟩ := call.run_running first running bounded.1
      exact ⟨after, runs, size, running.sound.size, running.sound.inside, keeps,
        later running rest (size ▸ bounded.2)⟩

/-- A buffer that is started once grows with every call, and its loop doubles without a wrap, while allocations
succeed and its size stays within half of the range. -/
theorem started_buffer_grows (buf : XdrBufT) {heap : Nat → Option Memory} (succeeds : ∀ later, (heap later).isSome)
    {first : Call} (initializes : first.Initializes) {calls : List Call}
    (valid : ∀ call ∈ first :: calls, call.Valid)
    (bounded : Bounded (2 ^ 63) (first :: calls) buf.size) :
    Grows (first :: calls) (.start buf heap) ∧
    ∀ capacity needed, capacity < needed → needed ≤ 2 ^ 63 →
      ∃ newCap, newCapacity capacity needed = some newCap ∧
        Doubled 64 needed 64 (if capacity = 0 then xdrMinCapacity else capacity * 2) newCap := by
  constructor
  · obtain ⟨head, rest⟩ := List.forall_mem_cons.mp valid
    obtain ⟨after, runs, running, size⟩ :=
      @Call.initializes_running first initializes head (.start buf heap) succeeds rfl bounded.1
    refine ⟨after, runs, size, running.sound.size, running.sound.inside, ?_,
      running_grows running rest (size ▸ bounded.2)⟩
    rintro ⟨values, rfl⟩
    exact initializes.elim
  · exact fun _ _ => newCapacity_reaches

/-- A copy of three bytes grows twice, is emptied, and takes a string. -/
theorem started_buffer_grows_copy :
    Grows [.initCopy (.block [1, 2, 3]) 3, .pack (.uint64 5), .clear, .pack (.cstring (.block [78, 0]))]
      (.start ⟨fun _ => 9, 5, 4, 3, 2⟩ fun _ => some fun _ => 0) := by
  have valid : ∀ call ∈ ([.initCopy (.block [1, 2, 3]) 3, .pack (.uint64 5), .clear,
      .pack (.cstring (.block [78, 0]))] : List Call), call.Valid := by
    simp only [List.forall_mem_cons]
    exact ⟨fun _ => ⟨_, rfl, by decide⟩, trivial, trivial, .inr ⟨_, rfl, by decide⟩, List.forall_mem_nil _⟩
  have initializes : (Call.initCopy (.block [1, 2, 3]) 3).Initializes := trivial
  exact (started_buffer_grows ⟨fun _ => 9, 5, 4, 3, 2⟩ (fun _ => rfl) initializes valid
    ⟨by decide, by decide, by decide, by decide, trivial⟩).1

theorem nonempty_flatten (chunks : List Bytes) : (nonempty chunks).flatten = chunks.flatten :=
  List.flatten_filter_not_isEmpty

/-- In the buffer that is modeled without its block, a copy appends the bytes that its pointer gives. -/
theorem xdrPackBytes_appends {data : Ptr} {len : Nat} (valid : (Pack.bytes data len).Valid)
    (machine : Csuite.Machine) :
    Csuite.xdrPackBytes data len machine =
      .ok () { machine with buf.data := machine.buf.data ++ data.copied len } := by
  by_cases copies : len > 0 ∧ data ≠ .null
  · obtain ⟨block, rfl, inside⟩ := valid copies.2 (Nat.ne_of_gt copies.1)
    have found : readBlock (.block block) len = pure (block.take len) := if_pos inside
    rw [Csuite.xdrPackBytes, if_pos copies, found]
    rfl
  · rw [Csuite.xdrPackBytes, if_neg copies, copied_skipped copies, List.append_nil]
    rfl

theorem paddedChunks_appends {data : Ptr} {len : UInt32} (valid : (Pack.bytes data len.toNat).Valid)
    (machine : Csuite.Machine) :
    (do Csuite.xdrPackUint32 len; Csuite.xdrPackBytes data len.toNat; Csuite.padTo4Bytes) machine =
      .ok () { machine with
        buf.data := machine.buf.data ++
          (paddedChunks machine.buf.data.length len (data.copied len.toNat)).flatten } := by
  have word : Csuite.xdrPackUint32 len machine =
      .ok () { machine with buf.data := machine.buf.data ++ be32 len } := rfl
  have pad : ∀ before : Csuite.Machine, Csuite.padTo4Bytes before =
      .ok () { before with
        buf.data := before.buf.data ++ List.replicate (padding before.buf.data.length) 0 } := fun _ => rfl
  rw [bind_of_ok word, bind_of_ok (xdrPackBytes_appends valid _), pad, paddedChunks, List.flatten_cons,
    nonempty_flatten]
  simp only [List.length_append, be32_length, List.append_assoc, List.flatten_cons, List.flatten_nil,
    List.append_nil, Nat.add_assoc]

theorem xdrPackCstring_appends {s : Ptr} (isString : s.IsString) (machine : Csuite.Machine) :
    Csuite.xdrPackCstring s machine =
      .ok () { machine with
        buf.data := machine.buf.data ++
          (paddedChunks machine.buf.data.length (UInt32.ofNat s.cstring.length) (clip s.cstring)).flatten } := by
  rcases isString with rfl | ⟨data, rfl, terminated⟩
  · exact @paddedChunks_appends .null 0 (fun present => absurd rfl present) machine
  · have counts : Csuite.strlen (.block data) = pure (Ptr.block data).cstring.length := if_pos terminated
    rw [Csuite.xdrPackCstring, if_neg Ptr.noConfusion, counts, ← copied_clip]
    exact paddedChunks_appends (copied_string_valid data) machine

/-- Each call appends its copies to the buffer that is modeled without its block. -/
theorem xdrPack_appends {call : Pack} (valid : call.Valid) (machine : Csuite.Machine) :
    Csuite.xdrPack call machine =
      .ok () { machine with
        buf.data := machine.buf.data ++ (call.chunks machine.buf.data.length).flatten } := by
  cases call with
  | int32 val => rfl
  | uint32 val => rfl
  | uint64 val => rfl
  | bool val => rfl
  | cstring s => exact xdrPackCstring_appends valid machine
  | varOpaque data len => exact paddedChunks_appends (copied_opaque_valid valid) machine
  | bytes data len =>
      rw [Pack.chunks, nonempty_flatten, List.flatten_singleton]
      exact xdrPackBytes_appends valid machine

end Nfs3Rpc.Csuite.Growth
