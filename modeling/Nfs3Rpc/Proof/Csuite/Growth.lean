import Nfs3Rpc.Encoding.Triples
import Nfs3Rpc.Format.Csuite.Growth

namespace Nfs3Rpc.Csuite.Growth
open Encoding

/-- A failed request leaves a message. -/
def Machine.refused (machine : Machine) : Machine :=
  { machine with
    heap := fun later => machine.heap (later + 1)
    stderr := machine.stderr ++ ["XDR: out of memory\n"] }

def Machine.grown (machine : Machine) (fresh : Memory) (newCap : Nat) : Machine :=
  { machine with
    heap := fun later => machine.heap (later + 1)
    buf := machine.buf.moved fresh newCap }

section
variable {machine : Machine} {bytes newCap : Nat}

theorem ensureWriteCapacity_enough (enough : sizeSum 64 machine.buf.size bytes ≤ machine.buf.capacity) :
    ensureWriteCapacity bytes machine = .ok () machine := by
  rw [ensureWriteCapacity, get_bind, if_neg (Nat.not_lt.mpr enough)]
  rfl

variable (short : machine.buf.capacity < sizeSum 64 machine.buf.size bytes)

include short

theorem ensureWriteCapacity_endless
    (endless : newCapacity machine.buf.capacity (sizeSum 64 machine.buf.size bytes) = none) :
    ensureWriteCapacity bytes machine = .error .endlessLoop machine := by
  rw [ensureWriteCapacity, get_bind]
  simp only [if_pos short, endless]
  rfl

theorem ensureWriteCapacity_refused
    (ends : newCapacity machine.buf.capacity (sizeSum 64 machine.buf.size bytes) = some newCap)
    (fails : machine.heap 0 = none) : ensureWriteCapacity bytes machine = .ok () machine.refused := by
  have asked : request machine = .ok none { machine with heap := fun later => machine.heap (later + 1) } := by
    rw [request, fails]
  rw [ensureWriteCapacity, get_bind]
  simp only [if_pos short, ends]
  rw [bind_of_ok asked]
  rfl

theorem ensureWriteCapacity_granted {fresh : Memory}
    (ends : newCapacity machine.buf.capacity (sizeSum 64 machine.buf.size bytes) = some newCap)
    (succeeds : machine.heap 0 = some fresh) :
    ensureWriteCapacity bytes machine = .ok () (machine.grown fresh newCap) := by
  have asked : request machine = .ok (some fresh) { machine with heap := fun later => machine.heap (later + 1) } := by
    rw [request, succeeds]
  rw [ensureWriteCapacity, get_bind]
  simp only [if_pos short, ends]
  rw [bind_of_ok asked]
  rfl

end

/-- The function returns in one of three ways. -/
theorem ensureWriteCapacity_ok {machine after : Machine} {bytes : Nat}
    (runs : ensureWriteCapacity bytes machine = .ok () after) :
    (sizeSum 64 machine.buf.size bytes ≤ machine.buf.capacity ∧ after = machine) ∨
    ∃ newCap, newCapacity machine.buf.capacity (sizeSum 64 machine.buf.size bytes) = some newCap ∧
      ((after = machine.refused ∧ machine.buf.capacity < sizeSum 64 machine.buf.size bytes) ∨
        ∃ fresh, machine.heap 0 = some fresh ∧ after = machine.grown fresh newCap) := by
  by_cases enough : sizeSum 64 machine.buf.size bytes ≤ machine.buf.capacity
  · rw [ensureWriteCapacity_enough enough] at runs
    exact .inl ⟨enough, (EStateM.Result.ok.inj runs).2.symm⟩
  · have short := Nat.lt_of_not_le enough
    cases ends : newCapacity machine.buf.capacity (sizeSum 64 machine.buf.size bytes) with
    | none =>
        rw [ensureWriteCapacity_endless short ends] at runs
        cases runs
    | some newCap =>
        refine .inr ⟨newCap, rfl, ?_⟩
        cases answer : machine.heap 0 with
        | none =>
            rw [ensureWriteCapacity_refused short ends answer] at runs
            exact .inl ⟨(EStateM.Result.ok.inj runs).2.symm, short⟩
        | some fresh =>
            rw [ensureWriteCapacity_granted short ends answer] at runs
            exact .inr ⟨fresh, rfl, (EStateM.Result.ok.inj runs).2.symm⟩

/-- A copy follows whatever the request for capacity has done. -/
theorem write_ok {machine after : Machine} {bytes : Bytes} (runs : write bytes machine = .ok () after) :
    ∃ ready, ensureWriteCapacity bytes.length machine = .ok () ready ∧ after = ready.stored bytes := by
  obtain ⟨_, ready, ensured, stores⟩ := ok_of_bind_ok runs
  exact ⟨ready, ensured, (EStateM.Result.ok.inj stores).2.symm⟩

theorem write_of_ensured {machine ready : Machine} {bytes : Bytes}
    (ensured : ensureWriteCapacity bytes.length machine = .ok () ready) :
    write bytes machine = .ok () (ready.stored bytes) := by
  rw [write, bind_of_ok ensured]
  rfl

theorem ensureWriteCapacity_size {machine after : Machine} {bytes : Nat}
    (runs : ensureWriteCapacity bytes machine = .ok () after) :
    after.buf.size = machine.buf.size ∧ after.strayed = machine.strayed := by
  rcases ensureWriteCapacity_ok runs with ⟨_, rfl⟩ | ⟨newCap, _, ⟨rfl, _⟩ | ⟨fresh, _, rfl⟩⟩
  · exact ⟨rfl, rfl⟩
  · exact ⟨rfl, rfl⟩
  · exact ⟨rfl, rfl⟩

/-- The size counts the bytes even when there was no room for them. -/
theorem write_size {machine after : Machine} {bytes : Bytes} (runs : write bytes machine = .ok () after) :
    after.buf.size = sizeSum 64 machine.buf.size bytes.length := by
  obtain ⟨ready, ensured, rfl⟩ := write_ok runs
  rw [Machine.stored, (ensureWriteCapacity_size ensured).1]

/-- What has strayed is never taken back. -/
theorem write_strayed {machine after : Machine} {bytes : Bytes} (runs : write bytes machine = .ok () after) :
    machine.strayed <+: after.strayed := by
  obtain ⟨ready, ensured, rfl⟩ := write_ok runs
  rw [Machine.stored, (ensureWriteCapacity_size ensured).2]
  exact List.prefix_append _ _

/-- A copy strays nowhere exactly when its last byte is inside. -/
theorem stored_inside_iff {machine : Machine} {bytes : Bytes} (positive : bytes ≠ [])
    (within : machine.buf.capacity ≤ machine.buf.block) :
    (machine.stored bytes).strayed = [] ↔
      machine.strayed = [] ∧ machine.buf.size + bytes.length ≤ machine.buf.capacity := by
  have some := List.length_pos_iff.mpr positive
  rw [Machine.stored, List.append_eq_nil_iff, List.filter_eq_nil_iff]
  apply and_congr_right
  intro _
  constructor
  · intro inside
    have last := inside (machine.buf.size + bytes.length - 1) (List.mem_range'_1.mpr (by omega))
    simp only [Bool.or_eq_true, decide_eq_true_eq, not_or, Nat.not_le] at last
    omega
  · intro room index member
    have range := List.mem_range'_1.mp member
    simp only [Bool.or_eq_true, decide_eq_true_eq, not_or, Nat.not_le]
    omega

/-- The loop starts with a number of sixty-four bits. -/
theorem firstCapacity_lt (capacity : Nat) :
    (if capacity = 0 then xdrMinCapacity else doubleSize 64 capacity) < 2 ^ 64 := by
  by_cases empty : capacity = 0
  · rw [if_pos empty]
    decide
  · rw [if_neg empty]
    exact Nat.mod_lt _ (by decide)

theorem newCapacity_ends {capacity needed newCap : Nat} (ends : newCapacity capacity needed = some newCap) :
    needed ≤ newCap ∧ newCap < 2 ^ 64 :=
  doubleUntil_ends (firstCapacity_lt capacity) ends

/-- A loop that has not ended after sixty-four turns never ends. -/
theorem newCapacity_endless {capacity needed : Nat} (running : newCapacity capacity needed = none) (turns : Nat) :
    doubleUntil 64 needed turns (if capacity = 0 then xdrMinCapacity else doubleSize 64 capacity) = none :=
  doubleUntil_decided (firstCapacity_lt capacity) running turns

/-- The buffer holds further bytes, and the earlier ones are where they were. -/
structure Machine.Extends (before : Machine) (bytes : Bytes) (after : Machine) : Prop where
  sound : after.Sound
  stderr : after.stderr = before.stderr
  size : after.buf.size = before.buf.size + bytes.length
  keeps : before.Keeps after
  appends : contents after.buf.data after.buf.size = contents before.buf.data before.buf.size ++ bytes

theorem Machine.Extends.refl {machine : Machine} (sound : machine.Sound) : machine.Extends [] machine :=
  ⟨sound, rfl, rfl, fun _ _ => rfl, (List.append_nil _).symm⟩

theorem Machine.Extends.trans {before middle after : Machine} {bytes more : Bytes}
    (first : before.Extends bytes middle) (second : middle.Extends more after) :
    before.Extends (bytes ++ more) after where
  sound := second.sound
  stderr := second.stderr.trans first.stderr
  size := by rw [second.size, first.size, List.length_append, Nat.add_assoc]
  keeps := by
    intro index inside
    have still : index < middle.buf.size := first.size ▸ Nat.lt_add_right _ inside
    rw [second.keeps index still, first.keeps index inside]
  appends := by rw [second.appends, first.appends, List.append_assoc]

/-- A copy into a buffer that has room for it extends the buffer. -/
theorem stored_extends {machine : Machine} (sound : machine.Sound) {bytes : Bytes}
    (room : machine.buf.size + bytes.length ≤ machine.buf.capacity) :
    machine.Extends bytes (machine.stored bytes) := by
  have word := sound.word
  have size : (machine.stored bytes).buf.size = machine.buf.size + bytes.length := sizeSum_small (by omega)
  have inside : (machine.stored bytes).strayed = [] := by
    by_cases none : bytes = []
    · rw [none]
      exact (List.append_nil _).trans sound.inside
    · exact (stored_inside_iff none sound.capacity).mpr ⟨sound.inside, room⟩
  refine ⟨⟨?_, sound.capacity, word, inside⟩, rfl, size, ?_, ?_⟩
  · rw [size]
    exact room
  · exact fun index before => overwrite_before before bytes
  · rw [size]
    exact contents_overwrite _ _ _

/-- The new block has the bytes of the old one. -/
theorem grown_extends {machine : Machine} (sound : machine.Sound) (fresh : Memory) {newCap : Nat}
    (larger : machine.buf.size ≤ newCap) (word : newCap < 2 ^ 64) :
    machine.Extends [] (machine.grown fresh newCap) := by
  have kept : machine.Keeps (machine.grown fresh newCap) := fun index inside =>
    if_pos (inside.trans_le (sound.size.trans sound.capacity))
  exact ⟨⟨larger, Nat.le_refl _, word, sound.inside⟩, rfl, rfl, kept,
    (contents_congr kept).trans (List.append_nil _).symm⟩

/-- A copy that the host serves extends the buffer. -/
theorem write_served {machine : Machine} (sound : machine.Sound) {bytes : Bytes}
    (serves : machine.Serves bytes.length) :
    ∃ after, write bytes machine = .ok () after ∧ machine.Extends bytes after := by
  have sum : sizeSum 64 machine.buf.size bytes.length = machine.buf.size + bytes.length := sizeSum_small serves.1
  by_cases room : machine.buf.size + bytes.length ≤ machine.buf.capacity
  · have enough : sizeSum 64 machine.buf.size bytes.length ≤ machine.buf.capacity := sum ▸ room
    exact ⟨_, write_of_ensured (ensureWriteCapacity_enough enough), stored_extends sound room⟩
  · obtain ⟨ends, answers⟩ := serves.2.resolve_left room
    obtain ⟨newCap, ends⟩ := Option.isSome_iff_exists.mp ends
    obtain ⟨fresh, answers⟩ := Option.isSome_iff_exists.mp answers
    obtain ⟨reaches, word⟩ := newCapacity_ends ends
    rw [← sum] at ends
    have short : machine.buf.capacity < sizeSum 64 machine.buf.size bytes.length := sum ▸ Nat.lt_of_not_le room
    have moved := grown_extends sound fresh (by omega) word
    exact ⟨_, write_of_ensured (ensureWriteCapacity_granted short ends answers),
      moved.trans (stored_extends moved.sound reaches)⟩

/-- A copy strays when the host does not serve it. -/
theorem write_serves_iff {machine : Machine} (sound : machine.Sound) {bytes : Bytes} (positive : bytes ≠ []) :
    (∃ after, write bytes machine = .ok () after ∧ after.strayed = []) ↔ machine.Serves bytes.length := by
  constructor
  · rintro ⟨after, runs, inside⟩
    obtain ⟨ready, ensured, rfl⟩ := write_ok runs
    have word := sound.word
    have wrapped : sizeSum 64 machine.buf.size bytes.length ≤ machine.buf.size + bytes.length := Nat.mod_le _ _
    rcases ensureWriteCapacity_ok ensured with ⟨_, rfl⟩ |
        ⟨newCap, ends, ⟨rfl, short⟩ | ⟨fresh, answer, rfl⟩⟩
    · have room := ((stored_inside_iff positive sound.capacity).mp inside).2
      exact ⟨by omega, .inl room⟩
    · have room : machine.buf.size + bytes.length ≤ machine.buf.capacity :=
        ((@stored_inside_iff machine.refused bytes positive sound.capacity).mp inside).2
      omega
    · have room : machine.buf.size + bytes.length ≤ newCap :=
        ((@stored_inside_iff (machine.grown fresh newCap) bytes positive (Nat.le_refl _)).mp inside).2
      have fits : machine.buf.size + bytes.length < 2 ^ 64 := room.trans_lt (newCapacity_ends ends).2
      rw [sizeSum_small fits] at ends
      exact ⟨fits,
        .inr ⟨Option.isSome_iff_exists.mpr ⟨_, ends⟩, Option.isSome_iff_exists.mpr ⟨_, answer⟩⟩⟩
  · intro serves
    obtain ⟨after, runs, extends'⟩ := write_served sound serves
    exact ⟨after, runs, extends'.sound.inside⟩

theorem writeAll_append (first second : List Bytes) :
    writeAll (first ++ second) = writeAll first >>= fun _ => writeAll second := by
  induction first with
  | nil => rfl
  | cons chunk chunks later =>
      rw [List.cons_append, writeAll, writeAll, later, bind_assoc]

theorem writeAll_one (chunk : Bytes) : writeAll [chunk] = write chunk :=
  bind_pure _

theorem nonempty_cons (chunk : Bytes) (chunks : List Bytes) :
    nonempty (chunk :: chunks) = nonempty [chunk] ++ nonempty chunks :=
  List.filter_append [chunk] chunks

theorem nonempty_of_ne {chunk : Bytes} (positive : chunk ≠ []) : nonempty [chunk] = [chunk] := by
  simp [nonempty, positive]

theorem writeAll_size {machine after : Machine} {chunks : List Bytes}
    (runs : writeAll chunks machine = .ok () after) (word : machine.buf.size < 2 ^ 64) :
    after.buf.size = sizeSum 64 machine.buf.size chunks.flatten.length := by
  induction chunks generalizing machine with
  | nil =>
      obtain ⟨_, rfl⟩ := EStateM.Result.ok.inj runs
      exact (Nat.mod_eq_of_lt word).symm
  | cons chunk chunks later =>
      obtain ⟨_, middle, writes, continues⟩ := ok_of_bind_ok runs
      rw [later continues (write_size writes ▸ Nat.mod_lt _ (by decide)), write_size writes]
      simp only [sizeSum, List.flatten_cons, List.length_append, Nat.mod_add_mod, Nat.add_assoc]

theorem padding_wrapped (size : Nat) : padding (size % 2 ^ 64) = padding size := by
  unfold padding
  omega

theorem padTo4Bytes_writes (machine : Machine) :
    padTo4Bytes machine = writeAll (nonempty [List.replicate (padding machine.buf.size) 0]) machine := by
  rw [padTo4Bytes, get_bind]
  by_cases none : padding machine.buf.size = 0
  · simp only [none, ne_eq, not_true_eq_false, if_false]
    rfl
  · have positive : List.replicate (padding machine.buf.size) (0 : UInt8) ≠ [] := by simpa using none
    rw [nonempty_of_ne positive, writeAll_one, if_pos none]

/-- A pointer gives nothing to a copy that is skipped. -/
theorem copied_skipped {data : Ptr} {len : Nat} (skips : ¬ (len > 0 ∧ data ≠ .null)) : data.copied len = [] := by
  cases data with
  | null => rfl
  | wild => rfl
  | block block =>
      have none : len = 0 := by
        by_contra positive
        exact skips ⟨Nat.pos_of_ne_zero positive, Ptr.noConfusion⟩
      rw [none, Ptr.copied, List.take_zero]

/-- A copy writes what its pointer gives. -/
theorem xdrPackBytes_writes {data : Ptr} {len : Nat} (valid : (Pack.bytes data len).Valid) :
    xdrPackBytes data len = writeAll (nonempty [data.copied len]) := by
  by_cases copies : len > 0 ∧ data ≠ .null
  · obtain ⟨block, rfl, inside⟩ := valid copies.2 (Nat.ne_of_gt copies.1)
    have length : (block.take len).length = len := List.length_take_of_le inside
    have positive : block.take len ≠ [] := List.ne_nil_of_length_pos (by omega)
    have found : copyFrom (.block block) len = pure (block.take len) := if_pos inside
    rw [Ptr.copied, nonempty_of_ne positive, writeAll_one, xdrPackBytes, if_pos copies, found, write, length]
    rfl
  · rw [copied_skipped copies, xdrPackBytes, if_neg copies]
    rfl

/-- The three parts of a padded value are written one after the other. -/
theorem paddedChunks_writes {data : Ptr} {len : UInt32} (valid : (Pack.bytes data len.toNat).Valid)
    (machine : Machine) :
    (do xdrPackUint32 len; xdrPackBytes data len.toNat; padTo4Bytes) machine =
      writeAll (paddedChunks machine.buf.size len (data.copied len.toNat)) machine := by
  rw [xdrPackBytes_writes valid, paddedChunks, nonempty_cons _ [List.replicate _ 0], writeAll, writeAll_append]
  apply bind_congr_of_ok
  intro _ middle writes
  apply bind_congr_of_ok
  intro _ last copies
  have middleSize := write_size writes
  have lastSize := writeAll_size copies (middleSize ▸ Nat.mod_lt _ (by decide))
  have flat : (nonempty [data.copied len.toNat]).flatten.length = (data.copied len.toNat).length := by
    by_cases none : data.copied len.toNat = []
    · rw [none]
      rfl
    · rw [nonempty_of_ne none, List.flatten_singleton]
  have pad : padding last.buf.size = padding (machine.buf.size + 4 + (data.copied len.toNat).length) := by
    rw [lastSize, flat, middleSize, sizeSum, sizeSum, Nat.mod_add_mod, padding_wrapped, be32_length]
  rw [padTo4Bytes_writes, pad]

theorem take_of_prefix {front whole : Bytes} (starts : front <+: whole) {count : Nat}
    (inside : count ≤ front.length) :
    whole.take count = front.take count := by
  obtain ⟨rest, rfl⟩ := starts
  exact List.take_append_of_le_length inside

/-- The length of a string that is cut to 32 bits counts the bytes that travel. -/
theorem copied_clip (data : Bytes) : (Ptr.block data).copied (UInt32.ofNat (Ptr.block data).cstring.length).toNat =
    clip (Ptr.block data).cstring := by
  rw [UInt32.toNat_ofNat', Ptr.copied, clip]
  exact take_of_prefix (List.takeWhile_prefix _) (Nat.mod_le _ _)

/-- A string has the bytes that its length counts. -/
theorem copied_string_valid (data : Bytes) :
    (Pack.bytes (.block data) (UInt32.ofNat (Ptr.block data).cstring.length).toNat).Valid := by
  intro _ _
  refine ⟨data, rfl, ?_⟩
  rw [UInt32.toNat_ofNat']
  exact (Nat.mod_le _ _).trans (List.takeWhile_prefix _).length_le

theorem copied_opaque_valid {data : Ptr} {len : UInt32} (valid : (Pack.varOpaque data len).Valid) :
    (Pack.bytes data len.toNat).Valid := by
  intro present positive
  have word : len ≠ 0 := by
    rintro rfl
    exact positive rfl
  exact (valid present).2 word

theorem xdrPackCstring_writes {s : Ptr} (isString : s.IsString) (machine : Machine) :
    xdrPackCstring s machine =
      writeAll (paddedChunks machine.buf.size (UInt32.ofNat s.cstring.length) (clip s.cstring)) machine := by
  rcases isString with rfl | ⟨data, rfl, terminated⟩
  · exact @paddedChunks_writes .null 0 (fun present => absurd rfl present) machine
  · have counts : strlen (.block data) = pure (Ptr.block data).cstring.length := if_pos terminated
    rw [xdrPackCstring, if_neg Ptr.noConfusion, counts, ← copied_clip]
    exact paddedChunks_writes (copied_string_valid data) machine

/-- A call is its copies in turn, whatever the heap answers. -/
theorem xdrPack_writes {call : Pack} (valid : call.Valid) (machine : Machine) :
    xdrPack call machine = writeAll (call.chunks machine.buf.size) machine := by
  cases call with
  | int32 val => exact congrFun (writeAll_one _).symm machine
  | uint32 val => exact congrFun (writeAll_one _).symm machine
  | uint64 val => exact congrFun (writeAll_one _).symm machine
  | bool val => exact congrFun (writeAll_one _).symm machine
  | cstring s => exact xdrPackCstring_writes valid machine
  | varOpaque data len => exact paddedChunks_writes (copied_opaque_valid valid) machine
  | bytes data len => exact congrFun (xdrPackBytes_writes valid) machine

theorem Pack.chunks_nonempty (size : Nat) (call : Pack) : ∀ chunk ∈ call.chunks size, chunk ≠ [] := by
  have words : ∀ val : UInt32, be32 val ≠ [] := fun val => List.cons_ne_nil _ _
  have copies : ∀ chunks : List Bytes, ∀ chunk ∈ nonempty chunks, chunk ≠ [] := by
    intro chunks chunk member
    simpa [nonempty] using (List.mem_filter.mp member).2
  cases call with
  | int32 val => exact List.forall_mem_singleton.mpr (words _)
  | uint32 val => exact List.forall_mem_singleton.mpr (words _)
  | uint64 val => exact List.forall_mem_singleton.mpr (List.cons_ne_nil _ _)
  | bool val => exact List.forall_mem_singleton.mpr (words _)
  | cstring s => exact List.forall_mem_cons.mpr ⟨words _, copies _⟩
  | varOpaque data len => exact List.forall_mem_cons.mpr ⟨words _, copies _⟩
  | bytes data len => exact copies _

theorem writeAll_strayed {machine after : Machine} {chunks : List Bytes}
    (runs : writeAll chunks machine = .ok () after) : machine.strayed <+: after.strayed := by
  induction chunks generalizing machine with
  | nil =>
      obtain ⟨_, rfl⟩ := EStateM.Result.ok.inj runs
      exact List.prefix_rfl
  | cons chunk chunks later =>
      obtain ⟨_, middle, writes, continues⟩ := ok_of_bind_ok runs
      exact (write_strayed writes).trans (later continues)

theorem writeAll_served {machine : Machine} (sound : machine.Sound) {chunks : List Bytes}
    (serves : machine.ServesAll chunks) :
    ∃ after, writeAll chunks machine = .ok () after ∧ machine.Extends chunks.flatten after := by
  induction chunks generalizing machine with
  | nil => exact ⟨machine, rfl, .refl sound⟩
  | cons chunk chunks later =>
      obtain ⟨first, rest⟩ := serves
      obtain ⟨middle, writes, extended⟩ := write_served sound first
      rw [stateAfter, writes] at rest
      obtain ⟨after, continues, last⟩ := later extended.sound rest
      refine ⟨after, ?_, extended.trans last⟩
      rw [writeAll, bind_of_ok writes]
      exact continues

/-- No byte of a call strays exactly when the host serves each of its copies. -/
theorem writeAll_serves_iff {machine : Machine} (sound : machine.Sound) {chunks : List Bytes}
    (positive : ∀ chunk ∈ chunks, chunk ≠ []) :
    (∃ after, writeAll chunks machine = .ok () after ∧ after.strayed = []) ↔ machine.ServesAll chunks := by
  constructor
  · intro ends
    induction chunks generalizing machine with
    | nil => trivial
    | cons chunk chunks later =>
        obtain ⟨some, others⟩ := List.forall_mem_cons.mp positive
        obtain ⟨after, runs, inside⟩ := ends
        obtain ⟨_, middle, writes, continues⟩ := ok_of_bind_ok runs
        have middleInside : middle.strayed = [] := List.prefix_nil.mp (inside ▸ writeAll_strayed continues)
        have serves := (write_serves_iff sound some).mp ⟨middle, writes, middleInside⟩
        obtain ⟨_, same, extended⟩ := write_served sound serves
        obtain ⟨_, rfl⟩ := EStateM.Result.ok.inj (writes.symm.trans same)
        refine ⟨serves, ?_⟩
        rw [stateAfter, writes]
        exact later extended.sound others ⟨after, continues, inside⟩
  · intro serves
    obtain ⟨after, runs, extended⟩ := writeAll_served sound serves
    exact ⟨after, runs, extended.sound.inside⟩

/-- A sequence of calls leaves the buffer intact exactly when the host serves each copy. -/
theorem leavesIntact_iff {machine : Machine} (sound : machine.Sound) {calls : List Pack}
    (valid : ∀ call ∈ calls, call.Valid) : LeavesIntact calls machine ↔ machine.ServesPacks calls := by
  induction calls generalizing machine with
  | nil => exact Iff.rfl
  | cons call calls later =>
      obtain ⟨first, rest⟩ := List.forall_mem_cons.mp valid
      have runs := xdrPack_writes first machine
      have positive := Pack.chunks_nonempty machine.buf.size call
      constructor
      · rintro ⟨after, packs, _, inside, _, intact⟩
        have serves := (writeAll_serves_iff sound positive).mp ⟨after, runs ▸ packs, inside⟩
        obtain ⟨_, same, extended⟩ := writeAll_served sound serves
        obtain ⟨_, rfl⟩ := EStateM.Result.ok.inj ((runs ▸ packs).symm.trans same)
        refine ⟨serves, ?_⟩
        rw [stateAfter, packs]
        exact (later extended.sound rest).mp intact
      · rintro ⟨serves, others⟩
        obtain ⟨after, writes, extended⟩ := writeAll_served sound serves
        have packs : xdrPack call machine = .ok () after := runs.trans writes
        rw [stateAfter, packs] at others
        exact ⟨after, packs, extended.sound.size, extended.sound.inside,
          fun reported => absurd extended.stderr reported, (later extended.sound rest).mpr others⟩

/-- The heap has one block, and none when the buffer has to grow. -/
def refusingMachine : Machine :=
  .start ⟨fun _ => 0, 0, 0, 0, 0⟩ fun later => if later = 0 then some fun _ => 0 else none

/-- The first word fits into the block that the heap grants. -/
theorem refusingMachine_first_word : LeavesIntact [.uint32 1] refusingMachine := by
  have sound : refusingMachine.Sound := ⟨Nat.le_refl 0, Nat.le_refl 0, by decide, rfl⟩
  have valid : (Pack.uint32 1).Valid := trivial
  exact (leavesIntact_iff sound (List.forall_mem_singleton.mpr valid)).mpr
    ⟨⟨⟨by decide, .inr ⟨rfl, rfl⟩⟩, trivial⟩, trivial⟩

/-- Sixty-four bytes fill the first block, and the word that follows is written behind it. -/
theorem refusingMachine_strays :
    ¬ LeavesIntact [.bytes (.block (List.replicate 64 7)) 64, .uint32 1] refusingMachine ∧
    ∃ before after, xdrPack (.bytes (.block (List.replicate 64 7)) 64) refusingMachine = .ok () before ∧
      xdrPack (.uint32 1) before = .ok () after ∧ after.stderr = ["XDR: out of memory\n"] ∧
      (before.buf.size, before.buf.capacity) = (64, 64) ∧ (after.buf.size, after.buf.capacity) = (68, 64) ∧
      after.strayed = [64, 65, 66, 67] := by
  constructor
  · rintro ⟨before, first, _, _, _, after, second, _, inside, _⟩
    obtain ⟨_, rfl⟩ := EStateM.Result.ok.inj first
    obtain ⟨_, rfl⟩ := EStateM.Result.ok.inj second
    exact absurd inside (by decide)
  · exact ⟨_, _, rfl, rfl, rfl, rfl, rfl, rfl⟩

end Nfs3Rpc.Csuite.Growth
