import Nfs3Rpc.Construction.Builtin.Host

namespace Nfs3Rpc.Builtin.Host
open Encoding

/-- The check lets a copy through only when its bytes are inside. -/
theorem ensureReadSpace_exits {first : Reader 64} {count : Nat} (word : count < 2 ^ 32) :
    Exits first.Onward (ensureReadSpace count) (fun _ => first.Covers count) first.Onward := by
  apply Exits.looking
  intro reader onward
  have size : first.size < 2 ^ 63 := first.memory.fits
  have bounded := onward.bounded
  have sum : sizeSum 64 reader.pos count = reader.pos + count := sizeSum_small (by omega)
  by_cases beyond : sizeSum 64 reader.pos count > reader.size
  · rw [if_pos beyond]
    exact Exits.throw fun _ same => same ▸ onward
  · rw [if_neg beyond]
    apply Exits.pure
    intro state same
    rw [onward.size, sum] at beyond
    rw [same]
    exact ⟨onward, Nat.le_of_not_lt beyond⟩

theorem size_small (first : Reader 64) : first.size + 3 < 2 ^ 64 := by
  have size : first.size < 2 ^ 63 := first.memory.fits
  omega

theorem fetch_exits {first : Reader 64} {count : Nat} (word : count < 2 ^ 32) :
    Exits first.Onward (fetch count) (fun _ => first.Onto) first.Onward := by
  apply Exits.bind (ensureReadSpace_exits word)
  intro _
  apply Exits.bind copyBytes_exits
  intro bytes
  apply Exits.bind (advance_exits (size_small first))
  intro _
  exact Exits.pure fun _ onto => onto

/-- A conversion leaves the cursor where its read has put it. -/
theorem word_exits {α : Type} {first : Reader 64} {count : Nat} (f : Bytes → α) (word : count < 2 ^ 32) :
    Exits first.Onward (fetch count >>= fun bytes => pure (f bytes)) (fun _ => first.Onto) first.Onward :=
  Exits.bind (fetch_exits word) fun _ => Exits.pure fun _ onto => onto

theorem unpackBytes_exits {first : Reader 64} :
    Exits first.Onward unpackBytes (fun _ => first.Onward) first.Onward := by
  apply Exits.bind (word_exits leadingWord (by decide))
  intro len
  apply Exits.bind ((fetch_exits len.toNat_lt).weaken (fun _ onto => onto.1) fun _ _ onto => onto)
  intro bytes
  have short : padding len.toNat ≤ 3 := by
    unfold padding
    omega
  apply Exits.bind (skip_exits short (size_small first))
  intro _
  exact Exits.pure fun _ onward => onward

/-- The value of a call is dropped. -/
theorem dropped_exits {α : Type} {first : Reader 64} {program : Decode 64 α}
    (inner : Exits first.Onward program (fun _ => first.Onward) first.Onward) :
    Exits first.Onward (program >>= fun _ => pure ()) (fun _ => first.Onward) first.Onward :=
  Exits.bind inner fun _ => Exits.pure fun _ onward => onward

theorem Call.run_exits {first : Reader 64} (call : Call) (reads : call ≠ .resetRead) :
    Exits first.Onward call.run (fun _ => first.Onward) first.Onward := by
  have widen : ∀ {α : Type} {program : Decode 64 α},
      Exits first.Onward program (fun _ => first.Onto) first.Onward →
      Exits first.Onward (program >>= fun _ => pure ()) (fun _ => first.Onward) first.Onward :=
    fun inner => dropped_exits (inner.weaken (fun _ onward => onward) fun _ _ onto => onto.1)
  cases call with
  | int32 => exact widen (word_exits (fun bytes => (leadingWord bytes).toInt32) (by decide))
  | uint32 => exact widen (word_exits leadingWord (by decide))
  | uint64 => exact widen (word_exits leadingHyper (by decide))
  | bool => exact widen (Exits.bind (word_exits leadingWord (by decide)) fun _ => Exits.pure fun _ onto => onto)
  | string => exact dropped_exits unpackBytes_exits
  | vector => exact dropped_exits unpackBytes_exits
  | resetRead => exact absurd rfl reads

/-- Each call keeps its reader inside, whether it returns or throws. -/
theorem Call.run_inside {memory : HostBytes 64} {buf : Reader 64} (inside : buf.Inside memory) (call : Call) :
    (stateAfter call.run buf).Inside memory := by
  by_cases reset : call = .resetRead
  · rw [reset]
    exact inside.rewound
  · exact ((call.run_exits reset).after inside.onward).stays inside

theorem runCalls_inside {memory : HostBytes 64} (calls : List Call) {buf : Reader 64} (inside : buf.Inside memory) :
    (runCalls calls buf).Inside memory := by
  induction calls generalizing buf with
  | nil => exact inside
  | cons call calls later => exact later (call.run_inside inside)

section
variable {bits : Nat} {memory : HostBytes bits}

theorem ensureReadSpace_sized (count : Nat) :
    Exits (Reader.Sized memory) (ensureReadSpace count) (fun _ => Reader.Sized memory) (Reader.Sized memory) := by
  apply Exits.looking
  intro reader sized
  by_cases beyond : sizeSum bits reader.pos count > reader.size
  · rw [if_pos beyond]
    exact Exits.throw fun _ same => same ▸ sized
  · rw [if_neg beyond]
    exact Exits.pure fun _ same => same ▸ sized

theorem fetch_sized (count : Nat) :
    Exits (Reader.Sized memory) (fetch count) (fun _ => Reader.Sized memory) (Reader.Sized memory) :=
  Exits.bind (ensureReadSpace_sized count) fun _ => Exits.bind (copyBytes_sized count) fun _ =>
    Exits.bind (advance_sized count) fun _ => Exits.pure fun _ sized => sized

theorem Call.run_sized (call : Call) :
    Exits (Reader.Sized memory) call.run (fun _ => Reader.Sized memory) (Reader.Sized memory) := by
  have converted : ∀ {α : Type} (count : Nat) (f : Bytes → α), Exits (Reader.Sized memory)
      (fetch count >>= fun bytes => pure (f bytes)) (fun _ => Reader.Sized memory) (Reader.Sized memory) :=
    fun count f => Exits.bind (fetch_sized count) fun _ => Exits.pure fun _ sized => sized
  have bytes : Exits (Reader.Sized memory) unpackBytes (fun _ => Reader.Sized memory) (Reader.Sized memory) :=
    Exits.bind (converted 4 leadingWord) fun _ => Exits.bind (fetch_sized _) fun _ =>
      Exits.bind (advance_sized _) fun _ => Exits.pure fun _ sized => sized
  have dropped : ∀ {α : Type} {program : Decode bits α}, Exits (Reader.Sized memory) program
      (fun _ => Reader.Sized memory) (Reader.Sized memory) → Exits (Reader.Sized memory)
      (program >>= fun _ => pure ()) (fun _ => Reader.Sized memory) (Reader.Sized memory) :=
    fun inner => Exits.bind inner fun _ => Exits.pure fun _ sized => sized
  cases call with
  | int32 => exact dropped (converted 4 fun bytes => (leadingWord bytes).toInt32)
  | uint32 => exact dropped (converted 4 leadingWord)
  | uint64 => exact dropped (converted 8 leadingHyper)
  | bool => exact dropped (Exits.bind (converted 4 leadingWord) fun _ => Exits.pure fun _ sized => sized)
  | string => exact dropped bytes
  | vector => exact dropped bytes
  | resetRead => exact Exits.modify fun _ sized => ⟨sized.1, Nat.two_pow_pos bits⟩

theorem runCalls_sized (calls : List Call) {buf : Reader bits} (sized : buf.Sized memory) :
    (runCalls calls buf).Sized memory := by
  induction calls generalizing buf with
  | nil => exact sized
  | cons call calls later => exact later ((call.run_sized).after sized)

end

/-- The check for this many bytes returns only when they are inside. -/
def SoundCheck {bits : Nat} (reader : Reader bits) (len : UInt32) : Prop :=
  ∀ last, ensureReadSpace len.toNat reader = .ok () last → reader.pos + len.toNat ≤ reader.size

theorem ensureReadSpace_returns_iff {bits : Nat} (reader : Reader bits) (count : Nat) :
    (∃ last, ensureReadSpace count reader = .ok () last) ↔ sizeSum bits reader.pos count ≤ reader.size := by
  by_cases beyond : sizeSum bits reader.pos count > reader.size
  · simp only [ensureReadSpace, get_bind, if_pos beyond]
    constructor
    · rintro ⟨last, runs⟩
      cases runs
    · intro inside
      omega
  · simp only [ensureReadSpace, get_bind, if_neg beyond]
    exact ⟨fun _ => Nat.le_of_not_lt beyond, fun _ => ⟨reader, rfl⟩⟩

/-- On a host of 32 bits the check is sound as long as the sum does not wrap to a size inside the buffer. -/
theorem ensureReadSpace_sound_iff (memory : HostBytes 32) (calls : List Call) (len : UInt32) :
    SoundCheck (runCalls calls (Reader.start memory)) len ↔
      (runCalls calls (Reader.start memory)).pos + len.toNat < 2 ^ 32 ∨
        (runCalls calls (Reader.start memory)).size + 2 ^ 32 <
          (runCalls calls (Reader.start memory)).pos + len.toNat := by
  have sized := runCalls_sized calls (⟨rfl, Nat.two_pow_pos 32⟩ : (Reader.start memory).Sized memory)
  generalize runCalls calls (Reader.start memory) = reader at sized
  have size : reader.size < 2 ^ 31 := reader.memory.fits
  have word := len.toNat_lt
  have returns := ensureReadSpace_returns_iff reader len.toNat
  unfold sizeSum at returns
  constructor
  · intro sound
    by_contra wraps
    push Not at wraps
    obtain ⟨last, runs⟩ := returns.mpr (by omega)
    have inside := sound last runs
    omega
  · intro narrow last runs
    have wrapped := returns.mp ⟨last, runs⟩
    have cursor := sized.2
    omega

/-- The length word 0xfffffffc at the start of four bytes passes the check at the fourth. -/
theorem ensureReadSpace_wraps :
    ¬ SoundCheck (runCalls [.uint32] (Reader.start (⟨[255, 255, 255, 252], by decide⟩ : HostBytes 32)))
      4294967292 := by
  intro sound
  exact absurd (sound _ rfl) (by decide)

end Nfs3Rpc.Builtin.Host
