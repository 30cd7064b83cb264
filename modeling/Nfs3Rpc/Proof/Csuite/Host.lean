import Nfs3Rpc.Construction.Csuite.Host

namespace Nfs3Rpc.Csuite.Host
open Encoding

/-- A positive answer means that the bytes are inside. -/
theorem ensureReadSpace_exits {first : Reader 64} {count : Nat} (word : count < 2 ^ 32) :
    Exits first.Onward (ensureReadSpace count)
      (fun found reader => first.Onward reader ∧ (found = true → reader.pos + count ≤ first.size))
        first.Onward := by
  apply Exits.looking
  intro reader onward
  apply Exits.pure
  intro state same
  have size : first.size < 2 ^ 63 := first.memory.fits
  have bounded := onward.bounded
  have sum : sizeSum 64 reader.pos count = reader.pos + count := sizeSum_small (by omega)
  rw [same]
  refine ⟨onward, ?_⟩
  intro enough
  have space := of_decide_eq_true enough
  rw [onward.size, sum] at space
  exact space

theorem size_small (first : Reader 64) : first.size + 3 < 2 ^ 64 := by
  have size : first.size < 2 ^ 63 := first.memory.fits
  omega

/-- A function that asks for space goes on in one of two ways. -/
theorem checked_exits {α : Type} {first : Reader 64} {count : Nat} {enough missing : Decode 64 α}
    {post : α → Reader 64 → Prop} (word : count < 2 ^ 32)
    (inside : Exits (first.Covers count) enough post first.Onward)
    (outside : Exits first.Onward missing post first.Onward) :
    Exits first.Onward (ensureReadSpace count >>= fun found => if found then enough else missing) post
      first.Onward := by
  apply Exits.bind (ensureReadSpace_exits word)
  intro found
  cases found with
  | true => exact inside.weaken (fun _ held => ⟨held.1, held.2 rfl⟩) fun _ _ held => held
  | false => exact outside.weaken (fun _ held => held.1) fun _ _ held => held

/-- Bytes that were read leave the cursor inside. -/
theorem fetch_exits {first : Reader 64} {count : Nat} (word : count < 2 ^ 32) :
    Exits first.Onward (fetch count)
      (fun found reader => first.Onward reader ∧ (found.isSome → first.Onto reader)) first.Onward := by
  apply checked_exits word
  · apply Exits.bind copyBytes_exits
    intro bytes
    apply Exits.bind (advance_exits (size_small first))
    intro _
    exact Exits.pure fun _ onto => ⟨onto.1, fun _ => onto⟩
  · exact Exits.pure fun _ onward => ⟨onward, nofun⟩

/-- A conversion keeps what the read has found. -/
theorem word_exits {α : Type} {first : Reader 64} {count : Nat} (f : Bytes → α) (word : count < 2 ^ 32) :
    Exits first.Onward (fetch count >>= fun bytes => pure (bytes.map f))
      (fun found reader => first.Onward reader ∧ (found.isSome → first.Onto reader)) first.Onward := by
  apply Exits.bind (fetch_exits word)
  intro bytes
  apply Exits.pure
  intro reader held
  refine ⟨held.1, fun found => held.2 ?_⟩
  rwa [Option.isSome_map] at found

theorem padding_short (length : Nat) : padding length ≤ 3 := by
  unfold padding
  omega

/-- The decoders of variable data go on only behind their length word. -/
theorem length_exits {α : Type} {first : Reader 64} {next : UInt32 → Decode 64 (Option α)}
    (behind : ∀ len, Exits first.Onto (next len) (fun _ => first.Onward) first.Onward) :
    Exits first.Onward (do
      match ← xdrUnpackUint32 with
      | none => return none
      | some len => next len) (fun _ => first.Onward) first.Onward := by
  apply Exits.bind (word_exits leadingWord (by decide))
  intro found
  cases found with
  | none => exact Exits.pure fun _ held => held.1
  | some len => exact (behind len).weaken (fun _ held => held.2 rfl) fun _ _ held => held

theorem xdrUnpackCstring_exits {first : Reader 64} :
    Exits first.Onward xdrUnpackCstring (fun _ => first.Onward) first.Onward := by
  apply length_exits
  intro len
  apply Exits.weaken _ (fun _ onto => onto.1) fun _ _ held => held
  apply checked_exits len.toNat_lt
  · apply Exits.bind copyBytes_exits
    intro bytes
    apply Exits.unless
    · exact fun _ _ covers => covers.1
    · intro _
      apply Exits.bind (advance_exits (size_small first))
      intro _
      apply Exits.bind (skip_exits (padding_short _) (size_small first))
      intro _
      exact Exits.pure fun _ onward => onward
  · exact Exits.pure fun _ onward => onward

theorem xdrUnpackOpaque_exits {first : Reader 64} :
    Exits first.Onward xdrUnpackOpaque (fun _ => first.Onward) first.Onward := by
  apply length_exits
  intro len
  apply Exits.bind ((fetch_exits len.toNat_lt).weaken (fun _ onto => onto.1) fun _ _ held => held)
  intro found
  cases found with
  | none => exact Exits.pure fun _ held => held.1
  | some bytes =>
      have skip : Exits first.Onto (advance (padding len.toNat) : Decode 64 Unit)
          (fun _ => first.Onward) first.Onward :=
        skip_exits (padding_short _) (size_small first)
      apply Exits.bind (skip.weaken (fun _ held => held.2 rfl) fun _ _ held => held)
      intro _
      exact Exits.pure fun _ onward => onward

/-- The value of a call is dropped. -/
theorem dropped_exits {α : Type} {first : Reader 64} {program : Decode 64 α} {post : α → Reader 64 → Prop}
    (inner : Exits first.Onward program post first.Onward)
    (weaker : ∀ value reader, post value reader → first.Onward reader) :
    Exits first.Onward (program >>= fun _ => pure ()) (fun _ => first.Onward) first.Onward :=
  Exits.bind inner fun value => Exits.pure fun reader held => weaker value reader held

theorem Call.run_exits {first : Reader 64} (call : Call) (reads : call ≠ .resetRead) :
    Exits first.Onward call.run (fun _ => first.Onward) first.Onward := by
  have word : Exits first.Onward xdrUnpackUint32
      (fun found reader => first.Onward reader ∧ (found.isSome → first.Onto reader)) first.Onward :=
    word_exits leadingWord (by decide)
  have verifier : Exits first.Onward xdrUnpackVerifier (fun _ => first.Onward) first.Onward :=
    Exits.bind (fetch_exits (by decide)) fun _ => Exits.pure fun _ held => held.1
  cases call with
  | int32 => exact dropped_exits (Exits.bind word fun _ => Exits.pure fun _ held => held.1) fun _ _ onward => onward
  | uint32 => exact dropped_exits word fun _ _ held => held.1
  | uint64 => exact dropped_exits (word_exits leadingHyper (by decide)) fun _ _ held => held.1
  | bool => exact dropped_exits (Exits.bind word fun _ => Exits.pure fun _ held => held.1) fun _ _ onward => onward
  | cstring => exact dropped_exits xdrUnpackCstring_exits fun _ _ onward => onward
  | varOpaque => exact dropped_exits xdrUnpackOpaque_exits fun _ _ onward => onward
  | writeverf3 => exact dropped_exits verifier fun _ _ onward => onward
  | createverf3 => exact dropped_exits verifier fun _ _ onward => onward
  | resetRead => exact absurd rfl reads

/-- Each call keeps its reader inside, whatever it returns. -/
theorem Call.run_inside {memory : HostBytes 64} {buf : Reader 64} (inside : buf.Inside memory) (call : Call) :
    (stateAfter call.run buf).Inside memory := by
  by_cases reset : call = .resetRead
  · rw [reset]
    exact inside.rewound
  · exact ((call.run_exits reset).after inside.onward).stays inside

theorem runCalls_inside {memory : HostBytes 64} (calls : List Call) {buf : Reader 64} (inside : buf.Inside memory) :
    (runCalls calls buf).Inside memory := by
  induction calls generalizing buf with
  | nil => exact inside
  | cons call calls later => exact later (call.run_inside inside)

end Nfs3Rpc.Csuite.Host
