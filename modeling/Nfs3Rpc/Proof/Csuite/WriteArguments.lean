import Nfs3Rpc.Format.Csuite.Memory
import Nfs3Rpc.Proof.Csuite.RoundTrip

namespace Nfs3Rpc.Csuite
open Encoding

variable {pos depth : Nat}

theorem Ptr.sameUpTo_self {source : Ptr} {len : UInt32} (holds : source.Holds len) : source.SameUpTo len source :=
  ⟨holds, rfl⟩

/-- A copy that returns has only appended to the buffer. -/
theorem xdrPackBytes_appends {source : Ptr} {len : Nat} {machine last : Machine}
    (runs : xdrPackBytes source len machine = .ok () last) :
    ∃ copied, last.buf.data = machine.buf.data ++ copied := by
  by_cases copies : len > 0 ∧ source ≠ .null
  · rw [xdrPackBytes, if_pos copies] at runs
    obtain ⟨bytes, middle, read, appended⟩ := ok_of_bind_ok runs
    have same : middle = machine := by
      cases source with
      | block data =>
          by_cases inside : len ≤ data.length
          · rw [readBlock, if_pos inside] at read
            exact (EStateM.Result.ok.inj read).2.symm
          · rw [readBlock, if_neg inside] at read
            cases read
      | null => cases read
      | wild => cases read
    obtain rfl := (EStateM.Result.ok.inj appended).2
    exact ⟨bytes, by rw [same]⟩
  · rw [xdrPackBytes, if_neg copies] at runs
    obtain rfl := (EStateM.Result.ok.inj runs).2
    exact ⟨[], (List.append_nil _).symm⟩

/-- An opaque that is written starts with its length word, whatever its pointer is. -/
theorem xdrPackOpaque_starts {source : Ptr} {len : UInt32} {machine last : Machine}
    (runs : xdrPackOpaque source len machine = .ok () last) :
    ∃ tail, last.buf.data = machine.buf.data ++ be32 len ++ tail := by
  obtain ⟨_, counted, word, rest⟩ := ok_of_bind_ok runs
  obtain ⟨_, copied, bytes, pads⟩ := ok_of_bind_ok rest
  obtain rfl := (EStateM.Result.ok.inj word).2
  obtain ⟨data, held⟩ := xdrPackBytes_appends bytes
  obtain rfl := (EStateM.Result.ok.inj pads).2
  refine ⟨data ++ List.replicate (padding copied.buf.data.length) 0, ?_⟩
  rw [← List.append_assoc]
  exact congrArg (· ++ List.replicate (padding copied.buf.data.length) 0) held

/-- These fields stand before the data. -/
def WRITE3argsT.head (args : WRITE3argsT) : Bytes :=
  [args.file.message.wire, be64 args.offset, be32 args.count, be32 args.stable.code].flatten

theorem WRITE3argsT.wire_head (args : WRITE3argsT) :
    args.message.wire = args.head ++ opaqueBytes (args.data.bytes args.dataLen) := by
  simp [WRITE3args.wire, message, head]

/-- The length word of the data is the count. -/
theorem xdrPackWRITE3args_starts {args : WRITE3argsT} (file : args.file.WellFormed) {stack : Nat → UInt32}
    {last : Machine} (runs : xdrPackWRITE3args args ⟨⟨[], pos⟩, stack, depth⟩ = .ok () last) :
    ∃ tail, last.buf.data = args.head ++ be32 args.count ++ tail := by
  have fields : Emits (writing pos depth) (do
      xdrPackNfsFh3 args.file
      xdrPackUint64 args.offset
      xdrPackUint32 args.count
      xdrPackUint32 args.stable.code) () args.head :=
    .cons (xdrPackNfsFh3_emits _ file) <| .cons (xdrPackUint64_emits _) <|
      .cons (xdrPackUint32_emits _) <| .last (xdrPackUint32_emits _)
  obtain ⟨middle, first, held⟩ := fields ⟨⟨[], pos⟩, stack, depth⟩ [] ⟨rfl, rfl, Nat.dvd_zero 4⟩
  have split : xdrPackWRITE3args args ⟨⟨[], pos⟩, stack, depth⟩ =
    xdrPackOpaque args.data args.count middle := by
    have sequence := @bind_of_ok _ _ _ _ _ (fun _ => xdrPackOpaque args.data args.count) _ _ _ first
    rw [← sequence]
    simp only [xdrPackWRITE3args, bind_assoc]
  rw [split] at runs
  obtain ⟨tail, sent⟩ := xdrPackOpaque_starts runs
  exact ⟨tail, by rw [sent, held.1, List.nil_append]⟩

/-- The data travels whole, and nothing behind it, exactly when the two length fields agree. -/
theorem WRITE3argsT.roundTrips_iff (args : WRITE3argsT) (file : args.file.WellFormed)
    (holds : args.data.Holds args.dataLen) : args.RoundTrips ↔ args.count = args.dataLen := by
  constructor
  · intro trips
    have owned : WRITE3argsT.Owned {} := ⟨Ptr.noConfusion, Ptr.noConfusion⟩
    obtain ⟨_, stack', _, sent, _⟩ := trips args.data {} (Ptr.sameUpTo_self holds) owned [] [] (fun _ => 0)
      (fun _ => 0) 0 0 (Nat.dvd_zero 4)
    obtain ⟨tail, starts⟩ := xdrPackWRITE3args_starts file sent
    rw [List.nil_append, args.wire_head, List.append_assoc, opaqueBytes, Ptr.bytes_length holds,
      UInt32.ofNat_toNat] at starts
    exact (be32_append_inj.mp (List.append_cancel_left starts)).1.symm
  · intro count data dest same owned packed trailing stack stale pos depth aligned
    have formed : ({ args with data } : WRITE3argsT).WellFormed := ⟨file, same.1, count⟩
    have message : ({ args with data } : WRITE3argsT).message = args.message :=
      congrArg (WRITE3args.mk _ _ _ _) same.2
    obtain ⟨_, written, view⟩ := xdrPackWRITE3args_emits { args with data } formed
      ⟨⟨packed, pos⟩, stack, depth⟩ packed ⟨rfl, rfl, aligned⟩
    rw [message] at view
    obtain ⟨⟨stack', rfl⟩, _⟩ := writing_iff.mp view
    have start : reading depth ⟨⟨packed ++ args.message.wire ++ trailing, packed.length⟩, stale, depth⟩ packed
        (args.message.wire ++ trailing) := ⟨by rw [List.append_assoc], rfl⟩
    obtain ⟨got, _, taken, restored, view⟩ := xdrUnpackWRITE3args_restores dest args owned _ packed trailing start
    obtain ⟨stale', rfl⟩ := reading_iff.mp view
    refine ⟨got, stack', stale', written, ?_, restored.1, ?_⟩
    · rw [taken, List.length_append]
    · rw [restored.2, Ptr.bytes_length holds, UInt32.ofNat_toNat]

theorem WRITE3argsT.roundTrips_small :
    ({ count := 3, data := .block [1, 2, 3], dataLen := 3 } : WRITE3argsT).RoundTrips :=
  (roundTrips_iff _ ⟨Ptr.noConfusion, fun positive => absurd rfl positive⟩
    ⟨Ptr.noConfusion, fun _ => ⟨[1, 2, 3], rfl, by decide⟩⟩).mpr rfl

/-- A count of two sends two of the three bytes, and a count of four reads behind them. -/
theorem counted_data_differs :
    (∃ last, xdrPackWRITE3args { count := 2, data := .block [1, 2, 3], dataLen := 3 }
      ⟨⟨[], 0⟩, fun _ => 0, 0⟩ =
      .ok () last ∧ last.buf.data.drop 20 = be32 2 ++ [1, 2, 0, 0]) ∧
    (∃ last, xdrPackWRITE3args { count := 4, data := .block [1, 2, 3], dataLen := 3 }
      ⟨⟨[], 0⟩, fun _ => 0, 0⟩ =
      .error .invalidRead last) ∧
    ¬ ({ count := 2, data := .block [1, 2, 3], dataLen := 3 } : WRITE3argsT).RoundTrips := by
  refine ⟨⟨_, rfl, rfl⟩, ⟨_, rfl⟩, ?_⟩
  intro trips
  obtain ⟨_, _, _, sent, _⟩ := trips (.block [1, 2, 3]) {}
    (Ptr.sameUpTo_self ⟨Ptr.noConfusion, fun _ => ⟨_, rfl, by decide⟩⟩)
      ⟨Ptr.noConfusion, Ptr.noConfusion⟩ [] []
    (fun _ => 0) (fun _ => 0) 0 0 (Nat.dvd_zero 4)
  have words : be32 2 ++ [1, 2, 0, 0] = be32 3 ++ [1, 2, 3, 0] :=
    congrArg (fun result : EStateM.Result Fault Machine Unit =>
      match result with
      | .ok _ last => last.buf.data.drop 20
      | .error _ _ => []) sent
  exact absurd words (by decide)

end Nfs3Rpc.Csuite
