import Nfs3Rpc.Proof.Tirpc.Decoding

namespace Nfs3Rpc
open Encoding Tirpc

variable {σ : Type} {lib : Libtirpc σ} {input : σ → Bytes}

/-- What the vector of the destination holds after its storage was used: the library writes into the storage that is
there, and the size of the vector does not change. -/
def Tirpc.storedData (prior data : Bytes) : Bytes := if prior = [] then [] else data ++ prior.drop data.length

section
variable (decoder : Rfc4506Decoder lib input) (filler : Rfc4506Filler lib input)
include decoder filler

/-- Data that fits into the storage of the destination is read; an empty vector has no storage, and the memory of
the library is lost. -/
theorem Tirpc.xdrWRITE3args_reads (prior args : WRITE3args) (handle : HandleBounded args.file)
    (data : DataBounded args.data) (fits : prior.data = [] ∨ args.data.length ≤ prior.data.length) :
    Reads (Libtirpc.reading input) (xdrWRITE3args lib .XDR_DECODE prior) args.wire
      (· = { args with data := storedData prior.data args.data }) := by
  apply Reads.field (xdrNfsFh3_reads decoder _ args.file handle)
  apply Reads.field (decoder.uHyper _ args.offset)
  apply Reads.field (decoder.uInt _ args.count)
  apply Reads.field (xdrWord_reads decoder _ args.stable.code)
  by_cases empty : prior.data = []
  · have pointer : vectorData prior.data = .null := by
      rw [empty]
      rfl
    rw [pointer, storedData, if_pos empty]
    apply Reads.field (decoder.bytes args.data _ 65536 data)
    apply Reads.done
    by_cases none : args.data = [] <;> simp [none, empty]
  · have pointer : vectorData prior.data = .inner prior.data := if_neg (by simpa using empty)
    rw [pointer, storedData, if_neg empty]
    apply Reads.field (filler.fills args.data prior.data _ 65536 data (fits.resolve_left empty))
    exact Reads.done rfl

/-- Longer data is written behind the storage of the destination. -/
theorem Tirpc.xdrWRITE3args_overflows (prior args : WRITE3args) (handle : HandleBounded args.file)
    (data : DataBounded args.data) (filled : prior.data ≠ []) (long : prior.data.length < args.data.length) :
    Faults (Libtirpc.reading input) (xdrWRITE3args lib .XDR_DECODE prior) args.wire := by
  have pointer : vectorData prior.data = .inner prior.data := if_neg (by simpa using filled)
  apply Faults.after (xdrNfsFh3_reads decoder _ args.file handle)
  intro _ sameFile
  apply Faults.after (decoder.uHyper _ args.offset)
  intro _ sameOffset
  apply Faults.after (decoder.uInt _ args.count)
  intro _ sameCount
  apply Faults.after (xdrWord_reads decoder _ args.stable.code)
  intro _ sameStable
  rw [pointer]
  exact Faults.bind (filler.overflows args.data prior.data _ 65536 data long)

end

/-- The storage ends up with the sent data exactly when its size was right before. -/
theorem Tirpc.storedData_eq_iff {prior data : Bytes} (fits : prior = [] ∨ data.length ≤ prior.length) :
    storedData prior data = data ↔ prior.length = data.length := by
  unfold storedData
  by_cases empty : prior = []
  · subst empty
    rw [if_pos rfl]
    exact ⟨fun same => by rw [← same], fun size => (List.eq_nil_of_length_eq_zero size.symm).symm⟩
  · rw [if_neg empty]
    have inside : data.length ≤ prior.length := fits.resolve_left empty
    constructor
    · intro same
      have lengths := congrArg List.length same
      rw [List.length_append, List.length_drop] at lengths
      omega
    · intro size
      rw [← size, List.drop_length, List.append_nil]

/-- The filter decodes what it encodes exactly when the vector of the destination already has the size of the data. -/
theorem Tirpc.xdrWRITE3args_round_trips_iff (lib : Libtirpc σ) (input : σ → Bytes) (encoder : Rfc4506Encoder lib)
    (decoder : Rfc4506Decoder lib input) (filler : Rfc4506Filler lib input) (args : WRITE3args)
    (handle : HandleBounded args.file) (data : DataBounded args.data) (stream : σ) :
    ∃ bytes last, xdrWRITE3args lib .XDR_ENCODE args stream = .ok args last ∧
      lib.written last = lib.written stream ++ bytes ∧
      ∀ (prior : WRITE3args) (loaded : σ) (rest : Bytes), input loaded = bytes ++ rest →
        ((∃ final, xdrWRITE3args lib .XDR_DECODE prior loaded = .ok args final ∧ input final = rest) ↔
          prior.data.length = args.data.length) := by
  obtain ⟨last, encoded, written⟩ := xdrWRITE3args_emits encoder args handle data stream (lib.written stream) rfl
  refine ⟨args.wire, last, encoded, written, ?_⟩
  intro prior loaded rest holds
  by_cases fits : prior.data = [] ∨ args.data.length ≤ prior.data.length
  · obtain ⟨got, final, decoded, same, consumed⟩ :=
      xdrWRITE3args_reads decoder filler prior args handle data fits loaded [] rest holds
    rw [← storedData_eq_iff fits]
    constructor
    · intro restored
      obtain ⟨other, again, _⟩ := restored
      have equal : got = args := (EStateM.Result.ok.inj (decoded.symm.trans again)).1
      exact congrArg WRITE3args.data (same.symm.trans equal)
    · intro stored
      refine ⟨final, ?_, consumed⟩
      rw [decoded, same, stored]
  · obtain ⟨filled, long⟩ := not_or.mp fits
    obtain ⟨error, final, fails⟩ := xdrWRITE3args_overflows decoder filler prior args handle data filled
      (Nat.lt_of_not_le long) loaded [] rest holds
    constructor
    · intro restored
      obtain ⟨other, decoded, _⟩ := restored
      exact nomatch decoded.symm.trans fails
    · intro size
      omega

theorem Tirpc.xdrWRITE3args_round_trips_small :
    ∃ bytes, ∃ final : MemoryStream,
      xdrWRITE3args memoryLibrary .XDR_DECODE { data := [9, 9, 9] } ⟨[], bytes⟩ =
        .ok { count := 3, data := [1, 2, 3] } final ∧ final.unread = [] := by
  obtain ⟨bytes, last, _, _, decodes⟩ := xdrWRITE3args_round_trips_iff memoryLibrary MemoryStream.unread
    memoryLibrary_encoder memoryLibrary_decoder memoryLibrary_filler { count := 3, data := [1, 2, 3] }
    (by show 0 ≤ 64; decide) (by show 3 ≤ 65536; decide) {}
  exact ⟨bytes, (decodes { data := [9, 9, 9] } ⟨[], bytes⟩ [] (by simp)).mpr rfl⟩

/-- A new destination ends up without the three bytes that were sent. -/
theorem Tirpc.written_data_lost :
    ∃ last final, xdrWRITE3args memoryLibrary .XDR_ENCODE { count := 3, data := [1, 2, 3] } {} =
        .ok { count := 3, data := [1, 2, 3] } last ∧
      xdrWRITE3args memoryLibrary .XDR_DECODE {} ⟨[], last.written⟩ = .ok { count := 3, data := [] } final ∧
      final.unread = [] :=
  ⟨_, _, rfl, rfl, rfl⟩

end Nfs3Rpc
