import Nfs3Rpc.Proof.Tirpc.Decoding

namespace Nfs3Rpc
open Encoding Tirpc

variable {σ : Type} {lib : Libtirpc σ} {input : σ → Bytes}

/-- Each element of a list takes at least its presence word. -/
theorem Encoding.length_lt_chainBytes {α : Type} (wire : α → Bytes) (elements : List α) :
    elements.length < (chainBytes wire elements).length := by
  induction elements with
  | nil => exact Nat.zero_lt_succ _
  | cons element later shorter =>
      simp only [chainBytes, List.length_append, List.length_cons, be32_length]
      omega

section
variable (decoder : Rfc4506Decoder lib input)
include decoder

/-- The decoder gives its loop a round for each unread byte, which covers its own bytes. -/
theorem Tirpc.listRounds_reads {α : Type} {next : Nat → Filter σ α} {wire : Bytes}
    {result : α → Prop} (count : Nat)
    (inner : ∀ rounds, wire.length < rounds → Reads (Libtirpc.reading input) (next rounds) wire result) :
    Reads (Libtirpc.reading input) (listRounds lib .XDR_DECODE count >>= next) wire result := by
  intro stream before rest placed
  have enough : wire.length < lib.unread stream + 1 := by
    have unread : input stream = wire ++ rest := placed
    rw [decoder.unread, unread, List.length_append]
    omega
  exact inner _ enough stream before rest placed

/-- The loop reads every entry and keeps none. -/
theorem Tirpc.xdrEntry3List_reads (entries : List Entry3)
    (bounded : ∀ entry ∈ entries, StringBounded 255 entry.name)
    (first : List Entry3) (rounds : Nat) (enough : entries.length < rounds) :
    Reads (Libtirpc.reading input) (xdrEntry3List lib .XDR_DECODE first rounds)
      (chainBytes Entry3.plainWire entries) fun _ => True := by
  obtain ⟨rounds, rfl⟩ : ∃ left, rounds = left + 1 := ⟨rounds - 1, by omega⟩
  induction entries generalizing first rounds with
  | nil => exact Reads.ending (decoder.uInt _ 0) (Reads.pure trivial)
  | cons entry nextentry recurse =>
      obtain ⟨rounds, rfl⟩ : ∃ left, rounds = left + 1 := ⟨rounds - 1, by simp at enough; omega⟩
      have later := recurse (fun other member => bounded other (List.mem_cons_of_mem _ member)) [{}] rounds
        (by simpa using enough)
      have wire : chainBytes Entry3.plainWire (entry :: nextentry) = [be32 1, be64 entry.fileid,
          opaqueBytes entry.name, be64 entry.cookie, chainBytes Entry3.plainWire nextentry].flatten := by
        simp [chainBytes, Entry3.plainWire]
      rw [wire]
      exact .field (decoder.uInt _ 1) <| .field (decoder.uHyper _ _) <|
        .field (xdrText_reads decoder _ _ 255 (bounded entry List.mem_cons_self)) <|
        .field (decoder.uHyper _ _) <| .last later

theorem Tirpc.xdrEntryplus3List_reads (entries : List Entryplus3)
    (bounded : ∀ entry ∈ entries, StringBounded 255 entry.name ∧ HandleBounded entry.nameHandle)
    (first : List Entryplus3) (rounds : Nat) (enough : entries.length < rounds) :
    Reads (Libtirpc.reading input) (xdrEntryplus3List lib .XDR_DECODE first rounds)
      (chainBytes Entryplus3.plainWire entries) fun _ => True := by
  obtain ⟨rounds, rfl⟩ : ∃ left, rounds = left + 1 := ⟨rounds - 1, by omega⟩
  induction entries generalizing first rounds with
  | nil => exact Reads.ending (decoder.uInt _ 0) (Reads.pure trivial)
  | cons entry nextentry recurse =>
      obtain ⟨rounds, rfl⟩ : ∃ left, rounds = left + 1 := ⟨rounds - 1, by simp at enough; omega⟩
      obtain ⟨name, handle⟩ := bounded entry List.mem_cons_self
      have later := recurse (fun other member => bounded other (List.mem_cons_of_mem _ member)) [{}] rounds
        (by simpa using enough)
      have wire : chainBytes Entryplus3.plainWire (entry :: nextentry) = [be32 1, be64 entry.fileid,
          opaqueBytes entry.name, be64 entry.cookie, entry.nameHandle.wire, entry.nameAttributes.wire,
          chainBytes Entryplus3.plainWire nextentry].flatten := by
        simp [chainBytes, Entryplus3.plainWire]
      rw [wire]
      apply Reads.field (decoder.uInt _ 1)
      apply Reads.field (decoder.uHyper _ _)
      apply Reads.field (xdrText_reads decoder _ _ 255 name)
      apply Reads.field (decoder.uHyper _ _)
      apply Reads.field (xdrNfsFh3_reads decoder _ _ handle)
      exact Reads.cons (xdrPostOpAttr_reads decoder _ _) fun _ _ => .last later

theorem Tirpc.xdrREADDIR3resok_reads (host : ByteOrder) (resok : READDIR3resok)
    (bounded : ProcNum.ResokBounded .READDIR resok) :
    Reads (Libtirpc.reading input) (xdrREADDIR3resok lib host .XDR_DECODE {})
      [resok.dirAttributes.wire, (hyperArray host resok.cookieverf).val,
        [chainBytes Entry3.plainWire resok.reply.entries, beBool resok.reply.eof].flatten].flatten
      fun got => got.SameListing resok ↔ resok.reply.entries = [] := by
  apply Reads.cons (xdrPostOpAttr_reads decoder _ resok.dirAttributes)
  intro attributes _
  apply Reads.field (xdrCookieverf_reads decoder host _ resok.cookieverf)
  have reply : Reads (Libtirpc.reading input) (xdrDirlist3Internal lib .XDR_DECODE {})
      [chainBytes Entry3.plainWire resok.reply.entries, beBool resok.reply.eof].flatten
      (· = ⟨[], resok.reply.eof⟩) := by
    apply listRounds_reads decoder
    intro rounds enough
    have entries := length_lt_chainBytes Entry3.plainWire resok.reply.entries
    rw [List.flatten_cons, List.length_append] at enough
    apply Reads.cons (xdrEntry3List_reads decoder resok.reply.entries bounded [] rounds (by omega))
    intro _ _
    exact .field (xdrFlag_reads decoder _ _) <| .done rfl
  apply Reads.field reply
  apply Reads.done
  simp [READDIR3resok.SameListing, eq_comm]

theorem Tirpc.xdrREADDIRPLUS3resok_reads (host : ByteOrder) (resok : READDIRPLUS3resok)
    (bounded : ProcNum.ResokBounded .READDIRPLUS resok) :
    Reads (Libtirpc.reading input) (xdrREADDIRPLUS3resok lib host .XDR_DECODE {})
      [resok.dirAttributes.wire, (hyperArray host resok.cookieverf).val,
        [chainBytes Entryplus3.plainWire resok.reply.entries, beBool resok.reply.eof].flatten].flatten
      fun got => got.SameListing resok ↔ resok.reply.entries = [] := by
  apply Reads.cons (xdrPostOpAttr_reads decoder _ resok.dirAttributes)
  intro attributes _
  apply Reads.field (xdrCookieverf_reads decoder host _ resok.cookieverf)
  have reply : Reads (Libtirpc.reading input) (xdrDirlistplus3Internal lib .XDR_DECODE {})
      [chainBytes Entryplus3.plainWire resok.reply.entries, beBool resok.reply.eof].flatten
      (· = ⟨[], resok.reply.eof⟩) := by
    apply listRounds_reads decoder
    intro rounds enough
    have entries := length_lt_chainBytes Entryplus3.plainWire resok.reply.entries
    rw [List.flatten_cons, List.length_append] at enough
    apply Reads.cons (xdrEntryplus3List_reads decoder resok.reply.entries bounded [] rounds (by omega))
    intro _ _
    exact .field (xdrFlag_reads decoder _ _) <| .done rfl
  apply Reads.field reply
  apply Reads.done
  simp [READDIRPLUS3resok.SameListing, eq_comm]

/-- A successful listing goes through the filter in both directions. -/
theorem Tirpc.listing_survives_iff {ok : Type} (encoder : Rfc4506Encoder lib) {fresh resok : ok} {kept : Prop}
    {same : ok → Prop} {filter : XdrOp → ok → Filter σ ok} {wire : Bytes}
    (encodes : Emits lib.writing (filter .XDR_ENCODE resok) resok wire)
    (decodes : Reads (Libtirpc.reading input) (filter .XDR_DECODE fresh) wire fun got => same got ↔ kept)
    (stream : σ) :
    ∃ bytes last, xdrListing lib .XDR_ENCODE (resokPresent .XDR_ENCODE fresh ⟨.NFS3_OK, some resok⟩)
        (filter .XDR_ENCODE) ⟨.NFS3_OK, some resok⟩ stream = .ok ⟨.NFS3_OK, some resok⟩ last ∧
      lib.written last = lib.written stream ++ bytes ∧
      ∀ (prior : Res ok) (loaded : σ) (rest : Bytes), input loaded = bytes ++ rest →
        ((∃ got final listing, xdrListing lib .XDR_DECODE (resokPresent .XDR_DECODE fresh prior)
          (filter .XDR_DECODE) prior loaded = .ok got final ∧ got.resok = some listing ∧ same listing) ↔
            kept) := by
  have sent : Emits lib.writing (xdrListing lib .XDR_ENCODE
      (resokPresent .XDR_ENCODE fresh ⟨.NFS3_OK, some resok⟩) (filter .XDR_ENCODE) ⟨.NFS3_OK, some resok⟩)
      ⟨.NFS3_OK, some resok⟩ [be32 Nfsstat3.NFS3_OK.code, wire].flatten :=
    .cons (xdrWord_emits encoder _) <| .silent (Emits.pure resok) <| .cons encodes .done
  obtain ⟨last, encoded, written⟩ := sent stream (lib.written stream) rfl
  refine ⟨_, last, encoded, written, ?_⟩
  intro prior loaded rest holds
  have received : Reads (Libtirpc.reading input)
      (xdrListing lib .XDR_DECODE (resokPresent .XDR_DECODE fresh prior) (filter .XDR_DECODE) prior)
      [be32 Nfsstat3.NFS3_OK.code, wire].flatten
      fun got => ∃ listing, got.resok = some listing ∧ (same listing ↔ kept) := by
    apply Reads.field (xdrWord_reads decoder _ _)
    rw [if_pos rfl]
    apply Reads.silent (Reads.pure rfl)
    intro value same
    subst same
    apply Reads.cons decodes
    intro listing known
    exact Reads.done ⟨listing, rfl, known⟩
  obtain ⟨got, final, decoded, ⟨listing, present, known⟩, _⟩ := received loaded [] rest holds
  constructor
  · intro held
    obtain ⟨other, last', listing', decoded', present', holds'⟩ := held
    rw [decoded] at decoded'
    obtain ⟨rfl, rfl⟩ := EStateM.Result.ok.inj decoded'
    obtain rfl : listing = listing' := Option.some.inj (present.symm.trans present')
    exact known.mp holds'
  · intro holds'
    exact ⟨got, final, listing, decoded, present, known.mpr holds'⟩

end

/-- A listing survives the filter exactly when it has no entries to lose. -/
theorem Tirpc.entries_survive_iff (lib : Libtirpc σ) (input : σ → Bytes) (encoder : Rfc4506Encoder lib)
    (decoder : Rfc4506Decoder lib input) (host : ByteOrder) (stream : σ) :
    (∀ resok : READDIR3resok, ProcNum.ResokBounded .READDIR resok →
      ∃ bytes last, xdrREADDIR3res lib host .XDR_ENCODE ⟨.NFS3_OK, some resok⟩ stream =
          .ok ⟨.NFS3_OK, some resok⟩ last ∧ lib.written last = lib.written stream ++ bytes ∧
        ∀ (prior : READDIR3res) (loaded : σ) (rest : Bytes), input loaded = bytes ++ rest →
          ((∃ got final listing, xdrREADDIR3res lib host .XDR_DECODE prior loaded = .ok got final ∧
            got.resok = some listing ∧ listing.SameListing resok) ↔ resok.reply.entries = [])) ∧
    (∀ resok : READDIRPLUS3resok, ProcNum.ResokBounded .READDIRPLUS resok →
      ∃ bytes last, xdrREADDIRPLUS3res lib host .XDR_ENCODE ⟨.NFS3_OK, some resok⟩ stream =
          .ok ⟨.NFS3_OK, some resok⟩ last ∧ lib.written last = lib.written stream ++ bytes ∧
        ∀ (prior : READDIRPLUS3res) (loaded : σ) (rest : Bytes), input loaded = bytes ++ rest →
          ((∃ got final listing, xdrREADDIRPLUS3res lib host .XDR_DECODE prior loaded = .ok got final ∧
            got.resok = some listing ∧ listing.SameListing resok) ↔ resok.reply.entries = [])) := by
  constructor
  · intro resok bounded
    have clean : ∀ entry ∈ resok.reply.entries, entry3Wire entry = entry.plainWire :=
      fun entry member => entry3Wire_of_clean ((stringBounded_iff entry.name).mp (bounded entry member)).2
    have encodes : Emits lib.writing (xdrREADDIR3resok lib host .XDR_ENCODE resok) resok _ :=
      .cons (xdrPostOpAttr_emits encoder _) <| .cons (xdrCookieverf_emits encoder host _) <|
      .cons (xdrDirlist3Internal_emits encoder _ fun entry member =>
        ((stringBounded_iff entry.name).mp (bounded entry member)).1) .done
    rw [chainBytes_congr clean] at encodes
    exact listing_survives_iff decoder encoder encodes (xdrREADDIR3resok_reads decoder host resok bounded) stream
  · intro resok bounded
    have clean : ∀ entry ∈ resok.reply.entries, entryplus3Wire entry = entry.plainWire :=
      fun entry member => entryplus3Wire_of_clean ((stringBounded_iff entry.name).mp (bounded entry member).1).2
    have encodes : Emits lib.writing (xdrREADDIRPLUS3resok lib host .XDR_ENCODE resok) resok _ :=
      .cons (xdrPostOpAttr_emits encoder _) <| .cons (xdrCookieverf_emits encoder host _) <|
      .cons (xdrDirlistplus3Internal_emits encoder _ fun entry member =>
        ⟨((stringBounded_iff entry.name).mp (bounded entry member).1).1, (bounded entry member).2⟩) .done
    rw [chainBytes_congr clean] at encodes
    exact listing_survives_iff decoder encoder encodes (xdrREADDIRPLUS3resok_reads decoder host resok bounded) stream

theorem Tirpc.entries_survive_small :
    ∃ sent got final listing, xdrREADDIR3res memoryLibrary .littleEndian .XDR_ENCODE
        ⟨.NFS3_OK, some { cookieverf := 7, reply := ⟨[], true⟩ }⟩ {} =
          .ok ⟨.NFS3_OK, some { cookieverf := 7, reply := ⟨[], true⟩ }⟩ sent ∧
      xdrREADDIR3res memoryLibrary .littleEndian .XDR_DECODE ⟨.NFS3_OK, none⟩ ⟨[], sent.written⟩ =
        .ok got final ∧
      got.resok = some listing ∧ listing.SameListing { cookieverf := 7, reply := ⟨[], true⟩ } := by
  obtain ⟨plain, _⟩ := entries_survive_iff memoryLibrary MemoryStream.unread memoryLibrary_encoder
    memoryLibrary_decoder .littleEndian {}
  obtain ⟨bytes, sent, encoded, written, survives⟩ :=
    plain { cookieverf := 7, reply := ⟨[], true⟩ } (List.forall_mem_nil _)
  obtain rfl : sent.written = bytes := written
  obtain ⟨got, final, listing, decoded, present, same⟩ :=
    (survives ⟨.NFS3_OK, none⟩ ⟨[], sent.written⟩ [] (by simp)).mpr rfl
  exact ⟨sent, got, final, listing, encoded, decoded, present, same⟩

/-- A listing of one entry comes back empty. -/
theorem Tirpc.only_entry_lost :
    ∃ bytes, xdrREADDIR3res memoryLibrary .littleEndian .XDR_ENCODE
        ⟨.NFS3_OK, some { reply := ⟨[⟨1, [97], 2⟩], true⟩ }⟩ {} =
          .ok ⟨.NFS3_OK, some { reply := ⟨[⟨1, [97], 2⟩], true⟩ }⟩ ⟨bytes, []⟩ ∧
      xdrREADDIR3res memoryLibrary .littleEndian .XDR_DECODE ⟨.NFS3_OK, none⟩ ⟨[], bytes⟩ =
        .ok ⟨.NFS3_OK, some { reply := ⟨[], true⟩ }⟩ ⟨[], []⟩ ∧
      ¬ READDIR3resok.SameListing { reply := ⟨[], true⟩ } { reply := ⟨[⟨1, [97], 2⟩], true⟩ } := by
  refine ⟨_, rfl, rfl, ?_⟩
  intro held
  obtain ⟨entries, _⟩ := held
  exact nomatch entries

end Nfs3Rpc
