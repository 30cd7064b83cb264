import Nfs3Rpc.Proof.Suites.SameBytes
import Nfs3Rpc.Proof.Tirpc.Listings

namespace Nfs3Rpc
open Encoding Builtin Tirpc

theorem Tirpc.hyperArray_eq_iff (host : ByteOrder) (verf : UInt64) :
    (hyperArray host verf).val = be64 verf ↔ SameCookieverf host verf := by
  cases host with
  | bigEndian => exact ⟨fun _ => .inl rfl, fun _ => rfl⟩
  | littleEndian =>
      constructor
      · exact .inr
      · intro same
        rcases same with big | reversed
        · exact nomatch big
        · exact reversed

/-- A number survives the way through the memory of the host. -/
theorem Tirpc.arrayHyper_hyperArray (host : ByteOrder) (value : UInt64) :
    arrayHyper host (hyperArray host value) = value := by
  have back : leadingHyper (be64 value) = value := by
    simpa using leadingHyper_be64 value []
  cases host with
  | bigEndian => exact back
  | littleEndian =>
      show leadingHyper (be64 value).reverse.reverse = value
      rw [List.reverse_reverse, back]

/-- The memory and the number have the same length, so nothing after them can hide a difference. -/
theorem Tirpc.sameCookieverf_of_append {host : ByteOrder} {verf : UInt64} {left right : Bytes}
    (same : (hyperArray host verf).val ++ left = be64 verf ++ right) : SameCookieverf host verf ∧ left = right := by
  have length : (hyperArray host verf).val.length = (be64 verf).length := (hyperArray host verf).property
  obtain ⟨verfs, rests⟩ := List.append_inj same length
  exact ⟨(hyperArray_eq_iff host verf).mp verfs, rests⟩

/-- A length word makes the bytes of a verifier longer than its array. -/
theorem Verifier.data_ne_wire_append (verf : Verifier) {rest : Bytes}
    (same : [verf.data].flatten = verf.wire ++ rest) : False := by
  have lengths := congrArg List.length same
  rw [List.flatten_cons, List.flatten_nil, List.append_nil, List.length_append, Verifier.wire, opaqueBytes_length,
    verf.eight] at lengths
  omega

/-- Only entries with short names and handles are written. -/
theorem Entryplus3.serialize_checks (entry : Entryplus3) (nextentry : List Entryplus3) :
    Checks (entry.serialize nextentry) (∀ e ∈ entry :: nextentry, e.Fits) := by
  have name := packString_checks entry.name
  have handle := packOpaque_checks entry.nameHandle.data
  induction nextentry generalizing entry with
  | nil =>
      rw [Entryplus3.serialize]
      intro state value last runs e member
      rw [List.mem_singleton.mp member]
      exact Checks.both (.later fun _ => .here name) (.later fun _ => .later fun _ => .later fun _ => .here handle)
        state value last runs
  | cons next rest recurse =>
      rw [Entryplus3.serialize]
      have later := recurse next (packString_checks _) (packOpaque_checks _)
      intro state value last runs
      rw [List.forall_mem_cons]
      exact Checks.both
        (.both (.later fun _ => .here name) (.later fun _ => .later fun _ => .later fun _ => .here handle))
        (.later fun _ => .later fun _ => .later fun _ => .later fun _ => .later fun _ => .later fun _ => later)
        state value last runs

theorem Dirlistplus3.serialize_checks (list : Dirlistplus3) : Checks list.serialize list.Fits := by
  obtain ⟨entries, eof⟩ := list
  cases entries with
  | nil => exact fun _ _ _ _ => List.forall_mem_nil _
  | cons first rest => exact Checks.later fun _ => Checks.here (first.serialize_checks rest)

theorem Dirlist3.serialize_checks_fits (list : Dirlist3) : Checks list.serialize list.Fits := by
  intro state value last runs
  have names := list.serialize_checks state value last runs
  rwa [List.forall_mem_map] at names

/-- A failed result is its status. -/
theorem Res.serialize_emits_failed {ok : Type} {pos : Nat} (okSerialize : ok → Xdr Unit) (res : Res ok)
    (failed : res.status ≠ .NFS3_OK) :
    Emits (XdrBuffer.writing pos) (Res.serialize okSerialize res) () [be32 res.status.code].flatten := by
  apply Emits.cons (packUint32_emits _)
  rw [if_neg failed]
  exact Emits.done

theorem Tirpc.stringBounded_iff (s : Bytes) : StringBounded 255 s ↔ NameTaken s ∧ (cStr s).cstring = s := by
  rw [StringBounded, NameTaken, cStr_cstring_eq_iff]
  constructor
  · intro held
    obtain ⟨bound, clean⟩ := held
    rw [(cStr_cstring_eq_iff s).mpr clean]
    exact ⟨bound, clean⟩
  · intro held
    obtain ⟨bound, clean⟩ := held
    rw [(cStr_cstring_eq_iff s).mpr clean] at bound
    exact ⟨bound, clean⟩

/-- The built-in codec sends such an entry. -/
def Entry3.plainWire (entry : Entry3) : Bytes :=
  [be64 entry.fileid, opaqueBytes entry.name, be64 entry.cookie].flatten

def Entryplus3.plainWire (entry : Entryplus3) : Bytes :=
  [be64 entry.fileid, opaqueBytes entry.name, be64 entry.cookie, entry.nameHandle.wire,
    entry.nameAttributes.wire].flatten

/-- The flags after the entries are the words of a linked list. -/
theorem Dirlist3.wire_eq (list : Dirlist3) :
    list.wire = [chainBytes Entry3.plainWire list.entries, beBool list.eof].flatten := by
  have chain : ∀ entries : List Entry3,
      chainBytes Entry3.plainWire entries = beBool (!entries.isEmpty) ++ Entry3.chainWire entries := by
    intro entries
    induction entries with
    | nil => rfl
    | cons entry nextentry recurse =>
        rw [chainBytes, recurse, Entry3.chainWire_cons]
        simp [beBool, Entry3.plainWire]
  rw [chain]
  simp [Dirlist3.wire]

theorem Dirlistplus3.wire_eq (list : Dirlistplus3) :
    list.wire = [chainBytes Entryplus3.plainWire list.entries, beBool list.eof].flatten := by
  have chain : ∀ entries : List Entryplus3,
      chainBytes Entryplus3.plainWire entries = beBool (!entries.isEmpty) ++ Entryplus3.chainWire entries := by
    intro entries
    induction entries with
    | nil => rfl
    | cons entry nextentry recurse =>
        rw [chainBytes, recurse, Entryplus3.chainWire_cons]
        simp [beBool, Entryplus3.plainWire]
  rw [chain]
  simp [Dirlistplus3.wire]

/-- The name of an entry is the only part in which the two builds can differ. -/
theorem Tirpc.entry3Wire_apart (entry : Entry3) (short : Short entry.name) {left right : Bytes}
    (same : entry3Wire entry ++ left = entry.plainWire ++ right) : (cStr entry.name).cstring = entry.name := by
  simp only [entry3Wire, Entry3.plainWire, List.flatten_cons, List.append_assoc] at same
  have names := List.append_cancel_left same
  exact ((opaqueBytes_append_inj (cStr_cstring_short short) short).mp names).1

theorem Tirpc.entryplus3Wire_apart (entry : Entryplus3) (short : Short entry.name) {left right : Bytes}
    (same : entryplus3Wire entry ++ left = entry.plainWire ++ right) : (cStr entry.name).cstring = entry.name := by
  simp only [entryplus3Wire, Entryplus3.plainWire, List.flatten_cons, List.append_assoc] at same
  have names := List.append_cancel_left same
  exact ((opaqueBytes_append_inj (cStr_cstring_short short) short).mp names).1

theorem Tirpc.entry3Wire_of_clean {entry : Entry3} (clean : (cStr entry.name).cstring = entry.name) :
    entry3Wire entry = entry.plainWire := by
  rw [entry3Wire, clean, Entry3.plainWire]

theorem Tirpc.entryplus3Wire_of_clean {entry : Entryplus3} (clean : (cStr entry.name).cstring = entry.name) :
    entryplus3Wire entry = entry.plainWire := by
  rw [entryplus3Wire, clean, Entryplus3.plainWire]

/-- After the attributes, a listing is its verifier, its entries, and the flag for the end. -/
theorem Tirpc.listing_wires_iff {α : Type} {host : ByteOrder} {verf : UInt64} {entries : List α} {eof : Bool}
    {attributes : Bytes} {first second : α → Bytes}
    (apart : ∀ entry ∈ entries, ∀ l r, first entry ++ l = second entry ++ r → first entry = second entry) :
    [attributes, (hyperArray host verf).val, [chainBytes first entries, beBool eof].flatten].flatten =
        [attributes, be64 verf, [chainBytes second entries, beBool eof].flatten].flatten ↔
      (∀ entry ∈ entries, first entry = second entry) ∧ SameCookieverf host verf := by
  constructor
  · intro wires
    obtain ⟨same, replies⟩ := sameCookieverf_of_append (List.append_cancel_left wires)
    simp only [List.flatten_cons, List.flatten_nil, List.append_nil] at replies
    exact ⟨(chainBytes_append_inj apart replies).1, same⟩
  · intro held
    obtain ⟨same, verfs⟩ := held
    rw [(hyperArray_eq_iff host verf).mpr verfs, chainBytes_congr same]

theorem Tirpc.readdir_agreement (host : ByteOrder) (resok : READDIR3resok) :
    resok.reply.Fits ∧ (∀ entry ∈ resok.reply.entries, NameTaken entry.name) ∧
      [resok.dirAttributes.wire, (hyperArray host resok.cookieverf).val,
        [chainBytes entry3Wire resok.reply.entries, beBool resok.reply.eof].flatten].flatten = resok.wire ↔
      ProcNum.ResokBounded .READDIR resok ∧ SameCookieverf host resok.cookieverf := by
  rw [READDIR3resok.wire, Dirlist3.wire_eq]
  constructor
  · intro held
    obtain ⟨fits, taken, wires⟩ := held
    have apart : ∀ entry ∈ resok.reply.entries, ∀ l r, entry3Wire entry ++ l = entry.plainWire ++ r →
        entry3Wire entry = entry.plainWire :=
      fun entry member l r same => entry3Wire_of_clean (entry3Wire_apart entry (fits entry member) same)
    obtain ⟨entries, verf⟩ := (listing_wires_iff apart).mp wires
    refine ⟨fun entry member => (stringBounded_iff entry.name).mpr ⟨taken entry member, ?_⟩, verf⟩
    exact entry3Wire_apart entry (fits entry member) (congrArg (· ++ []) (entries entry member))
  · intro held
    obtain ⟨bounded, verf⟩ := held
    have clean : ∀ entry ∈ resok.reply.entries, entry3Wire entry = entry.plainWire :=
      fun entry member => entry3Wire_of_clean ((stringBounded_iff entry.name).mp (bounded entry member)).2
    refine ⟨fun entry member => Nat.lt_of_le_of_lt (bounded entry member).1 (by decide),
      fun entry member => ((stringBounded_iff entry.name).mp (bounded entry member)).1, ?_⟩
    exact (listing_wires_iff fun entry member _ _ _ => clean entry member).mpr ⟨clean, verf⟩

theorem Tirpc.readdirplus_agreement (host : ByteOrder) (resok : READDIRPLUS3resok) :
    resok.reply.Fits ∧ (∀ entry ∈ resok.reply.entries, EntryTaken entry) ∧
      [resok.dirAttributes.wire, (hyperArray host resok.cookieverf).val,
        [chainBytes entryplus3Wire resok.reply.entries, beBool resok.reply.eof].flatten].flatten = resok.wire ↔
      ProcNum.ResokBounded .READDIRPLUS resok ∧ SameCookieverf host resok.cookieverf := by
  rw [READDIRPLUS3resok.wire, Dirlistplus3.wire_eq]
  constructor
  · intro held
    obtain ⟨fits, taken, wires⟩ := held
    have apart : ∀ entry ∈ resok.reply.entries, ∀ l r, entryplus3Wire entry ++ l = entry.plainWire ++ r →
        entryplus3Wire entry = entry.plainWire :=
      fun entry member l r same => entryplus3Wire_of_clean (entryplus3Wire_apart entry (fits entry member).1 same)
    obtain ⟨entries, verf⟩ := (listing_wires_iff apart).mp wires
    refine ⟨fun entry member => ⟨(stringBounded_iff entry.name).mpr ⟨(taken entry member).1, ?_⟩,
      (taken entry member).2⟩, verf⟩
    exact entryplus3Wire_apart entry (fits entry member).1 (congrArg (· ++ []) (entries entry member))
  · intro held
    obtain ⟨bounded, verf⟩ := held
    have clean : ∀ entry ∈ resok.reply.entries, entryplus3Wire entry = entry.plainWire :=
      fun entry member => entryplus3Wire_of_clean ((stringBounded_iff entry.name).mp (bounded entry member).1).2
    refine ⟨fun entry member => ⟨Nat.lt_of_le_of_lt (bounded entry member).1.1 (by decide),
      Nat.lt_of_le_of_lt (bounded entry member).2 (by decide)⟩, fun entry member =>
      ⟨((stringBounded_iff entry.name).mp (bounded entry member).1).1, (bounded entry member).2⟩, ?_⟩
    exact (listing_wires_iff fun entry member _ _ _ => clean entry member).mpr ⟨clean, verf⟩

section
variable {σ : Type} {lib : Libtirpc σ} (encoder : Rfc4506Encoder lib)
include encoder

theorem Tirpc.xdrVerifier_emits (obj : Verifier) :
    Emits lib.writing (xdrVerifier lib .XDR_ENCODE obj) obj obj.data := by
  have array := encoder.array ⟨obj.data, obj.eight⟩
  have whole : padded obj.data = obj.data := by
    simp [padded, obj.eight, padding]
  rw [whole] at array
  exact Emits.returning array

theorem Tirpc.xdrCookieverf_emits (host : ByteOrder) (obj : UInt64) :
    Emits lib.writing (xdrCookieverf lib host .XDR_ENCODE obj) obj (hyperArray host obj).val := by
  have array := encoder.array (hyperArray host obj)
  have whole : padded (hyperArray host obj).val = (hyperArray host obj).val := by
    simp [padded, (hyperArray host obj).property, padding]
  rw [whole] at array
  have returned := @Emits.returning _ _ _ _ _ _ _ (arrayHyper host) _ array
  rwa [arrayHyper_hyperArray] at returned

theorem Tirpc.xdrCookieverf_emits_be64 {host : ByteOrder} {verf : UInt64} (same : SameCookieverf host verf) :
    Emits lib.writing (xdrCookieverf lib host .XDR_ENCODE verf) verf (be64 verf) := by
  have emits := xdrCookieverf_emits encoder host verf
  rwa [(hyperArray_eq_iff host verf).mpr same] at emits

section
variable {stream : σ} {buf : XdrBuffer} (aligned : 4 ∣ buf.buffer.length)
include aligned

theorem Tirpc.verifier_differs (verf : Verifier) :
    ¬ SameOutput lib (xdrVerifier lib .XDR_ENCODE verf) verf.serialize stream buf := by
  intro same
  have wires := same.wires (xdrVerifier_emits encoder verf) (fun _ => verf.serialize_emits) aligned
  have lengths := congrArg List.length wires
  rw [Verifier.wire, opaqueBytes_length, verf.eight] at lengths
  omega

theorem Tirpc.readdirArgs_same_iff (host : ByteOrder) (args : READDIR3args) :
    SameOutput lib (xdrREADDIR3args lib host .XDR_ENCODE args) args.serialize stream buf ↔
      HandleBounded args.dir ∧ SameCookieverf host args.cookieverf := by
  constructor
  · intro same
    have short : args.dir.Fits := same.serialized (.here (packOpaque_checks _))
    have handle : HandleBounded args.dir := same.filtered (.here (xdrNfsFh3_checks encoder _ short))
    have wires := same.wires
      (.cons (xdrNfsFh3_emits encoder _ handle) <| .cons (encoder.uHyper _) <|
        .cons (xdrCookieverf_emits encoder host _) <| .cons (encoder.uInt _) .done)
      (fun _ => args.serialize_emits short) aligned
    have verfs := List.append_cancel_left (List.append_cancel_left wires)
    exact ⟨handle, (sameCookieverf_of_append verfs).1⟩
  · intro held
    obtain ⟨handle, verf⟩ := held
    have short : args.dir.Fits := Nat.lt_of_le_of_lt handle (by decide)
    have filters : Emits lib.writing (xdrREADDIR3args lib host .XDR_ENCODE args) args args.wire :=
      .cons (xdrNfsFh3_emits encoder _ handle) <| .cons (encoder.uHyper _) <|
      .cons (xdrCookieverf_emits_be64 encoder verf) <| .cons (encoder.uInt _) .done
    exact sameOutput_of_emits filters (fun _ => args.serialize_emits short) stream buf aligned

theorem Tirpc.readdirplusArgs_same_iff (host : ByteOrder) (args : READDIRPLUS3args) :
    SameOutput lib (xdrREADDIRPLUS3args lib host .XDR_ENCODE args) args.serialize stream buf ↔
      HandleBounded args.dir ∧ SameCookieverf host args.cookieverf := by
  constructor
  · intro same
    have short : args.dir.Fits := same.serialized (.here (packOpaque_checks _))
    have handle : HandleBounded args.dir := same.filtered (.here (xdrNfsFh3_checks encoder _ short))
    have wires := same.wires
      (.cons (xdrNfsFh3_emits encoder _ handle) <| .cons (encoder.uHyper _) <|
        .cons (xdrCookieverf_emits encoder host _) <| .cons (encoder.uInt _) <| .cons (encoder.uInt _) .done)
      (fun _ => args.serialize_emits short) aligned
    have verfs := List.append_cancel_left (List.append_cancel_left wires)
    exact ⟨handle, (sameCookieverf_of_append verfs).1⟩
  · intro held
    obtain ⟨handle, verf⟩ := held
    have short : args.dir.Fits := Nat.lt_of_le_of_lt handle (by decide)
    have filters : Emits lib.writing (xdrREADDIRPLUS3args lib host .XDR_ENCODE args) args args.wire :=
      .cons (xdrNfsFh3_emits encoder _ handle) <| .cons (encoder.uHyper _) <|
      .cons (xdrCookieverf_emits_be64 encoder verf) <| .cons (encoder.uInt _) <| .cons (encoder.uInt _) .done
    exact sameOutput_of_emits filters (fun _ => args.serialize_emits short) stream buf aligned

/-- Such a result has the same bytes only where it carries no verifier. -/
theorem Tirpc.verified_same_iff {ok : Type} {fresh : ok} {filter : ok → Filter σ ok} {serialize : ok → Xdr Unit}
    {left right : ok → Bytes} (res : Res ok)
    (filters : ∀ resok, Emits lib.writing (filter resok) resok (left resok))
    (serializes : ∀ pos resok, Emits (XdrBuffer.writing pos) (serialize resok) () (right resok))
    (carries : ∀ resok, left resok ≠ []) (differs : ∀ resok, left resok ≠ right resok) :
    SameOutput lib (xdrRes lib .XDR_ENCODE (resokOr .XDR_ENCODE fresh res) filter res)
      (Res.serialize serialize res) stream buf ↔ res.status ≠ .NFS3_OK := by
  obtain ⟨status, resok⟩ := res
  by_cases success : status = .NFS3_OK
  · subst success
    apply iff_of_false _ (fun failed => failed rfl)
    intro same
    cases resok with
    | none =>
        have wires := same.wires (.cons (xdrWord_emits encoder _) <| .silent (Emits.pure fresh) <|
          .cons (filters fresh) .done) (fun _ => .cons (packUint32_emits _) .done) aligned
        have rest := List.append_cancel_left wires
        rw [List.flatten_cons, List.flatten_nil, List.append_nil] at rest
        exact carries fresh rest
    | some resok =>
        have wires := same.wires (.cons (xdrWord_emits encoder _) <| .silent (Emits.pure resok) <|
          .cons (filters resok) .done) (fun pos => .cons (packUint32_emits _) (.last (serializes pos resok))) aligned
        have rest := List.append_cancel_left wires
        rw [List.flatten_cons, List.flatten_nil, List.append_nil, List.flatten_cons, List.flatten_nil,
          List.append_nil] at rest
        exact differs resok rest
  · apply iff_of_true _ success
    have filtered : Emits lib.writing
        (xdrRes lib .XDR_ENCODE (resokOr .XDR_ENCODE fresh ⟨status, resok⟩) filter ⟨status, resok⟩)
        ⟨status, resok⟩ [be32 status.code].flatten := by
      apply Emits.cons (xdrWord_emits encoder _)
      rw [if_neg success]
      exact Emits.done
    exact sameOutput_of_emits filtered (fun _ => Res.serialize_emits_failed serialize ⟨status, resok⟩ success)
        stream buf aligned

/-- A listing is compared through the checks and the wires of its `resok`. -/
theorem Tirpc.listing_same_iff {ok : Type} {fresh : ok} {filter : ok → Filter σ ok} {serialize : ok → Xdr Unit}
    {left right : ok → Bytes} {fits taken agrees : ok → Prop} (res : Res ok)
    (serializeChecks : ∀ resok, Checks (serialize resok) (fits resok))
    (filterChecks : ∀ resok, fits resok → Checks (filter resok) (taken resok))
    (filters : ∀ resok, taken resok → Emits lib.writing (filter resok) resok (left resok))
    (serializes : ∀ pos resok, fits resok → Emits (XdrBuffer.writing pos) (serialize resok) () (right resok))
    (agreement : ∀ resok, fits resok ∧ taken resok ∧ left resok = right resok ↔ agrees resok) :
    SameOutput lib (xdrListing lib .XDR_ENCODE (resokPresent .XDR_ENCODE fresh res) filter res)
      (Res.serialize serialize res) stream buf ↔
        (res.status = .NFS3_OK → ∃ resok ∈ res.resok, agrees resok) := by
  obtain ⟨status, resok⟩ := res
  by_cases success : status = .NFS3_OK
  · subst success
    cases resok with
    | none =>
        apply iff_of_false
        · intro same
          have refused : Checks (resokPresent .XDR_ENCODE fresh ⟨.NFS3_OK, none⟩ : Filter σ ok) False :=
            fun _ _ _ runs => nomatch runs
          exact same.filtered (.after lib.writing_total (xdrWord_emits encoder _) (.here refused))
        · intro present
          obtain ⟨resok, member, _⟩ := present rfl
          exact nomatch member
    | some resok =>
        have known : (Nfsstat3.NFS3_OK = .NFS3_OK → ∃ other ∈ some resok, agrees other) ↔ agrees resok := by
          simp
        rw [known, ← agreement resok]
        constructor
        · intro same
          have short := same.serialized (.later fun _ => serializeChecks resok)
          have took : taken resok := same.filtered (.after lib.writing_total (xdrWord_emits encoder _)
            (.after lib.writing_total (Emits.pure resok) (.here (filterChecks resok short))))
          have wires := same.wires (.cons (xdrWord_emits encoder _) <| .silent (Emits.pure resok) <|
            .cons (filters resok took) .done)
            (fun pos => .cons (packUint32_emits _) (.last (serializes pos resok short))) aligned
          have rest := List.append_cancel_left wires
          rw [List.flatten_cons, List.flatten_nil, List.append_nil, List.flatten_cons, List.flatten_nil,
            List.append_nil] at rest
          exact ⟨short, took, rest⟩
        · intro held
          obtain ⟨short, took, wires⟩ := held
          have filtered : Emits lib.writing
              (xdrListing lib .XDR_ENCODE (resokPresent .XDR_ENCODE fresh ⟨.NFS3_OK, some resok⟩) filter
                ⟨.NFS3_OK, some resok⟩) ⟨.NFS3_OK, some resok⟩
              [be32 Nfsstat3.NFS3_OK.code, right resok].flatten := by
            rw [← wires]
            exact .cons (xdrWord_emits encoder _) <| .silent (Emits.pure resok) <| .cons (filters resok took) .done
          exact sameOutput_of_emits filtered
            (fun pos => .cons (packUint32_emits _) (.last (serializes pos resok short))) stream buf aligned
  · apply iff_of_true
    · have filtered : Emits lib.writing
          (xdrListing lib .XDR_ENCODE (resokPresent .XDR_ENCODE fresh ⟨status, resok⟩) filter ⟨status, resok⟩)
          ⟨status, resok⟩ [be32 status.code].flatten := by
        apply Emits.cons (xdrWord_emits encoder _)
        rw [if_neg success]
        exact Emits.done
      exact sameOutput_of_emits filtered (fun _ => Res.serialize_emits_failed serialize ⟨status, resok⟩ success)
        stream buf aligned
    · intro succeeded
      exact absurd succeeded success

theorem Tirpc.readdirRes_same_iff (host : ByteOrder) (res : READDIR3res) :
    SameOutput lib (xdrREADDIR3res lib host .XDR_ENCODE res) (Res.serialize READDIR3resok.serialize res) stream buf ↔
      (res.status = .NFS3_OK → ∃ resok ∈ res.resok,
        ProcNum.ResokBounded .READDIR resok ∧ SameCookieverf host resok.cookieverf) := by
  apply listing_same_iff encoder aligned res
  · exact fun resok => .later fun _ => .later fun _ => resok.reply.serialize_checks_fits
  · exact fun resok fits => .later fun _ => .later fun _ => .here (xdrDirlist3Internal_checks encoder _ fits)
  · exact fun resok taken => .cons (xdrPostOpAttr_emits encoder _) <| .cons (xdrCookieverf_emits encoder host _) <|
      .cons (xdrDirlist3Internal_emits encoder _ taken) .done
  · exact fun pos resok fits => resok.serialize_emits fits
  · exact readdir_agreement host

theorem Tirpc.readdirplusRes_same_iff (host : ByteOrder) (res : READDIRPLUS3res) :
    SameOutput lib (xdrREADDIRPLUS3res lib host .XDR_ENCODE res) (Res.serialize READDIRPLUS3resok.serialize res)
        stream buf ↔
      (res.status = .NFS3_OK → ∃ resok ∈ res.resok,
        ProcNum.ResokBounded .READDIRPLUS resok ∧ SameCookieverf host resok.cookieverf) := by
  apply listing_same_iff encoder aligned res
  · exact fun resok => .later fun _ => .later fun _ => resok.reply.serialize_checks
  · exact fun resok fits => .later fun _ => .later fun _ => .here (xdrDirlistplus3Internal_checks encoder _ fits)
  · exact fun resok taken => .cons (xdrPostOpAttr_emits encoder _) <| .cons (xdrCookieverf_emits encoder host _) <|
      .cons (xdrDirlistplus3Internal_emits encoder _ taken) .done
  · exact fun pos resok fits => resok.serialize_emits fits
  · exact readdirplus_agreement host

theorem Tirpc.writeRes_same_iff (uninit : Verifier) (res : WRITE3res) :
    SameOutput lib (xdrWRITE3res lib .XDR_ENCODE uninit res) (Res.serialize WRITE3resok.serialize res) stream buf ↔
      res.status ≠ .NFS3_OK := by
  apply verified_same_iff encoder aligned res
  · exact fun resok => .cons (xdrPostOpAttr_emits encoder _) <| .cons (encoder.uInt _) <|
      .cons (xdrWord_emits encoder _) <| .cons (xdrVerifier_emits encoder _) .done
  · exact fun pos resok => resok.serialize_emits
  · intro resok empty
    have lengths := congrArg List.length empty
    simp [resok.verf.eight] at lengths
  · intro resok wires
    have verfs := List.append_cancel_left (List.append_cancel_left (List.append_cancel_left wires))
    exact resok.verf.data_ne_wire_append verfs

theorem Tirpc.commitRes_same_iff (uninit : Verifier) (res : COMMIT3res) :
    SameOutput lib (xdrCOMMIT3res lib .XDR_ENCODE uninit res) (Res.serialize COMMIT3resok.serialize res) stream buf ↔
      res.status ≠ .NFS3_OK := by
  apply verified_same_iff encoder aligned res
  · exact fun resok => .cons (xdrPostOpAttr_emits encoder _) <| .cons (xdrVerifier_emits encoder _) .done
  · exact fun pos resok => resok.serialize_emits
  · intro resok empty
    have lengths := congrArg List.length empty
    simp [resok.verf.eight] at lengths
  · intro resok wires
    exact resok.verf.data_ne_wire_append (List.append_cancel_left wires)

end

end

/-- The builds never agree on a write or create verifier. They agree on a cookie verifier when the
memory of the host holds its big-endian bytes. -/
theorem Tirpc.verifiers_agree_iff {σ : Type} (lib : Libtirpc σ) (encoder : Rfc4506Encoder lib) (host : ByteOrder)
    (uninit : Verifier) (stream : σ) (buf : XdrBuffer) (aligned : 4 ∣ buf.buffer.length) :
    (∀ verf : Writeverf3, ¬ SameOutput lib (xdrWriteverf3 lib .XDR_ENCODE verf) verf.serialize stream buf) ∧
    (∀ verf : Createverf3, ¬ SameOutput lib (xdrCreateverf3 lib .XDR_ENCODE verf) verf.serialize stream buf) ∧
    (∀ res, SameOutput lib (ProcNum.xdrRes lib host .XDR_ENCODE uninit .WRITE res)
      (ProcNum.serializeRes .WRITE res) stream buf ↔ res.status ≠ .NFS3_OK) ∧
    (∀ res, SameOutput lib (ProcNum.xdrRes lib host .XDR_ENCODE uninit .COMMIT res)
      (ProcNum.serializeRes .COMMIT res) stream buf ↔ res.status ≠ .NFS3_OK) ∧
    (∀ args, SameOutput lib (ProcNum.xdrArgs lib host .XDR_ENCODE .READDIR args)
      (ProcNum.serializeArgs .READDIR args) stream buf ↔
        HandleBounded args.dir ∧ SameCookieverf host args.cookieverf) ∧
    (∀ args, SameOutput lib (ProcNum.xdrArgs lib host .XDR_ENCODE .READDIRPLUS args)
      (ProcNum.serializeArgs .READDIRPLUS args) stream buf ↔
        HandleBounded args.dir ∧ SameCookieverf host args.cookieverf) ∧
    (∀ res, SameOutput lib (ProcNum.xdrRes lib host .XDR_ENCODE uninit .READDIR res)
      (ProcNum.serializeRes .READDIR res) stream buf ↔ (res.status = .NFS3_OK → ∃ resok ∈ res.resok,
        ProcNum.ResokBounded .READDIR resok ∧ SameCookieverf host resok.cookieverf)) ∧
    (∀ res, SameOutput lib (ProcNum.xdrRes lib host .XDR_ENCODE uninit .READDIRPLUS res)
      (ProcNum.serializeRes .READDIRPLUS res) stream buf ↔ (res.status = .NFS3_OK → ∃ resok ∈ res.resok,
        ProcNum.ResokBounded .READDIRPLUS resok ∧ SameCookieverf host resok.cookieverf)) :=
  ⟨verifier_differs encoder aligned, verifier_differs encoder aligned, writeRes_same_iff encoder aligned uninit,
    commitRes_same_iff encoder aligned uninit, readdirArgs_same_iff encoder aligned host,
    readdirplusArgs_same_iff encoder aligned host, readdirRes_same_iff encoder aligned host,
    readdirplusRes_same_iff encoder aligned host⟩

theorem Tirpc.verifiers_agree_small :
    SameOutput memoryLibrary
      (ProcNum.xdrArgs memoryLibrary .littleEndian .XDR_ENCODE .READDIR ⟨⟨[1, 2]⟩, 3, 0, 4096⟩)
        (ProcNum.serializeArgs .READDIR ⟨⟨[1, 2]⟩, 3, 0, 4096⟩) {} XdrBuffer.empty ∧
      SameOutput memoryLibrary
        (ProcNum.xdrArgs memoryLibrary .bigEndian .XDR_ENCODE .READDIR ⟨⟨[1, 2]⟩, 3, 7, 4096⟩)
        (ProcNum.serializeArgs .READDIR ⟨⟨[1, 2]⟩, 3, 7, 4096⟩) {} XdrBuffer.empty := by
  obtain ⟨_, _, _, _, little, _⟩ :=
    verifiers_agree_iff memoryLibrary memoryLibrary_encoder .littleEndian .zero {} XdrBuffer.empty ⟨0, rfl⟩
  obtain ⟨_, _, _, _, big, _⟩ :=
    verifiers_agree_iff memoryLibrary memoryLibrary_encoder .bigEndian .zero {} XdrBuffer.empty ⟨0, rfl⟩
  exact ⟨(little _).mpr ⟨show 2 ≤ 64 by decide, .inr (by decide)⟩,
    (big _).mpr ⟨show 2 ≤ 64 by decide, .inl rfl⟩⟩

/-- A little-endian host sends the verifier 1 with its bytes reversed, and a write verifier without its length. -/
theorem Tirpc.reversed_verifier_differs :
    ¬ SameOutput memoryLibrary
        (xdrREADDIR3args memoryLibrary .littleEndian .XDR_ENCODE ⟨⟨[1, 2]⟩, 3, 1, 4096⟩)
        (READDIR3args.serialize ⟨⟨[1, 2]⟩, 3, 1, 4096⟩) {} XdrBuffer.empty ∧
      ¬ SameOutput memoryLibrary (xdrWriteverf3 memoryLibrary .XDR_ENCODE .zero) (Verifier.serialize .zero) {}
        XdrBuffer.empty := by
  constructor
  · rw [readdirArgs_same_iff memoryLibrary_encoder ⟨0, rfl⟩]
    intro held
    obtain ⟨_, same⟩ := held
    rcases same with big | reversed
    · exact nomatch big
    · exact absurd reversed (by decide)
  · exact verifier_differs memoryLibrary_encoder ⟨0, rfl⟩ .zero

end Nfs3Rpc
