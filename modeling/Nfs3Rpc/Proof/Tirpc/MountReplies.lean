import Nfs3Rpc.Proof.Tirpc.MemoryLibrary
import Nfs3Rpc.Proof.Tirpc.Mount

namespace Nfs3Rpc.Tirpc
open Encoding

variable {σ : Type} {lib : MountLibrary σ} {input : σ → Bytes}

theorem NamesFit.within {room : Option Nat} {names : List Bytes} (fit : NamesFit room names) :
    ∀ name ∈ names, name.length ≤ 256 := by
  induction names generalizing room with
  | nil => exact List.forall_mem_nil _
  | cons name names inner =>
      obtain ⟨within, _, fit⟩ := fit
      exact List.forall_mem_cons.mpr ⟨within, inner fit⟩

/-- A name that finds no room outgrows the memory of the names. -/
theorem NamesOutgrow.of_no_room {room : Option Nat} {flag : UInt32} {name text rest : Bytes} (set : flag ≠ 0)
    (named : OpaqueText name text) (within : name.length ≤ 256) (crowded : ¬ RoomFor room name) :
    NamesOutgrow room (be32 flag ++ (text ++ rest)) := by
  unfold RoomFor at crowded
  push Not at crowded
  obtain ⟨size, same, outgrown⟩ := crowded
  obtain rfl : room = some size := same
  obtain ⟨short, _⟩ := named
  have count : (UInt32.ofNat name.length).toNat = name.length := UInt32.toNat_ofNat_of_lt' short
  simp only [List.flatten_cons, List.append_assoc]
  exact NamesOutgrow.here set (by rw [count]; exact within) (by rw [count]; exact outgrown)

theorem NamesFit.of_within {names : List Bytes} {text rest : Bytes} (listed : NamesText names text)
    {room : Option Nat} (within : ∀ name ∈ names, name.length ≤ 256)
    (sound : ¬ NamesOutgrow room (text ++ rest)) : NamesFit room names := by
  induction listed generalizing room with
  | stop => exact trivial
  | @name flag name text later names set named listed inner =>
      obtain ⟨bounded, within⟩ := List.forall_mem_cons.mp within
      rw [List.append_assoc, List.append_assoc] at sound
      have fits : RoomFor room name := by
        by_contra crowded
        exact sound (NamesOutgrow.of_no_room set named bounded crowded)
      refine ⟨bounded, fits, inner within ?_⟩
      intro outgrown
      exact sound (NamesOutgrow.later set named bounded fits outgrown)

theorem EntryFits.within {entry : Export} (fits : EntryFits entry) : entry.WithinLimits :=
  ⟨fits.1, fits.2.within⟩

/-- A list within the limits fits unless a group name outgrows the first one of its list. -/
theorem EntryFits.of_within {exports : List Export} {text rest : Bytes} (listed : ListText exports text)
    (within : ∀ entry ∈ exports, entry.WithinLimits) (sound : ¬ ExportsOutgrow (text ++ rest)) :
    ∀ entry ∈ exports, EntryFits entry := by
  have part : ∀ {flag : UInt32} {dir text groups later : Bytes} {names : List Bytes}, flag ≠ 0 →
      OpaqueText dir text → GroupNames names groups → (Export.mk dir names).WithinLimits →
      ¬ ExportsOutgrow (be32 flag ++ (text ++ (groups ++ later))) → EntryFits ⟨dir, names⟩ := by
    intro flag dir text groups later names set named listed within sound
    refine ⟨within.1, ?_⟩
    cases listed with
    | absent => exact trivial
    | @present flag names text setGroups groups =>
        apply NamesFit.of_within groups within.2
        intro outgrown
        rw [List.append_assoc] at sound
        exact sound (ExportsOutgrow.here set named within.1 setGroups outgrown)
  induction listed with
  | stop => exact List.forall_mem_nil _
  | @last flag dir text groups names set named listed =>
      simp only [List.append_assoc] at sound
      exact List.forall_mem_singleton.mpr (part set named listed (within _ List.mem_cons_self) sound)
  | @more flag again dir text groups later names exports set named listed setAgain behind inner =>
      simp only [List.append_assoc] at sound
      obtain ⟨first, within⟩ := List.forall_mem_cons.mp within
      have fits : EntryFits ⟨dir, names⟩ := part set named listed first sound
      refine List.forall_mem_cons.mpr ⟨fits, inner within ?_⟩
      intro outgrown
      exact sound (ExportsOutgrow.later set named fits.1 listed fits.2 setAgain outgrown)

section
variable (decoder : MountDecoder lib input)
include decoder

theorem xdrExportsList_takes {exports : List Export} {stream : σ} (sound : ¬ ExportsOutgrow (input stream))
    (holds : HoldsList exports (input stream)) (within : ∀ entry ∈ exports, entry.WithinLimits) :
    ∃ last, xdrExportsList lib [] stream = .ok (shownPaths (exports.map Export.dir)) last := by
  obtain ⟨text, rest, listed, split⟩ := holds
  have fits := EntryFits.of_within listed within (split ▸ sound)
  obtain ⟨last, runs, _⟩ :=
    (xdrExportsList_parses decoder stream).takes _ text rest ⟨exports, listed, fits, rfl⟩ split
  exact ⟨last, runs⟩

theorem xdrExportsList_refuses {stream : σ} (sound : ¬ ExportsOutgrow (input stream))
    (beyond : ¬ HoldsListWithin (input stream)) : ReturnsFalse (xdrExportsList lib []) stream := by
  apply (xdrExportsList_parses decoder stream).refuses _ sound
  rintro _ text rest ⟨exports, listed, fits, rfl⟩ split
  exact beyond ⟨exports, ⟨text, rest, listed, split⟩, fun entry member => (fits entry member).within⟩

theorem xdrFhstatus_takes {fhs : FhstatusNative} {stream : σ} (returns : xdrUnpackFhstatus (input stream) = .ok fhs)
    (bounded : fhs.fhandle.length ≤ 64) :
    ∃ last, xdrFhstatus lib .XDR_DECODE {} stream = .ok ⟨fhs.status, fhs.fhandle, fhs.authFlavors⟩ last := by
  obtain ⟨text, rest, reply, split⟩ := (xdrUnpackFhstatus_ok_iff _ _).mp returns
  obtain ⟨last, runs, _⟩ :=
    (xdrFhstatus_parses decoder stream).takes _ text rest ⟨fhs, reply, bounded, rfl⟩ split
  exact ⟨last, runs⟩

theorem xdrFhstatus_refuses {stream : σ}
    (beyond : ∀ fhs, xdrUnpackFhstatus (input stream) = .ok fhs → 64 < fhs.fhandle.length) :
    ReturnsFalse (xdrFhstatus lib .XDR_DECODE {}) stream := by
  apply (xdrFhstatus_parses decoder stream).refuses _ id
  rintro _ text rest ⟨fhs, reply, bounded, rfl⟩ split
  have long := beyond fhs ((xdrUnpackFhstatus_ok_iff _ _).mpr ⟨text, rest, reply, split⟩)
  omega

/-- The decoders of both builds take the same replies, apart from the bounds of the libtirpc build, and return the
same reply, apart from the paths that this build cuts and leaves out. -/
theorem mount_decoders_agree (stream : σ) :
    (¬ ExportsOutgrow (input stream) →
      (∀ dirs, xdrUnpackExports (input stream) [] = .ok dirs →
        (HoldsListWithin (input stream) → ∃ last, xdrExportsList lib [] stream = .ok (shownPaths dirs) last) ∧
        (¬ HoldsListWithin (input stream) → ReturnsFalse (xdrExportsList lib []) stream)) ∧
      (∀ error, xdrUnpackExports (input stream) [] = .error error →
        ReturnsFalse (xdrExportsList lib []) stream)) ∧
    (∀ fhs, xdrUnpackFhstatus (input stream) = .ok fhs →
      (fhs.fhandle.length ≤ 64 → ∃ last,
        xdrFhstatus lib .XDR_DECODE {} stream = .ok ⟨fhs.status, fhs.fhandle, fhs.authFlavors⟩ last) ∧
      (64 < fhs.fhandle.length → ReturnsFalse (xdrFhstatus lib .XDR_DECODE {}) stream)) ∧
    (∀ error, xdrUnpackFhstatus (input stream) = .error error →
      ReturnsFalse (xdrFhstatus lib .XDR_DECODE {}) stream) := by
  refine ⟨fun sound => ⟨fun dirs returns => ⟨?_, xdrExportsList_refuses decoder sound⟩, ?_⟩,
    fun fhs returns => ⟨xdrFhstatus_takes decoder returns, ?_⟩, ?_⟩
  · intro within
    obtain ⟨exports, holds, within⟩ := within
    have same := (xdrUnpackExports_ok_iff_list _ _).mpr ⟨exports, holds, rfl⟩
    obtain rfl : dirs = exports.map Export.dir := Except.ok.inj (returns.symm.trans same)
    exact xdrExportsList_takes decoder sound holds within
  · intro error fails
    apply xdrExportsList_refuses decoder sound
    intro within
    obtain ⟨exports, holds, _⟩ := within
    have returns := (xdrUnpackExports_ok_iff_list _ _).mpr ⟨exports, holds, rfl⟩
    rw [fails] at returns
    cases returns
  · intro long
    apply xdrFhstatus_refuses decoder
    intro other again
    obtain rfl : fhs = other := Except.ok.inj (returns.symm.trans again)
    exact long
  · intro error fails
    apply xdrFhstatus_refuses decoder
    intro fhs returns
    rw [fails] at returns
    cases returns

end

/-- These primitives follow RFC 4506 on a stream in memory; a string puts its last zero byte first. -/
def memoryMountLibrary : MountLibrary MemoryStream :=
  { memoryLibrary with
    xdrString := fun op ptr maxsize =>
      match op with
      | .XDR_DECODE => do
          let word ← getBytes 4
          if maxsize < leadingWord word then
            throw .returnFalse
          else if ptr.room.any (· ≤ (leadingWord word).toNat) then
            throw .invalidMemory
          else
            let data ← getPadded (leadingWord word).toNat
            return .heap (data ++ 0 :: ptr.memory.drop (data.length + 1))
      | op => memoryLibrary.xdrString op ptr maxsize
    xdrBool := fun op value =>
      match op with
      | .XDR_ENCODE => do putBytes (be32 (if value then 1 else 0)); return value
      | .XDR_DECODE => do return leadingWord (← getBytes 4) != 0
      | .XDR_FREE => return value }

theorem getBytes_parses (count : Nat) (stream : MemoryStream) :
    Parses MemoryStream.unread FilterError.returnFalse FilterError.invalidMemory (getBytes count)
      (fun data bytes => bytes = data ∧ data.length = count) (fun _ => False) stream where
  takes := by
    rintro data _ rest ⟨rfl, rfl⟩ split
    obtain ⟨found, next, runs, rfl, left⟩ := getBytes_reads _ stream [] rest split
    exact ⟨next, runs, left⟩
  stops := False.elim
  refuses := by
    intro nothing _
    have short : ¬ count ≤ stream.unread.length := by
      intro enough
      exact nothing (stream.unread.take count) _ (stream.unread.drop count)
        ⟨rfl, List.length_take_of_le enough⟩ (List.take_append_drop _ _).symm
    refine ⟨stream, ?_⟩
    rw [getBytes, get_bind, if_neg short]
    rfl

/-- The bytes behind the data are dropped. -/
theorem getPadded_parses (count : Nat) (stream : MemoryStream) :
    Parses MemoryStream.unread FilterError.returnFalse FilterError.invalidMemory (getPadded count)
      (fun data bytes => data.length = count ∧ ∃ skipped : Bytes, skipped.length = padding count ∧
        bytes = data ++ skipped) (fun _ => False) stream := by
  have composed := (getBytes_parses count stream).after fun data _ middle _ _ =>
    (getBytes_parses (padding count) middle).after fun _ _ last _ _ => Parses.pure data
  apply composed.congr
  · intro data bytes
    constructor
    · rintro ⟨counted, skipped, padded, rfl⟩
      exact ⟨data, data, skipped, ⟨rfl, counted⟩, ⟨skipped, skipped, [], ⟨rfl, padded⟩, ⟨rfl, rfl⟩,
        (List.append_nil _).symm⟩, rfl⟩
    · rintro ⟨_, _, _, ⟨rfl, counted⟩, ⟨skipped, _, _, ⟨same, padded⟩, ⟨rfl, rfl⟩, rfl⟩, rfl⟩
      exact ⟨counted, skipped, padded, by rw [same, List.append_nil]⟩
  · intro body
    simp

theorem leadingWord_text (word : UInt32) : leadingWord (be32 word) = word := by simpa using leadingWord_be32 word []

theorem getWord_parses (stream : MemoryStream) :
    Parses MemoryStream.unread FilterError.returnFalse FilterError.invalidMemory (getBytes 4)
      (fun data bytes => ∃ word, data = be32 word ∧ bytes = be32 word) (fun _ => False) stream := by
  apply (getBytes_parses 4 stream).congr
  · intro data bytes
    constructor
    · rintro ⟨word, rfl, rfl⟩
      exact ⟨rfl, be32_length word⟩
    · rintro ⟨rfl, four⟩
      exact ⟨leadingWord bytes, (be32_leadingWord four).symm, (be32_leadingWord four).symm⟩
  · exact fun _ => Iff.rfl

/-- A program that only converts its first word takes that word. -/
theorem word_parses {α : Type} (f : UInt32 → α) (stream : MemoryStream) :
    Parses MemoryStream.unread FilterError.returnFalse FilterError.invalidMemory
      (getBytes 4 >>= fun word => pure (f (leadingWord word)))
      (fun value bytes => ∃ word, value = f word ∧ bytes = be32 word) (fun _ => False) stream := by
  apply ((getWord_parses stream).after fun word _ middle _ _ => Parses.pure (f (leadingWord word))).congr
  · intro value bytes
    constructor
    · rintro ⟨word, rfl, rfl⟩
      exact ⟨be32 word, be32 word, [], ⟨word, rfl, rfl⟩, ⟨by rw [leadingWord_text], rfl⟩,
        (List.append_nil _).symm⟩
    · rintro ⟨_, _, _, ⟨word, rfl, rfl⟩, ⟨rfl, rfl⟩, rfl⟩
      exact ⟨word, by rw [leadingWord_text], List.append_nil _⟩
  · intro body
    simp

/-- The length word and the padded data behind it make up the text of the data. -/
theorem opaqueText_iff (data bytes : Bytes) : OpaqueText data bytes ↔ ∃ word : UInt32, ∃ skipped : Bytes,
    data.length = word.toNat ∧ skipped.length = padding data.length ∧ bytes = be32 word ++ (data ++ skipped) := by
  constructor
  · rintro ⟨short, padded⟩
    exact ⟨_, _, (UInt32.toNat_ofNat_of_lt' short).symm, padded, by simp⟩
  · rintro ⟨word, skipped, counted, padded, rfl⟩
    have short : Short data := by
      unfold Short
      rw [counted]
      exact word.toNat_lt
    have same : UInt32.ofNat data.length = word := by rw [counted, UInt32.ofNat_toNat]
    simpa [same] using OpaqueText.whole short padded

/-- A program that continues by a length word takes an opaque text when it takes the padded data behind that word. -/
theorem counted_parses {α : Type} (next : UInt32 → Filter MemoryStream α) {accepts : Bytes → α → Prop}
    {breaks : UInt32 → Prop} (stream : MemoryStream)
    (behind : ∀ word middle, Parses MemoryStream.unread FilterError.returnFalse FilterError.invalidMemory (next word)
      (fun got tail => ∃ data skipped : Bytes, data.length = word.toNat ∧ skipped.length = padding data.length ∧
        tail = data ++ skipped ∧ accepts data got) (fun _ => breaks word) middle) :
    Parses MemoryStream.unread FilterError.returnFalse FilterError.invalidMemory
      (getBytes 4 >>= fun word => next (leadingWord word))
      (fun got text => ∃ data, OpaqueText data text ∧ accepts data got)
      (fun body => ∃ len rest, body = be32 len ++ rest ∧ breaks len) stream := by
  apply ((getWord_parses stream).after fun word _ middle _ _ => behind (leadingWord word) middle).congr
  · intro got text
    constructor
    · rintro ⟨data, named, accepted⟩
      obtain ⟨word, skipped, counted, padded, rfl⟩ := (opaqueText_iff data text).mp named
      refine ⟨be32 word, be32 word, data ++ skipped, ⟨word, rfl, rfl⟩, ?_, rfl⟩
      rw [leadingWord_text]
      exact ⟨data, skipped, counted, padded, rfl, accepted⟩
    · rintro ⟨_, _, _, ⟨word, rfl, rfl⟩, written, rfl⟩
      rw [leadingWord_text] at written
      obtain ⟨data, skipped, counted, padded, rfl, accepted⟩ := written
      exact ⟨data, (opaqueText_iff data _).mpr ⟨word, skipped, counted, padded, rfl⟩, accepted⟩
  · intro body
    constructor
    · rintro ⟨len, rest, rfl, broken⟩
      refine ⟨be32 len, be32 len, rest, ⟨len, rfl, rfl⟩, rfl, ?_⟩
      rw [leadingWord_text]
      exact broken
    · rintro ⟨_, _, rest, ⟨len, rfl, rfl⟩, rfl, broken⟩
      rw [leadingWord_text] at broken
      exact ⟨len, rest, rfl, broken⟩

/-- A length word above the bound is refused. -/
theorem bounded_parses {α : Type} {maxsize word : UInt32} {next : Filter MemoryStream α}
    {accepts : Bytes → α → Prop} {breaks : Prop} {middle : MemoryStream}
    (within : word.toNat ≤ maxsize.toNat →
      Parses MemoryStream.unread FilterError.returnFalse FilterError.invalidMemory next
        (fun got tail => ∃ data skipped : Bytes, data.length = word.toNat ∧ skipped.length = padding data.length ∧
          tail = data ++ skipped ∧ accepts data got) (fun _ => breaks) middle) :
    Parses MemoryStream.unread FilterError.returnFalse FilterError.invalidMemory
      (if maxsize < word then throw .returnFalse else next)
      (fun got tail => ∃ data skipped : Bytes, data.length = word.toNat ∧ skipped.length = padding data.length ∧
        tail = data ++ skipped ∧ data.length ≤ maxsize.toNat ∧ accepts data got)
      (fun _ => word.toNat ≤ maxsize.toNat ∧ breaks) middle := by
  by_cases long : maxsize < word
  · rw [if_pos long]
    have beyond := UInt32.lt_iff_toNat_lt.mp long
    apply Parses.refusing.congr
    · intro got tail
      simp only [iff_false]
      rintro ⟨data, skipped, counted, _, _, inside, _⟩
      omega
    · intro body
      simp only [iff_false]
      omega
  · rw [if_neg long]
    have inside : word.toNat ≤ maxsize.toNat := UInt32.le_iff_toNat_le.mp (UInt32.not_lt.mp long)
    apply (within inside).congr
    · intro got tail
      constructor
      · rintro ⟨data, skipped, counted, padded, same, _, accepted⟩
        exact ⟨data, skipped, counted, padded, same, accepted⟩
      · rintro ⟨data, skipped, counted, padded, same, accepted⟩
        exact ⟨data, skipped, counted, padded, same, counted ▸ inside, accepted⟩
    · intro body
      exact and_iff_right inside

/-- After the length word comes a string whose memory is checked before it is read. -/
theorem string_parses (ptr : CharPtr) (maxsize : UInt32) (stream : MemoryStream) :
    Parses MemoryStream.unread FilterError.returnFalse FilterError.invalidMemory
      (memoryMountLibrary.xdrString .XDR_DECODE ptr maxsize)
      (fun got text => ∃ s, OpaqueText s text ∧ s.length ≤ maxsize.toNat ∧ RoomFor ptr.room s ∧
        got = .heap (s ++ 0 :: ptr.memory.drop (s.length + 1)))
      (fun body => ∃ len rest, body = be32 len ++ rest ∧ len.toNat ≤ maxsize.toNat ∧
        ∃ size ∈ ptr.room, size ≤ len.toNat) stream := by
  apply counted_parses (fun word => if maxsize < word then throw .returnFalse
    else if ptr.room.any (· ≤ word.toNat) then throw .invalidMemory
    else getPadded word.toNat >>= fun data => pure (CharPtr.heap (data ++ 0 :: ptr.memory.drop (data.length + 1))))
      stream
  intro word middle
  apply bounded_parses
  intro _
  have check : ptr.room.any (· ≤ word.toNat) = true ↔ ∃ size ∈ ptr.room, size ≤ word.toNat := by
    cases ptr.room <;> simp
  by_cases crowded : ∃ size ∈ ptr.room, size ≤ word.toNat
  · rw [if_pos (check.mpr crowded)]
    apply Parses.breaking.congr
    · intro got tail
      simp only [iff_false]
      rintro ⟨s, skipped, counted, _, _, room, _⟩
      obtain ⟨size, same, small⟩ := crowded
      have inside := room size same
      omega
    · intro body
      exact iff_true_intro crowded
  · rw [if_neg (mt check.mp crowded)]
    apply ((getPadded_parses word.toNat middle).converting fun data _ _ => ⟨_, rfl⟩).congr
    · intro got tail
      constructor
      · rintro ⟨s, skipped, counted, padded, rfl, _, rfl⟩
        exact ⟨s, ⟨counted, skipped, counted ▸ padded, rfl⟩, rfl⟩
      · rintro ⟨s, ⟨counted, skipped, padded, rfl⟩, same⟩
        have equal := (EStateM.Result.ok.inj (congrFun same middle)).1
        refine ⟨s, skipped, counted, counted ▸ padded, rfl, ?_, equal.symm⟩
        intro size member
        push Not at crowded
        rw [counted]
        exact crowded size member
    · intro body
      exact iff_false_intro crowded

/-- An empty byte string needs no memory. -/
theorem bytes_parses (len maxsize : UInt32) (stream : MemoryStream) :
    Parses MemoryStream.unread FilterError.returnFalse FilterError.invalidMemory
      (memoryMountLibrary.xdrBytes .XDR_DECODE .null len maxsize)
      (fun got text => ∃ data, OpaqueText data text ∧ data.length ≤ maxsize.toNat ∧
        got = (if data = [] then .null else .heap data, UInt32.ofNat data.length)) (fun _ => False) stream := by
  have behind : ∀ word : UInt32, ∀ middle, Parses MemoryStream.unread FilterError.returnFalse
      FilterError.invalidMemory
      (if maxsize < word then throw .returnFalse
        else if word = 0 then pure (CharPtr.null, word)
        else getPadded word.toNat >>= fun data => pure (CharPtr.heap data, word))
      (fun got tail => ∃ data skipped : Bytes, data.length = word.toNat ∧ skipped.length = padding data.length ∧
        tail = data ++ skipped ∧ data.length ≤ maxsize.toNat ∧
        got = (if data = [] then .null else .heap data, UInt32.ofNat data.length))
      (fun _ => word.toNat ≤ maxsize.toNat ∧ False) middle := by
    intro word middle
    apply bounded_parses
    intro _
    by_cases zero : word = 0
    · subst zero
      rw [if_pos rfl]
      apply (Parses.pure _).congr
      · intro got tail
        constructor
        · rintro ⟨data, skipped, counted, padded, rfl, rfl⟩
          obtain rfl : data = [] := List.length_eq_zero_iff.mp counted
          obtain rfl : skipped = [] := List.length_eq_zero_iff.mp padded
          exact ⟨rfl, rfl⟩
        · rintro ⟨rfl, rfl⟩
          exact ⟨[], [], rfl, rfl, rfl, rfl⟩
      · exact fun _ => Iff.rfl
    · rw [if_neg zero]
      have filled : ∀ data : Bytes, data.length = word.toNat → data ≠ [] := by
        rintro _ counted rfl
        exact zero (UInt32.toNat_inj.mp counted.symm)
      apply ((getPadded_parses word.toNat middle).converting fun data _ _ => ⟨_, rfl⟩).congr
      · intro got tail
        constructor
        · rintro ⟨data, skipped, counted, padded, rfl, rfl⟩
          refine ⟨data, ⟨counted, skipped, counted ▸ padded, rfl⟩, ?_⟩
          rw [if_neg (filled data counted), counted, UInt32.ofNat_toNat]
        · rintro ⟨data, ⟨counted, skipped, padded, rfl⟩, same⟩
          have equal := (EStateM.Result.ok.inj (congrFun same middle)).1
          refine ⟨data, skipped, counted, counted ▸ padded, rfl, ?_⟩
          rw [if_neg (filled data counted), counted, UInt32.ofNat_toNat]
          exact equal.symm
      · exact fun _ => Iff.rfl
  apply (counted_parses _ stream behind).congr
  · exact fun _ _ => Iff.rfl
  · intro body
    simp

theorem memoryMountLibrary_decoder : MountDecoder memoryMountLibrary MemoryStream.unread where
  unread stream := rfl
  uInt start stream := by
    apply (word_parses id stream).congr
    · intro value bytes
      simp
    · exact fun _ => Iff.rfl
  int start stream := by
    apply (word_parses UInt32.toInt32 stream).congr
    · intro value bytes
      constructor
      · rintro rfl
        exact ⟨value.toUInt32, rfl, rfl⟩
      · rintro ⟨word, rfl, rfl⟩
        rfl
    · exact fun _ => Iff.rfl
  bool start stream := word_parses (· != 0) stream
  bytes len maxsize stream := bytes_parses len maxsize stream
  string ptr maxsize outside stream := string_parses ptr maxsize stream

/-- An export list with the path "/a" goes through both decoders. -/
theorem mount_decoders_agree_small : ∃ last, xdrExportsList memoryMountLibrary []
    ⟨[], [0, 0, 0, 1, 0, 0, 0, 2, 47, 97, 0, 0, 0, 0, 0, 0, 0, 0, 0, 0]⟩ = .ok (shownPaths [[47, 97]]) last := by
  have sound : ¬ ExportsOutgrow [0, 0, 0, 1, 0, 0, 0, 2, 47, 97, 0, 0, 0, 0, 0, 0, 0, 0, 0, 0] := by
    intro outgrown
    obtain ⟨last, fails⟩ := (xdrExportsList_parses memoryMountLibrary_decoder
      ⟨[], [0, 0, 0, 1, 0, 0, 0, 2, 47, 97, 0, 0, 0, 0, 0, 0, 0, 0, 0, 0]⟩).stops outgrown
    have runs : xdrExportsList memoryMountLibrary []
        ⟨[], [0, 0, 0, 1, 0, 0, 0, 2, 47, 97, 0, 0, 0, 0, 0, 0, 0, 0, 0, 0]⟩ = .ok [[47, 97]] ⟨[], []⟩ := rfl
    rw [runs] at fails
    cases fails
  have path : OpaqueText [47, 97] [0, 0, 0, 2, 47, 97, 0, 0] :=
    @OpaqueText.whole [47, 97] [0, 0] (by decide) rfl
  have within : HoldsListWithin [0, 0, 0, 1, 0, 0, 0, 2, 47, 97, 0, 0, 0, 0, 0, 0, 0, 0, 0, 0] := by
    refine ⟨[⟨[47, 97], []⟩], ⟨_, [], @ListText.last 1 _ _ _ _ (by decide) path GroupNames.absent, rfl⟩, ?_⟩
    exact List.forall_mem_singleton.mpr ⟨by decide, List.forall_mem_nil _⟩
  exact (((mount_decoders_agree memoryMountLibrary_decoder
    ⟨[], [0, 0, 0, 1, 0, 0, 0, 2, 47, 97, 0, 0, 0, 0, 0, 0, 0, 0, 0, 0]⟩).1 sound).1 _ rfl).1 within

/-- The path "" of an export stays in one list and is missing from the other; a handle of 65 bytes is taken by one
decoder and refused by the other. -/
theorem mount_decoders_differ : MountDecoder memoryMountLibrary MemoryStream.unread ∧
    (xdrUnpackExports [0, 0, 0, 1, 0, 0, 0, 0, 0, 0, 0, 0, 0, 0, 0, 0] [] = .ok [[]] ∧
      xdrExportsList memoryMountLibrary [] ⟨[], [0, 0, 0, 1, 0, 0, 0, 0, 0, 0, 0, 0, 0, 0, 0, 0]⟩ =
        .ok [] ⟨[], []⟩) ∧
    xdrUnpackFhstatus ([0, 0, 0, 0, 0, 0, 0, 65] ++ List.replicate 68 0 ++ [0, 0, 0, 0]) =
      .ok ⟨0, List.replicate 65 0, []⟩ ∧
    ReturnsFalse (xdrFhstatus memoryMountLibrary .XDR_DECODE {})
      ⟨[], [0, 0, 0, 0, 0, 0, 0, 65] ++ List.replicate 68 0 ++ [0, 0, 0, 0]⟩ := by
  exact ⟨memoryMountLibrary_decoder, ⟨rfl, rfl⟩, rfl, _, rfl⟩

end Nfs3Rpc.Tirpc
