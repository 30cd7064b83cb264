import Nfs3Rpc.Format.Tirpc.Mount
import Nfs3Rpc.Proof.Builtin.Mount
import Nfs3Rpc.Proof.Tirpc.Decoding

namespace Nfs3Rpc
open Encoding Builtin

theorem OpaqueText.short {data text : Bytes} (named : OpaqueText data text) : Short data := by
  obtain ⟨short, _⟩ := named
  exact short

theorem NamesText.groups {names : List Bytes} {text : Bytes} (named : NamesText names text) : GroupsText text := by
  induction named with
  | stop => exact GroupsText.stop
  | name set named rest inner => simpa using GroupsText.group set named inner

theorem GroupsText.names {text : Bytes} (groups : GroupsText text) : ∃ names, NamesText names text := by
  induction groups with
  | stop => exact ⟨[], NamesText.stop⟩
  | @group flag name text later set named rest inner =>
      obtain ⟨names, listed⟩ := inner
      exact ⟨name :: names, by simpa using NamesText.name set named listed⟩

theorem GroupNames.part {names : List Bytes} {part : Bytes} (listed : GroupNames names part) : GroupPart part := by
  cases listed with
  | absent => exact GroupPart.absent
  | present set named => exact GroupPart.present set named.groups

theorem GroupPart.names {part : Bytes} (listed : GroupPart part) : ∃ names, GroupNames names part := by
  cases listed with
  | absent => exact ⟨[], GroupNames.absent⟩
  | present set groups =>
      obtain ⟨names, named⟩ := groups.names
      exact ⟨names, GroupNames.present set named⟩

theorem ListText.paths {exports : List Export} {text : Bytes} (listed : ListText exports text) :
    ExportsText (exports.map Export.dir) text := by
  induction listed with
  | stop => exact ExportsText.stop
  | last set named groups => simpa using ExportsText.last set named groups.part
  | more set named groups setAgain rest inner => simpa using ExportsText.more set named groups.part setAgain inner

theorem ExportsText.list {dirs : List Bytes} {text : Bytes} (exports : ExportsText dirs text) :
    ∃ list, ListText list text ∧ dirs = list.map Export.dir := by
  induction exports with
  | stop => exact ⟨[], ListText.stop, rfl⟩
  | @last flag dir text groups set named listed =>
      obtain ⟨names, part⟩ := listed.names
      exact ⟨[⟨dir, names⟩], by simpa using ListText.last set named part, rfl⟩
  | @more flag again dir text groups later dirs set named listed setAgain rest inner =>
      obtain ⟨names, part⟩ := listed.names
      obtain ⟨list, behind, same⟩ := inner
      exact ⟨⟨dir, names⟩ :: list, by simpa using ListText.more set named part setAgain behind,
        by rw [same]; rfl⟩

/-- The built-in decoder returns the paths of the export list that the body starts with. -/
theorem xdrUnpackExports_ok_iff_list (body : Bytes) (dirs : List Bytes) :
    xdrUnpackExports body [] = .ok dirs ↔ ∃ exports, HoldsList exports body ∧ dirs = exports.map Export.dir := by
  rw [xdrUnpackExports_ok_iff]
  constructor
  · intro holds
    obtain ⟨text, rest, exports, split⟩ := holds
    obtain ⟨list, listed, same⟩ := exports.list
    exact ⟨list, ⟨text, rest, listed, split⟩, same⟩
  · intro holds
    obtain ⟨exports, ⟨text, rest, listed, split⟩, rfl⟩ := holds
    exact ⟨text, rest, listed.paths, split⟩

theorem unpackInt32_finds : Finds XdrBuffer.reading unpackInt32 fun value bytes => bytes = be32 value.toUInt32 :=
  Finds.bind (fetch_finds 4) fun _ _ found => Finds.pure (by
    rw [List.append_nil, found.1, UInt32.toUInt32_toInt32, be32_leadingWord found.2])

theorem unpackFlavors_found (count : Nat) :
    Finds XdrBuffer.reading (unpackFlavors count) fun flavors bytes =>
      flavors.length = count ∧ bytes = flavorsWire flavors := by
  induction count with
  | zero => exact Finds.pure ⟨rfl, rfl⟩
  | succ count inner =>
      rw [unpackFlavors]
      apply Finds.field unpackInt32_finds
      intro flavor
      apply Finds.bind inner
      rintro later _ ⟨counted, rfl⟩
      exact Finds.pure ⟨by simp [counted], by simp [flavorsWire]⟩

theorem unpackFlavors_reads (flavors : List Int32) :
    Reads XdrBuffer.reading (unpackFlavors flavors.length) (flavorsWire flavors) (· = flavors) := by
  induction flavors with
  | nil => exact Reads.pure rfl
  | cons flavor later inner =>
      have wire : flavorsWire (flavor :: later) = [be32 flavor.toUInt32, flavorsWire later].flatten := by
        simp [flavorsWire]
      rw [wire, List.length_cons, unpackFlavors]
      apply Reads.field (unpackInt32_reads flavor)
      exact Reads.field inner (Reads.done rfl)

/-- The built-in decoder returns the reply that the body starts with. -/
theorem xdrUnpackFhstatus_ok_iff (body : Bytes) (fhs : FhstatusNative) :
    xdrUnpackFhstatus body = .ok fhs ↔ ∃ text rest, FhstatusText fhs text ∧ body = text ++ rest := by
  rw [xdrUnpackFhstatus, unpackFrom_ok_iff]
  constructor
  · intro returns
    obtain ⟨last, runs⟩ := returns
    obtain ⟨status, middle, reads, continues⟩ := ok_of_bind_ok runs
    obtain ⟨_, tail, rfl, rfl, placed⟩ := unpackUint32_finds _ [] body status middle rfl reads
    by_cases success : status = 0
    · subst success
      rw [if_pos (beq_self_eq_true _)] at continues
      obtain ⟨handle, text, afterText, named, rfl, countRuns⟩ :=
        unpackOpaque_found (fun _ => (unpackUint32_cuts 0).starves.bind) placed continues
      obtain ⟨count, countAt, readsCount, flavorsRun⟩ := ok_of_bind_ok countRuns
      obtain ⟨_, tail, rfl, rfl, atCount⟩ := unpackUint32_finds _ _ afterText count countAt rfl readsCount
      obtain ⟨flavors, flavorsAt, readsFlavors, finishes⟩ := ok_of_bind_ok flavorsRun
      obtain ⟨_, rest, rfl, ⟨listed, rfl⟩, _⟩ :=
        unpackFlavors_found _ countAt _ tail flavors flavorsAt atCount readsFlavors
      obtain ⟨rfl, _⟩ := EStateM.Result.ok.inj finishes
      exact ⟨_, rest, FhstatusText.mounted named listed, by simp⟩
    · rw [if_neg (by simpa using success)] at continues
      obtain ⟨rfl, _⟩ := EStateM.Result.ok.inj continues
      exact ⟨_, tail, FhstatusText.refused success, rfl⟩
  · intro holds
    obtain ⟨text, rest, reply, rfl⟩ := holds
    have reads : Reads XdrBuffer.reading unpackFhstatus text (· = fhs) := by
      cases reply with
      | @refused status failed =>
          apply Reads.ending (unpackUint32_reads status)
          rw [if_neg (by simpa using failed)]
          exact Reads.pure rfl
      | @mounted handle text count flavors named listed =>
          apply Reads.bind (unpackUint32_reads 0)
          intro status same
          rw [same, if_pos (beq_self_eq_true _)]
          apply Reads.bind named.reads
          intro data sameData
          apply Reads.bind (unpackUint32_reads count)
          intro word sameWord
          rw [sameData, sameWord, ← listed]
          exact Reads.ending (unpackFlavors_reads flavors) (Reads.pure rfl)
    obtain ⟨value, last, runs, rfl, _⟩ := reads ⟨text ++ rest, 0⟩ [] rest rfl
    exact ⟨last, runs⟩

end Nfs3Rpc

namespace Nfs3Rpc.Tirpc
open Encoding

variable {σ : Type} {lib : MountLibrary σ} {input : σ → Bytes}

theorem room_null : CharPtr.null.room = none := if_pos rfl

theorem room_heap (block : Bytes) : (CharPtr.heap block).room = some block.length := if_neg nofun

/-- The memory of the names keeps its size when a name goes into it. -/
theorem room_refilled {ptr : CharPtr} {name : Bytes} (fits : RoomFor ptr.room name) :
    (CharPtr.heap (name ++ 0 :: ptr.memory.drop (name.length + 1))).room = kept ptr.room name := by
  rw [room_heap, kept]
  cases ptr with
  | null => simp [room_null, CharPtr.memory]
  | heap block =>
      have inside : name.length < block.length := fits _ (room_heap block)
      simp only [room_heap, CharPtr.memory, List.length_append, List.length_cons, List.length_drop,
        Option.getD_some]
      congr 1
      omega
  | inner block =>
      have inside : name.length < block.length := fits _ rfl
      simp only [CharPtr.room, CharPtr.memory, List.length_append, List.length_cons, List.length_drop, reduceCtorEq,
        if_false, Option.getD_some]
      congr 1
      omega

theorem xdrFhstatus_decodes : xdrFhstatus lib .XDR_DECODE {} = lib.xdrUInt .XDR_DECODE 0 >>= fun fhsStatus =>
    if fhsStatus == 0 then
      (lib.xdrBytes .XDR_DECODE .null 0 64 >>= fun decoded => assign decoded.1 decoded.2) >>= fun fhsFhandle =>
        lib.xdrUInt .XDR_DECODE 0 >>= fun authCount =>
          takeFlavors lib .XDR_DECODE [] (min authCount.toNat 10) >>= fun authFlavors =>
            pure { fhsStatus, fhsFhandle, authFlavors }
    else pure { fhsStatus } := by
  simp only [bind_assoc]
  rfl

/-- The path of a string from the library is cut at its first zero byte. -/
theorem pushPath_decoded (result : List Bytes) (s : Bytes) :
    pushPath result (.heap (s ++ [0])) = (pure (result ++ shownPaths [s]) : Filter σ (List Bytes)) := by
  have terminated : 0 ∈ (CharPtr.heap (s ++ [0])).memory := cStr_terminated s
  have cut : (stringFrom (.heap (s ++ [0])) : Filter σ Bytes) = pure (s.takeWhile (· != 0)) := by
    rw [stringFrom, if_pos terminated, CharPtr.memory, takeWhile_terminated]
  rw [pushPath, cut]
  cases s with
  | nil => simp [startsText, shownPaths]
  | cons first later =>
      by_cases zero : first = 0
      · simp [startsText, shownPaths, zero]
      · simp [startsText, shownPaths, zero]

theorem shownPaths_append (first second : List Bytes) :
    shownPaths (first ++ second) = shownPaths first ++ shownPaths second := by
  simp [shownPaths]

theorem xdrExports_succ (result : List Bytes) (rounds : Nat) :
    xdrExports lib result (rounds + 1) = lib.xdrBool .XDR_DECODE false >>= fun hasEntry =>
      if hasEntry then
        (lib.xdrString .XDR_DECODE .null 1024 >>= pushPath result) >>= fun paths =>
          (lib.xdrBool .XDR_DECODE false >>= xdrGroupList lib) >>= fun _ =>
            lib.xdrBool .XDR_DECODE true >>= fun more =>
              if more then xdrExports lib paths rounds else pure paths
      else pure result := by
  rw [xdrExports]
  simp only [bind_assoc]

/-- The decoder takes such an export. -/
def EntryFits (entry : Export) : Prop := entry.dir.length ≤ 1024 ∧ NamesFit none entry.groups

section
variable (decoder : MountDecoder lib input)
include decoder

theorem takeFlavors_parses (turns : Nat) (authFlavors : List Int32) (stream : σ) :
    Parses input .returnFalse .invalidMemory (takeFlavors lib .XDR_DECODE authFlavors turns)
      (fun result bytes => ∃ flavors, flavors.length = turns ∧ result = authFlavors ++ flavors ∧
        bytes = flavorsWire flavors) (fun _ => False) stream := by
  induction turns generalizing authFlavors stream with
  | zero =>
      apply (Parses.pure authFlavors).congr
      · intro result bytes
        constructor
        · rintro ⟨flavors, none, rfl, rfl⟩
          rw [List.length_eq_zero_iff.mp none]
          exact ⟨List.append_nil _, rfl⟩
        · rintro ⟨rfl, rfl⟩
          exact ⟨[], rfl, (List.append_nil _).symm, rfl⟩
      · exact fun _ => Iff.rfl
  | succ turns inner =>
      apply (Parses.after (decoder.int 0 stream) fun flavor _ middle _ _ =>
        inner (authFlavors ++ [flavor]) middle).congr
      · intro result bytes
        constructor
        · rintro ⟨flavors, counted, rfl, rfl⟩
          obtain ⟨flavor, later, rfl⟩ := List.exists_of_length_succ flavors counted
          exact ⟨flavor, be32 flavor.toUInt32, flavorsWire later, rfl,
            ⟨later, by simpa using counted, by simp, rfl⟩,
            by simp [flavorsWire]⟩
        · rintro ⟨flavor, _, _, rfl, ⟨later, counted, rfl, rfl⟩, rfl⟩
          exact ⟨flavor :: later, by simpa using counted, by simp, by simp [flavorsWire]⟩
      · intro body
        simp

/-- The vector takes the bytes that the library has put into the memory. -/
theorem handle_parses (stream : σ) :
    Parses input .returnFalse .invalidMemory
      (lib.xdrBytes .XDR_DECODE .null 0 64 >>= fun decoded => assign decoded.1 decoded.2)
      (fun data bytes => OpaqueText data bytes ∧ data.length ≤ 64) (fun _ => False) stream := by
  have assigned : ∀ (data bytes : Bytes), OpaqueText data bytes →
      (assign (if data = [] then .null else .heap data) (UInt32.ofNat data.length) : Filter σ Bytes) = pure data :=
    fun data bytes named => assign_decoded data named.short
  apply ((decoder.bytes 0 64 stream).converting ?_).congr
  · intro data bytes
    constructor
    · rintro ⟨named, bounded⟩
      exact ⟨_, ⟨data, named, bounded, rfl⟩, assigned data bytes named⟩
    · rintro ⟨_, ⟨found, named, bounded, rfl⟩, same⟩
      have equal : found = data := by
        have results := congrFun ((assigned found bytes named).symm.trans same) stream
        exact (EStateM.Result.ok.inj results).1
      rw [← equal]
      exact ⟨named, bounded⟩
  · exact fun _ => Iff.rfl
  · rintro _ bytes ⟨data, named, _, rfl⟩
    exact ⟨data, assigned data bytes named⟩

/-- The handle, the count and the flavors follow the status zero. -/
theorem mounted_parses (fhsStatus : UInt32) (stream : σ) :
    Parses input .returnFalse .invalidMemory
      ((lib.xdrBytes .XDR_DECODE .null 0 64 >>= fun decoded => assign decoded.1 decoded.2) >>= fun fhsFhandle =>
        lib.xdrUInt .XDR_DECODE 0 >>= fun authCount =>
          takeFlavors lib .XDR_DECODE [] (min authCount.toNat 10) >>= fun authFlavors =>
            pure (Fhstatus.mk fhsStatus fhsFhandle authFlavors))
      (fun obj bytes => ∃ handle text count flavors, OpaqueText handle text ∧ handle.length ≤ 64 ∧
        flavors.length = min count.toNat 10 ∧ obj = ⟨fhsStatus, handle, flavors⟩ ∧
        bytes = text ++ (be32 count ++ flavorsWire flavors)) (fun _ => False) stream := by
  have composed := (handle_parses decoder stream).after fun fhsFhandle _ middle _ _ =>
    (decoder.uInt 0 middle).after fun authCount _ reached _ _ =>
      (takeFlavors_parses decoder (min authCount.toNat 10) [] reached).after fun authFlavors _ last _ _ =>
        @Parses.pure _ _ _ input FilterError.returnFalse FilterError.invalidMemory last
          (Fhstatus.mk fhsStatus fhsFhandle authFlavors)
  apply composed.congr
  · intro obj bytes
    constructor
    · rintro ⟨handle, text, count, flavors, named, bounded, listed, rfl, rfl⟩
      exact ⟨handle, text, _, ⟨named, bounded⟩, ⟨count, _, _, rfl, ⟨flavors, flavorsWire flavors, [],
        ⟨flavors, listed, rfl, rfl⟩, ⟨rfl, rfl⟩, (List.append_nil _).symm⟩, rfl⟩, rfl⟩
    · rintro ⟨handle, text, _, ⟨named, bounded⟩,
        ⟨count, _, _, rfl, ⟨_, _, _, ⟨flavors, listed, rfl, rfl⟩, ⟨rfl, rfl⟩,
        rfl⟩, rfl⟩, rfl⟩
      exact ⟨handle, text, count, _, named, bounded, listed, rfl, by simp⟩
  · intro body
    simp

theorem xdrFhstatus_parses (stream : σ) :
    Parses input .returnFalse .invalidMemory (xdrFhstatus lib .XDR_DECODE {})
      (fun obj bytes => ∃ fhs, FhstatusText fhs bytes ∧ fhs.fhandle.length ≤ 64 ∧
        obj = ⟨fhs.status, fhs.fhandle, fhs.authFlavors⟩) (fun _ => False) stream where
  takes := by
    rintro _ _ rest ⟨fhs, reply, bounded, rfl⟩ split
    rw [xdrFhstatus_decodes]
    cases reply with
    | @refused status failed =>
        obtain ⟨middle, reads, left⟩ := (decoder.uInt 0 stream).takes status _ rest rfl split
        refine ⟨middle, ?_, left⟩
        rw [bind_of_ok reads, if_neg (by simpa using failed)]
        rfl
    | @mounted handle text count flavors named listed =>
        rw [List.append_assoc] at split
        obtain ⟨middle, reads, left⟩ := (decoder.uInt 0 stream).takes 0 _ _ rfl split
        rw [bind_of_ok reads, if_pos (beq_self_eq_true _)]
        exact (mounted_parses decoder 0 middle).takes _ _ rest
          ⟨handle, text, count, flavors, named, bounded, listed, rfl, rfl⟩ left
  stops := False.elim
  refuses := by
    intro nothing _
    rw [xdrFhstatus_decodes]
    by_cases readable : ∃ status rest, input stream = be32 status ++ rest
    · obtain ⟨status, rest, split⟩ := readable
      obtain ⟨middle, reads, left⟩ := (decoder.uInt 0 stream).takes status _ rest rfl split
      rw [bind_of_ok reads]
      by_cases success : status = 0
      · subst success
        rw [if_pos (beq_self_eq_true _)]
        apply (mounted_parses decoder 0 middle).refuses
        · rintro _ _ remainder ⟨handle, text, count, flavors, named, bounded, listed, rfl, rfl⟩ same
          apply nothing _ _ remainder ⟨_, FhstatusText.mounted named listed, bounded, rfl⟩
          rw [split, ← left, same]
          simp only [List.append_assoc]
        · exact id
      · exact absurd split (nothing _ _ rest ⟨_, FhstatusText.refused success, Nat.zero_le _, rfl⟩)
    · have unreadable : ∀ status bytes rest, bytes = be32 status → input stream ≠ bytes ++ rest :=
        fun status bytes rest same split => readable ⟨status, rest, same ▸ split⟩
      obtain ⟨last, fails⟩ := (decoder.uInt 0 stream).refuses unreadable id
      exact ⟨last, bind_of_error fails⟩

/-- Each turn reads a word, so the rounds last as long as the input. -/
theorem xdrGroups_parses (rounds : Nat) (grp : CharPtr) (outside : ∀ block, grp ≠ .inner block) (stream : σ)
    (covered : (input stream).length < rounds) :
    Parses input .returnFalse .invalidMemory (xdrGroups lib grp rounds)
      (fun _ bytes => ∃ names, NamesText names bytes ∧ NamesFit grp.room names) (NamesOutgrow grp.room) stream := by
  induction rounds generalizing grp stream with
  | zero => exact absurd covered (Nat.not_lt_zero _)
  | succ rounds inner =>
      have later : ∀ middle, (input middle).length < (input stream).length → ∀ got bytes reached,
          (∃ s, OpaqueText s bytes ∧ s.length ≤ 256 ∧ RoomFor grp.room s ∧
            got = .heap (s ++ 0 :: grp.memory.drop (s.length + 1))) → input middle = bytes ++ input reached →
          Parses input .returnFalse .invalidMemory (xdrGroups lib got rounds)
            (fun _ bytes => ∃ names, NamesText names bytes ∧ NamesFit got.room names) (NamesOutgrow got.room)
            reached := by
        rintro middle shorter got bytes reached ⟨s, _, _, _, rfl⟩ split
        have shortened := congrArg List.length split
        rw [List.length_append] at shortened
        exact inner _ (by simp) reached (by omega)
      apply (Parses.flag (decoder.bool false stream)
        (fun middle shorter => (decoder.string grp 256 outside middle).bind (later middle shorter))
        fun middle _ => Parses.pure ()).congr
      · intro result bytes
        constructor
        · rintro ⟨names, listed, fit⟩
          cases listed with
          | stop => exact .inl ⟨[], ⟨rfl, rfl⟩, rfl⟩
          | @name flag name text tail names set named rest =>
              obtain ⟨within, room, fit⟩ := fit
              refine .inr ⟨flag, text ++ tail, set, ?_, rfl⟩
              exact ⟨_, text, tail, ⟨name, named, within, room, rfl⟩,
                ⟨names, rest, by rwa [room_refilled room]⟩, rfl⟩
        · rintro (⟨_, ⟨_, rfl⟩, rfl⟩ | ⟨flag, _, set, ⟨_, text, tail, ⟨name, named, within, room, rfl⟩,
            ⟨names, rest, fit⟩, rfl⟩, rfl⟩)
          · exact ⟨[], NamesText.stop, trivial⟩
          · rw [room_refilled room] at fit
            exact ⟨name :: names, NamesText.name set named rest, within, room, fit⟩
      · intro body
        constructor
        · intro outgrown
          generalize same : grp.room = room at outgrown
          cases outgrown with
          | @here flag len size rest set within outgrown =>
              exact .inr ⟨flag, be32 len ++ rest, set, rfl, .inl ⟨len, rest, rfl, within, size, rfl, outgrown⟩⟩
          | @later flag _ name text rest set named within fits outgrown =>
              have room : RoomFor grp.room name := same ▸ fits
              refine .inr ⟨flag, text ++ rest, set, rfl, .inr ?_⟩
              exact ⟨_, text, rest, ⟨name, named, within, fits, rfl⟩, rfl, by rwa [room_refilled room, same]⟩
        · rintro (⟨_, _, broken⟩ | ⟨flag, rest, set, rfl, ⟨len, rest, rfl, within, size, room, outgrown⟩ |
            ⟨_, text, rest, ⟨name, named, within, room, rfl⟩, rfl, outgrown⟩⟩)
          · exact broken.elim
          · rw [room]
            exact NamesOutgrow.here set within outgrown
          · rw [room_refilled room] at outgrown
            exact NamesOutgrow.later set named within room outgrown

theorem groupList_parses (stream : σ) :
    Parses input .returnFalse .invalidMemory (lib.xdrBool .XDR_DECODE false >>= xdrGroupList lib)
      (fun _ bytes => ∃ names, GroupNames names bytes ∧ NamesFit none names)
      (fun body => ∃ flag rest, flag ≠ 0 ∧ body = be32 flag ++ rest ∧ NamesOutgrow none rest) stream := by
  have groups : ∀ middle, (input middle).length < (input stream).length →
      Parses input .returnFalse .invalidMemory (get >>= fun reached => xdrGroups lib .null (lib.unread reached + 1))
        (fun _ bytes => ∃ names, NamesText names bytes ∧ NamesFit none names) (NamesOutgrow none) middle := by
    intro middle _
    apply Parses.looking
    exact xdrGroups_parses decoder _ .null (by simp) middle (by rw [decoder.unread]; omega)
  apply (Parses.flag (decoder.bool false stream) groups fun middle _ => Parses.pure ()).congr
  · intro result bytes
    constructor
    · rintro ⟨names, listed, fit⟩
      cases listed with
      | absent => exact .inl ⟨[], ⟨rfl, rfl⟩, rfl⟩
      | @present flag _ text set named => exact .inr ⟨flag, text, set, ⟨names, named, fit⟩, rfl⟩
    · rintro (⟨_, ⟨_, rfl⟩, rfl⟩ | ⟨flag, text, set, ⟨names, named, fit⟩, rfl⟩)
      · exact ⟨[], GroupNames.absent, trivial⟩
      · exact ⟨names, GroupNames.present set named, fit⟩
  · intro body
    simp

theorem path_parses (result : List Bytes) (stream : σ) :
    Parses input .returnFalse .invalidMemory (lib.xdrString .XDR_DECODE .null 1024 >>= pushPath result)
      (fun final bytes => ∃ dir, OpaqueText dir bytes ∧ dir.length ≤ 1024 ∧ final = result ++ shownPaths [dir])
      (fun _ => False) stream := by
  have pushed : ∀ got bytes, (∃ s, OpaqueText s bytes ∧ s.length ≤ 1024 ∧ RoomFor CharPtr.null.room s ∧
      got = .heap (s ++ 0 :: CharPtr.null.memory.drop (s.length + 1))) →
      ∃ final, (pushPath result got : Filter σ (List Bytes)) = pure final := by
    rintro _ bytes ⟨s, _, _, _, rfl⟩
    exact ⟨_, pushPath_decoded result s⟩
  apply ((decoder.string .null 1024 (by simp) stream).converting pushed).congr
  · intro final bytes
    constructor
    · rintro ⟨dir, named, within, rfl⟩
      exact ⟨_, ⟨dir, named, within, by simp [RoomFor, room_null], rfl⟩, pushPath_decoded result dir⟩
    · rintro ⟨_, ⟨dir, named, within, _, rfl⟩, same⟩
      have results := congrFun ((pushPath_decoded result dir).symm.trans same) stream
      exact ⟨dir, named, within, (EStateM.Result.ok.inj results).1.symm⟩
  · intro body
    simp [room_null]

theorem xdrExports_parses (rounds : Nat) (result : List Bytes) (stream : σ)
    (covered : (input stream).length < rounds) :
    Parses input .returnFalse .invalidMemory (xdrExports lib result rounds)
      (fun paths bytes => ∃ exports, ListText exports bytes ∧ (∀ entry ∈ exports, EntryFits entry) ∧
        paths = result ++ shownPaths (exports.map Export.dir)) ExportsOutgrow stream := by
  induction rounds generalizing result stream with
  | zero => exact absurd covered (Nat.not_lt_zero _)
  | succ rounds inner =>
      have element : ∀ middle, (input middle).length < (input stream).length → _ := fun middle shorter =>
        (path_parses decoder result middle).after fun paths bytes reached _ split =>
          (groupList_parses decoder reached).bind fun _ groups listed _ divided =>
            Parses.flag (decoder.bool true listed) (fun last smaller => inner paths last (by
              have whole := congrArg List.length split
              have rest := congrArg List.length divided
              rw [List.length_append] at whole rest
              omega)) fun last _ => Parses.pure paths
      rw [xdrExports_succ]
      apply (Parses.flag (decoder.bool false stream) element fun middle _ => Parses.pure result).congr
      · intro final bytes
        constructor
        · rintro ⟨exports, listed, fits, rfl⟩
          cases listed with
          | stop => exact .inl ⟨[], ⟨by simp [shownPaths], rfl⟩, rfl⟩
          | @last flag dir text groups names set named listed =>
              obtain ⟨within, fit⟩ := fits _ List.mem_cons_self
              refine .inr ⟨flag, text ++ (groups ++ be32 0), set, ?_, rfl⟩
              exact ⟨_, text, groups ++ be32 0, ⟨dir, named, within, rfl⟩,
                ⟨(), groups, be32 0, ⟨names, listed, fit⟩,
                .inl ⟨[], ⟨rfl, rfl⟩, rfl⟩, rfl⟩, rfl⟩
          | @more flag again dir text groups later names exports set named listed setAgain rest =>
              obtain ⟨⟨within, fit⟩, fits⟩ := List.forall_mem_cons.mp fits
              have paths : result ++ shownPaths ((Export.mk dir names :: exports).map Export.dir) =
                  result ++ shownPaths [dir] ++ shownPaths (exports.map Export.dir) := by
                rw [List.append_assoc, ← shownPaths_append]
                rfl
              refine .inr ⟨flag, text ++ (groups ++ (be32 again ++ later)), set, ?_, rfl⟩
              exact ⟨_, text, groups ++ (be32 again ++ later), ⟨dir, named, within, rfl⟩, ⟨(), groups,
                be32 again ++ later, ⟨names, listed, fit⟩,
                .inr ⟨again, later, setAgain, ⟨exports, rest, fits, paths⟩, rfl⟩, rfl⟩, rfl⟩
        · rintro (⟨_, ⟨rfl, rfl⟩, rfl⟩ |
            ⟨flag, _, set, ⟨_, text, _, ⟨dir, named, within, rfl⟩, ⟨_, groups, _,
            ⟨names, listed, fit⟩, behind, rfl⟩, rfl⟩, rfl⟩)
          · exact ⟨[], ListText.stop, List.forall_mem_nil _, by simp [shownPaths]⟩
          · rcases behind with ⟨_, ⟨rfl, rfl⟩, rfl⟩ |
              ⟨again, later, setAgain, ⟨exports, rest, fits, rfl⟩, rfl⟩
            · refine ⟨[⟨dir, names⟩], ListText.last set named listed, ?_, rfl⟩
              exact List.forall_mem_singleton.mpr ⟨within, fit⟩
            · refine ⟨⟨dir, names⟩ :: exports, ListText.more set named listed setAgain rest, ?_, ?_⟩
              · exact List.forall_mem_cons.mpr ⟨⟨within, fit⟩, fits⟩
              · rw [List.append_assoc, ← shownPaths_append]
                rfl
      · intro body
        constructor
        · intro outgrown
          cases outgrown with
          | @here flag listed dir text rest set named within setGroups outgrown =>
              refine .inr ⟨flag, text ++ (be32 listed ++ rest), set, rfl, ?_⟩
              exact ⟨_, text, be32 listed ++ rest, ⟨dir, named, within, rfl⟩, rfl,
                .inl ⟨listed, rest, setGroups, rfl, outgrown⟩⟩
          | @later flag again dir text groups rest names set named within listed fits setAgain outgrown =>
              refine .inr ⟨flag, text ++ (groups ++ (be32 again ++ rest)), set, rfl, ?_⟩
              exact ⟨_, text, groups ++ (be32 again ++ rest), ⟨dir, named, within, rfl⟩, rfl,
                .inr ⟨(), groups, be32 again ++ rest, ⟨names, listed, fits⟩, rfl,
                  .inr ⟨again, rest, setAgain, rfl, outgrown⟩⟩⟩
        · rintro (⟨_, _, broken⟩ | ⟨flag, _, set, rfl, _, text, _, ⟨dir, named, within, rfl⟩, rfl, behind⟩)
          · exact broken.elim
          · rcases behind with ⟨listed, rest, setGroups, rfl, outgrown⟩ |
              ⟨_, groups, _, ⟨names, listed, fit⟩, rfl,
              ⟨_, _, broken⟩ | ⟨again, rest, setAgain, rfl, outgrown⟩⟩
            · exact ExportsOutgrow.here set named within setGroups outgrown
            · exact broken.elim
            · exact ExportsOutgrow.later set named within listed fit setAgain outgrown

theorem xdrExportsList_parses (stream : σ) :
    Parses input .returnFalse .invalidMemory (xdrExportsList lib [])
      (fun paths bytes => ∃ exports, ListText exports bytes ∧ (∀ entry ∈ exports, EntryFits entry) ∧
        paths = shownPaths (exports.map Export.dir)) ExportsOutgrow stream := by
  apply Parses.looking
  exact xdrExports_parses decoder _ [] stream (by rw [decoder.unread]; omega)

end

end Nfs3Rpc.Tirpc
