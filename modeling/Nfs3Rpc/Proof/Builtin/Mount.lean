import Nfs3Rpc.Format.Mount
import Nfs3Rpc.Proof.Builtin.Cuts
import Nfs3Rpc.Proof.Builtin.Depth
import Nfs3Rpc.Proof.Builtin.Directory

namespace Nfs3Rpc
open Encoding Builtin SimpleRpc

theorem unpackGroups_spends (unread : Nat) : Spends XdrBuffer.left (unpackGroups unread) 0 fun _ => 0 := by
  induction unread with
  | zero => exact Spends.free unpackBool_spends fun _ => Spends.pure (Nat.le_refl 0)
  | succ unread later =>
      rw [unpackGroups]
      apply Spends.free unpackBool_spends
      intro hasGrp
      cases hasGrp with
      | true => exact Spends.free unpackString_spends fun _ => later
      | false => exact Spends.pure (Nat.le_refl 0)

theorem unpackGroupList_spends (hasGroups : Bool) :
    Spends XdrBuffer.left (unpackGroupList hasGroups) 0 fun _ => 0 := by
  cases hasGroups with
  | true => exact unreadBytes_spends unpackGroups_spends
  | false => exact Spends.pure (Nat.le_refl 0)

/-- Each path takes two flags, a length word, and the flag of its groups. -/
theorem unpackExports_spends (unread : Nat) (out : List Bytes) :
    Spends XdrBuffer.left (unpackExports unread out) (16 * out.length) (16 * ·.length) := by
  induction unread generalizing out with
  | zero => exact Spends.free unpackBool_spends fun _ => Spends.pure (Nat.le_refl _)
  | succ unread later =>
      rw [unpackExports]
      apply Spends.bind unpackBool_spends
      intro hasEntry
      cases hasEntry with
      | false => exact Spends.pure (Nat.le_add_right _ _)
      | true =>
          have grown : ∀ dir : Bytes, (out ++ [dir]).length = out.length + 1 := fun _ => List.length_append
          apply Spends.bind unpackString_spends
          intro dir
          apply Spends.bind unpackBool_spends
          intro hasGroups
          apply Spends.free (unpackGroupList_spends hasGroups)
          intro _
          apply Spends.bind unpackBool_spends
          intro more
          have credit : 16 * out.length + 4 + 4 + 4 + 4 = 16 * (out ++ [dir]).length := by
            rw [grown]
            omega
          rw [credit]
          cases more with
          | true => exact later (out ++ [dir])
          | false => exact Spends.pure (Nat.le_refl _)

theorem groupsBody_guarded : Guarded XdrBuffer.left groupsBody := by
  intro bound call other same index
  apply SameBelow.after (unpackBool_spends.weaken fun _ => by decide)
  intro hasGrp
  cases hasGrp with
  | true => exact SameBelow.step unpackString_spends fun _ => same ()
  | false => exact SameBelow.refl _ _

theorem exportsBody_guarded : Guarded XdrBuffer.left exportsBody := by
  intro bound call other same out
  apply SameBelow.after (unpackBool_spends.weaken fun _ => by decide)
  intro hasEntry
  cases hasEntry with
  | false => exact SameBelow.refl _ _
  | true =>
      apply SameBelow.step unpackString_spends
      intro dir
      apply SameBelow.step unpackBool_spends
      intro hasGroups
      apply SameBelow.step (unpackGroupList_spends hasGroups)
      intro _
      apply SameBelow.step unpackBool_spends
      intro more
      cases more with
      | true => exact same (out ++ [dir])
      | false => exact SameBelow.refl _ _

theorem unpackGroups_settles (buf : XdrBuffer) : Settles groupsBody () buf (unpackGroups buf.left buf) := by
  apply @Settles.of_levels _ _ _ _ XdrBuffer.left groupsBody (fun level _ => unpackGroups level)
    groupsBody_guarded
  · intro level
    rfl
  · intro call index state none
    exact bind_of_none_left unpackBool_spends (by decide) none
  · exact Nat.le_refl _

theorem unpackExports_settles (out : List Bytes) (buf : XdrBuffer) :
    Settles exportsBody out buf (unpackExports buf.left out buf) := by
  apply @Settles.of_levels _ _ _ _ XdrBuffer.left exportsBody unpackExports exportsBody_guarded
  · intro level
    rfl
  · intro call index state none
    exact bind_of_none_left unpackBool_spends (by decide) none
  · exact Nat.le_refl _

/-- The decoder throws or returns paths that the input has paid for, and both loops end from every cursor. -/
theorem xdrUnpackExports_ends (data : Bytes) :
    ((∃ error, xdrUnpackExports data [] = .error error) ∨
      ∃ paths, xdrUnpackExports data [] = .ok paths ∧ 16 * paths.length ≤ data.length + 3) ∧
    (∀ pos, Settles groupsBody () ⟨data, pos⟩ ((unreadBytes >>= unpackGroups) ⟨data, pos⟩)) ∧
    (∀ out pos, Settles exportsBody out ⟨data, pos⟩
      ((unreadBytes >>= fun unread => unpackExports unread out) ⟨data, pos⟩)) := by
  refine ⟨?_, fun pos => unpackGroups_settles ⟨data, pos⟩, fun out pos =>
    unpackExports_settles out ⟨data, pos⟩⟩
  unfold xdrUnpackExports unpackFrom
  cases runs : (unreadBytes >>= fun unread => unpackExports unread []) ⟨data, 0⟩ with
  | error error last => exact .inl ⟨error, rfl⟩
  | ok paths last =>
      have paid : last.left + 16 * paths.length ≤ data.length + 0 :=
        unreadBytes_spends (fun unread => unpackExports_spends unread []) ⟨data, 0⟩ paths last runs
      exact .inr ⟨paths, rfl, by omega⟩

theorem unpackBool_starves : Starves XdrBuffer.reading XdrBuffer.past unpackBool := (unpackBool_cuts false).starves

/-- A read after a byte string shows that the byte string had its padding. -/
theorem unpackOpaque_found {β : Type} {next : Bytes → Xdr β} {buf last : XdrBuffer}
    {before rest : Bytes} {final : β}
    (starves : ∀ data, Starves XdrBuffer.reading XdrBuffer.past (next data))
    (placed : XdrBuffer.reading buf before rest) (runs : (unpackOpaque >>= next) buf = .ok final last) :
    ∃ data text tail, OpaqueText data text ∧ rest = text ++ tail ∧
      next data ⟨(before ++ text) ++ tail, (before ++ text).length⟩ = .ok final last := by
  obtain ⟨result, reached, reads, continues⟩ := ok_of_bind_ok runs
  obtain ⟨len, afterWord, readsWord, readsData⟩ := ok_of_bind_ok reads
  obtain ⟨word, tail, rfl, rfl, placed⟩ := unpackUint32_finds buf before rest len afterWord placed readsWord
  obtain ⟨found, afterData, fetches, skips⟩ := ok_of_bind_ok readsData
  obtain ⟨data, tail, rfl, ⟨taken, size⟩, rfl⟩ := fetch_finds _ afterWord _ tail found afterData placed fetches
  obtain ⟨same, rfl⟩ := EStateM.Result.ok.inj skips
  rw [← same, ← taken] at continues
  rw [← taken] at size
  have word : len = UInt32.ofNat data.length := by
    rw [size, UInt32.ofNat_toNat]
  have short : Short data := by
    unfold Short
    rw [size]
    exact len.toNat_lt
  by_cases whole : padding len.toNat ≤ tail.length
  · have count : (tail.take (padding len.toNat)).length = padding data.length := by
      rw [List.length_take_of_le whole, size]
    refine ⟨data, _, tail.drop (padding len.toNat), OpaqueText.whole short count, ?_, ?_⟩
    · rw [← word]
      simp
    · rw [← word, ← continues]
      congr 2
      · simp
      · simp [List.length_take_of_le whole, Nat.add_assoc]
  · have beyond : XdrBuffer.past
        ⟨before ++ be32 len ++ data ++ tail, (before ++ be32 len ++ data).length + padding len.toNat⟩ := by
      unfold XdrBuffer.past
      simp only [List.length_append]
      omega
    obtain ⟨error, stopped, fails⟩ := starves data _ (.inl beyond)
    exact nomatch continues.symm.trans fails

theorem OpaqueText.reads {data text : Bytes} (named : OpaqueText data text) :
    Reads XdrBuffer.reading unpackOpaque text (· = data) := by
  obtain ⟨short, count⟩ := named
  exact unpackOpaque_reads_padded data _ short count

theorem unpackGroups_starves (unread : Nat) :
    Starves XdrBuffer.reading XdrBuffer.past (unpackGroups unread) := by
  cases unread with
  | zero => exact unpackBool_starves.bind
  | succ unread => exact unpackBool_starves.bind

/-- What the inner loop takes is a list of groups, as long as its turns cover the bytes. -/
theorem unpackGroups_found {unread : Nat} {buf last : XdrBuffer} {before rest : Bytes}
    (covered : rest.length ≤ unread)
    (placed : XdrBuffer.reading buf before rest) (runs : unpackGroups unread buf = .ok () last) :
    ∃ text tail, GroupsText text ∧ rest = text ++ tail ∧ XdrBuffer.reading last (before ++ text) tail := by
  induction unread generalizing buf before rest with
  | zero =>
      obtain ⟨hasGrp, middle, reads, _⟩ := ok_of_bind_ok runs
      obtain ⟨_, tail, rfl, ⟨flag, rfl, _⟩, _⟩ := unpackBool_finds buf before rest hasGrp middle placed reads
      simp at covered
  | succ unread later =>
      obtain ⟨hasGrp, middle, reads, continues⟩ := ok_of_bind_ok runs
      obtain ⟨_, tail, rfl, ⟨flag, rfl, rfl⟩, placed⟩ :=
        unpackBool_finds buf before rest hasGrp middle placed reads
      by_cases zero : flag = 0
      · subst zero
        obtain ⟨_, rfl⟩ := EStateM.Result.ok.inj continues
        exact ⟨be32 0, tail, GroupsText.stop, rfl, placed⟩
      · rw [bne_iff_ne.mpr zero] at continues
        obtain ⟨name, text, tail, named, rfl, continues⟩ :=
          unpackOpaque_found (fun _ => unpackGroups_starves unread) placed continues
        obtain ⟨more, left, groups, rfl, finished⟩ := later (by simp at covered; omega) rfl continues
        exact ⟨_, left, GroupsText.group zero named groups, by simp, by simpa using finished⟩

/-- A loop whose turns cover a text with a word in it has a turn left. -/
theorem turn_left {unread : Nat} {text : Bytes} (covered : text.length ≤ unread) (word : 4 ≤ text.length) :
    ∃ left, unread = left + 1 :=
  ⟨unread - 1, by omega⟩

theorem GroupsText.reads {text : Bytes} (groups : GroupsText text) {unread : Nat} (covered : text.length ≤ unread) :
    Reads XdrBuffer.reading (unpackGroups unread) text fun _ => True := by
  induction groups generalizing unread with
  | stop =>
      obtain ⟨unread, rfl⟩ := turn_left covered (by simp)
      rw [unpackGroups]
      exact Reads.ending (unpackBool_reads_word 0) (Reads.pure trivial)
  | @group flag name text later set named groups recurse =>
      obtain ⟨unread, rfl⟩ := turn_left covered (by simp)
      rw [unpackGroups]
      apply Reads.field (unpackBool_reads_word flag)
      rw [bne_iff_ne.mpr set]
      apply Reads.field named.reads
      exact Reads.last (recurse (by simp at covered; omega))

/-- The flag before the groups and the loop after it take a group part. -/
theorem unpackGroupList_found {buf last : XdrBuffer} {before rest : Bytes}
    (placed : XdrBuffer.reading buf before rest) (runs : (unpackBool >>= unpackGroupList) buf = .ok () last) :
    ∃ part tail, GroupPart part ∧ rest = part ++ tail ∧ XdrBuffer.reading last (before ++ part) tail := by
  obtain ⟨hasGroups, middle, reads, continues⟩ := ok_of_bind_ok runs
  obtain ⟨_, tail, rfl, ⟨flag, rfl, rfl⟩, placed⟩ :=
    unpackBool_finds buf before rest hasGroups middle placed reads
  by_cases zero : flag = 0
  · subst zero
    obtain ⟨_, rfl⟩ := EStateM.Result.ok.inj continues
    exact ⟨be32 0, tail, GroupPart.absent, rfl, placed⟩
  · rw [bne_iff_ne.mpr zero] at continues
    have covered : tail.length ≤ middle.buffer.length - middle.pos := by
      rw [placed]
      simp only [List.length_append]
      omega
    obtain ⟨text, tail, groups, rfl, finished⟩ := unpackGroups_found covered placed continues
    exact ⟨_, tail, GroupPart.present zero groups, by simp, by simpa using finished⟩

theorem GroupPart.reads {part : Bytes} (listed : GroupPart part) :
    Reads XdrBuffer.reading (unpackBool >>= unpackGroupList) part fun _ => True := by
  cases listed with
  | absent => exact Reads.ending (unpackBool_reads_word 0) (Reads.pure trivial)
  | @present flag text set groups =>
      apply Reads.bind (unpackBool_reads_word flag)
      intro hasGroups same
      rw [same, bne_iff_ne.mpr set]
      apply unreadBytes_reads
      intro unread covered
      exact groups.reads covered

theorem unpackExports_succ (unread : Nat) (out : List Bytes) :
    unpackExports (unread + 1) out = unpackBool >>= fun hasEntry =>
      if hasEntry then
        unpackString >>= fun dir => (unpackBool >>= unpackGroupList) >>= fun _ => unpackBool >>= fun more =>
          if more then unpackExports unread (out ++ [dir]) else pure (out ++ [dir])
      else pure out := by
  rw [unpackExports]
  simp only [bind_assoc]

/-- What the outer loop takes is a list of paths, as long as its turns cover the bytes. -/
theorem unpackExports_found {unread : Nat} {out paths : List Bytes} {buf last : XdrBuffer} {before rest : Bytes}
    (covered : rest.length ≤ unread) (placed : XdrBuffer.reading buf before rest)
    (runs : unpackExports unread out buf = .ok paths last) :
    ∃ dirs text tail, ExportsText dirs text ∧ rest = text ++ tail ∧ paths = out ++ dirs := by
  induction unread generalizing out buf before rest with
  | zero =>
      obtain ⟨hasEntry, middle, reads, _⟩ := ok_of_bind_ok runs
      obtain ⟨_, tail, rfl, ⟨flag, rfl, _⟩, _⟩ := unpackBool_finds buf before rest hasEntry middle placed reads
      simp at covered
  | succ unread later =>
      rw [unpackExports_succ] at runs
      obtain ⟨hasEntry, middle, reads, continues⟩ := ok_of_bind_ok runs
      obtain ⟨_, tail, rfl, ⟨flag, rfl, rfl⟩, placed⟩ :=
        unpackBool_finds buf before rest hasEntry middle placed reads
      by_cases zero : flag = 0
      · subst zero
        obtain ⟨rfl, _⟩ := EStateM.Result.ok.inj continues
        exact ⟨[], be32 0, tail, ExportsText.stop, rfl, by simp⟩
      · rw [bne_iff_ne.mpr zero, if_pos rfl] at continues
        obtain ⟨dir, text, afterText, named, rfl, groupsRun⟩ :=
          unpackOpaque_found (fun _ => unpackBool_starves.bind.bind) placed continues
        obtain ⟨_, listedAt, listing, moreRuns⟩ := ok_of_bind_ok groupsRun
        obtain ⟨part, afterPart, listed, rfl, atPart⟩ := unpackGroupList_found rfl listing
        obtain ⟨more, moreAt, readsMore, finishes⟩ := ok_of_bind_ok moreRuns
        obtain ⟨_, left, rfl, ⟨again, rfl, rfl⟩, atMore⟩ :=
          unpackBool_finds listedAt _ afterPart more moreAt atPart readsMore
        by_cases stops : again = 0
        · subst stops
          obtain ⟨rfl, _⟩ := EStateM.Result.ok.inj finishes
          exact ⟨[dir], _, left, ExportsText.last zero named listed, by simp, rfl⟩
        · rw [bne_iff_ne.mpr stops, if_pos rfl] at finishes
          obtain ⟨dirs, others, behind, rest, rfl, rfl⟩ := later (by simp at covered; omega) atMore finishes
          exact ⟨_, _, behind, ExportsText.more zero named listed stops rest, by simp, by simp⟩

/-- Every element has a flag, a path, and a group part before its last flag. -/
theorem unpackExports_reads_element {flag : UInt32} {dir text groups : Bytes} {fields : List Bytes}
    {result : List Bytes → Prop} (unread : Nat) (out : List Bytes) (set : flag ≠ 0) (named : OpaqueText dir text)
    (listed : GroupPart groups)
    (rest : Reads XdrBuffer.reading (unpackBool >>= fun more =>
      if more then unpackExports unread (out ++ [dir]) else pure (out ++ [dir])) fields.flatten result) :
    Reads XdrBuffer.reading (unpackExports (unread + 1) out) (be32 flag :: text :: groups :: fields).flatten
      result := by
  rw [unpackExports_succ]
  apply Reads.field (unpackBool_reads_word flag)
  rw [bne_iff_ne.mpr set, if_pos rfl]
  apply Reads.field named.reads
  apply Reads.cons listed.reads
  intro _ _
  exact rest

theorem ExportsText.reads {dirs : List Bytes} {text : Bytes} (exports : ExportsText dirs text) {unread : Nat}
    (covered : text.length ≤ unread) (out : List Bytes) :
    Reads XdrBuffer.reading (unpackExports unread out) text (· = out ++ dirs) := by
  induction exports generalizing unread out with
  | stop =>
      obtain ⟨unread, rfl⟩ := turn_left covered (by simp)
      rw [unpackExports_succ]
      exact Reads.ending (unpackBool_reads_word 0) (Reads.pure (by simp))
  | @last flag dir text groups set named listed =>
      obtain ⟨unread, rfl⟩ := turn_left covered (by simp)
      apply unpackExports_reads_element unread out set named listed
      exact Reads.field (unpackBool_reads_word 0) (Reads.done rfl)
  | @more flag again dir text groups later dirs set named listed setAgain rest recurse =>
      obtain ⟨unread, rfl⟩ := turn_left covered (by simp)
      apply unpackExports_reads_element unread out set named listed
      apply Reads.field (unpackBool_reads_word again)
      rw [bne_iff_ne.mpr setAgain, if_pos rfl]
      apply Reads.last
      have inner : Reads XdrBuffer.reading (unpackExports unread (out ++ [dir])) later (· = out ++ [dir] ++ dirs) :=
        recurse (by simp at covered; omega) (out ++ [dir])
      exact inner.weaken fun _ same => by rw [same, List.append_assoc]; rfl

/-- The decoder returns these paths exactly when the bytes start with its layout of them. -/
theorem xdrUnpackExports_ok_iff (data : Bytes) (dirs : List Bytes) :
    xdrUnpackExports data [] = .ok dirs ↔ HoldsExports dirs data := by
  unfold xdrUnpackExports unpackFrom
  constructor
  · intro returns
    cases runs : (unreadBytes >>= fun unread => unpackExports unread []) ⟨data, 0⟩ with
    | error error last =>
        rw [runs] at returns
        exact nomatch returns
    | ok paths last =>
        rw [runs] at returns
        obtain rfl : paths = dirs := Except.ok.inj returns
        have placed : XdrBuffer.reading ⟨data, 0⟩ [] data := rfl
        obtain ⟨dirs, text, tail, exports, split, same⟩ := unpackExports_found (Nat.le_refl _) placed runs
        rw [same]
        exact ⟨text, tail, exports, split⟩
  · intro holds
    obtain ⟨text, rest, exports, rfl⟩ := holds
    have reads : Reads XdrBuffer.reading (unpackExports (text ++ rest).length []) text (· = [] ++ dirs) :=
      exports.reads (by simp) []
    obtain ⟨paths, last, runs, same, _⟩ := reads ⟨text ++ rest, 0⟩ [] rest rfl
    have sequence : (unreadBytes >>= fun unread => unpackExports unread []) ⟨text ++ rest, 0⟩ =
        .ok paths last := runs
    rw [sequence, same]
    rfl

theorem unpackFlavors_spends (count : Nat) :
    Spends XdrBuffer.left (unpackFlavors count) 0 fun _ => 4 * count := by
  induction count with
  | zero => exact Spends.pure (Nat.le_refl 0)
  | succ count later =>
      rw [unpackFlavors]
      apply Spends.bind unpackInt32_spends
      intro flavor
      exact Spends.bind later fun _ => Spends.pure (by omega)

/-- The loop over the flavors returns when their words are there. -/
theorem unpackFlavors_returns {count : Nat} {buf : XdrBuffer} (enough : 4 * count ≤ buf.left) :
    ∃ flavors last, unpackFlavors count buf = .ok flavors last := by
  induction count generalizing buf with
  | zero => exact ⟨[], buf, rfl⟩
  | succ count later =>
      unfold XdrBuffer.left at enough
      have space : buf.pos + 4 ≤ buf.buffer.length := by omega
      obtain ⟨flavors, last, runs⟩ := @later { buf with pos := buf.pos + 4 } (by
        simp only [XdrBuffer.left]
        omega)
      have reads : ∃ flavor, unpackInt32 buf = .ok flavor { buf with pos := buf.pos + 4 } := by
        rw [unpackInt32, bind_of_ok (fetch_returns space)]
        exact ⟨_, rfl⟩
      obtain ⟨flavor, reads⟩ := reads
      refine ⟨flavor :: flavors, last, ?_⟩
      rw [unpackFlavors, bind_of_ok reads, bind_of_ok runs]
      rfl

theorem unpackFrom_ok_iff {α : Type} {program : Xdr α} {data : Bytes} {value : α} :
    unpackFrom program data = .ok value ↔ ∃ last, program ⟨data, 0⟩ = .ok value last := by
  unfold unpackFrom
  cases program ⟨data, 0⟩ <;> simp

/-- Each word that the decoder asked for was there, and a handle that it returns was there as a whole. -/
theorem xdrUnpackFhstatus_found {data : Bytes} {fhs : FhstatusNative} (returns : xdrUnpackFhstatus data = .ok fhs) :
    HoldsFhstatus data ∧ (fhs.status = 0 → HoldsHandle fhs.fhandle data) := by
  obtain ⟨last, runs⟩ := unpackFrom_ok_iff.mp returns
  obtain ⟨status, middle, reads, continues⟩ := ok_of_bind_ok runs
  obtain ⟨_, tail, rfl, rfl, placed⟩ := unpackUint32_finds _ [] data status middle rfl reads
  by_cases success : status = 0
  · subst success
    rw [if_pos (beq_self_eq_true _)] at continues
    obtain ⟨handle, text, afterText, named, rfl, countRuns⟩ :=
      unpackOpaque_found (fun _ => (unpackUint32_cuts 0).starves.bind) placed continues
    obtain ⟨count, countAt, readsCount, flavorsRun⟩ := ok_of_bind_ok countRuns
    obtain ⟨_, rest, rfl, rfl, rfl⟩ := unpackUint32_finds _ _ afterText count countAt rfl readsCount
    obtain ⟨flavors, flavorsAt, readsFlavors, finishes⟩ := ok_of_bind_ok flavorsRun
    obtain ⟨rfl, _⟩ := EStateM.Result.ok.inj finishes
    have paid := unpackFlavors_spends _ _ flavors flavorsAt readsFlavors
    have mounted := @HoldsFhstatus.mounted handle text rest count named (by
      simp only [XdrBuffer.left, List.length_append] at paid
      omega)
    exact ⟨by simpa using mounted, fun _ => ⟨text, be32 count ++ rest, named, by simp⟩⟩
  · rw [if_neg (by simpa using success)] at continues
    obtain ⟨rfl, _⟩ := EStateM.Result.ok.inj continues
    exact ⟨HoldsFhstatus.refused success, fun zero => absurd zero success⟩

/-- The decoder returns exactly when each word that it asks for is there. -/
theorem xdrUnpackFhstatus_returns_iff (data : Bytes) :
    (∃ fhs, xdrUnpackFhstatus data = .ok fhs) ↔ HoldsFhstatus data := by
  constructor
  · intro returns
    obtain ⟨fhs, returns⟩ := returns
    exact (xdrUnpackFhstatus_found returns).1
  · intro holds
    simp only [xdrUnpackFhstatus, unpackFrom_ok_iff]
    cases holds with
    | @refused status rest failed =>
        obtain ⟨word, middle, reads, same, _⟩ := unpackUint32_reads status ⟨be32 status ++ rest, 0⟩ [] rest rfl
        rw [same] at reads
        refine ⟨{ status := status }, middle, ?_⟩
        rw [unpackFhstatus, bind_of_ok reads, if_neg (by simpa using failed)]
        rfl
    | @mounted handle text rest count named flavors =>
        obtain ⟨_, statusAt, readsStatus, rfl, atStatus⟩ := unpackUint32_reads 0
          ⟨[be32 0, text, be32 count, rest].flatten, 0⟩ [] (text ++ (be32 count ++ rest))
            (by simp [XdrBuffer.reading])
        obtain ⟨data, handleAt, readsHandle, _, atHandle⟩ := named.reads statusAt _ _ atStatus
        obtain ⟨word, countAt, readsCount, same, rfl⟩ := unpackUint32_reads count handleAt _ _ atHandle
        rw [same] at readsCount
        obtain ⟨found, last, readsFlavors⟩ := @unpackFlavors_returns (min count.toNat 10)
          ⟨[] ++ be32 0 ++ text ++ be32 count ++ rest, ([] ++ be32 0 ++ text ++ be32 count).length⟩ (by
            simp only [XdrBuffer.left, List.length_append]
            omega)
        refine ⟨⟨0, data, found⟩, last, ?_⟩
        rw [unpackFhstatus, bind_of_ok readsStatus, if_pos (beq_self_eq_true _), bind_of_ok readsHandle,
          bind_of_ok readsCount, bind_of_ok readsFlavors]
        rfl

end Nfs3Rpc
