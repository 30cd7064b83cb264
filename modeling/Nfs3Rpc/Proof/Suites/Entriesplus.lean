import Nfs3Rpc.Proof.Suites.NewObjects

namespace Nfs3Rpc
open Encoding Builtin Csuite

/-- The decoder of an entry ends so after the fields of the entry. -/
def Entryplus3.finish (unread : Nat) (entry : Entryplus3) : Xdr (List Entryplus3) := do
  let hasNext ← unpackBool
  if hasNext then
    let nextentry ← Entryplus3.deserialize unread {} []
    return entry :: nextentry
  else
    return [entry]

theorem Entryplus3.deserialize_succ (unread : Nat) : Entryplus3.deserialize (unread + 1) {} [] = (do
    let fileid ← unpackUint64
    let name ← unpackString
    let cookie ← unpackUint64
    let nameHandle ← NfsFh3.deserialize
    let nameAttributes ← PostOpAttr.deserialize {}
    Entryplus3.finish unread { fileid, name, cookie, nameHandle, nameAttributes }) := by
  rw [Entryplus3.deserialize]
  rfl

/-- The decoder returns the entry itself first. -/
theorem Entryplus3.finish_head {unread : Nat} {entry : Entryplus3} {before rest : Bytes}
    {result : List Entryplus3 → Prop} (accepts : Accepts (entry.finish unread) before rest result) :
    ∃ nextentry, result (entry :: nextentry) := by
  obtain ⟨value, last, runs, holds⟩ := accepts
  obtain ⟨hasNext, _, _, runs⟩ := ok_of_bind_ok runs
  cases hasNext
  · obtain ⟨rfl, _⟩ := EStateM.Result.ok.inj runs
    exact ⟨[], holds⟩
  · obtain ⟨nextentry, _, _, runs⟩ := ok_of_bind_ok runs
    obtain ⟨rfl, _⟩ := EStateM.Result.ok.inj runs
    exact ⟨nextentry, holds⟩

theorem Entryplus3.finish_last {unread : Nat} {entry : Entryplus3} {before rest : Bytes}
    {result : List Entryplus3 → Prop} :
    Accepts (entry.finish unread) before (be32 0 ++ rest) result ↔ result [entry] := by
  rw [Entryplus3.finish, accepts_field (unpackBool_reads_word 0)]
  exact accepts_pure

theorem Entryplus3.finish_next {unread : Nat} {entry : Entryplus3} {before rest : Bytes}
    {result : List Entryplus3 → Prop} :
    Accepts (entry.finish unread) before (be32 1 ++ rest) result ↔
      Accepts (Entryplus3.deserialize unread {} []) (before ++ be32 1) rest (fun got => result (entry :: got)) := by
  rw [Entryplus3.finish, accepts_field (unpackBool_reads_word 1)]
  exact accepts_returning

/-- The C++ decoder starts the attributes two words late and takes the two words of the handle. -/
def lateFattr3 (attr : Fattr3) : Fattr3 :=
  { type := ⟨attr.nlink⟩
    mode := attr.uid
    nlink := attr.gid
    uid := highWord attr.size
    gid := lowWord attr.size
    size := attr.used
    used := hyper attr.rdev.specdata1 attr.rdev.specdata2
    rdev := ⟨highWord attr.fsid, lowWord attr.fsid⟩
    fsid := attr.fileid
    fileid := hyper attr.atime.seconds attr.atime.nseconds
    atime := attr.mtime
    mtime := attr.ctime
    ctime := ⟨1, 1⟩ }

theorem late_wire (attr : Fattr3) : attr.wire ++ (be32 1 ++ be32 1) =
    be32 attr.type.code ++ (be32 attr.mode ++ (lateFattr3 attr).wire) := by
  simp [Fattr3.wire, Nfstime3.wire, Specdata3.wire, lateFattr3, be64]

theorem late_eq_iff (attr : Fattr3) : lateFattr3 attr = attr ↔ attr = onesFattr3 := by
  constructor
  · intro same
    obtain ⟨type, mode, nlink, uid, gid, size, used, rdev, fsid, fileid, atime, mtime, ctime⟩ := attr
    simp only [lateFattr3, Fattr3.mk.injEq] at same
    obtain ⟨rfl, rfl, rfl, rfl, rfl, rfl, rfl, rfl, rfl, rfl, rfl, rfl, rfl⟩ := same
    simp [onesFattr3]
  · rintro rfl
    simp [lateFattr3, onesFattr3]

/-- Both suites send these fields first. -/
def Csuite.Entryplus3T.start (e : Entryplus3T) : Bytes :=
  [be64 e.fileid, opaqueBytes (clip e.name.cstring), be64 e.cookie].flatten

/-- The decoder has read these fields when it reaches the attributes. -/
def Csuite.Entryplus3T.started (e : Entryplus3T) (nameHandle : NfsFh3) (nameAttributes : PostOpAttr) :
    Entryplus3 :=
  { fileid := e.fileid, name := clip e.name.cstring, cookie := e.cookie, nameHandle, nameAttributes }

section
variable {e : Entryplus3T} {nextentry : List Entryplus3T} {unread : Nat} {before more : Bytes}
  {result : List Entryplus3 → Prop}

theorem accepts_start :
    Accepts (Entryplus3.deserialize (unread + 1) {} []) before
        (entryplus3ChainWire (sentEntriesplus (e :: nextentry)) ++ more) result ↔
      Accepts (do
          let nameHandle ← NfsFh3.deserialize
          let nameAttributes ← PostOpAttr.deserialize {}
          (e.started nameHandle nameAttributes).finish unread) (before ++ e.start)
        (e.nameAttributes.message.wire ++ (handleWire e.nameHandle.message ++
          (beBool (!nextentry.isEmpty) ++ (entryplus3ChainWire (sentEntriesplus nextentry) ++ more)))) result := by
  rw [sentEntriesplus_wire, Entryplus3.deserialize_succ]
  simp only [List.flatten_cons, List.flatten_nil, List.append_nil, List.append_assoc]
  rw [accepts_field (unpackUint64_reads _), accepts_field (unpackString_reads _ (clip_short _)),
    accepts_field (unpackUint64_reads _)]
  simp only [Entryplus3T.start, Entryplus3T.started, List.flatten_cons, List.flatten_nil, List.append_nil,
    List.append_assoc]

/-- Absent attributes are read as an empty handle. -/
theorem accepts_absent (absent : e.nameAttributes.follow = 0) :
    Accepts (Entryplus3.deserialize (unread + 1) {} []) before
        (entryplus3ChainWire (sentEntriesplus (e :: nextentry)) ++ more) result ↔
      Accepts (do
          let nameAttributes ← PostOpAttr.deserialize {}
          (e.started {} nameAttributes).finish unread) (before ++ e.start ++ be32 0)
        (handleWire e.nameHandle.message ++ (beBool (!nextentry.isEmpty) ++
          (entryplus3ChainWire (sentEntriesplus nextentry) ++ more))) result := by
  have wire : e.nameAttributes.message.wire = be32 0 := by
    rw [(PostOpAttrT.message_eq_absent_iff _).mpr absent]
    rfl
  have reads : Reads XdrBuffer.reading NfsFh3.deserialize (be32 0) (· = {}) :=
    NfsFh3.deserialize_reads {} (show Short [] by decide)
  rw [accepts_start, wire, accepts_field reads]

/-- Present attributes are read as a handle of one byte, the first one of the file type. -/
theorem accepts_present {attr : Fattr3} (present : e.nameAttributes.message = ⟨true, attr⟩) :
    Accepts (Entryplus3.deserialize (unread + 1) {} []) before
        (entryplus3ChainWire (sentEntriesplus (e :: nextentry)) ++ more) result ↔
      Accepts (do
          let nameAttributes ← PostOpAttr.deserialize {}
          (e.started ⟨[(attr.type.code >>> 24).toUInt8]⟩ nameAttributes).finish unread)
        (before ++ e.start ++ (be32 1 ++ be32 attr.type.code))
        (attr.wire.drop 4 ++ (handleWire e.nameHandle.message ++ (beBool (!nextentry.isEmpty) ++
          (entryplus3ChainWire (sentEntriesplus nextentry) ++ more)))) result := by
  have wire : e.nameAttributes.message.wire = be32 1 ++ be32 attr.type.code ++ attr.wire.drop 4 := by
    rw [present]
    rfl
  have reads : Reads XdrBuffer.reading NfsFh3.deserialize (be32 1 ++ be32 attr.type.code)
      (· = ⟨[(attr.type.code >>> 24).toUInt8]⟩) :=
    Reads.returning (unpackOpaque_reads_padded [(attr.type.code >>> 24).toUInt8] [_, _, _] (by simp) rfl) rfl
  rw [accepts_start, wire, List.append_assoc, accepts_field reads]

/-- A handle of one byte completes the shifted attributes. -/
theorem late_handle {attr : Fattr3} {byte : UInt8} (rest : Bytes) :
    attr.wire.drop 4 ++ (handleWire ⟨[byte]⟩ ++ rest) =
      be32 attr.mode ++ (lateFattr3 attr).wire ++ ([byte, 0, 0, 0] ++ rest) := by
  have handle : handleWire ⟨[byte]⟩ = be32 1 ++ be32 1 ++ [byte, 0, 0, 0] := rfl
  have words : attr.wire.drop 4 ++ (be32 1 ++ be32 1) = be32 attr.mode ++ (lateFattr3 attr).wire :=
    congrArg (List.drop 4) (late_wire attr)
  rw [handle, ← words]
  simp only [List.append_assoc]

/-- The head of the decoded list is the sent entry. -/
theorem started_of_accepts {nameHandle : NfsFh3} {nameAttributes : PostOpAttr}
    (accepts : Accepts ((e.started nameHandle nameAttributes).finish unread) before more
      (·.map Entryplus3.visible = (e :: nextentry).map Entryplus3T.message)) :
    Short e.name.cstring ∧ nameHandle = e.nameHandle.message ∧
      nameAttributes.visible = e.nameAttributes.message := by
  obtain ⟨got, same⟩ := Entryplus3.finish_head accepts
  have head : (e.started nameHandle nameAttributes).visible = e.message := (List.cons.inj same).1
  have name : clip e.name.cstring = e.name.cstring := congrArg Entryplus3.name head
  refine ⟨?_, congrArg Entryplus3.nameHandle head, congrArg Entryplus3.nameAttributes head⟩
  rw [← name]
  exact clip_short _

/-- Only an entry without a handle can do without attributes. -/
theorem plain_of_accepts (formed : e.nameHandle.WellFormed) (absent : e.nameAttributes.follow = 0)
    (accepts : Accepts (Entryplus3.deserialize (unread + 1) {} []) before
      (entryplus3ChainWire (sentEntriesplus (e :: nextentry)) ++ more)
      (·.map Entryplus3.visible = (e :: nextentry).map Entryplus3T.message)) :
    e.Plain ∧ ∃ before', Accepts ((e.started {} {}).finish unread) before'
      (beBool (!nextentry.isEmpty) ++ (entryplus3ChainWire (sentEntriesplus nextentry) ++ more))
      (·.map Entryplus3.visible = (e :: nextentry).map Entryplus3T.message) := by
  rw [accepts_absent absent] at accepts
  obtain ⟨_, _, _, _, _, later⟩ :=
    (accepts_encoded PostOpAttr.deserialize_finds PostOpAttr.Encoded.reads).mp accepts
  obtain ⟨short, handle, _⟩ := started_of_accepts later
  have empty : e.nameHandle.len = 0 := (message_empty_iff formed).mp (congrArg NfsFh3.data handle.symm)
  have wire : handleWire e.nameHandle.message = be32 0 := by
    rw [← handle]
    rfl
  rw [wire, accepts_field PostOpAttr.Encoded.absent.reads] at accepts
  exact ⟨⟨short, absent, empty⟩, _, accepts⟩

/-- Present attributes must repeat one word, and the entry must be the last one. -/
theorem ones_of_accepts {attr : Fattr3} (present : e.nameAttributes.message = ⟨true, attr⟩)
    (accepts : Accepts (Entryplus3.deserialize (unread + 1) {} []) before
      (entryplus3ChainWire (sentEntriesplus (e :: nextentry)) ++ more)
      (·.map Entryplus3.visible = (e :: nextentry).map Entryplus3T.message)) :
    e.Ones ∧ nextentry = [] := by
  rw [accepts_present present] at accepts
  obtain ⟨_, _, _, _, _, later⟩ :=
    (accepts_encoded PostOpAttr.deserialize_finds PostOpAttr.Encoded.reads).mp accepts
  obtain ⟨short, handle, _⟩ := started_of_accepts later
  rw [← handle, late_handle] at accepts
  have set : attr.mode ≠ 0 := by
    intro zero
    rw [zero, List.append_assoc (be32 0), accepts_field PostOpAttr.Encoded.absent.reads] at accepts
    obtain ⟨_, _, shown⟩ := started_of_accepts accepts
    exact nomatch congrArg PostOpAttr.follow (shown.trans present)
  rw [accepts_field (PostOpAttr.Encoded.present set _).reads] at accepts
  obtain ⟨_, _, shown⟩ := started_of_accepts accepts
  obtain rfl : attr = onesFattr3 := (late_eq_iff attr).mp (PostOpAttr.mk.inj (shown.trans present)).2
  have last := Entryplus3.finish_last.mp accepts
  obtain ⟨follow, same⟩ := (e.nameAttributes.message_eq_present_iff _).mp present
  have data : e.nameHandle.message.data = [0] := congrArg NfsFh3.data handle.symm
  refine ⟨⟨short, follow, same, data⟩, ?_⟩
  simpa using (List.cons.inj last).2.symm

theorem unread_of_accepts {rest : Bytes} (accepts : Accepts (Entryplus3.deserialize unread {} []) before rest
    (·.map Entryplus3.visible = (e :: nextentry).map Entryplus3T.message)) : ∃ left, unread = left + 1 := by
  cases unread with
  | zero =>
      obtain ⟨got, last, runs, same⟩ := accepts
      rw [Entryplus3.deserialize] at runs
      obtain ⟨_, _, _, returned⟩ := ok_of_bind_ok runs
      obtain ⟨rfl, _⟩ := EStateM.Result.ok.inj returned
      cases same
  | succ left => exact ⟨left, rfl⟩

/-- A list that comes back has plain entries before its last one. -/
theorem alike_of_accepts (formed : ∀ entry ∈ e :: nextentry, entry.nameHandle.WellFormed)
    (accepts : Accepts (Entryplus3.deserialize unread {} []) before
      (entryplus3ChainWire (sentEntriesplus (e :: nextentry)) ++ more)
      (·.map Entryplus3.visible = (e :: nextentry).map Entryplus3T.message)) :
    ReadAlike (e :: nextentry) := by
  induction nextentry generalizing e unread before with
  | nil =>
      obtain ⟨unread, rfl⟩ := unread_of_accepts accepts
      by_cases absent : e.nameAttributes.follow = 0
      · exact .inl (plain_of_accepts (formed e List.mem_cons_self) absent accepts).1
      · have present := (e.nameAttributes.message_eq_present_iff _).mpr ⟨absent, rfl⟩
        exact .inr (ones_of_accepts present accepts).1
  | cons next rest recurse =>
      obtain ⟨unread, rfl⟩ := unread_of_accepts accepts
      by_cases absent : e.nameAttributes.follow = 0
      · obtain ⟨plain, before, later⟩ := plain_of_accepts (formed e List.mem_cons_self) absent accepts
        obtain ⟨got, last, runs, same⟩ := Entryplus3.finish_next.mp later
        have later : ReadAlike (next :: rest) :=
          recurse (fun entry member => formed entry (List.mem_cons_of_mem _ member))
            ⟨got, last, runs, (List.cons.inj same).2⟩
        exact ⟨plain, later⟩
      · have present := (e.nameAttributes.message_eq_present_iff _).mpr ⟨absent, rfl⟩
        exact nomatch (ones_of_accepts present accepts).2

theorem started_visible {nameHandle : NfsFh3} {nameAttributes : PostOpAttr} (short : Short e.name.cstring)
    (handle : nameHandle = e.nameHandle.message)
    (attributes : nameAttributes.visible = e.nameAttributes.message) :
    (e.started nameHandle nameAttributes).visible = e.message := by
  rw [Entryplus3.visible, Entryplus3T.started, Entryplus3T.message, attributes, handle, clip_of_short short]

theorem Csuite.Entryplus3T.Plain.visible (plain : e.Plain) (formed : e.nameHandle.WellFormed) :
    (e.started {} {}).visible = e.message := by
  obtain ⟨short, absent, empty⟩ := plain
  have data : e.nameHandle.message.data = [] := (message_empty_iff formed).mpr empty
  exact started_visible short (congrArg NfsFh3.mk data.symm) ((PostOpAttrT.message_eq_absent_iff _).mpr absent).symm

/-- The decoder reads a plain entry as it was sent. -/
theorem Csuite.Entryplus3T.Plain.reads {wire : Bytes} (plain : e.Plain) (formed : e.nameHandle.WellFormed)
    (inner : Reads XdrBuffer.reading ((e.started {} {}).finish unread) wire result) :
    Reads XdrBuffer.reading (Entryplus3.deserialize (unread + 1) {} [])
      [be64 e.fileid, opaqueBytes (clip e.name.cstring), be64 e.cookie, e.nameAttributes.message.wire,
        handleWire e.nameHandle.message, wire].flatten result := by
  have attributes : e.nameAttributes.message.wire = be32 0 := by
    rw [(PostOpAttrT.message_eq_absent_iff _).mpr plain.2.1]
    rfl
  have handle : handleWire e.nameHandle.message = be32 0 := by
    have empty := (message_empty_iff formed).mpr plain.2.2
    simp [handleWire, empty, beBool]
  rw [attributes, handle, Entryplus3.deserialize_succ]
  exact .field (unpackUint64_reads _) <| .field (unpackString_reads _ (clip_short _)) <|
    .field (unpackUint64_reads _) <| .field (NfsFh3.deserialize_reads {} (show Short [] by decide)) <|
    .field PostOpAttr.Encoded.absent.reads <| .last inner

/-- The decoder takes the handle of such an entry for the flag of a next entry. -/
theorem Csuite.Entryplus3T.Ones.reads (ones : e.Ones) :
    Reads XdrBuffer.reading (Entryplus3.deserialize (unread + 1) {} [])
      [be64 e.fileid, opaqueBytes (clip e.name.cstring), be64 e.cookie, be32 1 ++ be32 1,
        be32 1 ++ onesFattr3.wire, be32 0].flatten (·.map Entryplus3.visible = [e.message]) := by
  obtain ⟨short, follow, same, data⟩ := ones
  have present : e.nameAttributes.message = ⟨true, onesFattr3⟩ :=
    (e.nameAttributes.message_eq_present_iff _).mpr ⟨follow, same⟩
  have handle : Reads XdrBuffer.reading NfsFh3.deserialize (be32 1 ++ be32 1) (· = ⟨[0]⟩) :=
    Reads.returning (unpackOpaque_reads_padded [0] [0, 0, 1] (by simp) rfl) rfl
  have set : (1 : UInt32) ≠ 0 := by decide
  have visible : (e.started ⟨[0]⟩ ⟨true, onesFattr3⟩).visible = e.message :=
    started_visible short (congrArg NfsFh3.mk data.symm) present.symm
  rw [Entryplus3.deserialize_succ]
  exact .field (unpackUint64_reads _) <| .field (unpackString_reads _ (clip_short _)) <|
    .field (unpackUint64_reads _) <| .field handle <|
    .field (PostOpAttr.Encoded.present set onesFattr3).reads <| .field (unpackBool_reads_word 0) <|
    .done (congrArg (fun entry => [entry]) visible)

/-- The decoder reads every such list and leaves at most one word of it. -/
theorem reads_of_alike (formed : ∀ entry ∈ e :: nextentry, entry.nameHandle.WellFormed)
    (alike : ReadAlike (e :: nextentry)) (depth : nextentry.length < unread) :
    ∃ wire left, entryplus3ChainWire (sentEntriesplus (e :: nextentry)) = wire ++ left ∧
      (left = [] ∨ left = be32 0) ∧ Reads XdrBuffer.reading (Entryplus3.deserialize unread {} []) wire
        (·.map Entryplus3.visible = (e :: nextentry).map Entryplus3T.message) := by
  obtain ⟨unread, rfl⟩ : ∃ left, unread = left + 1 := ⟨unread - 1, by omega⟩
  have handleFormed := formed e List.mem_cons_self
  rw [sentEntriesplus_wire]
  induction nextentry generalizing e unread with
  | nil =>
      rcases alike with plain | ones
      · have visible := plain.visible handleFormed
        have inner : Reads XdrBuffer.reading ((e.started {} {}).finish unread) (be32 0)
            (·.map Entryplus3.visible = [e.message]) :=
          Reads.finishing (unpackBool_reads_word 0) fun _ same => same ▸ Reads.pure (by simp [visible])
        exact ⟨_, [], by simp [beBool, sentEntriesplus, entryplus3ChainWire], .inl rfl,
          plain.reads handleFormed inner⟩
      · refine ⟨_, be32 0, ?_, .inr rfl, ones.reads⟩
        obtain ⟨_, follow, same, data⟩ := ones
        have present : e.nameAttributes.message = ⟨true, onesFattr3⟩ :=
          (e.nameAttributes.message_eq_present_iff _).mpr ⟨follow, same⟩
        have handle : e.nameHandle.message = ⟨[0]⟩ := congrArg NfsFh3.mk data
        rw [present, handle]
        simp only [List.flatten_cons, List.flatten_nil, List.append_assoc, List.append_cancel_left_eq]
        rfl
  | cons next rest recurse =>
      obtain ⟨unread, rfl⟩ : ∃ left, unread = left + 1 := ⟨unread - 1, by simp at depth; omega⟩
      obtain ⟨plain, alike⟩ := alike
      obtain ⟨wire, left, split, kept, reads⟩ := recurse
        (fun entry member => formed entry (List.mem_cons_of_mem _ member)) alike unread (by simpa using depth)
        (formed next (List.mem_cons_of_mem _ List.mem_cons_self))
      have visible := plain.visible handleFormed
      have inner : Reads XdrBuffer.reading ((e.started {} {}).finish (unread + 1)) (be32 1 ++ wire)
          (·.map Entryplus3.visible = (e :: next :: rest).map Entryplus3T.message) := by
        apply Reads.bind (unpackBool_reads_word 1)
        intro _ same
        subst same
        exact Reads.converting reads fun got same => congrArg₂ List.cons visible same
      refine ⟨_, left, ?_, kept, plain.reads handleFormed inner⟩
      rw [← sentEntriesplus_wire] at split
      rw [split]
      simp [beBool]

end

theorem entryplus3Chain_length (entries : List Entryplus3) :
    entries.length ≤ (entryplus3ChainWire entries).length := by
  induction entries with
  | nil => exact Nat.zero_le _
  | cons entry nextentry shorter =>
      simp only [entryplus3ChainWire, entryplus3Wire, List.flatten_cons, List.length_append, List.length_cons,
        be64_length]
      omega

theorem accepts_unread {α : Type} {next : Nat → Xdr α} {before rest : Bytes} {result : α → Prop} :
    Accepts (unreadBytes >>= next) before rest result ↔ Accepts (next rest.length) before rest result := by
  have count : rest.length = (before ++ rest).length - before.length := by simp
  rw [count]
  exact Iff.rfl

theorem accepts_of_reads {α : Type} {program : Xdr α} {before wire rest : Bytes} {result : α → Prop}
    (reads : Reads XdrBuffer.reading program wire result) : Accepts program before (wire ++ rest) result := by
  obtain ⟨value, last, runs, holds, _⟩ := reads _ before rest rfl
  exact ⟨value, last, runs, holds⟩

/-- After the entries the decoder only needs one word. -/
theorem Csuite.Dirlistplus3T.accepts_full {e : Entryplus3T} {nextentry : List Entryplus3T} {eof : Bool}
    (before : Bytes) (formed : ∀ entry ∈ e :: nextentry, entry.nameHandle.WellFormed) :
    Accepts (Dirlistplus3.deserialize {}) before (dirlistplus3Wire ⟨sentEntriesplus (e :: nextentry), eof⟩)
        (·.entries.map Entryplus3.visible = (e :: nextentry).map Entryplus3T.message) ↔
      ReadAlike (e :: nextentry) := by
  have wire : dirlistplus3Wire ⟨sentEntriesplus (e :: nextentry), eof⟩ =
      beBool true ++ (entryplus3ChainWire (sentEntriesplus (e :: nextentry)) ++ beBool eof) := by
    simp [dirlistplus3Wire, sentEntriesplus_isEmpty]
  have depth : nextentry.length <
      (entryplus3ChainWire (sentEntriesplus (e :: nextentry)) ++ beBool eof).length := by
    have entries := entryplus3Chain_length (sentEntriesplus (e :: nextentry))
    have count : (sentEntriesplus (e :: nextentry)).length = nextentry.length + 1 := by simp [sentEntriesplus]
    rw [List.length_append]
    omega
  rw [wire, Dirlistplus3.deserialize, accepts_field (unpackBool_reads true)]
  simp only [if_true]
  rw [accepts_unread]
  constructor
  · intro held
    obtain ⟨list, last, runs, same⟩ := held
    obtain ⟨entries, _, entriesRun, runs⟩ := ok_of_bind_ok runs
    obtain ⟨_, _, _, runs⟩ := ok_of_bind_ok runs
    obtain ⟨rfl, _⟩ := EStateM.Result.ok.inj runs
    exact alike_of_accepts formed ⟨entries, _, entriesRun, same⟩
  · intro alike
    obtain ⟨wire, left, split, kept, reads⟩ := reads_of_alike formed alike depth
    obtain ⟨flag, rest, word⟩ : ∃ flag rest, left ++ beBool eof = be32 flag ++ rest := by
      rcases kept with rfl | rfl
      · exact ⟨_, [], (List.append_nil _).symm⟩
      · exact ⟨0, beBool eof, rfl⟩
    have whole : entryplus3ChainWire (sentEntriesplus (e :: nextentry)) ++ beBool eof =
        (wire ++ be32 flag) ++ rest := by
      rw [split, List.append_assoc, word, List.append_assoc]
    rw [whole] at reads ⊢
    apply accepts_of_reads
    apply Reads.bind reads
    intro entries same
    exact Reads.returning (unpackBool_reads_word flag) same

theorem Csuite.Dirlistplus3T.accepted_iff (dl : Dirlistplus3T) (before : Bytes)
    (formed : ∀ e ∈ dl.entries, e.nameHandle.WellFormed) :
    Accepts (Dirlistplus3.deserialize {}) before
        (dirlistplus3Wire ⟨sentEntriesplus dl.entries, dl.eof ≠ 0⟩)
        (·.entries.map Entryplus3.visible = dl.entries.map Entryplus3T.message) ↔ ReadAlike dl.entries := by
  obtain ⟨entries, eof⟩ := dl
  cases entries with
  | nil =>
      have reads := (Dirlistplus3.deserialize_reads ⟨[], eof ≠ 0⟩ (by simp [Dirlistplus3.Fits])).weaken
        fun _ same => congrArg Dirlistplus3.entries same
      refine iff_of_true ?_ trivial
      rw [← List.append_nil (dirlistplus3Wire _)]
      exact accepts_of_reads reads
  | cons e nextentry => exact accepts_full before formed

/-- The attributes of the directory and the cookie verifier travel alike. -/
theorem Csuite.READDIRPLUS3resokT.accepted_iff (res : READDIRPLUS3resokT) (before : Bytes)
    (formed : ∀ e ∈ res.reply.entries, e.nameHandle.WellFormed) :
    Accepts (READDIRPLUS3resok.deserialize {}) before (READDIRPLUS3resokWire res.message.clipped)
        (·.reply.entries.map Entryplus3.visible = res.reply.entries.map Entryplus3T.message) ↔
      ReadAlike res.reply.entries := by
  have wire : READDIRPLUS3resokWire res.message.clipped = res.dirAttributes.message.wire ++
      (be64 res.cookieverf ++ dirlistplus3Wire ⟨sentEntriesplus res.reply.entries, res.reply.eof ≠ 0⟩) := by
    simp [READDIRPLUS3resokWire, READDIRPLUS3resok.clipped, READDIRPLUS3resokT.message, Dirlistplus3T.message,
      sentEntriesplus]
  rw [wire, READDIRPLUS3resok.deserialize, accepts_field (PostOpAttr.deserialize_new_reads _),
    accepts_field (unpackUint64_reads _)]
  exact accepts_returning.trans (res.reply.accepted_iff _ formed)

theorem Csuite.READDIRPLUS3resT_accepts_iff (res : Csuite.ResT READDIRPLUS3resokT)
    (formed : ProcNum.READDIRPLUS.WellFormedRes res) (success : res.status = .NFS3_OK) :
    Interoperates .READDIRPLUS (xdrPackREADDIRPLUS3res res)
        (fun ok : READDIRPLUS3resok => ok.reply.entries.map Entryplus3.visible)
        (res.resok.reply.entries.map Entryplus3T.message) ↔
      Accepts (READDIRPLUS3resok.deserialize {}) (be32 0) (READDIRPLUS3resokWire res.resok.message.clipped)
        (·.reply.entries.map Entryplus3.visible = res.resok.reply.entries.map Entryplus3T.message) := by
  refine (interoperates_iff .READDIRPLUS _ (fun _ => READDIRPLUS3resok.deserialize {})
    (fun _ _ => success_emits res formed.1 success (READDIRPLUS3resokT.pack_emits _ formed.2))
    fun _ _ => rfl).trans ?_
  exact ⟨fun accepts => accepts .zero, fun accepts _ => accepts⟩

/-- The C++ suite reads a list of the C suite when its entries are plain, or repeat one word at the end. -/
theorem readdirplus_interoperates_iff (res : Csuite.ResT READDIRPLUS3resokT)
    (formed : ProcNum.READDIRPLUS.WellFormedRes res) (success : res.status = .NFS3_OK) :
    Interoperates .READDIRPLUS (xdrPackREADDIRPLUS3res res)
        (fun ok : READDIRPLUS3resok => ok.reply.entries.map Entryplus3.visible)
        (res.resok.reply.entries.map Entryplus3T.message) ↔
      ReadAlike res.resok.reply.entries := by
  have handles : ∀ e ∈ res.resok.reply.entries, e.nameHandle.WellFormed := by
    intro e member
    exact (formed.2 e member).2
  rw [READDIRPLUS3resT_accepts_iff res formed success]
  exact res.resok.accepted_iff (be32 0) handles

/-- The first entry of this list is plain, and the words of the last one are all one. -/
def onesListing : Csuite.ResT READDIRPLUS3resokT :=
  let plain : Entryplus3T := { fileid := 2, name := .block [97, 0], cookie := 1 }
  let ones : Entryplus3T :=
    { fileid := 3, name := .block [98, 0], cookie := 2, nameHandle := ⟨.block [0], 1, 1⟩
      nameAttributes := ⟨1, onesFattr3⟩ }
  { status := .NFS3_OK, hasResok := 1, resok := { cookieverf := 7, reply := ⟨[plain, ones], 1⟩ } }

theorem readdirplus_interoperates_small :
    ProcNum.READDIRPLUS.WellFormedRes onesListing ∧
      Interoperates .READDIRPLUS (xdrPackREADDIRPLUS3res onesListing)
        (fun ok : READDIRPLUS3resok => ok.reply.entries.map Entryplus3.visible)
        (onesListing.resok.reply.entries.map Entryplus3T.message) := by
  have formed : ProcNum.READDIRPLUS.WellFormedRes onesListing := by
    refine ⟨by decide, ?_⟩
    intro e member
    rcases List.mem_pair.mp member with rfl | rfl
    · exact ⟨.inr ⟨_, rfl, by decide⟩, Ptr.noConfusion, fun positive => absurd rfl positive⟩
    · exact ⟨.inr ⟨_, rfl, by decide⟩, Ptr.noConfusion, fun _ => ⟨[0], rfl, by decide⟩⟩
  have alike : ReadAlike onesListing.resok.reply.entries :=
    ⟨⟨by decide, by decide, by decide⟩, .inr ⟨by decide, by decide, rfl, by decide⟩⟩
  exact ⟨formed, (readdirplus_interoperates_iff onesListing formed rfl).mpr alike⟩

/-- The only entry of this list has a handle and no attributes. -/
def handleListing : Csuite.ResT READDIRPLUS3resokT :=
  let entry : Entryplus3T :=
    { fileid := 2, name := .block [97, 0], cookie := 1, nameHandle := ⟨.block [1, 2, 3, 4], 4, 4⟩ }
  { status := .NFS3_OK, hasResok := 1, resok := { reply := ⟨[entry], 1⟩ } }

/-- The C++ decoder takes the flag of the handle for the flag of the attributes. -/
theorem handle_listing_misread :
    ProcNum.READDIRPLUS.WellFormedRes handleListing ∧ handleListing.status = .NFS3_OK ∧
      ¬ Interoperates .READDIRPLUS (xdrPackREADDIRPLUS3res handleListing)
        (fun ok : READDIRPLUS3resok => ok.reply.entries.map Entryplus3.visible)
        (handleListing.resok.reply.entries.map Entryplus3T.message) := by
  have handle : ∀ e ∈ handleListing.resok.reply.entries, e.nameHandle.WellFormed := by
    intro e member
    obtain rfl := List.mem_singleton.mp member
    exact ⟨Ptr.noConfusion, fun _ => ⟨[1, 2, 3, 4], rfl, by decide⟩⟩
  have formed : ProcNum.READDIRPLUS.WellFormedRes handleListing := by
    refine ⟨by decide, fun e member => ⟨?_, handle e member⟩⟩
    obtain rfl := List.mem_singleton.mp member
    exact .inr ⟨_, rfl, by decide⟩
  refine ⟨formed, rfl, ?_⟩
  rw [READDIRPLUS3resT_accepts_iff handleListing formed rfl,
    handleListing.resok.accepted_iff (be32 0) handle]
  rintro (plain | ones)
  · exact absurd plain.2.2 (by decide)
  · exact absurd ones.2.1 (by decide)

end Nfs3Rpc
