import Nfs3Rpc.Proof.Builtin.Directory
import Nfs3Rpc.Proof.Csuite.Results

namespace Nfs3Rpc.Csuite
open Encoding

variable {pos depth : Nat}

/-- Asking for the depth reads no byte. -/
theorem callDepth_reads : Reads (reading depth) callDepth [] (· = depth) := by
  intro machine before rest held
  obtain ⟨buf, deep⟩ := held
  exact ⟨machine.depth, machine, rfl, deep, by simpa using buf, deep⟩

/-- These entries are what travels of a chain. -/
def sentEntries (entries : List Entry3T) : List Entry3 := (entries.map Entry3T.message).map Entry3.clipped

theorem sentEntries_isEmpty (entries : List Entry3T) : (sentEntries entries).isEmpty = entries.isEmpty := by
  simp [sentEntries]

/-- One entry stands in front of the chain of the later ones, and a flag tells whether there are any. -/
theorem sentEntries_wire (e : Entry3T) (nextentry : List Entry3T) :
    Entry3.chainWire (sentEntries (e :: nextentry)) = [be64 e.fileid, opaqueBytes (clip e.name.cstring),
      be64 e.cookie, beBool !nextentry.isEmpty, Entry3.chainWire (sentEntries nextentry)].flatten := by
  rw [← sentEntries_isEmpty]
  exact Entry3.chainWire_cons _ _

/-- The recursion follows the chain, and each name goes out clipped. -/
theorem xdrPackEntry3_emits (e : Entry3T) (nextentry : List Entry3T)
    (formed : ∀ entry ∈ e :: nextentry, entry.name.IsString) :
    Emits (writing pos depth) (xdrPackEntry3 e nextentry) ()
      (Entry3.chainWire (sentEntries (e :: nextentry))) := by
  have isString : e.name.IsString := formed e List.mem_cons_self
  induction nextentry generalizing e with
  | nil =>
      rw [sentEntries_wire, xdrPackEntry3]
      exact .cons (xdrPackUint64_emits _) <| .cons (xdrPackCstring_emits _ isString) <|
        .cons (xdrPackUint64_emits _) <| .cons (xdrPackBool_emits 0) <| .last (Emits.pure ())
  | cons next rest recurse =>
      have later := recurse next (fun entry member => formed entry (List.mem_cons_of_mem _ member))
        (formed next (List.mem_cons_of_mem _ List.mem_cons_self))
      rw [sentEntries_wire, xdrPackEntry3]
      exact .cons (xdrPackUint64_emits _) <| .cons (xdrPackCstring_emits _ isString) <|
        .cons (xdrPackUint64_emits _) <| .cons (xdrPackBool_emits 1) <| .last later

/-- Each entry takes one level of recursion, and the first string without room stops the decoder. -/
theorem xdrUnpackEntry3_decodes (e : Entry3T) (nextentry : List Entry3T) (level : Nat)
    (enough : nextentry.length < level) :
    Decodes (reading depth) (xdrUnpackEntry3 level {} []) (Entry3.chainWire (sentEntries (e :: nextentry)))
      (∀ s ∈ (sentEntries (e :: nextentry)).map Entry3.name, Terminates s)
      (·.map Entry3T.message = sentEntries (e :: nextentry)) := by
  obtain ⟨level, rfl⟩ : ∃ left, level = left + 1 := ⟨level - 1, by omega⟩
  induction nextentry generalizing e level with
  | nil =>
      rw [sentEntries_wire, xdrUnpackEntry3]
      refine Decodes.field (intoUint64_reads _ _) (intoString_decodes _ e.name fun _ same => ?_)
      refine decodes_plain (Reads.field (intoUint64_reads _ _) ?_)
      apply Reads.silent uninitialized_reads
      intro _ _
      exact .field (intoBool_reads _ false) <| .last (Reads.pure (by simp [Entry3T.message, same]; rfl))
  | cons next rest recurse =>
      obtain ⟨level, rfl⟩ : ∃ left, level = left + 1 := ⟨level - 1, by simp at enough; omega⟩
      have later := recurse next level (by simpa using enough)
      rw [sentEntries_wire, xdrUnpackEntry3]
      refine Decodes.field (intoUint64_reads _ _) (intoString_decodes _ e.name fun _ same => ?_)
      apply Decodes.field (intoUint64_reads _ _)
      refine Decodes.silent uninitialized_reads fun _ _ => Decodes.field (intoBool_reads _ true) ?_
      refine Decodes.last (later.finishing fun _ sameRest => Reads.pure ?_)
      rw [List.map_cons, sameRest]
      simp [Entry3T.message, same, sentEntries, Entry3.clipped]

/-- The first flag tells whether there is an entry at all, and the end mark comes last. -/
theorem xdrPackDirlist3_emits (dl : Dirlist3T) (formed : ∀ e ∈ dl.entries, e.name.IsString) :
    Emits (writing pos depth) (xdrPackDirlist3 dl) () (Dirlist3.wire ⟨sentEntries dl.entries, dl.eof ≠ 0⟩) := by
  obtain ⟨entries, eof⟩ := dl
  cases entries with
  | nil => exact .cons (xdrPackBool_emits 0) <| .last (xdrPackBool_emits _)
  | cons first rest =>
      exact .cons (xdrPackBool_emits 1) <| .cons (xdrPackEntry3_emits first rest formed) <|
        .last (xdrPackBool_emits _)

/-- The call stack has one level for each entry. -/
theorem xdrUnpackDirlist3_decodes (dl : Dirlist3T) (enough : dl.entries.length ≤ depth) :
    Decodes (reading depth) (xdrUnpackDirlist3 {}) (Dirlist3.wire ⟨sentEntries dl.entries, dl.eof ≠ 0⟩)
      (∀ s ∈ (sentEntries dl.entries).map Entry3.name, Terminates s)
      (·.message = ⟨sentEntries dl.entries, dl.eof ≠ 0⟩) := by
  obtain ⟨entries, eof⟩ := dl
  apply Decodes.silent uninitialized_reads
  intro _ _
  cases entries with
  | nil =>
      exact decodes_plain <| .field (intoBool_reads _ false) <| .field (Reads.pure rfl) <|
        .field (intoBool_reads _ _) <| .done (by simp [Dirlist3T.message, sentEntries])
  | cons first rest =>
      refine Decodes.field (intoBool_reads _ true) (Decodes.silent callDepth_reads fun level same => ?_)
      refine Decodes.congr (and_iff_left trivial) (Decodes.both
        (xdrUnpackEntry3_decodes first rest level (same ▸ enough)) fun _ sameEntries => Decodes.of_reads ?_)
      exact .field (intoBool_reads _ _) <| .done (by simp [Dirlist3T.message, sameEntries])

theorem READDIR3resokT.pack_emits (res : READDIR3resokT) (formed : ∀ e ∈ res.reply.entries, e.name.IsString) :
    Emits (writing pos depth) res.pack () res.message.clipped.wire :=
  .cons (xdrPackPostOpAttr_emits _) <| .cons (xdrPackUint64_emits _) <|
  .last (xdrPackDirlist3_emits res.reply formed)

/-- The names of the listing decide whether the result decodes. -/
theorem READDIR3resokT.unpack_decodes (res : READDIR3resokT) (enough : res.message.reply.entries.length ≤ depth) :
    Decodes (reading depth) (READDIR3resokT.unpack {}) res.message.clipped.wire
      (∀ s ∈ res.message.clipped.strings, Terminates s) (·.message = res.message.clipped) := by
  apply Decodes.cons (xdrUnpackPostOpAttr_reads _ res.dirAttributes)
  intro _ same
  refine Decodes.field (intoUint64_reads _ _) (Decodes.last ?_)
  have deep : res.reply.entries.length ≤ depth := by
    simpa [READDIR3resokT.message, Dirlist3T.message] using enough
  refine (xdrUnpackDirlist3_decodes res.reply deep).finishing fun _ sameReply => Reads.pure ?_
  rw [READDIR3resokT.message, same, sameReply]
  rfl

/-- Each entry owns its name, so the destruction of the chain frees every name once. -/
theorem entry3Destroy_reads (entries : List Entry3T) (owned : ∀ e ∈ entries, e.name.Owned) :
    Reads (reading depth) (entry3Destroy entries) [] fun _ => True := by
  induction entries with
  | nil => exact Reads.pure trivial
  | cons e nextentry later =>
      exact Reads.silent (free_reads e.name (owned e List.mem_cons_self)) fun _ _ =>
        later fun entry member => owned entry (List.mem_cons_of_mem _ member)

def sentEntriesplus (entries : List Entryplus3T) : List Entryplus3 :=
  (entries.map Entryplus3T.message).map Entryplus3.clipped

theorem sentEntriesplus_isEmpty (entries : List Entryplus3T) :
    (sentEntriesplus entries).isEmpty = entries.isEmpty := by
  simp [sentEntriesplus]

/-- The handle travels after its flag and after the attributes, behind the cookie. -/
theorem sentEntriesplus_wire (e : Entryplus3T) (nextentry : List Entryplus3T) :
    entryplus3ChainWire (sentEntriesplus (e :: nextentry)) =
      [be64 e.fileid, opaqueBytes (clip e.name.cstring), be64 e.cookie, e.nameAttributes.message.wire,
        handleWire e.nameHandle.message, beBool !nextentry.isEmpty,
        entryplus3ChainWire (sentEntriesplus nextentry)].flatten := by
  rw [← sentEntriesplus_isEmpty]
  simp [sentEntriesplus, entryplus3ChainWire, entryplus3Wire, Entryplus3.clipped, Entryplus3T.message]

/-- An entry with attributes is packed like a plain one, with two more fields in front of the flag of the next one. -/
theorem xdrPackEntryplus3_emits (e : Entryplus3T) (nextentry : List Entryplus3T)
    (formed : ∀ entry ∈ e :: nextentry, entry.name.IsString ∧ entry.nameHandle.WellFormed) :
    Emits (writing pos depth) (xdrPackEntryplus3 e nextentry) ()
      (entryplus3ChainWire (sentEntriesplus (e :: nextentry))) := by
  obtain ⟨isString, handleFormed⟩ := formed e List.mem_cons_self
  induction nextentry generalizing e with
  | nil =>
      rw [sentEntriesplus_wire]
      change Emits _ (xdrPackUint64 _ >>= _) _ _
      exact .cons (xdrPackUint64_emits _) <| .cons (xdrPackCstring_emits _ isString) <|
        .cons (xdrPackUint64_emits _) <| .cons (xdrPackPostOpAttr_emits _) <|
        packHandle_emits _ handleFormed <| .cons (xdrPackBool_emits 0) <| .last (Emits.pure ())
  | cons next rest recurse =>
      obtain ⟨nextString, nextHandle⟩ := formed next (List.mem_cons_of_mem _ List.mem_cons_self)
      have later := recurse next (fun entry member => formed entry (List.mem_cons_of_mem _ member))
        nextString nextHandle
      rw [sentEntriesplus_wire]
      change Emits _ (xdrPackUint64 _ >>= _) _ _
      exact .cons (xdrPackUint64_emits _) <| .cons (xdrPackCstring_emits _ isString) <|
        .cons (xdrPackUint64_emits _) <| .cons (xdrPackPostOpAttr_emits _) <|
        packHandle_emits _ handleFormed <| .cons (xdrPackBool_emits 1) <| .last later

/-- The names decide, since the handles and the attributes decode in every case. -/
theorem xdrUnpackEntryplus3_decodes (e : Entryplus3T) (nextentry : List Entryplus3T) (level : Nat)
    (enough : nextentry.length < level) :
    Decodes (reading depth) (xdrUnpackEntryplus3 level {} [])
      (entryplus3ChainWire (sentEntriesplus (e :: nextentry)))
      (∀ s ∈ (sentEntriesplus (e :: nextentry)).map Entryplus3.name, Terminates s)
      (·.map Entryplus3T.message = sentEntriesplus (e :: nextentry)) := by
  obtain ⟨level, rfl⟩ : ∃ left, level = left + 1 := ⟨level - 1, by omega⟩
  induction nextentry generalizing e level with
  | nil =>
      rw [sentEntriesplus_wire]
      change Decodes _ (into _ xdrUnpackUint64 >>= _) _ _ _
      apply Decodes.field (intoUint64_reads _ _)
      apply intoString_decodes _ e.name
      intro _ same
      apply Decodes.field (intoUint64_reads _ _)
      apply Decodes.cons (xdrUnpackPostOpAttr_reads _ e.nameAttributes)
      intro _ sameAttributes
      refine unpackHandle_decodes e.nameHandle fun _ sameHandle => decodes_plain ?_
      apply Reads.silent uninitialized_reads
      intro _ _
      refine Reads.field (intoBool_reads _ false) <| .last (Reads.pure ?_)
      simp [Entryplus3T.message, same, sameAttributes, sameHandle, sentEntriesplus, Entryplus3.clipped]
  | cons next rest recurse =>
      obtain ⟨level, rfl⟩ : ∃ left, level = left + 1 := ⟨level - 1, by simp at enough; omega⟩
      have later := recurse next level (by simpa using enough)
      rw [sentEntriesplus_wire]
      change Decodes _ (into _ xdrUnpackUint64 >>= _) _ _ _
      apply Decodes.field (intoUint64_reads _ _)
      apply intoString_decodes _ e.name
      intro _ same
      apply Decodes.field (intoUint64_reads _ _)
      apply Decodes.cons (xdrUnpackPostOpAttr_reads _ e.nameAttributes)
      intro _ sameAttributes
      apply unpackHandle_decodes e.nameHandle
      intro _ sameHandle
      refine Decodes.silent uninitialized_reads fun _ _ => Decodes.field (intoBool_reads _ true) ?_
      refine Decodes.last (later.finishing fun _ sameRest => Reads.pure ?_)
      rw [List.map_cons, sameRest]
      simp [Entryplus3T.message, same, sameAttributes, sameHandle, sentEntriesplus, Entryplus3.clipped]

/-- This list has the same flags as the plain one. -/
theorem xdrPackDirlistplus3_emits (dl : Dirlistplus3T)
    (formed : ∀ e ∈ dl.entries, e.name.IsString ∧ e.nameHandle.WellFormed) :
    Emits (writing pos depth) (xdrPackDirlistplus3 dl) ()
      (dirlistplus3Wire ⟨sentEntriesplus dl.entries, dl.eof ≠ 0⟩) := by
  obtain ⟨entries, eof⟩ := dl
  cases entries with
  | nil => exact .cons (xdrPackBool_emits 0) <| .last (xdrPackBool_emits _)
  | cons first rest =>
      exact .cons (xdrPackBool_emits 1) <| .cons (xdrPackEntryplus3_emits first rest formed) <|
        .last (xdrPackBool_emits _)

theorem xdrUnpackDirlistplus3_decodes (dl : Dirlistplus3T) (enough : dl.entries.length ≤ depth) :
    Decodes (reading depth) (xdrUnpackDirlistplus3 {})
      (dirlistplus3Wire ⟨sentEntriesplus dl.entries, dl.eof ≠ 0⟩)
      (∀ s ∈ (sentEntriesplus dl.entries).map Entryplus3.name, Terminates s)
      (·.message = ⟨sentEntriesplus dl.entries, dl.eof ≠ 0⟩) := by
  obtain ⟨entries, eof⟩ := dl
  apply Decodes.silent uninitialized_reads
  intro _ _
  cases entries with
  | nil =>
      exact decodes_plain <| .field (intoBool_reads _ false) <| .field (Reads.pure rfl) <|
        .field (intoBool_reads _ _) <| .done (by simp [Dirlistplus3T.message, sentEntriesplus])
  | cons first rest =>
      refine Decodes.field (intoBool_reads _ true) (Decodes.silent callDepth_reads fun level same => ?_)
      refine Decodes.congr (and_iff_left trivial) (Decodes.both
        (xdrUnpackEntryplus3_decodes first rest level (same ▸ enough)) fun _ sameEntries => Decodes.of_reads ?_)
      exact .field (intoBool_reads _ _) <| .done (by simp [Dirlistplus3T.message, sameEntries])

theorem READDIRPLUS3resokT.pack_emits (res : READDIRPLUS3resokT)
    (formed : ∀ e ∈ res.reply.entries, e.name.IsString ∧ e.nameHandle.WellFormed) :
    Emits (writing pos depth) res.pack () (READDIRPLUS3resokWire res.message.clipped) :=
  .cons (xdrPackPostOpAttr_emits _) <| .cons (xdrPackUint64_emits _) <|
  .last (xdrPackDirlistplus3_emits res.reply formed)

theorem READDIRPLUS3resokT.unpack_decodes (res : READDIRPLUS3resokT)
    (enough : res.message.reply.entries.length ≤ depth) :
    Decodes (reading depth) (READDIRPLUS3resokT.unpack {}) (READDIRPLUS3resokWire res.message.clipped)
      (∀ s ∈ res.message.clipped.strings, Terminates s) (·.message = res.message.clipped) := by
  apply Decodes.cons (xdrUnpackPostOpAttr_reads _ res.dirAttributes)
  intro _ same
  refine Decodes.field (intoUint64_reads _ _) (Decodes.last ?_)
  have deep : res.reply.entries.length ≤ depth := by
    simpa [READDIRPLUS3resokT.message, Dirlistplus3T.message] using enough
  refine (xdrUnpackDirlistplus3_decodes res.reply deep).finishing fun _ sameReply => Reads.pure ?_
  rw [READDIRPLUS3resokT.message, same, sameReply]
  rfl

/-- Each entry owns a name and a handle. -/
theorem entryplus3Destroy_reads (entries : List Entryplus3T)
    (owned : ∀ e ∈ entries, e.name.Owned ∧ e.nameHandle.Owned) :
    Reads (reading depth) (entryplus3Destroy entries) [] fun _ => True := by
  induction entries with
  | nil => exact Reads.pure trivial
  | cons e nextentry later =>
      obtain ⟨nameOwned, handleOwned⟩ := owned e List.mem_cons_self
      exact Reads.silent (free_reads e.name nameOwned) fun _ _ =>
        Reads.silent (nfsFh3Destroy_reads e.nameHandle handleOwned) fun _ _ =>
        later fun entry member => owned entry (List.mem_cons_of_mem _ member)

end Nfs3Rpc.Csuite
