import Nfs3Rpc.Proof.Builtin.Results

namespace Nfs3Rpc
open Encoding Builtin

variable {pos : Nat}

/-- A reader may depend on the unread byte count, which covers at least its own bytes. -/
theorem unreadBytes_reads {α : Type} {next : Nat → Xdr α} {wire : Bytes} {result : α → Prop}
    (inner : ∀ unread, wire.length ≤ unread → Reads XdrBuffer.reading (next unread) wire result) :
    Reads XdrBuffer.reading (unreadBytes >>= next) wire result := by
  intro state before rest same
  subst same
  have enough : wire.length ≤ (before ++ (wire ++ rest)).length - before.length := by
    simp
  exact inner _ enough _ before rest rfl

theorem Entry3.chainWire_cons (entry : Entry3) (nextentry : List Entry3) :
    Entry3.chainWire (entry :: nextentry) = [be64 entry.fileid, opaqueBytes entry.name, be64 entry.cookie,
      beBool !nextentry.isEmpty, Entry3.chainWire nextentry].flatten := by
  simp [Entry3.chainWire, Entry3.wire]

/-- Each entry takes at least one byte. -/
theorem Entry3.length_le_chainWire (entries : List Entry3) :
    entries.length ≤ (Entry3.chainWire entries).length := by
  induction entries with
  | nil => exact Nat.zero_le _
  | cons entry nextentry shorter =>
      simp only [Entry3.chainWire_cons, List.flatten_cons, List.flatten_nil, List.length_append,
        List.length_cons, be64_length, List.append_nil]
      omega

/-- The recursion follows the chain, and the flag in front of each step tells whether it goes on. -/
theorem Entry3.serialize_emits (entry : Entry3) (nextentry : List Entry3)
    (fits : ∀ e ∈ entry :: nextentry, Short e.name) :
    Emits (XdrBuffer.writing pos) (entry.serialize nextentry) () (Entry3.chainWire (entry :: nextentry)) := by
  have short : Short entry.name := fits entry List.mem_cons_self
  induction nextentry generalizing entry with
  | nil =>
      rw [Entry3.chainWire_cons, Entry3.serialize]
      exact .cons (packUint64_emits _) <| .cons (packString_emits _ short) <|
        .cons (packUint64_emits _) <| .cons (packBool_emits _) <| .last (Emits.pure ())
  | cons next rest recurse =>
      have later := recurse next (fun e member => fits e (List.mem_cons_of_mem _ member))
        (fits next (List.mem_cons_of_mem _ List.mem_cons_self))
      rw [Entry3.chainWire_cons, Entry3.serialize]
      exact .cons (packUint64_emits _) <| .cons (packString_emits _ short) <|
        .cons (packUint64_emits _) <| .cons (packBool_emits _) <| .last later

/-- The recursion follows the chain, and each entry leaves enough depth for the rest. -/
theorem Entry3.deserialize_reads (entry : Entry3) (nextentry : List Entry3) (unread : Nat)
    (fits : ∀ e ∈ entry :: nextentry, Short e.name) (depth : nextentry.length < unread) :
    Reads XdrBuffer.reading (Entry3.deserialize unread []) (Entry3.chainWire (entry :: nextentry))
      (· = entry :: nextentry) := by
  have short : Short entry.name := fits entry List.mem_cons_self
  obtain ⟨unread, rfl⟩ : ∃ left, unread = left + 1 := ⟨unread - 1, by omega⟩
  induction nextentry generalizing entry unread with
  | nil =>
      rw [Entry3.chainWire_cons, Entry3.deserialize]
      exact .field (unpackUint64_reads _) <| .field (unpackString_reads _ short) <|
        .field (unpackUint64_reads _) <| .field (unpackBool_reads _) <| .last (Reads.pure rfl)
  | cons next rest recurse =>
      obtain ⟨unread, rfl⟩ : ∃ left, unread = left + 1 := ⟨unread - 1, by simp at depth; omega⟩
      have later := recurse next (fun e member => fits e (List.mem_cons_of_mem _ member))
        (fits next (List.mem_cons_of_mem _ List.mem_cons_self)) unread (by simpa using depth)
      rw [Entry3.chainWire_cons, Entry3.deserialize]
      exact .field (unpackUint64_reads _) <| .field (unpackString_reads _ short) <|
        .field (unpackUint64_reads _) <| .field (unpackBool_reads _) <| .field later <| .done rfl

/-- An empty list is only its two flags. -/
theorem Dirlist3.serialize_emits (list : Dirlist3) (fits : list.Fits) :
    Emits (XdrBuffer.writing pos) list.serialize () list.wire := by
  obtain ⟨entries, eof⟩ := list
  apply Emits.cons (packBool_emits _)
  cases entries with
  | nil => exact Emits.last (packBool_emits _)
  | cons first rest => exact .cons (first.serialize_emits rest fits) <| .last (packBool_emits _)

/-- A new object has no entries that a false flag could leave behind. -/
theorem Dirlist3.deserialize_reads (list : Dirlist3) (fits : list.Fits) :
    Reads XdrBuffer.reading (Dirlist3.deserialize {}) list.wire (· = list) := by
  obtain ⟨entries, eof⟩ := list
  apply Reads.field (unpackBool_reads _)
  cases entries with
  | nil => exact .field (Reads.pure rfl) <| .field (unpackBool_reads _) <| .done rfl
  | cons first rest =>
      apply unreadBytes_reads
      intro unread enough
      have depth : rest.length < unread := by
        have entries := Entry3.length_le_chainWire (first :: rest)
        simp only [List.flatten_cons, List.length_append, List.length_cons] at entries enough
        omega
      exact .field (first.deserialize_reads rest unread fits depth) <| .field (unpackBool_reads _) <| .done rfl

theorem READDIR3resok.serialize_emits (res : READDIR3resok) (fits : res.reply.Fits) :
    Emits (XdrBuffer.writing pos) res.serialize () res.wire :=
  .cons res.dirAttributes.serialize_emits <| .cons (packUint64_emits _) <|
  .last (res.reply.serialize_emits fits)

/-- The attributes of the directory may be hidden, and the entries are all visible. -/
theorem READDIR3resok.deserialize_reads (res : READDIR3resok) (fits : res.reply.Fits) :
    Reads XdrBuffer.reading (READDIR3resok.deserialize {}) res.wire (·.visible = res.visible) := by
  apply Reads.cons (PostOpAttr.deserialize_reads {} res.dirAttributes)
  intro _ same
  exact .field (unpackUint64_reads _) <| .field (res.reply.deserialize_reads fits) <|
    .done (by simp only [READDIR3resok.visible, same])

theorem Entryplus3.chainWire_cons (entry : Entryplus3) (nextentry : List Entryplus3) :
    Entryplus3.chainWire (entry :: nextentry) = [be64 entry.fileid, opaqueBytes entry.name,
      be64 entry.cookie, entry.nameHandle.wire, entry.nameAttributes.wire, beBool !nextentry.isEmpty,
      Entryplus3.chainWire nextentry].flatten := by
  simp [Entryplus3.chainWire, Entryplus3.wire]

theorem Entryplus3.length_le_chainWire (entries : List Entryplus3) :
    entries.length ≤ (Entryplus3.chainWire entries).length := by
  induction entries with
  | nil => exact Nat.zero_le _
  | cons entry nextentry shorter =>
      simp only [Entryplus3.chainWire_cons, List.flatten_cons, List.flatten_nil, List.length_append,
        List.length_cons, be64_length, List.append_nil]
      omega

theorem Entryplus3.serialize_emits (entry : Entryplus3) (nextentry : List Entryplus3)
    (fits : ∀ e ∈ entry :: nextentry, e.Fits) :
    Emits (XdrBuffer.writing pos) (entry.serialize nextentry) ()
      (Entryplus3.chainWire (entry :: nextentry)) := by
  obtain ⟨shortName, shortHandle⟩ : entry.Fits := fits entry List.mem_cons_self
  induction nextentry generalizing entry with
  | nil =>
      rw [Entryplus3.chainWire_cons, Entryplus3.serialize]
      exact .cons (packUint64_emits _) <| .cons (packString_emits _ shortName) <|
        .cons (packUint64_emits _) <| .cons (entry.nameHandle.serialize_emits shortHandle) <|
        .cons entry.nameAttributes.serialize_emits <| .cons (packBool_emits _) <| .last (Emits.pure ())
  | cons next rest recurse =>
      obtain ⟨nextName, nextHandle⟩ := fits next (List.mem_cons_of_mem _ List.mem_cons_self)
      have later := recurse next (fun e member => fits e (List.mem_cons_of_mem _ member)) nextName nextHandle
      rw [Entryplus3.chainWire_cons, Entryplus3.serialize]
      exact .cons (packUint64_emits _) <| .cons (packString_emits _ shortName) <|
        .cons (packUint64_emits _) <| .cons (entry.nameHandle.serialize_emits shortHandle) <|
        .cons entry.nameAttributes.serialize_emits <| .cons (packBool_emits _) <| .last later

theorem Entryplus3.deserialize_reads (entry : Entryplus3) (nextentry : List Entryplus3) (unread : Nat)
    (fits : ∀ e ∈ entry :: nextentry, e.Fits) (depth : nextentry.length < unread) :
    Reads XdrBuffer.reading (Entryplus3.deserialize unread {} [])
      (Entryplus3.chainWire (entry :: nextentry))
      (·.map Entryplus3.visible = (entry :: nextentry).map Entryplus3.visible) := by
  obtain ⟨shortName, shortHandle⟩ : entry.Fits := fits entry List.mem_cons_self
  obtain ⟨unread, rfl⟩ : ∃ left, unread = left + 1 := ⟨unread - 1, by omega⟩
  induction nextentry generalizing entry unread with
  | nil =>
      rw [Entryplus3.chainWire_cons, Entryplus3.deserialize]
      refine .field (unpackUint64_reads _) <| .field (unpackString_reads _ shortName) <|
        .field (unpackUint64_reads _) <| .field (entry.nameHandle.deserialize_reads shortHandle) ?_
      apply Reads.cons (PostOpAttr.deserialize_reads {} entry.nameAttributes)
      intro _ same
      exact .field (unpackBool_reads _) <| .last (Reads.pure (by simp [Entryplus3.visible, same]))
  | cons next rest recurse =>
      obtain ⟨unread, rfl⟩ : ∃ left, unread = left + 1 := ⟨unread - 1, by simp at depth; omega⟩
      obtain ⟨nextName, nextHandle⟩ := fits next (List.mem_cons_of_mem _ List.mem_cons_self)
      have later := recurse next (fun e member => fits e (List.mem_cons_of_mem _ member))
        nextName nextHandle unread (by simpa using depth)
      rw [Entryplus3.chainWire_cons, Entryplus3.deserialize]
      refine .field (unpackUint64_reads _) <| .field (unpackString_reads _ shortName) <|
        .field (unpackUint64_reads _) <| .field (entry.nameHandle.deserialize_reads shortHandle) ?_
      apply Reads.cons (PostOpAttr.deserialize_reads {} entry.nameAttributes)
      intro _ same
      refine Reads.field (unpackBool_reads true) (Reads.cons later fun _ sameRest => Reads.done ?_)
      simp only [List.map_cons, Entryplus3.visible, same] at sameRest ⊢
      rw [sameRest]

theorem Dirlistplus3.serialize_emits (list : Dirlistplus3) (fits : list.Fits) :
    Emits (XdrBuffer.writing pos) list.serialize () list.wire := by
  obtain ⟨entries, eof⟩ := list
  apply Emits.cons (packBool_emits _)
  cases entries with
  | nil => exact Emits.last (packBool_emits _)
  | cons first rest => exact .cons (first.serialize_emits rest fits) <| .last (packBool_emits _)

theorem Dirlistplus3.deserialize_reads (list : Dirlistplus3) (fits : list.Fits) :
    Reads XdrBuffer.reading (Dirlistplus3.deserialize {}) list.wire (·.visible = list.visible) := by
  obtain ⟨entries, eof⟩ := list
  apply Reads.field (unpackBool_reads _)
  cases entries with
  | nil => exact .field (Reads.pure rfl) <| .field (unpackBool_reads _) <| .done rfl
  | cons first rest =>
      apply unreadBytes_reads
      intro unread enough
      have depth : rest.length < unread := by
        have entries := Entryplus3.length_le_chainWire (first :: rest)
        simp only [List.flatten_cons, List.length_append, List.length_cons] at entries enough
        omega
      apply Reads.cons (first.deserialize_reads rest unread fits depth)
      intro _ same
      exact .field (unpackBool_reads _) <| .done (by simp only [Dirlistplus3.visible, same])

theorem READDIRPLUS3resok.serialize_emits (res : READDIRPLUS3resok) (fits : res.reply.Fits) :
    Emits (XdrBuffer.writing pos) res.serialize () res.wire :=
  .cons res.dirAttributes.serialize_emits <| .cons (packUint64_emits _) <|
  .last (res.reply.serialize_emits fits)

theorem READDIRPLUS3resok.deserialize_reads (res : READDIRPLUS3resok) (fits : res.reply.Fits) :
    Reads XdrBuffer.reading (READDIRPLUS3resok.deserialize {}) res.wire (·.visible = res.visible) := by
  apply Reads.cons (PostOpAttr.deserialize_reads {} res.dirAttributes)
  intro _ same
  apply Reads.field (unpackUint64_reads _)
  refine Reads.cons (res.reply.deserialize_reads fits) fun _ sameReply => Reads.done ?_
  simp only [READDIRPLUS3resok.visible, same, sameReply]

end Nfs3Rpc
