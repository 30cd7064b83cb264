import Nfs3Rpc.Format.Truncation
import Nfs3Rpc.Proof.Builtin.Cuts
import Nfs3Rpc.Proof.Builtin.RoundTrip

namespace Nfs3Rpc
open Encoding Builtin

theorem SETATTR3args.deserialize_cuts (self args : SETATTR3args) (fits : args.Fits) :
    Cuts self.deserialize args.wire ((args.guard.map fun fh => padding fh.data.length).getD 0) := by
  apply Trims.cons (args.object.deserialize_cuts fits.1)
  intro _ _
  apply Trims.cons (Sattr3.deserialize_cuts _ args.newAttributes)
  intro _ _
  exact Trims.last (unpackOptional_cuts _ _ fun fh present => fh.deserialize_cuts (fits.2.2 fh present))

/-- The verifier of an EXCLUSIVE creation has eight bytes, so the arguments have no padding at their end. -/
theorem CREATE3args.deserialize_cuts (self args : CREATE3args) (fits : args.Fits) :
    Cuts self.deserialize args.wire 0 := by
  obtain ⟨dir, name, mode, attributes, verf⟩ := args
  unfold CREATE3args.deserialize
  apply Trims.cons (dir.deserialize_cuts fits.1)
  intro _ _
  apply Trims.field (unpackString_cuts name fits.2.1)
  apply Trims.field (unpackUint32_cuts mode.code)
  by_cases exclusive : mode = .EXCLUSIVE
  · subst exclusive
    apply Trims.cons (Sattr3.deserialize_cuts _ attributes)
    intro _ _
    exact Trims.last (self.howVerf.deserialize_cuts verf)
  · simp only [exclusive, if_false]
    exact Trims.last (Sattr3.deserialize_cuts _ attributes)

theorem WRITE3args.deserialize_cuts (args : WRITE3args) (fits : args.Fits) :
    Cuts WRITE3args.deserialize args.wire (padding args.data.length) := by
  apply Trims.cons (args.file.deserialize_cuts fits.1)
  intro _ _
  apply Trims.field (unpackUint64_cuts _)
  apply Trims.field (unpackUint32_cuts _)
  apply Trims.field (unpackUint32_cuts _)
  exact Trims.last (unpackOpaque_cuts _ fits.2)

theorem SYMLINK3args.deserialize_cuts (self args : SYMLINK3args) (fits : args.Fits) :
    Cuts self.deserialize args.wire (padding args.symlinkData.length) := by
  apply Trims.cons (args.whereDir.deserialize_cuts fits.1)
  intro _ _
  apply Trims.field (unpackString_cuts _ fits.2.1)
  apply Trims.cons (Sattr3.deserialize_cuts _ args.symlinkAttributes)
  intro _ _
  exact Trims.last (unpackString_cuts _ fits.2.2.2)

theorem MKDIR3args.deserialize_cuts (self args : MKDIR3args) (fits : args.Fits) :
    Cuts self.deserialize args.wire 0 := by
  apply Trims.cons (args.whereDir.deserialize_cuts fits.1)
  intro _ _
  apply Trims.field (unpackString_cuts _ fits.2.1)
  exact Trims.last (Sattr3.deserialize_cuts _ args.attributes)

theorem MKNOD3args.deserialize_cuts (self args : MKNOD3args) (fits : args.Fits) :
    Cuts self.deserialize args.wire 0 := by
  apply Trims.cons (args.whereDir.deserialize_cuts fits.1)
  intro _ _
  apply Trims.field (unpackString_cuts _ fits.2.1)
  apply Trims.field (unpackUint32_cuts _)
  exact Trims.last (Sattr3.deserialize_cuts _ args.whatAttributes)

theorem RENAME3args.deserialize_cuts (args : RENAME3args) (fits : args.Fits) :
    Cuts RENAME3args.deserialize args.wire (padding args.toName.length) := by
  apply Trims.cons (args.fromDir.deserialize_cuts fits.1)
  intro _ _
  apply Trims.field (unpackString_cuts _ fits.2.1)
  apply Trims.cons (args.toDir.deserialize_cuts fits.2.2.1)
  intro _ _
  exact Trims.last (unpackString_cuts _ fits.2.2.2)

theorem LINK3args.deserialize_cuts (args : LINK3args) (fits : args.Fits) :
    Cuts LINK3args.deserialize args.wire (padding args.linkName.length) := by
  apply Trims.cons (args.file.deserialize_cuts fits.1)
  intro _ _
  apply Trims.cons (args.linkDir.deserialize_cuts fits.2.1)
  intro _ _
  exact Trims.last (unpackString_cuts _ fits.2.2)

/-- Only a byte string at the end of the arguments has padding that can be lost. -/
theorem ProcNum.deserializeArgs_cuts (proc : ProcNum) (prior args : proc.Args) (fits : proc.ArgsFit args) :
    Cuts (proc.deserializeArgs prior) (proc.argsWire args) (proc.argsPadding args) := by
  cases proc with
  | GETATTR => exact (NfsFh3.deserialize_cuts _ fits).returning fun _ _ => trivial
  | SETATTR => exact SETATTR3args.deserialize_cuts prior args fits
  | LOOKUP => exact .cons (NfsFh3.deserialize_cuts _ fits.1) fun _ _ => .last (unpackString_cuts _ fits.2)
  | ACCESS => exact .cons (NfsFh3.deserialize_cuts _ fits) fun _ _ => .last (unpackUint32_cuts _)
  | READLINK => exact (NfsFh3.deserialize_cuts _ fits).returning fun _ _ => trivial
  | READ =>
      exact .cons (NfsFh3.deserialize_cuts _ fits) fun _ _ =>
        .field (unpackUint64_cuts _) (.last (unpackUint32_cuts _))
  | WRITE => exact WRITE3args.deserialize_cuts args fits
  | CREATE => exact CREATE3args.deserialize_cuts prior args fits
  | MKDIR => exact MKDIR3args.deserialize_cuts prior args fits
  | SYMLINK => exact SYMLINK3args.deserialize_cuts prior args fits
  | MKNOD => exact MKNOD3args.deserialize_cuts prior args fits
  | REMOVE => exact .cons (NfsFh3.deserialize_cuts _ fits.1) fun _ _ => .last (unpackString_cuts _ fits.2)
  | RMDIR => exact .cons (NfsFh3.deserialize_cuts _ fits.1) fun _ _ => .last (unpackString_cuts _ fits.2)
  | RENAME => exact RENAME3args.deserialize_cuts args fits
  | LINK => exact LINK3args.deserialize_cuts args fits
  | READDIR =>
      exact .cons (NfsFh3.deserialize_cuts _ fits) fun _ _ =>
        .field (unpackUint64_cuts _) (.field (unpackUint64_cuts _) (.last (unpackUint32_cuts _)))
  | READDIRPLUS =>
      exact .cons (NfsFh3.deserialize_cuts _ fits) fun _ _ =>
        .field (unpackUint64_cuts _) (.field (unpackUint64_cuts _)
          (.field (unpackUint32_cuts _) (.last (unpackUint32_cuts _))))
  | FSSTAT => exact (NfsFh3.deserialize_cuts _ fits).returning fun _ _ => trivial
  | FSINFO => exact (NfsFh3.deserialize_cuts _ fits).returning fun _ _ => trivial
  | PATHCONF => exact (NfsFh3.deserialize_cuts _ fits).returning fun _ _ => trivial
  | COMMIT =>
      exact .cons (NfsFh3.deserialize_cuts _ fits) fun _ _ =>
        .field (unpackUint64_cuts _) (.last (unpackUint32_cuts _))

/-- A reader of the unread byte count notices a cut when it does so with the count that the cut leaves. -/
theorem unreadBytes_cuts {α : Type} {next : Nat → Xdr α} {wire : Bytes} {result : α → Prop}
    (possible : ∃ value, result value) (positive : 0 < wire.length)
    (reads : ∀ unread, wire.length ≤ unread → Reads XdrBuffer.reading (next unread) wire result)
    (starves : ∀ unread, Starves XdrBuffer.reading XdrBuffer.past (next unread))
    (rejects : ∀ cut, cut < wire.length → Rejects XdrBuffer.reading (next cut) (wire.take cut)) :
    Trims XdrBuffer.reading XdrBuffer.past (unreadBytes >>= next) wire 0 result := by
  constructor
  · exact possible
  · exact positive
  · exact unreadBytes_reads reads
  · intro buf empty
    exact starves (buf.buffer.length - buf.pos) buf empty
  · intro cut noticed buf before placed
    have left : buf.buffer.length - buf.pos = cut := by
      subst placed
      simp only [List.length_append, List.length_take]
      omega
    have fails := rejects cut noticed buf before placed
    rw [← left] at fails
    exact fails
  · intro cut inside unseen
    omega

theorem unpackString_starves : Starves XdrBuffer.reading XdrBuffer.past unpackString :=
  (unpackUint32_cuts 0).starves.bind

theorem unpackOpaque_starves : Starves XdrBuffer.reading XdrBuffer.past unpackOpaque :=
  (unpackUint32_cuts 0).starves.bind

theorem Entry3.deserialize_starves (unread : Nat) (nextentry : List Entry3) :
    Starves XdrBuffer.reading XdrBuffer.past (Entry3.deserialize unread nextentry) := by
  rw [Entry3.deserialize.eq_def]
  exact (unpackUint64_cuts 0).starves.bind

theorem Entry3.deserialize_rejects_empty {unread cut : Nat} {wire : Bytes} (none : cut = 0) :
    Rejects XdrBuffer.reading (Entry3.deserialize unread []) (wire.take cut) := by
  subst none
  intro buf before placed
  exact Entry3.deserialize_starves unread [] buf (.inr ⟨before, placed⟩)

/-- Both kinds of entries start with these three fields. -/
theorem entryFields_reject {α : Type} {next : UInt64 → Bytes → UInt64 → Xdr α} {fileid cookie : UInt64}
    {name : Bytes} {fields : List Bytes} {cut : Nat} (short : Short name)
    (starves : Starves XdrBuffer.reading XdrBuffer.past (next fileid name cookie))
    (later : 16 + (opaqueBytes name).length ≤ cut → Rejects XdrBuffer.reading (next fileid name cookie)
      (fields.flatten.take (cut - (16 + (opaqueBytes name).length)))) :
    Rejects XdrBuffer.reading (do next (← unpackUint64) (← unpackString) (← unpackUint64))
      ((be64 fileid :: opaqueBytes name :: be64 cookie :: fields).flatten.take cut) := by
  apply (unpackUint64_cuts fileid).rejects_field
  · intro _ _
    exact unpackString_starves.bind
  intro first _ same
  rw [same, be64_length]
  apply (unpackString_cuts name short).rejects_field
  · intro _ _
    exact (unpackUint64_cuts 0).starves.bind
  intro second _ same
  rw [same]
  apply (unpackUint64_cuts cookie).rejects_field
  · intro _ same
    rw [same]
    exact starves
  intro third _ same
  rw [same]
  rw [be64_length] at first third ⊢
  have left : cut - 8 - (opaqueBytes name).length - 8 = cut - (16 + (opaqueBytes name).length) := by omega
  rw [left]
  exact later (by omega)

/-- The chain notices a cut in any of its entries. The count of the bytes that are left bounds the depth. -/
theorem Entry3.deserialize_rejects (entry : Entry3) (nextentry : List Entry3)
    (fits : ∀ e ∈ entry :: nextentry, Short e.name) (unread cut : Nat) (bound : cut ≤ unread)
    (inside : cut < (Entry3.chainWire (entry :: nextentry)).length) :
    Rejects XdrBuffer.reading (Entry3.deserialize unread []) ((Entry3.chainWire (entry :: nextentry)).take cut) := by
  have short : Short entry.name := fits entry List.mem_cons_self
  induction nextentry generalizing entry unread cut with
  | nil =>
      cases unread with
      | zero => exact Entry3.deserialize_rejects_empty (Nat.le_zero.mp bound)
      | succ unread =>
          rw [Entry3.chainWire_cons] at inside ⊢
          rw [Entry3.deserialize]
          simp only [List.flatten_cons, List.flatten_nil, List.length_append, be64_length, beBool_length] at inside
          apply entryFields_reject short
          · exact (unpackBool_cuts false).starves.bind
          intro late
          apply Rejects.bind
          apply (unpackBool_cuts false).rejects
          simp only [Entry3.chainWire, List.length_nil] at inside
          rw [beBool_length]
          omega
  | cons next rest recurse =>
      cases unread with
      | zero => exact Entry3.deserialize_rejects_empty (Nat.le_zero.mp bound)
      | succ unread =>
          rw [Entry3.chainWire_cons] at inside ⊢
          rw [Entry3.deserialize]
          simp only [List.flatten_cons, List.flatten_nil, List.length_append, be64_length, beBool_length] at inside
          apply entryFields_reject short
          · exact (unpackBool_cuts false).starves.bind
          intro late
          apply (unpackBool_cuts true).rejects_field
          · intro _ same
            rw [same]
            exact (Entry3.deserialize_starves unread []).bind
          intro flagged _ same
          have tail : [Entry3.chainWire (next :: rest)].flatten = Entry3.chainWire (next :: rest) := List.append_nil _
          rw [same, tail]
          rw [beBool_length] at flagged ⊢
          apply Rejects.bind
          apply recurse next (fun e member => fits e (List.mem_cons_of_mem _ member))
          · omega
          · rw [List.length_nil] at inside
            omega
          · exact fits next (List.mem_cons_of_mem _ List.mem_cons_self)

/-- The decoder of the entries notices every cut. -/
theorem Entry3.entries_cuts (first : Entry3) (rest : List Entry3) (fits : ∀ e ∈ first :: rest, Short e.name) :
    CutsTo (unreadBytes >>= fun unread => Entry3.deserialize unread []) (Entry3.chainWire (first :: rest)) 0
      (first :: rest) := by
  have entries := Entry3.length_le_chainWire (first :: rest)
  rw [List.length_cons] at entries
  apply unreadBytes_cuts
  · exact ⟨_, rfl⟩
  · omega
  · intro unread enough
    exact first.deserialize_reads rest unread fits (by omega)
  · intro unread
    exact Entry3.deserialize_starves unread []
  · intro cut inside
    exact first.deserialize_rejects rest fits cut cut (Nat.le_refl cut) inside

theorem Dirlist3.deserialize_cuts (self list : Dirlist3) (fits : list.Fits) : Cuts self.deserialize list.wire 0 := by
  obtain ⟨entries, eof⟩ := list
  unfold Dirlist3.wire Dirlist3.deserialize
  cases entries with
  | nil => exact .field (unpackBool_cuts false) (.last (unpackBool_cuts eof))
  | cons first rest =>
      apply Trims.field (unpackBool_cuts true)
      simp only [if_true]
      rw [← bind_assoc]
      exact Trims.field (first.entries_cuts rest fits) (.last (unpackBool_cuts eof))

theorem Entryplus3.deserialize_starves (unread : Nat) (self : Entryplus3) (nextentry : List Entryplus3) :
    Starves XdrBuffer.reading XdrBuffer.past (Entryplus3.deserialize unread self nextentry) := by
  rw [Entryplus3.deserialize.eq_def]
  exact (unpackUint64_cuts 0).starves.bind

theorem Entryplus3.deserialize_rejects_empty {unread cut : Nat} {wire : Bytes} (none : cut = 0) :
    Rejects XdrBuffer.reading (Entryplus3.deserialize unread {} []) (wire.take cut) := by
  subst none
  intro buf before placed
  exact Entryplus3.deserialize_starves unread {} [] buf (.inr ⟨before, placed⟩)

/-- The handle and the attributes stand between the cookie and the flag of an entry. -/
theorem entryplusFields_reject {α : Type} {next : UInt64 → Bytes → UInt64 → NfsFh3 → PostOpAttr → Xdr α}
    {entry : Entryplus3} {self : PostOpAttr} {fields : List Bytes} {cut : Nat} (fits : entry.Fits)
    (starves : ∀ handle attributes,
      Starves XdrBuffer.reading XdrBuffer.past (next entry.fileid entry.name entry.cookie handle attributes))
    (later : ∀ left, left + 24 ≤ cut →
      cut = left + (16 + (opaqueBytes entry.name).length + entry.nameHandle.wire.length +
        entry.nameAttributes.wire.length) →
      ∀ handle attributes, Rejects XdrBuffer.reading (next entry.fileid entry.name entry.cookie handle attributes)
        (fields.flatten.take left)) :
    Rejects XdrBuffer.reading
      (do next (← unpackUint64) (← unpackString) (← unpackUint64) (← NfsFh3.deserialize) (← self.deserialize))
      ((be64 entry.fileid :: opaqueBytes entry.name :: be64 entry.cookie :: entry.nameHandle.wire ::
        entry.nameAttributes.wire :: fields).flatten.take cut) := by
  have size := opaqueBytes_length entry.name
  have handleSize := opaqueBytes_length entry.nameHandle.data
  apply entryFields_reject fits.1
  · exact unpackOpaque_starves.bind.bind
  intro late
  apply (entry.nameHandle.deserialize_cuts fits.2).rejects_field
  · intro _ _
    exact (PostOpAttr.deserialize_cuts _ {}).starves.bind
  intro handled handle _
  apply (PostOpAttr.deserialize_cuts _ entry.nameAttributes).rejects_field
  · intro attributes _
    exact starves handle attributes
  intro attributed attributes _
  apply later
  · unfold NfsFh3.wire at handled attributed ⊢
    omega
  · omega

theorem Entryplus3.deserialize_rejects (entry : Entryplus3) (nextentry : List Entryplus3)
    (fits : ∀ e ∈ entry :: nextentry, e.Fits) (unread cut : Nat) (bound : cut ≤ unread)
    (inside : cut < (Entryplus3.chainWire (entry :: nextentry)).length) :
    Rejects XdrBuffer.reading (Entryplus3.deserialize unread {} [])
      ((Entryplus3.chainWire (entry :: nextentry)).take cut) := by
  have here : entry.Fits := fits entry List.mem_cons_self
  induction nextentry generalizing entry unread cut with
  | nil =>
      cases unread with
      | zero => exact Entryplus3.deserialize_rejects_empty (Nat.le_zero.mp bound)
      | succ unread =>
          rw [Entryplus3.chainWire_cons] at inside ⊢
          rw [Entryplus3.deserialize]
          simp only [List.flatten_cons, List.flatten_nil, List.length_append, be64_length, beBool_length] at inside
          apply entryplusFields_reject here
          · intro _ _
            exact (unpackBool_cuts false).starves.bind
          intro left late sum _ _
          apply Rejects.bind
          apply (unpackBool_cuts false).rejects
          simp only [Entryplus3.chainWire, List.length_nil] at inside
          rw [beBool_length]
          omega
  | cons next rest recurse =>
      cases unread with
      | zero => exact Entryplus3.deserialize_rejects_empty (Nat.le_zero.mp bound)
      | succ unread =>
          rw [Entryplus3.chainWire_cons] at inside ⊢
          rw [Entryplus3.deserialize]
          simp only [List.flatten_cons, List.flatten_nil, List.length_append, be64_length, beBool_length] at inside
          apply entryplusFields_reject here
          · intro _ _
            exact (unpackBool_cuts false).starves.bind
          intro left late sum _ _
          apply (unpackBool_cuts true).rejects_field
          · intro _ same
            rw [same]
            exact (Entryplus3.deserialize_starves unread {} []).bind
          intro flagged _ same
          have tail : [Entryplus3.chainWire (next :: rest)].flatten = Entryplus3.chainWire (next :: rest) :=
            List.append_nil _
          rw [same, tail]
          rw [beBool_length] at flagged ⊢
          apply Rejects.bind
          apply recurse next (fun e member => fits e (List.mem_cons_of_mem _ member))
          · omega
          · rw [List.length_nil] at inside
            omega
          · exact fits next (List.mem_cons_of_mem _ List.mem_cons_self)

theorem Entryplus3.entries_cuts (first : Entryplus3) (rest : List Entryplus3) (fits : ∀ e ∈ first :: rest, e.Fits) :
    Cuts (unreadBytes >>= fun unread => Entryplus3.deserialize unread {} []) (Entryplus3.chainWire (first :: rest))
      0 := by
  have entries := Entryplus3.length_le_chainWire (first :: rest)
  rw [List.length_cons] at entries
  apply unreadBytes_cuts
  · exact ⟨[], trivial⟩
  · omega
  · intro unread enough
    exact (first.deserialize_reads rest unread fits (by omega)).weaken fun _ _ => trivial
  · intro unread
    exact Entryplus3.deserialize_starves unread {} []
  · intro cut inside
    exact first.deserialize_rejects rest fits cut cut (Nat.le_refl cut) inside

theorem Dirlistplus3.deserialize_cuts (self list : Dirlistplus3) (fits : list.Fits) :
    Cuts self.deserialize list.wire 0 := by
  obtain ⟨entries, eof⟩ := list
  unfold Dirlistplus3.wire Dirlistplus3.deserialize
  cases entries with
  | nil => exact .field (unpackBool_cuts false) (.last (unpackBool_cuts eof))
  | cons first rest =>
      apply Trims.field (unpackBool_cuts true)
      simp only [if_true]
      rw [← bind_assoc]
      exact Trims.cons (first.entries_cuts rest fits) fun _ _ => .last (unpackBool_cuts eof)

theorem LOOKUP3resok.deserialize_cuts (self res : LOOKUP3resok) (fits : res.object.Fits) :
    Cuts self.deserialize res.wire 0 := by
  apply Trims.cons (res.object.deserialize_cuts fits)
  intro _ _
  apply Trims.cons (PostOpAttr.deserialize_cuts _ res.objAttributes)
  intro _ _
  exact Trims.last (PostOpAttr.deserialize_cuts _ res.dirAttributes)

theorem ACCESS3resok.deserialize_cuts (self res : ACCESS3resok) : Cuts self.deserialize res.wire 0 := by
  apply Trims.cons (PostOpAttr.deserialize_cuts _ res.objAttributes)
  intro _ _
  exact Trims.last (unpackUint32_cuts _)

theorem READLINK3resok.deserialize_cuts (self res : READLINK3resok) (short : Short res.data) :
    Cuts self.deserialize res.wire (padding res.data.length) := by
  apply Trims.cons (PostOpAttr.deserialize_cuts _ res.symlinkAttributes)
  intro _ _
  exact Trims.last (unpackString_cuts _ short)

theorem READ3resok.deserialize_cuts (self res : READ3resok) (short : Short res.data) :
    Cuts self.deserialize res.wire (padding res.data.length) := by
  apply Trims.cons (PostOpAttr.deserialize_cuts _ res.fileAttributes)
  intro _ _
  apply Trims.field (unpackUint64_cuts _)
  apply Trims.field (unpackBool_cuts _)
  exact Trims.last (unpackOpaque_cuts _ short)

theorem WRITE3resok.deserialize_cuts (self res : WRITE3resok) : Cuts self.deserialize res.wire 0 := by
  apply Trims.cons (PostOpAttr.deserialize_cuts _ res.fileAttributes)
  intro _ _
  apply Trims.field (unpackUint32_cuts _)
  apply Trims.field (unpackUint32_cuts _)
  exact Trims.last (Verifier.deserialize_cuts _ res.verf)

theorem NewObject.deserialize_cuts (self res : NewObject) (fits : res.object.Fits) :
    Cuts self.deserialize res.wire (padding res.object.data.length) := by
  apply Trims.cons (PostOpAttr.deserialize_cuts _ res.objAttributes)
  intro _ _
  apply Trims.cons (WccData.deserialize_cuts _ res.dirWcc)
  intro _ _
  exact Trims.last (res.object.deserialize_cuts fits)

theorem RENAME3resok.deserialize_cuts (self res : RENAME3resok) : Cuts self.deserialize res.wire 0 := by
  apply Trims.cons (WccData.deserialize_cuts _ res.fromdirWcc)
  intro _ _
  exact Trims.last (WccData.deserialize_cuts _ res.todirWcc)

theorem LINK3resok.deserialize_cuts (self res : LINK3resok) : Cuts self.deserialize res.wire 0 := by
  apply Trims.cons (PostOpAttr.deserialize_cuts _ res.fileAttributes)
  intro _ _
  exact Trims.last (WccData.deserialize_cuts _ res.linkdirWcc)

theorem READDIR3resok.deserialize_cuts (self res : READDIR3resok) (fits : res.reply.Fits) :
    Cuts self.deserialize res.wire 0 := by
  apply Trims.cons (PostOpAttr.deserialize_cuts _ res.dirAttributes)
  intro _ _
  apply Trims.field (unpackUint64_cuts _)
  exact Trims.last (Dirlist3.deserialize_cuts _ res.reply fits)

theorem READDIRPLUS3resok.deserialize_cuts (self res : READDIRPLUS3resok) (fits : res.reply.Fits) :
    Cuts self.deserialize res.wire 0 := by
  apply Trims.cons (PostOpAttr.deserialize_cuts _ res.dirAttributes)
  intro _ _
  apply Trims.field (unpackUint64_cuts _)
  exact Trims.last (Dirlistplus3.deserialize_cuts _ res.reply fits)

theorem FSSTAT3resok.deserialize_cuts (self res : FSSTAT3resok) : Cuts self.deserialize res.wire 0 := by
  apply Trims.cons (PostOpAttr.deserialize_cuts _ res.objAttributes)
  intro _ _
  apply Trims.field (unpackUint64_cuts _)
  apply Trims.field (unpackUint64_cuts _)
  apply Trims.field (unpackUint64_cuts _)
  apply Trims.field (unpackUint64_cuts _)
  apply Trims.field (unpackUint64_cuts _)
  apply Trims.field (unpackUint64_cuts _)
  exact Trims.last (unpackUint32_cuts _)

theorem FSINFO3resok.deserialize_cuts (self res : FSINFO3resok) : Cuts self.deserialize res.wire 0 := by
  apply Trims.cons (PostOpAttr.deserialize_cuts _ res.objAttributes)
  intro _ _
  apply Trims.field (unpackUint32_cuts _)
  apply Trims.field (unpackUint32_cuts _)
  apply Trims.field (unpackUint32_cuts _)
  apply Trims.field (unpackUint32_cuts _)
  apply Trims.field (unpackUint32_cuts _)
  apply Trims.field (unpackUint32_cuts _)
  apply Trims.field (unpackUint32_cuts _)
  apply Trims.field (unpackUint64_cuts _)
  apply Trims.field (unpackUint32_cuts _)
  apply Trims.field (unpackUint32_cuts _)
  exact Trims.last (unpackUint32_cuts _)

theorem Pathconf3ResokInfo.deserialize_cuts (info : Pathconf3ResokInfo) :
    Cuts Pathconf3ResokInfo.deserialize info.wire 0 := by
  apply Trims.field (unpackInt32_cuts _)
  apply Trims.field (unpackInt32_cuts _)
  apply Trims.field (unpackBool_cuts _)
  apply Trims.field (unpackBool_cuts _)
  apply Trims.field (unpackBool_cuts _)
  exact Trims.last (unpackBool_cuts _)

theorem PATHCONF3resok.deserialize_cuts (self res : PATHCONF3resok) : Cuts self.deserialize res.wire 0 := by
  apply Trims.cons (PostOpAttr.deserialize_cuts _ res.objAttributes)
  intro _ _
  exact Trims.last res.info.deserialize_cuts

theorem COMMIT3resok.deserialize_cuts (self res : COMMIT3resok) : Cuts self.deserialize res.wire 0 := by
  apply Trims.cons (PostOpAttr.deserialize_cuts _ res.fileWcc)
  intro _ _
  exact Trims.last (Verifier.deserialize_cuts _ res.verf)

/-- A successful result ends as its `resok` does, and a failed one ends in its status. -/
theorem Res.deserialize_cuts {ok : Type} {okDeserialize : Xdr ok} {wire : ok → Bytes} {slack : ok → Nat}
    (self res : Res ok) (matching : res.status = .NFS3_OK ↔ res.resok.isSome = true)
    (cuts : ∀ resok ∈ res.resok, Cuts okDeserialize (wire resok) (slack resok)) :
    Cuts (Res.deserialize okDeserialize self) (be32 res.status.code :: res.resok.toList.map wire).flatten
      ((res.resok.map slack).getD 0) := by
  obtain ⟨status, resok⟩ := res
  unfold Res.deserialize
  cases resok with
  | none =>
      have failed : status ≠ .NFS3_OK := by simpa using matching
      apply (unpackUint32_cuts status.code).finishing
      intro code same
      refine ⟨{ self with status := status }, ?_, trivial⟩
      rw [same, if_neg failed]
  | some resok =>
      obtain rfl : status = .NFS3_OK := by simpa using matching
      exact .field (unpackUint32_cuts _) (.last (cuts resok rfl))

/-- Only link text, file data, and the handle of a new object stand at the end of a result. -/
theorem ProcNum.deserializeRes_cuts (proc : ProcNum) (uninit : Verifier) (prior res : Res proc.Resok)
    (fits : proc.ResFit res) :
    Cuts (proc.deserializeRes uninit prior) (proc.resWire res) (proc.resPadding res) := by
  obtain ⟨matching, short⟩ := fits
  cases proc with
  | GETATTR =>
      exact Res.deserialize_cuts prior res matching fun resok _ =>
        (Fattr3.deserialize_cuts resok.objAttributes).returning fun _ _ => trivial
  | SETATTR =>
      exact Res.deserialize_cuts prior res matching fun resok _ =>
        (WccData.deserialize_cuts _ resok.objWcc).returning fun _ _ => trivial
  | LOOKUP =>
      exact Res.deserialize_cuts prior res matching fun resok present =>
        LOOKUP3resok.deserialize_cuts _ resok (short resok present)
  | ACCESS =>
      exact Res.deserialize_cuts prior res matching fun resok _ =>
        ACCESS3resok.deserialize_cuts _ resok
  | READLINK =>
      exact Res.deserialize_cuts prior res matching fun resok present =>
        READLINK3resok.deserialize_cuts _ resok (short resok present)
  | READ =>
      exact Res.deserialize_cuts prior res matching fun resok present =>
        READ3resok.deserialize_cuts _ resok (short resok present)
  | WRITE =>
      exact Res.deserialize_cuts prior res matching fun resok _ =>
        WRITE3resok.deserialize_cuts _ resok
  | CREATE =>
      exact Res.deserialize_cuts prior res matching fun resok present =>
        NewObject.deserialize_cuts _ resok (short resok present)
  | MKDIR =>
      exact Res.deserialize_cuts prior res matching fun resok present =>
        NewObject.deserialize_cuts _ resok (short resok present)
  | SYMLINK =>
      exact Res.deserialize_cuts prior res matching fun resok present =>
        NewObject.deserialize_cuts _ resok (short resok present)
  | MKNOD =>
      exact Res.deserialize_cuts prior res matching fun resok present =>
        NewObject.deserialize_cuts _ resok (short resok present)
  | REMOVE =>
      exact Res.deserialize_cuts prior res matching fun resok _ =>
        (WccData.deserialize_cuts _ resok.dirWcc).returning fun _ _ => trivial
  | RMDIR =>
      exact Res.deserialize_cuts prior res matching fun resok _ =>
        (WccData.deserialize_cuts _ resok.dirWcc).returning fun _ _ => trivial
  | RENAME =>
      exact Res.deserialize_cuts prior res matching fun resok _ =>
        RENAME3resok.deserialize_cuts _ resok
  | LINK =>
      exact Res.deserialize_cuts prior res matching fun resok _ =>
        LINK3resok.deserialize_cuts _ resok
  | READDIR =>
      exact Res.deserialize_cuts prior res matching fun resok present =>
        READDIR3resok.deserialize_cuts _ resok (short resok present)
  | READDIRPLUS =>
      exact Res.deserialize_cuts prior res matching fun resok present =>
        READDIRPLUS3resok.deserialize_cuts _ resok (short resok present)
  | FSSTAT =>
      exact Res.deserialize_cuts prior res matching fun resok _ =>
        FSSTAT3resok.deserialize_cuts _ resok
  | FSINFO =>
      exact Res.deserialize_cuts prior res matching fun resok _ =>
        FSINFO3resok.deserialize_cuts _ resok
  | PATHCONF =>
      exact Res.deserialize_cuts prior res matching fun resok _ =>
        PATHCONF3resok.deserialize_cuts _ resok
  | COMMIT =>
      exact Res.deserialize_cuts prior res matching fun resok _ =>
        COMMIT3resok.deserialize_cuts _ resok

/-- A writer and a reader of the same wire notice exactly the cuts that are before the slack. -/
theorem NoticesCuts.of_wire {α : Type} {serialize : α → Xdr Unit} {deserialize : α → Xdr α}
    {Fresh Fits : α → Prop}
    {lastPadding : α → Nat} (wire : α → Bytes)
    (emits : ∀ value, Fits value → Emits (XdrBuffer.writing 0) (serialize value) () (wire value))
    (cuts : ∀ prior value, Fits value → Cuts (deserialize prior) (wire value) (lastPadding value)) :
    NoticesCuts serialize deserialize Fresh Fits lastPadding := by
  intro value fits prior _
  refine ⟨wire value, run_of_emits (emits value fits), fun cut inside => ?_⟩
  have placed : XdrBuffer.reading ⟨(wire value).take cut, 0⟩ [] ((wire value).take cut) := rfl
  have noticed := (cuts prior value fits).rejects_iff inside placed
  refine ⟨noticed, ?_⟩
  constructor
  · intro stays
    by_contra unseen
    obtain ⟨got, last, runs, _, beyond⟩ :=
      (cuts prior value fits).slips cut inside (Nat.le_of_not_lt unseen) _ _ placed
    exact absurd (stays got last runs) (Nat.not_le_of_lt beyond)
  · intro before got last runs
    obtain ⟨error, stopped, fails⟩ := noticed.mpr before
    rw [runs] at fails
    exact nomatch fails

/-- An unpack that returns from this buffer leaves its cursor inside exactly when the condition holds. -/
def EndsInside {α : Type} (program : Xdr α) (buf : XdrBuffer) (condition : Prop) : Prop :=
  ∀ got next, program buf = .ok got next → (next.pos ≤ next.buffer.length ↔ condition)

theorem EndsInside.returning {α β : Type} {program : Xdr α} {f : α → β} {buf : XdrBuffer} {condition : Prop}
    (inner : EndsInside program buf condition) :
    EndsInside (program >>= fun value => pure (f value)) buf condition := by
  intro got next runs
  obtain ⟨value, middle, starts, returns⟩ := ok_of_bind_ok runs
  obtain ⟨_, rfl⟩ := EStateM.Result.ok.inj returns
  exact inner value middle starts

theorem fetch_inside (count : Nat) (buf : XdrBuffer) :
    EndsInside (fetch count) buf (buf.pos + count ≤ buf.buffer.length) := by
  intro bytes next runs
  obtain ⟨space, _, rfl⟩ := fetch_ok runs
  exact Iff.rfl

/-- A byte string that is read lies inside the buffer exactly when its padding does. -/
theorem unpackOpaque_inside (buf : XdrBuffer) :
    EndsInside unpackOpaque buf (buf.pos + Primitive.varOpaque.extent buf ≤ buf.buffer.length) := by
  intro got next runs
  obtain ⟨len, middle, words, runs⟩ := ok_of_bind_ok runs
  obtain ⟨bytes, same, fetches, returns⟩ := ok_of_bind_ok words
  obtain ⟨rfl, rfl⟩ := EStateM.Result.ok.inj returns
  obtain ⟨_, rfl, rfl⟩ := fetch_ok fetches
  obtain ⟨data, last, fetches, runs⟩ := ok_of_bind_ok runs
  obtain ⟨_, _, rfl⟩ := fetch_ok fetches
  obtain ⟨_, rfl⟩ := EStateM.Result.ok.inj runs
  simp only [Primitive.extent, leadingWord_take]
  omega

theorem unpackItem_inside (kind : Primitive) : kind.StaysInside := by
  intro buf
  cases kind with
  | int32 => exact (fetch_inside 4 buf).returning.returning
  | uint32 => exact (fetch_inside 4 buf).returning.returning
  | uint64 => exact (fetch_inside 8 buf).returning.returning
  | bool => exact (fetch_inside 4 buf).returning.returning.returning
  | string => exact (unpackOpaque_inside buf).returning
  | varOpaque => exact (unpackOpaque_inside buf).returning

/-- The codec refuses a cut message exactly when the cut is before the last padding. Otherwise its cursor is
past the end, because the padding of a byte string is skipped without a check. -/
theorem ProcNum.codec_notices_cuts (proc : ProcNum) (uninit : Verifier) :
    NoticesCuts proc.serializeArgs proc.deserializeArgs proc.FreshArgs proc.ArgsFit proc.argsPadding ∧
      NoticesCuts proc.serializeRes (proc.deserializeRes uninit) proc.FreshRes proc.ResFit proc.resPadding ∧
      ∀ kind : Primitive, kind.StaysInside :=
  ⟨.of_wire proc.argsWire proc.serializeArgs_emits proc.deserializeArgs_cuts,
    .of_wire proc.resWire proc.serializeRes_emits (proc.deserializeRes_cuts uninit), unpackItem_inside⟩

/-- One byte of padding ends this LOOKUP message, so only the cut in front of it is missed. -/
theorem ProcNum.codec_notices_cuts_lookup :
    ∃ wire, LOOKUP3args.serialize ⟨⟨[]⟩, [97, 98, 99]⟩ XdrBuffer.empty = .ok () ⟨wire, 0⟩ ∧
      ∀ cut, cut < wire.length →
        ((∃ error last, LOOKUP3args.deserialize ⟨wire.take cut, 0⟩ = .error error last) ↔
          cut + 1 < wire.length) := by
  have fits : ProcNum.LOOKUP.ArgsFit ⟨⟨[]⟩, [97, 98, 99]⟩ :=
    ⟨show Short [] by decide, show Short [97, 98, 99] by decide⟩
  obtain ⟨wire, writes, cuts⟩ :=
    (ProcNum.codec_notices_cuts .LOOKUP .zero).1 ⟨⟨[]⟩, [97, 98, 99]⟩ fits {} rfl
  exact ⟨wire, writes, fun cut inside => (cuts cut inside).1⟩

/-- The last byte of this LOOKUP message is padding. Without it the message decodes, and the cursor is at 12 in a
buffer of 11 bytes. -/
theorem LOOKUP3args.cut_unnoticed :
    LOOKUP3args.serialize ⟨⟨[]⟩, [97, 98, 99]⟩ XdrBuffer.empty =
        .ok () ⟨[0, 0, 0, 0, 0, 0, 0, 3, 97, 98, 99] ++ [0], 0⟩ ∧
      LOOKUP3args.deserialize ⟨[0, 0, 0, 0, 0, 0, 0, 3, 97, 98, 99], 0⟩ =
        .ok ⟨⟨[]⟩, [97, 98, 99]⟩ ⟨[0, 0, 0, 0, 0, 0, 0, 3, 97, 98, 99], 12⟩ :=
  ⟨rfl, rfl⟩

end Nfs3Rpc
