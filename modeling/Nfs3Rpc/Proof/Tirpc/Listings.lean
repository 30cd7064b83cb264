import Nfs3Rpc.Proof.Tirpc.SameOutput

namespace Nfs3Rpc.Tirpc
open Encoding

variable {σ : Type} {lib : Libtirpc σ}

section
variable (encoder : Rfc4506Encoder lib)
include encoder

theorem xdrEntry3List_emits (entries : List Entry3) (taken : ∀ entry ∈ entries, NameTaken entry.name)
    (rounds : Nat) (enough : entries.length < rounds) :
    Emits lib.writing (xdrEntry3List lib .XDR_ENCODE entries rounds) () (chainBytes entry3Wire entries) := by
  obtain ⟨rounds, rfl⟩ : ∃ left, rounds = left + 1 := ⟨rounds - 1, by omega⟩
  induction entries generalizing rounds with
  | nil => exact Emits.finishing (encoder.uInt 0) (Emits.pure ())
  | cons entry nextentry recurse =>
      obtain ⟨rounds, rfl⟩ : ∃ left, rounds = left + 1 := ⟨rounds - 1, by simp at enough; omega⟩
      have later := recurse (fun other member => taken other (List.mem_cons_of_mem _ member)) rounds
        (by simpa using enough)
      have wire : chainBytes entry3Wire (entry :: nextentry) = [be32 1, be64 entry.fileid,
          opaqueBytes (cStr entry.name).cstring, be64 entry.cookie, chainBytes entry3Wire nextentry].flatten := by
        simp [chainBytes, entry3Wire]
      rw [wire]
      exact .cons (encoder.uInt 1) <| .cons (encoder.uHyper _) <|
        .cons (xdrText_emits_cstring encoder _ 255 (taken entry List.mem_cons_self)) <|
        .cons (encoder.uHyper _) <| .last later

theorem xdrEntryplus3List_emits (entries : List Entryplus3) (taken : ∀ entry ∈ entries, EntryTaken entry)
    (rounds : Nat) (enough : entries.length < rounds) :
    Emits lib.writing (xdrEntryplus3List lib .XDR_ENCODE entries rounds) () (chainBytes entryplus3Wire entries) := by
  obtain ⟨rounds, rfl⟩ : ∃ left, rounds = left + 1 := ⟨rounds - 1, by omega⟩
  induction entries generalizing rounds with
  | nil => exact Emits.finishing (encoder.uInt 0) (Emits.pure ())
  | cons entry nextentry recurse =>
      obtain ⟨rounds, rfl⟩ : ∃ left, rounds = left + 1 := ⟨rounds - 1, by simp at enough; omega⟩
      obtain ⟨name, handle⟩ := taken entry List.mem_cons_self
      have later := recurse (fun other member => taken other (List.mem_cons_of_mem _ member)) rounds
        (by simpa using enough)
      have wire : chainBytes entryplus3Wire (entry :: nextentry) = [be32 1, be64 entry.fileid,
          opaqueBytes (cStr entry.name).cstring, be64 entry.cookie, entry.nameHandle.wire,
          entry.nameAttributes.wire, chainBytes entryplus3Wire nextentry].flatten := by
        simp [chainBytes, entryplus3Wire]
      rw [wire]
      exact .cons (encoder.uInt 1) <| .cons (encoder.uHyper _) <|
        .cons (xdrText_emits_cstring encoder _ 255 name) <| .cons (encoder.uHyper _) <|
        .cons (xdrNfsFh3_emits encoder _ handle) <| .cons (xdrPostOpAttr_emits encoder _) <| .last later

/-- The loop returns only after it has taken each entry. -/
theorem xdrEntry3List_checks (entries : List Entry3) (shorts : ∀ entry ∈ entries, Short entry.name) (rounds : Nat) :
    Checks (xdrEntry3List lib .XDR_ENCODE entries rounds) (∀ entry ∈ entries, NameTaken entry.name) := by
  induction entries generalizing rounds with
  | nil => exact fun _ _ _ _ => List.forall_mem_nil _
  | cons entry nextentry recurse =>
      cases rounds with
      | zero => exact fun _ _ _ runs => nomatch runs
      | succ rounds =>
          have name := xdrText_checks encoder entry.name 255 (shorts entry List.mem_cons_self)
          have later := recurse (fun other member => shorts other (List.mem_cons_of_mem _ member)) rounds
          intro stream value last runs
          rw [List.forall_mem_cons]
          have body : Checks (do
              let _ ← lib.xdrUHyper .XDR_ENCODE entry.fileid
              let _ ← xdrText lib .XDR_ENCODE 255 entry.name
              let _ ← lib.xdrUHyper .XDR_ENCODE entry.cookie
              xdrEntry3List lib .XDR_ENCODE nextentry rounds)
              (NameTaken entry.name ∧ ∀ other ∈ nextentry, NameTaken other.name) :=
            .both (.later fun _ => .here name) (.later fun _ => .later fun _ => .later fun _ => later)
          exact Checks.after lib.writing_total (encoder.uInt 1) body stream value last runs

theorem xdrEntryplus3List_checks (entries : List Entryplus3) (shorts : ∀ entry ∈ entries, entry.Fits)
    (rounds : Nat) :
    Checks (xdrEntryplus3List lib .XDR_ENCODE entries rounds) (∀ entry ∈ entries, EntryTaken entry) := by
  induction entries generalizing rounds with
  | nil => exact fun _ _ _ _ => List.forall_mem_nil _
  | cons entry nextentry recurse =>
      cases rounds with
      | zero => exact fun _ _ _ runs => nomatch runs
      | succ rounds =>
          obtain ⟨shortName, shortHandle⟩ := shorts entry List.mem_cons_self
          have name := xdrText_checks encoder entry.name 255 shortName
          have handle := xdrNfsFh3_checks encoder entry.nameHandle shortHandle
          have later := recurse (fun other member => shorts other (List.mem_cons_of_mem _ member)) rounds
          intro stream value last runs
          rw [List.forall_mem_cons]
          have body : Checks (do
              let _ ← lib.xdrUHyper .XDR_ENCODE entry.fileid
              let _ ← xdrText lib .XDR_ENCODE 255 entry.name
              let _ ← lib.xdrUHyper .XDR_ENCODE entry.cookie
              let _ ← xdrNfsFh3 lib .XDR_ENCODE entry.nameHandle
              let _ ← xdrPostOpAttr lib .XDR_ENCODE entry.nameAttributes
              xdrEntryplus3List lib .XDR_ENCODE nextentry rounds)
              (EntryTaken entry ∧ ∀ other ∈ nextentry, EntryTaken other) :=
            .both (.both (.later fun _ => .here name) (.later fun _ => .later fun _ => .later fun _ => .here handle))
              (.later fun _ => .later fun _ => .later fun _ => .later fun _ => .later fun _ => later)
          exact Checks.after lib.writing_total (encoder.uInt 1) body stream value last runs

omit encoder in
theorem listRounds_emits (count : Nat) : Emits lib.writing (listRounds lib .XDR_ENCODE count) (count + 1) [] := by
  intro stream done held
  exact ⟨stream, rfl, by simpa using held⟩

theorem xdrDirlist3Internal_emits (obj : Dirlist3) (taken : ∀ entry ∈ obj.entries, NameTaken entry.name) :
    Emits lib.writing (xdrDirlist3Internal lib .XDR_ENCODE obj) obj
      [chainBytes entry3Wire obj.entries, beBool obj.eof].flatten :=
  .silent (listRounds_emits _) <| .cons (xdrEntry3List_emits encoder _ taken _ (Nat.lt_succ_self _)) <|
  .cons (xdrFlag_emits encoder _) .done

theorem xdrDirlistplus3Internal_emits (obj : Dirlistplus3) (taken : ∀ entry ∈ obj.entries, EntryTaken entry) :
    Emits lib.writing (xdrDirlistplus3Internal lib .XDR_ENCODE obj) obj
      [chainBytes entryplus3Wire obj.entries, beBool obj.eof].flatten :=
  .silent (listRounds_emits _) <| .cons (xdrEntryplus3List_emits encoder _ taken _ (Nat.lt_succ_self _)) <|
  .cons (xdrFlag_emits encoder _) .done

theorem xdrDirlist3Internal_checks (obj : Dirlist3) (fits : obj.Fits) :
    Checks (xdrDirlist3Internal lib .XDR_ENCODE obj) (∀ entry ∈ obj.entries, NameTaken entry.name) :=
  .later fun _ => .here (xdrEntry3List_checks encoder _ fits _)

theorem xdrDirlistplus3Internal_checks (obj : Dirlistplus3) (fits : obj.Fits) :
    Checks (xdrDirlistplus3Internal lib .XDR_ENCODE obj) (∀ entry ∈ obj.entries, EntryTaken entry) :=
  .later fun _ => .here (xdrEntryplus3List_checks encoder _ fits _)

end

end Nfs3Rpc.Tirpc
