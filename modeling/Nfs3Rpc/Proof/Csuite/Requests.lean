import Nfs3Rpc.Format.Csuite.Server
import Nfs3Rpc.Proof.Csuite.Handles
import Nfs3Rpc.Proof.Csuite.Procedures

namespace Nfs3Rpc.Csuite.Server
open Encoding

variable {α : Type} {pos depth : Nat} {garbage : UInt32 → Prop} {b : Bytes}

/-- The copy of a handle that `nfs_fh3_set` makes. -/
def handleCopy (fh : NfsFh3T) : NfsFh3T :=
  if fh.len > 0 then { data := .block (fh.data.bytes fh.len), len := fh.len, cap := fh.len } else {}

/-- The copy of a string that `strdup` makes. -/
def nameCopy : Ptr → Ptr
  | .block data => .block (data.take ((data.takeWhile (· != 0)).length + 1))
  | _ => .null

theorem handleCopy_message (fh : NfsFh3T) : (handleCopy fh).message = fh.message := by
  by_cases positive : fh.len > 0
  · rw [handleCopy, if_pos positive]
    obtain ⟨data, len, cap⟩ := fh
    cases data with
    | block bytes => simp [NfsFh3T.message, Ptr.bytes]
    | null => simp [NfsFh3T.message, Ptr.bytes]
    | wild => simp [NfsFh3T.message, Ptr.bytes]
  · obtain ⟨data, len, cap⟩ := fh
    have zero : len = 0 := by simpa using positive
    subst zero
    cases data <;> simp [handleCopy, NfsFh3T.message, Ptr.bytes]

theorem handleCopy_wellFormed {fh : NfsFh3T} (formed : fh.WellFormed) : (handleCopy fh).WellFormed := by
  by_cases positive : fh.len > 0
  · have nonzero : fh.len ≠ 0 := by
      intro zero
      rw [zero] at positive
      exact absurd positive (by decide)
    obtain ⟨data, block, inside⟩ := formed.2 nonzero
    rw [handleCopy, if_pos positive]
    refine ⟨Ptr.noConfusion, fun _ => ⟨_, rfl, ?_⟩⟩
    rw [block, Ptr.bytes, List.length_take_of_le inside]
  · rw [handleCopy, if_neg positive]
    exact nfsFh3Init_wellFormed

theorem takeWhile_copy (data : Bytes) :
    (data.take ((data.takeWhile (· != 0)).length + 1)).takeWhile (· != 0) = data.takeWhile (· != 0) := by
  induction data with
  | nil => rfl
  | cons byte data recurse =>
      by_cases zero : byte = 0
      · simp [zero]
      · simpa [zero] using recurse

theorem nameCopy_cstring (name : Ptr) : (nameCopy name).cstring = name.cstring := by
  cases name with
  | block data => exact takeWhile_copy data
  | null => rfl
  | wild => rfl

theorem zero_mem_copy {data : Bytes} (ended : 0 ∈ data) : 0 ∈ data.take
    ((data.takeWhile (· != 0)).length + 1) := by
  induction data with
  | nil => exact absurd ended List.not_mem_nil
  | cons byte data recurse =>
      by_cases zero : byte = 0
      · simp [zero]
      · have later : 0 ∈ data := (List.mem_cons.mp ended).resolve_left fun same => zero same.symm
        simpa [zero, Ne.symm zero] using recurse later

theorem nameCopy_isString {name : Ptr} (string : name.IsString) : (nameCopy name).IsString := by
  rcases string with rfl | ⟨data, rfl, ended⟩
  · exact .inl rfl
  · exact .inr ⟨_, rfl, zero_mem_copy ended⟩

/-- A setter that reads inside its block leaves the buffer alone. -/
theorem nfsFh3Set_emits {fh : NfsFh3T} (formed : fh.WellFormed) :
    Emits (writing pos depth) (nfsFh3Set nfsFh3Init fh.data fh.len) (handleCopy fh) [] := by
  by_cases positive : fh.len > 0
  · have nonzero : fh.len ≠ 0 := by
      intro zero
      rw [zero] at positive
      exact absurd positive (by decide)
    obtain ⟨data, block, inside⟩ := formed.2 nonzero
    rw [handleCopy, if_pos positive, nfsFh3Set, if_pos positive, block]
    simp only [readBlock, if_pos inside, Ptr.bytes]
    exact Emits.pure _
  · rw [handleCopy, if_neg positive, nfsFh3Set, if_neg positive]
    exact Emits.pure _

theorem takeWhile_short {data : Bytes} (ended : 0 ∈ data) :
    (data.takeWhile (· != 0)).length + 1 ≤ data.length := by
  have shorter : (data.takeWhile (· != 0)).length ≤ data.length := (List.takeWhile_prefix _).length_le
  have different : (data.takeWhile (· != 0)).length ≠ data.length := by
    intro same
    have whole := (List.takeWhile_prefix (p := (· != (0 : UInt8))) (l := data)).eq_of_length same
    have nonzero := List.mem_takeWhile_imp (p := (· != (0 : UInt8))) (whole ▸ ended)
    exact absurd nonzero (by decide)
  omega

theorem strdup_emits {data : Bytes} (ended : 0 ∈ data) :
    Emits (writing pos depth) (strdup (.block data)) (nameCopy (.block data)) [] := by
  have inside := takeWhile_short ended
  rw [strdup, strlen, if_pos ended]
  apply Emits.silent (Emits.pure _)
  rw [readBlock, if_pos inside]
  exact Emits.silent (Emits.pure _) (Emits.pure _)

theorem setName_emits {name : Ptr} (string : name.IsString) :
    Emits (writing pos depth) (setName .null name) (nameCopy name) [] := by
  apply Emits.silent (Emits.pure Ptr.null)
  rcases string with rfl | ⟨data, rfl, ended⟩
  · exact Emits.pure _
  · rw [if_neg Ptr.noConfusion]
    exact strdup_emits ended

theorem handleCopy_owned {fh : NfsFh3T} : (handleCopy fh).Owned := by
  by_cases positive : fh.len > 0 <;> simp [handleCopy, positive, NfsFh3T.Owned, Ptr.Owned]

theorem nameCopy_owned {name : Ptr} : (nameCopy name).Owned := by
  cases name <;> simp [nameCopy, Ptr.Owned]

/-- The two handles and the two names are the same for another program. -/
structure SameNamed (dir dir' : NfsFh3T) (name name' : Ptr) : Prop where
  dirFormed : dir'.WellFormed
  string : name'.IsString
  handle : dir'.message = dir.message
  name : name'.cstring = name.cstring

/-- A helper that sends a handle and a name packs copies of both. -/
theorem packNamed_emits (proc : ProcNum) {args : NfsFh3T → Ptr → proc.ArgsT} {dir : NfsFh3T} {name : Ptr}
    (dirFormed : dir.WellFormed) (string : name.IsString)
    (keeps : ∀ dir' name', SameNamed dir dir' name name' → proc.WellFormedArgs (args dir' name') ∧
      proc.messageArgs (args dir' name') = proc.messageArgs (args dir name)) :
    Emits (writing pos depth) (packNamed proc.packArgs args dir name) (args (handleCopy dir) (nameCopy name))
      (proc.wireArgsT (proc.clippedArgs (proc.messageArgs (args dir name)))) := by
  obtain ⟨formed, message⟩ := keeps (handleCopy dir) (nameCopy name)
    ⟨handleCopy_wellFormed dirFormed, nameCopy_isString string, handleCopy_message dir, nameCopy_cstring name⟩
  apply Emits.silent (nfsFh3Set_emits dirFormed)
  apply Emits.silent (setName_emits string)
  rw [← message]
  exact Emits.finishing (proc.packArgs_emits _ formed) (Emits.pure _)

theorem packFile_emits (proc : ProcNum) {args : NfsFh3T → proc.ArgsT} {file : NfsFh3T} (fileFormed : file.WellFormed)
    (keeps : ∀ file' : NfsFh3T, file'.WellFormed → file'.message = file.message →
      proc.WellFormedArgs (args file') ∧
      proc.messageArgs (args file') = proc.messageArgs (args file)) :
    Emits (writing pos depth) (packFile proc.packArgs args file) (args (handleCopy file))
      (proc.wireArgsT (proc.clippedArgs (proc.messageArgs (args file)))) := by
  obtain ⟨formed, message⟩ := keeps (handleCopy file) (handleCopy_wellFormed fileFormed) (handleCopy_message file)
  apply Emits.silent (nfsFh3Set_emits fileFormed)
  rw [← message]
  exact Emits.finishing (proc.packArgs_emits _ formed) (Emits.pure _)

/-- The copies are freed after the call. -/
theorem destroyArgs_walks {handle : NfsFh3T} {block : Ptr} (handleOwned : handle.Owned) (blockOwned : block.Owned) :
    Walks b garbage depth (destroyArgs handle block) pos pos fun _ => True :=
  .field ((nfsFh3Destroy_walks handleOwned).weaken fun _ _ => trivial) fun _ =>
    .field (free_walks blockOwned) fun _ => .pure trivial

end Nfs3Rpc.Csuite.Server
