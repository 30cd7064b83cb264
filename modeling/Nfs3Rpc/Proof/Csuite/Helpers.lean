import Nfs3Rpc.Proof.Csuite.Bodies
import Nfs3Rpc.Proof.Csuite.Requests
import Nfs3Rpc.Proof.Csuite.Server

namespace Nfs3Rpc.Csuite.Server
open Encoding SimpleRpc

variable {garbage : UInt32 → Prop} {peer : Option Socket} {peers : List (Option Socket)} {answer : Answer}
variable {log : List (CString × UInt16 × Option Bytes)} {body : Bytes} {env : Environment} {host : CString}
variable {helper : Helper}

/-- A helper is an exchange with its own arguments and its own decoder. -/
structure Errand (helper : Helper) where
  {α β : Type}
  build : Run α
  made : α
  destroy : α → Run Unit
  decode : Run (Nfsstat3 × β)
  unanswered : β
  finish : Exchanged β → Outcome
  owned : β → Prop
  rest : Bytes → Prop
  found : Bytes → β
  runs : ∀ env, helper.run env =
    exchange env helper.proc build decode unanswered destroy >>= fun done => Pure.pure (finish done)
  packs : ∀ depth, Emits (writing 0 depth) build made helper.request
  frees : ∀ {b garbage depth}, Walks b garbage depth (destroy made) 0 0 fun _ => True
  decoder : Decoder decode unanswered owned rest found
  whole : ∀ b, helper.Whole b ↔ 4 ≤ b.length ∧ (wordAt b 0 = 0 → rest b)
  silent : ∀ status, finish ⟨status, false, Nfsstat3.NFS3ERR_IO, unanswered⟩ =
    helper.unanswered (if status ≠ NFSTEST_RPC_OK then status else helper.silence)
  answers : ∀ b, finish ⟨NFSTEST_RPC_OK, true, ⟨wordAt b 0⟩, if wordAt b 0 = 0 then found b else unanswered⟩ =
    helper.found b
  differ : (finish ⟨NFSTEST_RPC_OK, true, ⟨1⟩, unanswered⟩).verdict ≠
    (finish ⟨NFSTEST_RPC_OK, true, ⟨2⟩, unanswered⟩).verdict
  wild : ∀ got, ¬ owned got → ¬ (finish ⟨NFSTEST_RPC_OK, true, .NFS3_OK, got⟩).Owned

theorem verdicts_differ : (1 : UInt32).toInt32 ≠ (2 : UInt32).toInt32 := by decide

/-- These helpers give a handle to their caller. -/
def handleErrand {α : Type} (outFh : Option NfsFh3T) (data : Bytes → Bytes) {rest : Bytes → Prop} {build : Run α}
    {made : α} {destroy : α → Run Unit} {decode : Run (Nfsstat3 × Option NfsFh3T)}
    (runs : ∀ env, helper.run env = exchange env helper.proc build decode outFh destroy >>= fun done =>
      Pure.pure { verdict := done.verdict, outFh := done.found })
    (packs : ∀ depth, Emits (writing 0 depth) build made helper.request)
    (frees : ∀ {b garbage depth}, Walks b garbage depth (destroy made) 0 0 fun _ => True)
    (decoder : Decoder decode outFh (fun got => ∀ fh ∈ got, fh.Owned) rest fun b => outFh.map fun _ =>
      handleOf (data b))
    (whole : ∀ b, helper.Whole b ↔ 4 ≤ b.length ∧ (wordAt b 0 = 0 → rest b))
    (unanswered : ∀ verdict, helper.unanswered verdict = { verdict, outFh })
    (silence : helper.silence = NFSTEST_RPC_PROTO_ERR)
    (answers : ∀ b, helper.found b = {
      verdict := (wordAt b 0).toInt32
      outFh := if wordAt b 0 = 0 then outFh.map fun _ => handleOf (data b) else outFh }) : Errand helper where
  build := build
  made := made
  destroy := destroy
  decode := decode
  unanswered := outFh
  finish done := { verdict := done.verdict, outFh := done.found }
  owned got := ∀ fh ∈ got, fh.Owned
  rest := rest
  found b := outFh.map fun _ => handleOf (data b)
  runs := runs
  packs := packs
  frees := frees
  decoder := decoder
  whole := whole
  silent status := by
    rw [unanswered, silence]
    rfl
  answers b := by
    rw [answers]
    rfl
  differ := verdicts_differ
  wild got wild held := wild held.1

/-- These helpers give nothing but their verdict. -/
def verdictErrand {α : Type} (finish : Exchanged Unit → Int32) {build : Run α} {made : α}
    {destroy : α → Run Unit}
    {decode : Run (Nfsstat3 × Unit)}
    (runs : ∀ env, helper.run env = exchange env helper.proc build decode () destroy >>= fun done =>
      Pure.pure { verdict := finish done })
    (packs : ∀ depth, Emits (writing 0 depth) build made helper.request)
    (frees : ∀ {b garbage depth}, Walks b garbage depth (destroy made) 0 0 fun _ => True)
    (decoder : Decoder decode () (fun _ => True) (fun _ => True) fun _ => ())
    (whole : ∀ b, helper.Whole b ↔ 4 ≤ b.length)
    (silent : ∀ status, finish ⟨status, false, Nfsstat3.NFS3ERR_IO, ()⟩ =
      if status ≠ NFSTEST_RPC_OK then status else helper.silence)
    (unanswered : ∀ verdict, helper.unanswered verdict = { verdict })
    (answers : ∀ b, helper.found b = { verdict := finish ⟨NFSTEST_RPC_OK, true, ⟨wordAt b 0⟩, ()⟩ })
    (differ : finish ⟨NFSTEST_RPC_OK, true, ⟨1⟩, ()⟩ ≠ finish ⟨NFSTEST_RPC_OK, true, ⟨2⟩, ()⟩) :
    Errand helper where
  build := build
  made := made
  destroy := destroy
  decode := decode
  unanswered := ()
  finish done := { verdict := finish done }
  owned _ := True
  rest _ := True
  found _ := ()
  runs := runs
  packs := packs
  frees := frees
  decoder := decoder
  whole b := by
    rw [whole]
    exact ⟨fun inside => ⟨inside, fun _ => trivial⟩, fun held => held.1⟩
  silent status := by rw [silent, unanswered]
  answers b := by rw [answers, ite_self]
  differ := differ
  wild _ wild := absurd trivial wild

section Named

variable {dir : NfsFh3T} {name : Ptr} {outFh : Option NfsFh3T} {depth : Nat}

def newFileArgs (whereDir : NfsFh3T) (whereName : Ptr) : CREATE3argsT :=
  { whereDir, whereName, howMode := .UNCHECKED, howAttributes := { modeSet := 1, mode := 0o600 } }

def newDirArgs (whereDir : NfsFh3T) (whereName : Ptr) : MKDIR3argsT :=
  { whereDir, whereName, attributes := { modeSet := 1, mode := 0o700 } }

theorem newFile_packs (dirFormed : dir.WellFormed) (string : name.IsString) :
    Emits (writing 0 depth) (packNamed xdrPackCREATE3args newFileArgs dir name)
      (newFileArgs (handleCopy dir) (nameCopy name)) (Helper.createTestFile dir name outFh).request := by
  apply packNamed_emits .CREATE dirFormed string
  intro dir' name' same
  refine ⟨⟨same.dirFormed, same.string⟩, ?_⟩
  show CREATE3args.mk dir'.message name'.cstring _ _ _ = CREATE3args.mk dir.message name.cstring _ _ _
  rw [same.handle, same.name]
  rfl

theorem newDir_packs (dirFormed : dir.WellFormed) (string : name.IsString) :
    Emits (writing 0 depth) (packNamed xdrPackMKDIR3args newDirArgs dir name)
      (newDirArgs (handleCopy dir) (nameCopy name)) (Helper.createTestDir dir name outFh).request := by
  apply packNamed_emits .MKDIR dirFormed string
  intro dir' name' same
  refine ⟨⟨same.dirFormed, same.string⟩, ?_⟩
  show MKDIR3argsT.message (newDirArgs dir' name') = MKDIR3argsT.message (newDirArgs dir name)
  simp only [MKDIR3argsT.message, newDirArgs, same.handle, same.name]

theorem lookup_packs (dirFormed : dir.WellFormed) (string : name.IsString) :
    Emits (writing 0 depth) (packNamed xdrPackLOOKUP3args LOOKUP3argsT.mk dir name)
      ⟨handleCopy dir, nameCopy name⟩ (Helper.lookupName dir name outFh).request := by
  apply packNamed_emits .LOOKUP dirFormed string
  intro dir' name' same
  refine ⟨⟨same.dirFormed, same.string⟩, ?_⟩
  show LOOKUP3argsT.message ⟨dir', name'⟩ = LOOKUP3argsT.message ⟨dir, name⟩
  simp only [LOOKUP3argsT.message, same.handle, same.name]

theorem remove_packs (dirFormed : dir.WellFormed) (string : name.IsString) :
    Emits (writing 0 depth) (packNamed xdrPackREMOVE3args REMOVE3argsT.mk dir name)
      ⟨handleCopy dir, nameCopy name⟩ (Helper.removeTestFile dir name).request := by
  apply packNamed_emits .REMOVE dirFormed string
  intro dir' name' same
  refine ⟨⟨same.dirFormed, same.string⟩, ?_⟩
  show REMOVE3argsT.message ⟨dir', name'⟩ = REMOVE3argsT.message ⟨dir, name⟩
  simp only [REMOVE3argsT.message, same.handle, same.name]

theorem rmdir_packs (dirFormed : dir.WellFormed) (string : name.IsString) :
    Emits (writing 0 depth) (packNamed xdrPackRMDIR3args RMDIR3argsT.mk dir name)
      ⟨handleCopy dir, nameCopy name⟩ (Helper.rmdirTestDir dir name).request := by
  apply packNamed_emits .RMDIR dirFormed string
  intro dir' name' same
  refine ⟨⟨same.dirFormed, same.string⟩, ?_⟩
  show RMDIR3argsT.message ⟨dir', name'⟩ = RMDIR3argsT.message ⟨dir, name⟩
  simp only [RMDIR3argsT.message, same.handle, same.name]

def createTestFileErrand (legal : (Helper.createTestFile dir name outFh).Legal) :
    Errand (.createTestFile dir name outFh) :=
  have formed : dir.WellFormed ∧ name.IsString := legal.formed
  handleErrand outFh newObject (fun _ => by simp only [Helper.run, nfs3CreateTestFile, bind_assoc, pure_bind]; rfl)
    (fun _ => newFile_packs formed.1 formed.2) (destroyArgs_walks handleCopy_owned nameCopy_owned)
    (newObjectDecoder legal.owned) (fun _ => Iff.rfl) (fun _ => rfl) rfl fun _ => rfl

def createTestDirErrand (legal : (Helper.createTestDir dir name outFh).Legal) :
    Errand (.createTestDir dir name outFh) :=
  have formed : dir.WellFormed ∧ name.IsString := legal.formed
  handleErrand outFh newObject (fun _ => by simp only [Helper.run, nfs3CreateTestDir, bind_assoc, pure_bind]; rfl)
    (fun _ => newDir_packs formed.1 formed.2) (destroyArgs_walks handleCopy_owned nameCopy_owned)
    (newObjectDecoder legal.owned) (fun _ => Iff.rfl) (fun _ => rfl) rfl fun _ => rfl

def lookupNameErrand (legal : (Helper.lookupName dir name outFh).Legal) : Errand (.lookupName dir name outFh) :=
  have formed : dir.WellFormed ∧ name.IsString := legal.formed
  handleErrand outFh (opaqueAt · 4) (fun _ => by simp only [Helper.run, nfs3LookupName, bind_assoc, pure_bind]; rfl)
    (fun _ => lookup_packs formed.1 formed.2) (destroyArgs_walks handleCopy_owned nameCopy_owned)
    (lookupDecoder legal.owned) (fun _ => Iff.rfl) (fun _ => rfl) rfl fun _ => rfl

/-- These helpers look at nothing behind the status. -/
theorem status_whole {b : Bytes} : (4 ≤ b.length ∧ (wordAt b 0 = 0 → True)) ↔ 4 ≤ b.length :=
  ⟨fun held => held.1, fun inside => ⟨inside, fun _ => trivial⟩⟩

theorem removals_differ :
    (goneIsRemoved ⟨1⟩).code.toInt32 ≠ (goneIsRemoved ⟨2⟩).code.toInt32 := by decide

def removeTestFileErrand (legal : (Helper.removeTestFile dir name).Legal) : Errand (.removeTestFile dir name) :=
  have formed : dir.WellFormed ∧ name.IsString := legal.formed
  verdictErrand (fun done => { done with nfsStatus := goneIsRemoved done.nfsStatus }.verdict)
    (fun _ => by simp only [Helper.run, nfs3RemoveTestFile, callRemove, bind_assoc, pure_bind]; rfl)
    (fun _ => remove_packs formed.1 formed.2) (destroyArgs_walks handleCopy_owned nameCopy_owned) removedDecoder
    (fun _ => status_whole) (fun _ => rfl) (fun _ => rfl) (fun _ => rfl) removals_differ

def rmdirTestDirErrand (legal : (Helper.rmdirTestDir dir name).Legal) : Errand (.rmdirTestDir dir name) :=
  have formed : dir.WellFormed ∧ name.IsString := legal.formed
  verdictErrand (fun done => { done with nfsStatus := goneIsRemoved done.nfsStatus }.verdict)
    (fun _ => by simp only [Helper.run, nfs3RmdirTestDir, bind_assoc, pure_bind]; rfl)
    (fun _ => rmdir_packs formed.1 formed.2) (destroyArgs_walks handleCopy_owned nameCopy_owned) removedDecoder
    (fun _ => status_whole) (fun _ => rfl) (fun _ => rfl) (fun _ => rfl) removals_differ

/-- The one helper that does not look for an empty body. -/
def removalVerdict (done : Exchanged Unit) : Int32 :=
  if done.status ≠ NFSTEST_RPC_OK then done.status else (goneIsRemoved done.nfsStatus).code.toInt32

theorem removeIf_runs (env : Environment) : (Helper.removeIfTestFile dir name).run env =
    callRemove env dir name >>= fun done => Pure.pure { verdict := removalVerdict done } := by
  rw [Helper.run, nfs3RemoveIfTestFile, bind_assoc]
  apply bind_congr
  intro done
  rw [removalVerdict]
  split <;> rfl

def removeIfTestFileErrand (legal : (Helper.removeIfTestFile dir name).Legal) : Errand (.removeIfTestFile dir name) :=
  have formed : dir.WellFormed ∧ name.IsString := legal.formed
  verdictErrand removalVerdict removeIf_runs (fun _ => remove_packs formed.1 formed.2)
    (destroyArgs_walks handleCopy_owned nameCopy_owned) removedDecoder (fun _ => status_whole) (fun _ => rfl)
    (fun _ => rfl) (fun _ => rfl) removals_differ

end Named

section Files

variable {file : NfsFh3T} {offset : UInt64} {stable : StableHow} {data : Bytes} {counted : data.length < 2 ^ 32}
variable {count : UInt32} {places : ReadPlaces} {depth : Nat}

/-- These are the arguments that the guard of `nfs3_write_data` lets through. -/
def writtenArgs (offset : UInt64) (stable : StableHow) (data : Bytes) (file : NfsFh3T) : WRITE3argsT where
  file := file
  offset := offset
  count := UInt32.ofNat data.length
  stable := stable
  data := if data.length > 0 then .block data else .null
  dataLen := UInt32.ofNat data.length

theorem writeGuard_passes (counted : data.length < 2 ^ 32) :
    Csuite.nfs3WriteData file offset stable data = .ok (writtenArgs offset stable data file) := by
  rw [Csuite.nfs3WriteData, if_neg (by omega)]
  rfl

theorem writtenArgs_message (counted : data.length < 2 ^ 32) :
    (writtenArgs offset stable data file).message =
      WRITE3argsT.message (Helper.writeData file offset stable data counted).args := by
  cases data with
  | nil => rfl
  | cons byte data => rfl

theorem writtenArgs_holds (counted : data.length < 2 ^ 32) :
    (writtenArgs offset stable data file).data.Holds (UInt32.ofNat data.length) := by
  cases data with
  | nil => exact ⟨Ptr.noConfusion, fun some => absurd rfl some⟩
  | cons byte data =>
      refine ⟨Ptr.noConfusion, fun _ => ⟨byte :: data, rfl, ?_⟩⟩
      rw [UInt32.toNat_ofNat_of_lt' counted]

theorem write_packs (formed : file.WellFormed) :
    Emits (writing 0 depth) (packFile xdrPackWRITE3args (writtenArgs offset stable data) file)
      (writtenArgs offset stable data (handleCopy file))
        (Helper.writeData file offset stable data counted).request := by
  have packs : Emits (writing 0 depth) (packFile (ProcNum.packArgs .WRITE) (writtenArgs offset stable data) file)
      (writtenArgs offset stable data (handleCopy file)) (ProcNum.wireArgsT .WRITE (ProcNum.clippedArgs .WRITE
        (ProcNum.messageArgs .WRITE (writtenArgs offset stable data file)))) := by
    apply packFile_emits .WRITE formed
    intro file' formed' same
    refine ⟨⟨formed', writtenArgs_holds counted, rfl⟩, ?_⟩
    show WRITE3args.mk file'.message _ _ _ _ = WRITE3args.mk file.message _ _ _ _
    rw [same]
    rfl
  have message : ProcNum.messageArgs .WRITE (writtenArgs offset stable data file) = _ := writtenArgs_message counted
  rw [message] at packs
  exact packs

def writeDataErrand (legal : (Helper.writeData file offset stable data counted).Legal) :
    Errand (.writeData file offset stable data counted) :=
  have formed : file.WellFormed := legal.formed.1
  have blockOwned : (writtenArgs offset stable data (handleCopy file)).data.Owned := (writtenArgs_holds counted).1
  verdictErrand Exchanged.verdict
    (fun _ => by
      simp only [Helper.run, nfs3WriteData, writeGuard_passes counted, bind_assoc, pure_bind]
      rfl)
    (fun _ => write_packs formed) (destroyArgs_walks handleCopy_owned blockOwned) writtenDecoder
    (fun _ => status_whole) (fun _ => rfl) (fun _ => rfl) (fun _ => rfl) verdicts_differ

theorem read_packs (formed : file.WellFormed) :
    Emits (writing 0 depth) (packFile xdrPackREAD3args (fun file => { file, offset, count }) file)
      ⟨handleCopy file, offset, count⟩ (Helper.readData file offset count places).request := by
  apply packFile_emits .READ formed
  intro file' formed' same
  refine ⟨formed', ?_⟩
  show READ3args.mk file'.message _ _ = READ3args.mk file.message _ _
  rw [same]

def readDataErrand (legal : (Helper.readData file offset count places).Legal) :
    Errand (.readData file offset count places) where
  build := packFile xdrPackREAD3args (fun file => { file, offset, count }) file
  made := ⟨handleCopy file, offset, count⟩
  destroy args := destroyArgs args.file .null
  decode := decodeData places
  unanswered := cleared places
  finish done := { verdict := done.verdict, places := done.found }
  owned got := ∀ data ∈ got.data, data.Owned
  rest b := HoldsOpaque b (dataPos b)
  found b := filled b places
  runs env := by
    simp only [Helper.run, nfs3ReadData, bind_assoc, pure_bind]
    rfl
  packs _ := read_packs legal.formed
  frees := destroyArgs_walks handleCopy_owned Ptr.noConfusion
  decoder := dataDecoder places
  whole _ := Iff.rfl
  silent _ := rfl
  answers _ := rfl
  differ := verdicts_differ
  wild _ wild held := wild held.2

end Files

/-- Each helper is an exchange. -/
def Helper.errand : (helper : Helper) → helper.Legal → Errand helper
  | .createTestFile .., legal => createTestFileErrand legal
  | .createTestDir .., legal => createTestDirErrand legal
  | .lookupName .., legal => lookupNameErrand legal
  | .removeTestFile .., legal => removeTestFileErrand legal
  | .removeIfTestFile .., legal => removeIfTestFileErrand legal
  | .rmdirTestDir .., legal => rmdirTestDirErrand legal
  | .writeData .., legal => writeDataErrand legal
  | .readData .., legal => readDataErrand legal

end Nfs3Rpc.Csuite.Server
