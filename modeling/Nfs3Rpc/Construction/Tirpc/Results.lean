/-
This file is the result part of `nfs3_xdr.cpp`.
-/

import Nfs3Rpc.Construction.Builtin.Procedures
import Nfs3Rpc.Construction.Tirpc.Arguments

namespace Nfs3Rpc.Tirpc
open Encoding

section
variable {σ : Type} (lib : Libtirpc σ) (host : ByteOrder) (op : XdrOp)

/-- A filter works on a local `resok` and stores it after a decoding. -/
def xdrRes {ok : Type} (start : Filter σ ok) (filter : ok → Filter σ ok) (obj : Res ok) : Filter σ (Res ok) := do
  let statusVal ← xdrWord lib op obj.status.code
  let status : Nfsstat3 := ⟨statusVal⟩
  if status = .NFS3_OK then
    let resok ← start
    let resok ← filter resok
    return if op = .XDR_DECODE then { status, resok := some resok } else { obj with status }
  else
    return { obj with status }

/-- Most filters send a new `resok` when there is none. -/
def resokOr {ok : Type} (fresh : ok) (obj : Res ok) : Filter σ ok :=
  return if op = .XDR_ENCODE then obj.resok.getD fresh else fresh

/-- Two filters insist on a present `resok`. -/
def resokValue {ok : Type} (fresh : ok) (obj : Res ok) : Filter σ ok :=
  if op = .XDR_ENCODE then optionalValue obj.resok else pure fresh

def xdrGETATTR3resok (obj : GETATTR3resok) : Filter σ GETATTR3resok := do
  let objAttributes ← xdrFattr3 lib op obj.objAttributes
  return { objAttributes }

def xdrGETATTR3res (obj : GETATTR3res) : Filter σ GETATTR3res :=
  xdrRes lib op (resokValue op {} obj) (xdrGETATTR3resok lib op) obj

def xdrSETATTR3resok (obj : SETATTR3resok) : Filter σ SETATTR3resok := do
  let objWcc ← xdrWccData lib op obj.objWcc
  return { objWcc }

def xdrSETATTR3res (obj : SETATTR3res) : Filter σ SETATTR3res :=
  xdrRes lib op (resokValue op {} obj) (xdrSETATTR3resok lib op) obj

def xdrLOOKUP3resok (obj : LOOKUP3resok) : Filter σ LOOKUP3resok := do
  let object ← xdrNfsFh3 lib op obj.object
  let objAttributes ← xdrPostOpAttr lib op obj.objAttributes
  let dirAttributes ← xdrPostOpAttr lib op obj.dirAttributes
  return { object, objAttributes, dirAttributes }

def xdrLOOKUP3res (obj : LOOKUP3res) : Filter σ LOOKUP3res :=
  xdrRes lib op (resokOr op {} obj) (xdrLOOKUP3resok lib op) obj

def xdrACCESS3resok (obj : ACCESS3resok) : Filter σ ACCESS3resok := do
  let objAttributes ← xdrPostOpAttr lib op obj.objAttributes
  let access ← lib.xdrUInt op obj.access
  return { objAttributes, access }

def xdrACCESS3res (obj : ACCESS3res) : Filter σ ACCESS3res :=
  xdrRes lib op (resokOr op {} obj) (xdrACCESS3resok lib op) obj

def xdrREADLINK3resok (obj : READLINK3resok) : Filter σ READLINK3resok := do
  let symlinkAttributes ← xdrPostOpAttr lib op obj.symlinkAttributes
  let data ← xdrText lib op 4096 obj.data
  return { symlinkAttributes, data }

def xdrREADLINK3res (obj : READLINK3res) : Filter σ READLINK3res :=
  xdrRes lib op (resokOr op {} obj) (xdrREADLINK3resok lib op) obj

/-- The data of a READ result have their own memory in a decoding. -/
def xdrData (obj : Bytes) : Filter σ Bytes := do
  let (dataPtr, dataLen) ← lib.xdrBytes op (if op = .XDR_ENCODE then vectorData obj else .null)
    (if op = .XDR_ENCODE then UInt32.ofNat obj.length else 0) 65536
  if op = .XDR_DECODE then
    let data ← assign dataPtr dataLen
    free dataPtr
    return data
  else
    return obj

def xdrREAD3resok (obj : READ3resok) : Filter σ READ3resok := do
  let fileAttributes ← xdrPostOpAttr lib op obj.fileAttributes
  let count ← lib.xdrUHyper op obj.count
  let eof ← xdrFlag lib op obj.eof
  let data ← xdrData lib op obj.data
  return { fileAttributes, count, eof, data }

def xdrREAD3res (obj : READ3res) : Filter σ READ3res :=
  xdrRes lib op (resokOr op {} obj) (xdrREAD3resok lib op) obj

def xdrWRITE3resok (obj : WRITE3resok) : Filter σ WRITE3resok := do
  let fileAttributes ← xdrPostOpAttr lib op obj.fileAttributes
  let count ← lib.xdrUInt op obj.count
  let committedVal ← xdrWord lib op obj.committed.code
  let verf ← xdrWriteverf3 lib op obj.verf
  return { fileAttributes, count, committed := ⟨committedVal⟩, verf }

def xdrWRITE3res (uninit : Verifier) (obj : WRITE3res) : Filter σ WRITE3res :=
  xdrRes lib op (resokOr op { verf := uninit } obj) (xdrWRITE3resok lib op) obj

/-- Four results share this filter. -/
def xdrNewObject (obj : NewObject) : Filter σ NewObject := do
  let objAttributes ← xdrPostOpAttr lib op obj.objAttributes
  let dirWcc ← xdrWccData lib op obj.dirWcc
  let object ← xdrNfsFh3 lib op obj.object
  return { objAttributes, dirWcc, object }

def xdrCREATE3res (obj : CREATE3res) : Filter σ CREATE3res :=
  xdrRes lib op (resokOr op {} obj) (xdrNewObject lib op) obj

def xdrMKDIR3res (obj : MKDIR3res) : Filter σ MKDIR3res :=
  xdrRes lib op (resokOr op {} obj) (xdrNewObject lib op) obj

def xdrSYMLINK3res (obj : SYMLINK3res) : Filter σ SYMLINK3res :=
  xdrRes lib op (resokOr op {} obj) (xdrNewObject lib op) obj

def xdrMKNOD3res (obj : MKNOD3res) : Filter σ MKNOD3res :=
  xdrRes lib op (resokOr op {} obj) (xdrNewObject lib op) obj

/-- Two results share this filter. -/
def xdrRemovedEntry (obj : RemovedEntry) : Filter σ RemovedEntry := do
  let dirWcc ← xdrWccData lib op obj.dirWcc
  return { dirWcc }

def xdrREMOVE3res (obj : REMOVE3res) : Filter σ REMOVE3res :=
  xdrRes lib op (resokOr op {} obj) (xdrRemovedEntry lib op) obj

def xdrRMDIR3res (obj : RMDIR3res) : Filter σ RMDIR3res :=
  xdrRes lib op (resokOr op {} obj) (xdrRemovedEntry lib op) obj

def xdrRENAME3resok (obj : RENAME3resok) : Filter σ RENAME3resok := do
  let fromdirWcc ← xdrWccData lib op obj.fromdirWcc
  let todirWcc ← xdrWccData lib op obj.todirWcc
  return { fromdirWcc, todirWcc }

def xdrRENAME3res (obj : RENAME3res) : Filter σ RENAME3res :=
  xdrRes lib op (resokOr op {} obj) (xdrRENAME3resok lib op) obj

def xdrLINK3resok (obj : LINK3resok) : Filter σ LINK3resok := do
  let fileAttributes ← xdrPostOpAttr lib op obj.fileAttributes
  let linkdirWcc ← xdrWccData lib op obj.linkdirWcc
  return { fileAttributes, linkdirWcc }

def xdrLINK3res (obj : LINK3res) : Filter σ LINK3res :=
  xdrRes lib op (resokOr op {} obj) (xdrLINK3resok lib op) obj

/-- The loop ends at a false word; a decoder drops each entry that it has read. -/
def xdrEntry3List (first : List Entry3) : Nat → Filter σ Unit
  | 0 => throw .endless
  | rounds + 1 => do
      let hasEntry ← lib.xdrUInt op (if op = .XDR_ENCODE ∧ first ≠ [] then 1 else 0)
      if hasEntry = 0 then
        return
      match if op = .XDR_DECODE then [{}] else first with
      | [] => throw .invalidMemory
      | entry :: nextentry =>
        let _ ← lib.xdrUHyper op entry.fileid
        let _ ← xdrText lib op 255 entry.name
        let _ ← lib.xdrUHyper op entry.cookie
        xdrEntry3List (if op = .XDR_ENCODE then nextentry else entry :: nextentry) rounds

def xdrEntryplus3List (first : List Entryplus3) : Nat → Filter σ Unit
  | 0 => throw .endless
  | rounds + 1 => do
      let hasEntry ← lib.xdrUInt op (if op = .XDR_ENCODE ∧ first ≠ [] then 1 else 0)
      if hasEntry = 0 then
        return
      match if op = .XDR_DECODE then [{}] else first with
      | [] => throw .invalidMemory
      | entry :: nextentry =>
        let _ ← lib.xdrUHyper op entry.fileid
        let _ ← xdrText lib op 255 entry.name
        let _ ← lib.xdrUHyper op entry.cookie
        let _ ← xdrNfsFh3 lib op entry.nameHandle
        let _ ← xdrPostOpAttr lib op entry.nameAttributes
        xdrEntryplus3List (if op = .XDR_ENCODE then nextentry else entry :: nextentry) rounds

/-- An encoder makes a round for each entry; a decoder reads a word in each round. -/
def listRounds (count : Nat) : Filter σ Nat := do
  let stream ← get
  return if op = .XDR_ENCODE then count + 1 else lib.unread stream + 1

def xdrDirlist3Internal (obj : Dirlist3) : Filter σ Dirlist3 := do
  let entries := if op = .XDR_DECODE then [] else obj.entries
  let rounds ← listRounds lib op entries.length
  xdrEntry3List lib op (if op = .XDR_ENCODE then entries else []) rounds
  let eof ← xdrFlag lib op obj.eof
  return { entries, eof }

def xdrDirlistplus3Internal (obj : Dirlistplus3) : Filter σ Dirlistplus3 := do
  let entries := if op = .XDR_DECODE then [] else obj.entries
  let rounds ← listRounds lib op entries.length
  xdrEntryplus3List lib op (if op = .XDR_ENCODE then entries else []) rounds
  let eof ← xdrFlag lib op obj.eof
  return { entries, eof }

/-- The two directory filters return FALSE without a `resok`. -/
def resokPresent {ok : Type} (fresh : ok) (obj : Res ok) : Filter σ ok :=
  if op = .XDR_ENCODE then
    match obj.resok with
    | some resok => pure resok
    | none => throw .returnFalse
  else
    pure fresh

/-- Outside an encoding these filters store the local `resok` too. -/
def xdrListing {ok : Type} (start : Filter σ ok) (filter : ok → Filter σ ok) (obj : Res ok) :
    Filter σ (Res ok) := do
  let statusVal ← xdrWord lib op obj.status.code
  let status : Nfsstat3 := ⟨statusVal⟩
  if status = .NFS3_OK then
    let resok ← start
    let resok ← filter resok
    return { status, resok := some resok }
  else
    return { obj with status }

def xdrREADDIR3resok (obj : READDIR3resok) : Filter σ READDIR3resok := do
  let dirAttributes ← xdrPostOpAttr lib op obj.dirAttributes
  let cookieverf ← xdrCookieverf lib host op obj.cookieverf
  let reply ← xdrDirlist3Internal lib op obj.reply
  return { dirAttributes, cookieverf, reply }

def xdrREADDIR3res (obj : READDIR3res) : Filter σ READDIR3res :=
  xdrListing lib op (resokPresent op {} obj) (xdrREADDIR3resok lib host op) obj

def xdrREADDIRPLUS3resok (obj : READDIRPLUS3resok) : Filter σ READDIRPLUS3resok := do
  let dirAttributes ← xdrPostOpAttr lib op obj.dirAttributes
  let cookieverf ← xdrCookieverf lib host op obj.cookieverf
  let reply ← xdrDirlistplus3Internal lib op obj.reply
  return { dirAttributes, cookieverf, reply }

def xdrREADDIRPLUS3res (obj : READDIRPLUS3res) : Filter σ READDIRPLUS3res :=
  xdrListing lib op (resokPresent op {} obj) (xdrREADDIRPLUS3resok lib host op) obj

def xdrFSSTAT3resok (obj : FSSTAT3resok) : Filter σ FSSTAT3resok := do
  let objAttributes ← xdrPostOpAttr lib op obj.objAttributes
  let tbytes ← lib.xdrUHyper op obj.tbytes
  let fbytes ← lib.xdrUHyper op obj.fbytes
  let abytes ← lib.xdrUHyper op obj.abytes
  let tfiles ← lib.xdrUHyper op obj.tfiles
  let ffiles ← lib.xdrUHyper op obj.ffiles
  let afiles ← lib.xdrUHyper op obj.afiles
  let invarsec ← lib.xdrUInt op obj.invarsec
  return { objAttributes, tbytes, fbytes, abytes, tfiles, ffiles, afiles, invarsec }

def xdrFSSTAT3res (obj : FSSTAT3res) : Filter σ FSSTAT3res :=
  xdrRes lib op (resokOr op {} obj) (xdrFSSTAT3resok lib op) obj

def xdrFSINFO3resok (obj : FSINFO3resok) : Filter σ FSINFO3resok := do
  let objAttributes ← xdrPostOpAttr lib op obj.objAttributes
  let rtmax ← lib.xdrUInt op obj.rtmax
  let rtpref ← lib.xdrUInt op obj.rtpref
  let rtmult ← lib.xdrUInt op obj.rtmult
  let wtmax ← lib.xdrUInt op obj.wtmax
  let wtpref ← lib.xdrUInt op obj.wtpref
  let wtmult ← lib.xdrUInt op obj.wtmult
  let dtpref ← lib.xdrUInt op obj.dtpref
  let maxfilesize ← lib.xdrUHyper op obj.maxfilesize
  let timeDeltaSeconds ← lib.xdrUInt op obj.timeDeltaSeconds
  let timeDeltaNseconds ← lib.xdrUInt op obj.timeDeltaNseconds
  let properties ← lib.xdrUInt op obj.properties
  return { objAttributes, rtmax, rtpref, rtmult, wtmax, wtpref, wtmult, dtpref, maxfilesize,
           timeDeltaSeconds, timeDeltaNseconds, properties }

def xdrFSINFO3res (obj : FSINFO3res) : Filter σ FSINFO3res :=
  xdrRes lib op (resokOr op {} obj) (xdrFSINFO3resok lib op) obj

def xdrPATHCONF3resok (obj : PATHCONF3resok) : Filter σ PATHCONF3resok := do
  let objAttributes ← xdrPostOpAttr lib op obj.objAttributes
  let linkmax ← lib.xdrInt op obj.info.linkmax
  let nameMax ← lib.xdrInt op obj.info.nameMax
  let noTrunc ← xdrFlag lib op obj.info.noTrunc
  let chownRestricted ← xdrFlag lib op obj.info.chownRestricted
  let caseInsensitive ← xdrFlag lib op obj.info.caseInsensitive
  let casePreserving ← xdrFlag lib op obj.info.casePreserving
  let info := { linkmax, nameMax, noTrunc, chownRestricted, caseInsensitive, casePreserving }
  return { objAttributes, info }

def xdrPATHCONF3res (obj : PATHCONF3res) : Filter σ PATHCONF3res :=
  xdrRes lib op (resokOr op {} obj) (xdrPATHCONF3resok lib op) obj

def xdrCOMMIT3resok (obj : COMMIT3resok) : Filter σ COMMIT3resok := do
  let fileWcc ← xdrPostOpAttr lib op obj.fileWcc
  let verf ← xdrWriteverf3 lib op obj.verf
  return { fileWcc, verf }

def xdrCOMMIT3res (uninit : Verifier) (obj : COMMIT3res) : Filter σ COMMIT3res :=
  xdrRes lib op (resokOr op { verf := uninit } obj) (xdrCOMMIT3resok lib op) obj

end

end Nfs3Rpc.Tirpc

namespace Nfs3Rpc
open Tirpc

section
variable {σ : Type} (lib : Libtirpc σ) (host : ByteOrder) (op : XdrOp)

/-- The client gives these filters to `clnt_call`. -/
def ProcNum.xdrArgs : (proc : ProcNum) → proc.Args → Filter σ proc.Args
  | .GETATTR => xdrGETATTR3args lib op
  | .SETATTR => xdrSETATTR3args lib op
  | .LOOKUP => xdrLOOKUP3args lib op
  | .ACCESS => xdrACCESS3args lib op
  | .READLINK => xdrREADLINK3args lib op
  | .READ => xdrREAD3args lib op
  | .WRITE => xdrWRITE3args lib op
  | .CREATE => xdrCREATE3args lib op
  | .MKDIR => xdrMKDIR3args lib op
  | .SYMLINK => xdrSYMLINK3args lib op
  | .MKNOD => xdrMKNOD3args lib op
  | .REMOVE => xdrREMOVE3args lib op
  | .RMDIR => xdrRMDIR3args lib op
  | .RENAME => xdrRENAME3args lib op
  | .LINK => xdrLINK3args lib op
  | .READDIR => xdrREADDIR3args lib host op
  | .READDIRPLUS => xdrREADDIRPLUS3args lib host op
  | .FSSTAT => xdrFSSTAT3args lib op
  | .FSINFO => xdrFSINFO3args lib op
  | .PATHCONF => xdrPATHCONF3args lib op
  | .COMMIT => xdrCOMMIT3args lib op

def ProcNum.xdrRes (uninit : Verifier) : (proc : ProcNum) → Res proc.Resok → Filter σ (Res proc.Resok)
  | .GETATTR => xdrGETATTR3res lib op
  | .SETATTR => xdrSETATTR3res lib op
  | .LOOKUP => xdrLOOKUP3res lib op
  | .ACCESS => xdrACCESS3res lib op
  | .READLINK => xdrREADLINK3res lib op
  | .READ => xdrREAD3res lib op
  | .WRITE => xdrWRITE3res lib op uninit
  | .CREATE => xdrCREATE3res lib op
  | .MKDIR => xdrMKDIR3res lib op
  | .SYMLINK => xdrSYMLINK3res lib op
  | .MKNOD => xdrMKNOD3res lib op
  | .REMOVE => xdrREMOVE3res lib op
  | .RMDIR => xdrRMDIR3res lib op
  | .RENAME => xdrRENAME3res lib op
  | .LINK => xdrLINK3res lib op
  | .READDIR => xdrREADDIR3res lib host op
  | .READDIRPLUS => xdrREADDIRPLUS3res lib host op
  | .FSSTAT => xdrFSSTAT3res lib op
  | .FSINFO => xdrFSINFO3res lib op
  | .PATHCONF => xdrPATHCONF3res lib op
  | .COMMIT => xdrCOMMIT3res lib op uninit

end

end Nfs3Rpc
