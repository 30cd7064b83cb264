/-
This file states when a byte string holds a whole C result: a reader that stops at the first missing byte
goes through the fields in the order of the C suite. A word other than zero counts as a set flag.
-/

import Nfs3Rpc.Format.Csuite.Results
import Nfs3Rpc.Format.Exchange

namespace Nfs3Rpc.Whole
open Encoding Csuite Peer

def uhyper : Read UInt64 := do
  let data ← bytes 8
  return leadingHyper data

def flag : Read Bool := do
  let value ← uint
  return value ≠ 0

def nfstime3 : Read Nfstime3 := do
  let seconds ← uint
  let nseconds ← uint
  return { seconds, nseconds }

def specdata3 : Read Specdata3 := do
  let specdata1 ← uint
  let specdata2 ← uint
  return { specdata1, specdata2 }

def fattr3 : Read Fattr3 := do
  let type ← uint
  let mode ← uint
  let nlink ← uint
  let uid ← uint
  let gid ← uint
  let size ← uhyper
  let used ← uhyper
  let rdev ← specdata3
  let fsid ← uhyper
  let fileid ← uhyper
  let atime ← nfstime3
  let mtime ← nfstime3
  let ctime ← nfstime3
  return { type := ⟨type⟩, mode, nlink, uid, gid, size, used, rdev, fsid, fileid, atime, mtime, ctime }

def postOpAttr : Read PostOpAttr := do
  let follow ← flag
  if follow then
    let attributes ← fattr3
    return ⟨true, attributes⟩
  else
    return {}

def wccAttr : Read WccAttr := do
  let size ← uhyper
  let mtime ← nfstime3
  let ctime ← nfstime3
  return { size, mtime, ctime }

def preOpAttr : Read PreOpAttr := do
  let check ← flag
  if check then
    let attributes ← wccAttr
    return ⟨true, attributes⟩
  else
    return {}

def wccData : Read WccData := do
  let before ← preOpAttr
  let after ← postOpAttr
  return { before, after }

def nfsFh3 : Read NfsFh3 := do
  let data ← varOpaque
  return { data }

/-- A handle follows its own flag. -/
def postOpFh3 : Read NfsFh3 := do
  let present ← flag
  if present then nfsFh3 else return {}

/-- A C string ends at its first zero byte. -/
def cstring : Read Bytes := do
  let data ← varOpaque
  return data.takeWhile (· != 0)

def verifier : Read Verifier := do
  let input ← get
  if space : 8 ≤ input.length then
    set (input.drop 8)
    return ⟨input.take 8, take_eight_length space⟩
  else
    throw ()

def GETATTR3resok : Read Nfs3Rpc.GETATTR3resok := do
  let objAttributes ← fattr3
  return { objAttributes }

def SETATTR3resok : Read Nfs3Rpc.SETATTR3resok := do
  let objWcc ← wccData
  return { objWcc }

def LOOKUP3resok : Read Nfs3Rpc.LOOKUP3resok := do
  let object ← nfsFh3
  let objAttributes ← postOpAttr
  let dirAttributes ← postOpAttr
  return { object, objAttributes, dirAttributes }

def ACCESS3resok : Read Nfs3Rpc.ACCESS3resok := do
  let objAttributes ← postOpAttr
  let access ← uint
  return { objAttributes, access }

def READLINK3resok : Read Nfs3Rpc.READLINK3resok := do
  let symlinkAttributes ← postOpAttr
  let data ← cstring
  return { symlinkAttributes, data }

def READ3resok : Read Nfs3Rpc.READ3resok := do
  let fileAttributes ← postOpAttr
  let count ← uint
  let eof ← flag
  let data ← varOpaque
  return { fileAttributes, count := count.toUInt64, eof, data }

def WRITE3resok : Read WRITE3ok := do
  let fileWcc ← wccData
  let count ← uint
  let committed ← uint
  let verf ← verifier
  return { fileWcc, count, committed := ⟨committed⟩, verf }

def newObject : Read NewObject := do
  let object ← postOpFh3
  let objAttributes ← postOpAttr
  let dirWcc ← wccData
  return { objAttributes, dirWcc, object }

def removedEntry : Read RemovedEntry := do
  let dirWcc ← wccData
  return { dirWcc }

def RENAME3resok : Read Nfs3Rpc.RENAME3resok := do
  let fromdirWcc ← wccData
  let todirWcc ← wccData
  return { fromdirWcc, todirWcc }

def LINK3resok : Read Nfs3Rpc.LINK3resok := do
  let fileAttributes ← postOpAttr
  let linkdirWcc ← wccData
  return { fileAttributes, linkdirWcc }

/-- Each entry takes at least one byte, so the number of bytes bounds the number of entries. -/
def entries3 : Nat → Read (List Entry3)
  | 0 => throw ()
  | count + 1 => do
      let fileid ← uhyper
      let name ← cstring
      let cookie ← uhyper
      let more ← flag
      if more then
        let later ← entries3 count
        return { fileid, name, cookie } :: later
      else
        return [{ fileid, name, cookie }]

/-- The chain of entries follows a flag of its own. -/
def chain {α : Type} (entries : Nat → Read (List α)) : Read (List α) := do
  let some ← flag
  if some then
    let input ← get
    entries input.length
  else
    return []

def dirlist3 : Read Dirlist3 := do
  let entries ← chain entries3
  let eof ← flag
  return { entries, eof }

def READDIR3resok : Read Nfs3Rpc.READDIR3resok := do
  let dirAttributes ← postOpAttr
  let cookieverf ← uhyper
  let reply ← dirlist3
  return { dirAttributes, cookieverf, reply }

def entriesplus3 : Nat → Read (List Entryplus3)
  | 0 => throw ()
  | count + 1 => do
      let fileid ← uhyper
      let name ← cstring
      let cookie ← uhyper
      let nameAttributes ← postOpAttr
      let nameHandle ← postOpFh3
      let more ← flag
      if more then
        let later ← entriesplus3 count
        return { fileid, name, cookie, nameHandle, nameAttributes } :: later
      else
        return [{ fileid, name, cookie, nameHandle, nameAttributes }]

def dirlistplus3 : Read Dirlistplus3 := do
  let entries ← chain entriesplus3
  let eof ← flag
  return { entries, eof }

def READDIRPLUS3resok : Read Nfs3Rpc.READDIRPLUS3resok := do
  let dirAttributes ← postOpAttr
  let cookieverf ← uhyper
  let reply ← dirlistplus3
  return { dirAttributes, cookieverf, reply }

def FSSTAT3resok : Read Nfs3Rpc.FSSTAT3resok := do
  let objAttributes ← postOpAttr
  let tbytes ← uhyper
  let fbytes ← uhyper
  let abytes ← uhyper
  let tfiles ← uhyper
  let ffiles ← uhyper
  let afiles ← uhyper
  let invarsec ← uint
  return { objAttributes, tbytes, fbytes, abytes, tfiles, ffiles, afiles, invarsec }

def FSINFO3resok : Read Nfs3Rpc.FSINFO3resok := do
  let objAttributes ← postOpAttr
  let rtmax ← uint
  let rtpref ← uint
  let rtmult ← uint
  let wtmax ← uint
  let wtpref ← uint
  let wtmult ← uint
  let dtpref ← uint
  let maxfilesize ← uhyper
  let timeDeltaSeconds ← uint
  let timeDeltaNseconds ← uint
  let properties ← uint
  return { objAttributes, rtmax, rtpref, rtmult, wtmax, wtpref, wtmult, dtpref,
           maxfilesize, timeDeltaSeconds, timeDeltaNseconds, properties }

def pathconf3ResokInfo : Read Pathconf3ResokInfo := do
  let linkmax ← uint
  let nameMax ← uint
  let noTrunc ← flag
  let chownRestricted ← flag
  let caseInsensitive ← flag
  let casePreserving ← flag
  return { linkmax := linkmax.toInt32, nameMax := nameMax.toInt32, noTrunc, chownRestricted,
           caseInsensitive, casePreserving }

def PATHCONF3resok : Read Nfs3Rpc.PATHCONF3resok := do
  let objAttributes ← postOpAttr
  let info ← pathconf3ResokInfo
  return { objAttributes, info }

def COMMIT3resok : Read Nfs3Rpc.COMMIT3resok := do
  let fileWcc ← postOpAttr
  let verf ← verifier
  return { fileWcc, verf }

end Nfs3Rpc.Whole

namespace Nfs3Rpc.Csuite

/-- A decoder reports success with the status NFS3_OK and the flag of the `resok`. -/
def ResT.reported {ok okMessage : Type} (message : ok → okMessage) (res : ResT ok) : Option okMessage :=
  if res.status = .NFS3_OK ∧ res.hasResok = 1 then some (message res.resok) else none

def WRITE3resokT.message (res : WRITE3resokT) : WRITE3ok :=
  ⟨res.fileWcc.message, res.count, res.committed, res.verf⟩

def WRITE3resT.reported (res : WRITE3resT) : Option WRITE3ok :=
  if res.status = .NFS3_OK ∧ res.hasResok = 1 then some res.resok.message else none

end Nfs3Rpc.Csuite

namespace Nfs3Rpc
open Encoding Csuite

/-- This is what a successful result carries. -/
def ProcNum.OkMessage : ProcNum → Type
  | .WRITE => WRITE3ok
  | proc => proc.Resok

def ProcNum.reported : (proc : ProcNum) → proc.ResT → Option proc.OkMessage
  | .GETATTR => ResT.reported GETATTR3resokT.message
  | .SETATTR => ResT.reported SETATTR3resokT.message
  | .LOOKUP => ResT.reported LOOKUP3resokT.message
  | .ACCESS => ResT.reported ACCESS3resokT.message
  | .READLINK => ResT.reported READLINK3resokT.message
  | .READ => ResT.reported READ3resokT.message
  | .WRITE => WRITE3resT.reported
  | .CREATE => ResT.reported NewObjectT.message
  | .MKDIR => ResT.reported NewObjectT.message
  | .SYMLINK => ResT.reported NewObjectT.message
  | .MKNOD => ResT.reported NewObjectT.message
  | .REMOVE => ResT.reported RemovedEntryT.message
  | .RMDIR => ResT.reported RemovedEntryT.message
  | .RENAME => ResT.reported RENAME3resokT.message
  | .LINK => ResT.reported LINK3resokT.message
  | .READDIR => ResT.reported READDIR3resokT.message
  | .READDIRPLUS => ResT.reported READDIRPLUS3resokT.message
  | .FSSTAT => ResT.reported FSSTAT3resokT.message
  | .FSINFO => ResT.reported FSINFO3resokT.message
  | .PATHCONF => ResT.reported PATHCONF3resokT.message
  | .COMMIT => ResT.reported COMMIT3resokT.message

def ProcNum.wholeResok : (proc : ProcNum) → Peer.Read proc.OkMessage
  | .GETATTR => Whole.GETATTR3resok
  | .SETATTR => Whole.SETATTR3resok
  | .LOOKUP => Whole.LOOKUP3resok
  | .ACCESS => Whole.ACCESS3resok
  | .READLINK => Whole.READLINK3resok
  | .READ => Whole.READ3resok
  | .WRITE => Whole.WRITE3resok
  | .CREATE => Whole.newObject
  | .MKDIR => Whole.newObject
  | .SYMLINK => Whole.newObject
  | .MKNOD => Whole.newObject
  | .REMOVE => Whole.removedEntry
  | .RMDIR => Whole.removedEntry
  | .RENAME => Whole.RENAME3resok
  | .LINK => Whole.LINK3resok
  | .READDIR => Whole.READDIR3resok
  | .READDIRPLUS => Whole.READDIRPLUS3resok
  | .FSSTAT => Whole.FSSTAT3resok
  | .FSINFO => Whole.FSINFO3resok
  | .PATHCONF => Whole.PATHCONF3resok
  | .COMMIT => Whole.COMMIT3resok

/-- The bytes hold the status word NFS3_OK and every field of the `resok`. -/
def ProcNum.wholeReply (proc : ProcNum) : Peer.Read proc.OkMessage := do
  Peer.expect 0
  proc.wholeResok

/-- A missing status word leaves the decoder with what its local held before. -/
def seenStatus (b : Bytes) (stack : Nat → UInt32) : UInt32 := if 4 ≤ b.length then leadingWord b else stack 0

end Nfs3Rpc
