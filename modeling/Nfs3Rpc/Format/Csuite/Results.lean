/-
This file gives the C results their messages.
-/

import Nfs3Rpc.Format.Csuite.Arguments

namespace Nfs3Rpc.Csuite
open Encoding

def GETATTR3resokT.message (res : GETATTR3resokT) : GETATTR3resok := ⟨res.objAttributes⟩

def SETATTR3resokT.message (res : SETATTR3resokT) : SETATTR3resok := ⟨res.objWcc.message⟩

def LOOKUP3resokT.message (res : LOOKUP3resokT) : LOOKUP3resok :=
  ⟨res.object.message, res.objAttributes.message, res.dirAttributes.message⟩

def ACCESS3resokT.message (res : ACCESS3resokT) : ACCESS3resok := ⟨res.objAttributes.message, res.access⟩

def READLINK3resokT.message (res : READLINK3resokT) : READLINK3resok :=
  ⟨res.symlinkAttributes.message, res.data.cstring⟩

/-- The count of a C result has 32 bits. -/
def READ3resokT.message (res : READ3resokT) : READ3resok :=
  ⟨res.fileAttributes.message, res.count.toUInt64, res.eof ≠ 0, res.data.bytes res.dataLen⟩

def NewObjectT.message (res : NewObjectT) : NewObject :=
  ⟨res.objAttributes.message, res.dirWcc.message, res.object.message⟩

def RemovedEntryT.message (res : RemovedEntryT) : RemovedEntry := ⟨res.dirWcc.message⟩

def RENAME3resokT.message (res : RENAME3resokT) : RENAME3resok :=
  ⟨res.fromdirWcc.message, res.todirWcc.message⟩

def LINK3resokT.message (res : LINK3resokT) : LINK3resok :=
  ⟨res.fileAttributes.message, res.linkdirWcc.message⟩

def Entry3T.message (e : Entry3T) : Entry3 := ⟨e.fileid, e.name.cstring, e.cookie⟩

def Dirlist3T.message (dl : Dirlist3T) : Dirlist3 := ⟨dl.entries.map Entry3T.message, dl.eof ≠ 0⟩

def READDIR3resokT.message (res : READDIR3resokT) : READDIR3resok :=
  ⟨res.dirAttributes.message, res.cookieverf, res.reply.message⟩

def Entryplus3T.message (e : Entryplus3T) : Entryplus3 :=
  ⟨e.fileid, e.name.cstring, e.cookie, e.nameHandle.message, e.nameAttributes.message⟩

def Dirlistplus3T.message (dl : Dirlistplus3T) : Dirlistplus3 :=
  ⟨dl.entries.map Entryplus3T.message, dl.eof ≠ 0⟩

def READDIRPLUS3resokT.message (res : READDIRPLUS3resokT) : READDIRPLUS3resok :=
  ⟨res.dirAttributes.message, res.cookieverf, res.reply.message⟩

def FSSTAT3resokT.message (res : FSSTAT3resokT) : FSSTAT3resok :=
  ⟨res.objAttributes.message, res.tbytes, res.fbytes, res.abytes, res.tfiles, res.ffiles, res.afiles,
    res.invarsec⟩

def FSINFO3resokT.message (res : FSINFO3resokT) : FSINFO3resok :=
  ⟨res.objAttributes.message, res.rtmax, res.rtpref, res.rtmult, res.wtmax, res.wtpref, res.wtmult,
    res.dtpref, res.maxfilesize, res.timeDeltaSeconds, res.timeDeltaNseconds, res.properties⟩

def Pathconf3ResokInfoT.message (info : Pathconf3ResokInfoT) : Pathconf3ResokInfo :=
  ⟨info.linkmax, info.nameMax, info.noTrunc ≠ 0, info.chownRestricted ≠ 0, info.caseInsensitive ≠ 0,
    info.casePreserving ≠ 0⟩

def PATHCONF3resokT.message (res : PATHCONF3resokT) : PATHCONF3resok :=
  ⟨res.objAttributes.message, res.info.message⟩

def COMMIT3resokT.message (res : COMMIT3resokT) : COMMIT3resok := ⟨res.fileWcc.message, res.verf⟩

def ResT.message {ok okMessage : Type} (message : ok → okMessage) (res : ResT ok) : Res okMessage :=
  ⟨res.status, whenSet res.hasResok (message res.resok)⟩

/-- The flag of a result follows its status. -/
def ResT.WellFormed {ok : Type} (okWellFormed : ok → Prop) (res : ResT ok) : Prop :=
  (res.status = .NFS3_OK ↔ res.hasResok ≠ 0) ∧ okWellFormed res.resok

def ResT.Owned {ok : Type} (okOwned : ok → Prop) (res : ResT ok) : Prop := okOwned res.resok

structure WRITE3ok where
  fileWcc : WccData
  count : UInt32
  committed : StableHow
  verf : Writeverf3
  deriving DecidableEq

/-- The C++ suite has no structure with the fields of a C WRITE result. -/
structure WRITE3reply where
  status : Nfsstat3
  resok : Option WRITE3ok
  resfail : Option WccData
  deriving DecidableEq

def WRITE3resT.message (res : WRITE3resT) : WRITE3reply :=
  if res.hasResok ≠ 0 then
    ⟨res.status, some ⟨res.resok.fileWcc.message, res.resok.count, res.resok.committed, res.resok.verf⟩,
      none⟩
  else
    ⟨res.status, none, some res.resfail.fileWcc.message⟩

def WRITE3resT.WellFormed (res : WRITE3resT) : Prop := res.status = .NFS3_OK ↔ res.hasResok ≠ 0

end Nfs3Rpc.Csuite

namespace Nfs3Rpc
open Csuite

/-- This is the message of a C result. -/
def ProcNum.Reply : ProcNum → Type
  | .WRITE => WRITE3reply
  | proc => Res proc.Resok

def ProcNum.messageRes : (proc : ProcNum) → proc.ResT → proc.Reply
  | .GETATTR => ResT.message GETATTR3resokT.message
  | .SETATTR => ResT.message SETATTR3resokT.message
  | .LOOKUP => ResT.message LOOKUP3resokT.message
  | .ACCESS => ResT.message ACCESS3resokT.message
  | .READLINK => ResT.message READLINK3resokT.message
  | .READ => ResT.message READ3resokT.message
  | .WRITE => WRITE3resT.message
  | .CREATE => ResT.message NewObjectT.message
  | .MKDIR => ResT.message NewObjectT.message
  | .SYMLINK => ResT.message NewObjectT.message
  | .MKNOD => ResT.message NewObjectT.message
  | .REMOVE => ResT.message RemovedEntryT.message
  | .RMDIR => ResT.message RemovedEntryT.message
  | .RENAME => ResT.message RENAME3resokT.message
  | .LINK => ResT.message LINK3resokT.message
  | .READDIR => ResT.message READDIR3resokT.message
  | .READDIRPLUS => ResT.message READDIRPLUS3resokT.message
  | .FSSTAT => ResT.message FSSTAT3resokT.message
  | .FSINFO => ResT.message FSINFO3resokT.message
  | .PATHCONF => ResT.message PATHCONF3resokT.message
  | .COMMIT => ResT.message COMMIT3resokT.message

/-- Only handles, strings, and file data have memory behind them. -/
def ProcNum.WellFormedRes : (proc : ProcNum) → proc.ResT → Prop
  | .GETATTR => ResT.WellFormed fun _ : GETATTR3resokT => True
  | .SETATTR => ResT.WellFormed fun _ : SETATTR3resokT => True
  | .LOOKUP => ResT.WellFormed fun res : LOOKUP3resokT => res.object.WellFormed
  | .ACCESS => ResT.WellFormed fun _ : ACCESS3resokT => True
  | .READLINK => ResT.WellFormed fun res : READLINK3resokT => res.data.IsString
  | .READ => ResT.WellFormed fun res : READ3resokT => res.data.Holds res.dataLen
  | .WRITE => WRITE3resT.WellFormed
  | .CREATE => ResT.WellFormed fun res : NewObjectT => res.object.WellFormed
  | .MKDIR => ResT.WellFormed fun res : NewObjectT => res.object.WellFormed
  | .SYMLINK => ResT.WellFormed fun res : NewObjectT => res.object.WellFormed
  | .MKNOD => ResT.WellFormed fun res : NewObjectT => res.object.WellFormed
  | .REMOVE => ResT.WellFormed fun _ : RemovedEntryT => True
  | .RMDIR => ResT.WellFormed fun _ : RemovedEntryT => True
  | .RENAME => ResT.WellFormed fun _ : RENAME3resokT => True
  | .LINK => ResT.WellFormed fun _ : LINK3resokT => True
  | .READDIR => ResT.WellFormed fun res : READDIR3resokT => ∀ e ∈ res.reply.entries, e.name.IsString
  | .READDIRPLUS => ResT.WellFormed fun res : READDIRPLUS3resokT =>
      ∀ e ∈ res.reply.entries, e.name.IsString ∧ e.nameHandle.WellFormed
  | .FSSTAT => ResT.WellFormed fun _ : FSSTAT3resokT => True
  | .FSINFO => ResT.WellFormed fun _ : FSINFO3resokT => True
  | .PATHCONF => ResT.WellFormed fun _ : PATHCONF3resokT => True
  | .COMMIT => ResT.WellFormed fun _ : COMMIT3resokT => True

def ProcNum.OwnedRes : (proc : ProcNum) → proc.ResT → Prop
  | .GETATTR => ResT.Owned fun _ : GETATTR3resokT => True
  | .SETATTR => ResT.Owned fun _ : SETATTR3resokT => True
  | .LOOKUP => ResT.Owned fun res : LOOKUP3resokT => res.object.Owned
  | .ACCESS => ResT.Owned fun _ : ACCESS3resokT => True
  | .READLINK => ResT.Owned fun res : READLINK3resokT => res.data.Owned
  | .READ => ResT.Owned fun res : READ3resokT => res.data.Owned
  | .WRITE => fun _ => True
  | .CREATE => ResT.Owned fun res : NewObjectT => res.object.Owned
  | .MKDIR => ResT.Owned fun res : NewObjectT => res.object.Owned
  | .SYMLINK => ResT.Owned fun res : NewObjectT => res.object.Owned
  | .MKNOD => ResT.Owned fun res : NewObjectT => res.object.Owned
  | .REMOVE => ResT.Owned fun _ : RemovedEntryT => True
  | .RMDIR => ResT.Owned fun _ : RemovedEntryT => True
  | .RENAME => ResT.Owned fun _ : RENAME3resokT => True
  | .LINK => ResT.Owned fun _ : LINK3resokT => True
  | .READDIR => ResT.Owned fun res : READDIR3resokT => ∀ e ∈ res.reply.entries, e.name.Owned
  | .READDIRPLUS => ResT.Owned fun res : READDIRPLUS3resokT =>
      ∀ e ∈ res.reply.entries, e.name.Owned ∧ e.nameHandle.Owned
  | .FSSTAT => ResT.Owned fun _ : FSSTAT3resokT => True
  | .FSINFO => ResT.Owned fun _ : FSINFO3resokT => True
  | .PATHCONF => ResT.Owned fun _ : PATHCONF3resokT => True
  | .COMMIT => ResT.Owned fun _ : COMMIT3resokT => True

end Nfs3Rpc
