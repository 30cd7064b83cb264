/-
This file states the bytes of the procedure results and what a reader can see of them.
-/

import Nfs3Rpc.Format.Attributes
import Nfs3Rpc.Construction.Builtin.Procedures

namespace Nfs3Rpc
open Encoding Builtin

def GETATTR3resok.wire (res : GETATTR3resok) : Bytes := res.objAttributes.wire

def SETATTR3resok.wire (res : SETATTR3resok) : Bytes := res.objWcc.wire

def SETATTR3resok.visible (res : SETATTR3resok) : SETATTR3resok := ⟨res.objWcc.visible⟩

def LOOKUP3resok.wire (res : LOOKUP3resok) : Bytes :=
  [res.object.wire, res.objAttributes.wire, res.dirAttributes.wire].flatten

def LOOKUP3resok.visible (res : LOOKUP3resok) : LOOKUP3resok :=
  ⟨res.object, res.objAttributes.visible, res.dirAttributes.visible⟩

def ACCESS3resok.wire (res : ACCESS3resok) : Bytes := [res.objAttributes.wire, be32 res.access].flatten

def ACCESS3resok.visible (res : ACCESS3resok) : ACCESS3resok := ⟨res.objAttributes.visible, res.access⟩

def READLINK3resok.wire (res : READLINK3resok) : Bytes :=
  [res.symlinkAttributes.wire, opaqueBytes res.data].flatten

def READLINK3resok.visible (res : READLINK3resok) : READLINK3resok :=
  ⟨res.symlinkAttributes.visible, res.data⟩

def READ3resok.wire (res : READ3resok) : Bytes :=
  [res.fileAttributes.wire, be64 res.count, beBool res.eof, opaqueBytes res.data].flatten

def READ3resok.visible (res : READ3resok) : READ3resok :=
  { res with fileAttributes := res.fileAttributes.visible }

def WRITE3resok.wire (res : WRITE3resok) : Bytes :=
  [res.fileAttributes.wire, be32 res.count, be32 res.committed.code, res.verf.wire].flatten

def WRITE3resok.visible (res : WRITE3resok) : WRITE3resok :=
  { res with fileAttributes := res.fileAttributes.visible }

def NewObject.wire (res : NewObject) : Bytes :=
  [res.objAttributes.wire, res.dirWcc.wire, res.object.wire].flatten

def NewObject.visible (res : NewObject) : NewObject :=
  ⟨res.objAttributes.visible, res.dirWcc.visible, res.object⟩

def RemovedEntry.wire (res : RemovedEntry) : Bytes := res.dirWcc.wire

def RemovedEntry.visible (res : RemovedEntry) : RemovedEntry := ⟨res.dirWcc.visible⟩

def RENAME3resok.wire (res : RENAME3resok) : Bytes := [res.fromdirWcc.wire, res.todirWcc.wire].flatten

def RENAME3resok.visible (res : RENAME3resok) : RENAME3resok :=
  ⟨res.fromdirWcc.visible, res.todirWcc.visible⟩

def LINK3resok.wire (res : LINK3resok) : Bytes := [res.fileAttributes.wire, res.linkdirWcc.wire].flatten

def LINK3resok.visible (res : LINK3resok) : LINK3resok :=
  ⟨res.fileAttributes.visible, res.linkdirWcc.visible⟩

/-- Each entry is followed by a flag that tells whether another one comes. -/
def Entry3.wire (entry : Entry3) (nextentry : List Entry3) : Bytes :=
  [be64 entry.fileid, opaqueBytes entry.name, be64 entry.cookie, beBool !nextentry.isEmpty].flatten

/-- The chain is the sequence of its entries. -/
def Entry3.chainWire : List Entry3 → Bytes
  | [] => []
  | entry :: nextentry => entry.wire nextentry ++ Entry3.chainWire nextentry

def Dirlist3.wire (list : Dirlist3) : Bytes :=
  [beBool !list.entries.isEmpty, Entry3.chainWire list.entries, beBool list.eof].flatten

def Dirlist3.Fits (list : Dirlist3) : Prop := ∀ entry ∈ list.entries, Short entry.name

def READDIR3resok.wire (res : READDIR3resok) : Bytes :=
  [res.dirAttributes.wire, be64 res.cookieverf, res.reply.wire].flatten

def READDIR3resok.visible (res : READDIR3resok) : READDIR3resok :=
  { res with dirAttributes := res.dirAttributes.visible }

def Entryplus3.wire (entry : Entryplus3) (nextentry : List Entryplus3) : Bytes :=
  [be64 entry.fileid, opaqueBytes entry.name, be64 entry.cookie, entry.nameHandle.wire,
    entry.nameAttributes.wire, beBool !nextentry.isEmpty].flatten

def Entryplus3.chainWire : List Entryplus3 → Bytes
  | [] => []
  | entry :: nextentry => entry.wire nextentry ++ Entryplus3.chainWire nextentry

def Entryplus3.visible (entry : Entryplus3) : Entryplus3 :=
  { entry with nameAttributes := entry.nameAttributes.visible }

def Entryplus3.Fits (entry : Entryplus3) : Prop := Short entry.name ∧ entry.nameHandle.Fits

def Dirlistplus3.wire (list : Dirlistplus3) : Bytes :=
  [beBool !list.entries.isEmpty, Entryplus3.chainWire list.entries, beBool list.eof].flatten

def Dirlistplus3.visible (list : Dirlistplus3) : Dirlistplus3 :=
  ⟨list.entries.map Entryplus3.visible, list.eof⟩

def Dirlistplus3.Fits (list : Dirlistplus3) : Prop := ∀ entry ∈ list.entries, entry.Fits

def READDIRPLUS3resok.wire (res : READDIRPLUS3resok) : Bytes :=
  [res.dirAttributes.wire, be64 res.cookieverf, res.reply.wire].flatten

def READDIRPLUS3resok.visible (res : READDIRPLUS3resok) : READDIRPLUS3resok :=
  ⟨res.dirAttributes.visible, res.cookieverf, res.reply.visible⟩

def FSSTAT3resok.wire (res : FSSTAT3resok) : Bytes :=
  [res.objAttributes.wire, be64 res.tbytes, be64 res.fbytes, be64 res.abytes, be64 res.tfiles,
    be64 res.ffiles, be64 res.afiles, be32 res.invarsec].flatten

def FSSTAT3resok.visible (res : FSSTAT3resok) : FSSTAT3resok :=
  { res with objAttributes := res.objAttributes.visible }

def FSINFO3resok.wire (res : FSINFO3resok) : Bytes :=
  [res.objAttributes.wire, be32 res.rtmax, be32 res.rtpref, be32 res.rtmult, be32 res.wtmax,
    be32 res.wtpref, be32 res.wtmult, be32 res.dtpref, be64 res.maxfilesize, be32 res.timeDeltaSeconds,
    be32 res.timeDeltaNseconds, be32 res.properties].flatten

def FSINFO3resok.visible (res : FSINFO3resok) : FSINFO3resok :=
  { res with objAttributes := res.objAttributes.visible }

def Fsinfo3ResokProperty.wire (res : Fsinfo3ResokProperty) : Bytes :=
  [be32 res.linkmax, be32 res.nameMax, beBool res.noTrunc, beBool res.chownRestricted,
    beBool res.caseInsensitive, beBool res.casePreserving].flatten

def Pathconf3ResokInfo.wire (info : Pathconf3ResokInfo) : Bytes :=
  [be32 info.linkmax.toUInt32, be32 info.nameMax.toUInt32, beBool info.noTrunc,
    beBool info.chownRestricted, beBool info.caseInsensitive, beBool info.casePreserving].flatten

def PATHCONF3resok.wire (res : PATHCONF3resok) : Bytes := [res.objAttributes.wire, res.info.wire].flatten

def PATHCONF3resok.visible (res : PATHCONF3resok) : PATHCONF3resok :=
  { res with objAttributes := res.objAttributes.visible }

def COMMIT3resok.wire (res : COMMIT3resok) : Bytes := [res.fileWcc.wire, res.verf.wire].flatten

def COMMIT3resok.visible (res : COMMIT3resok) : COMMIT3resok := { res with fileWcc := res.fileWcc.visible }

def ProcNum.resokWire : (proc : ProcNum) → proc.Resok → Bytes
  | .GETATTR => GETATTR3resok.wire
  | .SETATTR => SETATTR3resok.wire
  | .LOOKUP => LOOKUP3resok.wire
  | .ACCESS => ACCESS3resok.wire
  | .READLINK => READLINK3resok.wire
  | .READ => READ3resok.wire
  | .WRITE => WRITE3resok.wire
  | .CREATE | .MKDIR | .SYMLINK | .MKNOD => NewObject.wire
  | .REMOVE | .RMDIR => RemovedEntry.wire
  | .RENAME => RENAME3resok.wire
  | .LINK => LINK3resok.wire
  | .READDIR => READDIR3resok.wire
  | .READDIRPLUS => READDIRPLUS3resok.wire
  | .FSSTAT => FSSTAT3resok.wire
  | .FSINFO => FSINFO3resok.wire
  | .PATHCONF => PATHCONF3resok.wire
  | .COMMIT => COMMIT3resok.wire

/-- Only handles, link text, file data, and directory entries have a length to bound. -/
def ProcNum.ResokFit : (proc : ProcNum) → proc.Resok → Prop
  | .LOOKUP => fun res : LOOKUP3resok => res.object.Fits
  | .READLINK => fun res : READLINK3resok => Short res.data
  | .READ => fun res : READ3resok => Short res.data
  | .CREATE | .MKDIR | .SYMLINK | .MKNOD => fun res : NewObject => res.object.Fits
  | .READDIR => fun res : READDIR3resok => res.reply.Fits
  | .READDIRPLUS => fun res : READDIRPLUS3resok => res.reply.Fits
  | _ => fun _ => True

def ProcNum.visibleResok : (proc : ProcNum) → proc.Resok → proc.Resok
  | .GETATTR => id
  | .SETATTR => SETATTR3resok.visible
  | .LOOKUP => LOOKUP3resok.visible
  | .ACCESS => ACCESS3resok.visible
  | .READLINK => READLINK3resok.visible
  | .READ => READ3resok.visible
  | .WRITE => WRITE3resok.visible
  | .CREATE | .MKDIR | .SYMLINK | .MKNOD => NewObject.visible
  | .REMOVE | .RMDIR => RemovedEntry.visible
  | .RENAME => RENAME3resok.visible
  | .LINK => LINK3resok.visible
  | .READDIR => READDIR3resok.visible
  | .READDIRPLUS => READDIRPLUS3resok.visible
  | .FSSTAT => FSSTAT3resok.visible
  | .FSINFO => FSINFO3resok.visible
  | .PATHCONF => PATHCONF3resok.visible
  | .COMMIT => COMMIT3resok.visible

/-- The status travels before the `resok` of a successful call. -/
def ProcNum.resWire (proc : ProcNum) (res : Res proc.Resok) : Bytes :=
  (be32 res.status.code :: res.resok.toList.map proc.resokWire).flatten

/-- A result holds its `resok` exactly when its status is NFS3_OK. -/
def ProcNum.ResFit (proc : ProcNum) (res : Res proc.Resok) : Prop :=
  (res.status = .NFS3_OK ↔ res.resok.isSome = true) ∧ ∀ resok ∈ res.resok, proc.ResokFit resok

def ProcNum.visibleRes (proc : ProcNum) (res : Res proc.Resok) : Res proc.Resok :=
  { res with resok := res.resok.map proc.visibleResok }

/-- A default-initialized result is empty, and its status is undefined. -/
def ProcNum.FreshRes (proc : ProcNum) (res : Res proc.Resok) : Prop := res.resok = none

end Nfs3Rpc
