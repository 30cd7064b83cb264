/-
This file gives each C structure its message: what another program can observe of it.
The C++ structures serve as messages, with every hidden field set to its default.
-/

import Nfs3Rpc.Format.Arguments
import Nfs3Rpc.Format.Results
import Nfs3Rpc.Construction.Csuite.Procedures

namespace Nfs3Rpc.Csuite
open Encoding

/-- The null pointer counts as the empty string. -/
def Ptr.cstring : Ptr → Bytes
  | .block data => data.takeWhile (· != 0)
  | _ => []

def Ptr.bytes (source : Ptr) (len : UInt32) : Bytes :=
  match source with
  | .block data => data.take len.toNat
  | _ => []

/-- The block can be freed. -/
def Ptr.Owned (pointer : Ptr) : Prop := pointer ≠ .wild

/-- A C string is null or ends inside its block. -/
def Ptr.IsString (s : Ptr) : Prop := s = .null ∨ ∃ data, s = .block data ∧ 0 ∈ data

/-- A positive length needs a block of at least this length. -/
def Ptr.Holds (source : Ptr) (len : UInt32) : Prop :=
  source.Owned ∧ (len ≠ 0 → ∃ data, source = .block data ∧ len.toNat ≤ data.length)

def NfsFh3T.message (fh : NfsFh3T) : NfsFh3 := ⟨fh.data.bytes fh.len⟩

def NfsFh3T.Owned (fh : NfsFh3T) : Prop := fh.data.Owned

def NfsFh3T.WellFormed (fh : NfsFh3T) : Prop := fh.data.Holds fh.len

def PostOpAttrT.message (a : PostOpAttrT) : PostOpAttr :=
  if a.follow ≠ 0 then ⟨true, a.attributes⟩ else {}

def PreOpAttrT.message (a : PreOpAttrT) : PreOpAttr :=
  if a.check ≠ 0 then ⟨true, a.attributes⟩ else {}

def WccDataT.message (d : WccDataT) : WccData := ⟨d.before.message, d.after.message⟩

/-- A field is present exactly when its flag is set. -/
def whenSet {α : Type} (set : Int32) (value : α) : Option α := if set ≠ 0 then some value else none

def Sattr3T.message (s : Sattr3T) : Sattr3 :=
  ⟨whenSet s.modeSet s.mode, whenSet s.uidSet s.uid, whenSet s.gidSet s.gid, whenSet s.sizeSet s.size,
    whenSet s.atimeSet s.atime, whenSet s.mtimeSet s.mtime⟩

def GETATTR3argsT.message (args : GETATTR3argsT) : GETATTR3args := ⟨args.object.message⟩

def GETATTR3argsT.WellFormed (args : GETATTR3argsT) : Prop := args.object.WellFormed

def GETATTR3argsT.Owned (args : GETATTR3argsT) : Prop := args.object.Owned

def SETATTR3argsT.message (args : SETATTR3argsT) : SETATTR3args :=
  ⟨args.object.message, args.newAttributes.message, whenSet args.hasGuard args.guard.message⟩

def SETATTR3argsT.WellFormed (args : SETATTR3argsT) : Prop := args.object.WellFormed ∧ args.guard.WellFormed

def SETATTR3argsT.Owned (args : SETATTR3argsT) : Prop := args.object.Owned ∧ args.guard.Owned

def LOOKUP3argsT.message (args : LOOKUP3argsT) : LOOKUP3args :=
  ⟨args.whatDir.message, args.whatName.cstring⟩

def LOOKUP3argsT.WellFormed (args : LOOKUP3argsT) : Prop := args.whatDir.WellFormed ∧ args.whatName.IsString

def LOOKUP3argsT.Owned (args : LOOKUP3argsT) : Prop := args.whatDir.Owned ∧ args.whatName.Owned

def ACCESS3argsT.message (args : ACCESS3argsT) : ACCESS3args := ⟨args.object.message, args.access⟩

def ACCESS3argsT.WellFormed (args : ACCESS3argsT) : Prop := args.object.WellFormed

def ACCESS3argsT.Owned (args : ACCESS3argsT) : Prop := args.object.Owned

def READLINK3argsT.message (args : READLINK3argsT) : READLINK3args := ⟨args.symlink.message⟩

def READLINK3argsT.WellFormed (args : READLINK3argsT) : Prop := args.symlink.WellFormed

def READLINK3argsT.Owned (args : READLINK3argsT) : Prop := args.symlink.Owned

def READ3argsT.message (args : READ3argsT) : READ3args := ⟨args.file.message, args.offset, args.count⟩

def READ3argsT.WellFormed (args : READ3argsT) : Prop := args.file.WellFormed

def READ3argsT.Owned (args : READ3argsT) : Prop := args.file.Owned

def WRITE3argsT.message (args : WRITE3argsT) : WRITE3args :=
  ⟨args.file.message, args.offset, args.count, args.stable, args.data.bytes args.dataLen⟩

/-- The caller sets the count to the length of the data. -/
def WRITE3argsT.WellFormed (args : WRITE3argsT) : Prop :=
  args.file.WellFormed ∧ args.data.Holds args.dataLen ∧ args.count = args.dataLen

def WRITE3argsT.Owned (args : WRITE3argsT) : Prop := args.file.Owned ∧ args.data.Owned

/-- The mode selects one arm of the union. -/
def CREATE3argsT.message (args : CREATE3argsT) : CREATE3args :=
  if args.howMode = .EXCLUSIVE then
    ⟨args.whereDir.message, args.whereName.cstring, args.howMode, {}, args.howVerf⟩
  else
    ⟨args.whereDir.message, args.whereName.cstring, args.howMode, args.howAttributes.message, .zero⟩

def CREATE3argsT.WellFormed (args : CREATE3argsT) : Prop :=
  args.whereDir.WellFormed ∧ args.whereName.IsString

def CREATE3argsT.Owned (args : CREATE3argsT) : Prop := args.whereDir.Owned ∧ args.whereName.Owned

def MKDIR3argsT.message (args : MKDIR3argsT) : MKDIR3args :=
  ⟨args.whereDir.message, args.whereName.cstring, args.attributes.message⟩

def MKDIR3argsT.WellFormed (args : MKDIR3argsT) : Prop := args.whereDir.WellFormed ∧ args.whereName.IsString

def MKDIR3argsT.Owned (args : MKDIR3argsT) : Prop := args.whereDir.Owned ∧ args.whereName.Owned

def SYMLINK3argsT.message (args : SYMLINK3argsT) : SYMLINK3args :=
  ⟨args.whereDir.message, args.whereName.cstring, args.symlinkAttributes.message, args.symlinkData.cstring⟩

def SYMLINK3argsT.WellFormed (args : SYMLINK3argsT) : Prop :=
  args.whereDir.WellFormed ∧ args.whereName.IsString ∧ args.symlinkData.IsString

def SYMLINK3argsT.Owned (args : SYMLINK3argsT) : Prop :=
  args.whereDir.Owned ∧ args.whereName.Owned ∧ args.symlinkData.Owned

def MKNOD3argsT.message (args : MKNOD3argsT) : MKNOD3args :=
  ⟨args.whereDir.message, args.whereName.cstring, args.whatType, args.whatAttributes.message⟩

def MKNOD3argsT.WellFormed (args : MKNOD3argsT) : Prop := args.whereDir.WellFormed ∧ args.whereName.IsString

def MKNOD3argsT.Owned (args : MKNOD3argsT) : Prop := args.whereDir.Owned ∧ args.whereName.Owned

def REMOVE3argsT.message (args : REMOVE3argsT) : REMOVE3args :=
  ⟨args.objectDir.message, args.objectName.cstring⟩

def REMOVE3argsT.WellFormed (args : REMOVE3argsT) : Prop :=
  args.objectDir.WellFormed ∧ args.objectName.IsString

def REMOVE3argsT.Owned (args : REMOVE3argsT) : Prop := args.objectDir.Owned ∧ args.objectName.Owned

def RMDIR3argsT.message (args : RMDIR3argsT) : RMDIR3args :=
  ⟨args.objectDir.message, args.objectName.cstring⟩

def RMDIR3argsT.WellFormed (args : RMDIR3argsT) : Prop :=
  args.objectDir.WellFormed ∧ args.objectName.IsString

def RMDIR3argsT.Owned (args : RMDIR3argsT) : Prop := args.objectDir.Owned ∧ args.objectName.Owned

def RENAME3argsT.message (args : RENAME3argsT) : RENAME3args :=
  ⟨args.fromDir.message, args.fromName.cstring, args.toDir.message, args.toName.cstring⟩

def RENAME3argsT.WellFormed (args : RENAME3argsT) : Prop :=
  args.fromDir.WellFormed ∧ args.fromName.IsString ∧ args.toDir.WellFormed ∧ args.toName.IsString

def RENAME3argsT.Owned (args : RENAME3argsT) : Prop :=
  args.fromDir.Owned ∧ args.fromName.Owned ∧ args.toDir.Owned ∧ args.toName.Owned

def LINK3argsT.message (args : LINK3argsT) : LINK3args :=
  ⟨args.file.message, args.linkDir.message, args.linkName.cstring⟩

def LINK3argsT.WellFormed (args : LINK3argsT) : Prop :=
  args.file.WellFormed ∧ args.linkDir.WellFormed ∧ args.linkName.IsString

def LINK3argsT.Owned (args : LINK3argsT) : Prop :=
  args.file.Owned ∧ args.linkDir.Owned ∧ args.linkName.Owned

def READDIR3argsT.message (args : READDIR3argsT) : READDIR3args :=
  ⟨args.dir.message, args.cookie, args.cookieverf, args.count⟩

def READDIR3argsT.WellFormed (args : READDIR3argsT) : Prop := args.dir.WellFormed

def READDIR3argsT.Owned (args : READDIR3argsT) : Prop := args.dir.Owned

def READDIRPLUS3argsT.message (args : READDIRPLUS3argsT) : READDIRPLUS3args :=
  ⟨args.dir.message, args.cookie, args.cookieverf, args.dircount, args.maxcount⟩

def READDIRPLUS3argsT.WellFormed (args : READDIRPLUS3argsT) : Prop := args.dir.WellFormed

def READDIRPLUS3argsT.Owned (args : READDIRPLUS3argsT) : Prop := args.dir.Owned

def FSSTAT3argsT.message (args : FSSTAT3argsT) : FSSTAT3args := ⟨args.fsroot.message⟩

def FSSTAT3argsT.WellFormed (args : FSSTAT3argsT) : Prop := args.fsroot.WellFormed

def FSSTAT3argsT.Owned (args : FSSTAT3argsT) : Prop := args.fsroot.Owned

def FSINFO3argsT.message (args : FSINFO3argsT) : FSINFO3args := ⟨args.fsroot.message⟩

def FSINFO3argsT.WellFormed (args : FSINFO3argsT) : Prop := args.fsroot.WellFormed

def FSINFO3argsT.Owned (args : FSINFO3argsT) : Prop := args.fsroot.Owned

def PATHCONF3argsT.message (args : PATHCONF3argsT) : PATHCONF3args := ⟨args.object.message⟩

def PATHCONF3argsT.WellFormed (args : PATHCONF3argsT) : Prop := args.object.WellFormed

def PATHCONF3argsT.Owned (args : PATHCONF3argsT) : Prop := args.object.Owned

def COMMIT3argsT.message (args : COMMIT3argsT) : COMMIT3args := ⟨args.file.message, args.offset, args.count⟩

def COMMIT3argsT.WellFormed (args : COMMIT3argsT) : Prop := args.file.WellFormed

def COMMIT3argsT.Owned (args : COMMIT3argsT) : Prop := args.file.Owned

end Nfs3Rpc.Csuite

namespace Nfs3Rpc
open Csuite

def ProcNum.messageArgs : (proc : ProcNum) → proc.ArgsT → proc.Args
  | .GETATTR => GETATTR3argsT.message
  | .SETATTR => SETATTR3argsT.message
  | .LOOKUP => LOOKUP3argsT.message
  | .ACCESS => ACCESS3argsT.message
  | .READLINK => READLINK3argsT.message
  | .READ => READ3argsT.message
  | .WRITE => WRITE3argsT.message
  | .CREATE => CREATE3argsT.message
  | .MKDIR => MKDIR3argsT.message
  | .SYMLINK => SYMLINK3argsT.message
  | .MKNOD => MKNOD3argsT.message
  | .REMOVE => REMOVE3argsT.message
  | .RMDIR => RMDIR3argsT.message
  | .RENAME => RENAME3argsT.message
  | .LINK => LINK3argsT.message
  | .READDIR => READDIR3argsT.message
  | .READDIRPLUS => READDIRPLUS3argsT.message
  | .FSSTAT => FSSTAT3argsT.message
  | .FSINFO => FSINFO3argsT.message
  | .PATHCONF => PATHCONF3argsT.message
  | .COMMIT => COMMIT3argsT.message

def ProcNum.WellFormedArgs : (proc : ProcNum) → proc.ArgsT → Prop
  | .GETATTR => GETATTR3argsT.WellFormed
  | .SETATTR => SETATTR3argsT.WellFormed
  | .LOOKUP => LOOKUP3argsT.WellFormed
  | .ACCESS => ACCESS3argsT.WellFormed
  | .READLINK => READLINK3argsT.WellFormed
  | .READ => READ3argsT.WellFormed
  | .WRITE => WRITE3argsT.WellFormed
  | .CREATE => CREATE3argsT.WellFormed
  | .MKDIR => MKDIR3argsT.WellFormed
  | .SYMLINK => SYMLINK3argsT.WellFormed
  | .MKNOD => MKNOD3argsT.WellFormed
  | .REMOVE => REMOVE3argsT.WellFormed
  | .RMDIR => RMDIR3argsT.WellFormed
  | .RENAME => RENAME3argsT.WellFormed
  | .LINK => LINK3argsT.WellFormed
  | .READDIR => READDIR3argsT.WellFormed
  | .READDIRPLUS => READDIRPLUS3argsT.WellFormed
  | .FSSTAT => FSSTAT3argsT.WellFormed
  | .FSINFO => FSINFO3argsT.WellFormed
  | .PATHCONF => PATHCONF3argsT.WellFormed
  | .COMMIT => COMMIT3argsT.WellFormed

def ProcNum.OwnedArgs : (proc : ProcNum) → proc.ArgsT → Prop
  | .GETATTR => GETATTR3argsT.Owned
  | .SETATTR => SETATTR3argsT.Owned
  | .LOOKUP => LOOKUP3argsT.Owned
  | .ACCESS => ACCESS3argsT.Owned
  | .READLINK => READLINK3argsT.Owned
  | .READ => READ3argsT.Owned
  | .WRITE => WRITE3argsT.Owned
  | .CREATE => CREATE3argsT.Owned
  | .MKDIR => MKDIR3argsT.Owned
  | .SYMLINK => SYMLINK3argsT.Owned
  | .MKNOD => MKNOD3argsT.Owned
  | .REMOVE => REMOVE3argsT.Owned
  | .RMDIR => RMDIR3argsT.Owned
  | .RENAME => RENAME3argsT.Owned
  | .LINK => LINK3argsT.Owned
  | .READDIR => READDIR3argsT.Owned
  | .READDIRPLUS => READDIRPLUS3argsT.Owned
  | .FSSTAT => FSSTAT3argsT.Owned
  | .FSINFO => FSINFO3argsT.Owned
  | .PATHCONF => PATHCONF3argsT.Owned
  | .COMMIT => COMMIT3argsT.Owned

end Nfs3Rpc
