/-
This file states the bytes of the procedure arguments and the values that the C++ codec can carry.
-/

import Nfs3Rpc.Format.Attributes
import Nfs3Rpc.Construction.Builtin.Procedures

namespace Nfs3Rpc
open Encoding Builtin

def GETATTR3args.wire (args : GETATTR3args) : Bytes := args.object.wire

def GETATTR3args.Fits (args : GETATTR3args) : Prop := args.object.Fits

def SETATTR3args.wire (args : SETATTR3args) : Bytes :=
  [args.object.wire, args.newAttributes.wire,
    optionalWire NfsFh3.wire args.guard].flatten

def SETATTR3args.Fits (args : SETATTR3args) : Prop :=
  args.object.Fits ∧ args.newAttributes.Fits ∧ (∀ fh ∈ args.guard, fh.Fits)

def LOOKUP3args.wire (args : LOOKUP3args) : Bytes := [args.whatDir.wire, opaqueBytes args.whatName].flatten

def LOOKUP3args.Fits (args : LOOKUP3args) : Prop := args.whatDir.Fits ∧ Short args.whatName

def ACCESS3args.wire (args : ACCESS3args) : Bytes := [args.object.wire, be32 args.access].flatten

def ACCESS3args.Fits (args : ACCESS3args) : Prop := args.object.Fits

def READLINK3args.wire (args : READLINK3args) : Bytes := args.symlink.wire

def READLINK3args.Fits (args : READLINK3args) : Prop := args.symlink.Fits

def READ3args.wire (args : READ3args) : Bytes := [args.file.wire, be64 args.offset, be32 args.count].flatten

def READ3args.Fits (args : READ3args) : Prop := args.file.Fits

def WRITE3args.wire (args : WRITE3args) : Bytes :=
  [args.file.wire, be64 args.offset, be32 args.count,
    be32 args.stable.code, opaqueBytes args.data].flatten

def WRITE3args.Fits (args : WRITE3args) : Prop := args.file.Fits ∧ Short args.data

/-- The verifier travels only in EXCLUSIVE mode. -/
def CREATE3args.wire (args : CREATE3args) : Bytes :=
  ([args.whereDir.wire, opaqueBytes args.whereName, be32 args.howMode.code, args.howAttributes.wire] ++
    if args.howMode = .EXCLUSIVE then [args.howVerf.wire] else []).flatten

def CREATE3args.Fits (args : CREATE3args) : Prop :=
  args.whereDir.Fits ∧ Short args.whereName ∧ args.howAttributes.Fits

/-- The other modes hide the verifier. -/
def CREATE3args.visible (args : CREATE3args) : CREATE3args :=
  if args.howMode = .EXCLUSIVE then args else { args with howVerf := .zero }

def MKDIR3args.wire (args : MKDIR3args) : Bytes :=
  [args.whereDir.wire, opaqueBytes args.whereName,
    args.attributes.wire].flatten

def MKDIR3args.Fits (args : MKDIR3args) : Prop :=
  args.whereDir.Fits ∧ Short args.whereName ∧ args.attributes.Fits

def SYMLINK3args.wire (args : SYMLINK3args) : Bytes :=
  [args.whereDir.wire,
    opaqueBytes args.whereName, args.symlinkAttributes.wire, opaqueBytes args.symlinkData].flatten

def SYMLINK3args.Fits (args : SYMLINK3args) : Prop :=
  args.whereDir.Fits ∧ Short args.whereName ∧ args.symlinkAttributes.Fits ∧ Short args.symlinkData

def MKNOD3args.wire (args : MKNOD3args) : Bytes :=
  [args.whereDir.wire, opaqueBytes args.whereName,
    be32 args.whatType.code, args.whatAttributes.wire].flatten

def MKNOD3args.Fits (args : MKNOD3args) : Prop :=
  args.whereDir.Fits ∧ Short args.whereName ∧ args.whatAttributes.Fits

def REMOVE3args.wire (args : REMOVE3args) : Bytes :=
  [args.objectDir.wire, opaqueBytes args.objectName].flatten

def REMOVE3args.Fits (args : REMOVE3args) : Prop := args.objectDir.Fits ∧ Short args.objectName

def RMDIR3args.wire (args : RMDIR3args) : Bytes :=
  [args.objectDir.wire, opaqueBytes args.objectName].flatten

def RMDIR3args.Fits (args : RMDIR3args) : Prop := args.objectDir.Fits ∧ Short args.objectName

def RENAME3args.wire (args : RENAME3args) : Bytes :=
  [args.fromDir.wire, opaqueBytes args.fromName,
    args.toDir.wire, opaqueBytes args.toName].flatten

def RENAME3args.Fits (args : RENAME3args) : Prop :=
  args.fromDir.Fits ∧ Short args.fromName ∧ args.toDir.Fits ∧ Short args.toName

def LINK3args.wire (args : LINK3args) : Bytes :=
  [args.file.wire, args.linkDir.wire,
    opaqueBytes args.linkName].flatten

def LINK3args.Fits (args : LINK3args) : Prop := args.file.Fits ∧ args.linkDir.Fits ∧ Short args.linkName

def READDIR3args.wire (args : READDIR3args) : Bytes :=
  [args.dir.wire, be64 args.cookie,
    be64 args.cookieverf, be32 args.count].flatten

def READDIR3args.Fits (args : READDIR3args) : Prop := args.dir.Fits

def READDIRPLUS3args.wire (args : READDIRPLUS3args) : Bytes :=
  [args.dir.wire, be64 args.cookie,
    be64 args.cookieverf, be32 args.dircount, be32 args.maxcount].flatten

def READDIRPLUS3args.Fits (args : READDIRPLUS3args) : Prop := args.dir.Fits

def FSSTAT3args.wire (args : FSSTAT3args) : Bytes := args.fsroot.wire

def FSSTAT3args.Fits (args : FSSTAT3args) : Prop := args.fsroot.Fits

def FSINFO3args.wire (args : FSINFO3args) : Bytes := args.fsroot.wire

def FSINFO3args.Fits (args : FSINFO3args) : Prop := args.fsroot.Fits

def PATHCONF3args.wire (args : PATHCONF3args) : Bytes := args.object.wire

def PATHCONF3args.Fits (args : PATHCONF3args) : Prop := args.object.Fits

def COMMIT3args.wire (args : COMMIT3args) : Bytes :=
  [args.file.wire, be64 args.offset,
    be32 args.count].flatten

def COMMIT3args.Fits (args : COMMIT3args) : Prop := args.file.Fits

def ProcNum.argsWire : (proc : ProcNum) → proc.Args → Bytes
  | .GETATTR => GETATTR3args.wire
  | .SETATTR => SETATTR3args.wire
  | .LOOKUP => LOOKUP3args.wire
  | .ACCESS => ACCESS3args.wire
  | .READLINK => READLINK3args.wire
  | .READ => READ3args.wire
  | .WRITE => WRITE3args.wire
  | .CREATE => CREATE3args.wire
  | .MKDIR => MKDIR3args.wire
  | .SYMLINK => SYMLINK3args.wire
  | .MKNOD => MKNOD3args.wire
  | .REMOVE => REMOVE3args.wire
  | .RMDIR => RMDIR3args.wire
  | .RENAME => RENAME3args.wire
  | .LINK => LINK3args.wire
  | .READDIR => READDIR3args.wire
  | .READDIRPLUS => READDIRPLUS3args.wire
  | .FSSTAT => FSSTAT3args.wire
  | .FSINFO => FSINFO3args.wire
  | .PATHCONF => PATHCONF3args.wire
  | .COMMIT => COMMIT3args.wire

def ProcNum.ArgsFit : (proc : ProcNum) → proc.Args → Prop
  | .GETATTR => GETATTR3args.Fits
  | .SETATTR => SETATTR3args.Fits
  | .LOOKUP => LOOKUP3args.Fits
  | .ACCESS => ACCESS3args.Fits
  | .READLINK => READLINK3args.Fits
  | .READ => READ3args.Fits
  | .WRITE => WRITE3args.Fits
  | .CREATE => CREATE3args.Fits
  | .MKDIR => MKDIR3args.Fits
  | .SYMLINK => SYMLINK3args.Fits
  | .MKNOD => MKNOD3args.Fits
  | .REMOVE => REMOVE3args.Fits
  | .RMDIR => RMDIR3args.Fits
  | .RENAME => RENAME3args.Fits
  | .LINK => LINK3args.Fits
  | .READDIR => READDIR3args.Fits
  | .READDIRPLUS => READDIRPLUS3args.Fits
  | .FSSTAT => FSSTAT3args.Fits
  | .FSINFO => FSINFO3args.Fits
  | .PATHCONF => PATHCONF3args.Fits
  | .COMMIT => COMMIT3args.Fits

def ProcNum.visibleArgs : (proc : ProcNum) → proc.Args → proc.Args
  | .CREATE => CREATE3args.visible
  | _ => id

/-- A default-initialized object has empty members; its plain enumerations and arrays are undefined. -/
def ProcNum.FreshArgs : (proc : ProcNum) → proc.Args → Prop
  | .GETATTR => fun args : GETATTR3args => args = {}
  | .SETATTR => fun args : SETATTR3args => args = {}
  | .LOOKUP => fun args : LOOKUP3args => args = {}
  | .ACCESS => fun args : ACCESS3args => args = {}
  | .READLINK => fun args : READLINK3args => args = {}
  | .READ => fun args : READ3args => args = {}
  | .WRITE => fun args : WRITE3args => args = {}
  | .CREATE => fun args => ∃ mode verf, args = { howMode := mode, howVerf := verf }
  | .MKDIR => fun args : MKDIR3args => args = {}
  | .SYMLINK => fun args : SYMLINK3args => args = {}
  | .MKNOD => fun args => ∃ type, args = { whatType := type }
  | .REMOVE => fun args : REMOVE3args => args = {}
  | .RMDIR => fun args : RMDIR3args => args = {}
  | .RENAME => fun args : RENAME3args => args = {}
  | .LINK => fun args : LINK3args => args = {}
  | .READDIR => fun args : READDIR3args => args = {}
  | .READDIRPLUS => fun args : READDIRPLUS3args => args = {}
  | .FSSTAT => fun args : FSSTAT3args => args = {}
  | .FSINFO => fun args : FSINFO3args => args = {}
  | .PATHCONF => fun args : PATHCONF3args => args = {}
  | .COMMIT => fun args : COMMIT3args => args = {}

end Nfs3Rpc
