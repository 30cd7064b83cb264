/-
This file names the result structures and indexes both codec directions by the procedure.
-/

import Nfs3Rpc.Construction.Builtin.Arguments
import Nfs3Rpc.Construction.Builtin.Directory

namespace Nfs3Rpc
open Encoding Builtin

abbrev GETATTR3res := Res GETATTR3resok

def GETATTR3res.serialize (res : GETATTR3res) : Xdr Unit := Res.serialize GETATTR3resok.serialize res

def GETATTR3res.deserialize (self : GETATTR3res) : Xdr GETATTR3res :=
  Res.deserialize GETATTR3resok.deserialize self

abbrev SETATTR3res := Res SETATTR3resok

def SETATTR3res.serialize (res : SETATTR3res) : Xdr Unit := Res.serialize SETATTR3resok.serialize res

def SETATTR3res.deserialize (self : SETATTR3res) : Xdr SETATTR3res :=
  Res.deserialize (SETATTR3resok.deserialize {}) self

abbrev LOOKUP3res := Res LOOKUP3resok

def LOOKUP3res.serialize (res : LOOKUP3res) : Xdr Unit := Res.serialize LOOKUP3resok.serialize res

def LOOKUP3res.deserialize (self : LOOKUP3res) : Xdr LOOKUP3res :=
  Res.deserialize (LOOKUP3resok.deserialize {}) self

abbrev ACCESS3res := Res ACCESS3resok

def ACCESS3res.serialize (res : ACCESS3res) : Xdr Unit := Res.serialize ACCESS3resok.serialize res

def ACCESS3res.deserialize (self : ACCESS3res) : Xdr ACCESS3res :=
  Res.deserialize (ACCESS3resok.deserialize {}) self

abbrev READLINK3res := Res READLINK3resok

def READLINK3res.serialize (res : READLINK3res) : Xdr Unit := Res.serialize READLINK3resok.serialize res

def READLINK3res.deserialize (self : READLINK3res) : Xdr READLINK3res :=
  Res.deserialize (READLINK3resok.deserialize {}) self

abbrev READ3res := Res READ3resok

def READ3res.serialize (res : READ3res) : Xdr Unit := Res.serialize READ3resok.serialize res

def READ3res.deserialize (self : READ3res) : Xdr READ3res :=
  Res.deserialize (READ3resok.deserialize {}) self

abbrev WRITE3res := Res WRITE3resok

def WRITE3res.serialize (res : WRITE3res) : Xdr Unit := Res.serialize WRITE3resok.serialize res

/-- The verifier of the new `resok` starts with the bytes that memory holds. -/
def WRITE3res.deserialize (uninit : Verifier) (self : WRITE3res) : Xdr WRITE3res :=
  Res.deserialize (WRITE3resok.deserialize { verf := uninit }) self

abbrev CREATE3res := Res CREATE3resok

def CREATE3res.serialize (res : CREATE3res) : Xdr Unit := Res.serialize NewObject.serialize res

def CREATE3res.deserialize (self : CREATE3res) : Xdr CREATE3res :=
  Res.deserialize (NewObject.deserialize {}) self

abbrev MKDIR3res := Res MKDIR3resok

def MKDIR3res.serialize (res : MKDIR3res) : Xdr Unit := Res.serialize NewObject.serialize res

def MKDIR3res.deserialize (self : MKDIR3res) : Xdr MKDIR3res :=
  Res.deserialize (NewObject.deserialize {}) self

abbrev SYMLINK3res := Res SYMLINK3resok

def SYMLINK3res.serialize (res : SYMLINK3res) : Xdr Unit := Res.serialize NewObject.serialize res

def SYMLINK3res.deserialize (self : SYMLINK3res) : Xdr SYMLINK3res :=
  Res.deserialize (NewObject.deserialize {}) self

abbrev MKNOD3res := Res MKNOD3resok

def MKNOD3res.serialize (res : MKNOD3res) : Xdr Unit := Res.serialize NewObject.serialize res

def MKNOD3res.deserialize (self : MKNOD3res) : Xdr MKNOD3res :=
  Res.deserialize (NewObject.deserialize {}) self

abbrev REMOVE3res := Res REMOVE3resok

def REMOVE3res.serialize (res : REMOVE3res) : Xdr Unit := Res.serialize RemovedEntry.serialize res

def REMOVE3res.deserialize (self : REMOVE3res) : Xdr REMOVE3res :=
  Res.deserialize (RemovedEntry.deserialize {}) self

abbrev RMDIR3res := Res RMDIR3resok

def RMDIR3res.serialize (res : RMDIR3res) : Xdr Unit := Res.serialize RemovedEntry.serialize res

def RMDIR3res.deserialize (self : RMDIR3res) : Xdr RMDIR3res :=
  Res.deserialize (RemovedEntry.deserialize {}) self

abbrev RENAME3res := Res RENAME3resok

def RENAME3res.serialize (res : RENAME3res) : Xdr Unit := Res.serialize RENAME3resok.serialize res

def RENAME3res.deserialize (self : RENAME3res) : Xdr RENAME3res :=
  Res.deserialize (RENAME3resok.deserialize {}) self

abbrev LINK3res := Res LINK3resok

def LINK3res.serialize (res : LINK3res) : Xdr Unit := Res.serialize LINK3resok.serialize res

def LINK3res.deserialize (self : LINK3res) : Xdr LINK3res :=
  Res.deserialize (LINK3resok.deserialize {}) self

abbrev READDIR3res := Res READDIR3resok

def READDIR3res.serialize (res : READDIR3res) : Xdr Unit := Res.serialize READDIR3resok.serialize res

def READDIR3res.deserialize (self : READDIR3res) : Xdr READDIR3res :=
  Res.deserialize (READDIR3resok.deserialize {}) self

abbrev READDIRPLUS3res := Res READDIRPLUS3resok

def READDIRPLUS3res.serialize (res : READDIRPLUS3res) : Xdr Unit := Res.serialize READDIRPLUS3resok.serialize res

def READDIRPLUS3res.deserialize (self : READDIRPLUS3res) : Xdr READDIRPLUS3res :=
  Res.deserialize (READDIRPLUS3resok.deserialize {}) self

abbrev FSSTAT3res := Res FSSTAT3resok

def FSSTAT3res.serialize (res : FSSTAT3res) : Xdr Unit := Res.serialize FSSTAT3resok.serialize res

def FSSTAT3res.deserialize (self : FSSTAT3res) : Xdr FSSTAT3res :=
  Res.deserialize (FSSTAT3resok.deserialize {}) self

abbrev FSINFO3res := Res FSINFO3resok

def FSINFO3res.serialize (res : FSINFO3res) : Xdr Unit := Res.serialize FSINFO3resok.serialize res

def FSINFO3res.deserialize (self : FSINFO3res) : Xdr FSINFO3res :=
  Res.deserialize (FSINFO3resok.deserialize {}) self

abbrev PATHCONF3res := Res PATHCONF3resok

def PATHCONF3res.serialize (res : PATHCONF3res) : Xdr Unit := Res.serialize PATHCONF3resok.serialize res

def PATHCONF3res.deserialize (self : PATHCONF3res) : Xdr PATHCONF3res :=
  Res.deserialize (PATHCONF3resok.deserialize {}) self

abbrev COMMIT3res := Res COMMIT3resok

def COMMIT3res.serialize (res : COMMIT3res) : Xdr Unit := Res.serialize COMMIT3resok.serialize res

def COMMIT3res.deserialize (uninit : Verifier) (self : COMMIT3res) : Xdr COMMIT3res :=
  Res.deserialize (COMMIT3resok.deserialize { verf := uninit }) self

def ProcNum.Args : ProcNum → Type
  | .GETATTR => GETATTR3args
  | .SETATTR => SETATTR3args
  | .LOOKUP => LOOKUP3args
  | .ACCESS => ACCESS3args
  | .READLINK => READLINK3args
  | .READ => READ3args
  | .WRITE => WRITE3args
  | .CREATE => CREATE3args
  | .MKDIR => MKDIR3args
  | .SYMLINK => SYMLINK3args
  | .MKNOD => MKNOD3args
  | .REMOVE => REMOVE3args
  | .RMDIR => RMDIR3args
  | .RENAME => RENAME3args
  | .LINK => LINK3args
  | .READDIR => READDIR3args
  | .READDIRPLUS => READDIRPLUS3args
  | .FSSTAT => FSSTAT3args
  | .FSINFO => FSINFO3args
  | .PATHCONF => PATHCONF3args
  | .COMMIT => COMMIT3args

def ProcNum.Resok : ProcNum → Type
  | .GETATTR => GETATTR3resok
  | .SETATTR => SETATTR3resok
  | .LOOKUP => LOOKUP3resok
  | .ACCESS => ACCESS3resok
  | .READLINK => READLINK3resok
  | .READ => READ3resok
  | .WRITE => WRITE3resok
  | .CREATE => CREATE3resok
  | .MKDIR => MKDIR3resok
  | .SYMLINK => SYMLINK3resok
  | .MKNOD => MKNOD3resok
  | .REMOVE => REMOVE3resok
  | .RMDIR => RMDIR3resok
  | .RENAME => RENAME3resok
  | .LINK => LINK3resok
  | .READDIR => READDIR3resok
  | .READDIRPLUS => READDIRPLUS3resok
  | .FSSTAT => FSSTAT3resok
  | .FSINFO => FSINFO3resok
  | .PATHCONF => PATHCONF3resok
  | .COMMIT => COMMIT3resok

def ProcNum.serializeArgs : (proc : ProcNum) → proc.Args → Xdr Unit
  | .GETATTR => GETATTR3args.serialize
  | .SETATTR => SETATTR3args.serialize
  | .LOOKUP => LOOKUP3args.serialize
  | .ACCESS => ACCESS3args.serialize
  | .READLINK => READLINK3args.serialize
  | .READ => READ3args.serialize
  | .WRITE => WRITE3args.serialize
  | .CREATE => CREATE3args.serialize
  | .MKDIR => MKDIR3args.serialize
  | .SYMLINK => SYMLINK3args.serialize
  | .MKNOD => MKNOD3args.serialize
  | .REMOVE => REMOVE3args.serialize
  | .RMDIR => RMDIR3args.serialize
  | .RENAME => RENAME3args.serialize
  | .LINK => LINK3args.serialize
  | .READDIR => READDIR3args.serialize
  | .READDIRPLUS => READDIRPLUS3args.serialize
  | .FSSTAT => FSSTAT3args.serialize
  | .FSINFO => FSINFO3args.serialize
  | .PATHCONF => PATHCONF3args.serialize
  | .COMMIT => COMMIT3args.serialize

/-- Only the structures with optional fields depend on the prior object. -/
def ProcNum.deserializeArgs : (proc : ProcNum) → proc.Args → Xdr proc.Args
  | .GETATTR => fun _ => GETATTR3args.deserialize
  | .SETATTR => SETATTR3args.deserialize
  | .LOOKUP => fun _ => LOOKUP3args.deserialize
  | .ACCESS => fun _ => ACCESS3args.deserialize
  | .READLINK => fun _ => READLINK3args.deserialize
  | .READ => fun _ => READ3args.deserialize
  | .WRITE => fun _ => WRITE3args.deserialize
  | .CREATE => CREATE3args.deserialize
  | .MKDIR => MKDIR3args.deserialize
  | .SYMLINK => SYMLINK3args.deserialize
  | .MKNOD => MKNOD3args.deserialize
  | .REMOVE => fun _ => REMOVE3args.deserialize
  | .RMDIR => fun _ => RMDIR3args.deserialize
  | .RENAME => fun _ => RENAME3args.deserialize
  | .LINK => fun _ => LINK3args.deserialize
  | .READDIR => fun _ => READDIR3args.deserialize
  | .READDIRPLUS => fun _ => READDIRPLUS3args.deserialize
  | .FSSTAT => fun _ => FSSTAT3args.deserialize
  | .FSINFO => fun _ => FSINFO3args.deserialize
  | .PATHCONF => fun _ => PATHCONF3args.deserialize
  | .COMMIT => fun _ => COMMIT3args.deserialize

def ProcNum.serializeRes : (proc : ProcNum) → Res proc.Resok → Xdr Unit
  | .GETATTR => GETATTR3res.serialize
  | .SETATTR => SETATTR3res.serialize
  | .LOOKUP => LOOKUP3res.serialize
  | .ACCESS => ACCESS3res.serialize
  | .READLINK => READLINK3res.serialize
  | .READ => READ3res.serialize
  | .WRITE => WRITE3res.serialize
  | .CREATE => CREATE3res.serialize
  | .MKDIR => MKDIR3res.serialize
  | .SYMLINK => SYMLINK3res.serialize
  | .MKNOD => MKNOD3res.serialize
  | .REMOVE => REMOVE3res.serialize
  | .RMDIR => RMDIR3res.serialize
  | .RENAME => RENAME3res.serialize
  | .LINK => LINK3res.serialize
  | .READDIR => READDIR3res.serialize
  | .READDIRPLUS => READDIRPLUS3res.serialize
  | .FSSTAT => FSSTAT3res.serialize
  | .FSINFO => FSINFO3res.serialize
  | .PATHCONF => PATHCONF3res.serialize
  | .COMMIT => COMMIT3res.serialize

def ProcNum.deserializeRes (uninit : Verifier) : (proc : ProcNum) → Res proc.Resok → Xdr (Res proc.Resok)
  | .GETATTR => GETATTR3res.deserialize
  | .SETATTR => SETATTR3res.deserialize
  | .LOOKUP => LOOKUP3res.deserialize
  | .ACCESS => ACCESS3res.deserialize
  | .READLINK => READLINK3res.deserialize
  | .READ => READ3res.deserialize
  | .WRITE => WRITE3res.deserialize uninit
  | .CREATE => CREATE3res.deserialize
  | .MKDIR => MKDIR3res.deserialize
  | .SYMLINK => SYMLINK3res.deserialize
  | .MKNOD => MKNOD3res.deserialize
  | .REMOVE => REMOVE3res.deserialize
  | .RMDIR => RMDIR3res.deserialize
  | .RENAME => RENAME3res.deserialize
  | .LINK => LINK3res.deserialize
  | .READDIR => READDIR3res.deserialize
  | .READDIRPLUS => READDIRPLUS3res.deserialize
  | .FSSTAT => FSSTAT3res.deserialize
  | .FSINFO => FSINFO3res.deserialize
  | .PATHCONF => PATHCONF3res.deserialize
  | .COMMIT => COMMIT3res.deserialize uninit

end Nfs3Rpc
