/-
This file is the argument part of `nfs3_types.hpp`: one structure for each procedure.
-/

import Nfs3Rpc.Construction.Builtin.Attributes

namespace Nfs3Rpc
open Encoding Builtin

structure GETATTR3args where
  object : NfsFh3 := {}
  deriving DecidableEq

def GETATTR3args.serialize (args : GETATTR3args) : Xdr Unit := args.object.serialize

def GETATTR3args.deserialize : Xdr GETATTR3args := do
  let object ← NfsFh3.deserialize
  return { object }

structure SETATTR3args where
  object : NfsFh3 := {}
  newAttributes : Sattr3 := {}
  guard : Option NfsFh3 := none
  deriving DecidableEq

def SETATTR3args.serialize (args : SETATTR3args) : Xdr Unit := do
  args.object.serialize
  args.newAttributes.serialize
  packOptional NfsFh3.serialize args.guard

def SETATTR3args.deserialize (self : SETATTR3args) : Xdr SETATTR3args := do
  let object ← NfsFh3.deserialize
  let newAttributes ← self.newAttributes.deserialize
  let guard ← unpackOptional NfsFh3.deserialize self.guard
  return { object, newAttributes, guard }

structure LOOKUP3args where
  whatDir : NfsFh3 := {}
  whatName : Bytes := []
  deriving DecidableEq

def LOOKUP3args.serialize (args : LOOKUP3args) : Xdr Unit := do
  args.whatDir.serialize
  packString args.whatName

def LOOKUP3args.deserialize : Xdr LOOKUP3args := do
  let whatDir ← NfsFh3.deserialize
  let whatName ← unpackString
  return { whatDir, whatName }

structure ACCESS3args where
  object : NfsFh3 := {}
  access : UInt32 := 0
  deriving DecidableEq

def ACCESS3args.serialize (args : ACCESS3args) : Xdr Unit := do
  args.object.serialize
  packUint32 args.access

def ACCESS3args.deserialize : Xdr ACCESS3args := do
  let object ← NfsFh3.deserialize
  let access ← unpackUint32
  return { object, access }

structure READLINK3args where
  symlink : NfsFh3 := {}
  deriving DecidableEq

def READLINK3args.serialize (args : READLINK3args) : Xdr Unit := args.symlink.serialize

def READLINK3args.deserialize : Xdr READLINK3args := do
  let symlink ← NfsFh3.deserialize
  return { symlink }

structure READ3args where
  file : NfsFh3 := {}
  offset : UInt64 := 0
  count : UInt32 := 0
  deriving DecidableEq

def READ3args.serialize (args : READ3args) : Xdr Unit := do
  args.file.serialize
  packUint64 args.offset
  packUint32 args.count

def READ3args.deserialize : Xdr READ3args := do
  let file ← NfsFh3.deserialize
  let offset ← unpackUint64
  let count ← unpackUint32
  return { file, offset, count }

structure WRITE3args where
  file : NfsFh3 := {}
  offset : UInt64 := 0
  count : UInt32 := 0
  stable : StableHow := .UNSTABLE
  data : Bytes := []
  deriving DecidableEq

def WRITE3args.serialize (args : WRITE3args) : Xdr Unit := do
  args.file.serialize
  packUint64 args.offset
  packUint32 args.count
  packUint32 args.stable.code
  packOpaque args.data

def WRITE3args.deserialize : Xdr WRITE3args := do
  let file ← NfsFh3.deserialize
  let offset ← unpackUint64
  let count ← unpackUint32
  let stableVal ← unpackUint32
  let data ← unpackOpaque
  return { file, offset, count, stable := ⟨stableVal⟩, data }

/-- C++ leaves the mode and the verifier of a new object undefined, so they have no default here. -/
structure CREATE3args where
  whereDir : NfsFh3 := {}
  whereName : Bytes := []
  howMode : Createmode3
  howAttributes : Sattr3 := {}
  howVerf : Createverf3
  deriving DecidableEq

def CREATE3args.serialize (args : CREATE3args) : Xdr Unit := do
  args.whereDir.serialize
  packString args.whereName
  packUint32 args.howMode.code
  args.howAttributes.serialize
  if args.howMode = .EXCLUSIVE then
    args.howVerf.serialize

def CREATE3args.deserialize (self : CREATE3args) : Xdr CREATE3args := do
  let whereDir ← NfsFh3.deserialize
  let whereName ← unpackString
  let modeVal ← unpackUint32
  let howMode : Createmode3 := ⟨modeVal⟩
  let howAttributes ← self.howAttributes.deserialize
  if howMode = .EXCLUSIVE then
    let howVerf ← self.howVerf.deserialize
    return { whereDir, whereName, howMode, howAttributes, howVerf }
  else
    return { whereDir, whereName, howMode, howAttributes, howVerf := self.howVerf }

structure MKDIR3args where
  whereDir : NfsFh3 := {}
  whereName : Bytes := []
  attributes : Sattr3 := {}
  deriving DecidableEq

def MKDIR3args.serialize (args : MKDIR3args) : Xdr Unit := do
  args.whereDir.serialize
  packString args.whereName
  args.attributes.serialize

def MKDIR3args.deserialize (self : MKDIR3args) : Xdr MKDIR3args := do
  let whereDir ← NfsFh3.deserialize
  let whereName ← unpackString
  let attributes ← self.attributes.deserialize
  return { whereDir, whereName, attributes }

structure SYMLINK3args where
  whereDir : NfsFh3 := {}
  whereName : Bytes := []
  symlinkAttributes : Sattr3 := {}
  symlinkData : Bytes := []
  deriving DecidableEq

def SYMLINK3args.serialize (args : SYMLINK3args) : Xdr Unit := do
  args.whereDir.serialize
  packString args.whereName
  args.symlinkAttributes.serialize
  packString args.symlinkData

def SYMLINK3args.deserialize (self : SYMLINK3args) : Xdr SYMLINK3args := do
  let whereDir ← NfsFh3.deserialize
  let whereName ← unpackString
  let symlinkAttributes ← self.symlinkAttributes.deserialize
  let symlinkData ← unpackString
  return { whereDir, whereName, symlinkAttributes, symlinkData }

/-- C++ leaves the type of a new object undefined. -/
structure MKNOD3args where
  whereDir : NfsFh3 := {}
  whereName : Bytes := []
  whatType : Ftype4
  whatAttributes : Sattr3 := {}
  deriving DecidableEq

def MKNOD3args.serialize (args : MKNOD3args) : Xdr Unit := do
  args.whereDir.serialize
  packString args.whereName
  packUint32 args.whatType.code
  args.whatAttributes.serialize

def MKNOD3args.deserialize (self : MKNOD3args) : Xdr MKNOD3args := do
  let whereDir ← NfsFh3.deserialize
  let whereName ← unpackString
  let typeVal ← unpackUint32
  let whatAttributes ← self.whatAttributes.deserialize
  return { whereDir, whereName, whatType := ⟨typeVal⟩, whatAttributes }

structure REMOVE3args where
  objectDir : NfsFh3 := {}
  objectName : Bytes := []
  deriving DecidableEq

def REMOVE3args.serialize (args : REMOVE3args) : Xdr Unit := do
  args.objectDir.serialize
  packString args.objectName

def REMOVE3args.deserialize : Xdr REMOVE3args := do
  let objectDir ← NfsFh3.deserialize
  let objectName ← unpackString
  return { objectDir, objectName }

structure RMDIR3args where
  objectDir : NfsFh3 := {}
  objectName : Bytes := []
  deriving DecidableEq

def RMDIR3args.serialize (args : RMDIR3args) : Xdr Unit := do
  args.objectDir.serialize
  packString args.objectName

def RMDIR3args.deserialize : Xdr RMDIR3args := do
  let objectDir ← NfsFh3.deserialize
  let objectName ← unpackString
  return { objectDir, objectName }

structure RENAME3args where
  fromDir : NfsFh3 := {}
  fromName : Bytes := []
  toDir : NfsFh3 := {}
  toName : Bytes := []
  deriving DecidableEq

def RENAME3args.serialize (args : RENAME3args) : Xdr Unit := do
  args.fromDir.serialize
  packString args.fromName
  args.toDir.serialize
  packString args.toName

def RENAME3args.deserialize : Xdr RENAME3args := do
  let fromDir ← NfsFh3.deserialize
  let fromName ← unpackString
  let toDir ← NfsFh3.deserialize
  let toName ← unpackString
  return { fromDir, fromName, toDir, toName }

structure LINK3args where
  file : NfsFh3 := {}
  linkDir : NfsFh3 := {}
  linkName : Bytes := []
  deriving DecidableEq

def LINK3args.serialize (args : LINK3args) : Xdr Unit := do
  args.file.serialize
  args.linkDir.serialize
  packString args.linkName

def LINK3args.deserialize : Xdr LINK3args := do
  let file ← NfsFh3.deserialize
  let linkDir ← NfsFh3.deserialize
  let linkName ← unpackString
  return { file, linkDir, linkName }

structure READDIR3args where
  dir : NfsFh3 := {}
  cookie : UInt64 := 0
  cookieverf : UInt64 := 0
  count : UInt32 := 0
  deriving DecidableEq

def READDIR3args.serialize (args : READDIR3args) : Xdr Unit := do
  args.dir.serialize
  packUint64 args.cookie
  packUint64 args.cookieverf
  packUint32 args.count

def READDIR3args.deserialize : Xdr READDIR3args := do
  let dir ← NfsFh3.deserialize
  let cookie ← unpackUint64
  let cookieverf ← unpackUint64
  let count ← unpackUint32
  return { dir, cookie, cookieverf, count }

structure READDIRPLUS3args where
  dir : NfsFh3 := {}
  cookie : UInt64 := 0
  cookieverf : UInt64 := 0
  dircount : UInt32 := 0
  maxcount : UInt32 := 0
  deriving DecidableEq

def READDIRPLUS3args.serialize (args : READDIRPLUS3args) : Xdr Unit := do
  args.dir.serialize
  packUint64 args.cookie
  packUint64 args.cookieverf
  packUint32 args.dircount
  packUint32 args.maxcount

def READDIRPLUS3args.deserialize : Xdr READDIRPLUS3args := do
  let dir ← NfsFh3.deserialize
  let cookie ← unpackUint64
  let cookieverf ← unpackUint64
  let dircount ← unpackUint32
  let maxcount ← unpackUint32
  return { dir, cookie, cookieverf, dircount, maxcount }

structure FSSTAT3args where
  fsroot : NfsFh3 := {}
  deriving DecidableEq

def FSSTAT3args.serialize (args : FSSTAT3args) : Xdr Unit := args.fsroot.serialize

def FSSTAT3args.deserialize : Xdr FSSTAT3args := do
  let fsroot ← NfsFh3.deserialize
  return { fsroot }

structure FSINFO3args where
  fsroot : NfsFh3 := {}
  deriving DecidableEq

def FSINFO3args.serialize (args : FSINFO3args) : Xdr Unit := args.fsroot.serialize

def FSINFO3args.deserialize : Xdr FSINFO3args := do
  let fsroot ← NfsFh3.deserialize
  return { fsroot }

structure PATHCONF3args where
  object : NfsFh3 := {}
  deriving DecidableEq

def PATHCONF3args.serialize (args : PATHCONF3args) : Xdr Unit := args.object.serialize

def PATHCONF3args.deserialize : Xdr PATHCONF3args := do
  let object ← NfsFh3.deserialize
  return { object }

structure COMMIT3args where
  file : NfsFh3 := {}
  offset : UInt64 := 0
  count : UInt32 := 0
  deriving DecidableEq

def COMMIT3args.serialize (args : COMMIT3args) : Xdr Unit := do
  args.file.serialize
  packUint64 args.offset
  packUint32 args.count

def COMMIT3args.deserialize : Xdr COMMIT3args := do
  let file ← NfsFh3.deserialize
  let offset ← unpackUint64
  let count ← unpackUint32
  return { file, offset, count }

end Nfs3Rpc
