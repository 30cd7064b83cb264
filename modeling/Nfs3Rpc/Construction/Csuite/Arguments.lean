/-
This file is the argument part of `nfs3_types.h` and `nfs3_xdr.c`.
Each decoder takes the prior content of its structure and frees what it replaces.
-/

import Nfs3Rpc.Construction.Csuite.Attributes

namespace Nfs3Rpc.Csuite
open Encoding

structure GETATTR3argsT where
  object : NfsFh3T := {}
  deriving DecidableEq

def xdrPackGETATTR3args (args : GETATTR3argsT) : Run Unit := xdrPackNfsFh3 args.object

def xdrUnpackGETATTR3args (args : GETATTR3argsT) : Run GETATTR3argsT := do
  let object ← xdrUnpackNfsFh3 args.object
  return { object }

structure SETATTR3argsT where
  object : NfsFh3T := {}
  newAttributes : Sattr3T := {}
  hasGuard : Int32 := 0
  guard : NfsFh3T := {}
  deriving DecidableEq

def xdrPackSETATTR3args (args : SETATTR3argsT) : Run Unit := do
  xdrPackNfsFh3 args.object
  xdrPackSattr3 args.newAttributes
  xdrPackBool args.hasGuard
  if args.hasGuard ≠ 0 then
    xdrPackNfsFh3 args.guard

def xdrUnpackSETATTR3args (args : SETATTR3argsT) : Run SETATTR3argsT := do
  let object ← xdrUnpackNfsFh3 args.object
  let newAttributes ← xdrUnpackSattr3 args.newAttributes
  let hasGuard ← into args.hasGuard xdrUnpackBool
  if hasGuard ≠ 0 then
    let guard ← xdrUnpackNfsFh3 args.guard
    return { object, newAttributes, hasGuard, guard }
  else
    return { args with object, newAttributes, hasGuard }

structure LOOKUP3argsT where
  whatDir : NfsFh3T := {}
  whatName : Ptr := .null
  deriving DecidableEq

def xdrPackLOOKUP3args (args : LOOKUP3argsT) : Run Unit := do
  xdrPackNfsFh3 args.whatDir
  xdrPackCstring args.whatName

def xdrUnpackLOOKUP3args (args : LOOKUP3argsT) : Run LOOKUP3argsT := do
  let whatDir ← xdrUnpackNfsFh3 args.whatDir
  let whatName ← free args.whatName
  let whatName ← into whatName xdrUnpackCstring
  return { whatDir, whatName }

structure ACCESS3argsT where
  object : NfsFh3T := {}
  access : UInt32 := 0
  deriving DecidableEq

def xdrPackACCESS3args (args : ACCESS3argsT) : Run Unit := do
  xdrPackNfsFh3 args.object
  xdrPackUint32 args.access

def xdrUnpackACCESS3args (args : ACCESS3argsT) : Run ACCESS3argsT := do
  let object ← xdrUnpackNfsFh3 args.object
  let access ← into args.access xdrUnpackUint32
  return { object, access }

structure READLINK3argsT where
  symlink : NfsFh3T := {}
  deriving DecidableEq

def xdrPackREADLINK3args (args : READLINK3argsT) : Run Unit := xdrPackNfsFh3 args.symlink

def xdrUnpackREADLINK3args (args : READLINK3argsT) : Run READLINK3argsT := do
  let symlink ← xdrUnpackNfsFh3 args.symlink
  return { symlink }

structure READ3argsT where
  file : NfsFh3T := {}
  offset : UInt64 := 0
  count : UInt32 := 0
  deriving DecidableEq

def xdrPackREAD3args (args : READ3argsT) : Run Unit := do
  xdrPackNfsFh3 args.file
  xdrPackUint64 args.offset
  xdrPackUint32 args.count

def xdrUnpackREAD3args (args : READ3argsT) : Run READ3argsT := do
  let file ← xdrUnpackNfsFh3 args.file
  let offset ← into args.offset xdrUnpackUint64
  let count ← into args.count xdrUnpackUint32
  return { file, offset, count }

structure WRITE3argsT where
  file : NfsFh3T := {}
  offset : UInt64 := 0
  count : UInt32 := 0
  stable : StableHow := ⟨0⟩
  data : Ptr := .null
  dataLen : UInt32 := 0
  deriving DecidableEq

/-- The encoder takes `count` and not `data_len` as the length of the data. -/
def xdrPackWRITE3args (args : WRITE3argsT) : Run Unit := do
  xdrPackNfsFh3 args.file
  xdrPackUint64 args.offset
  xdrPackUint32 args.count
  xdrPackUint32 args.stable.code
  xdrPackOpaque args.data args.count

def xdrUnpackWRITE3args (args : WRITE3argsT) : Run WRITE3argsT := do
  let file ← xdrUnpackNfsFh3 args.file
  let offset ← into args.offset xdrUnpackUint64
  let count ← into args.count xdrUnpackUint32
  let st ← uninitialized
  let st ← into st xdrUnpackUint32
  let data ← free args.data
  let len ← uninitialized
  let (_, data, dataLen) ← xdrUnpackOpaque data len
  return { file, offset, count, stable := ⟨st⟩, data, dataLen }

/-- This is the first part of `nfs3_write_data`: the guard on the length, and the arguments that it sends. -/
def nfs3WriteData (file : NfsFh3T) (offset : UInt64) (stable : StableHow) (data : Bytes) :
    Except Nfsstat3 WRITE3argsT :=
  if data.length > 2 ^ 32 - 1 then
    .error .NFS3ERR_INVAL
  else
    .ok {
      file, offset, stable
      count := UInt32.ofNat data.length
      data := if data.length > 0 then .block data else .null
      dataLen := UInt32.ofNat data.length }

structure CREATE3argsT where
  whereDir : NfsFh3T := {}
  whereName : Ptr := .null
  howMode : Createmode3 := ⟨0⟩
  howAttributes : Sattr3T := {}
  howVerf : Createverf3 := .zero
  deriving DecidableEq

def xdrPackCREATE3args (args : CREATE3argsT) : Run Unit := do
  xdrPackNfsFh3 args.whereDir
  xdrPackCstring args.whereName
  xdrPackUint32 args.howMode.code
  if args.howMode = .EXCLUSIVE then
    xdrPackCreateverf3 args.howVerf
  else
    xdrPackSattr3 args.howAttributes

def xdrUnpackCREATE3args (args : CREATE3argsT) : Run CREATE3argsT := do
  let whereDir ← xdrUnpackNfsFh3 args.whereDir
  let whereName ← free args.whereName
  let whereName ← into whereName xdrUnpackCstring
  let modeVal ← uninitialized
  let modeVal ← into modeVal xdrUnpackUint32
  let howMode : Createmode3 := ⟨modeVal⟩
  if howMode = .EXCLUSIVE then
    let howVerf ← xdrUnpackCreateverf3
    return { args with whereDir, whereName, howMode, howVerf }
  else
    let howAttributes ← xdrUnpackSattr3 args.howAttributes
    return { args with whereDir, whereName, howMode, howAttributes }

structure MKDIR3argsT where
  whereDir : NfsFh3T := {}
  whereName : Ptr := .null
  attributes : Sattr3T := {}
  deriving DecidableEq

def xdrPackMKDIR3args (args : MKDIR3argsT) : Run Unit := do
  xdrPackNfsFh3 args.whereDir
  xdrPackCstring args.whereName
  xdrPackSattr3 args.attributes

def xdrUnpackMKDIR3args (args : MKDIR3argsT) : Run MKDIR3argsT := do
  let whereDir ← xdrUnpackNfsFh3 args.whereDir
  let whereName ← free args.whereName
  let whereName ← into whereName xdrUnpackCstring
  let attributes ← xdrUnpackSattr3 args.attributes
  return { whereDir, whereName, attributes }

structure SYMLINK3argsT where
  whereDir : NfsFh3T := {}
  whereName : Ptr := .null
  symlinkAttributes : Sattr3T := {}
  symlinkData : Ptr := .null
  deriving DecidableEq

def xdrPackSYMLINK3args (args : SYMLINK3argsT) : Run Unit := do
  xdrPackNfsFh3 args.whereDir
  xdrPackCstring args.whereName
  xdrPackSattr3 args.symlinkAttributes
  xdrPackCstring args.symlinkData

def xdrUnpackSYMLINK3args (args : SYMLINK3argsT) : Run SYMLINK3argsT := do
  let whereDir ← xdrUnpackNfsFh3 args.whereDir
  let whereName ← free args.whereName
  let whereName ← into whereName xdrUnpackCstring
  let symlinkAttributes ← xdrUnpackSattr3 args.symlinkAttributes
  let symlinkData ← free args.symlinkData
  let symlinkData ← into symlinkData xdrUnpackCstring
  return { whereDir, whereName, symlinkAttributes, symlinkData }

structure MKNOD3argsT where
  whereDir : NfsFh3T := {}
  whereName : Ptr := .null
  whatType : Ftype4 := ⟨0⟩
  whatAttributes : Sattr3T := {}
  deriving DecidableEq

def xdrPackMKNOD3args (args : MKNOD3argsT) : Run Unit := do
  xdrPackNfsFh3 args.whereDir
  xdrPackCstring args.whereName
  xdrPackUint32 args.whatType.code
  xdrPackSattr3 args.whatAttributes

def xdrUnpackMKNOD3args (args : MKNOD3argsT) : Run MKNOD3argsT := do
  let whereDir ← xdrUnpackNfsFh3 args.whereDir
  let whereName ← free args.whereName
  let whereName ← into whereName xdrUnpackCstring
  let typeVal ← uninitialized
  let typeVal ← into typeVal xdrUnpackUint32
  let whatAttributes ← xdrUnpackSattr3 args.whatAttributes
  return { whereDir, whereName, whatType := ⟨typeVal⟩, whatAttributes }

structure REMOVE3argsT where
  objectDir : NfsFh3T := {}
  objectName : Ptr := .null
  deriving DecidableEq

def xdrPackREMOVE3args (args : REMOVE3argsT) : Run Unit := do
  xdrPackNfsFh3 args.objectDir
  xdrPackCstring args.objectName

def xdrUnpackREMOVE3args (args : REMOVE3argsT) : Run REMOVE3argsT := do
  let objectDir ← xdrUnpackNfsFh3 args.objectDir
  let objectName ← free args.objectName
  let objectName ← into objectName xdrUnpackCstring
  return { objectDir, objectName }

structure RMDIR3argsT where
  objectDir : NfsFh3T := {}
  objectName : Ptr := .null
  deriving DecidableEq

def xdrPackRMDIR3args (args : RMDIR3argsT) : Run Unit := do
  xdrPackNfsFh3 args.objectDir
  xdrPackCstring args.objectName

def xdrUnpackRMDIR3args (args : RMDIR3argsT) : Run RMDIR3argsT := do
  let objectDir ← xdrUnpackNfsFh3 args.objectDir
  let objectName ← free args.objectName
  let objectName ← into objectName xdrUnpackCstring
  return { objectDir, objectName }

structure RENAME3argsT where
  fromDir : NfsFh3T := {}
  fromName : Ptr := .null
  toDir : NfsFh3T := {}
  toName : Ptr := .null
  deriving DecidableEq

def xdrPackRENAME3args (args : RENAME3argsT) : Run Unit := do
  xdrPackNfsFh3 args.fromDir
  xdrPackCstring args.fromName
  xdrPackNfsFh3 args.toDir
  xdrPackCstring args.toName

def xdrUnpackRENAME3args (args : RENAME3argsT) : Run RENAME3argsT := do
  let fromDir ← xdrUnpackNfsFh3 args.fromDir
  let fromName ← free args.fromName
  let fromName ← into fromName xdrUnpackCstring
  let toDir ← xdrUnpackNfsFh3 args.toDir
  let toName ← free args.toName
  let toName ← into toName xdrUnpackCstring
  return { fromDir, fromName, toDir, toName }

structure LINK3argsT where
  file : NfsFh3T := {}
  linkDir : NfsFh3T := {}
  linkName : Ptr := .null
  deriving DecidableEq

def xdrPackLINK3args (args : LINK3argsT) : Run Unit := do
  xdrPackNfsFh3 args.file
  xdrPackNfsFh3 args.linkDir
  xdrPackCstring args.linkName

def xdrUnpackLINK3args (args : LINK3argsT) : Run LINK3argsT := do
  let file ← xdrUnpackNfsFh3 args.file
  let linkDir ← xdrUnpackNfsFh3 args.linkDir
  let linkName ← free args.linkName
  let linkName ← into linkName xdrUnpackCstring
  return { file, linkDir, linkName }

structure READDIR3argsT where
  dir : NfsFh3T := {}
  cookie : UInt64 := 0
  cookieverf : UInt64 := 0
  count : UInt32 := 0
  deriving DecidableEq

def xdrPackREADDIR3args (args : READDIR3argsT) : Run Unit := do
  xdrPackNfsFh3 args.dir
  xdrPackUint64 args.cookie
  xdrPackUint64 args.cookieverf
  xdrPackUint32 args.count

def xdrUnpackREADDIR3args (args : READDIR3argsT) : Run READDIR3argsT := do
  let dir ← xdrUnpackNfsFh3 args.dir
  let cookie ← into args.cookie xdrUnpackUint64
  let cookieverf ← into args.cookieverf xdrUnpackUint64
  let count ← into args.count xdrUnpackUint32
  return { dir, cookie, cookieverf, count }

structure READDIRPLUS3argsT where
  dir : NfsFh3T := {}
  cookie : UInt64 := 0
  cookieverf : UInt64 := 0
  dircount : UInt32 := 0
  maxcount : UInt32 := 0
  deriving DecidableEq

def xdrPackREADDIRPLUS3args (args : READDIRPLUS3argsT) : Run Unit := do
  xdrPackNfsFh3 args.dir
  xdrPackUint64 args.cookie
  xdrPackUint64 args.cookieverf
  xdrPackUint32 args.dircount
  xdrPackUint32 args.maxcount

def xdrUnpackREADDIRPLUS3args (args : READDIRPLUS3argsT) : Run READDIRPLUS3argsT := do
  let dir ← xdrUnpackNfsFh3 args.dir
  let cookie ← into args.cookie xdrUnpackUint64
  let cookieverf ← into args.cookieverf xdrUnpackUint64
  let dircount ← into args.dircount xdrUnpackUint32
  let maxcount ← into args.maxcount xdrUnpackUint32
  return { dir, cookie, cookieverf, dircount, maxcount }

structure FSSTAT3argsT where
  fsroot : NfsFh3T := {}
  deriving DecidableEq

def xdrPackFSSTAT3args (args : FSSTAT3argsT) : Run Unit := xdrPackNfsFh3 args.fsroot

def xdrUnpackFSSTAT3args (args : FSSTAT3argsT) : Run FSSTAT3argsT := do
  let fsroot ← xdrUnpackNfsFh3 args.fsroot
  return { fsroot }

structure FSINFO3argsT where
  fsroot : NfsFh3T := {}
  deriving DecidableEq

def xdrPackFSINFO3args (args : FSINFO3argsT) : Run Unit := xdrPackNfsFh3 args.fsroot

def xdrUnpackFSINFO3args (args : FSINFO3argsT) : Run FSINFO3argsT := do
  let fsroot ← xdrUnpackNfsFh3 args.fsroot
  return { fsroot }

structure PATHCONF3argsT where
  object : NfsFh3T := {}
  deriving DecidableEq

def xdrPackPATHCONF3args (args : PATHCONF3argsT) : Run Unit := xdrPackNfsFh3 args.object

def xdrUnpackPATHCONF3args (args : PATHCONF3argsT) : Run PATHCONF3argsT := do
  let object ← xdrUnpackNfsFh3 args.object
  return { object }

structure COMMIT3argsT where
  file : NfsFh3T := {}
  offset : UInt64 := 0
  count : UInt32 := 0
  deriving DecidableEq

def xdrPackCOMMIT3args (args : COMMIT3argsT) : Run Unit := do
  xdrPackNfsFh3 args.file
  xdrPackUint64 args.offset
  xdrPackUint32 args.count

def xdrUnpackCOMMIT3args (args : COMMIT3argsT) : Run COMMIT3argsT := do
  let file ← xdrUnpackNfsFh3 args.file
  let offset ← into args.offset xdrUnpackUint64
  let count ← into args.count xdrUnpackUint32
  return { file, offset, count }

end Nfs3Rpc.Csuite
