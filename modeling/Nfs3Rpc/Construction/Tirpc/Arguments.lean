/-
This file is the argument part of `nfs3_xdr.cpp`.
-/

import Nfs3Rpc.Construction.Builtin.Arguments
import Nfs3Rpc.Construction.Tirpc.Filters

namespace Nfs3Rpc.Tirpc
open Encoding

/-- A host stores the bytes of a double word in one of two orders. -/
inductive ByteOrder where
  | bigEndian
  | littleEndian
  deriving DecidableEq

def hyperArray (host : ByteOrder) (value : UInt64) : CharArray 8 :=
  match host with
  | .bigEndian => ⟨be64 value, rfl⟩
  | .littleEndian => ⟨(be64 value).reverse, rfl⟩

def arrayHyper (host : ByteOrder) (array : CharArray 8) : UInt64 :=
  match host with
  | .bigEndian => leadingHyper array.val
  | .littleEndian => leadingHyper array.val.reverse

section
variable {σ : Type} (lib : Libtirpc σ) (host : ByteOrder) (op : XdrOp)

/-- The cookie verifier travels as the memory of a number. -/
def xdrCookieverf (obj : UInt64) : Filter σ UInt64 := do
  let array ← lib.xdrOpaque op (hyperArray host obj)
  return arrayHyper host array

def xdrGETATTR3args (obj : GETATTR3args) : Filter σ GETATTR3args := do
  let object ← xdrNfsFh3 lib op obj.object
  return { object }

def xdrSETATTR3args (obj : SETATTR3args) : Filter σ SETATTR3args := do
  let object ← xdrNfsFh3 lib op obj.object
  let newAttributes ← xdrSattr3 lib op obj.newAttributes
  let guard ← xdrOptional lib op (xdrNfsFh3 lib op) {} obj.guard
  return { object, newAttributes, guard }

def xdrLOOKUP3args (obj : LOOKUP3args) : Filter σ LOOKUP3args := do
  let whatDir ← xdrNfsFh3 lib op obj.whatDir
  let whatName ← xdrName lib op 255 obj.whatName
  return { whatDir, whatName }

def xdrACCESS3args (obj : ACCESS3args) : Filter σ ACCESS3args := do
  let object ← xdrNfsFh3 lib op obj.object
  let access ← lib.xdrUInt op obj.access
  return { object, access }

def xdrREADLINK3args (obj : READLINK3args) : Filter σ READLINK3args := do
  let symlink ← xdrNfsFh3 lib op obj.symlink
  return { symlink }

def xdrREAD3args (obj : READ3args) : Filter σ READ3args := do
  let file ← xdrNfsFh3 lib op obj.file
  let offset ← lib.xdrUHyper op obj.offset
  let count ← lib.xdrUInt op obj.count
  return { file, offset, count }

/-- The decoder writes into the vector as it is, and drops memory that the library gives. -/
def xdrWRITE3args (obj : WRITE3args) : Filter σ WRITE3args := do
  let file ← xdrNfsFh3 lib op obj.file
  let offset ← lib.xdrUHyper op obj.offset
  let count ← lib.xdrUInt op obj.count
  let stableVal ← xdrWord lib op obj.stable.code
  let (dataPtr, _) ← lib.xdrBytes op (vectorData obj.data) (UInt32.ofNat obj.data.length) 65536
  let data := match dataPtr with
    | .inner block => block
    | _ => obj.data
  return { file, offset, count, stable := ⟨stableVal⟩, data }

def xdrCREATE3args (obj : CREATE3args) : Filter σ CREATE3args := do
  let whereDir ← xdrNfsFh3 lib op obj.whereDir
  let whereName ← xdrName lib op 255 obj.whereName
  let createMode ← xdrWord lib op obj.howMode.code
  let howMode : Createmode3 := ⟨createMode⟩
  let howAttributes ← xdrSattr3 lib op obj.howAttributes
  let howVerf ← if howMode = .EXCLUSIVE then xdrCreateverf3 lib op obj.howVerf else pure obj.howVerf
  return { whereDir, whereName, howMode, howAttributes, howVerf }

def xdrMKDIR3args (obj : MKDIR3args) : Filter σ MKDIR3args := do
  let whereDir ← xdrNfsFh3 lib op obj.whereDir
  let whereName ← xdrName lib op 255 obj.whereName
  let attributes ← xdrSattr3 lib op obj.attributes
  return { whereDir, whereName, attributes }

def xdrSYMLINK3args (obj : SYMLINK3args) : Filter σ SYMLINK3args := do
  let whereDir ← xdrNfsFh3 lib op obj.whereDir
  let whereName ← xdrName lib op 255 obj.whereName
  let symlinkAttributes ← xdrSattr3 lib op obj.symlinkAttributes
  let symlinkData ← xdrName lib op 4096 obj.symlinkData
  return { whereDir, whereName, symlinkAttributes, symlinkData }

def xdrMKNOD3args (obj : MKNOD3args) : Filter σ MKNOD3args := do
  let whereDir ← xdrNfsFh3 lib op obj.whereDir
  let whereName ← xdrName lib op 255 obj.whereName
  let typeVal ← xdrWord lib op obj.whatType.code
  let whatAttributes ← xdrSattr3 lib op obj.whatAttributes
  return { whereDir, whereName, whatType := ⟨typeVal⟩, whatAttributes }

def xdrREMOVE3args (obj : REMOVE3args) : Filter σ REMOVE3args := do
  let objectDir ← xdrNfsFh3 lib op obj.objectDir
  let objectName ← xdrName lib op 255 obj.objectName
  return { objectDir, objectName }

def xdrRMDIR3args (obj : RMDIR3args) : Filter σ RMDIR3args := do
  let objectDir ← xdrNfsFh3 lib op obj.objectDir
  let objectName ← xdrName lib op 255 obj.objectName
  return { objectDir, objectName }

def xdrRENAME3args (obj : RENAME3args) : Filter σ RENAME3args := do
  let fromDir ← xdrNfsFh3 lib op obj.fromDir
  let fromName ← xdrName lib op 255 obj.fromName
  let toDir ← xdrNfsFh3 lib op obj.toDir
  let toName ← xdrName lib op 255 obj.toName
  return { fromDir, fromName, toDir, toName }

def xdrLINK3args (obj : LINK3args) : Filter σ LINK3args := do
  let file ← xdrNfsFh3 lib op obj.file
  let linkDir ← xdrNfsFh3 lib op obj.linkDir
  let linkName ← xdrName lib op 255 obj.linkName
  return { file, linkDir, linkName }

def xdrREADDIR3args (obj : READDIR3args) : Filter σ READDIR3args := do
  let dir ← xdrNfsFh3 lib op obj.dir
  let cookie ← lib.xdrUHyper op obj.cookie
  let cookieverf ← xdrCookieverf lib host op obj.cookieverf
  let count ← lib.xdrUInt op obj.count
  return { dir, cookie, cookieverf, count }

def xdrREADDIRPLUS3args (obj : READDIRPLUS3args) : Filter σ READDIRPLUS3args := do
  let dir ← xdrNfsFh3 lib op obj.dir
  let cookie ← lib.xdrUHyper op obj.cookie
  let cookieverf ← xdrCookieverf lib host op obj.cookieverf
  let dircount ← lib.xdrUInt op obj.dircount
  let maxcount ← lib.xdrUInt op obj.maxcount
  return { dir, cookie, cookieverf, dircount, maxcount }

def xdrFSSTAT3args (obj : FSSTAT3args) : Filter σ FSSTAT3args := do
  let fsroot ← xdrNfsFh3 lib op obj.fsroot
  return { fsroot }

def xdrFSINFO3args (obj : FSINFO3args) : Filter σ FSINFO3args := do
  let fsroot ← xdrNfsFh3 lib op obj.fsroot
  return { fsroot }

def xdrPATHCONF3args (obj : PATHCONF3args) : Filter σ PATHCONF3args := do
  let object ← xdrNfsFh3 lib op obj.object
  return { object }

def xdrCOMMIT3args (obj : COMMIT3args) : Filter σ COMMIT3args := do
  let file ← xdrNfsFh3 lib op obj.file
  let offset ← lib.xdrUHyper op obj.offset
  let count ← lib.xdrUInt op obj.count
  return { file, offset, count }

end

end Nfs3Rpc.Tirpc
