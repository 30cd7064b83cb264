/-
This file is the result part of `nfs3_types.hpp`: each result is a status and an optional `resok`.
-/

import Nfs3Rpc.Construction.Builtin.Attributes

namespace Nfs3Rpc
open Encoding Builtin

/-- Every result structure of the C++ suite has this shape. -/
structure Res (ok : Type) where
  status : Nfsstat3
  resok : Option ok := none
  deriving DecidableEq

def Res.serialize {ok : Type} (okSerialize : ok → Xdr Unit) (res : Res ok) : Xdr Unit := do
  packUint32 res.status.code
  if res.status = .NFS3_OK then
    match res.resok with
    | some resok => okSerialize resok
    | none => pure ()

/-- The decoder fills a new `resok` object; a failed status keeps the prior one. -/
def Res.deserialize {ok : Type} (okDeserialize : Xdr ok) (self : Res ok) : Xdr (Res ok) := do
  let statusVal ← unpackUint32
  let status : Nfsstat3 := ⟨statusVal⟩
  if status = .NFS3_OK then
    let res ← okDeserialize
    return { status, resok := some res }
  else
    return { self with status }

structure GETATTR3resok where
  objAttributes : Fattr3 := {}
  deriving DecidableEq

def GETATTR3resok.serialize (res : GETATTR3resok) : Xdr Unit := res.objAttributes.serialize

def GETATTR3resok.deserialize : Xdr GETATTR3resok := do
  let objAttributes ← Fattr3.deserialize
  return { objAttributes }

structure SETATTR3resok where
  objWcc : WccData := {}
  deriving DecidableEq

def SETATTR3resok.serialize (res : SETATTR3resok) : Xdr Unit := res.objWcc.serialize

def SETATTR3resok.deserialize (self : SETATTR3resok) : Xdr SETATTR3resok := do
  let objWcc ← self.objWcc.deserialize
  return { objWcc }

structure LOOKUP3resok where
  object : NfsFh3 := {}
  objAttributes : PostOpAttr := {}
  dirAttributes : PostOpAttr := {}
  deriving DecidableEq

def LOOKUP3resok.serialize (res : LOOKUP3resok) : Xdr Unit := do
  res.object.serialize
  res.objAttributes.serialize
  res.dirAttributes.serialize

def LOOKUP3resok.deserialize (self : LOOKUP3resok) : Xdr LOOKUP3resok := do
  let object ← NfsFh3.deserialize
  let objAttributes ← self.objAttributes.deserialize
  let dirAttributes ← self.dirAttributes.deserialize
  return { object, objAttributes, dirAttributes }

structure ACCESS3resok where
  objAttributes : PostOpAttr := {}
  access : UInt32 := 0
  deriving DecidableEq

def ACCESS3resok.serialize (res : ACCESS3resok) : Xdr Unit := do
  res.objAttributes.serialize
  packUint32 res.access

def ACCESS3resok.deserialize (self : ACCESS3resok) : Xdr ACCESS3resok := do
  let objAttributes ← self.objAttributes.deserialize
  let access ← unpackUint32
  return { objAttributes, access }

structure READLINK3resok where
  symlinkAttributes : PostOpAttr := {}
  data : Bytes := []
  deriving DecidableEq

def READLINK3resok.serialize (res : READLINK3resok) : Xdr Unit := do
  res.symlinkAttributes.serialize
  packString res.data

def READLINK3resok.deserialize (self : READLINK3resok) : Xdr READLINK3resok := do
  let symlinkAttributes ← self.symlinkAttributes.deserialize
  let data ← unpackString
  return { symlinkAttributes, data }

/-- The C++ suite declares the count of a READ result with 64 bits. -/
structure READ3resok where
  fileAttributes : PostOpAttr := {}
  count : UInt64 := 0
  eof : Bool := false
  data : Bytes := []
  deriving DecidableEq

def READ3resok.serialize (res : READ3resok) : Xdr Unit := do
  res.fileAttributes.serialize
  packUint64 res.count
  packBool res.eof
  packOpaque res.data

def READ3resok.deserialize (self : READ3resok) : Xdr READ3resok := do
  let fileAttributes ← self.fileAttributes.deserialize
  let count ← unpackUint64
  let eof ← unpackBool
  let data ← unpackOpaque
  return { fileAttributes, count, eof, data }

/-- The verifier array of a new object is undefined. -/
structure WRITE3resok where
  fileAttributes : PostOpAttr := {}
  count : UInt32 := 0
  committed : StableHow := .FILE_SYNC
  verf : Writeverf3
  deriving DecidableEq

def WRITE3resok.serialize (res : WRITE3resok) : Xdr Unit := do
  res.fileAttributes.serialize
  packUint32 res.count
  packUint32 res.committed.code
  res.verf.serialize

def WRITE3resok.deserialize (self : WRITE3resok) : Xdr WRITE3resok := do
  let fileAttributes ← self.fileAttributes.deserialize
  let count ← unpackUint32
  let committedVal ← unpackUint32
  let verf ← self.verf.deserialize
  return { fileAttributes, count, committed := ⟨committedVal⟩, verf }

/-- CREATE, MKDIR, SYMLINK, and MKNOD declare the same three fields in the same order. -/
structure NewObject where
  objAttributes : PostOpAttr := {}
  dirWcc : WccData := {}
  object : NfsFh3 := {}
  deriving DecidableEq

def NewObject.serialize (res : NewObject) : Xdr Unit := do
  res.objAttributes.serialize
  res.dirWcc.serialize
  res.object.serialize

def NewObject.deserialize (self : NewObject) : Xdr NewObject := do
  let objAttributes ← self.objAttributes.deserialize
  let dirWcc ← self.dirWcc.deserialize
  let object ← NfsFh3.deserialize
  return { objAttributes, dirWcc, object }

abbrev CREATE3resok := NewObject

abbrev MKDIR3resok := NewObject

abbrev SYMLINK3resok := NewObject

abbrev MKNOD3resok := NewObject

/-- REMOVE and RMDIR declare the same field. -/
structure RemovedEntry where
  dirWcc : WccData := {}
  deriving DecidableEq

def RemovedEntry.serialize (res : RemovedEntry) : Xdr Unit := res.dirWcc.serialize

def RemovedEntry.deserialize (self : RemovedEntry) : Xdr RemovedEntry := do
  let dirWcc ← self.dirWcc.deserialize
  return { dirWcc }

abbrev REMOVE3resok := RemovedEntry

abbrev RMDIR3resok := RemovedEntry

structure RENAME3resok where
  fromdirWcc : WccData := {}
  todirWcc : WccData := {}
  deriving DecidableEq

def RENAME3resok.serialize (res : RENAME3resok) : Xdr Unit := do
  res.fromdirWcc.serialize
  res.todirWcc.serialize

def RENAME3resok.deserialize (self : RENAME3resok) : Xdr RENAME3resok := do
  let fromdirWcc ← self.fromdirWcc.deserialize
  let todirWcc ← self.todirWcc.deserialize
  return { fromdirWcc, todirWcc }

structure LINK3resok where
  fileAttributes : PostOpAttr := {}
  linkdirWcc : WccData := {}
  deriving DecidableEq

def LINK3resok.serialize (res : LINK3resok) : Xdr Unit := do
  res.fileAttributes.serialize
  res.linkdirWcc.serialize

def LINK3resok.deserialize (self : LINK3resok) : Xdr LINK3resok := do
  let fileAttributes ← self.fileAttributes.deserialize
  let linkdirWcc ← self.linkdirWcc.deserialize
  return { fileAttributes, linkdirWcc }

structure FSSTAT3resok where
  objAttributes : PostOpAttr := {}
  tbytes : UInt64 := 0
  fbytes : UInt64 := 0
  abytes : UInt64 := 0
  tfiles : UInt64 := 0
  ffiles : UInt64 := 0
  afiles : UInt64 := 0
  invarsec : UInt32 := 0
  deriving DecidableEq

def FSSTAT3resok.serialize (res : FSSTAT3resok) : Xdr Unit := do
  res.objAttributes.serialize
  packUint64 res.tbytes
  packUint64 res.fbytes
  packUint64 res.abytes
  packUint64 res.tfiles
  packUint64 res.ffiles
  packUint64 res.afiles
  packUint32 res.invarsec

def FSSTAT3resok.deserialize (self : FSSTAT3resok) : Xdr FSSTAT3resok := do
  let objAttributes ← self.objAttributes.deserialize
  let tbytes ← unpackUint64
  let fbytes ← unpackUint64
  let abytes ← unpackUint64
  let tfiles ← unpackUint64
  let ffiles ← unpackUint64
  let afiles ← unpackUint64
  let invarsec ← unpackUint32
  return { objAttributes, tbytes, fbytes, abytes, tfiles, ffiles, afiles, invarsec }

structure Fsinfo3ResokProperty where
  linkmax : UInt32 := 0
  nameMax : UInt32 := 0
  noTrunc : Bool := false
  chownRestricted : Bool := false
  caseInsensitive : Bool := false
  casePreserving : Bool := false
  deriving DecidableEq

def Fsinfo3ResokProperty.serialize (res : Fsinfo3ResokProperty) : Xdr Unit := do
  packUint32 res.linkmax
  packUint32 res.nameMax
  packBool res.noTrunc
  packBool res.chownRestricted
  packBool res.caseInsensitive
  packBool res.casePreserving

/-- The structure declares this method for itself, and its body is empty. -/
def Fsinfo3ResokProperty.unpack (val : UInt32) : Xdr UInt32 := return val

def Fsinfo3ResokProperty.deserialize (self : Fsinfo3ResokProperty) : Xdr Fsinfo3ResokProperty := do
  let linkmax ← unpackUint32
  -- The call has no `buf.` in front of it.
  let nameMax ← Fsinfo3ResokProperty.unpack self.nameMax
  let noTrunc ← unpackBool
  let chownRestricted ← unpackBool
  let caseInsensitive ← unpackBool
  let casePreserving ← unpackBool
  return { linkmax, nameMax, noTrunc, chownRestricted, caseInsensitive, casePreserving }

structure FSINFO3resok where
  objAttributes : PostOpAttr := {}
  rtmax : UInt32 := 0
  rtpref : UInt32 := 0
  rtmult : UInt32 := 0
  wtmax : UInt32 := 0
  wtpref : UInt32 := 0
  wtmult : UInt32 := 0
  dtpref : UInt32 := 0
  maxfilesize : UInt64 := 0
  timeDeltaSeconds : UInt32 := 0
  timeDeltaNseconds : UInt32 := 0
  properties : UInt32 := 0
  deriving DecidableEq

def FSINFO3resok.serialize (res : FSINFO3resok) : Xdr Unit := do
  res.objAttributes.serialize
  packUint32 res.rtmax
  packUint32 res.rtpref
  packUint32 res.rtmult
  packUint32 res.wtmax
  packUint32 res.wtpref
  packUint32 res.wtmult
  packUint32 res.dtpref
  packUint64 res.maxfilesize
  packUint32 res.timeDeltaSeconds
  packUint32 res.timeDeltaNseconds
  packUint32 res.properties

def FSINFO3resok.deserialize (self : FSINFO3resok) : Xdr FSINFO3resok := do
  let objAttributes ← self.objAttributes.deserialize
  let rtmax ← unpackUint32
  let rtpref ← unpackUint32
  let rtmult ← unpackUint32
  let wtmax ← unpackUint32
  let wtpref ← unpackUint32
  let wtmult ← unpackUint32
  let dtpref ← unpackUint32
  let maxfilesize ← unpackUint64
  let timeDeltaSeconds ← unpackUint32
  let timeDeltaNseconds ← unpackUint32
  let properties ← unpackUint32
  return { objAttributes, rtmax, rtpref, rtmult, wtmax, wtpref, wtmult, dtpref, maxfilesize,
           timeDeltaSeconds, timeDeltaNseconds, properties }

structure Pathconf3ResokInfo where
  linkmax : Int32 := 0
  nameMax : Int32 := 0
  noTrunc : Bool := false
  chownRestricted : Bool := false
  caseInsensitive : Bool := false
  casePreserving : Bool := false
  deriving DecidableEq

def Pathconf3ResokInfo.serialize (info : Pathconf3ResokInfo) : Xdr Unit := do
  packInt32 info.linkmax
  packInt32 info.nameMax
  packBool info.noTrunc
  packBool info.chownRestricted
  packBool info.caseInsensitive
  packBool info.casePreserving

def Pathconf3ResokInfo.deserialize : Xdr Pathconf3ResokInfo := do
  let linkmax ← unpackInt32
  let nameMax ← unpackInt32
  let noTrunc ← unpackBool
  let chownRestricted ← unpackBool
  let caseInsensitive ← unpackBool
  let casePreserving ← unpackBool
  return { linkmax, nameMax, noTrunc, chownRestricted, caseInsensitive, casePreserving }

structure PATHCONF3resok where
  objAttributes : PostOpAttr := {}
  info : Pathconf3ResokInfo := {}
  deriving DecidableEq

def PATHCONF3resok.serialize (res : PATHCONF3resok) : Xdr Unit := do
  res.objAttributes.serialize
  res.info.serialize

def PATHCONF3resok.deserialize (self : PATHCONF3resok) : Xdr PATHCONF3resok := do
  let objAttributes ← self.objAttributes.deserialize
  let info ← Pathconf3ResokInfo.deserialize
  return { objAttributes, info }

/-- The C++ suite declares the weak cache data of a COMMIT result as one attribute block. -/
structure COMMIT3resok where
  fileWcc : PostOpAttr := {}
  verf : Writeverf3
  deriving DecidableEq

def COMMIT3resok.serialize (res : COMMIT3resok) : Xdr Unit := do
  res.fileWcc.serialize
  res.verf.serialize

def COMMIT3resok.deserialize (self : COMMIT3resok) : Xdr COMMIT3resok := do
  let fileWcc ← self.fileWcc.deserialize
  let verf ← self.verf.deserialize
  return { fileWcc, verf }

end Nfs3Rpc
