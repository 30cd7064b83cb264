/-
This file is the result part of `nfs3_types.h`, `nfs3_types.c`, and `nfs3_xdr.c`.
Every result other than WRITE has the same status handling around its own `resok` fields.
-/

import Nfs3Rpc.Construction.Csuite.Attributes

namespace Nfs3Rpc.Csuite
open Encoding

structure ResT (ok : Type) where
  status : Nfsstat3
  hasResok : Int32
  resok : ok
  deriving DecidableEq

def ResT.pack {ok : Type} (packOk : ok → Run Unit) (res : ResT ok) : Run Unit := do
  xdrPackUint32 res.status.code
  if res.status = .NFS3_OK ∧ res.hasResok ≠ 0 then
    packOk res.resok

def ResT.unpack {ok : Type} (unpackOk : ok → Run ok) (res : ResT ok) : Run (ResT ok) := do
  let s ← uninitialized
  let s ← into s xdrUnpackUint32
  let status : Nfsstat3 := ⟨s⟩
  let hasResok : Int32 := if status = .NFS3_OK then 1 else 0
  if hasResok ≠ 0 then
    let resok ← unpackOk res.resok
    return { status, hasResok, resok }
  else
    return { res with status, hasResok }

/-- A result that owns memory is destroyed before it is decoded; this leaves a structure of zeros. -/
def ResT.unpackFresh {ok : Type} (okDestroy unpackOk : ok → Run ok) (res : ResT ok) : Run (ResT ok) := do
  let resok ← okDestroy res.resok
  ResT.unpack unpackOk { status := ⟨0⟩, hasResok := 0, resok }

structure GETATTR3resokT where
  objAttributes : Fattr3 := {}
  deriving DecidableEq

def GETATTR3resokT.pack (res : GETATTR3resokT) : Run Unit := xdrPackFattr3 res.objAttributes

def GETATTR3resokT.unpack (res : GETATTR3resokT) : Run GETATTR3resokT := do
  let objAttributes ← xdrUnpackFattr3 res.objAttributes
  return { objAttributes }

def xdrPackGETATTR3res (res : ResT GETATTR3resokT) : Run Unit := ResT.pack GETATTR3resokT.pack res

def xdrUnpackGETATTR3res (res : ResT GETATTR3resokT) : Run (ResT GETATTR3resokT) :=
  ResT.unpack GETATTR3resokT.unpack res

structure SETATTR3resokT where
  objWcc : WccDataT := {}
  deriving DecidableEq

def SETATTR3resokT.pack (res : SETATTR3resokT) : Run Unit := xdrPackWccData res.objWcc

def SETATTR3resokT.unpack (res : SETATTR3resokT) : Run SETATTR3resokT := do
  let objWcc ← xdrUnpackWccData res.objWcc
  return { objWcc }

def xdrPackSETATTR3res (res : ResT SETATTR3resokT) : Run Unit := ResT.pack SETATTR3resokT.pack res

def xdrUnpackSETATTR3res (res : ResT SETATTR3resokT) : Run (ResT SETATTR3resokT) :=
  ResT.unpack SETATTR3resokT.unpack res

structure LOOKUP3resokT where
  object : NfsFh3T := {}
  objAttributes : PostOpAttrT := {}
  dirAttributes : PostOpAttrT := {}
  deriving DecidableEq

def LOOKUP3resokT.pack (res : LOOKUP3resokT) : Run Unit := do
  xdrPackNfsFh3 res.object
  xdrPackPostOpAttr res.objAttributes
  xdrPackPostOpAttr res.dirAttributes

def LOOKUP3resokT.unpack (res : LOOKUP3resokT) : Run LOOKUP3resokT := do
  let object ← xdrUnpackNfsFh3 res.object
  let objAttributes ← xdrUnpackPostOpAttr res.objAttributes
  let dirAttributes ← xdrUnpackPostOpAttr res.dirAttributes
  return { object, objAttributes, dirAttributes }

def LOOKUP3resokT.destroy (res : LOOKUP3resokT) : Run LOOKUP3resokT := do
  let _ ← nfsFh3Destroy res.object
  return {}

def xdrPackLOOKUP3res (res : ResT LOOKUP3resokT) : Run Unit := ResT.pack LOOKUP3resokT.pack res

def xdrUnpackLOOKUP3res (res : ResT LOOKUP3resokT) : Run (ResT LOOKUP3resokT) :=
  ResT.unpackFresh LOOKUP3resokT.destroy LOOKUP3resokT.unpack res

structure ACCESS3resokT where
  objAttributes : PostOpAttrT := {}
  access : UInt32 := 0
  deriving DecidableEq

def ACCESS3resokT.pack (res : ACCESS3resokT) : Run Unit := do
  xdrPackPostOpAttr res.objAttributes
  xdrPackUint32 res.access

def ACCESS3resokT.unpack (res : ACCESS3resokT) : Run ACCESS3resokT := do
  let objAttributes ← xdrUnpackPostOpAttr res.objAttributes
  let access ← into res.access xdrUnpackUint32
  return { objAttributes, access }

def xdrPackACCESS3res (res : ResT ACCESS3resokT) : Run Unit := ResT.pack ACCESS3resokT.pack res

def xdrUnpackACCESS3res (res : ResT ACCESS3resokT) : Run (ResT ACCESS3resokT) := ResT.unpack ACCESS3resokT.unpack res

structure READLINK3resokT where
  symlinkAttributes : PostOpAttrT := {}
  data : Ptr := .null
  deriving DecidableEq

def READLINK3resokT.pack (res : READLINK3resokT) : Run Unit := do
  xdrPackPostOpAttr res.symlinkAttributes
  xdrPackCstring res.data

def READLINK3resokT.unpack (res : READLINK3resokT) : Run READLINK3resokT := do
  let symlinkAttributes ← xdrUnpackPostOpAttr res.symlinkAttributes
  let data ← into res.data xdrUnpackCstring
  return { symlinkAttributes, data }

def READLINK3resokT.destroy (res : READLINK3resokT) : Run READLINK3resokT := do
  let _ ← free res.data
  return {}

def xdrPackREADLINK3res (res : ResT READLINK3resokT) : Run Unit := ResT.pack READLINK3resokT.pack res

def xdrUnpackREADLINK3res (res : ResT READLINK3resokT) : Run (ResT READLINK3resokT) :=
  ResT.unpackFresh READLINK3resokT.destroy READLINK3resokT.unpack res

structure READ3resokT where
  fileAttributes : PostOpAttrT := {}
  count : UInt32 := 0
  eof : Int32 := 0
  data : Ptr := .null
  dataLen : UInt32 := 0
  deriving DecidableEq

def READ3resokT.pack (res : READ3resokT) : Run Unit := do
  xdrPackPostOpAttr res.fileAttributes
  xdrPackUint32 res.count
  xdrPackBool res.eof
  xdrPackOpaque res.data res.dataLen

def READ3resokT.unpack (res : READ3resokT) : Run READ3resokT := do
  let fileAttributes ← xdrUnpackPostOpAttr res.fileAttributes
  let count ← into res.count xdrUnpackUint32
  let eof ← into res.eof xdrUnpackBool
  let len ← uninitialized
  let (_, data, dataLen) ← xdrUnpackOpaque .wild len
  return { fileAttributes, count, eof, data, dataLen }

def READ3resokT.destroy (res : READ3resokT) : Run READ3resokT := do
  let _ ← free res.data
  return {}

def xdrPackREAD3res (res : ResT READ3resokT) : Run Unit := ResT.pack READ3resokT.pack res

def xdrUnpackREAD3res (res : ResT READ3resokT) : Run (ResT READ3resokT) :=
  ResT.unpackFresh READ3resokT.destroy READ3resokT.unpack res

structure WRITE3resokT where
  fileWcc : WccDataT := {}
  count : UInt32 := 0
  committed : StableHow := ⟨0⟩
  verf : Writeverf3 := .zero
  deriving DecidableEq

def WRITE3resokT.pack (res : WRITE3resokT) : Run Unit := do
  xdrPackWccData res.fileWcc
  xdrPackUint32 res.count
  xdrPackUint32 res.committed.code
  xdrPackWriteverf3 res.verf

def WRITE3resokT.unpack (res : WRITE3resokT) : Run WRITE3resokT := do
  let fileWcc ← xdrUnpackWccData res.fileWcc
  let count ← into res.count xdrUnpackUint32
  let st ← uninitialized
  let st ← into st xdrUnpackUint32
  let verf ← xdrUnpackWriteverf3
  return { fileWcc, count, committed := ⟨st⟩, verf }

structure WRITE3resfailT where
  fileWcc : WccDataT := {}
  deriving DecidableEq

/-- Only the WRITE result carries data for a failed call. -/
structure WRITE3resT where
  status : Nfsstat3
  hasResok : Int32
  resok : WRITE3resokT := {}
  resfail : WRITE3resfailT := {}
  deriving DecidableEq

def xdrPackWRITE3res (res : WRITE3resT) : Run Unit := do
  xdrPackUint32 res.status.code
  if res.status = .NFS3_OK ∧ res.hasResok ≠ 0 then
    res.resok.pack
  else
    xdrPackWccData res.resfail.fileWcc

def xdrUnpackWRITE3res (res : WRITE3resT) : Run WRITE3resT := do
  let s ← uninitialized
  let s ← into s xdrUnpackUint32
  let status : Nfsstat3 := ⟨s⟩
  let hasResok : Int32 := if status = .NFS3_OK then 1 else 0
  if hasResok ≠ 0 then
    let resok ← res.resok.unpack
    return { res with status, hasResok, resok }
  else
    let fileWcc ← xdrUnpackWccData res.resfail.fileWcc
    return { res with status, hasResok, resfail := { fileWcc } }

/-- CREATE, MKDIR, SYMLINK, and MKNOD have the same `resok` and the same functions for it. -/
structure NewObjectT where
  objAttributes : PostOpAttrT := {}
  dirWcc : WccDataT := {}
  object : NfsFh3T := {}
  deriving DecidableEq

/-- The handle travels first and only when it is not empty. -/
def NewObjectT.pack (res : NewObjectT) : Run Unit := do
  xdrPackBool (if nfsFh3IsEmpty res.object then 0 else 1)
  if !nfsFh3IsEmpty res.object then
    xdrPackNfsFh3 res.object
  xdrPackPostOpAttr res.objAttributes
  xdrPackWccData res.dirWcc

def NewObjectT.unpack (res : NewObjectT) : Run NewObjectT := do
  let hasObject ← uninitialized
  let hasObject ← into hasObject.toInt32 xdrUnpackBool
  let object ← if hasObject ≠ 0 then xdrUnpackNfsFh3 res.object else pure res.object
  let objAttributes ← xdrUnpackPostOpAttr res.objAttributes
  let dirWcc ← xdrUnpackWccData res.dirWcc
  return { objAttributes, dirWcc, object }

def NewObjectT.destroy (res : NewObjectT) : Run NewObjectT := do
  let _ ← nfsFh3Destroy res.object
  return {}

def xdrPackCREATE3res (res : ResT NewObjectT) : Run Unit := ResT.pack NewObjectT.pack res

def xdrUnpackCREATE3res (res : ResT NewObjectT) : Run (ResT NewObjectT) :=
  ResT.unpackFresh NewObjectT.destroy NewObjectT.unpack res

def xdrPackMKDIR3res (res : ResT NewObjectT) : Run Unit := ResT.pack NewObjectT.pack res

def xdrUnpackMKDIR3res (res : ResT NewObjectT) : Run (ResT NewObjectT) :=
  ResT.unpackFresh NewObjectT.destroy NewObjectT.unpack res

def xdrPackSYMLINK3res (res : ResT NewObjectT) : Run Unit := ResT.pack NewObjectT.pack res

def xdrUnpackSYMLINK3res (res : ResT NewObjectT) : Run (ResT NewObjectT) :=
  ResT.unpackFresh NewObjectT.destroy NewObjectT.unpack res

def xdrPackMKNOD3res (res : ResT NewObjectT) : Run Unit := ResT.pack NewObjectT.pack res

def xdrUnpackMKNOD3res (res : ResT NewObjectT) : Run (ResT NewObjectT) :=
  ResT.unpackFresh NewObjectT.destroy NewObjectT.unpack res

/-- REMOVE and RMDIR have the same `resok`. -/
structure RemovedEntryT where
  dirWcc : WccDataT := {}
  deriving DecidableEq

def RemovedEntryT.pack (res : RemovedEntryT) : Run Unit := xdrPackWccData res.dirWcc

def RemovedEntryT.unpack (res : RemovedEntryT) : Run RemovedEntryT := do
  let dirWcc ← xdrUnpackWccData res.dirWcc
  return { dirWcc }

def xdrPackREMOVE3res (res : ResT RemovedEntryT) : Run Unit := ResT.pack RemovedEntryT.pack res

def xdrUnpackREMOVE3res (res : ResT RemovedEntryT) : Run (ResT RemovedEntryT) := ResT.unpack RemovedEntryT.unpack res

def xdrPackRMDIR3res (res : ResT RemovedEntryT) : Run Unit := ResT.pack RemovedEntryT.pack res

def xdrUnpackRMDIR3res (res : ResT RemovedEntryT) : Run (ResT RemovedEntryT) := ResT.unpack RemovedEntryT.unpack res

structure RENAME3resokT where
  fromdirWcc : WccDataT := {}
  todirWcc : WccDataT := {}
  deriving DecidableEq

def RENAME3resokT.pack (res : RENAME3resokT) : Run Unit := do
  xdrPackWccData res.fromdirWcc
  xdrPackWccData res.todirWcc

def RENAME3resokT.unpack (res : RENAME3resokT) : Run RENAME3resokT := do
  let fromdirWcc ← xdrUnpackWccData res.fromdirWcc
  let todirWcc ← xdrUnpackWccData res.todirWcc
  return { fromdirWcc, todirWcc }

def xdrPackRENAME3res (res : ResT RENAME3resokT) : Run Unit := ResT.pack RENAME3resokT.pack res

def xdrUnpackRENAME3res (res : ResT RENAME3resokT) : Run (ResT RENAME3resokT) := ResT.unpack RENAME3resokT.unpack res

structure LINK3resokT where
  fileAttributes : PostOpAttrT := {}
  linkdirWcc : WccDataT := {}
  deriving DecidableEq

def LINK3resokT.pack (res : LINK3resokT) : Run Unit := do
  xdrPackPostOpAttr res.fileAttributes
  xdrPackWccData res.linkdirWcc

def LINK3resokT.unpack (res : LINK3resokT) : Run LINK3resokT := do
  let fileAttributes ← xdrUnpackPostOpAttr res.fileAttributes
  let linkdirWcc ← xdrUnpackWccData res.linkdirWcc
  return { fileAttributes, linkdirWcc }

def xdrPackLINK3res (res : ResT LINK3resokT) : Run Unit := ResT.pack LINK3resokT.pack res

def xdrUnpackLINK3res (res : ResT LINK3resokT) : Run (ResT LINK3resokT) := ResT.unpack LINK3resokT.unpack res

structure FSSTAT3resokT where
  objAttributes : PostOpAttrT := {}
  tbytes : UInt64 := 0
  fbytes : UInt64 := 0
  abytes : UInt64 := 0
  tfiles : UInt64 := 0
  ffiles : UInt64 := 0
  afiles : UInt64 := 0
  invarsec : UInt32 := 0
  deriving DecidableEq

def FSSTAT3resokT.pack (res : FSSTAT3resokT) : Run Unit := do
  xdrPackPostOpAttr res.objAttributes
  xdrPackUint64 res.tbytes
  xdrPackUint64 res.fbytes
  xdrPackUint64 res.abytes
  xdrPackUint64 res.tfiles
  xdrPackUint64 res.ffiles
  xdrPackUint64 res.afiles
  xdrPackUint32 res.invarsec

def FSSTAT3resokT.unpack (res : FSSTAT3resokT) : Run FSSTAT3resokT := do
  let objAttributes ← xdrUnpackPostOpAttr res.objAttributes
  let tbytes ← into res.tbytes xdrUnpackUint64
  let fbytes ← into res.fbytes xdrUnpackUint64
  let abytes ← into res.abytes xdrUnpackUint64
  let tfiles ← into res.tfiles xdrUnpackUint64
  let ffiles ← into res.ffiles xdrUnpackUint64
  let afiles ← into res.afiles xdrUnpackUint64
  let invarsec ← into res.invarsec xdrUnpackUint32
  return { objAttributes, tbytes, fbytes, abytes, tfiles, ffiles, afiles, invarsec }

def xdrPackFSSTAT3res (res : ResT FSSTAT3resokT) : Run Unit := ResT.pack FSSTAT3resokT.pack res

def xdrUnpackFSSTAT3res (res : ResT FSSTAT3resokT) : Run (ResT FSSTAT3resokT) := ResT.unpack FSSTAT3resokT.unpack res

structure FSINFO3resokT where
  objAttributes : PostOpAttrT := {}
  rtmax : UInt32 := 0
  rtpref : UInt32 := 0
  rtmult : UInt32 := 0
  wtmax : UInt32 := 0
  wtpref : UInt32 := 0
  wtmult : UInt32 := 0
  dtpref : UInt32 := 0
  maxfilesize : UInt64 := 0
  timeDeltaSeconds : UInt32 := 0
  timeDeltaNseconds : UInt32 := 0
  properties : UInt32 := 0
  deriving DecidableEq

def FSINFO3resokT.pack (res : FSINFO3resokT) : Run Unit := do
  xdrPackPostOpAttr res.objAttributes
  xdrPackUint32 res.rtmax
  xdrPackUint32 res.rtpref
  xdrPackUint32 res.rtmult
  xdrPackUint32 res.wtmax
  xdrPackUint32 res.wtpref
  xdrPackUint32 res.wtmult
  xdrPackUint32 res.dtpref
  xdrPackUint64 res.maxfilesize
  xdrPackUint32 res.timeDeltaSeconds
  xdrPackUint32 res.timeDeltaNseconds
  xdrPackUint32 res.properties

def FSINFO3resokT.unpack (res : FSINFO3resokT) : Run FSINFO3resokT := do
  let objAttributes ← xdrUnpackPostOpAttr res.objAttributes
  let rtmax ← into res.rtmax xdrUnpackUint32
  let rtpref ← into res.rtpref xdrUnpackUint32
  let rtmult ← into res.rtmult xdrUnpackUint32
  let wtmax ← into res.wtmax xdrUnpackUint32
  let wtpref ← into res.wtpref xdrUnpackUint32
  let wtmult ← into res.wtmult xdrUnpackUint32
  let dtpref ← into res.dtpref xdrUnpackUint32
  let maxfilesize ← into res.maxfilesize xdrUnpackUint64
  let timeDeltaSeconds ← into res.timeDeltaSeconds xdrUnpackUint32
  let timeDeltaNseconds ← into res.timeDeltaNseconds xdrUnpackUint32
  let properties ← into res.properties xdrUnpackUint32
  return { objAttributes, rtmax, rtpref, rtmult, wtmax, wtpref, wtmult, dtpref,
           maxfilesize, timeDeltaSeconds, timeDeltaNseconds, properties }

def xdrPackFSINFO3res (res : ResT FSINFO3resokT) : Run Unit := ResT.pack FSINFO3resokT.pack res

def xdrUnpackFSINFO3res (res : ResT FSINFO3resokT) : Run (ResT FSINFO3resokT) := ResT.unpack FSINFO3resokT.unpack res

structure Pathconf3ResokInfoT where
  linkmax : Int32 := 0
  nameMax : Int32 := 0
  noTrunc : Int32 := 0
  chownRestricted : Int32 := 0
  caseInsensitive : Int32 := 0
  casePreserving : Int32 := 0
  deriving DecidableEq

def xdrPackPathconf3ResokInfo (info : Pathconf3ResokInfoT) : Run Unit := do
  xdrPackUint32 info.linkmax.toUInt32
  xdrPackUint32 info.nameMax.toUInt32
  xdrPackBool info.noTrunc
  xdrPackBool info.chownRestricted
  xdrPackBool info.caseInsensitive
  xdrPackBool info.casePreserving

def xdrUnpackPathconf3ResokInfo (info : Pathconf3ResokInfoT) : Run Pathconf3ResokInfoT := do
  let val ← uninitialized
  let linkmax ← into val xdrUnpackUint32
  let nameMax ← into linkmax xdrUnpackUint32
  let noTrunc ← into info.noTrunc xdrUnpackBool
  let chownRestricted ← into info.chownRestricted xdrUnpackBool
  let caseInsensitive ← into info.caseInsensitive xdrUnpackBool
  let casePreserving ← into info.casePreserving xdrUnpackBool
  return { linkmax := linkmax.toInt32, nameMax := nameMax.toInt32, noTrunc, chownRestricted,
           caseInsensitive, casePreserving }

structure PATHCONF3resokT where
  objAttributes : PostOpAttrT := {}
  info : Pathconf3ResokInfoT := {}
  deriving DecidableEq

def PATHCONF3resokT.pack (res : PATHCONF3resokT) : Run Unit := do
  xdrPackPostOpAttr res.objAttributes
  xdrPackPathconf3ResokInfo res.info

def PATHCONF3resokT.unpack (res : PATHCONF3resokT) : Run PATHCONF3resokT := do
  let objAttributes ← xdrUnpackPostOpAttr res.objAttributes
  let info ← xdrUnpackPathconf3ResokInfo res.info
  return { objAttributes, info }

def xdrPackPATHCONF3res (res : ResT PATHCONF3resokT) : Run Unit := ResT.pack PATHCONF3resokT.pack res

def xdrUnpackPATHCONF3res (res : ResT PATHCONF3resokT) : Run (ResT PATHCONF3resokT) :=
  ResT.unpack PATHCONF3resokT.unpack res

structure COMMIT3resokT where
  fileWcc : PostOpAttrT := {}
  verf : Writeverf3 := .zero
  deriving DecidableEq

def COMMIT3resokT.pack (res : COMMIT3resokT) : Run Unit := do
  xdrPackPostOpAttr res.fileWcc
  xdrPackWriteverf3 res.verf

def COMMIT3resokT.unpack (res : COMMIT3resokT) : Run COMMIT3resokT := do
  let fileWcc ← xdrUnpackPostOpAttr res.fileWcc
  let verf ← xdrUnpackWriteverf3
  return { fileWcc, verf }

def xdrPackCOMMIT3res (res : ResT COMMIT3resokT) : Run Unit := ResT.pack COMMIT3resokT.pack res

def xdrUnpackCOMMIT3res (res : ResT COMMIT3resokT) : Run (ResT COMMIT3resokT) := ResT.unpack COMMIT3resokT.unpack res

end Nfs3Rpc.Csuite
