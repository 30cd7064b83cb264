/-
This file is the attribute part of `nfs3_types.h`, `nfs3_types.c`, and `nfs3_xdr.c`.
The plain structures without pointers and flags have the same fields in both suites.
-/

import Nfs3Rpc.Construction.Builtin.Attributes
import Nfs3Rpc.Construction.Csuite.XdrBuf

namespace Nfs3Rpc.Csuite
open Encoding

structure NfsFh3T where
  data : Ptr := .null
  len : UInt32 := 0
  cap : UInt32 := 0
  deriving DecidableEq

def nfsFh3Init : NfsFh3T := {}

def nfsFh3Destroy (fh : NfsFh3T) : Run NfsFh3T := do
  let _ ← free fh.data
  return {}

def nfsFh3Set (fh : NfsFh3T) (buf : Ptr) (len : UInt32) : Run NfsFh3T := do
  let _ ← free fh.data
  if len > 0 then
    let data ← readBlock buf len.toNat
    return { data := .block data, len, cap := len }
  else
    return {}

def nfsFh3IsEmpty (fh : NfsFh3T) : Bool := fh.len == 0

/-- The write verifier and the create verifier have the same two functions. -/
def xdrPackVerifier (v : Verifier) : Run Unit := xdrPackBytes (.block v.data) 8

/-- The array is zero when the bytes are missing. -/
def xdrUnpackVerifier : Run Verifier := do
  let machine ← get
  if space : machine.buf.pos + 8 ≤ machine.buf.data.length then
    set { machine with buf.pos := machine.buf.pos + 8 }
    return ⟨(machine.buf.data.drop machine.buf.pos).take 8, by simp; omega⟩
  else
    return .zero

def xdrPackWriteverf3 (v : Writeverf3) : Run Unit := xdrPackVerifier v

def xdrUnpackWriteverf3 : Run Writeverf3 := xdrUnpackVerifier

def xdrPackCreateverf3 (v : Createverf3) : Run Unit := xdrPackVerifier v

def xdrUnpackCreateverf3 : Run Createverf3 := xdrUnpackVerifier

def xdrPackNfsFh3 (fh : NfsFh3T) : Run Unit := xdrPackOpaque fh.data fh.len

/-- The locals stay uninitialized when the bytes are missing. -/
def xdrUnpackNfsFh3 (fh : NfsFh3T) : Run NfsFh3T := do
  let len ← uninitialized
  let (_, d, len) ← xdrUnpackOpaque .wild len
  let _ ← nfsFh3Destroy fh
  return { data := d, len, cap := len }

def xdrPackNfstime3 (t : Nfstime3) : Run Unit := do
  xdrPackUint32 t.seconds
  xdrPackUint32 t.nseconds

def xdrUnpackNfstime3 (t : Nfstime3) : Run Nfstime3 := do
  let seconds ← into t.seconds xdrUnpackUint32
  let nseconds ← into t.nseconds xdrUnpackUint32
  return { seconds, nseconds }

def xdrPackSpecdata3 (s : Specdata3) : Run Unit := do
  xdrPackUint32 s.specdata1
  xdrPackUint32 s.specdata2

def xdrUnpackSpecdata3 (s : Specdata3) : Run Specdata3 := do
  let specdata1 ← into s.specdata1 xdrUnpackUint32
  let specdata2 ← into s.specdata2 xdrUnpackUint32
  return { specdata1, specdata2 }

def xdrPackFattr3 (attr : Fattr3) : Run Unit := do
  xdrPackUint32 attr.type.code
  xdrPackUint32 attr.mode
  xdrPackUint32 attr.nlink
  xdrPackUint32 attr.uid
  xdrPackUint32 attr.gid
  xdrPackUint64 attr.size
  xdrPackUint64 attr.used
  xdrPackSpecdata3 attr.rdev
  xdrPackUint64 attr.fsid
  xdrPackUint64 attr.fileid
  xdrPackNfstime3 attr.atime
  xdrPackNfstime3 attr.mtime
  xdrPackNfstime3 attr.ctime

def xdrUnpackFattr3 (attr : Fattr3) : Run Fattr3 := do
  let typeVal ← uninitialized
  let typeVal ← into typeVal xdrUnpackUint32
  let mode ← into attr.mode xdrUnpackUint32
  let nlink ← into attr.nlink xdrUnpackUint32
  let uid ← into attr.uid xdrUnpackUint32
  let gid ← into attr.gid xdrUnpackUint32
  let size ← into attr.size xdrUnpackUint64
  let used ← into attr.used xdrUnpackUint64
  let rdev ← xdrUnpackSpecdata3 attr.rdev
  let fsid ← into attr.fsid xdrUnpackUint64
  let fileid ← into attr.fileid xdrUnpackUint64
  let atime ← xdrUnpackNfstime3 attr.atime
  let mtime ← xdrUnpackNfstime3 attr.mtime
  let ctime ← xdrUnpackNfstime3 attr.ctime
  return { type := ⟨typeVal⟩, mode, nlink, uid, gid, size, used, rdev, fsid, fileid, atime, mtime, ctime }

structure PostOpAttrT where
  follow : Int32 := 0
  attributes : Fattr3 := {}
  deriving DecidableEq

def xdrPackPostOpAttr (a : PostOpAttrT) : Run Unit := do
  xdrPackBool a.follow
  if a.follow ≠ 0 then
    xdrPackFattr3 a.attributes

def xdrUnpackPostOpAttr (a : PostOpAttrT) : Run PostOpAttrT := do
  let follow ← into a.follow xdrUnpackBool
  if follow ≠ 0 then
    let attributes ← xdrUnpackFattr3 a.attributes
    return { follow, attributes }
  else
    return { a with follow }

def xdrPackWccAttr (a : WccAttr) : Run Unit := do
  xdrPackUint64 a.size
  xdrPackNfstime3 a.mtime
  xdrPackNfstime3 a.ctime

def xdrUnpackWccAttr (a : WccAttr) : Run WccAttr := do
  let size ← into a.size xdrUnpackUint64
  let mtime ← xdrUnpackNfstime3 a.mtime
  let ctime ← xdrUnpackNfstime3 a.ctime
  return { size, mtime, ctime }

structure PreOpAttrT where
  check : Int32 := 0
  attributes : WccAttr := {}
  deriving DecidableEq

def xdrPackPreOpAttr (a : PreOpAttrT) : Run Unit := do
  xdrPackBool a.check
  if a.check ≠ 0 then
    xdrPackWccAttr a.attributes

def xdrUnpackPreOpAttr (a : PreOpAttrT) : Run PreOpAttrT := do
  let check ← into a.check xdrUnpackBool
  if check ≠ 0 then
    let attributes ← xdrUnpackWccAttr a.attributes
    return { check, attributes }
  else
    return { a with check }

structure WccDataT where
  before : PreOpAttrT := {}
  after : PostOpAttrT := {}
  deriving DecidableEq

def xdrPackWccData (d : WccDataT) : Run Unit := do
  xdrPackPreOpAttr d.before
  xdrPackPostOpAttr d.after

def xdrUnpackWccData (d : WccDataT) : Run WccDataT := do
  let before ← xdrUnpackPreOpAttr d.before
  let after ← xdrUnpackPostOpAttr d.after
  return { before, after }

structure Sattr3T where
  modeSet : Int32 := 0
  mode : UInt32 := 0
  uidSet : Int32 := 0
  uid : UInt32 := 0
  gidSet : Int32 := 0
  gid : UInt32 := 0
  sizeSet : Int32 := 0
  size : UInt64 := 0
  atimeSet : Int32 := 0
  atime : Nfstime3 := {}
  mtimeSet : Int32 := 0
  mtime : Nfstime3 := {}
  deriving DecidableEq

/-- The value follows its flag word when the flag is set. -/
def packWhen (set : Int32) (pack : Run Unit) : Run Unit := do
  xdrPackBool set
  if set ≠ 0 then
    pack

/-- A time travels with `SET_TO_CLIENT_TIME` and is left out with `DONT_CHANGE`. -/
def packTime (set : Int32) (time : Nfstime3) : Run Unit := do
  xdrPackUint32 (if set ≠ 0 then 2 else 0)
  if set ≠ 0 then
    xdrPackNfstime3 time

def xdrPackSattr3 (s : Sattr3T) : Run Unit := do
  packWhen s.modeSet (xdrPackUint32 s.mode)
  packWhen s.uidSet (xdrPackUint32 s.uid)
  packWhen s.gidSet (xdrPackUint32 s.gid)
  packWhen s.sizeSet (xdrPackUint64 s.size)
  packTime s.atimeSet s.atime
  packTime s.mtimeSet s.mtime

/-- The flag is a local that keeps its last value when its word is missing. -/
def unpackWhen {α : Type} (flag : Int32) (prior : α) (unpack : Run (Option α)) : Run (Int32 × α) := do
  let flag ← into flag xdrUnpackBool
  if flag ≠ 0 then
    let value ← into prior unpack
    return (flag, value)
  else
    return (flag, prior)

/-- The decoder keeps no other value than `SET_TO_CLIENT_TIME`. -/
def unpackTime (timeHow : UInt32) (prior : Nfstime3) : Run (UInt32 × Int32 × Nfstime3) := do
  let timeHow ← into timeHow xdrUnpackUint32
  if timeHow = 2 then
    let time ← xdrUnpackNfstime3 prior
    return (timeHow, 1, time)
  else
    return (timeHow, 0, prior)

def xdrUnpackSattr3 (s : Sattr3T) : Run Sattr3T := do
  let flag ← uninitialized
  let (modeSet, mode) ← unpackWhen flag.toInt32 s.mode xdrUnpackUint32
  let (uidSet, uid) ← unpackWhen modeSet s.uid xdrUnpackUint32
  let (gidSet, gid) ← unpackWhen uidSet s.gid xdrUnpackUint32
  let (sizeSet, size) ← unpackWhen gidSet s.size xdrUnpackUint64
  let timeHow ← uninitialized
  let (timeHow, atimeSet, atime) ← unpackTime timeHow s.atime
  let (_, mtimeSet, mtime) ← unpackTime timeHow s.mtime
  return { modeSet, mode, uidSet, uid, gidSet, gid, sizeSet, size, atimeSet, atime, mtimeSet, mtime }

end Nfs3Rpc.Csuite
