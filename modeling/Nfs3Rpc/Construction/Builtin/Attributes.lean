/-
This file is the attribute part of `nfs3_types.hpp`: the structures that the procedures share.
Each `deserialize` takes the prior content of its object.
-/

import Nfs3Rpc.Construction.Constants
import Nfs3Rpc.Construction.Builtin.XdrBuffer

namespace Nfs3Rpc
open Encoding Builtin

/-- The two verifier structures hold the same array of eight bytes. -/
structure Verifier where
  data : Bytes
  eight : data.length = 8
  deriving DecidableEq

def Verifier.zero : Verifier := ⟨List.replicate 8 0, rfl⟩

abbrev Writeverf3 := Verifier

abbrev Createverf3 := Verifier

def Verifier.serialize (verf : Verifier) : Xdr Unit := packOpaque verf.data

/-- A shorter value leaves the array as it was. -/
def Verifier.deserialize (self : Verifier) : Xdr Verifier := do
  let v ← unpackOpaque
  if enough : 8 ≤ v.length then
    return ⟨v.take 8, by rw [List.length_take]; omega⟩
  else
    return self

structure NfsFh3 where
  data : Bytes := []
  deriving DecidableEq

def NfsFh3.serialize (fh : NfsFh3) : Xdr Unit := packOpaque fh.data

def NfsFh3.deserialize : Xdr NfsFh3 := do
  let data ← unpackOpaque
  return { data }

structure Nfstime3 where
  seconds : UInt32 := 0
  nseconds : UInt32 := 0
  deriving DecidableEq

def Nfstime3.serialize (time : Nfstime3) : Xdr Unit := do
  packUint32 time.seconds
  packUint32 time.nseconds

def Nfstime3.deserialize : Xdr Nfstime3 := do
  let seconds ← unpackUint32
  let nseconds ← unpackUint32
  return { seconds, nseconds }

structure Specdata3 where
  specdata1 : UInt32 := 0
  specdata2 : UInt32 := 0
  deriving DecidableEq

def Specdata3.serialize (spec : Specdata3) : Xdr Unit := do
  packUint32 spec.specdata1
  packUint32 spec.specdata2

def Specdata3.deserialize : Xdr Specdata3 := do
  let specdata1 ← unpackUint32
  let specdata2 ← unpackUint32
  return { specdata1, specdata2 }

structure Fattr3 where
  type : Ftype3 := .NF3NON
  mode : UInt32 := 0
  nlink : UInt32 := 0
  uid : UInt32 := 0
  gid : UInt32 := 0
  size : UInt64 := 0
  used : UInt64 := 0
  rdev : Specdata3 := {}
  fsid : UInt64 := 0
  fileid : UInt64 := 0
  atime : Nfstime3 := {}
  mtime : Nfstime3 := {}
  ctime : Nfstime3 := {}
  deriving DecidableEq

def Fattr3.serialize (attr : Fattr3) : Xdr Unit := do
  packUint32 attr.type.code
  packUint32 attr.mode
  packUint32 attr.nlink
  packUint32 attr.uid
  packUint32 attr.gid
  packUint64 attr.size
  packUint64 attr.used
  attr.rdev.serialize
  packUint64 attr.fsid
  packUint64 attr.fileid
  attr.atime.serialize
  attr.mtime.serialize
  attr.ctime.serialize

def Fattr3.deserialize : Xdr Fattr3 := do
  let typeVal ← unpackUint32
  let mode ← unpackUint32
  let nlink ← unpackUint32
  let uid ← unpackUint32
  let gid ← unpackUint32
  let size ← unpackUint64
  let used ← unpackUint64
  let rdev ← Specdata3.deserialize
  let fsid ← unpackUint64
  let fileid ← unpackUint64
  let atime ← Nfstime3.deserialize
  let mtime ← Nfstime3.deserialize
  let ctime ← Nfstime3.deserialize
  return { type := ⟨typeVal⟩, mode, nlink, uid, gid, size, used, rdev, fsid, fileid, atime, mtime, ctime }

structure PostOpAttr where
  follow : Bool := false
  attributes : Fattr3 := {}
  deriving DecidableEq

def PostOpAttr.serialize (attr : PostOpAttr) : Xdr Unit := do
  packBool attr.follow
  if attr.follow then
    attr.attributes.serialize

def PostOpAttr.deserialize (self : PostOpAttr) : Xdr PostOpAttr := do
  let follow ← unpackBool
  if follow then
    let attributes ← Fattr3.deserialize
    return { follow, attributes }
  else
    return { self with follow }

structure Sattr3 where
  mode : Option UInt32 := none
  uid : Option UInt32 := none
  gid : Option UInt32 := none
  size : Option UInt64 := none
  atime : Option Nfstime3 := none
  mtime : Option Nfstime3 := none
  deriving DecidableEq

/-- The built-in codec sends an absent mode, uid, or gid as this word. -/
def absentWord : UInt32 := 0xFFFFFFFF

def packOptional {α : Type} (pack : α → Xdr Unit) (value : Option α) : Xdr Unit := do
  packBool value.isSome
  match value with
  | some v => pack v
  | none => pure ()

def Sattr3.serialize (attr : Sattr3) : Xdr Unit := do
  packUint32 (attr.mode.getD absentWord)
  packUint32 (attr.uid.getD absentWord)
  packUint32 (attr.gid.getD absentWord)
  packOptional packUint64 attr.size
  packOptional Nfstime3.serialize attr.atime
  packOptional Nfstime3.serialize attr.mtime

/-- An absent word leaves the prior value of the optional field. -/
def unpackSentinel (prior : Option UInt32) : Xdr (Option UInt32) := do
  let val ← unpackUint32
  return if val != absentWord then some val else prior

/-- A false flag leaves the prior value of the optional field. -/
def unpackOptional {α : Type} (unpack : Xdr α) (prior : Option α) : Xdr (Option α) := do
  let flag ← unpackBool
  if flag then
    let value ← unpack
    return some value
  else
    return prior

def Sattr3.deserialize (self : Sattr3) : Xdr Sattr3 := do
  let mode ← unpackSentinel self.mode
  let uid ← unpackSentinel self.uid
  let gid ← unpackSentinel self.gid
  let size ← unpackOptional unpackUint64 self.size
  let atime ← unpackOptional Nfstime3.deserialize self.atime
  let mtime ← unpackOptional Nfstime3.deserialize self.mtime
  return { mode, uid, gid, size, atime, mtime }

structure WccAttr where
  size : UInt64 := 0
  mtime : Nfstime3 := {}
  ctime : Nfstime3 := {}
  deriving DecidableEq

def WccAttr.serialize (attr : WccAttr) : Xdr Unit := do
  packUint64 attr.size
  attr.mtime.serialize
  attr.ctime.serialize

def WccAttr.deserialize : Xdr WccAttr := do
  let size ← unpackUint64
  let mtime ← Nfstime3.deserialize
  let ctime ← Nfstime3.deserialize
  return { size, mtime, ctime }

structure PreOpAttr where
  check : Bool := false
  attributes : WccAttr := {}
  deriving DecidableEq

def PreOpAttr.serialize (attr : PreOpAttr) : Xdr Unit := do
  packBool attr.check
  if attr.check then
    attr.attributes.serialize

def PreOpAttr.deserialize (self : PreOpAttr) : Xdr PreOpAttr := do
  let check ← unpackBool
  if check then
    let attributes ← WccAttr.deserialize
    return { check, attributes }
  else
    return { self with check }

structure WccData where
  before : PreOpAttr := {}
  after : PostOpAttr := {}
  deriving DecidableEq

def WccData.serialize (wcc : WccData) : Xdr Unit := do
  wcc.before.serialize
  wcc.after.serialize

def WccData.deserialize (self : WccData) : Xdr WccData := do
  let before ← self.before.deserialize
  let after ← self.after.deserialize
  return { before, after }

end Nfs3Rpc
