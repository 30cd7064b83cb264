/-
This file is the directory part of `nfs3_types.h`, `nfs3_types.c`, and `nfs3_xdr.c`.
A chain of entries is the list of its nodes, and the null pointer is the empty list.
-/

import Nfs3Rpc.Construction.Csuite.Results

namespace Nfs3Rpc.Csuite
open Encoding

structure Entry3T where
  fileid : UInt64 := 0
  name : Ptr := .null
  cookie : UInt64 := 0
  deriving DecidableEq

def xdrPackEntry3 (e : Entry3T) (nextentry : List Entry3T) : Run Unit := do
  xdrPackUint64 e.fileid
  xdrPackCstring e.name
  xdrPackUint64 e.cookie
  xdrPackBool (if nextentry.isEmpty then 0 else 1)
  match nextentry with
  | [] => pure ()
  | next :: rest => xdrPackEntry3 next rest

/-- The recursion stops only at a false flag, so the call depth bounds it. -/
def xdrUnpackEntry3 : Nat → Entry3T → List Entry3T → Run (List Entry3T)
  | 0, _, _ => throw .callDepth
  | depth + 1, e, nextentry => do
      let fileid ← into e.fileid xdrUnpackUint64
      let name ← into e.name xdrUnpackCstring
      let cookie ← into e.cookie xdrUnpackUint64
      let hasNext ← uninitialized
      let hasNext ← into hasNext.toInt32 xdrUnpackBool
      if hasNext ≠ 0 then
        let entries ← xdrUnpackEntry3 depth {} []
        return { fileid, name, cookie } :: entries
      else
        return { fileid, name, cookie } :: nextentry

def entry3Destroy : List Entry3T → Run Unit
  | [] => pure ()
  | e :: nextentry => do
      let _ ← free e.name
      entry3Destroy nextentry

structure Dirlist3T where
  entries : List Entry3T := []
  eof : Int32 := 0
  deriving DecidableEq

def xdrPackDirlist3 (dl : Dirlist3T) : Run Unit := do
  xdrPackBool (if dl.entries.isEmpty then 0 else 1)
  match dl.entries with
  | [] => pure ()
  | first :: rest => xdrPackEntry3 first rest
  xdrPackBool dl.eof

def callDepth : Run Nat := do
  let machine ← get
  return machine.depth

def xdrUnpackDirlist3 (dl : Dirlist3T) : Run Dirlist3T := do
  let hasEntries ← uninitialized
  let hasEntries ← into hasEntries.toInt32 xdrUnpackBool
  let entries ← if hasEntries ≠ 0 then do
      let depth ← callDepth
      xdrUnpackEntry3 depth {} []
    else
      pure dl.entries
  let eof ← into dl.eof xdrUnpackBool
  return { entries, eof }

structure READDIR3resokT where
  dirAttributes : PostOpAttrT := {}
  cookieverf : UInt64 := 0
  reply : Dirlist3T := {}
  deriving DecidableEq

def READDIR3resokT.pack (res : READDIR3resokT) : Run Unit := do
  xdrPackPostOpAttr res.dirAttributes
  xdrPackUint64 res.cookieverf
  xdrPackDirlist3 res.reply

def READDIR3resokT.unpack (res : READDIR3resokT) : Run READDIR3resokT := do
  let dirAttributes ← xdrUnpackPostOpAttr res.dirAttributes
  let cookieverf ← into res.cookieverf xdrUnpackUint64
  let reply ← xdrUnpackDirlist3 res.reply
  return { dirAttributes, cookieverf, reply }

def READDIR3resokT.destroy (res : READDIR3resokT) : Run READDIR3resokT := do
  entry3Destroy res.reply.entries
  return {}

def xdrPackREADDIR3res (res : ResT READDIR3resokT) : Run Unit := ResT.pack READDIR3resokT.pack res

def xdrUnpackREADDIR3res (res : ResT READDIR3resokT) : Run (ResT READDIR3resokT) :=
  ResT.unpackFresh READDIR3resokT.destroy READDIR3resokT.unpack res

structure Entryplus3T where
  fileid : UInt64 := 0
  name : Ptr := .null
  cookie : UInt64 := 0
  nameHandle : NfsFh3T := {}
  nameAttributes : PostOpAttrT := {}
  deriving DecidableEq

/-- The attributes travel before the handle, which has a flag of its own. -/
def xdrPackEntryplus3 (e : Entryplus3T) (nextentry : List Entryplus3T) : Run Unit := do
  xdrPackUint64 e.fileid
  xdrPackCstring e.name
  xdrPackUint64 e.cookie
  xdrPackPostOpAttr e.nameAttributes
  xdrPackBool (if nfsFh3IsEmpty e.nameHandle then 0 else 1)
  if !nfsFh3IsEmpty e.nameHandle then
    xdrPackNfsFh3 e.nameHandle
  xdrPackBool (if nextentry.isEmpty then 0 else 1)
  match nextentry with
  | [] => pure ()
  | next :: rest => xdrPackEntryplus3 next rest

def xdrUnpackEntryplus3 : Nat → Entryplus3T → List Entryplus3T → Run (List Entryplus3T)
  | 0, _, _ => throw .callDepth
  | depth + 1, e, nextentry => do
      let fileid ← into e.fileid xdrUnpackUint64
      let name ← into e.name xdrUnpackCstring
      let cookie ← into e.cookie xdrUnpackUint64
      let nameAttributes ← xdrUnpackPostOpAttr e.nameAttributes
      let hasHandle ← uninitialized
      let hasHandle ← into hasHandle.toInt32 xdrUnpackBool
      let nameHandle ← if hasHandle ≠ 0 then xdrUnpackNfsFh3 e.nameHandle else pure e.nameHandle
      let hasNext ← uninitialized
      let hasNext ← into hasNext.toInt32 xdrUnpackBool
      if hasNext ≠ 0 then
        let entries ← xdrUnpackEntryplus3 depth {} []
        return { fileid, name, cookie, nameHandle, nameAttributes } :: entries
      else
        return { fileid, name, cookie, nameHandle, nameAttributes } :: nextentry

def entryplus3Destroy : List Entryplus3T → Run Unit
  | [] => pure ()
  | e :: nextentry => do
      let _ ← free e.name
      let _ ← nfsFh3Destroy e.nameHandle
      entryplus3Destroy nextentry

structure Dirlistplus3T where
  entries : List Entryplus3T := []
  eof : Int32 := 0
  deriving DecidableEq

def xdrPackDirlistplus3 (dl : Dirlistplus3T) : Run Unit := do
  xdrPackBool (if dl.entries.isEmpty then 0 else 1)
  match dl.entries with
  | [] => pure ()
  | first :: rest => xdrPackEntryplus3 first rest
  xdrPackBool dl.eof

def xdrUnpackDirlistplus3 (dl : Dirlistplus3T) : Run Dirlistplus3T := do
  let hasEntries ← uninitialized
  let hasEntries ← into hasEntries.toInt32 xdrUnpackBool
  let entries ← if hasEntries ≠ 0 then do
      let depth ← callDepth
      xdrUnpackEntryplus3 depth {} []
    else
      pure dl.entries
  let eof ← into dl.eof xdrUnpackBool
  return { entries, eof }

structure READDIRPLUS3resokT where
  dirAttributes : PostOpAttrT := {}
  cookieverf : UInt64 := 0
  reply : Dirlistplus3T := {}
  deriving DecidableEq

def READDIRPLUS3resokT.pack (res : READDIRPLUS3resokT) : Run Unit := do
  xdrPackPostOpAttr res.dirAttributes
  xdrPackUint64 res.cookieverf
  xdrPackDirlistplus3 res.reply

def READDIRPLUS3resokT.unpack (res : READDIRPLUS3resokT) : Run READDIRPLUS3resokT := do
  let dirAttributes ← xdrUnpackPostOpAttr res.dirAttributes
  let cookieverf ← into res.cookieverf xdrUnpackUint64
  let reply ← xdrUnpackDirlistplus3 res.reply
  return { dirAttributes, cookieverf, reply }

def READDIRPLUS3resokT.destroy (res : READDIRPLUS3resokT) : Run READDIRPLUS3resokT := do
  entryplus3Destroy res.reply.entries
  return {}

def xdrPackREADDIRPLUS3res (res : ResT READDIRPLUS3resokT) : Run Unit :=
  ResT.pack READDIRPLUS3resokT.pack res

def xdrUnpackREADDIRPLUS3res (res : ResT READDIRPLUS3resokT) : Run (ResT READDIRPLUS3resokT) :=
  ResT.unpackFresh READDIRPLUS3resokT.destroy READDIRPLUS3resokT.unpack res

end Nfs3Rpc.Csuite
