/-
This file is the directory part of `nfs3_types.hpp`.
A chain of `unique_ptr` entries is the list of its nodes, and the null pointer is the empty list.
-/

import Nfs3Rpc.Construction.Builtin.Results

namespace Nfs3Rpc
open Encoding Builtin

structure Entry3 where
  fileid : UInt64 := 0
  name : Bytes := []
  cookie : UInt64 := 0
  deriving DecidableEq

/-- An entry writes its own fields and then the entries that it points to. -/
def Entry3.serialize (entry : Entry3) (nextentry : List Entry3) : Xdr Unit := do
  packUint64 entry.fileid
  packString entry.name
  packUint64 entry.cookie
  packBool !nextentry.isEmpty
  match nextentry with
  | [] => pure ()
  | next :: rest => next.serialize rest

/-- Each level of the recursion reads at least one byte, so the unread byte count bounds its depth. The call stack of
the C++ program has no bound here. -/
def Entry3.deserialize (unread : Nat) (nextentry : List Entry3) : Xdr (List Entry3) := do
  let fileid ← unpackUint64
  match unread with
  -- No byte is left at this depth, so the first read has thrown.
  | 0 => return nextentry
  | unread + 1 =>
    let name ← unpackString
    let cookie ← unpackUint64
    let hasNext ← unpackBool
    if hasNext then
      let entry ← Entry3.deserialize unread []
      return { fileid, name, cookie } :: entry
    else
      return { fileid, name, cookie } :: nextentry

structure Dirlist3 where
  entries : List Entry3 := []
  eof : Bool := false
  deriving DecidableEq

def Dirlist3.serialize (list : Dirlist3) : Xdr Unit := do
  packBool !list.entries.isEmpty
  match list.entries with
  | [] => pure ()
  | first :: rest => first.serialize rest
  packBool list.eof

def unreadBytes : Xdr Nat := do
  let buf ← get
  return buf.buffer.length - buf.pos

def Dirlist3.deserialize (self : Dirlist3) : Xdr Dirlist3 := do
  let hasEntries ← unpackBool
  let entries ← if hasEntries then do
      let unread ← unreadBytes
      Entry3.deserialize unread []
    else
      pure self.entries
  let eof ← unpackBool
  return { entries, eof }

structure READDIR3resok where
  dirAttributes : PostOpAttr := {}
  cookieverf : UInt64 := 0
  reply : Dirlist3 := {}
  deriving DecidableEq

def READDIR3resok.serialize (res : READDIR3resok) : Xdr Unit := do
  res.dirAttributes.serialize
  packUint64 res.cookieverf
  res.reply.serialize

def READDIR3resok.deserialize (self : READDIR3resok) : Xdr READDIR3resok := do
  let dirAttributes ← self.dirAttributes.deserialize
  let cookieverf ← unpackUint64
  let reply ← self.reply.deserialize
  return { dirAttributes, cookieverf, reply }

structure Entryplus3 where
  fileid : UInt64 := 0
  name : Bytes := []
  cookie : UInt64 := 0
  nameHandle : NfsFh3 := {}
  nameAttributes : PostOpAttr := {}
  deriving DecidableEq

def Entryplus3.serialize (entry : Entryplus3) (nextentry : List Entryplus3) : Xdr Unit := do
  packUint64 entry.fileid
  packString entry.name
  packUint64 entry.cookie
  entry.nameHandle.serialize
  entry.nameAttributes.serialize
  packBool !nextentry.isEmpty
  match nextentry with
  | [] => pure ()
  | next :: rest => next.serialize rest

/-- The prior object gives the attributes that a false flag leaves unread. -/
def Entryplus3.deserialize (unread : Nat) (self : Entryplus3) (nextentry : List Entryplus3) :
    Xdr (List Entryplus3) := do
  let fileid ← unpackUint64
  match unread with
  | 0 => return nextentry
  | unread + 1 =>
    let name ← unpackString
    let cookie ← unpackUint64
    let nameHandle ← NfsFh3.deserialize
    let nameAttributes ← self.nameAttributes.deserialize
    let hasNext ← unpackBool
    if hasNext then
      let entry ← Entryplus3.deserialize unread {} []
      return { fileid, name, cookie, nameHandle, nameAttributes } :: entry
    else
      return { fileid, name, cookie, nameHandle, nameAttributes } :: nextentry

structure Dirlistplus3 where
  entries : List Entryplus3 := []
  eof : Bool := false
  deriving DecidableEq

def Dirlistplus3.serialize (list : Dirlistplus3) : Xdr Unit := do
  packBool !list.entries.isEmpty
  match list.entries with
  | [] => pure ()
  | first :: rest => first.serialize rest
  packBool list.eof

def Dirlistplus3.deserialize (self : Dirlistplus3) : Xdr Dirlistplus3 := do
  let hasEntries ← unpackBool
  let entries ← if hasEntries then do
      let unread ← unreadBytes
      Entryplus3.deserialize unread {} []
    else
      pure self.entries
  let eof ← unpackBool
  return { entries, eof }

structure READDIRPLUS3resok where
  dirAttributes : PostOpAttr := {}
  cookieverf : UInt64 := 0
  reply : Dirlistplus3 := {}
  deriving DecidableEq

def READDIRPLUS3resok.serialize (res : READDIRPLUS3resok) : Xdr Unit := do
  res.dirAttributes.serialize
  packUint64 res.cookieverf
  res.reply.serialize

def READDIRPLUS3resok.deserialize (self : READDIRPLUS3resok) : Xdr READDIRPLUS3resok := do
  let dirAttributes ← self.dirAttributes.deserialize
  let cookieverf ← unpackUint64
  let reply ← self.reply.deserialize
  return { dirAttributes, cookieverf, reply }

end Nfs3Rpc
