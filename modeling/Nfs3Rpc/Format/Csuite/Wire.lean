/-
This file states the bytes of the C suite as a function of the message.
Most messages travel as in the C++ suite; the others have a form of their own here.
-/

import Nfs3Rpc.Format.Csuite.Results

namespace Nfs3Rpc.Csuite
open Encoding

/-- The encoder keeps a string up to its length modulo 2 ^ 32. -/
def clip (s : Bytes) : Bytes := s.take (s.length % 2 ^ 32)

/-- The block of a decoded string has room for the terminator exactly below 2 ^ 32 - 1 bytes. -/
def Terminates (s : Bytes) : Prop := s.length < 2 ^ 32 - 1

instance : DecidablePred Terminates := fun s => inferInstanceAs (Decidable (s.length < 2 ^ 32 - 1))

/-- A time travels after the word for `SET_TO_CLIENT_TIME`. -/
def timeWire : Option Nfstime3 → Bytes
  | some time => [be32 2, time.wire].flatten
  | none => be32 0

def sattr3Wire (attr : Sattr3) : Bytes :=
  [optionalWire be32 attr.mode, optionalWire be32 attr.uid, optionalWire be32 attr.gid,
    optionalWire be64 attr.size, timeWire attr.atime, timeWire attr.mtime].flatten

/-- A handle travels after its flag, and an empty handle is absent. -/
def handleWire (fh : NfsFh3) : Bytes :=
  (beBool (!fh.data.isEmpty) :: if fh.data.isEmpty then [] else [fh.wire]).flatten

def SETATTR3argsWire (args : SETATTR3args) : Bytes :=
  [args.object.wire, sattr3Wire args.newAttributes, optionalWire NfsFh3.wire args.guard].flatten

def CREATE3argsWire (args : CREATE3args) : Bytes :=
  [args.whereDir.wire, opaqueBytes args.whereName, be32 args.howMode.code,
    if args.howMode = .EXCLUSIVE then args.howVerf.data else sattr3Wire args.howAttributes].flatten

def MKDIR3argsWire (args : MKDIR3args) : Bytes :=
  [args.whereDir.wire, opaqueBytes args.whereName, sattr3Wire args.attributes].flatten

def SYMLINK3argsWire (args : SYMLINK3args) : Bytes :=
  [args.whereDir.wire, opaqueBytes args.whereName, sattr3Wire args.symlinkAttributes,
    opaqueBytes args.symlinkData].flatten

def MKNOD3argsWire (args : MKNOD3args) : Bytes :=
  [args.whereDir.wire, opaqueBytes args.whereName, be32 args.whatType.code,
    sattr3Wire args.whatAttributes].flatten

def READ3resokWire (res : READ3resok) : Bytes :=
  [res.fileAttributes.wire, be32 res.count.toUInt32, beBool res.eof, opaqueBytes res.data].flatten

def NewObjectWire (res : NewObject) : Bytes :=
  [handleWire res.object, res.objAttributes.wire, res.dirWcc.wire].flatten

def entryplus3Wire (entry : Entryplus3) (nextentry : List Entryplus3) : Bytes :=
  [be64 entry.fileid, opaqueBytes entry.name, be64 entry.cookie, entry.nameAttributes.wire,
    handleWire entry.nameHandle, beBool !nextentry.isEmpty].flatten

def entryplus3ChainWire : List Entryplus3 → Bytes
  | [] => []
  | entry :: nextentry => entryplus3Wire entry nextentry ++ entryplus3ChainWire nextentry

def dirlistplus3Wire (list : Dirlistplus3) : Bytes :=
  [beBool !list.entries.isEmpty, entryplus3ChainWire list.entries, beBool list.eof].flatten

def READDIRPLUS3resokWire (res : READDIRPLUS3resok) : Bytes :=
  [res.dirAttributes.wire, be64 res.cookieverf, dirlistplus3Wire res.reply].flatten

def COMMIT3resokWire (res : COMMIT3resok) : Bytes := [res.fileWcc.wire, res.verf.data].flatten

def WRITE3okWire (res : WRITE3ok) : Bytes :=
  [res.fileWcc.wire, be32 res.count, be32 res.committed.code, res.verf.data].flatten

def WRITE3replyWire (res : WRITE3reply) : Bytes :=
  (be32 res.status.code :: (res.resok.toList.map WRITE3okWire ++ res.resfail.toList.map WccData.wire)).flatten

end Nfs3Rpc.Csuite

namespace Nfs3Rpc
open Encoding Csuite

def ProcNum.wireArgsT : (proc : ProcNum) → proc.Args → Bytes
  | .SETATTR => SETATTR3argsWire
  | .CREATE => CREATE3argsWire
  | .MKDIR => MKDIR3argsWire
  | .SYMLINK => SYMLINK3argsWire
  | .MKNOD => MKNOD3argsWire
  | proc => proc.argsWire

def ProcNum.wireResokT : (proc : ProcNum) → proc.Resok → Bytes
  | .READ => READ3resokWire
  | .CREATE | .MKDIR | .SYMLINK | .MKNOD => NewObjectWire
  | .READDIRPLUS => READDIRPLUS3resokWire
  | .COMMIT => COMMIT3resokWire
  | proc => proc.resokWire

/-- The status travels before the `resok`, as in the C++ suite. -/
def resWireT (proc : ProcNum) (res : Res proc.Resok) : Bytes :=
  (be32 res.status.code :: res.resok.toList.map proc.wireResokT).flatten

def ProcNum.wireReply : (proc : ProcNum) → proc.Reply → Bytes
  | .GETATTR => resWireT .GETATTR
  | .SETATTR => resWireT .SETATTR
  | .LOOKUP => resWireT .LOOKUP
  | .ACCESS => resWireT .ACCESS
  | .READLINK => resWireT .READLINK
  | .READ => resWireT .READ
  | .WRITE => WRITE3replyWire
  | .CREATE => resWireT .CREATE
  | .MKDIR => resWireT .MKDIR
  | .SYMLINK => resWireT .SYMLINK
  | .MKNOD => resWireT .MKNOD
  | .REMOVE => resWireT .REMOVE
  | .RMDIR => resWireT .RMDIR
  | .RENAME => resWireT .RENAME
  | .LINK => resWireT .LINK
  | .READDIR => resWireT .READDIR
  | .READDIRPLUS => resWireT .READDIRPLUS
  | .FSSTAT => resWireT .FSSTAT
  | .FSINFO => resWireT .FSINFO
  | .PATHCONF => resWireT .PATHCONF
  | .COMMIT => resWireT .COMMIT

def LOOKUP3args.strings (args : LOOKUP3args) : List Bytes := [args.whatName]

def LOOKUP3args.clipped (args : LOOKUP3args) : LOOKUP3args := { args with whatName := clip args.whatName }

def CREATE3args.strings (args : CREATE3args) : List Bytes := [args.whereName]

def CREATE3args.clipped (args : CREATE3args) : CREATE3args := { args with whereName := clip args.whereName }

def MKDIR3args.strings (args : MKDIR3args) : List Bytes := [args.whereName]

def MKDIR3args.clipped (args : MKDIR3args) : MKDIR3args := { args with whereName := clip args.whereName }

def SYMLINK3args.strings (args : SYMLINK3args) : List Bytes := [args.whereName, args.symlinkData]

def SYMLINK3args.clipped (args : SYMLINK3args) : SYMLINK3args :=
  { args with whereName := clip args.whereName, symlinkData := clip args.symlinkData }

def MKNOD3args.strings (args : MKNOD3args) : List Bytes := [args.whereName]

def MKNOD3args.clipped (args : MKNOD3args) : MKNOD3args := { args with whereName := clip args.whereName }

def REMOVE3args.strings (args : REMOVE3args) : List Bytes := [args.objectName]

def REMOVE3args.clipped (args : REMOVE3args) : REMOVE3args :=
  { args with objectName := clip args.objectName }

def RMDIR3args.strings (args : RMDIR3args) : List Bytes := [args.objectName]

def RMDIR3args.clipped (args : RMDIR3args) : RMDIR3args := { args with objectName := clip args.objectName }

def RENAME3args.strings (args : RENAME3args) : List Bytes := [args.fromName, args.toName]

def RENAME3args.clipped (args : RENAME3args) : RENAME3args :=
  { args with fromName := clip args.fromName, toName := clip args.toName }

def LINK3args.strings (args : LINK3args) : List Bytes := [args.linkName]

def LINK3args.clipped (args : LINK3args) : LINK3args := { args with linkName := clip args.linkName }

/-- These are the strings that the arguments send. -/
def ProcNum.argsStrings : (proc : ProcNum) → proc.Args → List Bytes
  | .LOOKUP => LOOKUP3args.strings
  | .CREATE => CREATE3args.strings
  | .MKDIR => MKDIR3args.strings
  | .SYMLINK => SYMLINK3args.strings
  | .MKNOD => MKNOD3args.strings
  | .REMOVE => REMOVE3args.strings
  | .RMDIR => RMDIR3args.strings
  | .RENAME => RENAME3args.strings
  | .LINK => LINK3args.strings
  | _ => fun _ => []

def ProcNum.clippedArgs : (proc : ProcNum) → proc.Args → proc.Args
  | .LOOKUP => LOOKUP3args.clipped
  | .CREATE => CREATE3args.clipped
  | .MKDIR => MKDIR3args.clipped
  | .SYMLINK => SYMLINK3args.clipped
  | .MKNOD => MKNOD3args.clipped
  | .REMOVE => REMOVE3args.clipped
  | .RMDIR => RMDIR3args.clipped
  | .RENAME => RENAME3args.clipped
  | .LINK => LINK3args.clipped
  | _ => id

def READLINK3resok.strings (res : READLINK3resok) : List Bytes := [res.data]

def READLINK3resok.clipped (res : READLINK3resok) : READLINK3resok := { res with data := clip res.data }

def Entry3.clipped (entry : Entry3) : Entry3 := { entry with name := clip entry.name }

def READDIR3resok.strings (res : READDIR3resok) : List Bytes := res.reply.entries.map Entry3.name

def READDIR3resok.clipped (res : READDIR3resok) : READDIR3resok :=
  { res with reply.entries := res.reply.entries.map Entry3.clipped }

def Entryplus3.clipped (entry : Entryplus3) : Entryplus3 := { entry with name := clip entry.name }

def READDIRPLUS3resok.strings (res : READDIRPLUS3resok) : List Bytes := res.reply.entries.map Entryplus3.name

def READDIRPLUS3resok.clipped (res : READDIRPLUS3resok) : READDIRPLUS3resok :=
  { res with reply.entries := res.reply.entries.map Entryplus3.clipped }

def ProcNum.resokStrings : (proc : ProcNum) → proc.Resok → List Bytes
  | .READLINK => READLINK3resok.strings
  | .READDIR => READDIR3resok.strings
  | .READDIRPLUS => READDIRPLUS3resok.strings
  | _ => fun _ => []

def ProcNum.clippedResok : (proc : ProcNum) → proc.Resok → proc.Resok
  | .READLINK => READLINK3resok.clipped
  | .READDIR => READDIR3resok.clipped
  | .READDIRPLUS => READDIRPLUS3resok.clipped
  | _ => id

/-- A directory result needs one level of recursion for each entry. -/
def ProcNum.resokDepth : (proc : ProcNum) → proc.Resok → Nat
  | .READDIR => fun res : READDIR3resok => res.reply.entries.length
  | .READDIRPLUS => fun res : READDIRPLUS3resok => res.reply.entries.length
  | _ => fun _ => 0

def resStrings (proc : ProcNum) (res : Res proc.Resok) : List Bytes :=
  res.resok.toList.flatMap proc.resokStrings

def clippedRes (proc : ProcNum) (res : Res proc.Resok) : Res proc.Resok :=
  { res with resok := res.resok.map proc.clippedResok }

def resDepth (proc : ProcNum) (res : Res proc.Resok) : Nat := (res.resok.map proc.resokDepth).getD 0

/-- These are the strings that the reply sends. -/
def ProcNum.replyStrings : (proc : ProcNum) → proc.Reply → List Bytes
  | .GETATTR => resStrings .GETATTR
  | .SETATTR => resStrings .SETATTR
  | .LOOKUP => resStrings .LOOKUP
  | .ACCESS => resStrings .ACCESS
  | .READLINK => resStrings .READLINK
  | .READ => resStrings .READ
  | .WRITE => fun _ => []
  | .CREATE => resStrings .CREATE
  | .MKDIR => resStrings .MKDIR
  | .SYMLINK => resStrings .SYMLINK
  | .MKNOD => resStrings .MKNOD
  | .REMOVE => resStrings .REMOVE
  | .RMDIR => resStrings .RMDIR
  | .RENAME => resStrings .RENAME
  | .LINK => resStrings .LINK
  | .READDIR => resStrings .READDIR
  | .READDIRPLUS => resStrings .READDIRPLUS
  | .FSSTAT => resStrings .FSSTAT
  | .FSINFO => resStrings .FSINFO
  | .PATHCONF => resStrings .PATHCONF
  | .COMMIT => resStrings .COMMIT

def ProcNum.clippedReply : (proc : ProcNum) → proc.Reply → proc.Reply
  | .GETATTR => clippedRes .GETATTR
  | .SETATTR => clippedRes .SETATTR
  | .LOOKUP => clippedRes .LOOKUP
  | .ACCESS => clippedRes .ACCESS
  | .READLINK => clippedRes .READLINK
  | .READ => clippedRes .READ
  | .WRITE => id
  | .CREATE => clippedRes .CREATE
  | .MKDIR => clippedRes .MKDIR
  | .SYMLINK => clippedRes .SYMLINK
  | .MKNOD => clippedRes .MKNOD
  | .REMOVE => clippedRes .REMOVE
  | .RMDIR => clippedRes .RMDIR
  | .RENAME => clippedRes .RENAME
  | .LINK => clippedRes .LINK
  | .READDIR => clippedRes .READDIR
  | .READDIRPLUS => clippedRes .READDIRPLUS
  | .FSSTAT => clippedRes .FSSTAT
  | .FSINFO => clippedRes .FSINFO
  | .PATHCONF => clippedRes .PATHCONF
  | .COMMIT => clippedRes .COMMIT

def ProcNum.replyDepth : (proc : ProcNum) → proc.Reply → Nat
  | .GETATTR => resDepth .GETATTR
  | .SETATTR => resDepth .SETATTR
  | .LOOKUP => resDepth .LOOKUP
  | .ACCESS => resDepth .ACCESS
  | .READLINK => resDepth .READLINK
  | .READ => resDepth .READ
  | .WRITE => fun _ => 0
  | .CREATE => resDepth .CREATE
  | .MKDIR => resDepth .MKDIR
  | .SYMLINK => resDepth .SYMLINK
  | .MKNOD => resDepth .MKNOD
  | .REMOVE => resDepth .REMOVE
  | .RMDIR => resDepth .RMDIR
  | .RENAME => resDepth .RENAME
  | .LINK => resDepth .LINK
  | .READDIR => resDepth .READDIR
  | .READDIRPLUS => resDepth .READDIRPLUS
  | .FSSTAT => resDepth .FSSTAT
  | .FSINFO => resDepth .FSINFO
  | .PATHCONF => resDepth .PATHCONF
  | .COMMIT => resDepth .COMMIT

end Nfs3Rpc
