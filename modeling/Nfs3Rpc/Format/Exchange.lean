/-
This file states one RPC exchange of RFC 5531 from the side of the peer.
The peer takes a record off the stream, reads the call header, and answers with one record.
-/

import Nfs3Rpc.Construction.Builtin.Client
import Nfs3Rpc.Format.Arguments
import Nfs3Rpc.Format.Results

namespace Nfs3Rpc
open Encoding Builtin SimpleRpc

namespace Peer

/-- The peer reads from the front of its bytes and stops at the first one that is missing. -/
abbrev Read := EStateM Unit Bytes

def bytes (count : Nat) : Read Bytes := do
  let input ← get
  if input.length < count then
    throw ()
  set (input.drop count)
  return input.take count

def uint : Read UInt32 := do
  let data ← bytes 4
  return leadingWord data

def expect (value : UInt32) : Read Unit := do
  let got ← uint
  if got ≠ value then
    throw ()

def varOpaque : Read Bytes := do
  let length ← uint
  let data ← bytes length.toNat
  let _ ← bytes (padding length.toNat)
  return data

/-- A record of one fragment has the top bit of its mark set; the other bits are its length. -/
def record : Read Bytes := do
  let mark ← uint
  if mark.toNat < 2 ^ 31 then
    throw ()
  bytes (mark.toNat - 2 ^ 31)

structure OpaqueAuth where
  flavor : UInt32
  body : Bytes
  deriving DecidableEq

def opaqueAuth : Read OpaqueAuth := do
  let flavor ← uint
  let body ← varOpaque
  return ⟨flavor, body⟩

structure CallHeader where
  xid : UInt32
  prog : UInt32
  vers : UInt32
  proc : UInt32
  cred : OpaqueAuth
  verf : OpaqueAuth
  deriving DecidableEq

def callHeader : Read CallHeader := do
  let xid ← uint
  expect 0
  expect 2
  let prog ← uint
  let vers ← uint
  let proc ← uint
  let cred ← opaqueAuth
  let verf ← opaqueAuth
  return { xid, prog, vers, proc, cred, verf }

/-- One last fragment carries the message. -/
def recordWire (message : Bytes) : Bytes := be32 (UInt32.ofNat (2 ^ 31 + message.length)) ++ message

/-- The accepted reply has an AUTH_NONE verifier without body, and the accept status SUCCESS. -/
def successReply (xid : UInt32) (results : Bytes) : Bytes :=
  [be32 xid, be32 1, be32 0, be32 0, be32 0, be32 0, results].flatten

end Peer

/-- These are the bytes that a writer leaves in an empty buffer. -/
def packed (program : Xdr Unit) : Bytes :=
  match program XdrBuffer.empty with
  | .ok _ buf => buf.buffer
  | .error _ buf => buf.buffer

/-- The caller gets the `resok` of a successful call, and SERVERFAULT for every other status. -/
def CallerReturns (proc : ProcNum) (res : Res proc.Resok) (result : Except Nfs3Error proc.Resok) : Prop :=
  (res.status = .NFS3_OK → ∃ resok ∈ res.resok, ∃ got,
    result = .ok got ∧ proc.visibleResok got = proc.visibleResok resok) ∧
  (res.status ≠ .NFS3_OK → result = .error .SERVERFAULT)

/-- The kernel may split and interrupt the writes, but each `poll` succeeds and no call fails. -/
def WritesThrough (event : IoEvent) : Prop := event ≠ .failed ∧ event ≠ .blocked false

/-- A read that moves nothing would be the end of the stream. -/
def ReadsThrough (event : IoEvent) : Prop := WritesThrough event ∧ event ≠ .moved 0

/-- These are the arguments that each method is meant to send. -/
def NFS3TestClient.Method.args : {proc : ProcNum} → NFS3TestClient.Method proc → proc.Args
  | _, .getattr object => ({ object } : GETATTR3args)
  | _, .setattr object newAttributes => ({ object, newAttributes, guard := none } : SETATTR3args)
  | _, .lookup dir name => ({ whatDir := dir, whatName := name } : LOOKUP3args)
  | _, .access object accessMask => ({ object, access := accessMask } : ACCESS3args)
  | _, .readlink fh => ({ symlink := fh } : READLINK3args)
  | _, .read file offset count => ({ file, offset, count } : READ3args)
  | _, .write file offset stable data =>
      ({ file, offset, count := UInt32.ofNat data.length, stable, data } : WRITE3args)
  | _, .create dir name mode attributes =>
      ({ whereDir := dir, whereName := name, howMode := mode, howAttributes := attributes, howVerf := .zero } :
        CREATE3args)
  | _, .mkdir dir name attributes => ({ whereDir := dir, whereName := name, attributes } : MKDIR3args)
  | _, .symlink dir name attributes data =>
      ({ whereDir := dir, whereName := name, symlinkAttributes := attributes, symlinkData := data } :
        SYMLINK3args)
  | _, .mknod dir name type attributes =>
      ({ whereDir := dir, whereName := name, whatType := type, whatAttributes := attributes } : MKNOD3args)
  | _, .remove dir name => ({ objectDir := dir, objectName := name } : REMOVE3args)
  | _, .rmdir dir name => ({ objectDir := dir, objectName := name } : RMDIR3args)
  | _, .renameOp fromDir fromName toDir toName => ({ fromDir, fromName, toDir, toName } : RENAME3args)
  | _, .link file linkDir linkName => ({ file, linkDir, linkName } : LINK3args)
  | _, .readdir dir cookie cookieverf count => ({ dir, cookie, cookieverf, count } : READDIR3args)
  | _, .readdirplus dir cookie cookieverf dircount maxcount =>
      ({ dir, cookie, cookieverf, dircount, maxcount } : READDIRPLUS3args)
  | _, .fsstat fsroot => ({ fsroot } : FSSTAT3args)
  | _, .fsinfo fsroot => ({ fsroot } : FSINFO3args)
  | _, .pathconf object => ({ object } : PATHCONF3args)
  | _, .commit file offset count => ({ file, offset, count } : COMMIT3args)

end Nfs3Rpc
