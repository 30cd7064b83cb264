/-
This file is `nfs3_client.cpp` of the built-in build.
Every method fills one argument structure and runs the same call, so the methods share `invoke`.
-/

import Nfs3Rpc.Construction.Builtin.Endpoint

namespace Nfs3Rpc
open Encoding Builtin SimpleRpc

inductive Nfs3Error where
  | OK | BADHANDLE | NOT_SYNC | BAD_COOKIE | NOTSUPP | TOOSMALL | SERVERFAULT | BADTYPE | JUKEBOX | RPC_ERROR
  deriving DecidableEq

/-- The part of a method that follows its call. -/
def resultOf {ok : Type} : Except RpcError (Res ok) → Except Nfs3Error ok
  | .error _ => .error .RPC_ERROR
  | .ok result =>
      if result.status ≠ .NFS3_OK then
        .error .SERVERFAULT
      else
        match result.resok with
        | none => .error .SERVERFAULT
        | some resok => .ok resok

/-- A method runs against the endpoint that the test client owns. -/
abbrev NFS3TestClient.Run (proc : ProcNum) :=
  Uninitialized → EStateM CallFault RPCEndpoint (Except Nfs3Error proc.Resok)

/-- Every method ends in this call. -/
def NFS3TestClient.invoke (proc : ProcNum) (args : proc.Args) : NFS3TestClient.Run proc := fun memory => do
  let result ← RPCEndpoint.call memory proc args
  return resultOf result

namespace NFS3TestClient

def getattr (object : NfsFh3) : Run .GETATTR := invoke .GETATTR ({ object } : GETATTR3args)

def setattr (object : NfsFh3) (newAttributes : Sattr3) : Run .SETATTR :=
  invoke .SETATTR ({ object, newAttributes, guard := none } : SETATTR3args)

def lookup (dir : NfsFh3) (name : Bytes) : Run .LOOKUP :=
  invoke .LOOKUP ({ whatDir := dir, whatName := name } : LOOKUP3args)

def access (object : NfsFh3) (accessMask : UInt32) : Run .ACCESS :=
  invoke .ACCESS ({ object, access := accessMask } : ACCESS3args)

def readlink (symlink : NfsFh3) : Run .READLINK := invoke .READLINK ({ symlink } : READLINK3args)

def read (file : NfsFh3) (offset : UInt64) (count : UInt32) : Run .READ :=
  invoke .READ ({ file, offset, count } : READ3args)

def write (file : NfsFh3) (offset : UInt64) (stable : StableHow) (data : Bytes) : Run .WRITE :=
  invoke .WRITE ({ file, offset, count := UInt32.ofNat data.length, stable, data } : WRITE3args)

def create (dir : NfsFh3) (name : Bytes) (mode : Createmode3) (attributes : Sattr3) : Run .CREATE :=
  invoke .CREATE
    ({ whereDir := dir, whereName := name, howMode := mode, howAttributes := attributes, howVerf := .zero } :
      CREATE3args)

def mkdir (dir : NfsFh3) (name : Bytes) (attributes : Sattr3) : Run .MKDIR :=
  invoke .MKDIR ({ whereDir := dir, whereName := name, attributes } : MKDIR3args)

def symlink (dir : NfsFh3) (name : Bytes) (attributes : Sattr3) (data : Bytes) : Run .SYMLINK :=
  invoke .SYMLINK
    ({ whereDir := dir, whereName := name, symlinkAttributes := attributes, symlinkData := data } :
      SYMLINK3args)

def mknod (dir : NfsFh3) (name : Bytes) (type : Ftype4) (attributes : Sattr3) : Run .MKNOD :=
  invoke .MKNOD
    ({ whereDir := dir, whereName := name, whatType := type, whatAttributes := attributes } :
      MKNOD3args)

def remove (dir : NfsFh3) (name : Bytes) : Run .REMOVE :=
  invoke .REMOVE ({ objectDir := dir, objectName := name } : REMOVE3args)

def rmdir (dir : NfsFh3) (name : Bytes) : Run .RMDIR :=
  invoke .RMDIR ({ objectDir := dir, objectName := name } : RMDIR3args)

def renameOp (fromDir : NfsFh3) (fromName : Bytes) (toDir : NfsFh3) (toName : Bytes) : Run .RENAME :=
  invoke .RENAME ({ fromDir, fromName, toDir, toName } : RENAME3args)

def link (file linkDir : NfsFh3) (linkName : Bytes) : Run .LINK :=
  invoke .LINK ({ file, linkDir, linkName } : LINK3args)

def readdir (dir : NfsFh3) (cookie cookieverf : UInt64) (count : UInt32) : Run .READDIR :=
  invoke .READDIR ({ dir, cookie, cookieverf, count } : READDIR3args)

def readdirplus (dir : NfsFh3) (cookie cookieverf : UInt64) (dircount maxcount : UInt32) : Run .READDIRPLUS :=
  invoke .READDIRPLUS ({ dir, cookie, cookieverf, dircount, maxcount } : READDIRPLUS3args)

def fsstat (fsroot : NfsFh3) : Run .FSSTAT := invoke .FSSTAT ({ fsroot } : FSSTAT3args)

def fsinfo (fsroot : NfsFh3) : Run .FSINFO := invoke .FSINFO ({ fsroot } : FSINFO3args)

def pathconf (object : NfsFh3) : Run .PATHCONF := invoke .PATHCONF ({ object } : PATHCONF3args)

def commit (file : NfsFh3) (offset : UInt64) (count : UInt32) : Run .COMMIT :=
  invoke .COMMIT ({ file, offset, count } : COMMIT3args)

/-- A method call is the method with its parameters, indexed by the procedure that it runs. -/
inductive Method : ProcNum → Type where
  | getattr (object : NfsFh3) : Method .GETATTR
  | setattr (object : NfsFh3) (newAttributes : Sattr3) : Method .SETATTR
  | lookup (dir : NfsFh3) (name : Bytes) : Method .LOOKUP
  | access (object : NfsFh3) (accessMask : UInt32) : Method .ACCESS
  | readlink (symlink : NfsFh3) : Method .READLINK
  | read (file : NfsFh3) (offset : UInt64) (count : UInt32) : Method .READ
  | write (file : NfsFh3) (offset : UInt64) (stable : StableHow) (data : Bytes) : Method .WRITE
  | create (dir : NfsFh3) (name : Bytes) (mode : Createmode3) (attributes : Sattr3) : Method .CREATE
  | mkdir (dir : NfsFh3) (name : Bytes) (attributes : Sattr3) : Method .MKDIR
  | symlink (dir : NfsFh3) (name : Bytes) (attributes : Sattr3) (data : Bytes) : Method .SYMLINK
  | mknod (dir : NfsFh3) (name : Bytes) (type : Ftype4) (attributes : Sattr3) : Method .MKNOD
  | remove (dir : NfsFh3) (name : Bytes) : Method .REMOVE
  | rmdir (dir : NfsFh3) (name : Bytes) : Method .RMDIR
  | renameOp (fromDir : NfsFh3) (fromName : Bytes) (toDir : NfsFh3) (toName : Bytes) : Method .RENAME
  | link (file linkDir : NfsFh3) (linkName : Bytes) : Method .LINK
  | readdir (dir : NfsFh3) (cookie cookieverf : UInt64) (count : UInt32) : Method .READDIR
  | readdirplus (dir : NfsFh3) (cookie cookieverf : UInt64) (dircount maxcount : UInt32) : Method .READDIRPLUS
  | fsstat (fsroot : NfsFh3) : Method .FSSTAT
  | fsinfo (fsroot : NfsFh3) : Method .FSINFO
  | pathconf (object : NfsFh3) : Method .PATHCONF
  | commit (file : NfsFh3) (offset : UInt64) (count : UInt32) : Method .COMMIT

def Method.run : {proc : ProcNum} → Method proc → Run proc
  | _, .getattr object => NFS3TestClient.getattr object
  | _, .setattr object newAttributes => NFS3TestClient.setattr object newAttributes
  | _, .lookup dir name => NFS3TestClient.lookup dir name
  | _, .access object accessMask => NFS3TestClient.access object accessMask
  | _, .readlink fh => NFS3TestClient.readlink fh
  | _, .read file offset count => NFS3TestClient.read file offset count
  | _, .write file offset stable data => NFS3TestClient.write file offset stable data
  | _, .create dir name mode attributes => NFS3TestClient.create dir name mode attributes
  | _, .mkdir dir name attributes => NFS3TestClient.mkdir dir name attributes
  | _, .symlink dir name attributes data => NFS3TestClient.symlink dir name attributes data
  | _, .mknod dir name type attributes => NFS3TestClient.mknod dir name type attributes
  | _, .remove dir name => NFS3TestClient.remove dir name
  | _, .rmdir dir name => NFS3TestClient.rmdir dir name
  | _, .renameOp fromDir fromName toDir toName => NFS3TestClient.renameOp fromDir fromName toDir toName
  | _, .link file linkDir linkName => NFS3TestClient.link file linkDir linkName
  | _, .readdir dir cookie cookieverf count => NFS3TestClient.readdir dir cookie cookieverf count
  | _, .readdirplus dir cookie cookieverf dircount maxcount =>
      NFS3TestClient.readdirplus dir cookie cookieverf dircount maxcount
  | _, .fsstat fsroot => NFS3TestClient.fsstat fsroot
  | _, .fsinfo fsroot => NFS3TestClient.fsinfo fsroot
  | _, .pathconf object => NFS3TestClient.pathconf object
  | _, .commit file offset count => NFS3TestClient.commit file offset count

end NFS3TestClient

end Nfs3Rpc
