/-
This file states a file server behind a connection, and the server alone.
-/

import Nfs3Rpc.Encoding.Scripts
import Nfs3Rpc.Format.Sessions

namespace Nfs3Rpc
open Encoding Builtin SimpleRpc

/-- A server acts on what it can see of the arguments, and decodes them into fresh objects. -/
structure FileServer (σ : Type) where
  act : (proc : ProcNum) → proc.Args → σ → Res proc.Resok × σ
  sees : ∀ (proc : ProcNum) (args args' : proc.Args) (state : σ), proc.visibleArgs args = proc.visibleArgs args' →
    act proc args state = act proc args' state
  prior : (proc : ProcNum) → proc.Args
  fresh : ∀ proc : ProcNum, proc.FreshArgs (prior proc)

/-- A caller goes on with what it can see of a result. -/
def seen (proc : ProcNum) (result : Except Nfs3Error proc.Resok) : Except Nfs3Error proc.Resok :=
  result.map proc.visibleResok

/-- A client program calls any methods in any order, and each call may depend on the results before it. -/
abbrev Usage (α : Type) := Script NFS3TestClient.Method (fun proc => Except Nfs3Error proc.Resok) α

/-- Each call finds its own bytes in memory that is not initialized. -/
def NFS3TestClient.perform (memory : RPCEndpoint → Uninitialized) (proc : ProcNum)
    (method : NFS3TestClient.Method proc) :
    EStateM CallFault RPCEndpoint (Except Nfs3Error proc.Resok) := fun endpoint =>
  match method.run (memory endpoint) endpoint with
  | .ok result next => .ok (seen proc result) next
  | .error fault next => .error fault next

variable {σ : Type} (server : FileServer σ)

/-- Without a connection the server acts on the arguments of the method. -/
def FileServer.serve : Service NFS3TestClient.Method (fun proc => Except Nfs3Error proc.Resok) σ :=
  fun proc method state =>
    let (res, next) := server.act proc method.args state
    (seen proc (resultOf (.ok res)), next)

/-- The message of a call, and the reply of the server to it. -/
def callMessage (xid : UInt32) (asked : Asked NFS3TestClient.Method σ) : Bytes :=
  buildCall xid NFS_PROGRAM NFS_V3 asked.index.code (packed (asked.index.serializeArgs asked.op.args))

def FileServer.results (asked : Asked NFS3TestClient.Method σ) : Bytes :=
  packed (asked.index.serializeRes (server.act asked.index asked.op.args asked.state).1)

def FileServer.reply (xid : UInt32) (asked : Asked NFS3TestClient.Method σ) : Bytes :=
  Peer.successReply xid (server.results asked)

/-- Arguments and results can be encoded, and make messages shorter than the largest record. -/
structure FileServer.Allows (asked : Asked NFS3TestClient.Method σ) : Prop where
  args : asked.index.ArgsFit asked.op.args
  res : asked.index.ResFit (server.act asked.index asked.op.args asked.state).1
  shortCall : (packed (asked.index.serializeArgs asked.op.args)).length < 2 ^ 31 - 72
  shortReply : (server.results asked).length < 2 ^ 31 - 24

/-- These are the procedures with arguments. -/
def ProcNum.all : List ProcNum :=
  [.GETATTR, .SETATTR, .LOOKUP, .ACCESS, .READLINK, .READ, .WRITE, .CREATE, .MKDIR, .SYMLINK, .MKNOD, .REMOVE, .RMDIR,
    .RENAME, .LINK, .READDIR, .READDIRPLUS, .FSSTAT, .FSINFO, .PATHCONF, .COMMIT]

/-- The server takes a message apart, decodes the whole of its arguments, and encodes what it makes of them. -/
def FileServer.answer (message : Bytes) (state : σ) : Option (Bytes × σ) :=
  match Peer.callHeader message with
  | .error _ _ => none
  | .ok header body =>
      if header.prog ≠ NFS_PROGRAM ∨ header.vers ≠ NFS_V3 then
        none
      else
        match ProcNum.all.find? fun proc => proc.code = header.proc with
        | none => none
        | some proc =>
            match proc.deserializeArgs (server.prior proc) ⟨body, 0⟩ with
            | .error _ _ => none
            | .ok args buf =>
                if buf.pos ≠ body.length then
                  none
                else
                  let (res, next) := server.act proc args state
                  some (Peer.successReply header.xid (packed (proc.serializeRes res)), next)

def FileServer.answerAll : List Bytes → σ → Option (List Bytes × σ)
  | [], state => some ([], state)
  | message :: messages, state => do
      let (reply, next) ← server.answer message state
      let (replies, last) ← FileServer.answerAll messages next
      return (reply :: replies, last)

end Nfs3Rpc
