/-
This file relates the values of the two suites and states when their encoders agree.
-/

import Nfs3Rpc.Construction.Builtin.Client
import Nfs3Rpc.Format.Csuite.Wire

namespace Nfs3Rpc
open Encoding Builtin Csuite

/-- Both suites declare these arguments with the same fields in the same order. -/
def ProcNum.sharesArgs : ProcNum → Bool
  | .SETATTR | .CREATE | .MKDIR | .SYMLINK | .MKNOD => false
  | _ => true

def ProcNum.sharesRes : ProcNum → Bool
  | .READ | .WRITE | .CREATE | .MKDIR | .SYMLINK | .MKNOD | .READDIRPLUS | .COMMIT => false
  | _ => true

/-- The C++ result of a reply has the same status and the same `resok`; only WRITE has another shape. -/
def ProcNum.replyRes : (proc : ProcNum) → proc.Reply → Option (Res proc.Resok)
  | .GETATTR => some
  | .SETATTR => some
  | .LOOKUP => some
  | .ACCESS => some
  | .READLINK => some
  | .READ => some
  | .WRITE => fun _ => none
  | .CREATE => some
  | .MKDIR => some
  | .SYMLINK => some
  | .MKNOD => some
  | .REMOVE => some
  | .RMDIR => some
  | .RENAME => some
  | .LINK => some
  | .READDIR => some
  | .READDIRPLUS => some
  | .FSSTAT => some
  | .FSINFO => some
  | .PATHCONF => some
  | .COMMIT => some

/-- Two values are the same arguments when a reader can see no difference. -/
def ProcNum.SameArgs (proc : ProcNum) (c : proc.ArgsT) (cpp : proc.Args) : Prop :=
  proc.messageArgs c = proc.visibleArgs cpp

def ProcNum.SameRes (proc : ProcNum) (c : proc.ResT) (cpp : Res proc.Resok) : Prop :=
  proc.replyRes (proc.messageRes c) = some (proc.visibleRes cpp)

/-- Both encoders append the same bytes to the same aligned buffer. -/
def SameBytes (pack : Run Unit) (serialize : Xdr Unit) : Prop :=
  ∀ (packed : Bytes) (stack : Nat → UInt32) (pos depth : Nat), 4 ∣ packed.length →
    ∃ bytes stack', pack ⟨⟨packed, pos⟩, stack, depth⟩ =
      .ok () ⟨⟨packed ++ bytes, pos⟩, stack', depth⟩ ∧
      serialize ⟨packed, pos⟩ = .ok () ⟨packed ++ bytes, pos⟩

/-- A new C++ object decodes a successful result from the bytes of the C encoder and shows what is expected. -/
def Interoperates {β : Type} (proc : ProcNum) (pack : Run Unit) (view : proc.Resok → β) (expected : β) : Prop :=
  ∀ (uninit : Verifier) (prior : Res proc.Resok) (stack : Nat → UInt32) (depth : Nat), proc.FreshRes prior →
    ∃ bytes stack' got buf, pack ⟨⟨[], 0⟩, stack, depth⟩ = .ok () ⟨⟨bytes, 0⟩, stack', depth⟩ ∧
      proc.deserializeRes uninit prior ⟨bytes, 0⟩ = .ok got buf ∧ got.status = .NFS3_OK ∧
      got.resok.map view = some expected

/-- A C++ WRITE result shows the attributes after the operation and the three plain fields. -/
def Csuite.WRITE3resokT.shown (res : WRITE3resokT) : WRITE3resok :=
  ⟨res.fileWcc.after.message, res.count, res.committed, res.verf⟩

/-- These 21 words repeat the six words of the prior attributes and a true flag. -/
def repeatedFattr3 (prior : WccAttr) : Fattr3 :=
  { type := ⟨highWord prior.size⟩
    mode := lowWord prior.size
    nlink := prior.mtime.seconds
    uid := prior.mtime.nseconds
    gid := prior.ctime.seconds
    size := hyper prior.ctime.nseconds 1
    used := prior.size
    rdev := ⟨prior.mtime.seconds, prior.mtime.nseconds⟩
    fsid := hyper prior.ctime.seconds prior.ctime.nseconds
    fileid := hyper 1 (highWord prior.size)
    atime := ⟨lowWord prior.size, prior.mtime.seconds⟩
    mtime := ⟨prior.mtime.nseconds, prior.ctime.seconds⟩
    ctime := ⟨prior.ctime.nseconds, 1⟩ }

/-- A shift by seven words leaves such a result unchanged. -/
def Csuite.WRITE3resokT.Repeats (res : WRITE3resokT) : Prop :=
  let prior := res.fileWcc.before.attributes
  res.fileWcc.before.check ≠ 0 ∧ res.fileWcc.after.follow ≠ 0 ∧
    res.fileWcc.after.attributes = repeatedFattr3 prior ∧ res.count = highWord prior.size ∧
    res.committed = ⟨lowWord prior.size⟩ ∧ 8 ≤ prior.mtime.seconds.toNat ∧
    prior.mtime.seconds.toNat ≤ 32 ∧
    res.verf.data = be32 prior.mtime.nseconds ++ be32 prior.ctime.seconds

/-- The C++ decoder takes every nonzero word for a true flag. -/
inductive PostOpAttr.Encoded : PostOpAttr → Bytes → Prop
  | absent : Encoded {} (be32 0)
  | present {flag : UInt32} (set : flag ≠ 0) (attributes : Fattr3) :
      Encoded ⟨true, attributes⟩ (be32 flag ++ attributes.wire)

inductive PreOpAttr.Encoded : PreOpAttr → Bytes → Prop
  | absent : Encoded {} (be32 0)
  | present {flag : UInt32} (set : flag ≠ 0) (attributes : WccAttr) :
      Encoded ⟨true, attributes⟩ (be32 flag ++ attributes.wire)

inductive WccData.Encoded : WccData → Bytes → Prop
  | both {before : PreOpAttr} {after : PostOpAttr} {first second : Bytes} :
      before.Encoded first → after.Encoded second → Encoded ⟨before, after⟩ (first ++ second)

/-- Such a result has neither a handle nor attributes. -/
def Csuite.NewObjectT.Bare (res : NewObjectT) : Prop :=
  res.object.len = 0 ∧ res.objAttributes.follow = 0 ∧ res.dirWcc.before.check = 0 ∧ res.dirWcc.after.follow = 0

/-- The bytes from the handle on start again with the attributes, the directory data, and the handle. -/
def Csuite.NewObjectT.Repeats (res : NewObjectT) : Prop :=
  let handle := res.object.message
  let attributes := res.objAttributes.attributes.wire
  res.object.len ≠ 0 ∧ res.objAttributes.follow ≠ 0 ∧ ∃ wcc, res.dirWcc.message.Encoded wcc ∧
    [attributes, wcc, be32 res.object.len, handle.data].flatten <+:
      [handle.wire, be32 1, attributes, res.dirWcc.message.wire].flatten

/-- Such an entry has neither attributes nor a handle. -/
def Csuite.Entryplus3T.Plain (e : Entryplus3T) : Prop :=
  Short e.name.cstring ∧ e.nameAttributes.follow = 0 ∧ e.nameHandle.len = 0

/-- Each of these 21 words is one. -/
def onesFattr3 : Fattr3 :=
  { type := ⟨1⟩
    mode := 1
    nlink := 1
    uid := 1
    gid := 1
    size := hyper 1 1
    used := hyper 1 1
    rdev := ⟨1, 1⟩
    fsid := hyper 1 1
    fileid := hyper 1 1
    atime := ⟨1, 1⟩
    mtime := ⟨1, 1⟩
    ctime := ⟨1, 1⟩ }

/-- A shift by two words leaves the attributes and the handle of such an entry unchanged. -/
def Csuite.Entryplus3T.Ones (e : Entryplus3T) : Prop :=
  Short e.name.cstring ∧ e.nameAttributes.follow ≠ 0 ∧ e.nameAttributes.attributes = onesFattr3 ∧
    e.nameHandle.message.data = [0]

/-- Only the last entry can be other than plain. -/
def ReadAlike : List Entryplus3T → Prop
  | [] => True
  | [e] => e.Plain ∨ e.Ones
  | e :: nextentry => e.Plain ∧ ReadAlike nextentry

end Nfs3Rpc
