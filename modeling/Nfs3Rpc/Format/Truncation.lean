/-
This file states which part of a message the C++ codec needs.
The padding of a byte string is skipped unseen, so a message that ends in one can lose it.
-/

import Nfs3Rpc.Format.Arguments
import Nfs3Rpc.Format.Queues
import Nfs3Rpc.Format.Results

namespace Nfs3Rpc
open Encoding Builtin

/-- The last field of these arguments is a byte string, or it has no padding. -/
def ProcNum.argsPadding : (proc : ProcNum) → proc.Args → Nat
  | .GETATTR => fun args : GETATTR3args => padding args.object.data.length
  | .SETATTR => fun args : SETATTR3args => (args.guard.map fun fh => padding fh.data.length).getD 0
  | .LOOKUP => fun args : LOOKUP3args => padding args.whatName.length
  | .READLINK => fun args : READLINK3args => padding args.symlink.data.length
  | .WRITE => fun args : WRITE3args => padding args.data.length
  | .SYMLINK => fun args : SYMLINK3args => padding args.symlinkData.length
  | .REMOVE => fun args : REMOVE3args => padding args.objectName.length
  | .RMDIR => fun args : RMDIR3args => padding args.objectName.length
  | .RENAME => fun args : RENAME3args => padding args.toName.length
  | .LINK => fun args : LINK3args => padding args.linkName.length
  | .FSSTAT => fun args : FSSTAT3args => padding args.fsroot.data.length
  | .FSINFO => fun args : FSINFO3args => padding args.fsroot.data.length
  | .PATHCONF => fun args : PATHCONF3args => padding args.object.data.length
  | .ACCESS | .READ | .CREATE | .MKDIR | .MKNOD | .READDIR | .READDIRPLUS | .COMMIT => fun _ => 0

def ProcNum.resokPadding : (proc : ProcNum) → proc.Resok → Nat
  | .READLINK => fun res : READLINK3resok => padding res.data.length
  | .READ => fun res : READ3resok => padding res.data.length
  | .CREATE | .MKDIR | .SYMLINK | .MKNOD => fun res : NewObject => padding res.object.data.length
  | _ => fun _ => 0

/-- A failed result ends in its status. -/
def ProcNum.resPadding (proc : ProcNum) (res : Res proc.Resok) : Nat := (res.resok.map proc.resokPadding).getD 0

/-- A cut message is refused exactly when the cut is before the last padding. It leaves the cursor inside the
buffer in no other case. -/
def NoticesCuts {α : Type} (serialize : α → Xdr Unit) (deserialize : α → Xdr α) (Fresh Fits : α → Prop)
    (lastPadding : α → Nat) : Prop :=
  ∀ value, Fits value → ∀ prior, Fresh prior →
    ∃ wire, serialize value XdrBuffer.empty = .ok () ⟨wire, 0⟩ ∧
    ∀ cut, cut < wire.length →
      ((∃ error last, deserialize prior ⟨wire.take cut, 0⟩ = .error error last) ↔
        cut + lastPadding value < wire.length) ∧
      ((∀ got last, deserialize prior ⟨wire.take cut, 0⟩ = .ok got last → last.pos ≤ last.buffer.length) ↔
        cut + lastPadding value < wire.length)

/-- This many bytes from the cursor on belong to a value of the type, by the length word that stands there. -/
def Primitive.extent (buf : XdrBuffer) : Primitive → Nat
  | .int32 | .uint32 | .bool => 4
  | .uint64 => 8
  | .string | .varOpaque =>
      let len := (leadingWord (buf.buffer.drop buf.pos)).toNat
      4 + len + padding len

/-- An unpack that returns leaves the cursor inside the buffer exactly when the whole value lies there. -/
def Primitive.StaysInside (kind : Primitive) : Prop :=
  ∀ buf got next, Builtin.unpackItem kind buf = .ok got next →
    (next.pos ≤ next.buffer.length ↔ buf.pos + kind.extent buf ≤ buf.buffer.length)

end Nfs3Rpc
