/-
This file states what the C codecs owe to the memory that their structures point to.
-/

import Nfs3Rpc.Format.Csuite.Walk

namespace Nfs3Rpc.Csuite
open Encoding

/-- The two pointers differ at most in what stands behind the first `len` bytes. -/
def Ptr.SameUpTo (len : UInt32) (source other : Ptr) : Prop := other.Holds len ∧ other.bytes len = source.bytes len

/-- The encoder sends the data of `data_len` bytes, whatever memory stands behind it, and the decoder takes
every field back into every destination. -/
def WRITE3argsT.RoundTrips (args : WRITE3argsT) : Prop :=
  ∀ (data : Ptr) (dest : WRITE3argsT), args.data.SameUpTo args.dataLen data → dest.Owned →
    ∀ (packed trailing : Bytes) (stack stale : Nat → UInt32) (pos depth : Nat), 4 ∣ packed.length →
      ∃ got stack' stale', xdrPackWRITE3args { args with data } ⟨⟨packed, pos⟩, stack, depth⟩ =
          .ok () ⟨⟨packed ++ args.message.wire, pos⟩, stack', depth⟩ ∧
        xdrUnpackWRITE3args dest ⟨⟨packed ++ args.message.wire ++ trailing, packed.length⟩, stale, depth⟩ =
          .ok got ⟨⟨packed ++ args.message.wire ++ trailing, packed.length + args.message.wire.length⟩, stale',
            depth⟩ ∧
        got.message = args.message ∧ got.dataLen = args.dataLen

/-- The length is zero, or the pointer has a block of at least this length. -/
def Ptr.Backs (source : Ptr) (len : UInt32) : Prop :=
  len = 0 ∨ ∃ data, source = .block data ∧ len.toNat ≤ data.length

def NfsFh3T.Valid (fh : NfsFh3T) : Prop := fh.data.Backs fh.len

/-- The encoder appends the handle to every buffer of whole words. -/
def NfsFh3T.Sendable (fh : NfsFh3T) : Prop :=
  ∀ (packed : Bytes) (stack : Nat → UInt32) (pos depth : Nat), 4 ∣ packed.length →
    ∃ stack', xdrPackNfsFh3 fh ⟨⟨packed, pos⟩, stack, depth⟩ =
      .ok () ⟨⟨packed ++ fh.message.wire, pos⟩, stack', depth⟩

/-- These operations change a handle; each decoder call has a buffer of its own. -/
inductive HandleOp where
  | set (buf : Ptr) (len : UInt32)
  | destroy
  | unpack (buf : XdrBufT)

def HandleOp.apply (op : HandleOp) (fh : NfsFh3T) : Run NfsFh3T :=
  match op with
  | .set buf len => nfsFh3Set fh buf len
  | .destroy => nfsFh3Destroy fh
  | .unpack buf => do
      modify fun machine => { machine with buf }
      xdrUnpackNfsFh3 fh

def applyAll : List HandleOp → NfsFh3T → Run NfsFh3T
  | [], fh => pure fh
  | op :: ops, fh => do
      let fh ← op.apply fh
      applyAll ops fh

/-- The caller of `nfs_fh3_set` passes as many bytes as it says. -/
def HandleOp.Legal : HandleOp → Prop
  | .set buf len => buf.Backs len
  | _ => True

/-- The bytes of the handle are there. -/
def HandleOp.Whole : HandleOp → Prop
  | .unpack buf => HoldsOpaque buf.data buf.pos
  | _ => True

/-- Every state of the run has a valid handle, whatever the uninitialized locals hold. -/
def StaysValid (start : NfsFh3T) (ops : List HandleOp) : Prop :=
  ∀ done, done <+: ops → ∀ machine, ∃ fh last, applyAll done start machine = .ok fh last ∧
    fh.Valid ∧ fh.Sendable

end Nfs3Rpc.Csuite
