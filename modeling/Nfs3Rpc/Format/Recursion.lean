/-
This file states the recursive decoders of the C++ suite as the source has them, with the recursive call as a
parameter and without a bound on its depth.
-/

import Nfs3Rpc.Construction.Builtin.Mount
import Nfs3Rpc.Encoding.Recursion

namespace Nfs3Rpc
open Encoding Builtin

/-- `entry3::deserialize` goes on with a new entry, which points to nothing. -/
def Entry3.body (call : List Entry3 → Xdr (List Entry3)) (nextentry : List Entry3) : Xdr (List Entry3) := do
  let fileid ← unpackUint64
  let name ← unpackString
  let cookie ← unpackUint64
  let hasNext ← unpackBool
  if hasNext then
    let entry ← call []
    return { fileid, name, cookie } :: entry
  else
    return { fileid, name, cookie } :: nextentry

/-- `entryplus3::deserialize` starts from the entry that it fills and from what that entry points to. -/
def Entryplus3.body (call : Entryplus3 × List Entryplus3 → Xdr (List Entryplus3))
    (prior : Entryplus3 × List Entryplus3) : Xdr (List Entryplus3) := do
  let fileid ← unpackUint64
  let name ← unpackString
  let cookie ← unpackUint64
  let nameHandle ← NfsFh3.deserialize
  let nameAttributes ← prior.1.nameAttributes.deserialize
  let hasNext ← unpackBool
  if hasNext then
    let entry ← call ({}, [])
    return { fileid, name, cookie, nameHandle, nameAttributes } :: entry
  else
    return { fileid, name, cookie, nameHandle, nameAttributes } :: prior.2

/-- One turn of the inner loop of `xdr_unpack_exports` and the turns that follow it. -/
def groupsBody (call : Unit → Xdr Unit) (_ : Unit) : Xdr Unit := do
  let hasGrp ← unpackBool
  if hasGrp then
    let _grp ← unpackString
    call ()

/-- One turn of the outer loop and the turns that follow it. -/
def exportsBody (call : List Bytes → Xdr (List Bytes)) (out : List Bytes) : Xdr (List Bytes) := do
  let hasEntry ← unpackBool
  if hasEntry then
    let dir ← unpackString
    let hasGroups ← unpackBool
    unpackGroupList hasGroups
    let more ← unpackBool
    if more then
      call (out ++ [dir])
    else
      return out ++ [dir]
  else
    return out

/-- A result keeps its prior `resok`, or it has a new one with this property. -/
def Res.Decoded {ok : Type} (self res : Res ok) (property : ok → Prop) : Prop :=
  (res.status ≠ .NFS3_OK ∧ res.resok = self.resok) ∨ ∃ resok, res.resok = some resok ∧ property resok

end Nfs3Rpc
