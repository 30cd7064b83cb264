/-
This file is the libtirpc branch of `mount_client.cpp`: the two filters of its replies.
-/

import Nfs3Rpc.Construction.Tirpc.Filters

namespace Nfs3Rpc.Tirpc
open Encoding

/-- The mount client uses one more primitive of the library. -/
structure MountLibrary (σ : Type) extends Libtirpc σ where
  xdrBool : XdrOp → Bool → Filter σ Bool

/-- The client clears the object before the call. -/
structure Fhstatus where
  fhsStatus : UInt32 := 0
  fhsFhandle : Bytes := []
  authFlavors : List Int32 := []
  deriving DecidableEq

/-- A null pointer is false, and any other pointer is followed to its first character. -/
def startsText {σ : Type} (ptr : CharPtr) : Filter σ Bool :=
  match ptr with
  | .null => return false
  | .heap (first :: _) | .inner (first :: _) => return first != 0
  | _ => throw .invalidMemory

section
variable {σ : Type} (lib : MountLibrary σ) (op : XdrOp)

/-- Each turn of the decoding loop appends one flavor. -/
def takeFlavors (authFlavors : List Int32) : Nat → Filter σ (List Int32)
  | 0 => return authFlavors
  | turns + 1 => do
      let flavor ← lib.xdrInt op 0
      takeFlavors (authFlavors ++ [flavor]) turns

def putFlavors : List Int32 → Filter σ Unit
  | [] => return
  | flavor :: later => do
      let _ ← lib.xdrInt op flavor
      putFlavors later

/-- Only a decoder stops after ten flavors; nothing frees the memory of the handle. -/
def xdrFhstatus (obj : Fhstatus) : Filter σ Fhstatus := do
  let fhsStatus ← lib.xdrUInt op obj.fhsStatus
  if fhsStatus == 0 then
    match op with
    | .XDR_DECODE =>
      let (ptr, len) ← lib.xdrBytes op .null 0 64
      let fhsFhandle ← assign ptr len
      let authCount ← lib.xdrUInt op 0
      let authFlavors ← takeFlavors lib op obj.authFlavors (min authCount.toNat 10)
      return { fhsStatus, fhsFhandle, authFlavors }
    | .XDR_ENCODE =>
      let _ ← lib.xdrBytes op (vectorData obj.fhsFhandle) (UInt32.ofNat obj.fhsFhandle.length) 64
      let _ ← lib.xdrUInt op (UInt32.ofNat obj.authFlavors.length)
      putFlavors lib op obj.authFlavors
      return { obj with fhsStatus }
    | .XDR_FREE => return { obj with fhsStatus }
  else
    return { obj with fhsStatus }

/-- Every name after the first goes into the memory of the first. -/
def xdrGroups (grp : CharPtr) : Nat → Filter σ Unit
  | 0 => throw .endless
  | rounds + 1 => do
      let hasGrp ← lib.xdrBool .XDR_DECODE false
      if hasGrp then
        let grp ← lib.xdrString .XDR_DECODE grp 256
        xdrGroups grp rounds

def xdrGroupList (hasGroups : Bool) : Filter σ Unit := do
  if hasGroups then
    let stream ← get
    xdrGroups lib .null (lib.unread stream + 1)

/-- The list takes a path up to its first zero byte, and leaves an empty path out. -/
def pushPath (result : List Bytes) (dir : CharPtr) : Filter σ (List Bytes) := do
  if ← startsText dir then
    let path ← stringFrom dir
    return result ++ [path]
  else
    return result

/-- One more word after the groups decides whether the loop goes on. -/
def xdrExports (result : List Bytes) : Nat → Filter σ (List Bytes)
  | 0 => throw .endless
  | rounds + 1 => do
      let hasEntry ← lib.xdrBool .XDR_DECODE false
      if hasEntry then
        let dir ← lib.xdrString .XDR_DECODE .null 1024
        let result ← pushPath result dir
        let hasGroups ← lib.xdrBool .XDR_DECODE false
        xdrGroupList lib hasGroups
        let more ← lib.xdrBool .XDR_DECODE true
        if more then
          xdrExports result rounds
        else
          return result
      else
        return result

/-- This filter only decodes a result, and each round of its loops reads a word. -/
def xdrExportsList (result : List Bytes) : Filter σ (List Bytes) := do
  let stream ← get
  xdrExports lib result (lib.unread stream + 1)

end

end Nfs3Rpc.Tirpc
