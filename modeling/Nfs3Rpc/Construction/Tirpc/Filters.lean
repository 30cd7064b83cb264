/-
This file is the shared part of `nfs3_xdr.cpp`: the filters of the libtirpc build.
One filter serves both directions; the primitive filters come from libtirpc and are a parameter.
-/

import Nfs3Rpc.Construction.Builtin.Attributes

namespace Nfs3Rpc.Tirpc
open Encoding

/-- The field `x_op` of a stream selects the direction of a filter. -/
inductive XdrOp where
  | XDR_ENCODE
  | XDR_DECODE
  | XDR_FREE
  deriving DecidableEq

/-- A filter stops at `return FALSE`, at an exception, or at an access that C++ does not define. -/
inductive FilterError where
  | returnFalse
  | badOptionalAccess
  | invalidMemory
  | endless
  deriving DecidableEq

/-- The state of a filter is the stream behind its `XDR`. -/
abbrev Filter (σ α : Type) := EStateM FilterError σ α

/-- A `char *` is null, points to memory from the library, or points into a C++ object. -/
inductive CharPtr where
  | null
  | heap (block : Bytes)
  | inner (block : Bytes)
  deriving DecidableEq

def CharPtr.memory : CharPtr → Bytes
  | .null => []
  | .heap block => block
  | .inner block => block

/-- A fixed array of characters keeps its size. -/
abbrev CharArray (size : Nat) := { data : Bytes // data.length = size }

/-- Each primitive takes the direction and the present value of its object. -/
structure Libtirpc (σ : Type) where
  written : σ → Bytes
  unread : σ → Nat
  xdrUInt : XdrOp → UInt32 → Filter σ UInt32
  xdrInt : XdrOp → Int32 → Filter σ Int32
  xdrUHyper : XdrOp → UInt64 → Filter σ UInt64
  xdrOpaque : XdrOp → {size : Nat} → CharArray size → Filter σ (CharArray size)
  xdrBytes : XdrOp → CharPtr → UInt32 → UInt32 → Filter σ (CharPtr × UInt32)
  xdrString : XdrOp → CharPtr → UInt32 → Filter σ CharPtr

variable {σ : Type}

/-- Memory inside a C++ object is not for `free`. -/
def free (ptr : CharPtr) : Filter σ Unit :=
  match ptr with
  | .inner _ => throw .invalidMemory
  | _ => pure ()

/-- A string object copies up to the first zero byte. -/
def stringFrom (ptr : CharPtr) : Filter σ Bytes :=
  if 0 ∈ ptr.memory then
    return ptr.memory.takeWhile (· != 0)
  else
    throw .invalidMemory

/-- A vector copies the given count of bytes. -/
def assign (ptr : CharPtr) (len : UInt32) : Filter σ Bytes :=
  if len.toNat ≤ ptr.memory.length then
    return ptr.memory.take len.toNat
  else
    throw .invalidMemory

/-- A C string has a zero byte after its characters. -/
def cStr (s : Bytes) : CharPtr := .inner (s ++ [0])

/-- An empty vector has no memory. -/
def vectorData (data : Bytes) : CharPtr := if data.isEmpty then .null else .inner data

def optionalValue {α : Type} (obj : Option α) : Filter σ α :=
  match obj with
  | some value => pure value
  | none => throw .badOptionalAccess

section
variable (lib : Libtirpc σ) (op : XdrOp)

/-- An enumeration travels through a word of its own. -/
def xdrWord (obj : UInt32) : Filter σ UInt32 := do
  let val ← lib.xdrUInt op (if op = .XDR_ENCODE then obj else 0)
  return if op = .XDR_DECODE then val else obj

def xdrFlag (obj : Bool) : Filter σ Bool := do
  let val ← lib.xdrUInt op (if op = .XDR_ENCODE ∧ obj then 1 else 0)
  return if op = .XDR_DECODE then val != 0 else obj

/-- An optional field travels after a word that tells whether it is present. -/
def xdrOptional {α : Type} (filter : α → Filter σ α) (zero : α) (obj : Option α) : Filter σ (Option α) := do
  let val ← lib.xdrUInt op (if op = .XDR_ENCODE ∧ obj.isSome then 1 else 0)
  if val != 0 then
    let start ← if op = .XDR_ENCODE then optionalValue obj else pure zero
    let value ← filter start
    return if op = .XDR_DECODE then some value else obj
  else
    return if op = .XDR_DECODE then none else obj

/-- The pointer of a name leads into the string itself, in every direction. -/
def xdrName (maxsize : UInt32) (obj : Bytes) : Filter σ Bytes := do
  let namePtr ← lib.xdrString op (cStr obj) maxsize
  if op = .XDR_DECODE then
    let name ← stringFrom namePtr
    free namePtr
    return name
  else
    return obj

/-- A decoder leaves the memory of the text to the library. -/
def xdrText (maxsize : UInt32) (obj : Bytes) : Filter σ Bytes := do
  let dataPtr ← lib.xdrString op (if op = .XDR_ENCODE then cStr obj else .null) maxsize
  if op = .XDR_DECODE then
    let data ← stringFrom dataPtr
    free dataPtr
    return data
  else
    return obj

def xdrSpecdata3 (obj : Specdata3) : Filter σ Specdata3 := do
  let specdata1 ← lib.xdrUInt op obj.specdata1
  let specdata2 ← lib.xdrUInt op obj.specdata2
  return { specdata1, specdata2 }

def xdrNfstime3 (obj : Nfstime3) : Filter σ Nfstime3 := do
  let seconds ← lib.xdrUInt op obj.seconds
  let nseconds ← lib.xdrUInt op obj.nseconds
  return { seconds, nseconds }

def xdrVerifier (obj : Verifier) : Filter σ Verifier := do
  let array : CharArray 8 ← lib.xdrOpaque op ⟨obj.data, obj.eight⟩
  return ⟨array.val, array.property⟩

def xdrWriteverf3 (obj : Writeverf3) : Filter σ Writeverf3 := xdrVerifier lib op obj

def xdrCreateverf3 (obj : Createverf3) : Filter σ Createverf3 := xdrVerifier lib op obj

def xdrNfsFh3 (obj : NfsFh3) : Filter σ NfsFh3 := do
  match op with
  | .XDR_ENCODE =>
    let _ ← lib.xdrBytes op (vectorData obj.data) (UInt32.ofNat obj.data.length) 64
    return obj
  | .XDR_DECODE =>
    let (ptr, len) ← lib.xdrBytes op .null 0 64
    let data ← assign ptr len
    free ptr
    return { data }
  | .XDR_FREE => return obj

def xdrFattr3 (obj : Fattr3) : Filter σ Fattr3 := do
  let typeVal ← xdrWord lib op obj.type.code
  let mode ← lib.xdrUInt op obj.mode
  let nlink ← lib.xdrUInt op obj.nlink
  let uid ← lib.xdrUInt op obj.uid
  let gid ← lib.xdrUInt op obj.gid
  let size ← lib.xdrUHyper op obj.size
  let used ← lib.xdrUHyper op obj.used
  let rdev ← xdrSpecdata3 lib op obj.rdev
  let fsid ← lib.xdrUHyper op obj.fsid
  let fileid ← lib.xdrUHyper op obj.fileid
  let atime ← xdrNfstime3 lib op obj.atime
  let mtime ← xdrNfstime3 lib op obj.mtime
  let ctime ← xdrNfstime3 lib op obj.ctime
  return { type := ⟨typeVal⟩, mode, nlink, uid, gid, size, used, rdev, fsid, fileid, atime, mtime, ctime }

def xdrPostOpAttr (obj : PostOpAttr) : Filter σ PostOpAttr := do
  let follow ← xdrFlag lib op obj.follow
  if follow then
    let attributes ← xdrFattr3 lib op obj.attributes
    return { follow, attributes }
  else
    return { obj with follow }

def xdrWccAttr (obj : WccAttr) : Filter σ WccAttr := do
  let size ← lib.xdrUHyper op obj.size
  let mtime ← xdrNfstime3 lib op obj.mtime
  let ctime ← xdrNfstime3 lib op obj.ctime
  return { size, mtime, ctime }

def xdrPreOpAttr (obj : PreOpAttr) : Filter σ PreOpAttr := do
  let check ← xdrFlag lib op obj.check
  if check then
    let attributes ← xdrWccAttr lib op obj.attributes
    return { check, attributes }
  else
    return { obj with check }

def xdrWccData (obj : WccData) : Filter σ WccData := do
  let before ← xdrPreOpAttr lib op obj.before
  let after ← xdrPostOpAttr lib op obj.after
  return { before, after }

def xdrSattr3 (obj : Sattr3) : Filter σ Sattr3 := do
  let mode ← xdrOptional lib op (lib.xdrUInt op) 0 obj.mode
  let uid ← xdrOptional lib op (lib.xdrUInt op) 0 obj.uid
  let gid ← xdrOptional lib op (lib.xdrUInt op) 0 obj.gid
  let size ← xdrOptional lib op (lib.xdrUHyper op) 0 obj.size
  let atime ← xdrOptional lib op (xdrNfstime3 lib op) {} obj.atime
  let mtime ← xdrOptional lib op (xdrNfstime3 lib op) {} obj.mtime
  return { mode, uid, gid, size, atime, mtime }

end

end Nfs3Rpc.Tirpc
