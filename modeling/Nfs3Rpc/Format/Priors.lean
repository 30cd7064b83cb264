/-
This file states where a C++ decoder leaves a field of its object alone.
Each reader here takes two objects and returns whether they agree in the fields that the bytes leave out.
-/

import Nfs3Rpc.Format.Arguments
import Nfs3Rpc.Format.Results

namespace Nfs3Rpc
open Encoding Builtin

/-- The word for absence leaves the field alone. -/
def sentinelAgrees (first second : Option UInt32) : Xdr Prop := do
  let val ← unpackUint32
  return val = absentWord → first = second

/-- A false flag leaves the field alone. -/
def optionalAgrees {α : Type} (unpack : Xdr α) (first second : Option α) : Xdr Prop := do
  let flag ← unpackBool
  if flag then
    let _ ← unpack
    return True
  else
    return first = second

/-- Fewer than eight bytes leave the array alone. -/
def Verifier.agrees (first second : Verifier) : Xdr Prop := do
  let v ← unpackOpaque
  return v.length < 8 → first = second

def Sattr3.agrees (first second : Sattr3) : Xdr Prop := do
  let mode ← sentinelAgrees first.mode second.mode
  let uid ← sentinelAgrees first.uid second.uid
  let gid ← sentinelAgrees first.gid second.gid
  let size ← optionalAgrees unpackUint64 first.size second.size
  let atime ← optionalAgrees Nfstime3.deserialize first.atime second.atime
  let mtime ← optionalAgrees Nfstime3.deserialize first.mtime second.mtime
  return mode ∧ uid ∧ gid ∧ size ∧ atime ∧ mtime

def SETATTR3args.agrees (first second : SETATTR3args) : Xdr Prop := do
  let _ ← NfsFh3.deserialize
  let newAttributes ← Sattr3.agrees first.newAttributes second.newAttributes
  let guard ← optionalAgrees NfsFh3.deserialize first.guard second.guard
  return newAttributes ∧ guard

/-- Only an EXCLUSIVE creation sends a verifier. -/
def CREATE3args.agrees (first second : CREATE3args) : Xdr Prop := do
  let _ ← NfsFh3.deserialize
  let _ ← unpackString
  let modeVal ← unpackUint32
  let howAttributes ← Sattr3.agrees first.howAttributes second.howAttributes
  if (⟨modeVal⟩ : Createmode3) = .EXCLUSIVE then
    let howVerf ← Verifier.agrees first.howVerf second.howVerf
    return howAttributes ∧ howVerf
  else
    return howAttributes ∧ first.howVerf = second.howVerf

def MKDIR3args.agrees (first second : MKDIR3args) : Xdr Prop := do
  let _ ← NfsFh3.deserialize
  let _ ← unpackString
  Sattr3.agrees first.attributes second.attributes

def SYMLINK3args.agrees (first second : SYMLINK3args) : Xdr Prop := do
  let _ ← NfsFh3.deserialize
  let _ ← unpackString
  let symlinkAttributes ← Sattr3.agrees first.symlinkAttributes second.symlinkAttributes
  let _ ← unpackString
  return symlinkAttributes

def MKNOD3args.agrees (first second : MKNOD3args) : Xdr Prop := do
  let _ ← NfsFh3.deserialize
  let _ ← unpackString
  let _ ← unpackUint32
  Sattr3.agrees first.whatAttributes second.whatAttributes

/-- The call that would read the name limit reads nothing. -/
def Fsinfo3ResokProperty.agrees (first second : Fsinfo3ResokProperty) : Xdr Prop := do
  let _ ← first.deserialize
  return first.nameMax = second.nameMax

def WRITE3resok.agrees (first second : WRITE3resok) : Xdr Prop := do
  let _ ← PostOpAttr.deserialize {}
  let _ ← unpackUint32
  let _ ← unpackUint32
  Verifier.agrees first.verf second.verf

def COMMIT3resok.agrees (first second : COMMIT3resok) : Xdr Prop := do
  let _ ← PostOpAttr.deserialize {}
  Verifier.agrees first.verf second.verf

/-- An entry without a next one leaves the entries behind it alone. -/
def Entry3.agrees (unread : Nat) (first second : List Entry3) : Xdr Prop := do
  let _ ← unpackUint64
  match unread with
  -- No byte is left at this depth, so the first read has thrown.
  | 0 => return first = second
  | unread + 1 =>
    let _ ← unpackString
    let _ ← unpackUint64
    let hasNext ← unpackBool
    if hasNext then
      let _ ← Entry3.deserialize unread []
      return True
    else
      return first = second

def Dirlist3.agrees (first second : Dirlist3) : Xdr Prop := do
  let hasEntries ← unpackBool
  if hasEntries then
    let unread ← unreadBytes
    let _ ← Entry3.deserialize unread []
    let _ ← unpackBool
    return True
  else
    let _ ← unpackBool
    return first.entries = second.entries

def READDIR3resok.agrees (first second : READDIR3resok) : Xdr Prop := do
  let _ ← PostOpAttr.deserialize {}
  let _ ← unpackUint64
  Dirlist3.agrees first.reply second.reply

def Entryplus3.agrees (unread : Nat) (first second : List Entryplus3) : Xdr Prop := do
  let _ ← unpackUint64
  match unread with
  | 0 => return first.map Entryplus3.visible = second.map Entryplus3.visible
  | unread + 1 =>
    let _ ← unpackString
    let _ ← unpackUint64
    let _ ← NfsFh3.deserialize
    let _ ← PostOpAttr.deserialize {}
    let hasNext ← unpackBool
    if hasNext then
      let _ ← Entryplus3.deserialize unread {} []
      return True
    else
      return first.map Entryplus3.visible = second.map Entryplus3.visible

def Dirlistplus3.agrees (first second : Dirlistplus3) : Xdr Prop := do
  let hasEntries ← unpackBool
  if hasEntries then
    let unread ← unreadBytes
    let _ ← Entryplus3.deserialize unread {} []
    let _ ← unpackBool
    return True
  else
    let _ ← unpackBool
    return first.entries.map Entryplus3.visible = second.entries.map Entryplus3.visible

def READDIRPLUS3resok.agrees (first second : READDIRPLUS3resok) : Xdr Prop := do
  let _ ← PostOpAttr.deserialize {}
  let _ ← unpackUint64
  Dirlistplus3.agrees first.reply second.reply

/-- The other arguments are read whole. -/
def ProcNum.argsAgree : (proc : ProcNum) → proc.Args → proc.Args → Xdr Prop
  | .SETATTR => SETATTR3args.agrees
  | .CREATE => CREATE3args.agrees
  | .MKDIR => MKDIR3args.agrees
  | .SYMLINK => SYMLINK3args.agrees
  | .MKNOD => MKNOD3args.agrees
  | proc => fun first _ => do
      let _ ← proc.deserializeArgs first
      return True

def ProcNum.deserializeResok : (proc : ProcNum) → proc.Resok → Xdr proc.Resok
  | .GETATTR => fun _ => GETATTR3resok.deserialize
  | .SETATTR => SETATTR3resok.deserialize
  | .LOOKUP => LOOKUP3resok.deserialize
  | .ACCESS => ACCESS3resok.deserialize
  | .READLINK => READLINK3resok.deserialize
  | .READ => READ3resok.deserialize
  | .WRITE => WRITE3resok.deserialize
  | .CREATE | .MKDIR | .SYMLINK | .MKNOD => NewObject.deserialize
  | .REMOVE | .RMDIR => RemovedEntry.deserialize
  | .RENAME => RENAME3resok.deserialize
  | .LINK => LINK3resok.deserialize
  | .READDIR => READDIR3resok.deserialize
  | .READDIRPLUS => READDIRPLUS3resok.deserialize
  | .FSSTAT => FSSTAT3resok.deserialize
  | .FSINFO => FSINFO3resok.deserialize
  | .PATHCONF => PATHCONF3resok.deserialize
  | .COMMIT => COMMIT3resok.deserialize

/-- Each result decodes its `resok` into this new object. -/
def ProcNum.newResok (uninit : Verifier) : (proc : ProcNum) → proc.Resok
  | .GETATTR => ({} : GETATTR3resok)
  | .SETATTR => ({} : SETATTR3resok)
  | .LOOKUP => ({} : LOOKUP3resok)
  | .ACCESS => ({} : ACCESS3resok)
  | .READLINK => ({} : READLINK3resok)
  | .READ => ({} : READ3resok)
  | .WRITE => ({ verf := uninit } : WRITE3resok)
  | .CREATE | .MKDIR | .SYMLINK | .MKNOD => ({} : NewObject)
  | .REMOVE | .RMDIR => ({} : RemovedEntry)
  | .RENAME => ({} : RENAME3resok)
  | .LINK => ({} : LINK3resok)
  | .READDIR => ({} : READDIR3resok)
  | .READDIRPLUS => ({} : READDIRPLUS3resok)
  | .FSSTAT => ({} : FSSTAT3resok)
  | .FSINFO => ({} : FSINFO3resok)
  | .PATHCONF => ({} : PATHCONF3resok)
  | .COMMIT => ({ verf := uninit } : COMMIT3resok)

/-- The other members hold nothing that a reader can see before the bytes replace it. -/
def ProcNum.resokAgree : (proc : ProcNum) → proc.Resok → proc.Resok → Xdr Prop
  | .WRITE => WRITE3resok.agrees
  | .READDIR => READDIR3resok.agrees
  | .READDIRPLUS => READDIRPLUS3resok.agrees
  | .COMMIT => COMMIT3resok.agrees
  | proc => fun first _ => do
      let _ ← proc.deserializeResok first
      return True

/-- A failed status leaves the `resok` alone. -/
def ProcNum.resAgree (proc : ProcNum) (uninit uninit' : Verifier) (first second : Res proc.Resok) : Xdr Prop := do
  let statusVal ← unpackUint32
  if (⟨statusVal⟩ : Nfsstat3) = .NFS3_OK then
    proc.resokAgree (proc.newResok uninit) (proc.newResok uninit')
  else
    return first.resok.map proc.visibleResok = second.resok.map proc.visibleResok

/-- These are the structures with a `deserialize` method. -/
inductive NfsStruct where
  | writeverf3
  | createverf3
  | nfsFh3
  | nfstime3
  | specdata3
  | fattr3
  | postOpAttr
  | sattr3
  | wccAttr
  | preOpAttr
  | wccData
  | entry3
  | dirlist3
  | entryplus3
  | dirlistplus3
  | fsinfo3ResokProperty
  | pathconf3ResokInfo
  | args (proc : ProcNum)
  | resok (proc : ProcNum)
  | res (proc : ProcNum)

/-- An entry object is the chain that starts with it. -/
def NfsStruct.Object : NfsStruct → Type
  | .writeverf3 | .createverf3 => Verifier
  | .nfsFh3 => NfsFh3
  | .nfstime3 => Nfstime3
  | .specdata3 => Specdata3
  | .fattr3 => Fattr3
  | .postOpAttr => PostOpAttr
  | .sattr3 => Sattr3
  | .wccAttr => WccAttr
  | .preOpAttr => PreOpAttr
  | .wccData => WccData
  | .entry3 => List Entry3
  | .dirlist3 => Dirlist3
  | .entryplus3 => List Entryplus3
  | .dirlistplus3 => Dirlistplus3
  | .fsinfo3ResokProperty => Fsinfo3ResokProperty
  | .pathconf3ResokInfo => Pathconf3ResokInfo
  | .args proc => proc.Args
  | .resok proc => proc.Resok
  | .res proc => Res proc.Resok

def NfsStruct.deserialize (uninit : Verifier) : (struct : NfsStruct) → struct.Object → Xdr struct.Object
  | .writeverf3 | .createverf3 => Verifier.deserialize
  | .nfsFh3 => fun _ => NfsFh3.deserialize
  | .nfstime3 => fun _ => Nfstime3.deserialize
  | .specdata3 => fun _ => Specdata3.deserialize
  | .fattr3 => fun _ => Fattr3.deserialize
  | .postOpAttr => PostOpAttr.deserialize
  | .sattr3 => Sattr3.deserialize
  | .wccAttr => fun _ => WccAttr.deserialize
  | .preOpAttr => PreOpAttr.deserialize
  | .wccData => WccData.deserialize
  | .entry3 => fun self : List Entry3 => do
      let unread ← unreadBytes
      Entry3.deserialize unread self.tail
  | .dirlist3 => Dirlist3.deserialize
  | .entryplus3 => fun self : List Entryplus3 => do
      let unread ← unreadBytes
      Entryplus3.deserialize unread (self.headD {}) self.tail
  | .dirlistplus3 => Dirlistplus3.deserialize
  | .fsinfo3ResokProperty => Fsinfo3ResokProperty.deserialize
  | .pathconf3ResokInfo => fun _ => Pathconf3ResokInfo.deserialize
  | .args proc => proc.deserializeArgs
  | .resok proc => proc.deserializeResok
  | .res proc => proc.deserializeRes uninit

/-- A false `follow` or `check` flag hides the attributes behind it, and nothing else is hidden. -/
def NfsStruct.visible : (struct : NfsStruct) → struct.Object → struct.Object
  | .postOpAttr => PostOpAttr.visible
  | .preOpAttr => PreOpAttr.visible
  | .wccData => WccData.visible
  | .entryplus3 => List.map Entryplus3.visible
  | .dirlistplus3 => Dirlistplus3.visible
  | .resok proc => proc.visibleResok
  | .res proc => proc.visibleRes
  | .writeverf3 | .createverf3 | .nfsFh3 | .nfstime3 | .specdata3 | .fattr3 | .sattr3 | .wccAttr | .entry3
  | .dirlist3 | .fsinfo3ResokProperty | .pathconf3ResokInfo | .args _ => id

/-- Two objects agree in each field that the bytes leave out. -/
def NfsStruct.agrees (uninit uninit' : Verifier) :
    (struct : NfsStruct) → struct.Object → struct.Object → Xdr Prop
  | .writeverf3 | .createverf3 => Verifier.agrees
  | .sattr3 => Sattr3.agrees
  | .entry3 => fun first second : List Entry3 => do
      let unread ← unreadBytes
      Entry3.agrees unread first.tail second.tail
  | .dirlist3 => Dirlist3.agrees
  | .entryplus3 => fun first second : List Entryplus3 => do
      let unread ← unreadBytes
      Entryplus3.agrees unread first.tail second.tail
  | .dirlistplus3 => Dirlistplus3.agrees
  | .fsinfo3ResokProperty => Fsinfo3ResokProperty.agrees
  | .args proc => proc.argsAgree
  | .resok proc => proc.resokAgree
  | .res proc => proc.resAgree uninit uninit'
  | struct => fun first _ => do
      let _ ← struct.deserialize uninit first
      return True

end Nfs3Rpc
