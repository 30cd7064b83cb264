/-
This file states the bytes of the shared structures and what a reader can see of them.
The wire of a message is the list of its fields, joined in order.
-/

import Nfs3Rpc.Construction.Builtin.Attributes

namespace Nfs3Rpc
open Encoding Builtin

/-- The C++ suite sends a verifier as a variable byte string. -/
def Verifier.wire (verf : Verifier) : Bytes := opaqueBytes verf.data

def NfsFh3.wire (fh : NfsFh3) : Bytes := opaqueBytes fh.data

def NfsFh3.Fits (fh : NfsFh3) : Prop := Short fh.data

def Nfstime3.wire (time : Nfstime3) : Bytes := [be32 time.seconds, be32 time.nseconds].flatten

def Specdata3.wire (spec : Specdata3) : Bytes := [be32 spec.specdata1, be32 spec.specdata2].flatten

def Fattr3.wire (attr : Fattr3) : Bytes :=
  [be32 attr.type.code, be32 attr.mode, be32 attr.nlink, be32 attr.uid, be32 attr.gid, be64 attr.size,
    be64 attr.used, attr.rdev.wire, be64 attr.fsid, be64 attr.fileid, attr.atime.wire, attr.mtime.wire,
    attr.ctime.wire].flatten

def PostOpAttr.wire (attr : PostOpAttr) : Bytes :=
  (beBool attr.follow :: if attr.follow then [attr.attributes.wire] else []).flatten

/-- A false flag hides the attributes. -/
def PostOpAttr.visible (attr : PostOpAttr) : PostOpAttr := if attr.follow then attr else {}

def WccAttr.wire (attr : WccAttr) : Bytes := [be64 attr.size, attr.mtime.wire, attr.ctime.wire].flatten

def PreOpAttr.wire (attr : PreOpAttr) : Bytes :=
  (beBool attr.check :: if attr.check then [attr.attributes.wire] else []).flatten

def PreOpAttr.visible (attr : PreOpAttr) : PreOpAttr := if attr.check then attr else {}

def WccData.wire (wcc : WccData) : Bytes := [wcc.before.wire, wcc.after.wire].flatten

def WccData.visible (wcc : WccData) : WccData := ⟨wcc.before.visible, wcc.after.visible⟩

/-- A presence flag travels before an optional field. -/
def optionalWire {α : Type} (wire : α → Bytes) : Option α → Bytes
  | some value => [beBool true, wire value].flatten
  | none => beBool false

/-- The built-in codec sends three fields without a presence flag. -/
def Sattr3.wire (attr : Sattr3) : Bytes :=
  [be32 (attr.mode.getD absentWord), be32 (attr.uid.getD absentWord), be32 (attr.gid.getD absentWord),
    optionalWire be64 attr.size, optionalWire Nfstime3.wire attr.atime,
    optionalWire Nfstime3.wire attr.mtime].flatten

/-- These values do not collide with the word for absence. -/
def Sattr3.Fits (attr : Sattr3) : Prop :=
  attr.mode ≠ some absentWord ∧ attr.uid ≠ some absentWord ∧ attr.gid ≠ some absentWord

end Nfs3Rpc
