/-
This file states what the mount client relies on in libtirpc, and which replies both of its decoders describe.
-/

import Nfs3Rpc.Construction.Tirpc.Mount
import Nfs3Rpc.Encoding.Grammars
import Nfs3Rpc.Format.Mount
import Nfs3Rpc.Format.Tirpc

namespace Nfs3Rpc
open Encoding

/-- The inner loop takes these names. -/
inductive NamesText : List Bytes → Bytes → Prop
  | stop : NamesText [] (be32 0)
  | name {flag : UInt32} {name text later : Bytes} {names : List Bytes} (set : flag ≠ 0)
      (named : OpaqueText name text) (rest : NamesText names later) :
      NamesText (name :: names) (be32 flag ++ (text ++ later))

/-- After a path, a zero word says that it has no groups. -/
inductive GroupNames : List Bytes → Bytes → Prop
  | absent : GroupNames [] (be32 0)
  | present {flag : UInt32} {names : List Bytes} {text : Bytes} (set : flag ≠ 0) (named : NamesText names text) :
      GroupNames names (be32 flag ++ text)

/-- The outer loop takes these paths with the names of their groups. -/
inductive ListText : List Export → Bytes → Prop
  | stop : ListText [] (be32 0)
  | last {flag : UInt32} {dir text groups : Bytes} {names : List Bytes} (set : flag ≠ 0)
      (named : OpaqueText dir text) (listed : GroupNames names groups) :
      ListText [⟨dir, names⟩] (be32 flag ++ (text ++ (groups ++ be32 0)))
  | more {flag again : UInt32} {dir text groups later : Bytes} {names : List Bytes} {exports : List Export}
      (set : flag ≠ 0) (named : OpaqueText dir text) (listed : GroupNames names groups) (setAgain : again ≠ 0)
      (rest : ListText exports later) :
      ListText (⟨dir, names⟩ :: exports) (be32 flag ++ (text ++ (groups ++ (be32 again ++ later))))

/-- The body starts with the layout of this export list. -/
def HoldsList (exports : List Export) (body : Bytes) : Prop :=
  ∃ text rest, ListText exports text ∧ body = text ++ rest

/-- These are the bounds of the libtirpc branch. -/
def Export.WithinLimits (entry : Export) : Prop :=
  entry.dir.length ≤ 1024 ∧ ∀ group ∈ entry.groups, group.length ≤ 256

/-- The body starts with an export list whose paths and names are within the bounds. -/
def HoldsListWithin (body : Bytes) : Prop :=
  ∃ exports, HoldsList exports body ∧ ∀ entry ∈ exports, entry.WithinLimits

/-- A path reaches the result of the libtirpc branch up to its first zero byte, and an empty path does not. -/
def shownPaths (dirs : List Bytes) : List Bytes :=
  (dirs.map fun dir => dir.takeWhile (· != 0)).filter (· ≠ [])

def flavorsWire (flavors : List Int32) : Bytes := (flavors.map fun flavor => be32 flavor.toUInt32).flatten

/-- The status word comes first; after the status zero come the handle, the count of flavors, and up to ten flavors. -/
inductive FhstatusText : FhstatusNative → Bytes → Prop
  | refused {status : UInt32} (failed : status ≠ 0) : FhstatusText { status } (be32 status)
  | mounted {handle text : Bytes} {count : UInt32} {flavors : List Int32} (named : OpaqueText handle text)
      (listed : flavors.length = min count.toNat 10) :
      FhstatusText ⟨0, handle, flavors⟩ (be32 0 ++ (text ++ (be32 count ++ flavorsWire flavors)))

end Nfs3Rpc

namespace Nfs3Rpc.Tirpc
open Encoding

variable {σ : Type}

/-- The memory of the names takes such a name with its zero byte; null memory is allocated to fit. -/
def RoomFor (room : Option Nat) (name : Bytes) : Prop := ∀ size ∈ room, name.length < size

/-- The memory of the first name is kept for the later ones. -/
def kept (room : Option Nat) (name : Bytes) : Option Nat := some (room.getD (name.length + 1))

/-- Each name is within its bound and within the memory of the names. -/
def NamesFit : Option Nat → List Bytes → Prop
  | _, [] => True
  | room, name :: names => name.length ≤ 256 ∧ RoomFor room name ∧ NamesFit (kept room name) names

/-- After some names that fit comes the length of a name within its bound that outgrows the memory of the names. -/
inductive NamesOutgrow : Option Nat → Bytes → Prop
  | here {flag len : UInt32} {size : Nat} {rest : Bytes} (set : flag ≠ 0) (within : len.toNat ≤ 256)
      (outgrown : size ≤ len.toNat) : NamesOutgrow (some size) (be32 flag ++ (be32 len ++ rest))
  | later {flag : UInt32} {room : Option Nat} {name text rest : Bytes} (set : flag ≠ 0)
      (named : OpaqueText name text) (within : name.length ≤ 256) (fits : RoomFor room name)
      (outgrown : NamesOutgrow (kept room name) rest) : NamesOutgrow room (be32 flag ++ (text ++ rest))

/-- After some exports that fit comes one with a group name that outgrows the first name of its list. -/
inductive ExportsOutgrow : Bytes → Prop
  | here {flag listed : UInt32} {dir text rest : Bytes} (set : flag ≠ 0) (named : OpaqueText dir text)
      (within : dir.length ≤ 1024) (setGroups : listed ≠ 0) (outgrown : NamesOutgrow none rest) :
      ExportsOutgrow (be32 flag ++ (text ++ (be32 listed ++ rest)))
  | later {flag again : UInt32} {dir text groups rest : Bytes} {names : List Bytes} (set : flag ≠ 0)
      (named : OpaqueText dir text) (within : dir.length ≤ 1024) (listed : GroupNames names groups)
      (fits : NamesFit none names) (setAgain : again ≠ 0) (outgrown : ExportsOutgrow rest) :
      ExportsOutgrow (be32 flag ++ (text ++ (groups ++ (be32 again ++ rest))))

/-- The memory of a pointer has this size. -/
def CharPtr.room (ptr : CharPtr) : Option Nat := if ptr = .null then none else some ptr.memory.length

/-- The primitives decode the texts of RFC 4506 and return FALSE on every other input. Any bytes may stand in the
padding, every nonzero word is TRUE, and a longer value than the bound is refused. A string goes into the memory
that its pointer has, and a zero byte is put behind it before the string is read. -/
structure MountDecoder (lib : MountLibrary σ) (input : σ → Bytes) : Prop where
  unread : ∀ stream, lib.unread stream = (input stream).length
  uInt : ∀ start, ∀ stream, Parses input .returnFalse .invalidMemory (lib.xdrUInt .XDR_DECODE start)
    (fun value text => text = be32 value) (fun _ => False) stream
  int : ∀ start, ∀ stream, Parses input .returnFalse .invalidMemory (lib.xdrInt .XDR_DECODE start)
    (fun value text => text = be32 value.toUInt32) (fun _ => False) stream
  bool : ∀ start, ∀ stream, Parses input .returnFalse .invalidMemory (lib.xdrBool .XDR_DECODE start)
    (fun value text => ∃ word, value = (word != 0) ∧ text = be32 word) (fun _ => False) stream
  bytes : ∀ len (maxsize : UInt32), ∀ stream,
    Parses input .returnFalse .invalidMemory (lib.xdrBytes .XDR_DECODE .null len maxsize)
      (fun got text => ∃ data, OpaqueText data text ∧ data.length ≤ maxsize.toNat ∧
        got = (if data = [] then .null else .heap data, UInt32.ofNat data.length)) (fun _ => False) stream
  string : ∀ ptr (maxsize : UInt32), (∀ block, ptr ≠ .inner block) → ∀ stream,
    Parses input .returnFalse .invalidMemory (lib.xdrString .XDR_DECODE ptr maxsize)
      (fun got text => ∃ s, OpaqueText s text ∧ s.length ≤ maxsize.toNat ∧ RoomFor ptr.room s ∧
        got = .heap (s ++ 0 :: ptr.memory.drop (s.length + 1)))
      (fun body => ∃ len rest, body = be32 len ++ rest ∧ len.toNat ≤ maxsize.toNat ∧
        ∃ size ∈ ptr.room, size ≤ len.toNat) stream

/-- The filter has returned FALSE. -/
def ReturnsFalse {α : Type} (filter : Filter σ α) (stream : σ) : Prop :=
  ∃ last, filter stream = .error .returnFalse last

end Nfs3Rpc.Tirpc
