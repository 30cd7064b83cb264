/-
This file is the life of the heap blocks in `nfs3_types.c` and in the decoders of `nfs3_xdr.c`: every block that they
allocate, read, and free. The decoders get complete messages.
-/

import Nfs3Rpc.Resources.Blocks

namespace Nfs3Rpc.Ownership
open Resources

/-- Allocation succeeds, and a block is named after it. -/
abbrev Address := Nat

abbrev Pointer := Option Address

structure NfsFh3T where
  data : Pointer := none
  len : UInt32 := 0
  cap : UInt32 := 0
  deriving DecidableEq

def nfsFh3Init : NfsFh3T := {}

def nfsFh3Destroy (fh : NfsFh3T) : Heap Address NfsFh3T := do
  free fh.data
  return {}

/-- The bytes of a caller stand in a block, or in memory that is no block. -/
inductive Source where
  | null
  | elsewhere
  | block (address : Address)
  deriving DecidableEq

def copyFrom : Source → Heap Address Unit
  | .null => load none
  | .elsewhere => pure ()
  | .block address => load (some address)

section Allocating

variable (allocator : Allocator Address)

def nfsFh3Set (fh : NfsFh3T) (buf : Source) (len : UInt32) : Heap Address NfsFh3T := do
  free fh.data
  if len > 0 then
    let data ← malloc allocator
    copyFrom buf
    return { data := some data, len, cap := len }
  else
    return {}

/-- The setters of the names all replace one pointer by that of `strdup`. -/
def setName (field : Pointer) (name : Source) : Heap Address Pointer := do
  free field
  if name = .null then
    return none
  else
    copyFrom name
    let copy ← malloc allocator
    return some copy

def xdrUnpackNfsFh3 (fh : NfsFh3T) (len : UInt32) : Heap Address NfsFh3T := do
  let d ← malloc allocator
  let _ ← nfsFh3Destroy fh
  return { data := some d, len, cap := len }

end Allocating

structure Entry3T where
  name : Pointer := none
  deriving DecidableEq

structure Entryplus3T where
  name : Pointer := none
  nameHandle : NfsFh3T := {}
  deriving DecidableEq

/-- A list of entries is the list of its nodes, each in a block of its own. -/
abbrev Nodes (ε : Type) := List (Address × ε)

/-- The destructors of the two kinds of entries free the fields of a node, the nodes behind it, and then its block. -/
def destroyNodes {ε : Type} (destroyFields : ε → Heap Address Unit) : Nodes ε → Heap Address Unit
  | [] => pure ()
  | (address, e) :: nextentry => do
      load (some address)
      destroyFields e
      destroyNodes destroyFields nextentry
      free (some address)

def entry3Destroy : Nodes Entry3T → Heap Address Unit := destroyNodes fun e => free e.name

def entryplus3Destroy : Nodes Entryplus3T → Heap Address Unit := destroyNodes fun e => do
  free e.name
  let _ ← nfsFh3Destroy e.nameHandle

section Decoding

variable (allocator : Allocator Address)

/-- Each node is allocated before its fields, and before the next node. -/
def unpackNodes {ε τ : Type} (unpackFields : τ → Heap Address ε) : List τ → Heap Address (Nodes ε)
  | [] => return []
  | wire :: wires => do
      let address ← malloc allocator
      let e ← unpackFields wire
      let nextentry ← unpackNodes unpackFields wires
      return (address, e) :: nextentry

def xdrUnpackEntry3 : List Unit → Heap Address (Nodes Entry3T) := unpackNodes allocator fun _ => do
  let name ← malloc allocator
  return { name := some name }

/-- A handle travels behind a flag. -/
def xdrUnpackEntryplus3 : List (Option UInt32) → Heap Address (Nodes Entryplus3T) :=
  unpackNodes allocator fun handle => do
    let name ← malloc allocator
    let nameHandle ← match handle with
      | none => pure {}
      | some len => xdrUnpackNfsFh3 allocator {} len
    return { name := some name, nameHandle }

end Decoding

/-- These are the kinds of fields that own blocks. -/
inductive Field where
  | handle (fh : NfsFh3T)
  | pointer (p : Pointer)
  | entries (nodes : Nodes Entry3T)
  | entriesplus (nodes : Nodes Entryplus3T)
  deriving DecidableEq

/-- A structure is the list of its fields that own blocks. -/
abbrev Fields := List Field

def Field.destroy : Field → Heap Address Field
  | .handle fh => do
      let fh ← nfsFh3Destroy fh
      return .handle fh
  | .pointer p => do
      free p
      return .pointer none
  | .entries nodes => do
      entry3Destroy nodes
      return .entries []
  | .entriesplus nodes => do
      entryplus3Destroy nodes
      return .entriesplus []

/-- A destructor frees the fields in their order, and clears the structure. -/
def destroyFields : Fields → Heap Address Fields
  | [] => return []
  | field :: fields => do
      let field ← field.destroy
      let fields ← destroyFields fields
      return field :: fields

/-- What a caller does to a field with a setter, or by itself: it fills a block for a field without a setter, links a
cleared node at the end of a list, and sets the fields of a node. -/
inductive Setting where
  | handle (buf : Source) (len : UInt32)
  | name (name : Source)
  | newData
  | link
  | entryName (node : Nat) (name : Source)
  | entryHandle (node : Nat) (buf : Source) (len : UInt32)
  deriving DecidableEq

/-- The node is updated in its block. -/
def setNode {ε : Type} (set : ε → Heap Address ε) (nodes : Nodes ε) (node : Nat) : Heap Address (Nodes ε) :=
  match nodes[node]? with
  | none => return nodes
  | some (address, e) => do
      load (some address)
      let e ← set e
      return nodes.set node (address, e)

/-- A setting for a field of another kind is no C program and does nothing. -/
def Field.set (allocator : Allocator Address) : Field → Setting → Heap Address Field
  | .handle fh, .handle buf len => do
      let fh ← nfsFh3Set allocator fh buf len
      return .handle fh
  | .pointer p, .name name => do
      let p ← setName allocator p name
      return .pointer p
  | .pointer _, .newData => do
      let data ← malloc allocator
      return .pointer (some data)
  | .entries nodes, .link => do
      let address ← malloc allocator
      return .entries (nodes ++ [(address, {})])
  | .entriesplus nodes, .link => do
      let address ← malloc allocator
      return .entriesplus (nodes ++ [(address, {})])
  | .entries nodes, .entryName node name => do
      let nodes ← setNode (fun e => do
        let name ← setName allocator e.name name
        return { e with name }) nodes node
      return .entries nodes
  | .entriesplus nodes, .entryName node name => do
      let nodes ← setNode (fun e => do
        let name ← setName allocator e.name name
        return { e with name }) nodes node
      return .entriesplus nodes
  | .entriesplus nodes, .entryHandle node buf len => do
      let nodes ← setNode (fun e => do
        let nameHandle ← nfsFh3Set allocator e.nameHandle buf len
        return { e with nameHandle }) nodes node
      return .entriesplus nodes
  | field, _ => return field

/-- What a message has for a field; no entries leave the list as it is. -/
inductive Part where
  | absent
  | bytes (len : UInt32)
  | entries (wires : List Unit)
  | entriesplus (wires : List (Option UInt32))
  deriving DecidableEq

/-- The decoder of a result or of an entry destroys the handle that it replaces, and it overwrites the other
pointers. -/
def Field.unpack (allocator : Allocator Address) : Field → Part → Heap Address Field
  | .handle fh, .bytes len => do
      let fh ← xdrUnpackNfsFh3 allocator fh len
      return .handle fh
  | .pointer _, .bytes _ => do
      let s ← malloc allocator
      return .pointer (some s)
  | .entries _, .entries (wire :: wires) => do
      let nodes ← xdrUnpackEntry3 allocator (wire :: wires)
      return .entries nodes
  | .entriesplus _, .entriesplus (wire :: wires) => do
      let nodes ← xdrUnpackEntryplus3 allocator (wire :: wires)
      return .entriesplus nodes
  | field, _ => return field

/-- The decoder of arguments frees the name that it replaces, or the data of WRITE. Arguments have no entries. The guard
of SETATTR may be absent, and the handle there stays as it is. -/
def Field.replace (allocator : Allocator Address) : Field → Part → Heap Address Field
  | .handle fh, .bytes len => do
      let fh ← xdrUnpackNfsFh3 allocator fh len
      return .handle fh
  | .pointer p, .bytes _ => do
      free p
      let s ← malloc allocator
      return .pointer (some s)
  | field, _ => return field

def unpackFields (unpackField : Field → Part → Heap Address Field) : Fields → List Part → Heap Address Fields
  | field :: fields, part :: parts => do
      let field ← unpackField field part
      let fields ← unpackFields unpackField fields parts
      return field :: fields
  | fields, _ => return fields

/-- These are the structures with fields that own blocks. A result, its `resok` part, and a directory list in it have
the same ones. -/
inductive StructT where
  | nfs_fh3
  | GETATTR3args
  | SETATTR3args
  | LOOKUP3args | LOOKUP3res
  | ACCESS3args
  | READLINK3args | READLINK3res
  | READ3args | READ3res
  | WRITE3args
  | CREATE3args | CREATE3res
  | MKDIR3args | MKDIR3res
  | SYMLINK3args | SYMLINK3res
  | MKNOD3args | MKNOD3res
  | REMOVE3args
  | RMDIR3args
  | RENAME3args
  | LINK3args
  | READDIR3args | entry3 | READDIR3res
  | READDIRPLUS3args | entryplus3 | READDIRPLUS3res
  | FSSTAT3args
  | FSINFO3args
  | PATHCONF3args
  | COMMIT3args
  deriving DecidableEq

/-- These are the fields of a cleared structure, in the order in which its destructor frees them. Arguments that have
only handles come without functions of their own: a program clears and destroys the handles in them. -/
def StructT.init : StructT → Fields
  | .nfs_fh3 => [.handle {}]
  | .GETATTR3args | .ACCESS3args | .READLINK3args | .READ3args | .READDIR3args | .READDIRPLUS3args | .FSSTAT3args
  | .FSINFO3args | .PATHCONF3args | .COMMIT3args => [.handle {}]
  | .SETATTR3args => [.handle {}, .handle {}]
  | .LOOKUP3args | .CREATE3args | .REMOVE3args | .RMDIR3args | .MKDIR3args | .MKNOD3args => [.handle {}, .pointer none]
  | .WRITE3args => [.handle {}, .pointer none]
  | .SYMLINK3args => [.handle {}, .pointer none, .pointer none]
  | .RENAME3args => [.handle {}, .pointer none, .handle {}, .pointer none]
  | .LINK3args => [.handle {}, .handle {}, .pointer none]
  | .LOOKUP3res | .CREATE3res | .MKDIR3res | .SYMLINK3res | .MKNOD3res => [.handle {}]
  | .READ3res | .READLINK3res => [.pointer none]
  | .entry3 => [.pointer none, .entries []]
  | .READDIR3res => [.entries []]
  | .entryplus3 => [.pointer none, .handle {}, .entriesplus []]
  | .READDIRPLUS3res => [.entriesplus []]

/-- The decoder of a result destroys what the result had. An entry with attributes has no decoder of its own. -/
def StructT.unpack (allocator : Allocator Address) (struct : StructT) (fields : Fields) (parts : List Part) :
    Heap Address Fields :=
  match struct with
  | .LOOKUP3res | .READ3res | .CREATE3res | .READLINK3res | .MKDIR3res | .SYMLINK3res | .MKNOD3res | .READDIR3res
  | .READDIRPLUS3res => do
      let fields ← destroyFields fields
      unpackFields (Field.unpack allocator) fields parts
  | .entry3 => unpackFields (Field.unpack allocator) fields parts
  | .entryplus3 => return fields
  | _ => unpackFields (Field.replace allocator) fields parts

end Nfs3Rpc.Ownership
