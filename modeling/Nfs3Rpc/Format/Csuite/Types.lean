/-
This file states runs over any number of structures, and who owns the blocks in them.
-/

import Nfs3Rpc.Construction.Csuite.Types

namespace Nfs3Rpc.Ownership
open Resources

def NfsFh3T.blocks (fh : NfsFh3T) : Multiset Address := Resources.blocks fh.data

/-- A node owns its own block and those of its fields. -/
def nodeBlocks {ε : Type} (fieldBlocks : ε → Multiset Address) (nodes : Nodes ε) : Multiset Address :=
  (nodes.map fun node => {node.1} + fieldBlocks node.2).sum

def Entry3T.blocks (e : Entry3T) : Multiset Address := Resources.blocks e.name

def Entryplus3T.blocks (e : Entryplus3T) : Multiset Address := Resources.blocks e.name + e.nameHandle.blocks

def Field.blocks : Field → Multiset Address
  | .handle fh => fh.blocks
  | .pointer p => Resources.blocks p
  | .entries nodes => nodeBlocks Entry3T.blocks nodes
  | .entriesplus nodes => nodeBlocks Entryplus3T.blocks nodes

def Fields.blocks (fields : Fields) : Multiset Address := (fields.map Field.blocks).sum

/-- These pointers are replaced, and what they pointed to is not freed. -/
def Field.drops : Field → Setting → Multiset Address
  | .pointer p, .newData => Resources.blocks p
  | _, _ => 0

/-- The decoder of an entry overwrites these pointers. -/
def Field.overwritten : Field → Part → Multiset Address
  | .pointer p, .bytes _ => Resources.blocks p
  | .entries nodes, .entries (_ :: _) => nodeBlocks Entry3T.blocks nodes
  | .entriesplus nodes, .entriesplus (_ :: _) => nodeBlocks Entryplus3T.blocks nodes
  | _, _ => 0

def overwritten (fields : Fields) (parts : List Part) : Multiset Address :=
  (List.zipWith Field.overwritten fields parts).sum

/-- Only an entry that is decoded by itself has something to overwrite. -/
def StructT.overwritten (struct : StructT) (fields : Fields) (parts : List Part) : Multiset Address :=
  match struct with
  | .entry3 => Ownership.overwritten fields parts
  | _ => 0

/-- The bytes of a source can be read after this pointer was freed. -/
def Source.Outlives (source : Source) (freed : Pointer) (ledger : List (Entry Address)) : Prop :=
  ∀ address, source = .block address → held address ledger = true ∧ freed ≠ some address

/-- The bytes of a handle do not come from null. -/
def NfsFh3T.Fair (fh : NfsFh3T) (buf : Source) (len : UInt32) (ledger : List (Entry Address)) : Prop :=
  len > 0 → buf ≠ .null ∧ buf.Outlives fh.data ledger

/-- A setter does not copy the block that it frees, or a block that is not out. -/
def Field.Fair (ledger : List (Entry Address)) : Field → Setting → Prop
  | .handle fh, .handle buf len => fh.Fair buf len ledger
  | .pointer p, .name name => name.Outlives p ledger
  | .entries nodes, .entryName node name => ∀ address e, nodes[node]? = some (address, e) →
      name.Outlives e.name ledger
  | .entriesplus nodes, .entryName node name =>
      ∀ address e, nodes[node]? = some (address, e) → name.Outlives e.name ledger
  | .entriesplus nodes, .entryHandle node buf len =>
      ∀ address e, nodes[node]? = some (address, e) → e.nameHandle.Fair buf len ledger
  | _, _ => True

def Setting.source : Setting → Source
  | .handle buf _ | .entryHandle _ buf _ => buf
  | .name s | .entryName _ s => s
  | _ => .elsewhere

/-- A program has only the pointers that an allocation has returned. -/
def Source.Known (ledger : List (Entry Address)) : Source → Prop
  | .block address => .acquired address ∈ ledger
  | _ => True

instance (ledger : List (Entry Address)) : (source : Source) → Decidable (source.Known ledger)
  | .block _ => inferInstanceAs (Decidable (_ ∈ ledger))
  | .null | .elsewhere => .isTrue trivial

structure Item where
  struct : StructT
  fields : Fields
  deriving DecidableEq

def Item.blocks (item : Item) : Multiset Address := item.fields.blocks

inductive Action where
  | init
  | destroy
  | set (field : Nat) (setting : Setting)
  | unpack (parts : List Part)
  deriving DecidableEq

/-- A setting of a field that is not there, or from a pointer that no program has, does nothing. -/
def Action.run (allocator : Allocator Address) (item : Item) : Action → Heap Address Item
  | .init => return { item with fields := item.struct.init }
  | .destroy => do
      let fields ← destroyFields item.fields
      return { item with fields }
  | .set index setting => do
      let ledger ← get
      match item.fields[index]? with
      | none => return item
      | some field =>
          if setting.source.Known ledger then
            let field ← field.set allocator setting
            return { item with fields := item.fields.set index field }
          else
            return item
  | .unpack parts => do
      let fields ← item.struct.unpack allocator item.fields parts
      return { item with fields }

def Action.Fair (ledger : List (Entry Address)) (item : Item) : Action → Prop
  | .set index setting => ∀ field, item.fields[index]? = some field → setting.source.Known ledger →
      field.Fair ledger setting
  | _ => True

/-- These blocks lose their owner. -/
def Action.drops (ledger : List (Entry Address)) (item : Item) : Action → Multiset Address
  | .init => item.blocks
  | .destroy => 0
  | .set index setting =>
      match item.fields[index]? with
      | none => 0
      | some field => if setting.source.Known ledger then field.drops setting else 0
  | .unpack parts => item.struct.overwritten item.fields parts

/-- The structures of a program, and the ledger of its heap. -/
structure World where
  items : List Item := []
  ledger : List (Entry Address) := []

inductive Call where
  | declare (struct : StructT)
  | act (item : Nat) (action : Action)
  deriving DecidableEq

/-- A structure is initialized where it is declared. -/
def World.step (allocator : Allocator Address) (world : World) : Call → Except Misuse World
  | .declare struct => .ok { world with items := world.items ++ [⟨struct, struct.init⟩] }
  | .act number action =>
      match world.items[number]? with
      | none => .ok world
      | some item =>
          match action.run allocator item world.ledger with
          | .ok item ledger => .ok { items := world.items.set number item, ledger }
          | .error misuse _ => .error misuse

def World.run (allocator : Allocator Address) (world : World) : List Call → Except Misuse World
  | [] => .ok world
  | call :: calls =>
      match world.step allocator call with
      | .error misuse => .error misuse
      | .ok next => next.run allocator calls

def World.blocks (world : World) : Multiset Address := (world.items.map Item.blocks).sum

def Call.Fair (world : World) : Call → Prop
  | .declare _ => True
  | .act number action => ∀ item, world.items[number]? = some item → action.Fair world.ledger item

/-- Each call is fair in the state where it is made. -/
def FairRun (allocator : Allocator Address) (world : World) : List Call → Prop
  | [] => True
  | call :: calls => call.Fair world ∧ ∀ next, world.step allocator call = .ok next → FairRun allocator next calls

def Call.drops (world : World) : Call → Multiset Address
  | .declare _ => 0
  | .act number action =>
      match world.items[number]? with
      | none => 0
      | some item => action.drops world.ledger item

/-- The blocks that a run leaves without an owner. -/
def leaked (allocator : Allocator Address) (world : World) : List Call → Multiset Address
  | [] => 0
  | call :: calls =>
      call.drops world + match world.step allocator call with
        | .error _ => 0
        | .ok next => leaked allocator next calls

/-- Each structure is destroyed. -/
def destroyAll (count : Nat) : List Call := (List.range count).map fun item => .act item .destroy

end Nfs3Rpc.Ownership
