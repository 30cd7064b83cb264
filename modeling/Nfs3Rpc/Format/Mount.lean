/-
This file states the export list of the MOUNT protocol, and the bytes that the decoders of the mount client take.
-/

import Nfs3Rpc.Construction.Builtin.Mount

namespace Nfs3Rpc
open Encoding Builtin SimpleRpc

/-- An export of RFC 1813 has a directory and the groups that may mount it. -/
structure Export where
  dir : Bytes
  groups : List Bytes
  deriving DecidableEq

/-- Length words can describe the directory and each group name. -/
def Export.Fits (entry : Export) : Prop := Short entry.dir ∧ ∀ group ∈ entry.groups, Short group

/-- No group name has a zero byte. -/
def Export.Textual (entry : Export) : Prop := ∀ group ∈ entry.groups, 0 ∉ group

/-- The group list is empty, or the length words of its first names are zero where the decoder looks for flags. -/
def Export.Unnamed (entry : Export) : Prop :=
  entry.groups = [] ∨ entry.groups = [[]] ∨ ∃ later, entry.groups = [] :: [] :: later

def Export.wire (entry : Export) : Bytes := opaqueBytes entry.dir ++ chainBytes opaqueBytes entry.groups

/-- The presence word of RFC 1813 stands before each export and before each group. -/
def exportsWire (exports : List Export) : Bytes := chainBytes Export.wire exports

/-- A byte string follows its length word, and any bytes may stand in its padding. -/
inductive OpaqueText : Bytes → Bytes → Prop
  | whole {data skipped : Bytes} (short : Short data) (count : skipped.length = padding data.length) :
      OpaqueText data [be32 (UInt32.ofNat data.length), data, skipped].flatten

/-- The inner loop takes names after nonzero words, and stops at a zero word. -/
inductive GroupsText : Bytes → Prop
  | stop : GroupsText (be32 0)
  | group {flag : UInt32} {name text later : Bytes} (set : flag ≠ 0) (named : OpaqueText name text)
      (rest : GroupsText later) : GroupsText [be32 flag, text, later].flatten

/-- After a path, a zero word says that no loop over groups follows. -/
inductive GroupPart : Bytes → Prop
  | absent : GroupPart (be32 0)
  | present {flag : UInt32} {text : Bytes} (set : flag ≠ 0) (groups : GroupsText text) :
      GroupPart (be32 flag ++ text)

/-- The outer loop takes these paths from these bytes: it asks for a nonzero word before a path, and for one
more word after the groups of a path. -/
inductive ExportsText : List Bytes → Bytes → Prop
  | stop : ExportsText [] (be32 0)
  | last {flag : UInt32} {dir text groups : Bytes} (set : flag ≠ 0) (named : OpaqueText dir text)
      (listed : GroupPart groups) : ExportsText [dir] [be32 flag, text, groups, be32 0].flatten
  | more {flag again : UInt32} {dir text groups later : Bytes} {dirs : List Bytes} (set : flag ≠ 0)
      (named : OpaqueText dir text) (listed : GroupPart groups) (setAgain : again ≠ 0)
      (rest : ExportsText dirs later) :
      ExportsText (dir :: dirs) [be32 flag, text, groups, be32 again, later].flatten

/-- The body starts with the layout of the export decoder. -/
def HoldsExports (dirs : List Bytes) (body : Bytes) : Prop :=
  ∃ text rest, ExportsText dirs text ∧ body = text ++ rest

/-- The body starts with the status zero and a whole handle. -/
def HoldsHandle (handle body : Bytes) : Prop :=
  ∃ text rest, OpaqueText handle text ∧ body = [be32 0, text, rest].flatten

/-- The body has its status word; after the status zero it also has a whole handle, the count of flavors, and
up to ten flavors. -/
inductive HoldsFhstatus : Bytes → Prop
  | refused {status : UInt32} {rest : Bytes} (failed : status ≠ 0) : HoldsFhstatus (be32 status ++ rest)
  | mounted {handle text rest : Bytes} {count : UInt32} (named : OpaqueText handle text)
      (flavors : 4 * min count.toNat 10 ≤ rest.length) : HoldsFhstatus [be32 0, text, be32 count, rest].flatten

/-- The call of the client comes back with the RPC status OK and this body. -/
def MountClient.Gets (client : MountClient) (proc : UInt32) (args body : Bytes) : Prop :=
  ∃ left, RpcClient.call MOUNTPROG MOUNTVERS proc args client.rpcClient = .ok (.OK, body) left

end Nfs3Rpc
