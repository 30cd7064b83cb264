/-
This file is the built-in branch of `mount_client.cpp`.
-/

import Nfs3Rpc.Construction.Builtin.Endpoint

namespace Nfs3Rpc
open Encoding Builtin SimpleRpc

def MOUNTPROG : UInt32 := 100005

def MOUNTVERS : UInt32 := 3

def MOUNTPROC_MNT : UInt32 := 1

def MOUNTPROC_UMNT : UInt32 := 3

def MOUNTPROC_EXPORT : UInt32 := 5

/-- `IOERR` is the enumerator `IO = 5`. -/
inductive MountError where
  | OK | PERM | NOENT | IOERR | ACCES | NOTDIR | NAMETOOLONG
  deriving DecidableEq

/-- This enumerator has no value of its own: it follows `OK = 0`, and `PERM` is declared as 1 as well. -/
def MountError.RPC_ERROR : MountError := .PERM

structure MountResult where
  rootHandle : NfsFh3 := {}
  authFlavors : List Bytes := []
  deriving DecidableEq

structure FhstatusNative where
  status : UInt32
  fhandle : Bytes := []
  authFlavors : List Int32 := []
  deriving DecidableEq

/-- Each turn of the loop reads one flavor. -/
def unpackFlavors : Nat → Xdr (List Int32)
  | 0 => return []
  | count + 1 => do
    let flavor ← unpackInt32
    let later ← unpackFlavors count
    return flavor :: later

/-- At most ten flavors are read, whatever the count says. -/
def unpackFhstatus : Xdr FhstatusNative := do
  let status ← unpackUint32
  if status == 0 then
    let fhandle ← unpackOpaque
    let authCount ← unpackUint32
    let authFlavors ← unpackFlavors (min authCount.toNat 10)
    return { status, fhandle, authFlavors }
  else
    return { status }

/-- The inner loop drops the group names; the unread byte count bounds its turns. -/
def unpackGroups (unread : Nat) : Xdr Unit := do
  let hasGrp ← unpackBool
  match unread with
  -- No byte is left at this turn, so the first read has thrown.
  | 0 => return ()
  | unread + 1 =>
    if hasGrp then
      let _grp ← unpackString
      unpackGroups unread

/-- The inner loop runs only after a true flag. -/
def unpackGroupList (hasGroups : Bool) : Xdr Unit := do
  if hasGroups then
    let unread ← unreadBytes
    unpackGroups unread

/-- The outer loop reads a path and its groups, and then one more flag of its own. -/
def unpackExports (unread : Nat) (out : List Bytes) : Xdr (List Bytes) := do
  let hasEntry ← unpackBool
  match unread with
  | 0 => return out
  | unread + 1 =>
    if hasEntry then
      let dir ← unpackString
      let hasGroups ← unpackBool
      unpackGroupList hasGroups
      let more ← unpackBool
      if more then
        unpackExports unread (out ++ [dir])
      else
        return out ++ [dir]
    else
      return out

/-- A decoder runs on a buffer of its own. -/
def unpackFrom {α : Type} (program : Xdr α) (data : Bytes) : Except XdrError α :=
  match program ⟨data, 0⟩ with
  | .ok value _ => .ok value
  | .error error _ => .error error

def xdrUnpackFhstatus (data : Bytes) : Except XdrError FhstatusNative := unpackFrom unpackFhstatus data

def xdrUnpackExports (data : Bytes) (out : List Bytes) : Except XdrError (List Bytes) :=
  unpackFrom (unreadBytes >>= fun unread => unpackExports unread out) data

/-- The switch of `mnt` over a nonzero status. -/
def mountError : UInt32 → MountError
  | 1 => .PERM
  | 2 => .NOENT
  | 5 => .IOERR
  | 13 => .ACCES
  | 20 => .NOTDIR
  | 63 => .NAMETOOLONG
  | _ => .RPC_ERROR

/-- The pointer `impl_` is never null, and only the connection of the implementation is used after construction. -/
structure MountClient where
  rpcClient : RpcClient := {}
  deriving DecidableEq

/-- The constructor ignores whether it could connect. -/
def MountClient.construct (opened : Option Socket) : MountClient := ⟨(RpcClient.connect {} opened).2⟩

def MountClient.isConnected (client : MountClient) : Bool := client.rpcClient.isConnected

/-- A method runs against the connection of its client; an exception leaves it as a fault. -/
abbrev MountClient.Run (α : Type) := EStateM CallFault MountClient (Except MountError α)

/-- Each method makes one call, and only the status OK lets it look at the reply. -/
def MountClient.answered {α : Type} (proc : UInt32) (args : Bytes)
    (decode : Bytes → Except XdrError (Except MountError α)) : MountClient.Run α := fun client =>
  match RpcClient.call MOUNTPROG MOUNTVERS proc args client.rpcClient with
  | .error fault rpcClient => .error (.outOfBounds fault) ⟨rpcClient⟩
  | .ok (.OK, respData) rpcClient =>
      -- There is no `try` around the decoder.
      match decode respData with
      | .ok result => .ok result ⟨rpcClient⟩
      | .error error => .error (.uncaught error) ⟨rpcClient⟩
  | .ok _ rpcClient => .ok (.error .RPC_ERROR) ⟨rpcClient⟩

def MountClient.mnt (path : Bytes) : MountClient.Run MountResult := fun client =>
  if client.isConnected then
    match packString path XdrBuffer.empty with
    | .error error _ => .error (.uncaught error) client
    | .ok _ argsBuf =>
        MountClient.answered MOUNTPROC_MNT argsBuf.buffer (fun respData => do
          let fhs ← xdrUnpackFhstatus respData
          if fhs.status ≠ 0 then
            return .error (mountError fhs.status)
          else
            return .ok { rootHandle := ⟨fhs.fhandle⟩ }) client
  else
    .ok (.error .RPC_ERROR) client

def MountClient.umnt (path : Bytes) : MountClient.Run Unit := fun client =>
  if client.isConnected then
    match packString path XdrBuffer.empty with
    | .error error _ => .error (.uncaught error) client
    | .ok _ argsBuf => MountClient.answered MOUNTPROC_UMNT argsBuf.buffer (fun _ => .ok (.ok ())) client
  else
    .ok (.error .RPC_ERROR) client

def MountClient.listExports : MountClient.Run (List Bytes) := fun client =>
  if client.isConnected then
    MountClient.answered MOUNTPROC_EXPORT [] (fun respData => do
      let result ← xdrUnpackExports respData []
      return .ok result) client
  else
    .ok (.error .RPC_ERROR) client

/-- This method asks no server. -/
def MountClient.dump : MountClient.Run (List Bytes) := fun client =>
  if client.isConnected then
    .ok (.ok []) client
  else
    .ok (.error .RPC_ERROR) client

end Nfs3Rpc
