/-
This file states what `nfs3_mount_root` is for: the portmapper gives the port of the mount daemon, and the daemon
gives the handle of the export.
-/

import Nfs3Rpc.Format.Csuite.Server

namespace Nfs3Rpc.Csuite.Server
open Encoding SimpleRpc

/-- A port has two bytes, and a word that is cut off counts as zero. -/
def portIn (body : Bytes) : UInt16 :=
  if 4 ≤ body.length ∧ wordAt body 0 ≤ 65535 then (wordAt body 0).toUInt16 else 0

/-- The portmapper is asked for the port of a service over TCP. -/
def portRequest (prog vers : UInt32) : Bytes := [be32 prog, be32 vers, be32 IPPROTO_TCP_NUM, be32 0].flatten

/-- The daemon is asked for the handle of the export. -/
def mountRequest (exportPath : CString) : Bytes := opaqueBytes (clip exportPath.bytes)

/-- What the status of the call and the body of its reply make of the handle. -/
def mountOutcome (rootFh : NfsFh3T) (status : Int32) (body : Bytes) : Int32 × NfsFh3T :=
  if status ≠ NFSTEST_RPC_OK then
    (status, rootFh)
  else if body = [] then
    (NFSTEST_RPC_PROTO_ERR, rootFh)
  else if wordAt body 0 ≠ 0 then
    ((wordAt body 0).toInt32, rootFh)
  else
    (if wordAt body 4 = 0 then NFSTEST_RPC_PROTO_ERR else NFSTEST_RPC_OK,
      ⟨.block (opaqueAt body 4), wordAt body 4, wordAt body 4⟩)

/-- An environment, with the answers of the two services. -/
structure Mounting where
  env : Environment
  mapper : Answer
  daemon : Answer

/-- The portmapper is asked only when there is a host. -/
def Mounting.port (mounting : Mounting) : Except OutOfBounds UInt16 :=
  if given mounting.env.testServer then (response mounting.mapper).map fun (_, body) => portIn body else .ok 0

/-- The daemon is called only at a port, and only for an export. -/
def Mounting.outcome (mounting : Mounting) (rootFh : NfsFh3T) : Except OutOfBounds (Int32 × NfsFh3T) := do
  let port ← mounting.port
  if given mounting.env.testExport = true ∧ port ≠ 0 then
    let (status, body) ← response mounting.daemon
    return mountOutcome rootFh status body
  else
    return (NFSTEST_RPC_CONN_ERR, rootFh)

/-- The calls that are made, with their ports. -/
def Mounting.log (mounting : Mounting) (port : UInt16) : List (CString × UInt16 × Option Bytes) :=
  match mounting.env.testServer with
  | none => []
  | some host =>
      if host.bytes = [] then
        []
      else
        (host, 111, recordOf mounting.mapper RPCBPROG RPCBVERS RPCBPROC_GETPORT (portRequest MOUNT_PROGRAM MOUNT_V3)) ::
          match mounting.env.testExport with
          | none => []
          | some exportPath =>
              if exportPath.bytes = [] ∨ port = 0 then
                []
              else
                [(host, port,
                  recordOf mounting.daemon MOUNT_PROGRAM MOUNT_V3 MOUNTPROC3_MNT (mountRequest exportPath))]

/-- The replies can be parsed, and a body of the daemon has its status and, when this is zero, a whole handle. -/
def Mounting.Serves (mounting : Mounting) : Prop :=
  ∃ port, mounting.port = .ok port ∧ (given mounting.env.testExport = true → port ≠ 0 →
    ∃ status body, response mounting.daemon = .ok (status, body) ∧
      (body ≠ [] → 4 ≤ body.length ∧ (wordAt body 0 = 0 → HoldsOpaque body 4)))

/-- An outcome that the answers give, reached from every stack with the calls that the log lists. -/
def MountsTo (mounting : Mounting) (rootFh : NfsFh3T) (peers : List (Option Socket))
    (outcome : Int32 × NfsFh3T) : Prop :=
  ∃ port, mounting.port = .ok port ∧ mounting.outcome rootFh = .ok outcome ∧ outcome.2.Owned ∧
    (outcome.1 = NFSTEST_RPC_OK → outcome.2.WellFormed ∧ outcome.2.len ≠ 0) ∧ ∀ tester,
      Ready (fun _ => True) peers [] tester → ∃ last, nfs3MountRoot mounting.env rootFh tester =
        .ok outcome last ∧
        Ready (fun _ => True) (peers.drop (mounting.log port).length) (mounting.log port) last

end Nfs3Rpc.Csuite.Server
