/-
This file is `nfs3_server_test.c`: the helpers that the tests of the C suite call a real server with.
The setters and destructors of the arguments are from `nfs3_types.c`.
-/

import Nfs3Rpc.Construction.Csuite.Procedures
import Nfs3Rpc.Construction.SimpleRpc.Interface

namespace Nfs3Rpc.Csuite.Server
open Encoding SimpleRpc

/-- A C string has no zero byte before its end. -/
structure CString where
  bytes : Bytes
  ended : 0 ∉ bytes
  deriving DecidableEq

def CString.ptr (s : CString) : Ptr := .block (s.bytes ++ [0])

/-- A variable that is not set is absent. -/
structure Environment where
  testServer : Option CString := none
  testExport : Option CString := none
  testPort : Option CString := none

def isspace (c : UInt8) : Bool := c = 32 ∨ (9 ≤ c ∧ c ≤ 13)

def isdigit (c : UInt8) : Bool := 48 ≤ c ∧ c ≤ 57

/-- The number that the digits write in base ten. -/
def decimal (digits : Bytes) : Nat := digits.foldl (fun number digit => 10 * number + (digit.toNat - 48)) 0

/-- This is `strtoul` for base ten with an `unsigned long` of 64 bits: a number that is too large is the largest
one, and a minus sign negates modulo 2 ^ 64. No digit means no number. -/
def strtoul (text : Bytes) : Option (Nat × Bytes) :=
  let text := text.dropWhile isspace
  let (negative, text) :=
    match text with
    | 45 :: rest => (true, rest)
    | 43 :: rest => (false, rest)
    | text => (false, text)
  let digits := text.takeWhile isdigit
  if digits = [] then
    none
  else
    let number := decimal digits
    let value := if number ≥ 2 ^ 64 then 2 ^ 64 - 1 else if negative then (2 ^ 64 - number) % 2 ^ 64 else number
    some (value, text.dropWhile isdigit)

def nfs3ServerHost (env : Environment) : Option CString := env.testServer

def nfs3ServerExport (env : Environment) : Option CString := env.testExport

def nfs3ServerPort (env : Environment) : UInt16 :=
  match env.testPort with
  | none => 2049
  | some portEnv =>
      if portEnv.bytes = [] then
        2049
      else
        match strtoul portEnv.bytes with
        | none => 0
        | some (port, rest) => if rest ≠ [] ∨ port = 0 ∨ port > 65535 then 0 else UInt16.ofNat port

/-- The variable is set, and not to an empty string. -/
def given (setting : Option CString) : Bool :=
  match setting with
  | none => false
  | some text => text.bytes ≠ []

def nfs3ServerIsConfigured (env : Environment) : Bool :=
  given (nfs3ServerHost env) && given (nfs3ServerExport env) && nfs3ServerPort env ≠ 0

/-- A run ends at undefined behavior of the codec, at a load of `parse_reply` outside of the reply, or where a
string would be made of a null pointer. -/
inductive Halt where
  | codec (fault : Fault)
  | reply (fault : OutOfBounds)
  | nullString

/-- This is what is left of one attempt to connect: no socket means that it was refused. -/
structure Visit where
  host : CString
  port : UInt16
  socket : Option Socket

/-- Each run of the codec finds its own words on the stack, and each attempt to connect takes the next peer. -/
structure Tester where
  frames : Nat → Nat → UInt32
  depth : Nat
  peers : List (Option Socket)
  visits : List Visit

abbrev Test := EStateM Halt Tester

/-- The program works on a buffer of its own. -/
def onBuffer {α : Type} (data : Bytes) (program : Run α) : Test (α × Bytes) := fun tester =>
  let next := { tester with frames := fun index => tester.frames (index + 1) }
  match program ⟨⟨data, 0⟩, tester.frames 0, tester.depth⟩ with
  | .ok value machine => .ok (value, machine.buf.data) next
  | .error fault _ => .error (.codec fault) next

/-- A buffer that was never written to has no block. -/
def xdrBufData (bytes : Bytes) : Ptr := if bytes = [] then .null else .block bytes

/-- The program works on a copy of the response. -/
def onBody {α : Type} (resp : Response) (program : Run α) : Test α := do
  let (copy, _) ← onBuffer [] (readBlock resp.data resp.len)
  let (value, _) ← onBuffer copy program
  return value

/-- A client of its own makes the one call. -/
def rpcCallBytes (host : Option CString) (port : UInt16) (prog vers proc : UInt32) (args : Ptr) (argsLen : Nat) :
    Test (Int32 × Response) := fun tester =>
  match host with
  | none => .error .nullString tester
  | some host =>
      let closed (socket : Option Socket) : Tester :=
        { tester with peers := tester.peers.tail, visits := tester.visits ++ [⟨host, port, socket⟩] }
      match nfstestRpcConnect tester.peers.head?.join with
      | none => .ok (NFSTEST_RPC_CONN_ERR, {}) (closed none)
      | some client =>
          match nfstestRpcCall prog vers proc args argsLen (some {}) true (some client) with
          | .error fault left => .error (.reply fault) (closed (left.bind fun client => client.transport.fd))
          | .ok (status, resp) left => .ok (status, resp.getD {}) (closed (left.bind fun client => client.transport.fd))

def RPCBPROG : UInt32 := 100000

def RPCBVERS : UInt32 := 2

def RPCBPROC_GETPORT : UInt32 := 3

def IPPROTO_TCP_NUM : UInt32 := 6

def MOUNT_PROGRAM : UInt32 := 100005

def MOUNT_V3 : UInt32 := 3

def MOUNTPROC3_MNT : UInt32 := 1

def getRpcServicePort (env : Environment) (prog vers : UInt32) : Test UInt16 := do
  if ¬ given (nfs3ServerHost env) then
    return 0
  let (_, args) ← onBuffer [] do
    xdrPackUint32 prog
    xdrPackUint32 vers
    xdrPackUint32 IPPROTO_TCP_NUM
    xdrPackUint32 0
  let (status, resp) ← rpcCallBytes (nfs3ServerHost env) 111 RPCBPROG RPCBVERS RPCBPROC_GETPORT (xdrBufData args)
    args.length
  if status ≠ NFSTEST_RPC_OK ∨ resp.data = .null then
    return 0
  let port ← onBody resp (into 0 xdrUnpackUint32)
  if port = 0 ∨ port > 65535 then
    return 0
  return port.toUInt16

/-- Neither result of the two decoders is checked, and the status starts at zero. -/
def unpackMountReply (rootFh : NfsFh3T) : Run (UInt32 × NfsFh3T) := do
  let mountStatus ← into 0 xdrUnpackUint32
  if mountStatus = 0 then
    let rootFh ← xdrUnpackNfsFh3 rootFh
    return (mountStatus, rootFh)
  else
    return (mountStatus, rootFh)

def nfs3MountRoot (env : Environment) (rootFh : NfsFh3T) : Test (Int32 × NfsFh3T) := do
  let mountPort ← getRpcServicePort env MOUNT_PROGRAM MOUNT_V3
  match nfs3ServerExport env with
  | none => return (NFSTEST_RPC_CONN_ERR, rootFh)
  | some exportPath =>
      if exportPath.bytes = [] ∨ mountPort = 0 then
        return (NFSTEST_RPC_CONN_ERR, rootFh)
      let (_, args) ← onBuffer [] (xdrPackCstring exportPath.ptr)
      let (status, resp) ← rpcCallBytes (nfs3ServerHost env) mountPort MOUNT_PROGRAM MOUNT_V3 MOUNTPROC3_MNT
        (xdrBufData args) args.length
      if status ≠ NFSTEST_RPC_OK ∨ resp.data = .null then
        return (if status = NFSTEST_RPC_OK then NFSTEST_RPC_PROTO_ERR else status, rootFh)
      let (mountStatus, rootFh) ← onBody resp (unpackMountReply rootFh)
      if mountStatus ≠ 0 then
        return (mountStatus.toInt32, rootFh)
      if nfsFh3IsEmpty rootFh then
        return (NFSTEST_RPC_PROTO_ERR, rootFh)
      return (NFSTEST_RPC_OK, rootFh)

/-- Without arguments there is no buffer. -/
def nfs3ServerCall (env : Environment) (proc : UInt32) (args : Option Bytes) : Test (Int32 × Response) := do
  if ¬ nfs3ServerIsConfigured env then
    return (NFSTEST_RPC_CONN_ERR, {})
  match args with
  | none => rpcCallBytes (nfs3ServerHost env) (nfs3ServerPort env) NFS_PROGRAM NFS_V3 proc .null 0
  | some args =>
      rpcCallBytes (nfs3ServerHost env) (nfs3ServerPort env) NFS_PROGRAM NFS_V3 proc (xdrBufData args) args.length

def strdup (s : Ptr) : Run Ptr := do
  let len ← strlen s
  let copy ← readBlock s (len + 1)
  return .block copy

/-- The setters of the names all replace one pointer. -/
def setName (field name : Ptr) : Run Ptr := do
  let _ ← free field
  if name = .null then
    return .null
  else
    strdup name

/-- What a helper has once its reply is decoded; no response means that there was nothing to decode. -/
structure Exchanged (β : Type) where
  status : Int32
  answered : Bool
  nfsStatus : Nfsstat3
  found : β

/-- A response that is there is decoded; no response leaves what the variables start with. -/
def decodeResponse {β : Type} (decode : Run (Nfsstat3 × β)) (unanswered : β) (status : Int32) (resp : Response) :
    Test (Nfsstat3 × β) :=
  if status = NFSTEST_RPC_OK ∧ resp.data ≠ .null then onBody resp decode
  else pure ( Nfsstat3.NFS3ERR_IO, unanswered)

/-- The helpers all pack their arguments, make one call, decode its response, and free the arguments. -/
def exchange {α β : Type} (env : Environment) (proc : ProcNum) (build : Run α) (decode : Run (Nfsstat3 × β))
    (unanswered : β) (destroy : α → Run Unit) : Test (Exchanged β) := do
  let (made, args) ← onBuffer [] build
  let (status, resp) ← nfs3ServerCall env proc.code (some args)
  let (nfsStatus, found) ← decodeResponse decode unanswered status resp
  let _ ← onBuffer args (destroy made)
  return { status, answered := resp.data ≠ .null, nfsStatus, found }

/-- The status of the call comes first, then an empty response, and the status of the server last. -/
def Exchanged.verdict {β : Type} (done : Exchanged β) : Int32 :=
  if done.status ≠ NFSTEST_RPC_OK then
    done.status
  else if done.answered then
    done.nfsStatus.code.toInt32
  else
    NFSTEST_RPC_PROTO_ERR

/-- The helpers with a name copy the handle and the name into new arguments, and pack these. -/
def packNamed {α : Type} (pack : α → Run Unit) (args : NfsFh3T → Ptr → α) (dir : NfsFh3T)
    (name : Ptr) : Run α := do
  let dir ← nfsFh3Set nfsFh3Init dir.data dir.len
  let name ← setName .null name
  pack (args dir name)
  return args dir name

def packFile {α : Type} (pack : α → Run Unit) (args : NfsFh3T → α) (file : NfsFh3T) : Run α := do
  let file ← nfsFh3Set nfsFh3Init file.data file.len
  pack (args file)
  return args file

/-- A handle and a block are what the arguments own. -/
def destroyArgs (handle : NfsFh3T) (block : Ptr) : Run Unit := do
  let _ ← nfsFh3Destroy handle
  let _ ← free block

/-- The handle is copied when the call has succeeded and the caller has a place for it. -/
def setOut (nfsStatus : Nfsstat3) (outFh : Option NfsFh3T) (object : NfsFh3T) : Run (Option NfsFh3T) :=
  match outFh with
  | none => return none
  | some outFh =>
      if nfsStatus = .NFS3_OK then do
        let outFh ← nfsFh3Set outFh object.data object.len
        return some outFh
      else
        return some outFh

/-- The results with a handle give a copy of it to the caller, and are then destroyed. -/
def decodeHandle {ok : Type} (unpack : ResT ok → Run (ResT ok)) (zeros : ok) (object : ok → NfsFh3T)
    (destroy : ok → Run ok) (outFh : Option NfsFh3T) : Run (Nfsstat3 × Option NfsFh3T) := do
  let res ← unpack { status := ⟨0⟩, hasResok := 0, resok := zeros }
  let outFh ← setOut res.status outFh (object res.resok)
  let _ ← destroy res.resok
  return (res.status, outFh)

def nfs3CreateTestFile (env : Environment) (dir : NfsFh3T) (name : Ptr) (outFh : Option NfsFh3T) :
    Test (Int32 × Option NfsFh3T) := do
  let args (whereDir : NfsFh3T) (whereName : Ptr) : CREATE3argsT :=
    { whereDir, whereName, howMode := .UNCHECKED, howAttributes := { modeSet := 1, mode := 0o600 } }
  let done ← exchange env .CREATE (packNamed xdrPackCREATE3args args dir name)
    (decodeHandle xdrUnpackCREATE3res {} NewObjectT.object NewObjectT.destroy outFh) outFh
    fun args => destroyArgs args.whereDir args.whereName
  return (done.verdict, done.found)

def nfs3CreateTestDir (env : Environment) (dir : NfsFh3T) (name : Ptr) (outFh : Option NfsFh3T) :
    Test (Int32 × Option NfsFh3T) := do
  let args (whereDir : NfsFh3T) (whereName : Ptr) : MKDIR3argsT :=
    { whereDir, whereName, attributes := { modeSet := 1, mode := 0o700 } }
  let done ← exchange env .MKDIR (packNamed xdrPackMKDIR3args args dir name)
    (decodeHandle xdrUnpackMKDIR3res {} NewObjectT.object NewObjectT.destroy outFh) outFh
    fun args => destroyArgs args.whereDir args.whereName
  return (done.verdict, done.found)

def nfs3LookupName (env : Environment) (dir : NfsFh3T) (name : Ptr) (outFh : Option NfsFh3T) :
    Test (Int32 × Option NfsFh3T) := do
  let done ← exchange env .LOOKUP (packNamed xdrPackLOOKUP3args LOOKUP3argsT.mk dir name)
    (decodeHandle xdrUnpackLOOKUP3res {} LOOKUP3resokT.object LOOKUP3resokT.destroy outFh) outFh
    fun args => destroyArgs args.whatDir args.whatName
  return (done.verdict, done.found)

/-- An object that is not there counts as removed. -/
def goneIsRemoved (nfsStatus : Nfsstat3) : Nfsstat3 := if nfsStatus = .NFS3ERR_NOENT then .NFS3_OK else nfsStatus

/-- The results of REMOVE and RMDIR own nothing. -/
def decodeRemoved (unpack : ResT RemovedEntryT → Run (ResT RemovedEntryT)) : Run (Nfsstat3 × Unit) := do
  let res ← unpack { status := ⟨0⟩, hasResok := 0, resok := {} }
  return (res.status, ())

/-- Both helpers that call REMOVE send and decode the same. -/
def callRemove (env : Environment) (dir : NfsFh3T) (name : Ptr) : Test (Exchanged Unit) :=
  exchange env .REMOVE (packNamed xdrPackREMOVE3args REMOVE3argsT.mk dir name) (decodeRemoved xdrUnpackREMOVE3res) ()
    fun args => destroyArgs args.objectDir args.objectName

def nfs3RemoveTestFile (env : Environment) (dir : NfsFh3T) (name : Ptr) : Test Int32 := do
  let done ← callRemove env dir name
  return { done with nfsStatus := goneIsRemoved done.nfsStatus }.verdict

/-- An empty response is not told apart, so it leaves the status that the variable starts with. -/
def nfs3RemoveIfTestFile (env : Environment) (rootFh : NfsFh3T) (name : Ptr) : Test Int32 := do
  let done ← callRemove env rootFh name
  if done.status ≠ NFSTEST_RPC_OK then
    return done.status
  else
    return (goneIsRemoved done.nfsStatus).code.toInt32

def nfs3RmdirTestDir (env : Environment) (dir : NfsFh3T) (name : Ptr) : Test Int32 := do
  let done ← exchange env .RMDIR (packNamed xdrPackRMDIR3args RMDIR3argsT.mk dir name)
    (decodeRemoved xdrUnpackRMDIR3res) () fun args => destroyArgs args.objectDir args.objectName
  return { done with nfsStatus := goneIsRemoved done.nfsStatus }.verdict

def decodeWritten : Run (Nfsstat3 × Unit) := do
  let res ← xdrUnpackWRITE3res { status := ⟨0⟩, hasResok := 0 }
  return (res.status, ())

/-- The guard and the fields of the arguments are those of `Csuite.nfs3WriteData`. -/
def nfs3WriteData (env : Environment) (file : NfsFh3T) (offset : UInt64) (stable : StableHow) (data : Bytes) :
    Test Int32 := do
  match Csuite.nfs3WriteData file offset stable data with
  | .error nfsStatus => return nfsStatus.code.toInt32
  | .ok writeArgs =>
      let done ← exchange env .WRITE (packFile xdrPackWRITE3args (fun file => { writeArgs with file }) file)
        decodeWritten () fun args => destroyArgs args.file args.data
      return done.verdict

/-- A place that the caller does not pass is absent. -/
structure ReadPlaces where
  data : Option Ptr := none
  len : Option Nat := none
  eof : Option Int32 := none
  deriving DecidableEq

def cleared (places : ReadPlaces) : ReadPlaces where
  data := places.data.map fun _ => .null
  len := places.len.map fun _ => 0
  eof := places.eof.map fun _ => 0

/-- The block moves to a caller who has a place for it, and is destroyed with the result otherwise. -/
def decodeData (places : ReadPlaces) : Run (Nfsstat3 × ReadPlaces) := do
  let res ← xdrUnpackREAD3res { status := ⟨0⟩, hasResok := 0, resok := {} }
  if res.status = .NFS3_OK then
    let _ ← READ3resokT.destroy { res.resok with data := if places.data.isSome then .null else res.resok.data }
    return (res.status, {
      data := places.data.map fun _ => res.resok.data
      len := places.len.map fun _ => res.resok.dataLen.toNat
      eof := places.eof.map fun _ => res.resok.eof })
  else
    let _ ← res.resok.destroy
    return (res.status, cleared places)

def nfs3ReadData (env : Environment) (file : NfsFh3T) (offset : UInt64) (count : UInt32) (places : ReadPlaces) :
    Test (Int32 × ReadPlaces) := do
  let done ← exchange env .READ (packFile xdrPackREAD3args (fun file => { file, offset, count }) file)
    (decodeData places) (cleared places) fun args => destroyArgs args.file .null
  return (done.verdict, done.found)

end Nfs3Rpc.Csuite.Server
