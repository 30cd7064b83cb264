/-
This file states the server helpers without their codec and their connections: what each one asks for, and what it
makes of the body of an answer.
-/

import Nfs3Rpc.Construction.Csuite.Server
import Nfs3Rpc.Format.Csuite.Memory
import Nfs3Rpc.Format.Csuite.Wire
import Nfs3Rpc.Format.Sessions

namespace Nfs3Rpc.Csuite.Server
open Encoding SimpleRpc

/-- These helpers make one call of the file server each; a write of more bytes is refused before the call. -/
inductive Helper where
  | createTestFile (dir : NfsFh3T) (name : Ptr) (outFh : Option NfsFh3T)
  | createTestDir (dir : NfsFh3T) (name : Ptr) (outFh : Option NfsFh3T)
  | lookupName (dir : NfsFh3T) (name : Ptr) (outFh : Option NfsFh3T)
  | removeTestFile (dir : NfsFh3T) (name : Ptr)
  | removeIfTestFile (rootFh : NfsFh3T) (name : Ptr)
  | rmdirTestDir (dir : NfsFh3T) (name : Ptr)
  | writeData (file : NfsFh3T) (offset : UInt64) (stable : StableHow) (data : Bytes) (counted : data.length < 2 ^ 32)
  | readData (file : NfsFh3T) (offset : UInt64) (count : UInt32) (places : ReadPlaces)

/-- A helper returns its verdict, and leaves the rest in the places that its caller passes. -/
structure Outcome where
  verdict : Int32
  outFh : Option NfsFh3T := none
  places : ReadPlaces := {}
  deriving DecidableEq

def Helper.run (env : Environment) : Helper → Test Outcome
  | .createTestFile dir name outFh => do
      let (verdict, outFh) ← nfs3CreateTestFile env dir name outFh
      return { verdict, outFh }
  | .createTestDir dir name outFh => do
      let (verdict, outFh) ← nfs3CreateTestDir env dir name outFh
      return { verdict, outFh }
  | .lookupName dir name outFh => do
      let (verdict, outFh) ← nfs3LookupName env dir name outFh
      return { verdict, outFh }
  | .removeTestFile dir name => do
      let verdict ← nfs3RemoveTestFile env dir name
      return { verdict }
  | .removeIfTestFile rootFh name => do
      let verdict ← nfs3RemoveIfTestFile env rootFh name
      return { verdict }
  | .rmdirTestDir dir name => do
      let verdict ← nfs3RmdirTestDir env dir name
      return { verdict }
  | .writeData file offset stable data _ => do
      let verdict ← nfs3WriteData env file offset stable data
      return { verdict }
  | .readData file offset count places => do
      let (verdict, places) ← nfs3ReadData env file offset count places
      return { verdict, places }

def Helper.proc : Helper → ProcNum
  | .createTestFile .. => .CREATE
  | .createTestDir .. => .MKDIR
  | .lookupName .. => .LOOKUP
  | .removeTestFile .. => .REMOVE
  | .removeIfTestFile .. => .REMOVE
  | .rmdirTestDir .. => .RMDIR
  | .writeData .. => .WRITE
  | .readData .. => .READ

/-- The new file has mode 0600 and the new directory mode 0700. -/
def Helper.args : (helper : Helper) → helper.proc.ArgsT
  | .createTestFile dir name _ =>
      ({ whereDir := dir, whereName := name, howMode := .UNCHECKED, howAttributes := { modeSet := 1, mode := 0o600 } } :
        CREATE3argsT)
  | .createTestDir dir name _ =>
      ({ whereDir := dir, whereName := name, attributes := { modeSet := 1, mode := 0o700 } } : MKDIR3argsT)
  | .lookupName dir name _ => ({ whatDir := dir, whatName := name } : LOOKUP3argsT)
  | .removeTestFile dir name => ({ objectDir := dir, objectName := name } : REMOVE3argsT)
  | .removeIfTestFile rootFh name => ({ objectDir := rootFh, objectName := name } : REMOVE3argsT)
  | .rmdirTestDir dir name => ({ objectDir := dir, objectName := name } : RMDIR3argsT)
  | .writeData file offset stable data _ =>
      let len := UInt32.ofNat data.length
      ({ file, offset, count := len, stable, data := .block data, dataLen := len } : WRITE3argsT)
  | .readData file offset count _ => ({ file, offset, count } : READ3argsT)

/-- These are the arguments on the wire. -/
def Helper.request (helper : Helper) : Bytes :=
  helper.proc.wireArgsT (helper.proc.clippedArgs (helper.proc.messageArgs helper.args))

/-- The handle that the caller has before the call. -/
def Helper.outFh : Helper → Option NfsFh3T
  | .createTestFile _ _ outFh | .createTestDir _ _ outFh | .lookupName _ _ outFh => outFh
  | _ => none

/-- The arguments are well formed, the handle of the caller can be freed, and the call fits into one record. -/
structure Helper.Legal (helper : Helper) : Prop where
  formed : helper.proc.WellFormedArgs helper.args
  owned : ∀ fh ∈ helper.outFh, fh.Owned
  short : helper.request.length < 2 ^ 31 - 72

/-- The bytes of the opaque that stands here. -/
def opaqueAt (b : Bytes) (pos : Nat) : Bytes := (b.drop (pos + 4)).take (wordAt b pos).toNat

/-- A copy of a handle has a block of its own, and an empty handle has none. -/
def handleOf (data : Bytes) : NfsFh3T :=
  if data = [] then {} else { data := .block data, len := UInt32.ofNat data.length, cap := UInt32.ofNat data.length }

/-- The handle of a new object follows a flag. -/
def newObject (body : Bytes) : Bytes := if wordAt body 4 = 0 then [] else opaqueAt body 8

/-- The end of the file and the data stand behind the attributes and the count. -/
def eofPos (body : Bytes) : Nat := skip 4 body (skipPostOpAttr body 4)

def dataPos (body : Bytes) : Nat := skip 4 body (eofPos body)

/-- The status word is there and, when it is zero, so is everything that the helper takes. -/
def Helper.Whole (body : Bytes) (helper : Helper) : Prop :=
  4 ≤ body.length ∧ (wordAt body 0 = 0 →
    match helper with
    | .createTestFile .. | .createTestDir .. => 8 ≤ body.length ∧ (wordAt body 4 ≠ 0 → HoldsOpaque body 8)
    | .lookupName .. => HoldsOpaque body 4
    | .readData .. => HoldsOpaque body (dataPos body)
    | _ => True)

/-- The places of the caller after the data of the body is moved out. -/
def filled (body : Bytes) (places : ReadPlaces) : ReadPlaces where
  data := places.data.map fun _ => .block (opaqueAt body (dataPos body))
  len := places.len.map fun _ => (wordAt body (dataPos body)).toNat
  eof := places.eof.map fun _ => if eofPos body + 4 ≤ body.length ∧ wordAt body (eofPos body) ≠ 0 then 1 else 0

/-- What a whole body tells the caller. -/
def Helper.found (body : Bytes) : Helper → Outcome
  | .createTestFile _ _ outFh | .createTestDir _ _ outFh =>
      { verdict := (wordAt body 0).toInt32
        outFh := if wordAt body 0 = 0 then outFh.map fun _ => handleOf (newObject body) else outFh }
  | .lookupName _ _ outFh =>
      { verdict := (wordAt body 0).toInt32
        outFh := if wordAt body 0 = 0 then outFh.map fun _ => handleOf (opaqueAt body 4) else outFh }
  | .removeTestFile .. | .removeIfTestFile .. | .rmdirTestDir .. =>
      { verdict := (goneIsRemoved ⟨wordAt body 0⟩).code.toInt32 }
  | .writeData .. => { verdict := (wordAt body 0).toInt32 }
  | .readData _ _ _ places =>
      { verdict := (wordAt body 0).toInt32
        places := if wordAt body 0 = 0 then filled body places else cleared places }

/-- Without a body the caller keeps its handle, and its other places are cleared. -/
def Helper.unanswered (verdict : Int32) : Helper → Outcome
  | .createTestFile _ _ outFh | .createTestDir _ _ outFh | .lookupName _ _ outFh => { verdict, outFh }
  | .readData _ _ _ places => { verdict, places := cleared places }
  | _ => { verdict }

/-- One helper does not tell an empty body apart from a failed removal. -/
def Helper.silence : Helper → Int32
  | .removeIfTestFile .. => Nfsstat3.NFS3ERR_IO.code.toInt32
  | _ => NFSTEST_RPC_PROTO_ERR

/-- The peer refuses the connection, or sends some replies. -/
abbrev Answer := Option (List Bytes)

/-- However the system calls split its bytes, the connection gives this answer. -/
inductive Gives : Option Socket → Answer → Prop
  | refused : Gives none none
  | linked {socket : Socket} {replies : List Bytes} (linked : SimpleRpc.Linked socket ⟨1, [], replies⟩) :
      Gives (some socket) (some replies)

/-- The status of the call, with the body of a reply that accepts it. -/
def response : Answer → Except OutOfBounds (Int32 × Bytes)
  | none => .ok (NFSTEST_RPC_CONN_ERR, [])
  | some [] => .ok (mapStatus .RECV_ERR, [])
  | some (reply :: _) =>
      match parseReply reply 1 [] with
      | .error fault => .error fault
      | .ok (status, body) => .ok (mapStatus status, if status = .OK then body else [])

/-- What a helper makes of a status and a body. -/
def Helper.outcome (status : Int32) (body : Bytes) (helper : Helper) : Outcome :=
  if status ≠ NFSTEST_RPC_OK then
    helper.unanswered status
  else if body = [] then
    helper.unanswered helper.silence
  else
    helper.found body

/-- The reply can be parsed, and the helper finds in its body what it takes. -/
def Helper.Serves (answer : Answer) (helper : Helper) : Prop :=
  ∃ status body, response answer = .ok (status, body) ∧ (body ≠ [] → helper.Whole body)

/-- No pointer of the outcome is wild. -/
def Outcome.Owned (outcome : Outcome) : Prop :=
  (∀ fh ∈ outcome.outFh, fh.Owned) ∧ ∀ data ∈ outcome.places.data, data.Owned

/-- A tester with these words in every uninitialized local, and these connections before and behind it. -/
structure Ready (garbage : UInt32 → Prop) (peers : List (Option Socket))
    (log : List (CString × UInt16 × Option Bytes))
    (tester : Tester) : Prop where
  frames : ∀ frame index, garbage (tester.frames frame index)
  peers : tester.peers = peers
  visits : (tester.visits.map fun visit => (visit.host, visit.port, visit.socket.map Socket.sent)) = log

/-- The body is in a block of its own, and an empty body has none. -/
def bodyResponse (body : Bytes) : Response := if body = [] then {} else { data := .block body, len := body.length }

/-- A call leaves one record on its connection, unless that was refused. -/
def recordOf (answer : Answer) (prog vers proc : UInt32) (args : Bytes) : Option Bytes :=
  answer.map fun _ => Peer.recordWire (buildCall 1 prog vers proc args)

/-- A helper meets an answer. -/
structure Turn where
  helper : Helper
  answer : Answer

/-- What the helper is for: its outcome depends on its answer only. -/
def Turn.outcome (turn : Turn) : Except OutOfBounds Outcome :=
  match response turn.answer with
  | .error fault => .error fault
  | .ok (status, body) => .ok (turn.helper.outcome status body)

/-- Its call goes to the port of the file server, with its own arguments and nothing else. -/
def Turn.entry (env : Environment) (host : CString) (turn : Turn) : CString × UInt16 × Option Bytes :=
  (host, nfs3ServerPort env, recordOf turn.answer NFS_PROGRAM NFS_V3 turn.helper.proc.code turn.helper.request)

/-- Whatever stands on the stack, the helpers return these outcomes, and each has made its one call. -/
def Settles (env : Environment) (host : CString) (turns : List Turn) (peers : List (Option Socket))
    (outcomes : List Outcome) : Prop :=
  ∀ tester, Ready (fun _ => True) peers [] tester →
    ∃ last, inOrder (fun turn : Turn => turn.helper.run env) turns tester = .ok outcomes last ∧
      Ready (fun _ => True) [] (turns.map (Turn.entry env host)) last

end Nfs3Rpc.Csuite.Server
