/-
This file is `rpc_protocol.hpp`: the ONC RPC call header and the parser of a reply.
-/

import Nfs3Rpc.Encoding.Words

namespace Nfs3Rpc.SimpleRpc
open Encoding

def MSG_CALL : UInt32 := 0

def MSG_REPLY : UInt32 := 1

def RPCVERS : UInt32 := 2

def AUTH_NONE : UInt32 := 0

def AUTH_SYS : UInt32 := 1

inductive RpcStatus where
  | OK | CONN_ERR | TIMEOUT | PROG_UNAVAIL | PROG_MISMATCH | PROC_UNAVAIL | GARBAGE_ARGS | AUTH_ERROR
  | PROTO_ERR | SEND_ERR | RECV_ERR
  deriving DecidableEq

/-- A vector argument is passed by reference, so each writer returns the new vector. -/
def writeUint32Be (buf : Bytes) (val : UInt32) : Bytes := buf ++ be32 val

/-- A load outside the message has undefined behavior; the model stops with its place. -/
structure OutOfBounds where
  offset : Nat
  count : Nat
  deriving DecidableEq

/-- The load has no check of its own. -/
def readUint32Be (data : Bytes) (offset : Nat) : Except OutOfBounds UInt32 :=
  if offset + 4 ≤ data.length then
    .ok (leadingWord (data.drop offset))
  else
    .error ⟨offset, 4⟩

/-- This is the range constructor behind `assign`. -/
def copyRange (data : Bytes) (offset count : Nat) : Except OutOfBounds Bytes :=
  if offset + count ≤ data.length then
    .ok ((data.drop offset).take count)
  else
    .error ⟨offset, count⟩

/-- The sum wraps at 32 bits before the division. -/
def roundedLength (length : UInt32) : UInt32 := (length + 3) / 4 * 4

def writeAuthNone (buf : Bytes) : Bytes := writeUint32Be (writeUint32Be buf AUTH_NONE) 0

/-- These bytes are the text `localhost`. -/
def hostname : Bytes := [108, 111, 99, 97, 108, 104, 111, 115, 116]

/-- The outer loop takes four characters and then fills the last word with zeros. -/
def writeHostname (buf : Bytes) : Bytes :=
  (List.range' 0 ((hostname.length + 3) / 4) 4).foldl
    (fun buf i => buf ++ (hostname.drop i).take 4 ++ List.replicate (4 - (hostname.length - i)) 0) buf

/-- The length word starts as zero; the last step writes the real length over it. -/
def writeAuthSysCred (buf : Bytes) (stamp uid gid : UInt32) (gids : List UInt32) : Bytes :=
  let buf := writeUint32Be buf AUTH_SYS
  let credLenOffset := buf.length
  let buf := writeUint32Be buf 0
  let credStart := buf.length
  let buf := writeUint32Be buf stamp
  let buf := writeUint32Be buf (UInt32.ofNat hostname.length)
  let buf := writeHostname buf
  let buf := writeUint32Be buf uid
  let buf := writeUint32Be buf gid
  let buf := writeUint32Be buf (UInt32.ofNat gids.length)
  let buf := gids.foldl writeUint32Be buf
  let credLen := UInt32.ofNat (buf.length - credStart)
  buf.take credLenOffset ++ be32 credLen ++ buf.drop (credLenOffset + 4)

def buildCall (xid prog vers proc : UInt32) (argsBody : Bytes) : Bytes :=
  let buf := writeUint32Be [] xid
  let buf := writeUint32Be buf MSG_CALL
  let buf := writeUint32Be buf RPCVERS
  let buf := writeUint32Be buf prog
  let buf := writeUint32Be buf vers
  let buf := writeUint32Be buf proc
  let buf := writeAuthSysCred buf 0 0 0 []
  let buf := writeAuthNone buf
  buf ++ argsBody

/-- An accept status other than SUCCESS ends the call with this status. -/
def acceptError (acceptStat : UInt32) : Option RpcStatus :=
  if acceptStat = 0 then none
  else if acceptStat = 1 then some .PROG_UNAVAIL
  else if acceptStat = 2 then some .PROG_MISMATCH
  else if acceptStat = 3 then some .PROC_UNAVAIL
  else if acceptStat = 4 then some .GARBAGE_ARGS
  else some .PROTO_ERR

/-- This part copies everything from the offset to the end of the message. -/
def copyBody (data : Bytes) (offset : Nat) : Except OutOfBounds (RpcStatus × Bytes) := do
  let bodyLen := sizeSub data.length offset
  let body ← copyRange data offset bodyLen
  return (.OK, body)

/-- This part follows the accept status of a successful call. -/
def parseBody (data : Bytes) (authFlavor : UInt32) (offset : Nat) (outBody : Bytes) :
    Except OutOfBounds (RpcStatus × Bytes) := do
  if authFlavor = AUTH_SYS then
    if offset + 4 > data.length then
      return (.PROTO_ERR, outBody)
    let verfLen ← readUint32Be data offset
    let offset := offset + 4 + (roundedLength verfLen).toNat
    if offset > data.length then
      return (.PROTO_ERR, outBody)
    copyBody data offset
  else
    copyBody data offset

/-- This part handles the reply status zero. -/
def parseAccepted (data outBody : Bytes) : Except OutOfBounds (RpcStatus × Bytes) := do
  let authFlavor ← readUint32Be data 12
  let authLen ← readUint32Be data 16
  let offset := 20 + (roundedLength authLen).toNat
  if offset > data.length then
    return (.PROTO_ERR, outBody)
  let acceptStat ← readUint32Be data offset
  match acceptError acceptStat with
  | some status => return (status, outBody)
  | none => parseBody data authFlavor (offset + 4) outBody

/-- This part handles the reply status one. -/
def parseDenied (data outBody : Bytes) : Except OutOfBounds (RpcStatus × Bytes) := do
  let rejectStat ← readUint32Be data 12
  if rejectStat = 0 then
    return (.PROG_MISMATCH, outBody)
  if rejectStat = 1 then
    return (.AUTH_ERROR, outBody)
  return (.PROTO_ERR, outBody)

def parseReply (data : Bytes) (expectedXid : UInt32) (outBody : Bytes) :
    Except OutOfBounds (RpcStatus × Bytes) := do
  if data.length < 20 then
    return (.PROTO_ERR, outBody)
  let xid ← readUint32Be data 0
  if xid ≠ expectedXid then
    return (.PROTO_ERR, outBody)
  let msgType ← readUint32Be data 4
  if msgType ≠ MSG_REPLY then
    return (.PROTO_ERR, outBody)
  let replyStat ← readUint32Be data 8
  if replyStat = 0 then
    parseAccepted data outBody
  else if replyStat = 1 then
    parseDenied data outBody
  else
    return (.PROTO_ERR, outBody)

end Nfs3Rpc.SimpleRpc
