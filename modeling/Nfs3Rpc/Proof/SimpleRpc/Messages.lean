import Nfs3Rpc.Encoding.Programs
import Nfs3Rpc.Format.Exchange
import Nfs3Rpc.Proof.SimpleRpc.ParseReply

namespace Nfs3Rpc
open Encoding SimpleRpc

/-- The peer holds only the bytes that it has not read. -/
def Peer.reading : Reading Bytes := fun state _ rest => state = rest

namespace Peer

theorem bytes_reads (data : Bytes) : Reads Peer.reading (bytes data.length) data (· = data) := by
  intro state before rest same
  subst same
  have enough : ¬ (data ++ rest).length < data.length := by simp
  refine ⟨data, rest, ?_, rfl, rfl⟩
  have runs : bytes data.length (data ++ rest) =
      .ok ((data ++ rest).take data.length) ((data ++ rest).drop data.length) := by
    simp only [bytes, get_bind, if_neg enough]
    rfl
  rw [runs, List.take_left, List.drop_left]

theorem uint_reads (value : UInt32) : Reads Peer.reading uint (be32 value) (· = value) :=
  Reads.returning (bytes_reads (be32 value)) (word_be32 value)

theorem expect_reads (value : UInt32) : Reads Peer.reading (expect value) (be32 value) fun _ => True := by
  have sequence : Reads Peer.reading (expect value) [be32 value].flatten fun _ => True := by
    apply Reads.field (uint_reads value)
    simp only [ne_eq, not_true_eq_false, if_false]
    exact Reads.done trivial
  rwa [List.flatten_singleton] at sequence

theorem varOpaque_reads (data : Bytes) (fits : Short data) :
    Reads Peer.reading varOpaque (opaqueBytes data) (· = data) := by
  have length : (UInt32.ofNat data.length).toNat = data.length := by
    rw [UInt32.toNat_ofNat', Nat.mod_eq_of_lt fits]
  have pad := bytes_reads (List.replicate (padding data.length) 0)
  rw [List.length_replicate] at pad
  have fields : opaqueBytes data = [be32 (UInt32.ofNat data.length), data,
      List.replicate (padding data.length) 0].flatten := by
    simp [opaqueBytes, padded]
  rw [fields]
  apply Reads.field (uint_reads _)
  rw [length]
  exact .field (bytes_reads data) <| .field pad <| .done rfl

theorem opaqueAuth_reads (flavor : UInt32) (body : Bytes) (fits : Short body) :
    Reads Peer.reading opaqueAuth [be32 flavor, opaqueBytes body].flatten (· = ⟨flavor, body⟩) :=
  .field (uint_reads flavor) <| .field (varOpaque_reads body fits) <| .done rfl

/-- A record comes off the stream as its message. -/
theorem record_recordWire {message : Bytes} (small : message.length < 2 ^ 31) :
    record (recordWire message) = .ok message [] := by
  have mark : (UInt32.ofNat (2 ^ 31 + message.length)).toNat = 2 ^ 31 + message.length := by
    rw [UInt32.toNat_ofNat', Nat.mod_eq_of_lt (by omega)]
  have reads : Reads Peer.reading record [be32 (UInt32.ofNat (2 ^ 31 + message.length)), message].flatten
      (· = message) := by
    apply Reads.field (uint_reads _)
    have flagged : ¬ (2 ^ 31 + message.length < 2 ^ 31) := by omega
    simp only [mark, if_neg flagged, Nat.add_sub_cancel_left]
    exact Reads.last (bytes_reads message)
  obtain ⟨got, left, runs, rfl, rfl⟩ := reads (recordWire message) [] [] (by simp [Peer.reading, recordWire])
  exact runs

end Peer

namespace SimpleRpc

theorem writeHostname_eq (buf : Bytes) : writeHostname buf = buf ++ padded hostname := by
  have loop : writeHostname buf = buf ++ [108, 111, 99, 97] ++ [] ++ [108, 104, 111, 115] ++ [] ++ [116] ++
      [0, 0, 0] := rfl
  rw [loop]
  simp only [List.append_assoc]
  rfl

theorem foldl_writeUint32Be (gids : List UInt32) (buf : Bytes) :
    gids.foldl writeUint32Be buf = buf ++ (gids.map be32).flatten := by
  induction gids generalizing buf with
  | nil => simp
  | cons gid gids recurse => rw [List.foldl_cons, recurse, writeUint32Be]; simp

/-- The credential holds a stamp, the padded host name, the two ids, and the groups. -/
def credBody (stamp uid gid : UInt32) (gids : List UInt32) : Bytes :=
  [be32 stamp, be32 9, padded hostname, be32 uid, be32 gid, be32 (UInt32.ofNat gids.length),
    (gids.map be32).flatten].flatten

/-- The last step puts the length of the credential in front of it. -/
theorem writeAuthSysCred_eq (buf : Bytes) (stamp uid gid : UInt32) (gids : List UInt32) :
    writeAuthSysCred buf stamp uid gid gids = buf ++ be32 AUTH_SYS ++
      be32 (UInt32.ofNat (credBody stamp uid gid gids).length) ++ credBody stamp uid gid gids := by
  have filled : gids.foldl writeUint32Be (writeUint32Be (writeUint32Be (writeUint32Be (writeHostname
      (writeUint32Be (writeUint32Be (writeUint32Be (writeUint32Be buf AUTH_SYS) 0) stamp)
        (UInt32.ofNat hostname.length))) uid) gid) (UInt32.ofNat gids.length)) =
      (buf ++ be32 AUTH_SYS) ++ (be32 0 ++ credBody stamp uid gid gids) := by
    rw [foldl_writeUint32Be, writeHostname_eq]
    simp only [writeUint32Be, credBody, List.append_assoc, List.flatten_cons, List.flatten_nil,
      List.append_nil]
    rfl
  have start : (writeUint32Be (writeUint32Be buf AUTH_SYS) 0).length = (buf ++ be32 AUTH_SYS).length + 4 := by
    simp [writeUint32Be]
  have body : ((buf ++ be32 AUTH_SYS) ++ (be32 0 ++ credBody stamp uid gid gids)).drop
      ((buf ++ be32 AUTH_SYS).length + 4) = credBody stamp uid gid gids := by
    rw [← List.drop_drop, List.drop_left]
    rfl
  have length : ((buf ++ be32 AUTH_SYS) ++ (be32 0 ++ credBody stamp uid gid gids)).length -
      ((buf ++ be32 AUTH_SYS).length + 4) = (credBody stamp uid gid gids).length := by
    rw [← List.length_drop, body]
  simp only [writeAuthSysCred, filled, start, length]
  rw [writeUint32Be, List.take_left, body]

/-- The call is the header of RFC 5531 with its two authentication fields, and then the arguments. -/
theorem buildCall_fields (xid prog vers proc : UInt32) (argsBody : Bytes) :
    buildCall xid prog vers proc argsBody = [be32 xid, be32 0, be32 2, be32 prog, be32 vers, be32 proc,
      [be32 1, opaqueBytes (credBody 0 0 0 [])].flatten, [be32 0, opaqueBytes []].flatten].flatten ++
        argsBody := by
  rw [buildCall, writeAuthSysCred_eq]
  simp only [writeAuthNone, writeUint32Be, List.flatten_cons, List.flatten_nil, List.append_nil,
    List.append_assoc, List.nil_append]
  rfl

theorem buildCall_header (xid prog vers proc : UInt32) (argsBody : Bytes) :
    Peer.callHeader (buildCall xid prog vers proc argsBody) =
      .ok ⟨xid, prog, vers, proc, ⟨1, credBody 0 0 0 []⟩, ⟨0, []⟩⟩ argsBody := by
  have reads : Reads Peer.reading Peer.callHeader [be32 xid, be32 0, be32 2, be32 prog, be32 vers,
      be32 proc, [be32 1, opaqueBytes (credBody 0 0 0 [])].flatten, [be32 0, opaqueBytes []].flatten].flatten
      (· = ⟨xid, prog, vers, proc, ⟨1, credBody 0 0 0 []⟩, ⟨0, []⟩⟩) := by
    have credShort : Short (credBody 0 0 0 []) := show 32 < 2 ^ 32 by decide
    have emptyShort : Short [] := show 0 < 2 ^ 32 by decide
    apply Reads.field (Peer.uint_reads xid)
    apply Reads.cons (Peer.expect_reads 0)
    intro _ _
    apply Reads.cons (Peer.expect_reads 2)
    intro _ _
    exact .field (Peer.uint_reads prog) <| .field (Peer.uint_reads vers) <|
      .field (Peer.uint_reads proc) <| .field (Peer.opaqueAuth_reads 1 _ credShort) <|
      .field (Peer.opaqueAuth_reads 0 [] emptyShort) <| .done rfl
  obtain ⟨got, left, runs, rfl, rfl⟩ := reads _ [] argsBody rfl
  rw [buildCall_fields]
  exact runs

/-- A load at the end of a known part returns the word that follows. -/
theorem readUint32Be_append (before rest : Bytes) (value : UInt32) :
    readUint32Be (before ++ (be32 value ++ rest)) before.length = .ok value := by
  have inside : before.length + 4 ≤ (before ++ (be32 value ++ rest)).length := by
    simp
  rw [readUint32Be_inside inside, wordAt, List.drop_left, leadingWord_be32]

/-- A reply with the same xid and the status SUCCESS gives its results. -/
theorem parseReply_successReply (xid : UInt32) (results : Bytes) :
    parseReply (Peer.successReply xid results) xid [] = .ok (.OK, results) := by
  have length : (Peer.successReply xid results).length = 24 + results.length := by
    simp only [Peer.successReply, List.flatten_cons, List.flatten_nil, List.append_nil, List.length_append,
      be32_length]
    omega
  have load : ∀ (before : List UInt32) (value : UInt32) (after : Bytes),
      Peer.successReply xid results = (before.map be32).flatten ++ (be32 value ++ after) →
      readUint32Be (Peer.successReply xid results) (before.map be32).flatten.length = .ok value := by
    intro before value after split
    rw [split]
    exact readUint32Be_append _ after value
  have xidRead : readUint32Be (Peer.successReply xid results) 0 = .ok xid := load [] xid _ rfl
  have typeRead : readUint32Be (Peer.successReply xid results) 4 = .ok 1 := load [xid] 1 _ rfl
  have statRead : readUint32Be (Peer.successReply xid results) 8 = .ok 0 := load [xid, 1] 0 _ rfl
  have flavorRead : readUint32Be (Peer.successReply xid results) 12 = .ok 0 := load [xid, 1, 0] 0 _ rfl
  have lengthRead : readUint32Be (Peer.successReply xid results) 16 = .ok 0 := load [xid, 1, 0, 0] 0 _ rfl
  have acceptRead : readUint32Be (Peer.successReply xid results) 20 = .ok 0 :=
    load [xid, 1, 0, 0, 0] 0 _ rfl
  have whole : ¬ (Peer.successReply xid results).length < 20 := by omega
  have starts : ¬ 20 > (Peer.successReply xid results).length := by omega
  have inside : 24 ≤ (Peer.successReply xid results).length := by omega
  have tail : (Peer.successReply xid results).drop 24 = results ++ [] := rfl
  have body : copyBody (Peer.successReply xid results) 24 = .ok (.OK, results) := by
    rw [copyBody_inside inside, tail, List.append_nil]
  have accepted : parseAccepted (Peer.successReply xid results) [] = .ok (.OK, results) := by
    have rounded : 20 + (roundedLength 0).toNat = 20 := rfl
    simp only [parseAccepted, flavorRead, lengthRead, ok_bind, rounded, if_neg starts, acceptRead]
    exact body
  have reply : ¬ (1 : UInt32) ≠ MSG_REPLY := by decide
  simp only [parseReply, if_neg whole, xidRead, typeRead, statRead, ok_bind, ne_eq,
    not_true_eq_false, if_false, if_neg reply, if_true]
  exact accepted

end SimpleRpc

end Nfs3Rpc
