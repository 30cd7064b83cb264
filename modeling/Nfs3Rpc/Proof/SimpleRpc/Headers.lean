import Nfs3Rpc.Proof.Csuite.Arguments
import Nfs3Rpc.Proof.SimpleRpc.Messages
import Nfs3Rpc.Proof.SimpleRpc.Transport

namespace Nfs3Rpc.SimpleRpc
open Encoding

/-- These bytes have gone out on the connection. -/
def TcpTransport.written (transport : TcpTransport) : Bytes :=
  match transport.fd with
  | none => []
  | some socket => socket.sent

/-- The low bits of the header give the size of the message, and a conforming receiver takes the message and
nothing else off the wire. -/
structure RecordOf (message wire : Bytes) : Prop where
  header : ∃ header, wire = be32 header ++ message ∧ (header &&& FRAG_LEN_MASK).toNat = message.length
  readBack : Peer.record wire = .ok message []

theorem writeLoop_written {events left : List IoEvent} {data sent final : Bytes}
    (done : writeLoop events data sent = (true, left, final)) : final = sent ++ data := by
  induction events generalizing data sent with
  | nil =>
      cases data with
      | nil => simp_all [writeLoop]
      | cons byte data => simp_all [writeLoop]
  | cons event events recurse =>
      cases data with
      | nil => simp_all [writeLoop]
      | cons byte data =>
          cases event with
          | moved count =>
              have written := recurse done
              rw [written, List.append_assoc, List.take_append_drop]
          | interrupted => exact recurse done
          | blocked ready =>
              cases ready with
              | false => cases done
              | true => exact recurse done
          | failed => cases done

/-- A `send` that returns true has written the header and the whole message. -/
theorem TcpTransport.send_written {transport : TcpTransport} {message : Bytes} (returned : (transport.send message).1) :
    (transport.send message).2.written = transport.written ++ (be32 (fragHeader message) ++ message) := by
  obtain ⟨fd⟩ := transport
  cases fd with
  | none => cases returned
  | some socket =>
      rcases header : writeLoop socket.writes (be32 (fragHeader message)) socket.sent with
        ⟨headerSent, middle, sent⟩
      cases headerSent with
      | false => simp [TcpTransport.send, Socket.writeAll, header] at returned
      | true =>
          rcases body : writeLoop middle message sent with ⟨bodySent, rest, final⟩
          cases bodySent with
          | false => simp [TcpTransport.send, Socket.writeAll, header, body] at returned
          | true =>
              have first := writeLoop_written header
              have second := writeLoop_written body
              simp only [TcpTransport.send, Socket.writeAll, header, body, if_true, TcpTransport.written]
              rw [second, first, List.append_assoc]

/-- The cast and the flag leave the size modulo 2 ^ 31. -/
theorem fragHeader_masked (message : Bytes) :
    (fragHeader message &&& FRAG_LEN_MASK).toNat = message.length % 2 ^ 31 := by
  have mask : FRAG_LEN_MASK.toNat = 2 ^ 31 - 1 := rfl
  have flag : LAST_FRAG_FLAG.toNat = 2 ^ 31 := rfl
  rw [fragHeader, UInt32.toNat_and, UInt32.toNat_or, UInt32.toNat_ofNat', mask, flag, Nat.and_two_pow_sub_one_eq_mod,
    Nat.or_mod_two_pow, Nat.mod_mod_of_dvd _ (by decide), Nat.mod_self, Nat.or_zero]

theorem recordOf_sent_iff (message : Bytes) :
    RecordOf message (be32 (fragHeader message) ++ message) ↔ message.length < 2 ^ 31 := by
  constructor
  · intro record
    obtain ⟨header, parts, size⟩ := record.header
    obtain rfl := be32_injective (List.append_cancel_right parts)
    rw [fragHeader_masked] at size
    omega
  · intro small
    refine ⟨⟨fragHeader message, rfl, ?_⟩, ?_⟩
    · rw [fragHeader_masked, Nat.mod_eq_of_lt small]
    · rw [fragHeader_wire small]
      exact Peer.record_recordWire small

/-- The record that a `send` writes is right for the messages below 2 ^ 31 bytes, and for no others. -/
theorem TcpTransport.send_record_iff (transport : TcpTransport) (message : Bytes)
    (returned : (transport.send message).1) :
    (∃ wire, (transport.send message).2.written = transport.written ++ wire ∧ RecordOf message wire) ↔
      message.length < 2 ^ 31 := by
  rw [TcpTransport.send_written returned, ← recordOf_sent_iff]
  constructor
  · intro ⟨wire, same, record⟩
    obtain rfl := List.append_cancel_left same
    exact record
  · intro record
    exact ⟨_, rfl, record⟩

/-- The header and the message go out in four writes, after bytes that are there already. -/
theorem TcpTransport.send_record_iff_split :
    ∃ wire, (TcpTransport.send ⟨some { sent := [9], writes := [.moved 3, .interrupted, .moved 2, .moved 1] }⟩
        [7, 8]).2.written = [9] ++ wire ∧ RecordOf [7, 8] wire :=
  (TcpTransport.send_record_iff ⟨some { sent := [9], writes := [.moved 3, .interrupted, .moved 2, .moved 1] }⟩
    [7, 8]
    (by rfl)).mpr (by decide)

/-- The bytes of a WRITE call on a new connection, with the data that `nfs3_write_data` is given. -/
def writeDataCall (data : Bytes) : Except Nfsstat3 Bytes :=
  match Csuite.nfs3WriteData {} 0 .UNSTABLE data with
  | .error status => .error status
  | .ok args =>
      match Csuite.xdrPackWRITE3args args ⟨⟨[], 0⟩, fun _ => 0, 0⟩ with
      | .ok _ machine => .ok (buildCall 1 NFS_PROGRAM NFS_V3 7 machine.buf.data)
      | .error _ _ => .error .NFS3ERR_INVAL

/-- These are the arguments of a WRITE with data. -/
def dataArgs (data : Bytes) : Csuite.WRITE3argsT where
  stable := .UNSTABLE
  count := UInt32.ofNat data.length
  data := .block data
  dataLen := UInt32.ofNat data.length

theorem dataArgs_wellFormed {data : Bytes} (few : data.length ≤ 2 ^ 32 - 1) : (dataArgs data).WellFormed := by
  have length : (UInt32.ofNat data.length).toNat = data.length := by
    rw [UInt32.toNat_ofNat', Nat.mod_eq_of_lt (by omega)]
  have owned : (Csuite.Ptr.block data).Holds (UInt32.ofNat data.length) :=
    ⟨by simp [Csuite.Ptr.Owned], fun _ => ⟨data, rfl, Nat.le_of_eq length⟩⟩
  exact ⟨⟨by simp [dataArgs, Csuite.Ptr.Owned], by simp [dataArgs]⟩, owned, rfl⟩

/-- The call carries all of the data. -/
theorem writeDataCall_ok {data : Bytes} (some : data ≠ []) (few : data.length ≤ 2 ^ 32 - 1) :
    ∃ message, writeDataCall data = .ok message ∧ data.length ≤ message.length := by
  have accepts : Csuite.nfs3WriteData {} 0 .UNSTABLE data = .ok (dataArgs data) := by
    rw [Csuite.nfs3WriteData, if_neg (by omega), if_pos (List.length_pos_of_ne_nil some)]
    rfl
  have emits := @Csuite.xdrPackWRITE3args_emits 0 0 (dataArgs data) (dataArgs_wellFormed few)
  obtain ⟨machine, packs, buf, _⟩ := emits ⟨⟨[], 0⟩, fun _ => 0, 0⟩ [] ⟨rfl, rfl, by simp⟩
  refine ⟨buildCall 1 NFS_PROGRAM NFS_V3 7 machine.buf.data, by simp only [writeDataCall, accepts, packs], ?_⟩
  have bytes : (dataArgs data).message.data = data :=
    Csuite.bytes_block (Nat.lt_of_le_of_lt few (by decide))
  rw [buildCall_fields, buf, WRITE3args.wire, bytes]
  simp only [opaqueBytes, padded, List.flatten_cons, List.length_append]
  omega

/-- The largest WRITE that `nfs3_write_data` admits goes out with a header that gives another size. -/
theorem largest_write_misheaded :
    ∃ message, writeDataCall (List.replicate (2 ^ 32 - 1) 0) = .ok message ∧
      (TcpTransport.send ⟨some {}⟩ message).1 ∧
      ¬ ∃ wire, (TcpTransport.send ⟨some {}⟩ message).2.written = TcpTransport.written ⟨some {}⟩ ++ wire ∧
        RecordOf message wire := by
  have length : (List.replicate (2 ^ 32 - 1) (0 : UInt8)).length = 2 ^ 32 - 1 := List.length_replicate
  have some : List.replicate (2 ^ 32 - 1) (0 : UInt8) ≠ [] := by
    intro empty
    rw [empty] at length
    cases length
  obtain ⟨message, calls, large⟩ := writeDataCall_ok some (Nat.le_of_eq length)
  obtain ⟨writes, sends, _⟩ := TcpTransport.send_writes {} message (by simp)
  have returned : (TcpTransport.send ⟨Option.some {}⟩ message).1 := by rw [sends]
  refine ⟨message, calls, returned, ?_⟩
  intro ⟨wire, same, record⟩
  rw [TcpTransport.send_written returned] at same
  obtain rfl := List.append_cancel_left same
  have small := (recordOf_sent_iff message).mp record
  omega

end Nfs3Rpc.SimpleRpc
