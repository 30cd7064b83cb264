import Nfs3Rpc.Format.Records

namespace Nfs3Rpc.SimpleRpc
open Encoding

/-- A loop that gets through writes all of its data, however the kernel splits the calls. -/
theorem writeLoop_through (events : List IoEvent) (data sent : Bytes)
    (through : ∀ event ∈ events, WritesThrough event) :
    ∃ left, writeLoop events data sent = (true, left, sent ++ data) ∧ ∀ event ∈ left, WritesThrough event := by
  induction events generalizing data sent with
  | nil =>
      cases data with
      | nil => exact ⟨[], by simp [writeLoop], through⟩
      | cons byte data => exact ⟨[], by simp [writeLoop], through⟩
  | cons event events recurse =>
      cases data with
      | nil => exact ⟨event :: events, by simp [writeLoop], through⟩
      | cons byte data =>
          have later : ∀ event ∈ events, WritesThrough event := fun e member =>
            through e (List.mem_cons_of_mem _ member)
          have allowed : WritesThrough event := through event List.mem_cons_self
          cases event with
          | moved count =>
              obtain ⟨left, runs, rest⟩ :=
                recurse ((byte :: data).drop count) (sent ++ (byte :: data).take count) later
              rw [List.append_assoc, List.take_append_drop] at runs
              exact ⟨left, runs, rest⟩
          | interrupted => exact recurse (byte :: data) sent later
          | blocked ready =>
              cases ready with
              | false => exact absurd rfl allowed.2
              | true => exact recurse (byte :: data) sent later
          | failed => exact absurd rfl allowed.1

/-- One read moves the front of the wanted bytes. -/
theorem readLoop_moved {count : Nat} {wanted : Bytes} (events : List IoEvent) (more : wanted ≠ [])
    (later data : Bytes) (positive : count ≠ 0) :
    readLoop (.moved count :: events) wanted.length (wanted ++ later) data =
      readLoop events (wanted.drop count).length (wanted.drop count ++ later) (data ++ wanted.take count) := by
  obtain ⟨byte, wanted, rfl⟩ := List.exists_cons_of_ne_nil more
  have moves : min count (min (byte :: wanted).length (byte :: wanted ++ later).length) =
      min count (byte :: wanted).length := by
    simp only [List.length_append, List.length_cons]
    omega
  have some : min count (byte :: wanted).length ≠ 0 := by
    simp only [List.length_cons]
    omega
  have within : min count (byte :: wanted).length ≤ (byte :: wanted).length := Nat.min_le_right _ _
  have left : (byte :: wanted).length - min count (byte :: wanted).length =
      ((byte :: wanted).drop count).length := by
    rw [List.length_drop]
    omega
  have front : (byte :: wanted).take (min count (byte :: wanted).length) = (byte :: wanted).take count :=
    List.take_eq_take_iff.mpr (by omega)
  have back : (byte :: wanted).drop (min count (byte :: wanted).length) = (byte :: wanted).drop count := by
    rcases Nat.le_total count (byte :: wanted).length with small | large
    · rw [Nat.min_eq_left small]
    · rw [Nat.min_eq_right large, List.drop_length, List.drop_eq_nil_of_le large]
  change (if min count (min (byte :: wanted).length (byte :: wanted ++ later).length) = 0 then _
    else readLoop events _ _ _) = _
  rw [moves, if_neg some, left, List.drop_append_of_le_length within, List.take_append_of_le_length within, front, back]

/-- Outcomes that deliver the wanted bytes make the loop return exactly these. -/
theorem readLoop_delivers {events left : List IoEvent} {wanted : Bytes} (later data : Bytes)
    (moves : delivers events wanted.length = some left) :
    readLoop events wanted.length (wanted ++ later) data = (some (data ++ wanted), left, later) := by
  induction events generalizing wanted data with
  | nil =>
      cases wanted with
      | nil => simp_all [readLoop, delivers]
      | cons byte wanted => simp_all [readLoop, delivers]
  | cons event events recurse =>
      cases wanted with
      | nil => simp_all [readLoop, delivers]
      | cons byte wanted =>
          cases event with
          | moved count =>
              by_cases zero : count = 0
              · simp [delivers, zero] at moves
              · have rest : delivers events ((byte :: wanted).drop count).length = some left := by
                  rw [List.length_drop]
                  simpa [delivers, zero] using moves
                rw [readLoop_moved events (by simp) later data zero, recurse _ rest, List.append_assoc,
                  List.take_append_drop]
          | interrupted => exact recurse data moves
          | blocked ready =>
              cases ready with
              | false => simp [delivers] at moves
              | true => exact recurse data moves
          | failed => simp [delivers] at moves

/-- Outcomes that do not deliver the wanted bytes make the loop fail. -/
theorem readLoop_delivers_not {events : List IoEvent} {wanted : Bytes} (later data : Bytes)
    (stops : delivers events wanted.length = none) :
    ∃ left rest, readLoop events wanted.length (wanted ++ later) data = (none, left, rest) := by
  induction events generalizing wanted data with
  | nil => cases wanted <;> simp [delivers] at stops
  | cons event events recurse =>
      cases wanted with
      | nil => simp [delivers] at stops
      | cons byte wanted =>
          cases event with
          | moved count =>
              by_cases zero : count = 0
              · exact ⟨events, byte :: wanted ++ later, by simp [readLoop, zero]⟩
              · have rest : delivers events ((byte :: wanted).drop count).length = none := by
                  rw [List.length_drop]
                  simpa [delivers, zero] using stops
                rw [readLoop_moved events (by simp) later data zero]
                exact recurse _ rest
          | interrupted => exact recurse data stops
          | blocked ready =>
              cases ready with
              | false => exact ⟨events, byte :: wanted ++ later, rfl⟩
              | true => exact recurse data stops
          | failed => exact ⟨events, byte :: wanted ++ later, rfl⟩

/-- A read that ends before its first byte leaves the stream as it was. -/
theorem readLoop_stalls {events : List IoEvent} (len : Nat) (incoming data : Bytes) (stopped : stalls events) :
    ∃ left, readLoop events (len + 1) incoming data = (none, left, incoming) ∧ left.length < events.length := by
  induction events with
  | nil => simp [stalls] at stopped
  | cons event events recurse =>
      cases event with
      | moved count =>
          have zero : count = 0 := by simpa [stalls] using stopped
          exact ⟨events, by simp [readLoop, zero], by simp⟩
      | interrupted =>
          obtain ⟨left, runs, fewer⟩ := recurse stopped
          exact ⟨left, runs, by simp only [List.length_cons]; omega⟩
      | blocked ready =>
          cases ready with
          | false => exact ⟨events, rfl, by simp⟩
          | true =>
              obtain ⟨left, runs, fewer⟩ := recurse (by simpa [stalls] using stopped)
              exact ⟨left, runs, by simp only [List.length_cons]; omega⟩
      | failed => exact ⟨events, rfl, by simp⟩

/-- A read at the end of the stream fails, whatever its outcomes say. -/
theorem readLoop_ended (events : List IoEvent) (len : Nat) (data : Bytes) :
    ∃ left, readLoop events (len + 1) [] data = (none, left, []) := by
  induction events with
  | nil => exact ⟨[], by simp [readLoop]⟩
  | cons event events recurse =>
      cases event with
      | moved count => exact ⟨events, by simp [readLoop]⟩
      | interrupted => exact recurse
      | blocked ready =>
          cases ready with
          | false => exact ⟨events, rfl⟩
          | true => exact recurse
      | failed => exact ⟨events, rfl⟩

/-- Outcomes without a failure take all bytes of a stream that ends too early. -/
theorem readLoop_short {events : List IoEvent} {len : Nat} {incoming : Bytes} (data : Bytes)
    (through : ∀ event ∈ events, ReadsThrough event) (few : incoming.length < len) :
    ∃ left, readLoop events len incoming data = (none, left, []) := by
  obtain ⟨len, rfl⟩ := Nat.exists_eq_succ_of_ne_zero (Nat.ne_zero_of_lt few)
  induction events generalizing len incoming data with
  | nil => exact ⟨[], by simp [readLoop, few]⟩
  | cons event events recurse =>
      have rest : ∀ event ∈ events, ReadsThrough event := fun e member => through e (List.mem_cons_of_mem _ member)
      have allowed : ReadsThrough event := through event List.mem_cons_self
      cases event with
      | moved count =>
          have positive : count ≠ 0 := fun zero => allowed.2 (by rw [zero])
          cases incoming with
          | nil => exact ⟨events, by simp [readLoop]⟩
          | cons byte incoming =>
              have length : (byte :: incoming).length = incoming.length + 1 := List.length_cons
              obtain ⟨n, moves⟩ : ∃ n, min count (min (len + 1) (byte :: incoming).length) = n := ⟨_, rfl⟩
              obtain ⟨len', more⟩ : ∃ len', len + 1 - n = len' + 1 := Nat.exists_eq_succ_of_ne_zero (by omega)
              have fewer : ((byte :: incoming).drop n).length < len' + 1 := by
                rw [List.length_drop]
                omega
              obtain ⟨left, runs⟩ := recurse (data ++ (byte :: incoming).take n) rest len' fewer
              refine ⟨left, ?_⟩
              change (if min count (min (len + 1) (byte :: incoming).length) = 0 then _
                else readLoop events (len + 1 - min count (min (len + 1) (byte :: incoming).length)) _ _) = _
              rw [moves, if_neg (by omega), more]
              exact runs
      | interrupted => exact recurse data rest len few
      | blocked ready =>
          cases ready with
          | false => exact absurd rfl allowed.1.2
          | true => exact recurse data rest len few
      | failed => exact absurd rfl allowed.1.1

/-- Outcomes without a failure deliver every count. -/
theorem delivers_through (events : List IoEvent) (len : Nat) (through : ∀ event ∈ events, ReadsThrough event) :
    ∃ left, delivers events len = some left ∧ ∀ event ∈ left, ReadsThrough event := by
  induction events generalizing len with
  | nil =>
      cases len with
      | zero => exact ⟨[], rfl, through⟩
      | succ len => exact ⟨[], rfl, through⟩
  | cons event events recurse =>
      cases len with
      | zero => exact ⟨event :: events, rfl, through⟩
      | succ len =>
          have rest : ∀ event ∈ events, ReadsThrough event := fun e member =>
            through e (List.mem_cons_of_mem _ member)
          have allowed : ReadsThrough event := through event List.mem_cons_self
          cases event with
          | moved count =>
              have positive : count ≠ 0 := fun zero => allowed.2 (by rw [zero])
              obtain ⟨left, moves, remain⟩ := recurse (len + 1 - count) rest
              exact ⟨left, by simp [delivers, positive, moves], remain⟩
          | interrupted => exact recurse (len + 1) rest
          | blocked ready =>
              cases ready with
              | false => exact absurd rfl allowed.1.2
              | true => exact recurse (len + 1) rest
          | failed => exact absurd rfl allowed.1.1

theorem Socket.writeAll_through (socket : Socket) (data : Bytes)
    (through : ∀ event ∈ socket.writes, WritesThrough event) :
    ∃ writes, socket.writeAll data = (true, { socket with writes, sent := socket.sent ++ data }) ∧
      ∀ event ∈ writes, WritesThrough event := by
  obtain ⟨left, runs, rest⟩ := writeLoop_through socket.writes data socket.sent through
  exact ⟨left, by rw [Socket.writeAll, runs], rest⟩

theorem Socket.readAll_delivers {socket : Socket} {wanted later : Bytes} {left : List IoEvent}
    (arrives : socket.incoming = wanted ++ later) (moves : delivers socket.reads wanted.length = some left) :
    socket.readAll wanted.length = (some wanted, { socket with reads := left, incoming := later }) := by
  rw [Socket.readAll, arrives, readLoop_delivers later [] moves, List.nil_append]

theorem Socket.readAll_delivers_not {socket : Socket} {wanted later : Bytes}
    (arrives : socket.incoming = wanted ++ later) (stops : delivers socket.reads wanted.length = none) :
    ∃ final, socket.readAll wanted.length = (none, final) := by
  obtain ⟨left, rest, runs⟩ := readLoop_delivers_not later [] stops
  exact ⟨_, by rw [Socket.readAll, arrives, runs]⟩

theorem Socket.readAll_short {len : Nat} (socket : Socket) (through : ∀ event ∈ socket.reads, ReadsThrough event)
    (few : socket.incoming.length < len) :
    ∃ reads, socket.readAll len = (none, { socket with reads, incoming := [] }) := by
  obtain ⟨left, runs⟩ := readLoop_short [] through few
  exact ⟨left, by rw [Socket.readAll, runs]⟩

/-- A length below the flag bit and the flag share no bit. -/
theorem fragHeader_eq {message : Bytes} (small : message.length < 2 ^ 31) :
    fragHeader message = UInt32.ofNat (2 ^ 31 + message.length) := by
  have sum : 2 ^ 31 ||| message.length = 2 ^ 31 + message.length :=
    (Nat.two_pow_add_eq_or_of_lt small 1).symm
  apply UInt32.toNat_inj.mp
  rw [fragHeader, UInt32.toNat_or, UInt32.toNat_ofNat', UInt32.toNat_ofNat',
    Nat.mod_eq_of_lt (by omega), Nat.mod_eq_of_lt (by omega), Nat.or_comm]
  exact sum

theorem fragHeader_wire {message : Bytes} (small : message.length < 2 ^ 31) :
    be32 (fragHeader message) ++ message = Peer.recordWire message := by
  rw [fragHeader_eq small, Peer.recordWire]

/-- The mask leaves the length of a fragment, last or not. -/
theorem Fragment.mark_masked (fragment : Fragment) (small : fragment.piece.length < 2 ^ 31) :
    (fragment.mark &&& FRAG_LEN_MASK).toNat = fragment.piece.length := by
  have mask : FRAG_LEN_MASK.toNat = 2 ^ 31 - 1 := rfl
  rw [Fragment.mark, UInt32.toNat_and, UInt32.toNat_ofNat', mask, Nat.and_two_pow_sub_one_eq_mod]
  split <;> omega

theorem recordWire_fragment (message : Bytes) : Peer.recordWire message = Fragment.wire ⟨true, message⟩ := rfl

/-- The header and the message go out one after the other. -/
theorem TcpTransport.send_writes (socket : Socket) (message : Bytes)
    (through : ∀ event ∈ socket.writes, WritesThrough event) :
    ∃ writes, TcpTransport.send ⟨some socket⟩ message =
        (true, ⟨some { socket with writes, sent := socket.sent ++ (be32 (fragHeader message) ++ message) }⟩) ∧
      ∀ event ∈ writes, WritesThrough event := by
  obtain ⟨first, header, through⟩ := socket.writeAll_through (be32 (fragHeader message)) through
  obtain ⟨second, body, through⟩ := Socket.writeAll_through
    { socket with writes := first, sent := socket.sent ++ be32 (fragHeader message) } message through
  refine ⟨second, ?_, through⟩
  rw [← List.append_assoc]
  simp only [TcpTransport.send, header, if_true, body]

/-- A message below the size limit goes out as one record. -/
theorem TcpTransport.send_through (socket : Socket) (message : Bytes) (small : message.length < 2 ^ 31)
    (through : ∀ event ∈ socket.writes, WritesThrough event) :
    ∃ writes, TcpTransport.send ⟨some socket⟩ message =
        (true, ⟨some { socket with writes, sent := socket.sent ++ Peer.recordWire message }⟩) ∧
      ∀ event ∈ writes, WritesThrough event := by
  rw [← fragHeader_wire small]
  exact TcpTransport.send_writes socket message through

section Front
variable {socket : Socket} {fragment : Fragment} {later : Bytes} {left : List IoEvent}
variable (small : fragment.piece.length < 2 ^ 31) (arrives : socket.incoming = fragment.wire ++ later)
include arrives

theorem leadingWord_front : leadingWord socket.incoming = fragment.mark := by
  rw [arrives, Fragment.wire, List.append_assoc]
  exact leadingWord_be32 _ _

/-- The first four bytes are the mark of the fragment. -/
theorem recv_front (moves : delivers socket.reads 4 = some left) :
    socket.readAll 4 =
      (some (be32 fragment.mark), { socket with reads := left, incoming := fragment.piece ++ later }) := by
  have header : socket.incoming = be32 fragment.mark ++ (fragment.piece ++ later) := by
    rw [arrives, Fragment.wire, List.append_assoc]
  exact Socket.readAll_delivers header moves

include small

/-- A fragment at the front of the stream comes back as its piece when the outcomes deliver it. -/
theorem TcpTransport.recv_delivers {rest : List IoEvent} (first : delivers socket.reads 4 = some left)
    (second : delivers left fragment.piece.length = some rest) :
    TcpTransport.recv ⟨some socket⟩ =
      (some fragment.piece, ⟨some { socket with reads := rest, incoming := later }⟩) := by
  have header := recv_front arrives first
  have word : leadingWord (be32 fragment.mark) = fragment.mark := word_be32 _
  have length := fragment.mark_masked small
  by_cases empty : fragment.piece = []
  · have none : ¬ fragment.mark &&& FRAG_LEN_MASK > 0 := by
      rw [gt_iff_lt, UInt32.lt_iff_toNat_lt, length, empty]
      simp
    have same : left = rest := by simpa [empty, delivers] using second
    simp only [TcpTransport.recv, header, word, if_neg none, empty, List.nil_append, same]
  · have some : fragment.mark &&& FRAG_LEN_MASK > 0 := by
      rw [gt_iff_lt, UInt32.lt_iff_toNat_lt, length]
      exact List.length_pos_of_ne_nil empty
    have body := Socket.readAll_delivers
      (show { socket with reads := left, incoming := fragment.piece ++ later }.incoming = _ from rfl) second
    simp only [TcpTransport.recv, header, word, if_pos some, length, body]

/-- A `recv` at the front of a fragment returns its piece or fails. -/
theorem TcpTransport.recv_front_or_fails :
    (∃ rest, TcpTransport.recv ⟨some socket⟩ =
        (some fragment.piece, ⟨some { socket with reads := rest, incoming := later }⟩)) ∨
      ∃ final, TcpTransport.recv ⟨some socket⟩ = (none, final) := by
  have header : socket.incoming = be32 fragment.mark ++ (fragment.piece ++ later) := by
    rw [arrives, Fragment.wire, List.append_assoc]
  cases first : delivers socket.reads 4 with
  | none =>
      obtain ⟨final, stopped⟩ := Socket.readAll_delivers_not header first
      rw [be32_length] at stopped
      right
      exact ⟨⟨some final⟩, by simp only [TcpTransport.recv, stopped]⟩
  | some left =>
      cases second : delivers left fragment.piece.length with
      | none =>
          right
          have length := fragment.mark_masked small
          have some : fragment.mark &&& FRAG_LEN_MASK > 0 := by
            rw [gt_iff_lt, UInt32.lt_iff_toNat_lt, length]
            apply Nat.pos_of_ne_zero
            intro zero
            simp [zero, delivers] at second
          have word : leadingWord (be32 fragment.mark) = fragment.mark := word_be32 _
          obtain ⟨final, stopped⟩ := Socket.readAll_delivers_not
            (show { socket with reads := left, incoming := fragment.piece ++ later }.incoming = _ from rfl) second
          exact ⟨⟨final⟩, by
            simp only [TcpTransport.recv, recv_front arrives first, word, if_pos some, length, stopped]⟩
      | some rest =>
          left
          exact ⟨rest, TcpTransport.recv_delivers small arrives first second⟩

end Front

theorem TcpTransport.recv_stalls {socket : Socket} (stopped : stalls socket.reads) :
    ∃ left, TcpTransport.recv ⟨some socket⟩ = (none, ⟨some { socket with reads := left }⟩) ∧
      left.length < socket.reads.length := by
  obtain ⟨left, runs, fewer⟩ := readLoop_stalls 3 socket.incoming [] stopped
  exact ⟨left, by simp only [TcpTransport.recv, Socket.readAll, runs], fewer⟩

theorem TcpTransport.recv_ended {socket : Socket} (ended : socket.incoming = []) :
    ∃ left, TcpTransport.recv ⟨some socket⟩ = (none, ⟨some { socket with reads := left }⟩) := by
  obtain ⟨left, runs⟩ := readLoop_ended socket.reads 3 []
  exact ⟨left, by simp only [TcpTransport.recv, Socket.readAll, ended, runs]⟩

/-- A record at the front of the stream comes back as its message. -/
theorem TcpTransport.recv_through (socket : Socket) (message later : Bytes) (small : message.length < 2 ^ 31)
    (through : ∀ event ∈ socket.reads, ReadsThrough event)
    (arrives : socket.incoming = Peer.recordWire message ++ later) :
    ∃ reads, TcpTransport.recv ⟨some socket⟩ =
        (some message, ⟨some { socket with reads, incoming := later }⟩) ∧
      ∀ event ∈ reads, ReadsThrough event := by
  obtain ⟨left, first, through⟩ := delivers_through socket.reads 4 through
  obtain ⟨rest, second, through⟩ := delivers_through left message.length through
  rw [recordWire_fragment] at arrives
  have receives := @TcpTransport.recv_delivers socket ⟨true, message⟩ later left small arrives rest first second
  exact ⟨rest, receives, through⟩

/-- A record that the end of the connection cuts short is lost with all of its bytes. -/
theorem TcpTransport.recv_short (socket : Socket) (message : Bytes) (small : message.length < 2 ^ 31)
    (through : ∀ event ∈ socket.reads, ReadsThrough event) (arrives : socket.incoming <+: Peer.recordWire message)
    (few : socket.incoming.length < (Peer.recordWire message).length) :
    ∃ reads, TcpTransport.recv ⟨some socket⟩ = (none, ⟨some { socket with reads, incoming := [] }⟩) := by
  by_cases marked : socket.incoming.length < 4
  · obtain ⟨left, runs⟩ := socket.readAll_short through marked
    exact ⟨left, by simp only [TcpTransport.recv, runs]⟩
  · rw [recordWire_fragment, Fragment.wire] at arrives few
    obtain ⟨part, front⟩ := List.prefix_of_prefix_length_le (List.prefix_append _ _) arrives
      (by rw [be32_length]; omega)
    obtain ⟨left, first, through⟩ := delivers_through socket.reads 4 through
    have length := Fragment.mark_masked ⟨true, message⟩ small
    rw [← front, List.length_append, List.length_append, be32_length] at few
    have shorter : part.length < message.length := by
      have same : (Fragment.mk true message).piece = message := rfl
      rw [same] at few
      omega
    have some : (Fragment.mk true message).mark &&& FRAG_LEN_MASK > 0 := by
      rw [gt_iff_lt, UInt32.lt_iff_toNat_lt, length]
      exact Nat.zero_lt_of_lt shorter
    have header := Socket.readAll_delivers front.symm first
    rw [be32_length] at header
    obtain ⟨rest, second⟩ := Socket.readAll_short { socket with reads := left, incoming := part } through shorter
    have word : leadingWord (be32 (Fragment.mk true message).mark) = (Fragment.mk true message).mark := word_be32 _
    exact ⟨rest, by simp only [TcpTransport.recv, header, word, if_pos some, length, second]⟩

/-- A kernel that never fails a read gives the next record, or the end of the connection. -/
theorem TcpTransport.recv_record_or_end (socket : Socket) (message later : Bytes) (small : message.length < 2 ^ 31)
    (through : ∀ event ∈ socket.reads, ReadsThrough event)
    (arrives : socket.incoming <+: Peer.recordWire message ++ later) :
    (∃ reads left, left <+: later ∧ TcpTransport.recv ⟨some socket⟩ =
        (some message, ⟨some { socket with reads, incoming := left }⟩)) ∨
      ∃ reads, TcpTransport.recv ⟨some socket⟩ = (none, ⟨some { socket with reads, incoming := [] }⟩) := by
  by_cases few : socket.incoming.length < (Peer.recordWire message).length
  · right
    exact TcpTransport.recv_short socket message small through
      (List.prefix_of_prefix_length_le arrives (List.prefix_append _ _) (by omega)) few
  · left
    obtain ⟨left, front⟩ := List.prefix_of_prefix_length_le (List.prefix_append _ _) arrives (by omega)
    obtain ⟨reads, receives, _⟩ := TcpTransport.recv_through socket message left small through front.symm
    rw [← front] at arrives
    exact ⟨reads, left, (List.prefix_append_right_inj _).mp arrives, receives⟩

end Nfs3Rpc.SimpleRpc
