import Nfs3Rpc.Proof.SimpleRpc.Transport

namespace Nfs3Rpc.SimpleRpc
open Encoding

/-- Calls that get through leave their records on the stream, one after another. -/
theorem sendEach_through (messages : List Bytes) (socket : Socket)
    (small : ∀ message ∈ messages, message.length < 2 ^ 31)
    (through : ∀ event ∈ socket.writes, WritesThrough event) :
    ∃ writes, TcpTransport.sendEach ⟨some socket⟩ messages = (messages.map fun _ => true,
      ⟨some { socket with writes, sent := socket.sent ++ (messages.map Peer.recordWire).flatten }⟩) := by
  induction messages generalizing socket with
  | nil => exact ⟨socket.writes, by simp [TcpTransport.sendEach]⟩
  | cons message messages recurse =>
      obtain ⟨first, sends, through⟩ := TcpTransport.send_through socket message
        (small message List.mem_cons_self) through
      obtain ⟨writes, later⟩ := recurse
        { socket with writes := first, sent := socket.sent ++ Peer.recordWire message }
        (fun m member => small m (List.mem_cons_of_mem _ member)) through
      rw [List.append_assoc] at later
      exact ⟨writes, by simp only [TcpTransport.sendEach, sends, later, List.map_cons, List.flatten_cons]⟩

/-- Calls that get through take the records off the stream, one after another. -/
theorem recvEach_through (messages : List Bytes) (socket : Socket) (later : Bytes)
    (small : ∀ message ∈ messages, message.length < 2 ^ 31)
    (through : ∀ event ∈ socket.reads, ReadsThrough event)
    (arrives : socket.incoming = (messages.map Peer.recordWire).flatten ++ later) :
    ∃ reads, TcpTransport.recvEach ⟨some socket⟩ messages.length =
      (messages.map some, ⟨some { socket with reads, incoming := later }⟩) := by
  induction messages generalizing socket with
  | nil =>
      have same : socket.incoming = later := arrives
      exact ⟨socket.reads, by simp [TcpTransport.recvEach, ← same]⟩
  | cons message messages recurse =>
      rw [List.map_cons, List.flatten_cons, List.append_assoc] at arrives
      obtain ⟨first, receives, through⟩ := TcpTransport.recv_through socket message _
        (small message List.mem_cons_self) through arrives
      obtain ⟨reads, rest⟩ := recurse
        { socket with reads := first, incoming := (messages.map Peer.recordWire).flatten ++ later }
        (fun m member => small m (List.mem_cons_of_mem _ member)) through rfl
      exact ⟨reads, by simp only [List.length_cons, TcpTransport.recvEach, receives, rest, List.map_cons]⟩

/-- Record marking is transparent, however the kernel splits the calls on both sides. -/
theorem recordMarking_transparent (messages : List Bytes) (small : ∀ message ∈ messages, message.length < 2 ^ 31)
    (sender : Socket) (writes : ∀ event ∈ sender.writes, WritesThrough event) :
    ∃ final stream, TcpTransport.sendEach ⟨some sender⟩ messages =
      (messages.map fun _ => true, ⟨some final⟩) ∧
      final.sent = sender.sent ++ stream ∧
      ∀ (receiver : Socket) (later : Bytes), (∀ event ∈ receiver.reads, ReadsThrough event) →
        receiver.incoming = stream ++ later →
        ∃ rest, TcpTransport.recvEach ⟨some receiver⟩ messages.length = (messages.map some, ⟨some rest⟩) ∧
          rest.incoming = later := by
  obtain ⟨left, sends⟩ := sendEach_through messages sender small writes
  refine ⟨_, (messages.map Peer.recordWire).flatten, sends, rfl, ?_⟩
  intro receiver later reads arrives
  obtain ⟨left, receives⟩ := recvEach_through messages receiver later small reads arrives
  exact ⟨_, receives, rfl⟩

theorem recordMarking_transparent_split :
    TcpTransport.sendEach ⟨some ⟨[], [], [.moved 3, .blocked true], []⟩⟩ [[7], []] =
        ([true, true], ⟨some ⟨[128, 0, 0, 1, 7, 128, 0, 0, 0], [], [], []⟩⟩) ∧
      ∃ rest, TcpTransport.recvEach
          ⟨some ⟨[], [128, 0, 0, 1, 7, 128, 0, 0, 0], [], [.moved 2, .interrupted, .moved 9]⟩⟩ 2 =
        ([some [7], some []], ⟨some rest⟩) := by
  have small : ∀ message ∈ [[7], []], (message : Bytes).length < 2 ^ 31 := by simp
  have writes : ∀ event ∈ [IoEvent.moved 3, .blocked true], WritesThrough event := by simp [WritesThrough]
  have reads : ∀ event ∈ [IoEvent.moved 2, .interrupted, .moved 9], ReadsThrough event := by
    simp [ReadsThrough, WritesThrough]
  obtain ⟨final, stream, sends, sent, receives⟩ := recordMarking_transparent [[7], []] small
    ⟨[], [], [.moved 3, .blocked true], []⟩ writes
  have run : TcpTransport.sendEach ⟨some ⟨[], [], [.moved 3, .blocked true], []⟩⟩ [[7], []] =
      ([true, true], ⟨some ⟨[128, 0, 0, 1, 7, 128, 0, 0, 0], [], [], []⟩⟩) := by decide
  rw [run] at sends
  obtain rfl : _ = final := by simpa using sends
  have bytes : [128, 0, 0, 1, 7, 128, 0, 0, 0] = stream := by simpa using sent
  obtain ⟨rest, received, _⟩ := receives
    ⟨[], [128, 0, 0, 1, 7, 128, 0, 0, 0], [], [.moved 2, .interrupted, .moved 9]⟩ [] reads (by simp [← bytes])
  exact ⟨run, rest, received⟩

theorem recvEach_succ (transport : TcpTransport) (count : Nat) :
    transport.recvEach (count + 1) =
      (transport.recv.1 :: (transport.recv.2.recvEach count).1, (transport.recv.2.recvEach count).2) := rfl

theorem InStreamOrder.cons_result {records : List Bytes} {results : List (Option Bytes)} {result : Option Bytes}
    (order : InStreamOrder records results) : InStreamOrder (result.toList ++ records) (result :: results) := by
  cases result with
  | none => exact order
  | some message => exact List.Sublist.cons_cons message order

section Runs
variable {fragments : List Fragment} (small : ∀ fragment ∈ fragments, fragment.piece.length < 2 ^ 31)
include small

/-- A `recv` that does not stop inside a fragment takes the next one, or leaves the stream as it was. -/
theorem recv_whole {socket : Socket} (arrives : socket.incoming = fragmentStream fragments)
    (whole : socket.RecvsWhole) :
    ∃ result next taken rest, TcpTransport.recv ⟨some socket⟩ = (result, ⟨some next⟩) ∧
      fragments = taken ++ rest ∧ result.toList = taken.map Fragment.piece ∧
      next.incoming = fragmentStream rest ∧
      (fragments = [] ∨ taken ≠ [] ∨ next.reads.length < socket.reads.length) := by
  cases fragments with
  | nil =>
      obtain ⟨left, fails⟩ := TcpTransport.recv_ended arrives
      exact ⟨none, _, [], [], fails, rfl, rfl, arrives, .inl rfl⟩
  | cons fragment later =>
      have front : socket.incoming = fragment.wire ++ fragmentStream later := arrives
      rcases whole with ended | stopped | moves
      · rw [ended] at front
        simp [Fragment.wire, be32] at front
      · obtain ⟨left, fails, fewer⟩ := TcpTransport.recv_stalls stopped
        exact ⟨none, _, [], fragment :: later, fails, rfl, rfl, arrives, .inr (.inr fewer)⟩
      · have length := small fragment List.mem_cons_self
        rw [leadingWord_front front, fragment.mark_masked length, Option.isSome_iff_exists] at moves
        obtain ⟨rest, moves⟩ := moves
        obtain ⟨left, first, second⟩ := Option.bind_eq_some_iff.mp moves
        have receives := TcpTransport.recv_delivers length front first second
        exact ⟨some fragment.piece, _, [fragment], later, receives, rfl, rfl, rfl, .inr (.inl (by simp))⟩

/-- One `recv` at the front of the stream returns the next piece or nothing. -/
theorem recv_inStreamOrder {socket : Socket} (arrives : socket.incoming = fragmentStream fragments) :
    InStreamOrder (fragments.map Fragment.piece) [(TcpTransport.recv ⟨some socket⟩).1] := by
  cases fragments with
  | nil =>
      obtain ⟨left, fails⟩ := TcpTransport.recv_ended arrives
      simp [InStreamOrder, fails]
  | cons fragment later =>
      rcases TcpTransport.recv_front_or_fails (small fragment List.mem_cons_self) arrives with
        ⟨rest, receives⟩ | ⟨final, fails⟩
      · simp [InStreamOrder, receives]
      · simp [InStreamOrder, fails]

/-- The induction is on the number of calls: each call but the last leaves the stream at a fragment. -/
theorem recvEach_pieces {socket : Socket} (arrives : socket.incoming = fragmentStream fragments) (count : Nat)
    (whole : ∀ index, index + 1 < count → (TcpTransport.recvEach ⟨some socket⟩ index).2.RecvsWhole) :
    InStreamOrder (fragments.map Fragment.piece) (TcpTransport.recvEach ⟨some socket⟩ count).1 ∧
      ∀ index < count, ∃ later, later <:+ fragments ∧
        (TcpTransport.recvEach ⟨some socket⟩ index).2.unread = fragmentStream later := by
  induction count generalizing fragments socket with
  | zero => exact ⟨List.nil_sublist _, by simp⟩
  | succ count recurse =>
      cases count with
      | zero =>
          constructor
          · exact recv_inStreamOrder small arrives
          · intro index below
            obtain rfl : index = 0 := by omega
            exact ⟨fragments, List.suffix_rfl, arrives⟩
      | succ count =>
          have first : socket.RecvsWhole := whole 0 (by omega) socket rfl
          obtain ⟨result, next, taken, rest, receives, rfl, returned, unread, _⟩ := recv_whole small arrives first
          have step : ∀ index, TcpTransport.recvEach ⟨some socket⟩ (index + 1) =
              (result :: (TcpTransport.recvEach ⟨some next⟩ index).1,
                (TcpTransport.recvEach ⟨some next⟩ index).2) := by
            intro index
            rw [recvEach_succ, receives]
          have later : ∀ index, index + 1 < count + 1 →
            (TcpTransport.recvEach ⟨some next⟩ index).2.RecvsWhole := by
            intro index below
            have later := whole (index + 1) (by omega)
            rwa [step] at later
          obtain ⟨order, starts⟩ := recurse (fun f member => small f (List.mem_append_right _ member)) unread later
          constructor
          · rw [step, List.map_append, ← returned]
            exact order.cons_result
          · intro index below
            cases index with
            | zero => exact ⟨taken ++ rest, List.suffix_rfl, arrives⟩
            | succ index =>
                rw [step]
                obtain ⟨later, suffix, waits⟩ := starts index (by omega)
                exact ⟨later, suffix.trans (List.suffix_append _ _), waits⟩

end Runs

/-- The calls return every piece in the end, when none of them stops inside a fragment: each one takes a
fragment or uses up outcomes of the kernel. -/
theorem recvEach_drains {fragments : List Fragment}
    (small : ∀ fragment ∈ fragments, fragment.piece.length < 2 ^ 31) {socket : Socket}
    (arrives : socket.incoming = fragmentStream fragments)
    (whole : ∀ index, (TcpTransport.recvEach ⟨some socket⟩ index).2.RecvsWhole) :
    ∃ count, (TcpTransport.recvEach ⟨some socket⟩ count).1.filterMap id = fragments.map Fragment.piece := by
  by_cases empty : fragments = []
  · exact ⟨0, by simp [empty, TcpTransport.recvEach]⟩
  · obtain ⟨result, next, taken, rest, receives, parts, returned, unread, progress⟩ :=
      recv_whole small arrives (whole 0 socket rfl)
    have later : ∀ index, (TcpTransport.recvEach ⟨some next⟩ index).2.RecvsWhole := by
      intro index
      have later := whole (index + 1)
      rwa [recvEach_succ, receives] at later
    obtain ⟨count, drained⟩ := recvEach_drains
      (fun f member => small f (parts ▸ List.mem_append_right _ member)) unread later
    exact ⟨count + 1, by
      rw [recvEach_succ, receives, parts, List.map_append, ← returned, ← drained]
      cases result <;> rfl⟩
termination_by (fragments.length, socket.reads.length)
decreasing_by
  rcases progress with none | some | fewer
  · exact absurd none empty
  · apply Prod.Lex.left
    have positive := List.length_pos_of_ne_nil some
    rw [parts, List.length_append]
    omega
  · rw [parts, List.length_append]
    cases taken with
    | nil =>
        rw [List.length_nil, Nat.zero_add]
        exact Prod.Lex.right _ fewer
    | cons fragment taken =>
        apply Prod.Lex.left
        rw [List.length_cons]
        omega

/-- A loop uses the outcomes from the front. -/
theorem readLoop_suffix (events : List IoEvent) (len : Nat) (incoming data : Bytes) :
    (readLoop events len incoming data).2.1 <:+ events := by
  fun_induction readLoop events len incoming data with
  | case1 events incoming data => exact List.suffix_rfl
  | case2 len incoming data _ few => exact List.suffix_rfl
  | case3 len incoming data _ enough => exact List.suffix_rfl
  | case4 count events len incoming data _ n none => exact List.suffix_cons _ _
  | case5 count events len incoming data _ n some recurse => exact recurse.trans (List.suffix_cons _ _)
  | case6 events len incoming data _ recurse => exact recurse.trans (List.suffix_cons _ _)
  | case7 events len incoming data _ recurse => exact recurse.trans (List.suffix_cons _ _)
  | case8 events len incoming data _ ready stopped => exact List.suffix_cons _ _
  | case9 events len incoming data => exact List.suffix_cons _ _

theorem recv_reads_suffix (socket : Socket) :
    ∃ result next, TcpTransport.recv ⟨some socket⟩ = (result, ⟨some next⟩) ∧
      next.reads <:+ socket.reads := by
  have first := readLoop_suffix socket.reads 4 socket.incoming []
  cases header : socket.readAll 4 with
  | mk result middle =>
      have used : middle.reads <:+ socket.reads := by
        have same : (socket.readAll 4).2.reads <:+ socket.reads := first
        rwa [header] at same
      cases result with
      | none => exact ⟨none, middle, by simp only [TcpTransport.recv, header], used⟩
      | some mark =>
          by_cases some : leadingWord mark &&& FRAG_LEN_MASK > 0
          · have second := readLoop_suffix middle.reads (leadingWord mark &&& FRAG_LEN_MASK).toNat middle.incoming []
            exact ⟨(middle.readAll (leadingWord mark &&& FRAG_LEN_MASK).toNat).1,
              (middle.readAll (leadingWord mark &&& FRAG_LEN_MASK).toNat).2,
              by simp only [TcpTransport.recv, header, if_pos some], second.trans used⟩
          · exact ⟨.some [], middle, by simp only [TcpTransport.recv, header, if_neg some], used⟩

/-- A kernel that never fails a read lets no call stop inside a fragment. -/
theorem recvEach_recvsWhole {socket : Socket} (through : ∀ event ∈ socket.reads, ReadsThrough event) (index : Nat) :
    (TcpTransport.recvEach ⟨some socket⟩ index).2.RecvsWhole := by
  induction index generalizing socket with
  | zero =>
      intro current same
      cases same
      obtain ⟨left, first, through⟩ := delivers_through socket.reads 4 through
      obtain ⟨rest, second, _⟩ := delivers_through left
        (leadingWord socket.incoming &&& FRAG_LEN_MASK).toNat through
      exact .inr (.inr (by rw [first, Option.bind_some, second, Option.isSome_some]))
  | succ index recurse =>
      obtain ⟨result, next, receives, suffix⟩ := recv_reads_suffix socket
      rw [recvEach_succ, receives]
      exact recurse fun event member => through event (suffix.mem member)

theorem recordFragments_pieces (pieces : List Bytes) : (recordFragments pieces).map Fragment.piece = pieces := by
  fun_induction recordFragments pieces with
  | case1 => rfl
  | case2 piece => rfl
  | case3 piece next pieces recurse => rw [List.map_cons, recurse]

/-- A stream of whole records is a stream of last fragments. -/
theorem recordStream_fragments (records : List Bytes) :
    (records.map Peer.recordWire).flatten = fragmentStream (records.map (Fragment.mk true)) := by
  rw [fragmentStream, List.map_map]
  rfl

/-- The messages are records in stream order, when no call before the last stops inside a record. -/
theorem recvEach_receivesRecords (records : List Bytes) (small : ∀ record ∈ records, record.length < 2 ^ 31)
    (socket : Socket) (arrives : socket.incoming = (records.map Peer.recordWire).flatten) (count : Nat)
    (whole : ∀ index, index + 1 < count → (TcpTransport.recvEach ⟨some socket⟩ index).2.RecvsWhole) :
    ReceivesRecords records ⟨some socket⟩ count := by
  have pieces : (records.map (Fragment.mk true)).map Fragment.piece = records := by
    rw [List.map_map]
    exact List.map_id records
  have bounded : ∀ fragment ∈ records.map (Fragment.mk true), fragment.piece.length < 2 ^ 31 := by
    simpa using small
  obtain ⟨order, starts⟩ := recvEach_pieces bounded (arrives.trans (recordStream_fragments records)) count whole
  constructor
  · rwa [pieces] at order
  · intro index below _
    obtain ⟨later, suffix, waits⟩ := starts index below
    obtain ⟨before, joined⟩ := suffix
    obtain ⟨first, rest, rfl, _, rfl⟩ := List.map_eq_append_iff.mp joined.symm
    exact ⟨rest, List.suffix_append first rest, waits.trans (recordStream_fragments rest).symm⟩

/-- The first call runs into its timeout before the mark; the later calls return both records. -/
theorem recvEach_receivesRecords_late :
    ReceivesRecords [[1], [2]]
      ⟨some { incoming := [[1], [2]].flatMap Peer.recordWire, reads := [.blocked false, .moved 3] }⟩ 3 := by
  apply recvEach_receivesRecords [[1], [2]] (by simp) _ rfl 3
  intro index below socket connected
  have cases : index = 0 ∨ index = 1 := by omega
  rcases cases with rfl | rfl
  · cases connected
    decide
  · cases connected
    decide

/-- A timeout after the mark makes the next call read the payload as a record of its own. -/
theorem recvEach_takes_payload :
    ¬ ReceivesRecords [[128, 0, 0, 1, 9]]
      ⟨some { incoming := [[128, 0, 0, 1, 9]].flatMap Peer.recordWire, reads := [.moved 4, .blocked false] }⟩
        2 := by
  intro receives
  have order := receives.order
  revert order
  decide

/-- A record of one fragment has one piece, and its message is that piece. -/
theorem singleFragments_pieces {records : List (List Bytes)} (single : ∀ record ∈ records, record.length = 1) :
    ((records.map recordFragments).flatten).map Fragment.piece = records.map List.flatten := by
  induction records with
  | nil => rfl
  | cons record records recurse =>
      obtain ⟨piece, rfl⟩ := List.length_eq_one_iff.mp (single record List.mem_cons_self)
      have later := recurse fun r member => single r (List.mem_cons_of_mem _ member)
      rw [List.map_cons, List.flatten_cons, List.map_append, later, recordFragments_pieces]
      simp

theorem flatten_pieces (records : List (List Bytes)) :
    ((records.map recordFragments).flatten).map Fragment.piece = records.flatten := by
  have same : List.map Fragment.piece ∘ recordFragments = id := funext recordFragments_pieces
  rw [List.map_flatten, List.map_map, same, List.map_id]

theorem length_le_flatten {α : Type} {lists : List (List α)} (filled : ∀ list ∈ lists, list ≠ []) :
    lists.length ≤ lists.flatten.length := by
  induction lists with
  | nil => exact Nat.le_refl _
  | cons list lists recurse =>
      have positive := List.length_pos_of_ne_nil (filled list List.mem_cons_self)
      have later := recurse fun l member => filled l (List.mem_cons_of_mem _ member)
      rw [List.flatten_cons, List.length_append, List.length_cons]
      omega

/-- Nonempty lists with no more elements than lists have one element each. -/
theorem length_eq_one_of_flatten {α : Type} {lists : List (List α)} (filled : ∀ list ∈ lists, list ≠ [])
    (few : lists.flatten.length ≤ lists.length) : ∀ list ∈ lists, list.length = 1 := by
  induction lists with
  | nil => simp
  | cons list lists recurse =>
      have rest : ∀ l ∈ lists, l ≠ [] := fun l member => filled l (List.mem_cons_of_mem _ member)
      have positive := List.length_pos_of_ne_nil (filled list List.mem_cons_self)
      have later := length_le_flatten rest
      rw [List.flatten_cons, List.length_append, List.length_cons] at few
      intro l member
      rcases List.mem_cons.mp member with rfl | member
      · omega
      · exact recurse rest (by omega) l member

/-- Every message is a whole record exactly when every record has one fragment: the flag of the last
fragment is masked and never tested. -/
theorem recv_whole_records_iff (records : List (List Bytes)) (filled : ∀ record ∈ records, record ≠ [])
    (small : ∀ record ∈ records, ∀ piece ∈ record, piece.length < 2 ^ 31) (socket : Socket)
    (arrives : socket.incoming = fragmentStream (records.map recordFragments).flatten)
    (whole : ∀ index, (TcpTransport.recvEach ⟨some socket⟩ index).2.RecvsWhole) :
    (∀ count, InStreamOrder (records.map List.flatten) (TcpTransport.recvEach ⟨some socket⟩ count).1) ↔
      ∀ record ∈ records, record.length = 1 := by
  have bounded : ∀ fragment ∈ (records.map recordFragments).flatten, fragment.piece.length < 2 ^ 31 := by
    intro fragment member
    have piece : fragment.piece ∈ records.flatten := by
      rw [← flatten_pieces]
      exact List.mem_map_of_mem member
    obtain ⟨record, inside, piece⟩ := List.mem_flatten.mp piece
    exact small record inside _ piece
  constructor
  · intro order
    obtain ⟨count, drained⟩ := recvEach_drains bounded arrives whole
    have few := (order count).length_le
    rw [drained, flatten_pieces, List.length_map] at few
    exact length_eq_one_of_flatten filled few
  · intro single count
    have order := (recvEach_pieces bounded arrives count fun index _ => whole index).1
    rwa [singleFragments_pieces single] at order

/-- Two records of one fragment each come back whole, and the calls after them return nothing. -/
theorem recv_whole_records_iff_single :
    InStreamOrder [[1], [2]] (TcpTransport.recvEach
      ⟨some { incoming := fragmentStream [⟨true, [1]⟩, ⟨true, [2]⟩], reads := [.moved 3] }⟩ 5).1 := by
  have through : ∀ event ∈ [IoEvent.moved 3], ReadsThrough event := by simp [ReadsThrough, WritesThrough]
  have whole := recv_whole_records_iff [[[1]], [[2]]] (by simp) (by simp)
    { incoming := fragmentStream [⟨true, [1]⟩, ⟨true, [2]⟩], reads := [.moved 3] } rfl
      (recvEach_recvsWhole through)
  exact whole.mpr (by simp) 5

/-- The first fragment of a longer record is passed off as a message. -/
theorem recv_returns_piece :
    ¬ InStreamOrder [[1, 2]] (TcpTransport.recvEach
      ⟨some { incoming := fragmentStream (recordFragments [[1], [2]]) }⟩ 1).1 := by decide

end Nfs3Rpc.SimpleRpc
