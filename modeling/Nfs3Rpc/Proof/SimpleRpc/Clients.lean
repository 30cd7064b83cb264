import Nfs3Rpc.Format.Clients
import Nfs3Rpc.Proof.SimpleRpc.Records

namespace Nfs3Rpc.SimpleRpc
open Encoding Peer

/-- A `send` leaves what the peer sends alone. -/
theorem TcpTransport.send_keeps (socket : Socket) (message : Bytes) :
    ∃ done writes sent, TcpTransport.send ⟨some socket⟩ message =
      (done, ⟨some { socket with writes, sent }⟩) := by
  cases header : writeLoop socket.writes (be32 (fragHeader message)) socket.sent with
  | mk headerSent left =>
      obtain ⟨middle, sent⟩ := left
      cases headerSent with
      | false => exact ⟨false, middle, sent, by simp [TcpTransport.send, Socket.writeAll, header]⟩
      | true =>
          cases body : writeLoop middle message sent with
          | mk bodySent left =>
              obtain ⟨rest, sent⟩ := left
              exact ⟨bodySent, rest, sent, by simp [TcpTransport.send, Socket.writeAll, header, body]⟩

/-- A connected client sends, receives, and gives the record to the parser. -/
theorem Request.run_eq (request : Request) (socket : Socket) (xid : UInt32) :
    request.run ⟨⟨some socket⟩, xid⟩ =
      match TcpTransport.send ⟨some socket⟩ (request.message xid) with
      | (false, transport) => (.ok (.SEND_ERR, []), ⟨transport, xid + 1⟩)
      | (true, transport) =>
          match transport.recv with
          | (none, transport) => (.ok (.RECV_ERR, []), ⟨transport, xid + 1⟩)
          | (some replyData, transport) => (parseReply replyData xid [], ⟨transport, xid + 1⟩) := by
  have connected : RpcClient.isConnected ⟨⟨some socket⟩, xid⟩ = true := rfl
  simp only [Request.run, RpcClient.call, connected, if_true, Request.message]
  rcases TcpTransport.send ⟨some socket⟩ (buildCall xid request.prog request.vers request.proc request.xdrArgs) with
    ⟨done, transport⟩
  cases done with
  | false => rfl
  | true =>
      rcases received : transport.recv with ⟨result, transport⟩
      cases result with
      | none => simp only [received]
      | some replyData =>
          cases parsed : parseReply replyData xid [] with
          | ok reply => simp only [received, parsed]
          | error fault => simp only [received, parsed]

/-- A call keeps its connection and uses up one xid. -/
theorem Request.run_connected (request : Request) (socket : Socket) (xid : UInt32) :
    ∃ outcome next, request.run ⟨⟨some socket⟩, xid⟩ = (outcome, ⟨⟨some next⟩, xid + 1⟩) ∧
      next.reads <:+ socket.reads := by
  obtain ⟨done, writes, sent, sends⟩ := TcpTransport.send_keeps socket (request.message xid)
  obtain ⟨result, next, receives, used⟩ := recv_reads_suffix { socket with writes, sent }
  rw [Request.run_eq, sends]
  cases done with
  | false => exact ⟨_, _, rfl, List.suffix_rfl⟩
  | true =>
      simp only [receives]
      cases result with
      | none => exact ⟨_, _, rfl, used⟩
      | some replyData => exact ⟨_, _, rfl, used⟩

/-- Objects may change places, but no connection gets a second holder and nothing is sent. -/
structure Relocates (clients next : Clients) : Prop where
  calls : next.calls = clients.calls
  opened : next.opened = clients.opened
  origin : ∃ origin : Nat → Nat,
    (∀ object, next.Connected object → next.endpoints object = clients.endpoints (origin object)) ∧
    ∀ first second, next.Connected first → next.Connected second → origin first = origin second → first = second

theorem Relocates.refl (clients : Clients) : Relocates clients clients :=
  ⟨rfl, rfl, id, fun _ _ => rfl, fun _ _ _ _ same => same⟩

/-- An object that gets disconnected drops out. -/
theorem Relocates.close {clients : Clients} {object : Nat} {endpoint : Endpoint}
    (closed : endpoint.client.isConnected = false) : Relocates clients (clients.put object endpoint) := by
  refine ⟨rfl, rfl, id, ?_, fun _ _ _ _ same => same⟩
  intro other connected
  by_cases same : other = object
  · subst same
    simp [Clients.Connected, Clients.put, closed] at connected
  · simp [Clients.put, same]

/-- The target of a move takes over what the source held. -/
theorem Relocates.move {clients : Clients} {target source : Nat} {left : Endpoint} (different : target ≠ source)
    (closed : left.client.isConnected = false) :
    Relocates clients ((clients.put source left).put target (clients.endpoints source)) := by
  have gone : ∀ object, ((clients.put source left).put target (clients.endpoints source)).Connected object →
      object ≠ source := by
    intro object connected same
    subst same
    simp [Clients.Connected, Clients.put, Ne.symm different, closed] at connected
  refine ⟨rfl, rfl, Function.update id target source, ?_, ?_⟩
  · intro object connected
    have other := gone object connected
    by_cases same : object = target
    · subst same
      simp [Clients.put]
    · simp [Clients.put, same, other]
  · intro first second firstConnected secondConnected same
    have firstOther := gone first firstConnected
    have secondOther := gone second secondConnected
    by_cases firstTarget : first = target <;> by_cases secondTarget : second = target <;>
      simp_all [Function.update]

/-- A connect that gets through gives the object a socket of its own. -/
def Clients.opens (peer : Nat → Socket) (clients : Clients) (object : Nat) : Clients :=
  { clients.put object ⟨⟨⟨some (peer clients.opened)⟩, (clients.endpoints object).client.xid⟩,
    clients.opened⟩ with
    opened := clients.opened + 1 }

/-- A call leaves the object on its connection, with the next xid. -/
def Clients.calling (clients : Clients) (object : Nat) (next : Socket)
    (outcome : Except OutOfBounds (RpcStatus × Bytes)) : Clients :=
  let endpoint := clients.endpoints object
  { clients.put object { endpoint with client := ⟨⟨some next⟩, endpoint.client.xid + 1⟩ } with
    calls := clients.calls ++ [⟨endpoint.connection, endpoint.client.xid, outcome⟩] }

/-- The xids on a connection count up from the one that the client had when it opened the connection. -/
structure Accounted (clients : Clients) (start : Nat → UInt32) : Prop where
  past : ∀ call ∈ clients.calls, call.connection < clients.opened
  held : ∀ object, clients.Connected object → (clients.endpoints object).connection < clients.opened
  owned : ∀ first second, clients.Connected first → clients.Connected second →
    (clients.endpoints first).connection = (clients.endpoints second).connection → first = second
  counted : ∀ connection, (clients.callsOn connection).map Call.xid =
    (List.range (clients.callsOn connection).length).map fun index => start connection + UInt32.ofNat index
  next : ∀ object, clients.Connected object → (clients.endpoints object).client.xid =
    start (clients.endpoints object).connection +
      UInt32.ofNat (clients.callsOn (clients.endpoints object).connection).length

/-- A new connection starts to count at the xid of its client. -/
theorem Accounted.opens {clients : Clients} {start : Nat → UInt32} (accounted : Accounted clients start)
    (peer : Nat → Socket) (object : Nat) :
    Accounted (clients.opens peer object)
      (Function.update start clients.opened (clients.endpoints object).client.xid) := by
  have unused : clients.callsOn clients.opened = [] := by
    apply List.filter_eq_nil_iff.mpr
    intro call member
    have below := accounted.past call member
    simp only [decide_eq_true_eq]
    omega
  have kept : ∀ other, other ≠ object →
    (clients.opens peer object).endpoints other = clients.endpoints other := by
    intro other different
    simp [Clients.opens, Clients.put, different]
  have fresh : ((clients.opens peer object).endpoints object).connection = clients.opened := by
    simp [Clients.opens, Clients.put]
  have calls : ∀ connection, (clients.opens peer object).callsOn connection = clients.callsOn connection :=
    fun _ => rfl
  have older : ∀ other, other ≠ object → (clients.opens peer object).Connected other →
      clients.Connected other ∧ (clients.endpoints other).connection < clients.opened := by
    intro other different connected
    rw [Clients.Connected, kept other different] at connected
    exact ⟨connected, accounted.held other connected⟩
  constructor
  · intro call member
    exact Nat.lt_succ_of_lt (accounted.past call member)
  · intro other connected
    by_cases same : other = object
    · rw [same, fresh]
      exact Nat.lt_succ_self _
    · rw [kept other same]
      exact Nat.lt_succ_of_lt (older other same connected).2
  · intro first second firstConnected secondConnected equal
    by_cases firstSame : first = object <;> by_cases secondSame : second = object
    · rw [firstSame, secondSame]
    · have below := (older second secondSame secondConnected).2
      rw [firstSame, fresh, kept second secondSame] at equal
      omega
    · have below := (older first firstSame firstConnected).2
      rw [secondSame, fresh, kept first firstSame] at equal
      omega
    · rw [kept first firstSame, kept second secondSame] at equal
      exact accounted.owned first second (older first firstSame firstConnected).1
        (older second secondSame secondConnected).1 equal
  · intro connection
    by_cases same : connection = clients.opened
    · rw [calls, same, unused]
      rfl
    · rw [calls, Function.update_of_ne same]
      exact accounted.counted connection
  · intro other connected
    by_cases same : other = object
    · subst same
      rw [calls, fresh, unused, Function.update_self]
      simp [Clients.opens, Clients.put]
    · obtain ⟨before, below⟩ := older other same connected
      rw [calls, kept other same, Function.update_of_ne (Nat.ne_of_lt below)]
      exact accounted.next other before

theorem Clients.callsOn_calling (clients : Clients) (object : Nat) (next : Socket)
    (outcome : Except OutOfBounds (RpcStatus × Bytes)) (connection : Nat) :
    (clients.calling object next outcome).callsOn connection = clients.callsOn connection ++
      if (clients.endpoints object).connection = connection then
        [⟨connection, (clients.endpoints object).client.xid, outcome⟩]
      else [] := by
  rw [Clients.callsOn, Clients.calling, Clients.callsOn, List.filter_append]
  congr 1
  by_cases same : (clients.endpoints object).connection = connection
  · subst same
    simp
  · simp [same]

/-- The next xid goes out on the connection of the caller, and on no other one. -/
theorem Accounted.calls {clients : Clients} {start : Nat → UInt32} (accounted : Accounted clients start)
    {object : Nat} (holds : clients.Connected object) (next : Socket)
    (outcome : Except OutOfBounds (RpcStatus × Bytes)) :
    Accounted (clients.calling object next outcome) start := by
  have kept : ∀ other, other ≠ object →
      (clients.calling object next outcome).endpoints other = clients.endpoints other := by
    intro other different
    simp [Clients.calling, Clients.put, different]
  have connection : ∀ other, ((clients.calling object next outcome).endpoints other).connection =
      (clients.endpoints other).connection := by
    intro other
    by_cases same : other = object
    · subst same
      simp [Clients.calling, Clients.put]
    · rw [kept other same]
  have connected : ∀ other, (clients.calling object next outcome).Connected other → clients.Connected other := by
    intro other connected
    by_cases same : other = object
    · rwa [same]
    · rwa [Clients.Connected, kept other same] at connected
  constructor
  · intro call member
    rcases List.mem_append.mp member with old | new
    · exact accounted.past call old
    · rw [List.mem_singleton.mp new]
      exact accounted.held object holds
  · intro other holds
    rw [connection]
    exact accounted.held other (connected other holds)
  · intro first second firstHolds secondHolds equal
    rw [connection, connection] at equal
    exact accounted.owned first second (connected first firstHolds) (connected second secondHolds) equal
  · intro number
    rw [Clients.callsOn_calling]
    by_cases same : (clients.endpoints object).connection = number
    · subst same
      rw [if_pos rfl, List.map_append, accounted.counted, List.length_append, List.length_singleton,
        List.range_succ, List.map_append, List.map_singleton, accounted.next object holds]
      rfl
    · rw [if_neg same, List.append_nil]
      exact accounted.counted number
  · intro other holdsOther
    rw [connection, Clients.callsOn_calling]
    by_cases same : other = object
    · subst same
      have xid : ((clients.calling other next outcome).endpoints other).client.xid =
          (clients.endpoints other).client.xid + 1 := by simp [Clients.calling, Clients.put]
      rw [if_pos rfl, List.length_append, List.length_singleton, UInt32.ofNat_add, xid,
        accounted.next other holds, UInt32.add_assoc]
      rfl
    · have different : (clients.endpoints object).connection ≠ (clients.endpoints other).connection := by
        intro equal
        exact same (accounted.owned other object (connected other holdsOther) holds equal.symm)
      rw [if_neg different, List.append_nil, kept other same]
      exact accounted.next other (connected other holdsOther)

end Nfs3Rpc.SimpleRpc
