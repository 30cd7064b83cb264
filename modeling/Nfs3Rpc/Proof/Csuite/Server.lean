import Nfs3Rpc.Format.Csuite.Server
import Nfs3Rpc.Proof.Csuite.Handles
import Nfs3Rpc.Proof.SimpleRpc.Sessions

namespace Nfs3Rpc.Csuite.Server
open Encoding SimpleRpc

variable {α β : Type} {garbage : UInt32 → Prop} {peer : Option Socket} {peers : List (Option Socket)}
    {answer : Answer}
variable {log : List (CString × UInt16 × Option Bytes)} {body : Bytes}

/-- The program leaves the connections as they are. -/
def Stays (garbage : UInt32 → Prop) (peers : List (Option Socket)) (log : List (CString × UInt16 × Option Bytes))
    (program : Test α) (result : α → Prop) : Prop :=
  Returns (Ready garbage peers log) program fun value tester => Ready garbage peers log tester ∧ result value

theorem onBuffer_emits {program : Run α} {value : α} {wire : Bytes}
    (emits : ∀ depth, Emits (writing 0 depth) program value wire) :
    Stays garbage peers log (onBuffer [] program) (· = (value, wire)) := by
  intro tester ready
  obtain ⟨machine, runs, buf, _, _⟩ :=
    emits tester.depth ⟨⟨[], 0⟩, tester.frames 0, tester.depth⟩ [] ⟨rfl, rfl, Nat.dvd_zero _⟩
  refine ⟨(value, machine.buf.data), { tester with frames := fun index => tester.frames (index + 1) }, ?_,
    ⟨fun frame => ready.frames (frame + 1), ready.peers, ready.visits⟩, ?_⟩
  · simp only [onBuffer, runs]
  · rw [buf, List.nil_append]

theorem onBuffer_walks {b : Bytes} {program : Run α} {stop : Nat} {result : α → Prop}
    (walks : ∀ depth, Walks b garbage depth program 0 stop result) :
    Stays garbage peers log (onBuffer b program) fun got => result got.1 := by
  intro tester ready
  obtain ⟨value, machine, runs, _, holds⟩ :=
    walks tester.depth ⟨⟨b, 0⟩, tester.frames 0, tester.depth⟩ ⟨rfl, ready.frames 0, rfl⟩
  refine ⟨(value, machine.buf.data), { tester with frames := fun index => tester.frames (index + 1) }, ?_,
    ⟨fun frame => ready.frames (frame + 1), ready.peers, ready.visits⟩, holds⟩
  simp only [onBuffer, runs]

theorem onBuffer_hangs {b : Bytes} {program : Run α} (hangs : ∀ depth, Hangs b garbage depth program 0) :
    NeverReturns (Ready garbage peers log) (onBuffer b program) := by
  intro tester ready value next runs
  cases inner : program ⟨⟨b, 0⟩, tester.frames 0, tester.depth⟩ with
  | ok found machine => exact hangs tester.depth _ ⟨rfl, ready.frames 0, rfl⟩ found machine inner
  | error fault machine =>
      simp only [onBuffer, inner] at runs
      cases runs

/-- A step that leaves the connections alone comes before the rest. -/
theorem Stays.before {program : Test α} {next : α → Test β} {between : α → Prop} {post : β → Tester → Prop}
    (first : Stays garbage peers log program between)
    (second : ∀ value, between value → Returns (Ready garbage peers log) (next value) post) :
    Returns (Ready garbage peers log) (program >>= next) post :=
  Returns.bind first fun value tester held => second value held.2 tester held.1

theorem Stays.stops {program : Test α} {next : α → Test β} {between : α → Prop}
    (first : Stays garbage peers log program between)
    (second : ∀ value, between value → NeverReturns (Ready garbage peers log) (next value)) :
    NeverReturns (Ready garbage peers log) (program >>= next) :=
  NeverReturns.after first fun value tester held => second value held.2 tester held.1

theorem Stays.pure {value : α} {result : α → Prop} (holds : result value) :
    Stays garbage peers log (Pure.pure value) result :=
  Returns.pure fun _ ready => ⟨ready, holds⟩

theorem copyBody_stays (some : body ≠ []) :
    Stays garbage peers log (onBuffer [] (readBlock (bodyResponse body).data (bodyResponse body).len))
      fun got => got.1 = body := by
  have reads : ∀ depth, Walks [] garbage depth (readBlock (bodyResponse body).data (bodyResponse body).len) 0 0
      (· = body) := by
    intro depth
    rw [bodyResponse, if_neg some, readBlock, if_pos (Nat.le_refl _), List.take_length]
    exact .pure rfl
  exact onBuffer_walks reads

/-- The body is copied, and then decoded. -/
theorem onBody_walks {program : Run α} {stop : Nat} {result : α → Prop} (some : body ≠ [])
    (walks : ∀ depth, Walks body garbage depth program 0 stop result) :
    Stays garbage peers log (onBody (bodyResponse body) program) result := by
  apply Stays.before (copyBody_stays some)
  rintro ⟨copy, left⟩ rfl
  apply Stays.before (onBuffer_walks walks)
  rintro ⟨value, left⟩ holds
  exact Stays.pure holds

theorem onBody_hangs {program : Run α} (some : body ≠ [])
    (hangs : ∀ depth, Hangs body garbage depth program 0) :
    NeverReturns (Ready garbage peers log) (onBody (bodyResponse body) program) := by
  apply Stays.stops (copyBody_stays some)
  rintro ⟨copy, left⟩ rfl
  exact NeverReturns.bind (onBuffer_hangs hangs)

/-- A response has a status, and a body only when the call was accepted. -/
theorem respond_bodyResponse (result : RpcStatus × Bytes) :
    respond true result = (mapStatus result.1, bodyResponse (if result.1 = .OK then result.2 else [])) := by
  obtain ⟨status, resp⟩ := result
  by_cases accepted : status = .OK
  · subst accepted
    cases resp with
    | nil => rfl
    | cons byte resp => rfl
  · simp only [respond, if_pos accepted, if_neg accepted, bodyResponse, if_true]

/-- What the call of the interface is for, on a new connection. -/
theorem plain_response (prog vers proc : UInt32) (args : Bytes) (data : Ptr) (replies : List Bytes) :
    ApiCall.plain ⟨.call prog vers proc args, data, true⟩ ⟨1, [], replies⟩ =
      match response (some replies) with
      | .error fault => .error fault ⟨2, [buildCall 1 prog vers proc args], replies.tail⟩
      | .ok (status, body) =>
          .ok (status, some (bodyResponse body)) ⟨2, [buildCall 1 prog vers proc args], replies.tail⟩ := by
  cases replies with
  | nil => rfl
  | cons reply replies =>
      cases parsed : parseReply reply 1 [] with
      | error fault =>
          have fails : Transfer.plain (.call prog vers proc args) ⟨1, [], reply :: replies⟩ =
              .error fault ⟨2, [buildCall 1 prog vers proc args], replies⟩ := by
            simp only [Transfer.plain, Transfer.outcome, Transfer.result, List.head?_cons, parsed]
            rfl
          simp only [response, parsed]
          exact bind_of_error fails
      | ok result =>
          have returns : Transfer.plain (.call prog vers proc args) ⟨1, [], reply :: replies⟩ =
              .ok result ⟨2, [buildCall 1 prog vers proc args], replies⟩ := by
            simp only [Transfer.plain, Transfer.outcome, Transfer.result, List.head?_cons, parsed]
            rfl
          have responds := respond_bodyResponse result
          obtain ⟨status, resp⟩ := result
          simp only [response, parsed]
          rw [ApiCall.plain, bind_of_ok returns, responds]
          rfl

/-- A connection that was made carries the call and its reply. -/
theorem rpcCallBytes_linked {socket : Socket} {replies : List Bytes} (host : CString) (port : UInt16)
    (prog vers proc : UInt32) {args : Bytes} (short : args.length < 2 ^ 31 - 72)
    (linked : SimpleRpc.Linked socket ⟨1, [], replies⟩) (tester : Tester)
    (first : tester.peers.head?.join = .some socket) :
    (∃ fault final, response (.some replies) = .error fault ∧
      rpcCallBytes (.some host) port prog vers proc (xdrBufData args) args.length tester =
        .error (.reply fault) final) ∨
    ∃ status body final, response (.some replies) = .ok (status, body) ∧
      final.sent = Peer.recordWire (buildCall 1 prog vers proc args) ∧
      rpcCallBytes (.some host) port prog vers proc (xdrBufData args) args.length tester =
        .ok (status, bodyResponse body)
          { tester with peers := tester.peers.tail, visits := tester.visits ++ [⟨host, port, .some final⟩] } := by
  have valid : ApiCall.Valid ⟨.call prog vers proc args, xdrBufData args, true⟩ := by
    by_cases empty : args = []
    · exact .inl ⟨if_pos empty, empty⟩
    · refine .inr ⟨[], ?_⟩
      rw [List.append_nil]
      exact if_neg empty
  have fits : Transfer.Fits (.call prog vers proc args) := Transfer.fits_of_short short
  have connected : nfstestRpcConnect tester.peers.head?.join = .some ⟨⟨.some socket⟩, 1⟩ := by
    rw [first]
    rfl
  have plain := plain_response prog vers proc args (xdrBufData args) replies
  obtain ⟨result, _, handle, session, runs, runs', rfl, final, rfl, left⟩ |
      ⟨fault, _, handle, session, fails, fails', rfl⟩ :=
    ApiCall.run_mirrors valid fits (.some ⟨⟨.some socket⟩, 1⟩) ⟨1, [], replies⟩ ⟨socket, rfl, linked⟩
  · right
    cases responds : response (.some replies) with
    | error fault =>
        rw [responds, runs'] at plain
        cases plain
    | ok found =>
        rw [responds, runs'] at plain
        obtain ⟨rfl, rfl⟩ := EStateM.Result.ok.inj plain
        have sent := left.sent
        refine ⟨found.1, found.2, final, rfl, ?_, ?_⟩
        · simpa using sent
        · have runs : nfstestRpcCall prog vers proc (xdrBufData args) args.length (.some {}) true
              (.some ⟨⟨.some socket⟩, 1⟩) = _ := runs
          simp only [rpcCallBytes, connected, runs]
          rfl
  · left
    cases responds : response (.some replies) with
    | ok found =>
        rw [responds, fails'] at plain
        cases plain
    | error found =>
        rw [responds, fails'] at plain
        obtain ⟨rfl, rfl⟩ := EStateM.Result.error.inj plain
        have fails : nfstestRpcCall prog vers proc (xdrBufData args) args.length (.some {}) true
            (.some ⟨⟨.some socket⟩, 1⟩) = _ := fails
        simp only [rpcCallBytes, connected, fails]
        exact ⟨fault, _, rfl, rfl⟩

/-- A body comes only with a call that was accepted. -/
theorem response_accepted {status : Int32} (responds : response answer = .ok (status, body)) (some : body ≠ []) :
    status = NFSTEST_RPC_OK := by
  cases answer with
  | none =>
      obtain ⟨rfl, rfl⟩ := Prod.mk.inj (Except.ok.inj responds)
      exact absurd rfl some
  | some replies =>
      cases replies with
      | nil =>
          obtain ⟨rfl, rfl⟩ := Prod.mk.inj (Except.ok.inj responds)
          exact absurd rfl some
      | cons reply replies =>
          rw [response] at responds
          split at responds
          · cases responds
          · rename_i found resp _
            obtain ⟨rfl, rfl⟩ := Prod.mk.inj (Except.ok.inj responds)
            by_cases accepted : found = .OK
            · rw [accepted]
              rfl
            · rw [if_neg accepted] at some
              exact absurd rfl some

theorem Ready.joined {tester : Tester} (ready : Ready garbage (peer :: peers) log tester) :
    tester.peers.head?.join = peer := by
  rw [ready.peers]
  rfl

theorem Ready.closed {tester : Tester} (ready : Ready garbage (peer :: peers) log tester) (visit : Visit) :
    Ready garbage peers (log ++ [(visit.host, visit.port, visit.socket.map Socket.sent)])
      { tester with peers := tester.peers.tail, visits := tester.visits ++ [visit] } where
  frames := ready.frames
  peers := by rw [ready.peers, List.tail_cons]
  visits := by rw [List.map_append, ready.visits, List.map_cons, List.map_nil]

/-- The call takes the next connection, and returns what the answer says. -/
theorem rpcCallBytes_returns (host : CString) (port : UInt16) (prog vers proc : UInt32) {args : Bytes} {status : Int32}
    (short : args.length < 2 ^ 31 - 72) (gives : Gives peer answer)
    (responds : response answer = .ok (status, body)) :
    Returns (Ready garbage (peer :: peers) log)
      (rpcCallBytes (.some host) port prog vers proc (xdrBufData args) args.length) fun got tester =>
        Ready garbage peers (log ++ [(host, port, recordOf answer prog vers proc args)]) tester ∧
          got = (status, bodyResponse body) := by
  intro tester ready
  have first := ready.joined
  cases gives with
  | refused =>
      obtain ⟨rfl, rfl⟩ := Prod.mk.inj (Except.ok.inj responds)
      refine ⟨_, _, ?_, ready.closed ⟨host, port, none⟩, rfl⟩
      simp only [rpcCallBytes, first]
      rfl
  | linked linked =>
      obtain ⟨fault, _, fails, _⟩ | ⟨found, resp, final, same, sent, runs⟩ :=
        rpcCallBytes_linked host port prog vers proc short linked tester first
      · rw [responds] at fails
        cases fails
      · rw [responds] at same
        obtain ⟨rfl, rfl⟩ := Prod.mk.inj (Except.ok.inj same)
        refine ⟨_, _, runs, ?_, rfl⟩
        have left := ready.closed ⟨host, port, .some final⟩
        rwa [Option.map_some, sent] at left

/-- A reply that is read out of its bounds ends the run. -/
theorem rpcCallBytes_stops (host : CString) (port : UInt16) (prog vers proc : UInt32) {args : Bytes}
    {fault : OutOfBounds} (short : args.length < 2 ^ 31 - 72) (gives : Gives peer answer)
    (fails : response answer = .error fault) :
    NeverReturns (Ready garbage (peer :: peers) log)
      (rpcCallBytes (.some host) port prog vers proc (xdrBufData args) args.length) := by
  intro tester ready value next runs
  cases gives with
  | refused => cases fails
  | linked linked =>
      obtain ⟨_, _, _, stops⟩ | ⟨_, _, _, same, _, _⟩ :=
        rpcCallBytes_linked host port prog vers proc short linked tester ready.joined
      · rw [runs] at stops
        cases stops
      · rw [fails] at same
        cases same

variable {env : Environment} {host : CString}

theorem nfs3ServerCall_eq (configured : nfs3ServerIsConfigured env = true) (server : nfs3ServerHost env = some host)
    (proc : UInt32) (args : Bytes) :
    nfs3ServerCall env proc (some args) =
      rpcCallBytes (some host) (nfs3ServerPort env) NFS_PROGRAM NFS_V3 proc (xdrBufData args) args.length := by
  rw [nfs3ServerCall, configured, server]
  rfl

/-- Without a body there is nothing to decode. -/
def decodedOr (body : Bytes) (unanswered : β) (decoded : Nfsstat3 × β) : Nfsstat3 × β :=
  if body = [] then ( Nfsstat3.NFS3ERR_IO, unanswered) else decoded

/-- What an exchange leaves to its helper. -/
def exchanged (status : Int32) (body : Bytes) (unanswered : β) (decoded : Nfsstat3 × β) : Exchanged β where
  status := status
  answered := body ≠ []
  nfsStatus := (decodedOr body unanswered decoded).1
  found := (decodedOr body unanswered decoded).2

/-- The record of one call of the file server. -/
def entryOf (env : Environment) (host : CString) (answer : Answer) (proc : ProcNum) (args : Bytes) :
    CString × UInt16 × Option Bytes :=
  (host, nfs3ServerPort env, recordOf answer NFS_PROGRAM NFS_V3 proc.code args)

theorem bodyResponse_null_iff : (bodyResponse body).data = .null ↔ body = [] := by
  by_cases empty : body = []
  · simp [bodyResponse, empty]
  · simp [bodyResponse, empty]

section Exchanges

variable {proc : ProcNum} {build : Run α} {decode : Run (Nfsstat3 × β)} {unanswered : β} {destroy : α → Run Unit}
variable {made : α} {args : Bytes} {status : Int32}

theorem decodeResponse_stays (accepted : body ≠ [] → status = NFSTEST_RPC_OK) {result : Nfsstat3 × β → Prop}
    (decodes : body ≠ [] → ∃ stop, ∀ depth, Walks body garbage depth decode 0 stop result) :
    Stays garbage peers log (decodeResponse decode unanswered status (bodyResponse body))
      fun got => ∃ decoded, (body ≠ [] → result decoded) ∧ got = decodedOr body unanswered decoded := by
  by_cases empty : body = []
  · rw [decodeResponse, if_neg fun held => held.2 (bodyResponse_null_iff.mpr empty)]
    exact .pure ⟨( Nfsstat3.NFS3ERR_IO, unanswered), fun some => absurd empty some, (if_pos empty).symm⟩
  · obtain ⟨stop, walks⟩ := decodes empty
    rw [decodeResponse, if_pos ⟨accepted empty, fun null => empty (bodyResponse_null_iff.mp null)⟩]
    apply Returns.weaken (onBody_walks empty walks)
    intro decoded tester held
    exact ⟨held.1, decoded, fun _ => held.2, (if_neg empty).symm⟩

theorem decodeResponse_hangs (some : body ≠ []) (accepted : status = NFSTEST_RPC_OK)
    (hangs : ∀ depth, Hangs body garbage depth decode 0) :
    NeverReturns (Ready garbage peers log) (decodeResponse decode unanswered status (bodyResponse body)) := by
  rw [decodeResponse, if_pos ⟨accepted, fun null => some (bodyResponse_null_iff.mp null)⟩]
  exact onBody_hangs some hangs

/-- An exchange packs its arguments, takes the next connection, and decodes a body that is there. -/
theorem exchange_returns (configured : nfs3ServerIsConfigured env = true) (server : nfs3ServerHost env = some host)
    (packs : ∀ depth, Emits (writing 0 depth) build made args)
    (frees : ∀ depth, Walks args garbage depth (destroy made) 0 0 fun _ => True)
    (short : args.length < 2 ^ 31 - 72) (gives : Gives peer answer) (responds : response answer = .ok (status, body))
    {result : Nfsstat3 × β → Prop}
    (decodes : body ≠ [] → ∃ stop, ∀ depth, Walks body garbage depth decode 0 stop result) :
    Returns (Ready garbage (peer :: peers) log) (exchange env proc build decode unanswered destroy)
      fun got tester => Ready garbage peers (log ++ [entryOf env host answer proc args]) tester ∧
        ∃ decoded, (body ≠ [] → result decoded) ∧ got = exchanged status body unanswered decoded := by
  rw [exchange]
  apply Stays.before (onBuffer_emits packs)
  rintro _ rfl
  apply Returns.bind
  · rw [nfs3ServerCall_eq configured server]
    exact rpcCallBytes_returns host _ _ _ _ short gives responds
  rintro ⟨found, resp⟩ tester ⟨ready, same⟩
  obtain ⟨rfl, rfl⟩ := Prod.mk.inj same
  apply Stays.before (decodeResponse_stays (response_accepted responds) decodes) _ tester ready
  rintro ⟨nfsStatus, found'⟩ ⟨decoded, held, same⟩
  apply Stays.before (onBuffer_walks frees)
  intro _ _
  refine Stays.pure ⟨decoded, held, ?_⟩
  rw [exchanged, ← same]
  congr 1
  simp only [ne_eq, bodyResponse_null_iff]

/-- An exchange does not return when its reply is read out of bounds, or its decoder faults. -/
theorem exchange_stops (configured : nfs3ServerIsConfigured env = true) (server : nfs3ServerHost env = some host)
    (packs : ∀ depth, Emits (writing 0 depth) build made args) (short : args.length < 2 ^ 31 - 72)
    (gives : Gives peer answer)
    (fails : (∃ fault, response answer = .error fault) ∨ ∃ status body, response answer = .ok (status, body) ∧
      body ≠ [] ∧ ∀ depth, Hangs body garbage depth decode 0) :
    NeverReturns (Ready garbage (peer :: peers) log) (exchange env proc build decode unanswered destroy) := by
  rw [exchange]
  apply Stays.stops (onBuffer_emits packs)
  rintro _ rfl
  rcases fails with ⟨fault, fails⟩ | ⟨status, body, responds, full, hangs⟩
  · apply NeverReturns.bind
    rw [nfs3ServerCall_eq configured server]
    exact rpcCallBytes_stops host _ _ _ _ short gives fails
  · apply NeverReturns.after
    · rw [nfs3ServerCall_eq configured server]
      exact rpcCallBytes_returns host _ _ _ _ short gives responds
    rintro ⟨found, resp⟩ tester ⟨ready, same⟩
    obtain ⟨rfl, rfl⟩ := Prod.mk.inj same
    apply NeverReturns.bind _ tester ready
    exact decodeResponse_hangs full (response_accepted responds full) hangs

end Exchanges

end Nfs3Rpc.Csuite.Server
