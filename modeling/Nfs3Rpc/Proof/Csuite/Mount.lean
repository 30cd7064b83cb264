import Nfs3Rpc.Format.Csuite.Mount
import Nfs3Rpc.Proof.Csuite.Bodies
import Nfs3Rpc.Proof.Csuite.Server

namespace Nfs3Rpc.Csuite.Server
open Encoding SimpleRpc

variable {garbage : UInt32 → Prop} {peer : Option Socket} {peers : List (Option Socket)} {answer : Answer}
variable {log : List (CString × UInt16 × Option Bytes)} {body : Bytes} {env : Environment} {host : CString}
variable {prog vers : UInt32} {status : Int32} {rootFh : NfsFh3T} {exportPath : CString}

theorem portRequest_emits {depth : Nat} :
    Emits (writing 0 depth) (do
      xdrPackUint32 prog
      xdrPackUint32 vers
      xdrPackUint32 IPPROTO_TCP_NUM
      xdrPackUint32 0) () (portRequest prog vers) :=
  .cons (xdrPackUint32_emits _) <| .cons (xdrPackUint32_emits _) <| .cons (xdrPackUint32_emits _) <|
    .last (xdrPackUint32_emits _)

theorem portRequest_short : (portRequest prog vers).length < 2 ^ 31 - 72 := by
  have length : (portRequest prog vers).length = 16 := rfl
  rw [length]
  decide

theorem CString.cstring_ptr (s : CString) : s.ptr.cstring = s.bytes := by
  rw [CString.ptr, Ptr.cstring, List.takeWhile_append_of_pos]
  · simp
  · intro byte member
    have nonzero : byte ≠ 0 := fun zero => s.ended (zero ▸ member)
    simpa using nonzero

theorem mountRequest_emits {depth : Nat} :
    Emits (writing 0 depth) (xdrPackCstring exportPath.ptr) () (mountRequest exportPath) := by
  have packs := @xdrPackCstring_emits 0 depth exportPath.ptr (.inr ⟨exportPath.bytes ++ [0], rfl, by simp⟩)
  rwa [exportPath.cstring_ptr] at packs

/-- A word that is out of range is no port. -/
theorem portIn_eq {word : UInt32} (same : word = if 0 + 4 ≤ body.length then wordAt body 0 else 0) :
    (if word = 0 ∨ word > 65535 then 0 else word.toUInt16) = portIn body := by
  by_cases inside : 4 ≤ body.length
  · rw [if_pos (by omega)] at same
    subst same
    rw [portIn]
    by_cases zero : wordAt body 0 = 0
    · rw [if_pos (.inl zero), zero]
      split <;> rfl
    · by_cases large : wordAt body 0 > 65535
      · rw [if_pos (.inr large), if_neg fun held => absurd held.2 (by simpa using large)]
      · rw [if_neg (by simp [zero, large]), if_pos ⟨inside, by simpa using large⟩]
  · rw [if_neg (by omega)] at same
    rw [same, if_pos (.inl rfl), portIn, if_neg fun held => inside held.1]

/-- The portmapper gives the port that its answer says, and zero for any other answer. -/
theorem getRpcServicePort_returns (known : given env.testServer = true) (server : env.testServer = some host)
    (gives : Gives peer answer) (responds : response answer = .ok (status, body)) :
    Returns (Ready garbage (peer :: peers) log) (getRpcServicePort env prog vers) fun port tester =>
      Ready garbage peers
        (log ++ [(host, 111, recordOf answer RPCBPROG RPCBVERS RPCBPROC_GETPORT (portRequest prog vers))])
        tester ∧ port = portIn body := by
  rw [getRpcServicePort, nfs3ServerHost, if_neg (not_not.mpr known), server]
  apply Stays.before (onBuffer_emits fun _ => portRequest_emits)
  rintro _ rfl
  apply Returns.bind (rpcCallBytes_returns host _ _ _ _ portRequest_short gives responds)
  rintro ⟨found, resp⟩ tester ⟨ready, same⟩
  obtain ⟨rfl, rfl⟩ := Prod.mk.inj same
  by_cases empty : body = []
  · simp only [bodyResponse_null_iff.mpr empty, or_true, if_true]
    exact ⟨0, tester, rfl, ready, by rw [empty]; rfl⟩
  · have some : (bodyResponse body).data ≠ .null := fun null => empty (bodyResponse_null_iff.mp null)
    simp only [response_accepted responds empty, ne_eq, not_true_eq_false, some, or_self, if_false]
    apply Stays.before (onBody_walks empty fun _ => intoWord_walks 0) _ tester ready
    intro word same
    have port := portIn_eq same
    by_cases out : word = 0 ∨ word > 65535
    · rw [if_pos out] at port ⊢
      exact Stays.pure port
    · rw [if_neg out] at port ⊢
      exact Stays.pure port

theorem getRpcServicePort_stops {fault : OutOfBounds} (known : given env.testServer = true)
    (server : env.testServer = some host) (gives : Gives peer answer) (fails : response answer = .error fault) :
    NeverReturns (Ready garbage (peer :: peers) log) (getRpcServicePort env prog vers) := by
  rw [getRpcServicePort, nfs3ServerHost, if_neg (not_not.mpr known), server]
  apply Stays.stops (onBuffer_emits fun _ => portRequest_emits)
  rintro _ rfl
  exact NeverReturns.bind (rpcCallBytes_stops host _ _ _ _ portRequest_short gives fails)

/-- A body with a status and a whole handle is decoded as it is. -/
theorem unpackMountReply_whole (owned : rootFh.Owned) (inside : 4 ≤ body.length)
    (whole : wordAt body 0 = 0 → HoldsOpaque body 4) :
    ∃ stop, ∀ depth, Walks body garbage depth (unpackMountReply rootFh) 0 stop (· = (wordAt body 0,
      if wordAt body 0 = 0 then ⟨.block (opaqueAt body 4), wordAt body 4, wordAt body 4⟩ else rootFh)) := by
  by_cases zero : wordAt body 0 = 0
  · refine ⟨skipOpaque body 4, fun depth => ?_⟩
    apply Walks.bind (intoWord_walks 0)
    intro found same
    rw [if_pos (by omega)] at same
    rw [same, if_pos zero, if_pos zero, skip_enough (by omega)]
    apply Walks.bind (xdrUnpackNfsFh3_slice owned (whole zero))
    rintro _ rfl
    exact .pure rfl
  · refine ⟨skip 4 body 0, fun depth => ?_⟩
    apply Walks.bind (intoWord_walks 0)
    intro found same
    rw [if_pos (by omega)] at same
    rw [same, if_neg zero, if_neg zero]
    exact .pure rfl

/-- A handle that is cut off has a wild pointer, and a missing status counts as zero. -/
theorem unpackMountReply_cut (owned : rootFh.Owned)
    (cut : ¬ (4 ≤ body.length ∧ (wordAt body 0 = 0 → HoldsOpaque body 4))) :
    ∃ stop, ∀ depth, Walks body garbage depth (unpackMountReply rootFh) 0 stop fun got => got.1 = 0 ∧
      ¬ got.2.Owned := by
  have status : (if 0 + 4 ≤ body.length then wordAt body 0 else 0) = 0 := by
    by_cases inside : 0 + 4 ≤ body.length
    · rw [if_pos inside]
      by_contra nonzero
      exact cut ⟨by omega, fun zero => absurd zero nonzero⟩
    · exact if_neg inside
  have handle : ¬ HoldsOpaque body (skip 4 body 0) := by
    intro whole
    by_cases inside : 0 + 4 ≤ body.length
    · rw [skip_enough inside] at whole
      exact cut ⟨by omega, fun _ => whole⟩
    · rw [skip_missing inside] at whole
      exact inside whole.1
  refine ⟨skipOpaque body (skip 4 body 0), fun depth => ?_⟩
  apply Walks.bind (intoWord_walks 0)
  intro found same
  rw [same, status, if_pos rfl]
  apply Walks.bind (xdrUnpackNfsFh3_walks owned)
  rintro fh ⟨len, _, unpacked⟩
  exact .pure ⟨rfl, fun held => held (unpacked.pointer handle)⟩

/-- The call of the daemon, and what is made of its reply. -/
def callDaemon (host exportPath : CString) (port : UInt16) (rootFh : NfsFh3T) : Test (Int32 × NfsFh3T) := do
  let (_, args) ← onBuffer [] (xdrPackCstring exportPath.ptr)
  let (status, resp) ← rpcCallBytes (some host) port MOUNT_PROGRAM MOUNT_V3 MOUNTPROC3_MNT
    (xdrBufData args) args.length
  if status ≠ NFSTEST_RPC_OK ∨ resp.data = .null then
    return (if status = NFSTEST_RPC_OK then NFSTEST_RPC_PROTO_ERR else status, rootFh)
  let (mountStatus, rootFh) ← onBody resp (unpackMountReply rootFh)
  if mountStatus ≠ 0 then
    return (mountStatus.toInt32, rootFh)
  if nfsFh3IsEmpty rootFh then
    return (NFSTEST_RPC_PROTO_ERR, rootFh)
  return (NFSTEST_RPC_OK, rootFh)

theorem callDaemon_returns {port : UInt16} (short : (mountRequest exportPath).length < 2 ^ 31 - 72)
    (owned : rootFh.Owned)
    (gives : Gives peer answer) (responds : response answer = .ok (status, body))
    (whole : body ≠ [] → 4 ≤ body.length ∧ (wordAt body 0 = 0 → HoldsOpaque body 4)) :
    Returns (Ready garbage (peer :: peers) log) (callDaemon host exportPath port rootFh) fun got tester =>
      Ready garbage peers
        (log ++ [(host, port, recordOf answer MOUNT_PROGRAM MOUNT_V3 MOUNTPROC3_MNT (mountRequest exportPath))])
          tester ∧
        got = mountOutcome rootFh status body := by
  apply Stays.before (onBuffer_emits fun _ => mountRequest_emits)
  rintro _ rfl
  apply Returns.bind (rpcCallBytes_returns host _ _ _ _ short gives responds)
  rintro ⟨found, resp⟩ tester ⟨ready, same⟩
  obtain ⟨rfl, rfl⟩ := Prod.mk.inj same
  by_cases empty : body = []
  · simp only [bodyResponse_null_iff.mpr empty, or_true, if_true]
    refine ⟨_, tester, rfl, ready, ?_⟩
    by_cases accepted : found = NFSTEST_RPC_OK
    · rw [mountOutcome, if_pos accepted, if_neg (not_not.mpr accepted), if_pos empty]
    · rw [mountOutcome, if_neg accepted, if_pos accepted]
  · have some : (bodyResponse body).data ≠ .null := fun null => empty (bodyResponse_null_iff.mp null)
    obtain ⟨inside, handle⟩ := whole empty
    obtain ⟨stop, walks⟩ := @unpackMountReply_whole garbage body rootFh owned inside handle
    have accepted := response_accepted responds empty
    simp only [accepted, ne_eq, not_true_eq_false, some, or_self, if_false]
    apply Stays.before (onBody_walks empty walks) _ tester ready
    rintro _ rfl
    rw [mountOutcome, if_neg (not_not.mpr rfl), if_neg empty]
    by_cases zero : wordAt body 0 = 0
    · simp only [zero, not_true_eq_false, if_false, if_true, nfsFh3IsEmpty]
      by_cases none : wordAt body 4 = 0
      · simp only [none, beq_self_eq_true, if_true]
        exact Stays.pure rfl
      · simp only [none, beq_iff_eq, if_false]
        exact Stays.pure rfl
    · simp only [ne_eq, zero, not_false_eq_true, if_true]
      exact Stays.pure rfl

/-- When the reply of the daemon is not what it must be, no run ends with a handle that can be freed. -/
theorem callDaemon_breaks {port : UInt16} (short : (mountRequest exportPath).length < 2 ^ 31 - 72)
    (owned : rootFh.Owned)
    (gives : Gives peer answer) {tester last : Tester} (ready : Ready garbage (peer :: peers) log tester)
    {got : Int32 × NfsFh3T} (runs : callDaemon host exportPath port rootFh tester = .ok got last)
    (held : got.2.Owned) :
    ∃ status body, response answer = .ok (status, body) ∧
      (body ≠ [] → 4 ≤ body.length ∧ (wordAt body 0 = 0 → HoldsOpaque body 4)) := by
  cases responds : response answer with
  | error fault =>
      have stops : NeverReturns (Ready garbage (peer :: peers) log) (callDaemon host exportPath port rootFh) := by
        apply Stays.stops (onBuffer_emits fun _ => mountRequest_emits)
        rintro _ rfl
        exact NeverReturns.bind (rpcCallBytes_stops host _ _ _ _ short gives responds)
      exact absurd runs (stops tester ready got last)
  | ok result =>
      obtain ⟨status, body⟩ := result
      refine ⟨status, body, rfl, fun some => ?_⟩
      by_contra cut
      have wild : Returns (Ready garbage (peer :: peers) log) (callDaemon host exportPath port rootFh) fun got _ =>
          ¬ got.2.Owned := by
        apply Stays.before (onBuffer_emits fun _ => mountRequest_emits)
        rintro _ rfl
        apply Returns.bind (rpcCallBytes_returns host _ _ _ _ short gives responds)
        rintro ⟨found, resp⟩ tester ⟨ready, same⟩
        obtain ⟨rfl, rfl⟩ := Prod.mk.inj same
        have present : (bodyResponse body).data ≠ .null := fun null => some (bodyResponse_null_iff.mp null)
        obtain ⟨stop, walks⟩ := @unpackMountReply_cut garbage body rootFh owned cut
        simp only [response_accepted responds some, ne_eq, not_true_eq_false, present, or_self, if_false]
        apply Stays.before (onBody_walks some walks) _ tester ready
        rintro ⟨mountStatus, fh⟩ ⟨rfl, bad⟩
        simp only [not_true_eq_false, if_false]
        split
        · exact Returns.pure fun _ _ => bad
        · exact Returns.pure fun _ _ => bad
      obtain ⟨_, _, again, bad⟩ := wild tester ready
      rw [runs] at again
      obtain ⟨rfl, _⟩ := EStateM.Result.ok.inj again
      exact bad held

/-- The steps that follow the answer of the portmapper. -/
def afterPort (env : Environment) (host : CString) (rootFh : NfsFh3T) (port : UInt16) : Test (Int32 × NfsFh3T) :=
  match env.testExport with
  | none => Pure.pure (NFSTEST_RPC_CONN_ERR, rootFh)
  | some exportPath =>
      if exportPath.bytes = [] ∨ port = 0 then Pure.pure (NFSTEST_RPC_CONN_ERR, rootFh)
      else callDaemon host exportPath port rootFh

theorem nfs3MountRoot_eq (server : env.testServer = some host) :
    nfs3MountRoot env rootFh = getRpcServicePort env MOUNT_PROGRAM MOUNT_V3 >>= afterPort env host rootFh := by
  rw [nfs3MountRoot, nfs3ServerHost, server]
  rfl

/-- Without a host there is no call at all. -/
theorem nfs3MountRoot_idle (unknown : ¬ given env.testServer = true) :
    nfs3MountRoot env rootFh = Pure.pure (NFSTEST_RPC_CONN_ERR, rootFh) := by
  rw [nfs3MountRoot, getRpcServicePort, nfs3ServerHost, if_pos unknown, pure_bind, nfs3ServerExport]
  cases env.testExport with
  | none => rfl
  | some exportPath => exact if_pos (.inr rfl)

theorem mountOutcome_owned (owned : rootFh.Owned) : (mountOutcome rootFh status body).2.Owned := by
  rw [mountOutcome]
  split
  · exact owned
  split
  · exact owned
  split
  · exact owned
  · exact Ptr.noConfusion

/-- A mount that succeeds has a handle with bytes. -/
theorem mountOutcome_succeeds (whole : body ≠ [] → 4 ≤ body.length ∧ (wordAt body 0 = 0 → HoldsOpaque body 4))
    (succeeds : (mountOutcome rootFh status body).1 = NFSTEST_RPC_OK) :
    (mountOutcome rootFh status body).2.WellFormed ∧ (mountOutcome rootFh status body).2.len ≠ 0 := by
  by_cases accepted : status = NFSTEST_RPC_OK
  · by_cases empty : body = []
    · rw [mountOutcome, if_neg (not_not.mpr accepted), if_pos empty] at succeeds
      cases succeeds
    · by_cases zero : wordAt body 0 = 0
      · rw [mountOutcome, if_neg (not_not.mpr accepted), if_neg empty, if_neg (not_not.mpr zero)] at succeeds ⊢
        have nonzero : wordAt body 4 ≠ 0 := by
          intro none
          rw [if_pos none] at succeeds
          cases succeeds
        have length := opaqueAt_length ((whole empty).2 zero)
        exact ⟨⟨Ptr.noConfusion, fun _ => ⟨_, rfl, Nat.le_of_eq length.symm⟩⟩, nonzero⟩
      · rw [mountOutcome, if_neg (not_not.mpr accepted), if_neg empty, if_pos zero] at succeeds
        have same := congrArg Int32.toUInt32 succeeds
        rw [UInt32.toUInt32_toInt32] at same
        exact absurd same zero
  · rw [mountOutcome, if_pos accepted] at succeeds
    exact absurd succeeds accepted

theorem given_some {text : CString} : given (some text) = true ↔ text.bytes ≠ [] := decide_eq_true_iff

theorem exists_of_given {setting : Option CString} (known : given setting = true) :
    ∃ text, setting = some text ∧ text.bytes ≠ [] := by
  cases setting with
  | none => cases known
  | some text => exact ⟨text, rfl, given_some.mp known⟩

variable {mounting : Mounting} {mapper daemon : Option Socket} {port : UInt16}

theorem Mounting.log_idle (unknown : ¬ given mounting.env.testServer = true) : mounting.log port = [] := by
  rw [Mounting.log]
  cases server : mounting.env.testServer with
  | none => rfl
  | some host =>
      rw [server, given_some, not_not] at unknown
      exact if_pos unknown

theorem Mounting.log_asked (server : mounting.env.testServer = some host) (named : host.bytes ≠ [])
    (without : ¬ (given mounting.env.testExport = true ∧ port ≠ 0)) :
    mounting.log port = [(host, 111,
      recordOf mounting.mapper RPCBPROG RPCBVERS RPCBPROC_GETPORT (portRequest MOUNT_PROGRAM MOUNT_V3))] := by
  rw [Mounting.log, server]
  simp only [if_neg named]
  cases exported : mounting.env.testExport with
  | none => rfl
  | some exportPath =>
      have stops : exportPath.bytes = [] ∨ port = 0 := by
        rw [exported, given_some, not_and_or, not_not, not_not] at without
        exact without
      simp only [if_pos stops]

theorem Mounting.log_called (server : mounting.env.testServer = some host) (named : host.bytes ≠ [])
    (exported : mounting.env.testExport = some exportPath) (path : exportPath.bytes ≠ []) (reached : port ≠ 0) :
    mounting.log port = [(host, 111,
      recordOf mounting.mapper RPCBPROG RPCBVERS RPCBPROC_GETPORT (portRequest MOUNT_PROGRAM MOUNT_V3)),
      (host, port, recordOf mounting.daemon MOUNT_PROGRAM MOUNT_V3 MOUNTPROC3_MNT (mountRequest exportPath))] := by
  rw [Mounting.log, server, exported]
  simp only [if_neg named, path, reached, or_self, if_false]

/-- The daemon is not called without an export, or without a port. -/
theorem afterPort_without (without : ¬ (given env.testExport = true ∧ port ≠ 0)) :
    afterPort env host rootFh port = Pure.pure (NFSTEST_RPC_CONN_ERR, rootFh) := by
  rw [afterPort]
  cases exported : env.testExport with
  | none => rfl
  | some exportPath =>
      have stops : exportPath.bytes = [] ∨ port = 0 := by
        rw [exported, given_some, not_and_or, not_not, not_not] at without
        exact without
      exact if_pos stops

theorem afterPort_called (exported : env.testExport = some exportPath) (path : exportPath.bytes ≠ [])
    (reached : port ≠ 0) : afterPort env host rootFh port = callDaemon host exportPath port rootFh := by
  rw [afterPort, exported]
  exact if_neg fun held => held.elim path reached

theorem Mounting.port_asked (known : given mounting.env.testServer = true) :
    mounting.port = (response mounting.mapper).map fun (_, body) => portIn body := if_pos known

theorem Mounting.outcome_without (asked : mounting.port = .ok port)
    (without : ¬ (given mounting.env.testExport = true ∧ port ≠ 0)) :
    mounting.outcome rootFh = .ok (NFSTEST_RPC_CONN_ERR, rootFh) := by
  rw [Mounting.outcome, asked]
  exact if_neg without

theorem Mounting.outcome_called (asked : mounting.port = .ok port)
    (reached : given mounting.env.testExport = true ∧ port ≠ 0)
    (responds : response mounting.daemon = .ok (status, body)) :
    mounting.outcome rootFh = .ok (mountOutcome rootFh status body) := by
  rw [Mounting.outcome, asked, responds]
  exact if_pos reached

/-- With both answers as they must be, the calls are made and the outcome is what the answers say. -/
theorem mount_returns (owned : rootFh.Owned)
    (short : ∀ path ∈ mounting.env.testExport, (mountRequest path).length < 2 ^ 31 - 72)
    (asked : Gives mapper mounting.mapper) (called : Gives daemon mounting.daemon) (serves : mounting.Serves) :
    ∃ outcome, MountsTo mounting rootFh [mapper, daemon] outcome := by
  obtain ⟨port, named, whole⟩ := serves
  have failed : NFSTEST_RPC_CONN_ERR ≠ NFSTEST_RPC_OK := by decide
  by_cases known : given mounting.env.testServer = true
  · obtain ⟨host, server, text⟩ := exists_of_given known
    cases responds : response mounting.mapper with
    | error fault =>
        rw [mounting.port_asked known, responds] at named
        cases named
    | ok result =>
        obtain ⟨status, body⟩ := result
        have same : portIn body = port := by
          rw [mounting.port_asked known, responds] at named
          exact Except.ok.inj named
        have gets : ∀ {post : Int32 × NfsFh3T → Tester → Prop},
            Returns (Ready (fun _ => True) [daemon] [(host, 111,
              recordOf mounting.mapper RPCBPROG RPCBVERS RPCBPROC_GETPORT (portRequest MOUNT_PROGRAM MOUNT_V3))])
              (afterPort mounting.env host rootFh port) post →
            Returns (Ready (fun _ => True) [mapper, daemon] []) (nfs3MountRoot mounting.env rootFh) post := by
          intro post rest
          rw [nfs3MountRoot_eq server]
          apply Returns.bind (getRpcServicePort_returns known server asked responds)
          rintro got tester ⟨ready, rfl⟩
          rw [same]
          exact rest tester ready
        by_cases reached : given mounting.env.testExport = true ∧ port ≠ 0
        · obtain ⟨exportPath, exported, path⟩ := exists_of_given reached.1
          obtain ⟨status, body, responds, whole⟩ := whole reached.1 reached.2
          refine ⟨mountOutcome rootFh status body, port, named, mounting.outcome_called named reached responds,
            mountOutcome_owned owned, mountOutcome_succeeds whole, fun tester ready => ?_⟩
          have runs := gets (afterPort_called exported path reached.2 ▸
            callDaemon_returns (short exportPath exported) owned called responds whole)
          obtain ⟨_, last, returns, left, rfl⟩ := runs tester ready
          refine ⟨last, returns, ?_⟩
          rw [mounting.log_called server text exported path reached.2]
          exact left
        · refine ⟨(NFSTEST_RPC_CONN_ERR, rootFh), port, named, mounting.outcome_without named reached, owned,
            fun succeeds => absurd succeeds failed, fun tester ready => ?_⟩
          have rest : ∀ log, Stays (fun _ => True) [daemon] log (afterPort mounting.env host rootFh port)
              (· = (NFSTEST_RPC_CONN_ERR, rootFh)) := by
            intro log
            rw [afterPort_without reached]
            exact Stays.pure rfl
          obtain ⟨_, last, returns, left, rfl⟩ := gets (rest _) tester ready
          refine ⟨last, returns, ?_⟩
          rw [mounting.log_asked server text reached]
          exact left
  · have none : port = 0 := by
      rw [Mounting.port, if_neg known] at named
      exact (Except.ok.inj named).symm
    refine ⟨(NFSTEST_RPC_CONN_ERR, rootFh), port, named,
      mounting.outcome_without named fun held => held.2 none, owned, fun succeeds => absurd succeeds failed,
      fun tester ready => ⟨tester, ?_, ?_⟩⟩
    · rw [nfs3MountRoot_idle known]
      rfl
    · rw [mounting.log_idle known]
      exact ready

/-- A run that ends with a handle that can be freed shows that both answers were as they must be. -/
theorem serves_of_mount (owned : rootFh.Owned)
    (short : ∀ path ∈ mounting.env.testExport, (mountRequest path).length < 2 ^ 31 - 72)
    (asked : Gives mapper mounting.mapper) (called : Gives daemon mounting.daemon) {tester last : Tester}
    (ready : Ready garbage [mapper, daemon] [] tester) {outcome : Int32 × NfsFh3T}
    (runs : nfs3MountRoot mounting.env rootFh tester = .ok outcome last) (held : outcome.2.Owned) :
    mounting.Serves := by
  by_cases known : given mounting.env.testServer = true
  · obtain ⟨host, server, text⟩ := exists_of_given known
    rw [nfs3MountRoot_eq server] at runs
    cases responds : response mounting.mapper with
    | error fault =>
        have stops := @getRpcServicePort_stops garbage mapper [daemon] mounting.mapper [] mounting.env host
          MOUNT_PROGRAM MOUNT_V3 fault known server asked responds
        exact absurd runs (NeverReturns.bind stops tester ready outcome last)
    | ok result =>
        obtain ⟨status, body⟩ := result
        have named : mounting.port = .ok (portIn body) := by
          rw [mounting.port_asked known, responds]
          rfl
        refine ⟨portIn body, named, fun path reached => ?_⟩
        obtain ⟨exportPath, exported, path⟩ := exists_of_given path
        obtain ⟨_, between, gets, ready, rfl⟩ := getRpcServicePort_returns known server asked responds tester ready
        rw [bind_of_ok gets, afterPort_called exported path reached] at runs
        exact callDaemon_breaks (short exportPath exported) owned called ready runs held
  · refine ⟨0, if_neg known, fun _ reached => absurd rfl reached⟩

/-- `nfs3_mount_root` makes of the two answers what they say exactly when the replies can be parsed and a body of the
daemon has its status and, when this is zero, a whole handle. -/
theorem mount_root_settles (mounting : Mounting) (rootFh : NfsFh3T) (mapper daemon : Option Socket)
    (owned : rootFh.Owned) (short : ∀ path ∈ mounting.env.testExport, (mountRequest path).length < 2 ^ 31 - 72)
    (asked : Gives mapper mounting.mapper) (called : Gives daemon mounting.daemon) :
    (mounting.Serves → ∃ outcome, MountsTo mounting rootFh [mapper, daemon] outcome) ∧
    ∀ tester outcome last, Ready (fun _ => True) [mapper, daemon] [] tester →
      nfs3MountRoot mounting.env rootFh tester = .ok outcome last → outcome.2.Owned → mounting.Serves :=
  ⟨mount_returns owned short asked called, fun _ _ _ ready runs held =>
    serves_of_mount owned short asked called ready runs held⟩

/-- The portmapper gives port 2050, and the daemon gives a handle of four bytes. -/
def mountedRoot : Mounting where
  env := { testServer := some ⟨[104], by decide⟩, testExport := some ⟨[47, 101], by decide⟩ }
  mapper := some [Peer.successReply 1 [0, 0, 8, 2]]
  daemon := some [Peer.successReply 1 [0, 0, 0, 0, 0, 0, 0, 4, 1, 2, 3, 4]]

def mapperPeer : Socket where
  incoming := ([Peer.successReply 1 [0, 0, 8, 2]].map Peer.recordWire).flatten
  writes := [.moved 1]
  reads := List.replicate 6 (.moved 1)

def daemonPeer : Socket where
  incoming := ([Peer.successReply 1 [0, 0, 0, 0, 0, 0, 0, 4, 1, 2, 3, 4]].map Peer.recordWire).flatten
  writes := [.interrupted, .moved 1]

theorem mount_root_settles_root :
    (mountedRoot.Serves → ∃ outcome, MountsTo mountedRoot {} [some mapperPeer, some daemonPeer] outcome) ∧
    ∀ tester outcome last, Ready (fun _ => True) [some mapperPeer, some daemonPeer] [] tester →
      nfs3MountRoot mountedRoot.env {} tester = .ok outcome last → outcome.2.Owned → mountedRoot.Serves := by
  apply mount_root_settles
  · exact Ptr.noConfusion
  · intro path exported
    obtain rfl := Option.some.inj exported
    decide
  · refine .linked ⟨rfl, rfl, ?_, fun _ => ?_, by decide⟩
    · unfold WritesThrough
      decide
    · unfold ReadsThrough WritesThrough
      decide
  · refine .linked ⟨rfl, rfl, ?_, fun _ => ?_, by decide⟩
    · unfold WritesThrough
      decide
    · unfold ReadsThrough WritesThrough
      decide

end Nfs3Rpc.Csuite.Server
