import Nfs3Rpc.Proof.Csuite.Helpers

namespace Nfs3Rpc.Csuite.Server
open Encoding SimpleRpc

variable {garbage : UInt32 → Prop} {peer : Option Socket} {peers : List (Option Socket)} {answer : Answer}
variable {log : List (CString × UInt16 × Option Bytes)} {body : Bytes} {env : Environment} {host : CString}
variable {helper : Helper} {status : Int32}

/-- A helper makes of an answer what its outcome says. -/
theorem Errand.finish_exchanged (errand : Errand helper) (responds : response answer = .ok (status, body))
    {decoded : Nfsstat3 × errand.β}
    (same : body ≠ [] →
      decoded = (⟨wordAt body 0⟩, if wordAt body 0 = 0 then errand.found body else errand.unanswered)) :
    errand.finish (exchanged status body errand.unanswered decoded) = helper.outcome status body := by
  by_cases empty : body = []
  · have silent := errand.silent status
    have unanswered : exchanged status body errand.unanswered decoded =
      ⟨status, false, Nfsstat3.NFS3ERR_IO, errand.unanswered⟩ := by
      simp [exchanged, decodedOr, empty]
    rw [unanswered, silent, Helper.outcome, if_pos empty]
    split <;> rfl
  · have accepted := response_accepted responds empty
    have found : exchanged status body errand.unanswered decoded = ⟨status, true, decoded.1, decoded.2⟩ := by
      simp [exchanged, decodedOr, empty]
    rw [found, same empty, accepted, errand.answers, Helper.outcome, if_neg (not_not.mpr rfl), if_neg empty]

/-- A helper that is served takes its connection, makes its call, and returns its outcome, whatever the stack holds. -/
theorem Errand.returns (errand : Errand helper) (legal : helper.Legal) (configured : nfs3ServerIsConfigured env = true)
    (server : nfs3ServerHost env = some host) (gives : Gives peer answer)
    (responds : response answer = .ok (status, body)) (whole : body ≠ [] → helper.Whole body) :
    Returns (Ready garbage (peer :: peers) log) (helper.run env) fun got tester =>
      Ready garbage peers (log ++ [Turn.entry env host ⟨helper, answer⟩]) tester ∧
        got = helper.outcome status body := by
  rw [errand.runs]
  have decodes : body ≠ [] → ∃ stop, ∀ depth, Walks body garbage depth errand.decode 0 stop
      (· = (⟨wordAt body 0⟩, if wordAt body 0 = 0 then errand.found body else errand.unanswered)) := by
    intro some
    obtain ⟨inside, rest⟩ := (errand.whole body).mp (whole some)
    by_cases zero : wordAt body 0 = 0
    · rw [if_pos zero, zero]
      exact errand.decoder.accepted inside zero (rest zero)
    · rw [if_neg zero]
      exact errand.decoder.failed ⟨fun _ => rfl, fun missing => absurd inside missing⟩ zero
  apply Returns.bind (exchange_returns configured server errand.packs (fun _ => errand.frees) legal.short gives responds
    decodes)
  intro done tester held
  obtain ⟨ready, decoded, same, rfl⟩ := held
  exact ⟨_, tester, rfl, ready, errand.finish_exchanged responds same⟩

/-- With every local at one word, a body without a status gives a verdict with this word. -/
theorem Errand.cut_status (errand : Errand helper) (legal : helper.Legal)
    (configured : nfs3ServerIsConfigured env = true)
    (server : nfs3ServerHost env = some host) (gives : Gives peer answer)
    (responds : response answer = .ok (status, body)) (some : body ≠ [])
    (missing : ¬ 4 ≤ body.length) {word : UInt32}
    (nonzero : word ≠ 0) :
    Returns (Ready (· = word) (peer :: peers) log) (helper.run env) fun got _ =>
      got = errand.finish ⟨NFSTEST_RPC_OK, true, ⟨word⟩, errand.unanswered⟩ := by
  rw [errand.runs]
  have known : Known (· = word) body word := ⟨fun inside => absurd inside missing, fun _ _ same => same.symm⟩
  apply Returns.bind (exchange_returns configured server errand.packs (fun _ => errand.frees) legal.short gives responds
    fun _ => errand.decoder.failed known nonzero)
  intro done tester held
  obtain ⟨_, decoded, same, rfl⟩ := held
  refine ⟨_, tester, rfl, ?_⟩
  rw [same some, response_accepted responds some]
  simp [exchanged, decodedOr, some]

theorem returned_eq {α : Type} {pre : Tester → Prop} {program : Test α} {value found : α} {tester last : Tester}
    (returns : Returns pre program fun got _ => got = value) (held : pre tester)
    (runs : program tester = .ok found last) :
    found = value := by
  obtain ⟨got, next, runs', same⟩ := returns tester held
  rw [runs] at runs'
  obtain ⟨rfl, _⟩ := EStateM.Result.ok.inj runs'
  exact same

/-- A helper that is not served has no outcome of its own: it depends on the stack, or it holds a wild pointer, or
the helper does not return. -/
theorem Errand.breaks (errand : Errand helper) (legal : helper.Legal) (configured : nfs3ServerIsConfigured env = true)
    (server : nfs3ServerHost env = some host) (gives : Gives peer answer) {outcome : Outcome} (owned : outcome.Owned)
    {first second last last' : Tester} (ones : Ready (· = 1) (peer :: peers) log first)
    (twos : Ready (· = 2) (peer :: peers) log second) (runs : helper.run env first = .ok outcome last)
    (runs' : helper.run env second = .ok outcome last') : helper.Serves answer := by
  have stops :
    ¬ ((∃ fault, response answer = .error fault) ∨ ∃ status body, response answer = .ok (status, body) ∧
      body ≠ [] ∧ ∀ depth, Hangs body (· = 1) depth errand.decode 0) := by
    intro fails
    rw [errand.runs] at runs
    exact NeverReturns.bind (exchange_stops configured server errand.packs legal.short gives fails) first ones _ _ runs
  cases responds : response answer with
  | error fault => exact absurd (.inl ⟨fault, responds⟩) stops
  | ok result =>
      obtain ⟨status, body⟩ := result
      refine ⟨status, body, responds, fun some => (errand.whole body).mpr ?_⟩
      have inside : 4 ≤ body.length := by
        by_contra missing
        have one := returned_eq (errand.cut_status legal configured server gives responds some missing (by decide)) ones
          runs
        have two :=
          returned_eq (errand.cut_status legal configured server gives responds some missing (by decide)) twos runs'
        exact errand.differ (congrArg Outcome.verdict (one.symm.trans two))
      refine ⟨inside, fun zero => ?_⟩
      by_contra missing
      rcases errand.decoder.cut inside zero missing with hangs | ⟨stop, wild⟩
      · exact stops (.inr ⟨status, body, responds, some, hangs⟩)
      · obtain ⟨done, tester, exchanges, _, decoded, held, rfl⟩ :=
          exchange_returns configured server errand.packs (fun _ => errand.frees) legal.short gives responds
            (fun _ => ⟨stop, wild⟩) first ones
        rw [errand.runs, bind_of_ok exchanges] at runs
        obtain ⟨rfl, _⟩ := EStateM.Result.ok.inj runs
        obtain ⟨accepted, bad⟩ := held some
        have found : exchanged status body errand.unanswered decoded =
          ⟨NFSTEST_RPC_OK, true, .NFS3_OK, decoded.2⟩ := by
          rw [← accepted, ← response_accepted responds some]
          simp [exchanged, decodedOr, some]
        rw [found] at owned
        exact errand.wild _ bad owned

theorem Outcome.owned_of_handle {verdict : Int32} {outFh : Option NfsFh3T} (owned : ∀ fh ∈ outFh, fh.Owned) :
    Outcome.Owned { verdict, outFh } := by
  constructor
  · exact owned
  · intro data nothing
    cases nothing

theorem Outcome.owned_of_places {verdict : Int32} {places : ReadPlaces} (owned : ∀ data ∈ places.data, data.Owned) :
    Outcome.Owned { verdict, places } := by
  constructor
  · intro fh nothing
    cases nothing
  · exact owned

theorem Outcome.owned_of_verdict {verdict : Int32} : Outcome.Owned { verdict } := by
  apply Outcome.owned_of_handle
  intro fh nothing
  cases nothing

/-- A handle of the caller is replaced by a copy of the one in the body. -/
theorem copied_owned {outFh : Option NfsFh3T} (owned : ∀ fh ∈ outFh, fh.Owned) (data : Bytes) :
    ∀ fh ∈ (if wordAt body 0 = 0 then outFh.map fun _ => handleOf data else outFh), fh.Owned := by
  split
  · intro fh copied
    obtain ⟨_, _, rfl⟩ := Option.map_eq_some_iff.mp copied
    exact handleOf_owned data
  · exact owned

theorem cleared_owned {places : ReadPlaces} : ∀ data ∈ (cleared places).data, data.Owned := by
  intro data held
  obtain ⟨_, _, rfl⟩ := Option.map_eq_some_iff.mp held
  exact Ptr.noConfusion

theorem filled_owned {places : ReadPlaces} : ∀ data ∈ (filled body places).data, data.Owned := by
  intro data held
  obtain ⟨_, _, rfl⟩ := Option.map_eq_some_iff.mp held
  exact Ptr.noConfusion

theorem Helper.unanswered_owned (legal : helper.Legal) (verdict : Int32) : (helper.unanswered verdict).Owned := by
  cases helper with
  | createTestFile => exact Outcome.owned_of_handle legal.owned
  | createTestDir => exact Outcome.owned_of_handle legal.owned
  | lookupName => exact Outcome.owned_of_handle legal.owned
  | readData => exact Outcome.owned_of_places cleared_owned
  | _ => exact Outcome.owned_of_verdict

theorem Helper.found_owned (legal : helper.Legal) (body : Bytes) : (helper.found body).Owned := by
  cases helper with
  | createTestFile => exact Outcome.owned_of_handle (copied_owned legal.owned _)
  | createTestDir => exact Outcome.owned_of_handle (copied_owned legal.owned _)
  | lookupName => exact Outcome.owned_of_handle (copied_owned legal.owned _)
  | readData =>
      rw [Helper.found]
      by_cases zero : wordAt body 0 = 0
      · rw [if_pos zero]
        exact Outcome.owned_of_places filled_owned
      · rw [if_neg zero]
        exact Outcome.owned_of_places cleared_owned
  | _ => exact Outcome.owned_of_verdict

/-- The outcome of a helper holds no wild pointer. -/
theorem Helper.outcome_owned (legal : helper.Legal) (status : Int32) (body : Bytes) :
    (helper.outcome status body).Owned := by
  rw [outcome]
  split
  · exact unanswered_owned legal status
  · split
    · exact unanswered_owned legal helper.silence
    · exact found_owned legal body

variable {turn : Turn} {turns : List Turn}

/-- A turn that is served goes through on every stack. -/
theorem Turn.returns (legal : turn.helper.Legal) (configured : nfs3ServerIsConfigured env = true)
    (server : nfs3ServerHost env = some host) (gives : Gives peer turn.answer)
    (serves : turn.helper.Serves turn.answer) :
    ∃ outcome, turn.outcome = .ok outcome ∧ outcome.Owned ∧ ∀ garbage peers log,
      Returns (Ready garbage (peer :: peers) log) (turn.helper.run env) fun got tester =>
        Ready garbage peers (log ++ [turn.entry env host]) tester ∧ got = outcome := by
  obtain ⟨status, body, responds, whole⟩ := serves
  refine ⟨turn.helper.outcome status body, ?_, Helper.outcome_owned legal status body, fun garbage peers log => ?_⟩
  · rw [Turn.outcome, responds]
  · exact (turn.helper.errand legal).returns legal configured server gives responds whole

/-- By induction on the turns: each of them takes one connection and adds its own call to the log. -/
theorem turns_return (configured : nfs3ServerIsConfigured env = true) (server : nfs3ServerHost env = some host)
    (legal : ∀ turn ∈ turns, turn.helper.Legal) (serves : ∀ turn ∈ turns, turn.helper.Serves turn.answer)
    (gives : List.Forall₂ Gives peers (turns.map Turn.answer)) :
    ∃ outcomes, List.Forall₂ (fun turn outcome => turn.outcome = .ok outcome) turns outcomes ∧
      (∀ outcome ∈ outcomes, outcome.Owned) ∧ ∀ garbage log,
        Returns (Ready garbage peers log) (inOrder (fun turn : Turn => turn.helper.run env) turns) fun got tester =>
          Ready garbage [] (log ++ turns.map (Turn.entry env host)) tester ∧ got = outcomes := by
  induction turns generalizing peers with
  | nil =>
      cases gives
      refine ⟨[], .nil, fun _ nothing => absurd nothing List.not_mem_nil, fun garbage log => Returns.pure ?_⟩
      intro tester ready
      rw [List.map_nil, List.append_nil]
      exact ⟨ready, rfl⟩
  | cons turn turns later =>
      obtain ⟨legal, restLegal⟩ := List.forall_mem_cons.mp legal
      obtain ⟨serves, restServes⟩ := List.forall_mem_cons.mp serves
      rw [List.map_cons] at gives
      cases gives with
      | cons first rest =>
          obtain ⟨outcome, ends, owned, runs⟩ := turn.returns legal configured server first serves
          obtain ⟨outcomes, allEnd, allOwned, restRun⟩ := later restLegal restServes rest
          refine ⟨outcome :: outcomes, .cons ends allEnd, List.forall_mem_cons.mpr ⟨owned, allOwned⟩, ?_⟩
          intro garbage log
          apply Returns.bind (runs garbage _ log)
          rintro got tester ⟨ready, rfl⟩
          apply Returns.bind (restRun garbage _) _ tester ready
          rintro gots tester ⟨ready, rfl⟩
          refine ⟨_, tester, rfl, ?_, rfl⟩
          rwa [List.append_assoc] at ready

/-- By induction on the turns: two stacks that never agree end a run with the same outcomes only if each turn is
served. -/
theorem serves_of_runs (configured : nfs3ServerIsConfigured env = true) (server : nfs3ServerHost env = some host)
    (legal : ∀ turn ∈ turns, turn.helper.Legal) (gives : List.Forall₂ Gives peers (turns.map Turn.answer))
    {outcomes : List Outcome} (owned : ∀ outcome ∈ outcomes, outcome.Owned) {first second last last' : Tester}
    (ones : Ready (· = 1) peers log first) (twos : Ready (· = 2) peers log second)
    (runs : inOrder (fun turn : Turn => turn.helper.run env) turns first = .ok outcomes last)
    (runs' : inOrder (fun turn : Turn => turn.helper.run env) turns second = .ok outcomes last') :
    ∀ turn ∈ turns, turn.helper.Serves turn.answer := by
  induction turns generalizing peers log outcomes first second with
  | nil => exact fun _ nothing => absurd nothing List.not_mem_nil
  | cons turn turns later =>
      obtain ⟨legal, restLegal⟩ := List.forall_mem_cons.mp legal
      obtain ⟨outcome, rest, next, rfl, starts, continues⟩ := inOrder_cons_ok runs
      obtain ⟨_, _, next', same, starts', continues'⟩ := inOrder_cons_ok runs'
      obtain ⟨rfl, rfl⟩ := List.cons.inj same
      obtain ⟨firstOwned, restOwned⟩ := List.forall_mem_cons.mp owned
      rw [List.map_cons] at gives
      cases gives with
      | cons gives rest =>
          have serves :=
            (turn.helper.errand legal).breaks legal configured server gives firstOwned ones twos starts starts'
          obtain ⟨_, _, _, returns⟩ := turn.returns legal configured server gives serves
          obtain ⟨_, _, again, ready, _⟩ := returns _ _ log first ones
          obtain ⟨_, _, again', ready', _⟩ := returns _ _ log second twos
          rw [starts] at again
          rw [starts'] at again'
          obtain ⟨_, rfl⟩ := EStateM.Result.ok.inj again
          obtain ⟨_, rfl⟩ := EStateM.Result.ok.inj again'
          exact List.forall_mem_cons.mpr ⟨serves, later restLegal rest restOwned ready ready' continues continues'⟩

/-- The helpers of the server tests have outcomes of their own, free of the stack and of wild pointers, exactly when
each reply can be parsed and each body holds what its helper takes. -/
theorem helpers_settle (env : Environment) (host : CString) (turns : List Turn) (peers : List (Option Socket))
    (configured : nfs3ServerIsConfigured env = true) (server : nfs3ServerHost env = some host)
    (legal : ∀ turn ∈ turns, turn.helper.Legal) (gives : List.Forall₂ Gives peers (turns.map Turn.answer)) :
    ((∀ turn ∈ turns, turn.helper.Serves turn.answer) →
      ∃ outcomes, List.Forall₂ (fun turn outcome => turn.outcome = .ok outcome) turns outcomes ∧
        (∀ outcome ∈ outcomes, outcome.Owned) ∧ Settles env host turns peers outcomes) ∧
    ∀ outcomes, (∀ outcome ∈ outcomes, outcome.Owned) → Settles env host turns peers outcomes →
      ∀ turn ∈ turns, turn.helper.Serves turn.answer := by
  constructor
  · intro serves
    obtain ⟨outcomes, ends, owned, runs⟩ := turns_return configured server legal serves gives
    refine ⟨outcomes, ends, owned, fun tester ready => ?_⟩
    obtain ⟨_, last, returns, left, rfl⟩ := runs _ _ tester ready
    exact ⟨last, returns, left⟩
  · intro outcomes owned settles
    have stack : ∀ word, ∃ last, inOrder (fun turn : Turn => turn.helper.run env) turns
        ⟨fun _ _ => word, 0, peers, []⟩ = .ok outcomes last := by
      intro word
      obtain ⟨last, runs, _⟩ := settles ⟨fun _ _ => word, 0, peers, []⟩ ⟨fun _ _ => trivial, rfl, rfl⟩
      exact ⟨last, runs⟩
    obtain ⟨last, runs⟩ := stack 1
    obtain ⟨last', runs'⟩ := stack 2
    have ones : Ready (· = 1) peers [] ⟨fun _ _ => 1, 0, peers, []⟩ := ⟨fun _ _ => rfl, rfl, rfl⟩
    have twos : Ready (· = 2) peers [] ⟨fun _ _ => 2, 0, peers, []⟩ := ⟨fun _ _ => rfl, rfl, rfl⟩
    exact serves_of_runs configured server legal gives owned ones twos runs runs'

/-- A name is looked up, and its removal is refused. -/
def lookedUp : Turn where
  helper := .lookupName {} (.block [97, 0]) (some {})
  answer := some [Peer.successReply 1 [0, 0, 0, 0, 0, 0, 0, 4, 1, 2, 3, 4]]

def notRemoved : Turn where
  helper := .removeTestFile {} (.block [97, 0])
  answer := none

def lookupPeer : Socket where
  incoming := ([Peer.successReply 1 [0, 0, 0, 0, 0, 0, 0, 4, 1, 2, 3, 4]].map Peer.recordWire).flatten
  writes := [.moved 1]
  reads := List.replicate 6 (.moved 1)

def testEnvironment : Environment where
  testServer := some ⟨[115], by decide⟩
  testExport := some ⟨[47, 97], by decide⟩

theorem helpers_settle_lookup :
    ((∀ turn ∈ [lookedUp, notRemoved], turn.helper.Serves turn.answer) →
      ∃ outcomes, List.Forall₂ (fun turn outcome => turn.outcome = .ok outcome) [lookedUp, notRemoved] outcomes ∧
        (∀ outcome ∈ outcomes, outcome.Owned) ∧
        Settles testEnvironment ⟨[115], by decide⟩ [lookedUp, notRemoved] [some lookupPeer, none] outcomes) ∧
    ∀ outcomes, (∀ outcome ∈ outcomes, outcome.Owned) →
      Settles testEnvironment ⟨[115], by decide⟩ [lookedUp, notRemoved] [some lookupPeer, none] outcomes →
      ∀ turn ∈ [lookedUp, notRemoved], turn.helper.Serves turn.answer := by
  have dir : NfsFh3T.WellFormed {} := ⟨Ptr.noConfusion, fun some => absurd rfl some⟩
  have name : Ptr.IsString (.block [97, 0]) := .inr ⟨[97, 0], rfl, by decide⟩
  apply helpers_settle
  · decide
  · rfl
  · simp only [List.forall_mem_cons]
    refine ⟨⟨⟨dir, name⟩, ?_, by decide⟩, ⟨⟨dir, name⟩, ?_, by decide⟩, List.forall_mem_nil _⟩
    · intro fh held
      obtain rfl := Option.some.inj held
      exact Ptr.noConfusion
    · intro fh held
      cases held
  · refine .cons (.linked ⟨rfl, rfl, ?_, fun _ => ?_, by decide⟩) (.cons .refused .nil)
    · unfold WritesThrough
      decide
    · unfold ReadsThrough WritesThrough
      decide

end Nfs3Rpc.Csuite.Server
