import Nfs3Rpc.Construction.Csuite.Lockd
import Nfs3Rpc.Proof.Csuite.Walk

namespace Nfs3Rpc.Csuite
open Encoding

variable {b : Bytes} {garbage : UInt32 → Prop} {depth pos : Nat}

/-- The result of the decoder says whether the opaque was whole; its pointer may be freed. -/
theorem xdrUnpackOpaque_reports {data : Ptr} (owned : data.Owned) (len : UInt32) :
    Walks b garbage depth (xdrUnpackOpaque data len) pos (skipOpaque b pos)
      fun value => value.1 = decide (HoldsOpaque b pos) ∧ value.2.1.Owned := by
  apply lengthData_walks
  · intro missing
    exact .pure ⟨(decide_eq_false fun whole => missing whole.1).symm, owned⟩
  · intro _ cut
    exact .pure ⟨(decide_eq_false cut).symm, owned⟩
  · intro whole bytes _
    apply Walks.bind (skipPadding_walks _)
    intro _ _
    exact .pure ⟨(decide_eq_true whole).symm, by simp [Ptr.Owned]⟩

/-- A program that starts from a copy finds the cursor at the start of that copy. -/
theorem initCopy_returns {α : Type} {program : Run α} {resp : Bytes} {value : α} (machine : Machine)
    (returns : Returns (Stands resp (fun _ => True) machine.depth 0) program fun got _ => got = value) :
    ∃ last, (xdrBufInitCopy resp >>= fun _ => program) machine = .ok value last := by
  obtain ⟨got, last, runs, rfl⟩ := returns { machine with buf := ⟨resp, 0⟩ } ⟨rfl, fun _ => trivial, rfl⟩
  exact ⟨last, runs⟩

/-- The buffer is destroyed before the function returns. -/
theorem destroy_returns {α : Type} {value : α} {pre : Machine → Prop} :
    Returns pre (xdrBufDestroy >>= fun _ => pure value) fun got _ => got = value :=
  fun _ _ => ⟨value, _, rfl, rfl⟩

/-- What a program does behind a walk may depend on what the walk returned. -/
theorem Walks.returns {α β : Type} {program : Run α} {next : α → Run β} {start middle : Nat}
    {between : α → Prop}
    {post : β → Machine → Prop} (first : Walks b garbage depth program start middle between)
    (second : ∀ value, between value → Returns (Stands b garbage depth middle) (next value) post) :
    Returns (Stands b garbage depth start) (program >>= next) post :=
  Returns.bind first fun value state stands => second value stands.2 state stands.1

theorem lockd_status (resp : Bytes) (machine : Machine) : ∃ last, Lockd.unpackNlm4Status resp machine =
    .ok (if skipOpaque resp 0 + 4 ≤ resp.length then statusWord resp else 0).toInt32 last := by
  apply initCopy_returns machine
  apply Walks.returns (xdrUnpackOpaque_reports (by simp [Ptr.Owned]) 0)
  intro cookie reported
  apply Walks.returns (free_walks reported.2)
  intro _ _
  apply Walks.returns (intoWord_walks 0)
  intro status same
  rw [same]
  exact destroy_returns

theorem lockdUnavail_status (resp : Bytes) (nlmStatus : UInt32) (machine : Machine) :
    ∃ last, LockdUnavail.unpackNlm4Status resp nlmStatus machine =
      .ok (if HoldsStatus resp then (true, statusWord resp) else (false, nlmStatus)) last := by
  apply initCopy_returns machine
  apply Walks.returns (xdrUnpackOpaque_reports (by simp [Ptr.Owned]) 0)
  rintro ⟨whole, cookie⟩ ⟨reported, owned⟩
  obtain rfl : whole = decide (HoldsOpaque resp 0) := reported
  by_cases held : HoldsOpaque resp 0
  · simp only [decide_eq_true held, if_true]
    apply Walks.returns xdrUnpackUint32_walks
    intro found same
    apply Walks.returns (free_walks owned)
    intro _ _
    have result : (if HoldsStatus resp then (true, statusWord resp) else (false, nlmStatus)) =
        (found.isSome, found.getD nlmStatus) := by
      rw [same]
      by_cases inside : skipOpaque resp 0 + 4 ≤ resp.length
      · rw [if_pos ⟨held, inside⟩, if_pos inside]
        rfl
      · rw [if_neg fun whole => inside whole.2, if_neg inside]
        rfl
    rw [result]
    exact destroy_returns
  · simp only [decide_eq_false held, if_neg fun whole : HoldsStatus resp => held whole.1]
    apply Walks.returns (free_walks owned)
    intro _ _
    exact destroy_returns

/-- The test that checks nothing agrees with the test that checks both results exactly on whole replies. -/
theorem lockd_status_checked_iff (resp : Bytes) (nlmStatus : UInt32) (machine : Machine) :
    (∀ status : UInt32, (∃ last, Lockd.unpackNlm4Status resp machine = .ok status.toInt32 last) ↔
      ∃ last, LockdUnavail.unpackNlm4Status resp nlmStatus machine = .ok (true, status) last) ↔
    HoldsStatus resp := by
  obtain ⟨_, unchecked⟩ := lockd_status resp machine
  obtain ⟨_, checked⟩ := lockdUnavail_status resp nlmStatus machine
  rw [unchecked, checked]
  by_cases whole : HoldsStatus resp
  · rw [if_pos whole, if_pos whole.2]
    refine ⟨fun _ => whole, fun _ status => ?_⟩
    constructor
    · rintro ⟨_, same⟩
      have equal := congrArg Int32.toUInt32 (EStateM.Result.ok.inj same).1
      rw [UInt32.toUInt32_toInt32, UInt32.toUInt32_toInt32] at equal
      exact ⟨_, by rw [equal]⟩
    · rintro ⟨_, same⟩
      have equal := (Prod.mk.inj (EStateM.Result.ok.inj same).1).2
      exact ⟨_, by rw [equal]⟩
  · rw [if_neg whole]
    refine ⟨fun agrees => ?_, fun held => absurd held whole⟩
    obtain ⟨_, succeeds⟩ := (agrees _).mp ⟨_, rfl⟩
    have refused := (Prod.mk.inj (EStateM.Result.ok.inj succeeds).1).1
    exact absurd refused (by decide)

/-- A cookie that is cut off after its length word is taken for a lock that the server granted. -/
theorem lockd_grants_cut_reply :
    (∃ last, Lockd.unpackNlm4Status [0, 0, 0, 4] ⟨⟨[], 0⟩, fun _ => 0, 0⟩ = .ok NLM4_GRANTED last) ∧
    ∀ status last,
      LockdUnavail.unpackNlm4Status [0, 0, 0, 4] 0 ⟨⟨[], 0⟩, fun _ => 0, 0⟩ ≠ .ok (true, status) last := by
  refine ⟨⟨_, rfl⟩, ?_⟩
  intro status last succeeds
  have refused : LockdUnavail.unpackNlm4Status [0, 0, 0, 4] 0 ⟨⟨[], 0⟩, fun _ => 0, 0⟩ =
      .ok (false, 0) ⟨⟨[], 0⟩, fun _ => 0, 0⟩ := rfl
  rw [refused] at succeeds
  cases succeeds

end Nfs3Rpc.Csuite
