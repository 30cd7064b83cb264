import Nfs3Rpc.Proof.SimpleRpc.ParseReply

namespace Nfs3Rpc.SimpleRpc
open Encoding

/-- The parser compares the length with the message and skips it to the next whole word. -/
structure SkipsLength (data : Bytes) (length : UInt32) : Prop where
  inside : length.toNat ≤ data.length
  rounded : (roundedLength length).toNat = (length.toNat + 3) / 4 * 4

/-- This is the place of the accept status. -/
def acceptOffset (data : Bytes) : Nat := 20 + (roundedLength (wordAt data 16)).toNat

/-- The words of the message pass every check of the parser. -/
structure Succeeds (data : Bytes) (xid : UInt32) : Prop where
  sameXid : wordAt data 0 = xid
  isReply : wordAt data 4 = MSG_REPLY
  accepted : wordAt data 8 = 0
  whole : acceptOffset data + 4 ≤ data.length
  success : wordAt data (acceptOffset data) = 0
  skipped : wordAt data 12 = AUTH_SYS →
    acceptOffset data + 8 + (roundedLength (wordAt data (acceptOffset data + 4))).toNat ≤ data.length

/-- The parser skips the verifier, and after an AUTH_SYS flavor a second length. -/
structure SkipsLengths (data : Bytes) : Prop where
  verifier : SkipsLength data (wordAt data 16)
  second : wordAt data 12 = AUTH_SYS → SkipsLength data (wordAt data (acceptOffset data + 4))

/-- No length that the parser reads lies so high that adding three wraps it. -/
structure LowLengths (data : Bytes) : Prop where
  verifier : (wordAt data 16).toNat ≤ 2 ^ 32 - 4
  second : wordAt data 12 = AUTH_SYS → (wordAt data (acceptOffset data + 4)).toNat ≤ 2 ^ 32 - 4

theorem roundedLength_toNat (length : UInt32) :
    (roundedLength length).toNat = (length.toNat + 3) % 2 ^ 32 / 4 * 4 := by
  have three : (3 : UInt32).toNat = 3 := rfl
  have four : (4 : UInt32).toNat = 4 := rfl
  rw [roundedLength, UInt32.toNat_mul, UInt32.toNat_div, UInt32.toNat_add, three, four]
  omega

/-- Only the three highest lengths are rounded to zero. -/
theorem roundedLength_eq_iff (length : UInt32) :
    (roundedLength length).toNat = (length.toNat + 3) / 4 * 4 ↔ length.toNat ≤ 2 ^ 32 - 4 := by
  have bounded : length.toNat < 2 ^ 32 := length.toNat_lt
  rw [roundedLength_toNat]
  omega

theorem skipsLength_iff {data : Bytes} {length : UInt32} (fits : (roundedLength length).toNat ≤ data.length) :
    SkipsLength data length ↔ length.toNat ≤ 2 ^ 32 - 4 := by
  constructor
  · intro skips
    exact (roundedLength_eq_iff length).mp skips.rounded
  · intro low
    have rounded := (roundedLength_eq_iff length).mpr low
    exact ⟨by omega, rounded⟩

/-- The parse returns OK. -/
def ReturnsOk (parse : Except OutOfBounds (RpcStatus × Bytes)) : Prop := ∃ body, parse = .ok (.OK, body)

theorem not_returnsOk {status : RpcStatus} {body : Bytes} (failed : status ≠ .OK) :
    ¬ ReturnsOk (.ok (status, body)) := by
  intro ⟨_, returned⟩
  exact failed (Prod.mk.inj (Except.ok.inj returned)).1

theorem parseBody_returnsOk_iff {data outBody : Bytes} {authFlavor : UInt32} {offset : Nat}
    (inside : offset ≤ data.length) :
    ReturnsOk (parseBody data authFlavor offset outBody) ↔
      (authFlavor = AUTH_SYS → offset + 4 + (roundedLength (wordAt data offset)).toNat ≤ data.length) := by
  unfold parseBody
  split
  · next sys =>
      split
      · next short =>
          apply iff_of_false (not_returnsOk (by decide))
          intro fits
          have second := fits sys
          omega
      · next space =>
          rw [readUint32Be_inside (by omega), ok_bind]
          dsimp only
          split
          · next outside =>
              apply iff_of_false (not_returnsOk (by decide))
              intro fits
              exact absurd (fits sys) (Nat.not_le.mpr outside)
          · next enough =>
              exact iff_of_true ⟨_, copyBody_inside (Nat.not_lt.mp enough)⟩ fun _ => Nat.not_lt.mp enough
  · next other => exact iff_of_true ⟨_, copyBody_inside inside⟩ fun sys => absurd sys other

theorem acceptError_eq_none_iff (acceptStat : UInt32) : acceptError acceptStat = none ↔ acceptStat = 0 := by
  unfold acceptError
  grind

/-- The accepted part returns OK when its status is SUCCESS and its lengths end inside the message. -/
theorem parseAccepted_returnsOk_iff {data outBody : Bytes} (header : 20 ≤ data.length) :
    ReturnsOk (parseAccepted data outBody) ↔
      acceptOffset data + 4 ≤ data.length ∧ wordAt data (acceptOffset data) = 0 ∧
        (wordAt data 12 = AUTH_SYS →
          acceptOffset data + 8 + (roundedLength (wordAt data (acceptOffset data + 4))).toNat ≤ data.length) := by
  unfold parseAccepted
  rw [readUint32Be_inside (by omega : 12 + 4 ≤ data.length), ok_bind,
    readUint32Be_inside (by omega : 16 + 4 ≤ data.length), ok_bind]
  change ReturnsOk (if acceptOffset data > data.length then .ok (.PROTO_ERR, outBody) else
    readUint32Be data (acceptOffset data) >>= _) ↔ _
  split
  · next outside =>
      apply iff_of_false (not_returnsOk (by decide))
      intro passes
      omega
  next starts =>
  by_cases whole : acceptOffset data + 4 ≤ data.length
  · rw [readUint32Be_inside whole, ok_bind, and_iff_right whole]
    cases error : acceptError (wordAt data (acceptOffset data)) with
    | some status =>
        apply iff_of_false (not_returnsOk (acceptError_ne_ok error))
        intro passes
        rw [(acceptError_eq_none_iff _).mpr passes.1] at error
        cases error
    | none =>
        rw [and_iff_right ((acceptError_eq_none_iff _).mp error)]
        exact parseBody_returnsOk_iff whole
  · rw [readUint32Be_outside (Nat.not_le.mp whole)]
    apply iff_of_false
    · intro ⟨_, returned⟩
      cases returned
    · exact fun passes => whole passes.1

theorem parseReply_returnsOk_iff (data : Bytes) (xid : UInt32) (outBody : Bytes) :
    ReturnsOk (parseReply data xid outBody) ↔ Succeeds data xid := by
  have space : ∀ offset, acceptOffset data + 4 ≤ data.length → offset ≤ 20 → offset + 4 ≤ data.length := by
    unfold acceptOffset
    omega
  unfold parseReply
  split
  · next short =>
      apply iff_of_false (not_returnsOk (by decide))
      intro passes
      have header := space 20 passes.whole (Nat.le_refl 20)
      omega
  next header =>
  rw [readUint32Be_inside (by omega : 0 + 4 ≤ data.length), ok_bind]
  split
  · next other => exact iff_of_false (not_returnsOk (by decide)) fun passes => other passes.sameXid
  next sameXid =>
  rw [readUint32Be_inside (by omega : 4 + 4 ≤ data.length), ok_bind]
  split
  · next other => exact iff_of_false (not_returnsOk (by decide)) fun passes => other passes.isReply
  next isReply =>
  rw [readUint32Be_inside (by omega : 8 + 4 ≤ data.length), ok_bind]
  split
  · next accepted =>
      rw [parseAccepted_returnsOk_iff (by omega)]
      constructor
      · intro ⟨whole, success, skipped⟩
        exact ⟨not_not.mp sameXid, not_not.mp isReply, accepted, whole, success, skipped⟩
      · intro passes
        exact ⟨passes.whole, passes.success, passes.skipped⟩
  next refused =>
  apply iff_of_false
  · split
    · rw [parseDenied, readUint32Be_inside (by omega : 12 + 4 ≤ data.length), ok_bind]
      split
      · exact not_returnsOk (by decide)
      · split <;> exact not_returnsOk (by decide)
    · exact not_returnsOk (by decide)
  · exact fun passes => refused passes.accepted

/-- A parse that returns OK has skipped true lengths, unless a length was so high that rounding wraps it. The sums of
the offsets do not wrap, since `size_t` has 64 bits here. -/
theorem parseReply_skipsLengths_iff (data : Bytes) (xid : UInt32) (outBody : Bytes) :
    (ReturnsOk (parseReply data xid outBody) → SkipsLengths data) ↔ (Succeeds data xid → LowLengths data) := by
  rw [parseReply_returnsOk_iff]
  apply forall_congr'
  intro passes
  have first : (roundedLength (wordAt data 16)).toNat ≤ data.length := by
    have whole := passes.whole
    unfold acceptOffset at whole
    omega
  have second : wordAt data 12 = AUTH_SYS →
      (SkipsLength data (wordAt data (acceptOffset data + 4)) ↔
        (wordAt data (acceptOffset data + 4)).toNat ≤ 2 ^ 32 - 4) := by
    intro sys
    have skipped := passes.skipped sys
    apply skipsLength_iff
    omega
  constructor
  · intro skips
    exact ⟨(skipsLength_iff first).mp skips.verifier, fun sys => (second sys).mp (skips.second sys)⟩
  · intro low
    exact ⟨(skipsLength_iff first).mpr low.verifier, fun sys => (second sys).mpr (low.second sys)⟩

/-- A verifier length of 2 ^ 32 - 1 bytes is skipped as zero bytes. -/
theorem parseReply_wraps_length :
    ¬ (ReturnsOk (parseReply [0, 0, 0, 1, 0, 0, 0, 1, 0, 0, 0, 0, 0, 0, 0, 0, 255, 255, 255, 255, 0, 0, 0, 0] 1 []) →
      SkipsLengths [0, 0, 0, 1, 0, 0, 0, 1, 0, 0, 0, 0, 0, 0, 0, 0, 255, 255, 255, 255, 0, 0, 0, 0]) := by
  intro skips
  have inside := (skips ⟨[], rfl⟩).verifier.inside
  exact absurd inside (by decide)

end Nfs3Rpc.SimpleRpc
