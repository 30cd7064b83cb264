import Nfs3Rpc.Construction.SimpleRpc.Protocol

namespace Nfs3Rpc.SimpleRpc
open Encoding

/-- The parse stays inside the message, and an OK parse returns a suffix of it. -/
def StaysInside (data : Bytes) (parse : Except OutOfBounds (RpcStatus × Bytes)) : Prop :=
  ∃ status body, parse = .ok (status, body) ∧
    (status = .OK → ∃ offset ≤ data.length, body = data.drop offset)

/-- This is the word of the message at a fixed place. -/
def wordAt (data : Bytes) (offset : Nat) : UInt32 := leadingWord (data.drop offset)

/-- The accept status of this reply starts inside the message or at its end, but does not end inside it. -/
structure TruncatedAccept (data : Bytes) (xid : UInt32) : Prop where
  header : 20 ≤ data.length
  sameXid : wordAt data 0 = xid
  isReply : wordAt data 4 = MSG_REPLY
  accepted : wordAt data 8 = 0
  starts : 20 + (roundedLength (wordAt data 16)).toNat ≤ data.length
  cut : data.length < 24 + (roundedLength (wordAt data 16)).toNat

/-- A load that returns passes its word on. -/
theorem ok_bind {α β : Type} (value : α) (next : α → Except OutOfBounds β) :
    (Except.ok value >>= next) = next value :=
  rfl

theorem readUint32Be_inside {data : Bytes} {offset : Nat} (inside : offset + 4 ≤ data.length) :
    readUint32Be data offset = .ok (wordAt data offset) :=
  if_pos inside

theorem readUint32Be_outside {data : Bytes} {offset : Nat} (outside : data.length < offset + 4) :
    readUint32Be data offset = .error ⟨offset, 4⟩ :=
  if_neg (Nat.not_le.mpr outside)

/-- A status other than OK makes no promise about the body. -/
theorem StaysInside.failed {data body : Bytes} {status : RpcStatus} (failed : status ≠ .OK) :
    StaysInside data (.ok (status, body)) :=
  ⟨status, body, rfl, fun equal => absurd equal failed⟩

theorem copyBody_inside {data : Bytes} {offset : Nat} (inside : offset ≤ data.length) :
    copyBody data offset = .ok (.OK, data.drop offset) := by
  have length : sizeSub data.length offset = data.length - offset := if_pos inside
  have whole : (data.drop offset).take (data.length - offset) = data.drop offset := by
    rw [← List.length_drop, List.take_length]
  have fits : offset + (data.length - offset) ≤ data.length := by omega
  rw [copyBody, length, copyRange, if_pos fits, whole]
  rfl

theorem copyBody_stays_inside {data : Bytes} {offset : Nat} (inside : offset ≤ data.length) :
    StaysInside data (copyBody data offset) :=
  ⟨.OK, data.drop offset, copyBody_inside inside, fun _ => ⟨offset, inside, rfl⟩⟩

theorem parseBody_stays_inside {data outBody : Bytes} {authFlavor : UInt32} {offset : Nat}
    (inside : offset ≤ data.length) : StaysInside data (parseBody data authFlavor offset outBody) := by
  unfold parseBody
  split
  · split
    · exact StaysInside.failed (by decide)
    · next space =>
        rw [readUint32Be_inside (by omega)]
        change StaysInside data (if _ then _ else _)
        split
        · exact StaysInside.failed (by decide)
        · next enough => exact copyBody_stays_inside (Nat.not_lt.mp enough)
  · exact copyBody_stays_inside inside

theorem acceptError_ne_ok {acceptStat : UInt32} {status : RpcStatus}
    (error : acceptError acceptStat = some status) : status ≠ .OK := by
  unfold acceptError at error
  grind

/-- The accepted arm stays inside exactly when the accept status is not cut. -/
theorem parseAccepted_stays_inside {data outBody : Bytes} (header : 20 ≤ data.length) :
    StaysInside data (parseAccepted data outBody) ↔
      ¬ (20 + (roundedLength (wordAt data 16)).toNat ≤ data.length ∧
        data.length < 24 + (roundedLength (wordAt data 16)).toNat) := by
  unfold parseAccepted
  rw [readUint32Be_inside (by omega : 12 + 4 ≤ data.length),
    readUint32Be_inside (by omega : 16 + 4 ≤ data.length)]
  change StaysInside data (if 20 + (roundedLength (wordAt data 16)).toNat > data.length then
    .ok (.PROTO_ERR, outBody) else _) ↔ _
  generalize (roundedLength (wordAt data 16)).toNat = rounded
  split
  · next outside =>
      exact iff_of_true (StaysInside.failed (by decide)) (by omega)
  · next starts =>
      by_cases cut : data.length < 24 + rounded
      · rw [readUint32Be_outside (by omega)]
        refine iff_of_false ?_ (by omega)
        intro held
        obtain ⟨status, body, returned, -⟩ := held
        cases returned
      · rw [readUint32Be_inside (by omega)]
        refine iff_of_true ?_ (by omega)
        dsimp only [bind, Except.bind]
        split
        · next error => exact StaysInside.failed (acceptError_ne_ok error)
        · exact parseBody_stays_inside (by omega)

theorem parseDenied_stays_inside {data outBody : Bytes} (header : 20 ≤ data.length) :
    StaysInside data (parseDenied data outBody) := by
  unfold parseDenied
  rw [readUint32Be_inside (by omega : 12 + 4 ≤ data.length)]
  change StaysInside data (if _ then _ else if _ then _ else _)
  split
  · exact StaysInside.failed (by decide)
  · split <;> exact StaysInside.failed (by decide)

/-- The parser stays inside every message except those that end within the accept status. -/
theorem parseReply_stays_inside_iff (data : Bytes) (expectedXid : UInt32) (outBody : Bytes) :
    StaysInside data (parseReply data expectedXid outBody) ↔ ¬ TruncatedAccept data expectedXid := by
  unfold parseReply
  split
  · next short =>
      exact iff_of_true (StaysInside.failed (by decide)) fun cut => absurd cut.header (by omega)
  next header =>
  rw [readUint32Be_inside (by omega : 0 + 4 ≤ data.length)]
  change StaysInside data (if _ then _ else _) ↔ _
  split
  · next other => exact iff_of_true (StaysInside.failed (by decide)) fun cut => other cut.sameXid
  next sameXid =>
  rw [readUint32Be_inside (by omega : 4 + 4 ≤ data.length)]
  change StaysInside data (if _ then _ else _) ↔ _
  split
  · next other => exact iff_of_true (StaysInside.failed (by decide)) fun cut => other cut.isReply
  next isReply =>
  rw [readUint32Be_inside (by omega : 8 + 4 ≤ data.length)]
  change StaysInside data (if _ then _ else if _ then _ else _) ↔ _
  split
  · next accepted =>
      rw [parseAccepted_stays_inside (by omega)]
      refine not_congr ⟨fun cut => ?_, fun cut => ⟨cut.starts, cut.cut⟩⟩
      exact ⟨by omega, not_not.mp sameXid, not_not.mp isReply, accepted, cut.1, cut.2⟩
  · next refused =>
      refine iff_of_true ?_ fun cut => refused cut.accepted
      split
      · exact parseDenied_stays_inside (by omega)
      · exact StaysInside.failed (by decide)

/-- A reply of twenty bytes with an empty verifier ends where its accept status should start. -/
theorem parseReply_leaves_message : ¬ StaysInside
    [0, 0, 0, 1, 0, 0, 0, 1, 0, 0, 0, 0, 0, 0, 0, 0, 0, 0, 0, 0]
    (parseReply [0, 0, 0, 1, 0, 0, 0, 1, 0, 0, 0, 0, 0, 0, 0, 0, 0, 0, 0, 0] 1 []) := by
  intro held
  obtain ⟨status, body, returned, -⟩ := held
  have fails : parseReply [0, 0, 0, 1, 0, 0, 0, 1, 0, 0, 0, 0, 0, 0, 0, 0, 0, 0, 0, 0] 1 [] =
      .error ⟨20, 4⟩ := by
    rfl
  rw [fails] at returned
  cases returned

end Nfs3Rpc.SimpleRpc
