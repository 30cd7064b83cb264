import Nfs3Rpc.Format.Messages
import Nfs3Rpc.Proof.SimpleRpc.Messages

namespace Nfs3Rpc.SimpleRpc
open Encoding Peer

/-- The rounded length of a verifier covers its body and its padding. -/
theorem roundedLength_eq {length : Nat} (bounded : length ≤ 2 ^ 32 - 4) :
    (roundedLength (UInt32.ofNat length)).toNat = length + padding length := by
  have three : (3 : UInt32).toNat = 3 := rfl
  have four : (4 : UInt32).toNat = 4 := rfl
  rw [roundedLength, UInt32.toNat_mul, UInt32.toNat_div, UInt32.toNat_add, UInt32.toNat_ofNat', three, four,
    add_padding]
  omega

/-- These are the words of every reply, before the rest of its body. -/
def replyWords (xid stat fourth fifth : UInt32) (tail : Bytes) : Bytes :=
  [be32 xid, be32 1, be32 stat, be32 fourth, be32 fifth, tail].flatten

theorem replyWords_length (xid stat fourth fifth : UInt32) (tail : Bytes) :
    (replyWords xid stat fourth fifth tail).length = 20 + tail.length := by
  simp only [replyWords, List.flatten_cons, List.flatten_nil, List.length_append, be32_length, List.length_nil]
  omega

theorem replyWords_read (xid stat fourth fifth : UInt32) (tail : Bytes) :
    readUint32Be (replyWords xid stat fourth fifth tail) 0 = .ok xid ∧
      readUint32Be (replyWords xid stat fourth fifth tail) 4 = .ok 1 ∧
      readUint32Be (replyWords xid stat fourth fifth tail) 8 = .ok stat ∧
      readUint32Be (replyWords xid stat fourth fifth tail) 12 = .ok fourth ∧
      readUint32Be (replyWords xid stat fourth fifth tail) 16 = .ok fifth := by
  have words : replyWords xid stat fourth fifth tail =
      be32 xid ++ (be32 1 ++ (be32 stat ++ (be32 fourth ++ (be32 fifth ++ tail)))) := by
    simp [replyWords]
  rw [words]
  have found : ∀ {before rest : Bytes} {value : UInt32} {pos : Nat}, before.length = pos →
      readUint32Be (before ++ (be32 value ++ rest)) pos = .ok value := by
    intro before rest value pos size
    rw [← size]
    exact readUint32Be_append before rest value
  refine ⟨?_, found (be32_length xid), ?_, ?_, ?_⟩
  · rw [← List.nil_append (be32 xid ++ _)]
    exact found rfl
  · rw [← List.append_assoc]
    exact found (by simp)
  · rw [← List.append_assoc, ← List.append_assoc]
    exact found (by simp)
  · rw [← List.append_assoc, ← List.append_assoc, ← List.append_assoc]
    exact found (by simp)

/-- The header sends the parser to one of its two parts. -/
theorem parseReply_words (xid other stat fourth fifth : UInt32) (tail outBody : Bytes) :
    parseReply (replyWords xid stat fourth fifth tail) other outBody =
      if xid ≠ other then .ok (.PROTO_ERR, outBody)
      else if stat = 0 then parseAccepted (replyWords xid stat fourth fifth tail) outBody
      else if stat = 1 then parseDenied (replyWords xid stat fourth fifth tail) outBody
      else .ok (.PROTO_ERR, outBody) := by
  have whole : ¬ (replyWords xid stat fourth fifth tail).length < 20 := by
    rw [replyWords_length]
    omega
  have reply : ¬ (1 : UInt32) ≠ MSG_REPLY := by decide
  obtain ⟨first, second, third, _, _⟩ := replyWords_read xid stat fourth fifth tail
  simp only [parseReply, if_neg whole, first, second, third, ok_bind, if_neg reply]
  rfl

/-- The parser finds the accept status right after the padded verifier. -/
theorem parseAccepted_words (xid flavor : UInt32) (verf rest outBody : Bytes) (acceptStat : UInt32)
    (bounded : verf.length ≤ 2 ^ 32 - 4) :
    parseAccepted (replyWords xid 0 flavor (UInt32.ofNat verf.length) (padded verf ++ (be32 acceptStat ++ rest)))
        outBody =
      match acceptError acceptStat with
      | some status => .ok (status, outBody)
      | none => parseBody (replyWords xid 0 flavor (UInt32.ofNat verf.length) (padded verf ++ be32 acceptStat) ++ rest)
          flavor (replyWords xid 0 flavor (UInt32.ofNat verf.length) (padded verf ++ be32 acceptStat)).length
          outBody := by
  have offset : 20 + (roundedLength (UInt32.ofNat verf.length)).toNat = 20 + (padded verf).length := by
    rw [roundedLength_eq bounded, padded_length]
  obtain ⟨_, _, _, fourth, fifth⟩ := replyWords_read xid 0 flavor (UInt32.ofNat verf.length)
    (padded verf ++ (be32 acceptStat ++ rest))
  have split : replyWords xid 0 flavor (UInt32.ofNat verf.length) (padded verf ++ (be32 acceptStat ++ rest)) =
      replyWords xid 0 flavor (UInt32.ofNat verf.length) (padded verf) ++ (be32 acceptStat ++ rest) := by
    simp [replyWords]
  have status := readUint32Be_append (replyWords xid 0 flavor (UInt32.ofNat verf.length) (padded verf)) rest acceptStat
  rw [replyWords_length, ← split] at status
  have starts : ¬ 20 + (padded verf).length >
      (replyWords xid 0 flavor (UInt32.ofNat verf.length) (padded verf ++ (be32 acceptStat ++ rest))).length := by
    rw [replyWords_length, List.length_append]
    omega
  have parts : replyWords xid 0 flavor (UInt32.ofNat verf.length) (padded verf ++ be32 acceptStat) ++ rest =
      replyWords xid 0 flavor (UInt32.ofNat verf.length) (padded verf ++ (be32 acceptStat ++ rest)) := by
    simp [replyWords]
  have length : (replyWords xid 0 flavor (UInt32.ofNat verf.length) (padded verf ++ be32 acceptStat)).length =
      20 + (padded verf).length + 4 := by
    rw [replyWords_length, List.length_append, be32_length]
    omega
  rw [parts, length]
  simp only [parseAccepted, fourth, fifth, ok_bind, offset, if_neg starts, status]
  rfl

theorem parseBody_foreign (before rest outBody : Bytes) {flavor : UInt32} (foreign : flavor ≠ AUTH_SYS) :
    parseBody (before ++ rest) flavor before.length outBody = .ok (.OK, rest) := by
  have inside : before.length ≤ (before ++ rest).length := by simp
  rw [parseBody, if_neg foreign, copyBody_inside inside, List.drop_left]

/-- After an AUTH_SYS flavor the parser fails, or it cuts at least one word off the results. -/
theorem parseBody_sys (before rest outBody : Bytes) :
    parseBody (before ++ rest) AUTH_SYS before.length outBody ≠ .ok (.OK, rest) := by
  rw [parseBody, if_pos rfl]
  split
  · intro returned
    cases returned
  · next space =>
      rw [readUint32Be_inside (by omega), ok_bind]
      dsimp only
      split
      · intro returned
        cases returned
      · next fits =>
          rw [copyBody_inside (Nat.not_lt.mp fits)]
          intro returned
          have same := congrArg List.length (Prod.mk.inj (Except.ok.inj returned)).2
          rw [List.length_drop] at same
          rw [List.length_append] at same space
          omega

theorem parseDenied_words (xid reject fifth : UInt32) (tail outBody : Bytes) :
    parseDenied (replyWords xid 1 reject fifth tail) outBody =
      if reject = 0 then .ok (.PROG_MISMATCH, outBody)
      else if reject = 1 then .ok (.AUTH_ERROR, outBody)
      else .ok (.PROTO_ERR, outBody) := by
  obtain ⟨_, _, _, fourth, _⟩ := replyWords_read xid 1 reject fifth tail
  simp only [parseDenied, fourth, ok_bind]
  rfl

theorem acceptBody_words (body : AcceptBody) :
    ∃ acceptStat rest, body.wire = be32 acceptStat ++ rest ∧
      (match acceptError acceptStat with
        | some status => body.status = status ∧ status ≠ .OK
        | none => body = .SUCCESS rest) := by
  cases body with
  | SUCCESS results => exact ⟨0, results, rfl, rfl⟩
  | PROG_UNAVAIL => exact ⟨1, [], rfl, rfl, by decide⟩
  | PROG_MISMATCH low high => exact ⟨2, be32 low ++ be32 high, rfl, rfl, by decide⟩
  | PROC_UNAVAIL => exact ⟨3, [], rfl, rfl, by decide⟩
  | GARBAGE_ARGS => exact ⟨4, [], rfl, rfl, by decide⟩
  | SYSTEM_ERR => exact ⟨5, [], rfl, rfl, by decide⟩

/-- Every reply starts with five words, and they lead to its outcome unless a second length is read. -/
theorem reply_words (reply : Reply) (sized : reply.Sized) (outBody : Bytes) :
    ∃ stat fourth fifth tail, reply.wire = replyWords reply.xid stat fourth fifth tail ∧
      ((if stat = 0 then parseAccepted (replyWords reply.xid stat fourth fifth tail) outBody
        else if stat = 1 then parseDenied (replyWords reply.xid stat fourth fifth tail) outBody
        else .ok (.PROTO_ERR, outBody)) = .ok (reply.outcome outBody) ↔ ¬ reply.SysSuccess) := by
  obtain ⟨xid, body⟩ := reply
  cases body with
  | accepted verf body =>
      obtain ⟨acceptStat, rest, wire, meaning⟩ := acceptBody_words body
      refine ⟨0, verf.flavor, UInt32.ofNat verf.body.length, padded verf.body ++ (be32 acceptStat ++ rest), ?_, ?_⟩
      · simp [Reply.wire, ReplyBody.wire, replyWords, opaqueBytes, wire]
      · rw [if_pos rfl, parseAccepted_words xid verf.flavor verf.body rest outBody acceptStat (sized verf body rfl)]
        cases known : acceptError acceptStat with
        | some status =>
            rw [known] at meaning
            obtain ⟨rfl, failed⟩ := meaning
            cases body with
            | SUCCESS results => exact absurd rfl failed
            | _ => exact iff_of_true rfl (by simp [Reply.SysSuccess])
        | none =>
            rw [known] at meaning
            subst meaning
            by_cases sys : verf.flavor = AUTH_SYS
            · rw [sys]
              apply iff_of_false (parseBody_sys _ rest outBody)
              exact not_not.mpr ⟨verf, rest, rfl, sys⟩
            · apply iff_of_true (parseBody_foreign _ rest outBody sys)
              intro success
              obtain ⟨_, _, same, flavor⟩ := success
              exact sys ((ReplyBody.accepted.inj same).1 ▸ flavor)
  | rpcMismatch low high =>
      refine ⟨1, 0, low, be32 high, by simp [Reply.wire, ReplyBody.wire, replyWords], ?_⟩
      rw [if_neg (by decide), if_pos rfl, parseDenied_words]
      exact iff_of_true rfl (by simp [Reply.SysSuccess])
  | authError stat =>
      refine ⟨1, 1, stat, [], by simp [Reply.wire, ReplyBody.wire, replyWords], ?_⟩
      rw [if_neg (by decide), if_pos rfl, parseDenied_words]
      exact iff_of_true rfl (by simp [Reply.SysSuccess])

theorem parseReply_own_iff (reply : Reply) (sized : reply.Sized) (outBody : Bytes) :
    parseReply reply.wire reply.xid outBody = .ok (reply.outcome outBody) ↔ ¬ reply.SysSuccess := by
  obtain ⟨stat, fourth, fifth, tail, wire, outcome⟩ := reply_words reply sized outBody
  rw [wire, parseReply_words, if_neg (not_not.mpr rfl)]
  exact outcome

theorem parseReply_other (reply : Reply) (sized : reply.Sized) (outBody : Bytes) {other : UInt32}
    (different : other ≠ reply.xid) : parseReply reply.wire other outBody = .ok (.PROTO_ERR, outBody) := by
  obtain ⟨stat, fourth, fifth, tail, wire, _⟩ := reply_words reply sized outBody
  rw [wire, parseReply_words, if_pos different.symm]

theorem sized_of_plain {reply : Reply} (plain : reply.Plain) : reply.Sized :=
  fun verf body same => (plain verf body same).2

theorem not_sysSuccess_of_plain {reply : Reply} (plain : reply.Plain) : ¬ reply.SysSuccess := by
  intro ⟨verf, results, same, sys⟩
  exact (plain verf _ same).1 sys

/-- The parser gives each well-formed reply its meaning, and gives no other call a result of it. -/
theorem parseReply_classifies (reply : Reply) (plain : reply.Plain) (outBody : Bytes) :
    parseReply reply.wire reply.xid outBody = .ok (reply.outcome outBody) ∧
      ∀ other, other ≠ reply.xid → parseReply reply.wire other outBody = .ok (.PROTO_ERR, outBody) := by
  constructor
  · exact (parseReply_own_iff reply (sized_of_plain plain) outBody).mpr (not_sysSuccess_of_plain plain)
  · intro other different
    exact parseReply_other reply (sized_of_plain plain) outBody different

theorem parseReply_classifies_small :
    parseReply (Reply.wire ⟨7, .accepted ⟨0, [1, 2, 3]⟩ (.SUCCESS [9, 8])⟩) 7 [] = .ok (.OK, [9, 8]) ∧
      parseReply (Reply.wire ⟨7, .accepted ⟨6, []⟩ .SYSTEM_ERR⟩) 7 [] = .ok (.PROTO_ERR, []) := by
  have plain : ∀ verf body, verf.flavor ≠ AUTH_SYS → verf.body.length ≤ 2 ^ 32 - 4 →
      Reply.Plain ⟨7, .accepted verf body⟩ := by
    intro verf body foreign bounded _ _ held
    obtain ⟨rfl, rfl⟩ := held
    exact ⟨foreign, bounded⟩
  constructor
  · exact (parseReply_classifies ⟨7, .accepted ⟨0, [1, 2, 3]⟩ (.SUCCESS [9, 8])⟩
      (plain _ _ (by decide) (by decide)) []).1
  · exact (parseReply_classifies ⟨7, .accepted ⟨6, []⟩ .SYSTEM_ERR⟩ (plain _ _ (by decide) (by decide)) []).1

/-- The flavor of a verifier decides nothing except by the second length of AUTH_SYS. -/
theorem parseReply_flavor_iff (xid expected flavor other : UInt32) (verf results outBody : Bytes)
    (bounded : verf.length ≤ 2 ^ 32 - 4) :
    parseReply (Reply.wire ⟨xid, .accepted ⟨flavor, verf⟩ (.SUCCESS results)⟩) expected outBody =
        parseReply (Reply.wire ⟨xid, .accepted ⟨other, verf⟩ (.SUCCESS results)⟩) expected outBody ↔
      (expected = xid → (flavor = AUTH_SYS ↔ other = AUTH_SYS)) := by
  have sized : ∀ f, Reply.Sized ⟨xid, .accepted ⟨f, verf⟩ (.SUCCESS results)⟩ := by
    intro f _ _ same
    rw [← (ReplyBody.accepted.inj same).1]
    exact bounded
  have own : ∀ f, parseReply (Reply.wire ⟨xid, .accepted ⟨f, verf⟩ (.SUCCESS results)⟩) xid outBody =
      .ok (.OK, results) ↔ f ≠ AUTH_SYS := by
    intro f
    refine (parseReply_own_iff _ (sized f) outBody).trans
      (not_congr ⟨?_, fun sys => ⟨⟨f, verf⟩, results, rfl, sys⟩⟩)
    intro ⟨_, _, same, sys⟩
    rwa [← (ReplyBody.accepted.inj same).1] at sys
  by_cases addressed : expected = xid
  · subst addressed
    rw [forall_prop_of_true rfl]
    by_cases first : flavor = AUTH_SYS <;> by_cases second : other = AUTH_SYS
    · rw [first, second]
      simp only
    · rw [(own other).mpr second, own flavor]
      exact iff_of_false (not_not.mpr first) fun both => second (both.mp first)
    · rw [(own flavor).mpr first, eq_comm, own other]
      exact iff_of_false (not_not.mpr second) fun both => first (both.mpr second)
    · rw [(own flavor).mpr first, (own other).mpr second]
      exact iff_of_true rfl (iff_of_false first second)
  · rw [parseReply_other _ (sized flavor) outBody addressed, parseReply_other _ (sized other) outBody addressed]
    exact iff_of_true rfl fun same => absurd same addressed

theorem parseReply_flavor_iff_small :
    parseReply (Reply.wire ⟨7, .accepted ⟨0, [1]⟩ (.SUCCESS [0, 0, 0, 0])⟩) 7 [] =
      parseReply (Reply.wire ⟨7, .accepted ⟨6, [1]⟩ (.SUCCESS [0, 0, 0, 0])⟩) 7 [] :=
  (parseReply_flavor_iff 7 7 0 6 [1] [0, 0, 0, 0] [] (by decide)).mpr fun _ => by decide

/-- The flavor AUTH_SYS takes the first word of the results away. -/
theorem parseReply_flavor_matters :
    parseReply (Reply.wire ⟨7, .accepted ⟨AUTH_NONE, []⟩ (.SUCCESS [0, 0, 0, 0])⟩) 7 [] ≠
      parseReply (Reply.wire ⟨7, .accepted ⟨AUTH_SYS, []⟩ (.SUCCESS [0, 0, 0, 0])⟩) 7 [] := by
  have none : parseReply (Reply.wire ⟨7, .accepted ⟨AUTH_NONE, []⟩ (.SUCCESS [0, 0, 0, 0])⟩) 7 [] =
      .ok (.OK, [0, 0, 0, 0]) := rfl
  have sys : parseReply (Reply.wire ⟨7, .accepted ⟨AUTH_SYS, []⟩ (.SUCCESS [0, 0, 0, 0])⟩) 7 [] =
    .ok (.OK, []) := rfl
  rw [none, sys]
  intro same
  cases same

end Nfs3Rpc.SimpleRpc
