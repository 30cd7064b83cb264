import Nfs3Rpc.Proof.Suites.Accepts

namespace Nfs3Rpc
open Encoding Builtin Csuite

theorem PostOpAttr.visible_follow (attr : PostOpAttr) : attr.visible.follow = attr.follow := by
  obtain ⟨follow, attributes⟩ := attr
  cases follow <;> rfl

theorem lowWord_toUInt64 (value : UInt32) : lowWord value.toUInt64 = value := by
  simp [lowWord]

theorem highWord_toUInt64 (value : UInt32) : highWord value.toUInt64 = 0 := by
  apply UInt32.toNat_inj.mp
  have bound := value.toNat_lt
  simp only [highWord, UInt64.toNat_toUInt32, UInt64.toNat_shiftRight, UInt32.toNat_toUInt64,
    Nat.shiftRight_eq_div_pow, UInt64.reduceToNat, Nat.reduceMod, Nat.reducePow, UInt32.reduceToNat]
  omega

theorem ofNat_length_eq_zero {data : Bytes} (short : Short data) :
    UInt32.ofNat data.length = 0 ↔ data = [] := by
  rw [← List.length_eq_zero_iff, ← UInt32.toNat_inj, toNat_length short]
  rfl

/-- The C++ decoder takes the end-of-file flag for the low word of the count. -/
theorem Csuite.READ3resokT.misread (res : READ3resokT) :
    ¬ Accepts (READ3resok.deserialize {}) (be32 0) (READ3resokWire res.message) (·.visible = res.message) := by
  have wire : READ3resokWire res.message = res.fileAttributes.message.wire ++
      (be64 (hyper res.count (if res.eof ≠ 0 then 1 else 0)) ++
        (be32 (UInt32.ofNat res.message.data.length) ++ padded res.message.data)) := by
    by_cases zero : res.eof = 0 <;>
      simp [READ3resokWire, READ3resokT.message, be64_hyper, beBool, opaqueBytes, zero]
  rw [wire, READ3resok.deserialize, accepts_field (PostOpAttr.deserialize_new_reads _),
    accepts_field (unpackUint64_reads _), accepts_field (unpackBool_reads_word _)]
  intro accepts
  obtain ⟨data, _, _, same⟩ := accepts_returning.mp accepts
  have count : hyper res.count (if res.eof ≠ 0 then 1 else 0) = res.count.toUInt64 :=
    congrArg READ3resok.count same
  have eof : (UInt32.ofNat res.message.data.length != 0) = decide (res.eof ≠ 0) :=
    congrArg READ3resok.eof same
  have high : res.count = 0 := by
    rw [← highWord_hyper res.count, count, highWord_toUInt64]
  have low : (if res.eof ≠ 0 then 1 else 0) = res.count := by
    rw [← lowWord_hyper res.count (if res.eof ≠ 0 then 1 else 0), count, lowWord_toUInt64]
  have notEof : res.eof = 0 := by
    by_contra set
    rw [if_pos set, high] at low
    exact absurd low (by decide)
  have empty : res.message.data = [] := by
    have short : Short res.message.data := Ptr.bytes_short _ _
    rw [← ofNat_length_eq_zero short]
    simpa [notEof] using eof
  rw [empty] at accepts
  exact not_accepts (unpackOpaque_rejects (by decide)) accepts

/-- These are the eight bytes of the array after a decoded value. -/
def Verifier.filled (self : Verifier) (v : Bytes) : Verifier :=
  if enough : 8 ≤ v.length then ⟨v.take 8, take_eight_length enough⟩ else self

theorem Verifier.deserialize_eq (self : Verifier) :
    self.deserialize = unpackOpaque >>= fun v => pure (self.filled v) := by
  unfold Verifier.deserialize
  congr 1
  funext v
  unfold Verifier.filled
  split <;> rfl

theorem Verifier.eq_of_data {one two : Verifier} (same : one.data = two.data) : one = two := by
  obtain ⟨data, eight⟩ := one
  obtain ⟨data', eight'⟩ := two
  obtain rfl : data = data' := same
  rfl

theorem Verifier.words (verf : Verifier) : ∃ first second, verf.data = be32 first ++ be32 second := by
  obtain ⟨data, eight⟩ := verf
  match data, eight with
  | [b0, b1, b2, b3, b4, b5, b6, b7], _ =>
      exact ⟨word b0 b1 b2 b3, word b4 b5 b6 b7, by rw [be32_word, be32_word]; rfl⟩

/-- The first word of a verifier is no length that leaves eight bytes after it. -/
theorem Csuite.COMMIT3resokT.misread (res : COMMIT3resokT) :
    ¬ ∀ uninit : Verifier, Accepts (COMMIT3resok.deserialize { verf := uninit }) (be32 0)
      (COMMIT3resokWire res.message) (·.visible = res.message) := by
  obtain ⟨first, second, words⟩ := res.verf.words
  have wire : COMMIT3resokWire res.message = res.fileWcc.message.wire ++ (be32 first ++ be32 second) := by
    rw [← words]
    simp [COMMIT3resokWire, COMMIT3resokT.message]
  have kept : ∀ uninit : Verifier, Accepts (COMMIT3resok.deserialize { verf := uninit }) (be32 0)
      (COMMIT3resokWire res.message) (·.visible = res.message) → uninit = res.verf := by
    intro uninit accepts
    rw [wire, COMMIT3resok.deserialize, accepts_field (PostOpAttr.deserialize_new_reads _),
      Verifier.deserialize_eq, bind_assoc] at accepts
    simp only [pure_bind] at accepts
    obtain ⟨inside, same⟩ := accepts_lastOpaque.mp accepts
    have short : ¬ 8 ≤ ((be32 second).take first.toNat).length := by
      rw [List.length_take, be32_length]
      omega
    have unchanged : uninit.filled ((be32 second).take first.toNat) = uninit := dif_neg short
    rw [← unchanged]
    exact congrArg COMMIT3resok.verf same
  intro accepts
  have zero := kept .zero (accepts .zero)
  have ones := kept ⟨List.replicate 8 1, rfl⟩ (accepts _)
  exact absurd (zero.trans ones.symm) (by decide)

/-- The C bytes of a successful WRITE result after its status. -/
def Csuite.WRITE3resokT.wire (res : WRITE3resokT) : Bytes :=
  [res.fileWcc.message.wire, be32 res.count, be32 res.committed.code, res.verf.data].flatten

theorem PostOpAttr.follow_of_ok {before rest : Bytes} {flag : UInt32} {value : PostOpAttr} {buf : XdrBuffer}
    (runs : PostOpAttr.deserialize {} ⟨before ++ (be32 flag ++ rest), before.length⟩ = .ok value buf) :
    value.follow = (flag != 0) := by
  have accepts : Accepts (PostOpAttr.deserialize {}) before (be32 flag ++ rest) (· = value) :=
    ⟨value, buf, runs, rfl⟩
  rw [PostOpAttr.deserialize, accepts_field (unpackBool_reads_word flag)] at accepts
  split at accepts
  · obtain ⟨attributes, _, _, same⟩ := accepts_returning.mp accepts
    rw [← same]
  · rw [← accepts_pure.mp accepts]

/-- The first flag word decides whether the decoded attributes are present. -/
theorem WRITE3resok.follow_of_accepts {uninit : Verifier} {before rest : Bytes} {flag : UInt32}
    {result : WRITE3resok → Prop}
    (accepts : Accepts (WRITE3resok.deserialize { verf := uninit }) before (be32 flag ++ rest) result) :
    ∃ value, result value ∧ value.fileAttributes.follow = (flag != 0) := by
  obtain ⟨value, buf, runs, holds⟩ := accepts
  obtain ⟨attributes, _, attributesRun, runs⟩ := ok_of_bind_ok runs
  obtain ⟨count, _, _, runs⟩ := ok_of_bind_ok runs
  obtain ⟨committed, _, _, runs⟩ := ok_of_bind_ok runs
  obtain ⟨verf, _, _, runs⟩ := ok_of_bind_ok runs
  obtain ⟨rfl, _⟩ := EStateM.Result.ok.inj runs
  exact ⟨_, holds, PostOpAttr.follow_of_ok attributesRun⟩

section
variable (res : WRITE3resokT)

theorem Csuite.WRITE3resokT.wire_flag : ∃ rest, res.wire =
    be32 (if res.fileWcc.before.check ≠ 0 then 1 else 0) ++ rest := by
  rw [WRITE3resokT.wire, WccDataT.message, WccData.wire, PreOpAttrT.wire_message]
  split
  · exact ⟨_, by simp [beBool]; rfl⟩
  · exact ⟨_, by simp [beBool]; rfl⟩

/-- The flag of the prior attributes is read as the flag of the later ones. -/
theorem Csuite.WRITE3resokT.flags_agree {uninit : Verifier}
    (accepts : Accepts (WRITE3resok.deserialize { verf := uninit }) (be32 0) res.wire (·.visible = res.shown)) :
    res.fileWcc.before.check ≠ 0 ↔ res.fileWcc.after.follow ≠ 0 := by
  obtain ⟨rest, wire⟩ := res.wire_flag
  rw [wire] at accepts
  obtain ⟨value, same, flag⟩ := WRITE3resok.follow_of_accepts accepts
  have shown : value.fileAttributes.visible = res.fileWcc.after.message :=
    congrArg WRITE3resok.fileAttributes same
  have follow : value.fileAttributes.follow = res.fileWcc.after.message.follow := by
    rw [← shown, PostOpAttr.visible_follow]
  rw [flag, PostOpAttrT.message] at follow
  by_cases check : res.fileWcc.before.check = 0 <;> by_cases after : res.fileWcc.after.follow = 0 <;>
    simp_all

/-- Without attributes the level of commitment is read as the length of the verifier. -/
theorem Csuite.WRITE3resokT.misread_absent (check : res.fileWcc.before.check = 0)
    (follow : res.fileWcc.after.follow = 0) :
    ¬ ∀ uninit : Verifier, Accepts (WRITE3resok.deserialize { verf := uninit }) (be32 0) res.wire
      (·.visible = res.shown) := by
  have wire : res.wire = PostOpAttr.wire {} ++ (be32 0 ++ (be32 res.count ++
      (be32 res.committed.code ++ res.verf.data))) := by
    have before : res.fileWcc.before.message = {} := if_neg (not_not.mpr check)
    have after : res.fileWcc.after.message = {} := if_neg (not_not.mpr follow)
    simp [WRITE3resokT.wire, WccDataT.message, WccData.wire, before, after, PreOpAttr.wire,
      PostOpAttr.wire, beBool]
  have kept : ∀ uninit : Verifier, Accepts (WRITE3resok.deserialize { verf := uninit }) (be32 0) res.wire
      (·.visible = res.shown) → uninit = res.verf := by
    intro uninit accepts
    rw [wire, WRITE3resok.deserialize, accepts_field (PostOpAttr.deserialize_new_reads _),
      accepts_field (unpackUint32_reads _), accepts_field (unpackUint32_reads _),
      Verifier.deserialize_eq, bind_assoc] at accepts
    simp only [pure_bind] at accepts
    obtain ⟨inside, same⟩ := accepts_lastOpaque.mp accepts
    have count : 0 = res.count := congrArg WRITE3resok.count same
    have committed : res.count = res.committed.code := congrArg (fun r => r.committed.code) same
    have unchanged : uninit.filled (res.verf.data.take res.committed.code.toNat) = uninit := by
      rw [← committed, ← count]
      rfl
    rw [← unchanged]
    exact congrArg WRITE3resok.verf same
  intro accepts
  have zero := kept .zero (accepts .zero)
  have ones := kept ⟨List.replicate 8 1, rfl⟩ (accepts _)
  exact absurd (zero.trans ones.symm) (by decide)

end

/-- The C++ decoder starts the attributes seven words early. -/
def shiftedFattr3 (prior : WccAttr) (attr : Fattr3) : Fattr3 :=
  { type := ⟨highWord prior.size⟩
    mode := lowWord prior.size
    nlink := prior.mtime.seconds
    uid := prior.mtime.nseconds
    gid := prior.ctime.seconds
    size := hyper prior.ctime.nseconds 1
    used := hyper attr.type.code attr.mode
    rdev := ⟨attr.nlink, attr.uid⟩
    fsid := hyper attr.gid (highWord attr.size)
    fileid := hyper (lowWord attr.size) (highWord attr.used)
    atime := ⟨lowWord attr.used, attr.rdev.specdata1⟩
    mtime := ⟨attr.rdev.specdata2, highWord attr.fsid⟩
    ctime := ⟨lowWord attr.fsid, highWord attr.fileid⟩ }

theorem shifted_eq_iff (prior : WccAttr) (attr : Fattr3) :
    shiftedFattr3 prior attr = attr ↔ attr = repeatedFattr3 prior := by
  constructor
  · intro same
    obtain ⟨type, mode, nlink, uid, gid, size, used, rdev, fsid, fileid, atime, mtime, ctime⟩ := attr
    simp only [shiftedFattr3, Fattr3.mk.injEq] at same
    obtain ⟨rfl, rfl, rfl, rfl, rfl, rfl, rfl, rfl, rfl, rfl, rfl, rfl, rfl⟩ := same
    simp [repeatedFattr3]
  · rintro rfl
    simp [shiftedFattr3, repeatedFattr3]

theorem shifted_wire (prior : WccAttr) (attr : Fattr3) :
    prior.wire ++ (be32 1 ++ attr.wire) = (shiftedFattr3 prior attr).wire ++ (be32 (lowWord attr.fileid) ++
      (be32 attr.atime.seconds ++ (be32 attr.atime.nseconds ++ (attr.mtime.wire ++ attr.ctime.wire)))) := by
  simp [WccAttr.wire, Fattr3.wire, Nfstime3.wire, Specdata3.wire, shiftedFattr3, be64]

theorem Verifier.filled_of_enough (self : Verifier) {v : Bytes} (enough : 8 ≤ v.length) :
    (self.filled v).data = v.take 8 := by
  rw [Verifier.filled, dif_pos enough]

/-- The C++ decoder takes the verifier from these 32 bytes. -/
def Csuite.WRITE3resokT.verifierBytes (res : WRITE3resokT) : Bytes :=
  [res.fileWcc.after.attributes.mtime.wire, res.fileWcc.after.attributes.ctime.wire, be32 res.count,
    be32 res.committed.code, res.verf.data].flatten

theorem Csuite.WRITE3resokT.verifierBytes_length (res : WRITE3resokT) : res.verifierBytes.length = 32 := by
  simp [WRITE3resokT.verifierBytes, Nfstime3.wire, res.verf.eight]

/-- With both attribute blocks the decoder finds every field seven words early. -/
theorem Csuite.WRITE3resokT.accepts_present (res : WRITE3resokT) {prior : WccAttr} {attr : Fattr3}
    (before : res.fileWcc.before.message = ⟨true, prior⟩) (after : res.fileWcc.after.message = ⟨true, attr⟩)
    (same : res.fileWcc.after.attributes = attr) (uninit : Verifier) :
    Accepts (WRITE3resok.deserialize { verf := uninit }) (be32 0) res.wire (·.visible = res.shown) ↔
      attr.atime.nseconds.toNat ≤ 32 ∧ attr = repeatedFattr3 prior ∧ lowWord attr.fileid = res.count ∧
        attr.atime.seconds = res.committed.code ∧
        uninit.filled (res.verifierBytes.take attr.atime.nseconds.toNat) = res.verf := by
  have wire : res.wire = PostOpAttr.wire ⟨true, shiftedFattr3 prior attr⟩ ++ (be32 (lowWord attr.fileid) ++
      (be32 attr.atime.seconds ++ (be32 attr.atime.nseconds ++ res.verifierBytes))) := by
    have shifted := congrArg (· ++ (be32 res.count ++ (be32 res.committed.code ++ res.verf.data)))
      (shifted_wire prior attr)
    simp only [List.append_assoc] at shifted
    simp only [WRITE3resokT.wire, WRITE3resokT.verifierBytes, WccDataT.message, WccData.wire, before, after,
      same, PreOpAttr.wire, PostOpAttr.wire, beBool, if_true, List.flatten_cons, List.flatten_nil,
      List.append_nil, List.append_assoc, shifted]
  have shown : res.shown = ⟨⟨true, attr⟩, res.count, res.committed, res.verf⟩ := by
    rw [WRITE3resokT.shown, after]
  rw [wire, WRITE3resok.deserialize, accepts_field (PostOpAttr.deserialize_new_reads _),
    accepts_field (unpackUint32_reads _), accepts_field (unpackUint32_reads _),
    Verifier.deserialize_eq, bind_assoc]
  simp only [pure_bind]
  rw [accepts_lastOpaque, shown, res.verifierBytes_length]
  simp only [WRITE3resok.visible, PostOpAttr.visible, if_true, WRITE3resok.mk.injEq, PostOpAttr.mk.injEq,
    true_and, shifted_eq_iff]
  rw [show (⟨attr.atime.seconds⟩ : StableHow) = res.committed ↔ attr.atime.seconds = res.committed.code from
    ⟨congrArg StableHow.code, congrArg StableHow.mk⟩]

/-- The array changes exactly when the length word covers eight bytes. -/
theorem Csuite.WRITE3resokT.filled_iff (res : WRITE3resokT) (len : Nat) :
    (∀ uninit : Verifier, uninit.filled (res.verifierBytes.take len) = res.verf) ↔
      8 ≤ len ∧ res.verf.data = res.fileWcc.after.attributes.mtime.wire := by
  have length : (res.verifierBytes.take len).length = min len 32 := by
    rw [List.length_take, res.verifierBytes_length]
  have start : res.verifierBytes.take 8 = res.fileWcc.after.attributes.mtime.wire := rfl
  constructor
  · intro filled
    by_cases enough : 8 ≤ len
    · have first := (Verifier.zero.filled_of_enough (v := res.verifierBytes.take len) (by omega))
      rw [filled, List.take_take, Nat.min_eq_left enough, start] at first
      exact ⟨enough, first⟩
    · have short : ¬ 8 ≤ (res.verifierBytes.take len).length := by omega
      have kept : ∀ uninit : Verifier, uninit = res.verf := fun uninit =>
        (dif_neg short).symm.trans (filled uninit)
      exact absurd ((kept .zero).trans (kept ⟨List.replicate 8 1, rfl⟩).symm) (by decide)
  · rintro ⟨enough, verf⟩ uninit
    have first := uninit.filled_of_enough (v := res.verifierBytes.take len) (by omega)
    rw [List.take_take, Nat.min_eq_left enough, start, ← verf] at first
    exact Verifier.eq_of_data first

/-- A WRITE result reads back from the C bytes exactly when its words repeat. -/
theorem Csuite.WRITE3resokT.accepted_iff (res : WRITE3resokT) :
    (∀ uninit : Verifier, Accepts (WRITE3resok.deserialize { verf := uninit }) (be32 0) res.wire
      (·.visible = res.shown)) ↔ res.Repeats := by
  constructor
  · intro accepts
    have agree := res.flags_agree (accepts .zero)
    by_cases check : res.fileWcc.before.check = 0
    · exact absurd accepts (res.misread_absent check (by simpa [check] using agree))
    · have follow := agree.mp check
      simp only [res.accepts_present (if_pos check) (if_pos follow) rfl] at accepts
      obtain ⟨inside, repeats, count, committed, _⟩ := accepts .zero
      obtain ⟨enough, verf⟩ := (res.filled_iff _).mp fun uninit => (accepts uninit).2.2.2.2
      rw [repeats] at inside count committed enough verf
      refine ⟨check, follow, repeats, ?_, ?_, enough, inside, ?_⟩
      · simpa [repeatedFattr3] using count.symm
      · exact congrArg StableHow.mk committed.symm
      · simpa [repeatedFattr3, Nfstime3.wire] using verf
  · rintro ⟨check, follow, repeats, count, committed, enough, inside, verf⟩ uninit
    rw [res.accepts_present (if_pos check) (if_pos follow) rfl]
    have filled := (res.filled_iff res.fileWcc.before.attributes.mtime.seconds.toNat).mpr
      ⟨enough, by rw [verf, repeats]; simp [repeatedFattr3, Nfstime3.wire]⟩ uninit
    refine ⟨?_, repeats, ?_, ?_, ?_⟩
    · rw [repeats]
      exact inside
    · rw [repeats, count]
      simp [repeatedFattr3]
    · rw [repeats, committed]
      rfl
    · rw [repeats]
      exact filled

theorem Csuite.READ3resT_misread (res : Csuite.ResT READ3resokT) (formed : ProcNum.READ.WellFormedRes res)
    (success : res.status = .NFS3_OK) :
    ¬ Interoperates .READ (xdrPackREAD3res res) READ3resok.visible res.resok.message := by
  have accepted := @interoperates_iff _ .READ _ READ3resok.visible res.resok.message _
    (fun _ => READ3resok.deserialize {})
    (fun _ _ => success_emits res formed.1 success (READ3resokT.pack_emits _ formed.2)) fun _ _ => rfl
  intro interoperates
  exact res.resok.misread (accepted.mp interoperates .zero)

theorem Csuite.COMMIT3resT_misread (res : Csuite.ResT COMMIT3resokT)
    (formed : ProcNum.COMMIT.WellFormedRes res) (success : res.status = .NFS3_OK) :
    ¬ Interoperates .COMMIT (xdrPackCOMMIT3res res) COMMIT3resok.visible res.resok.message := by
  have accepted := @interoperates_iff _ .COMMIT _ COMMIT3resok.visible res.resok.message _
    (fun uninit => COMMIT3resok.deserialize { verf := uninit })
    (fun _ _ => success_emits res formed.1 success (COMMIT3resokT.pack_emits _)) fun _ _ => rfl
  intro interoperates
  exact res.resok.misread (accepted.mp interoperates)

theorem Csuite.WRITE3resT_read_iff (res : WRITE3resT) (formed : res.WellFormed)
    (success : res.status = .NFS3_OK) :
    Interoperates .WRITE (xdrPackWRITE3res res) WRITE3resok.visible res.resok.shown ↔ res.resok.Repeats := by
  have present : res.status = .NFS3_OK ∧ res.hasResok ≠ 0 := ⟨success, formed.mp success⟩
  have emits : ∀ pos depth, Emits (writing pos depth) (xdrPackWRITE3res res) () (be32 0 ++ res.resok.wire) := by
    intro pos depth
    rw [xdrPackWRITE3res, if_pos present, success]
    exact .bind (xdrPackUint32_emits _) (WRITE3resokT.pack_emits _)
  have accepted := @interoperates_iff _ .WRITE _ WRITE3resok.visible res.resok.shown _
    (fun uninit => WRITE3resok.deserialize { verf := uninit }) emits fun _ _ => rfl
  exact accepted.trans res.resok.accepted_iff

/-- The C++ suite reads no READ or COMMIT result of the C suite, and a WRITE result only when its words repeat. -/
theorem io_results_interoperate_iff (read : Csuite.ResT READ3resokT) (write : WRITE3resT)
    (commit : Csuite.ResT COMMIT3resokT) :
    (ProcNum.READ.WellFormedRes read → read.status = .NFS3_OK →
      ¬ Interoperates .READ (xdrPackREAD3res read) READ3resok.visible read.resok.message) ∧
    (write.WellFormed → write.status = .NFS3_OK →
      (Interoperates .WRITE (xdrPackWRITE3res write) WRITE3resok.visible write.resok.shown ↔
        write.resok.Repeats)) ∧
    (ProcNum.COMMIT.WellFormedRes commit → commit.status = .NFS3_OK →
      ¬ Interoperates .COMMIT (xdrPackCOMMIT3res commit) COMMIT3resok.visible commit.resok.message) :=
  ⟨READ3resT_misread read, WRITE3resT_read_iff write, COMMIT3resT_misread commit⟩

/-- The words of this result repeat after seven words. -/
def repeatingWrite : WRITE3resT :=
  let prior : WccAttr := ⟨hyper 1 2, ⟨8, 3⟩, ⟨4, 5⟩⟩
  { status := .NFS3_OK
    hasResok := 1
    resok := ⟨⟨⟨1, prior⟩, ⟨1, repeatedFattr3 prior⟩⟩, 1, ⟨2⟩, ⟨be32 3 ++ be32 4, rfl⟩⟩ }

theorem io_results_interoperate_small :
    ¬ Interoperates .READ (xdrPackREAD3res ⟨.NFS3_OK, 1, {}⟩) READ3resok.visible
        (READ3resokT.message {}) ∧
      Interoperates .WRITE (xdrPackWRITE3res repeatingWrite) WRITE3resok.visible
        repeatingWrite.resok.shown ∧
      ¬ Interoperates .COMMIT (xdrPackCOMMIT3res ⟨.NFS3_OK, 1, {}⟩) COMMIT3resok.visible
        (COMMIT3resokT.message {}) := by
  obtain ⟨reads, writes, commits⟩ :=
    io_results_interoperate_iff ⟨.NFS3_OK, 1, {}⟩ repeatingWrite ⟨.NFS3_OK, 1, {}⟩
  refine ⟨?_, ?_, ?_⟩
  · exact reads ⟨by decide, Ptr.noConfusion, fun positive => absurd rfl positive⟩ rfl
  · exact (writes (by unfold WRITE3resT.WellFormed; decide) rfl).mpr (by
      unfold WRITE3resokT.Repeats; decide)
  · exact commits ⟨by decide, trivial⟩ rfl

/-- An empty READ result at the start of a file leaves the C++ decoder four bytes short. -/
theorem empty_read_misread : ProcNum.READ.WellFormedRes (⟨.NFS3_OK, 1, {}⟩ : Csuite.ResT READ3resokT) ∧
    ¬ Interoperates .READ (xdrPackREAD3res ⟨.NFS3_OK, 1, {}⟩) READ3resok.visible (READ3resokT.message {}) := by
  have formed : ProcNum.READ.WellFormedRes (⟨.NFS3_OK, 1, {}⟩ : Csuite.ResT READ3resokT) :=
    ⟨by decide, Ptr.noConfusion, fun positive => absurd rfl positive⟩
  exact ⟨formed, READ3resT_misread _ formed rfl⟩

end Nfs3Rpc
