import Nfs3Rpc.Format.Csuite.Server
import Nfs3Rpc.Proof.Csuite.Handles

namespace Nfs3Rpc.Csuite.Server
open Encoding

variable {ok : Type} {b : Bytes} {garbage : UInt32 → Prop} {depth pos stop : Nat} {word : UInt32}

theorem opaqueAt_length (whole : HoldsOpaque b pos) : (opaqueAt b pos).length = (wordAt b pos).toNat := by
  have inside := whole.2
  rw [opaqueAt, List.length_take_of_le]
  rw [List.length_drop]
  omega

/-- A whole opaque comes out with its own bytes. -/
theorem xdrUnpackOpaque_slice (data : Ptr) (len : UInt32) (whole : HoldsOpaque b pos) :
    Walks b garbage depth (xdrUnpackOpaque data len) pos (skipOpaque b pos)
      (· = (true, .block (opaqueAt b pos), wordAt b pos)) := by
  have last : skipOpaque b pos = skip (wordAt b pos).toNat b (skip 4 b pos) + padding (wordAt b pos).toNat := by
    rw [skipOpaque, if_pos whole, skip_enough whole.1, skip_enough whole.2]
  rw [last]
  apply Walks.bind xdrUnpackUint32_walks
  intro found same
  subst same
  rw [if_pos whole.1]
  apply Walks.bind (fetch_walks _)
  intro bytes same
  subst same
  rw [skip_enough whole.1, if_pos whole.2]
  apply Walks.bind (skipPadding_walks _)
  intro _ _
  exact .pure rfl

theorem xdrUnpackNfsFh3_slice {fh : NfsFh3T} (owned : fh.Owned) (whole : HoldsOpaque b pos) :
    Walks b garbage depth (xdrUnpackNfsFh3 fh) pos (skipOpaque b pos)
      (· = ⟨.block (opaqueAt b pos), wordAt b pos, wordAt b pos⟩) := by
  apply Walks.bind uninitialized_walks
  intro len _
  apply Walks.bind (xdrUnpackOpaque_slice .wild len whole)
  rintro _ rfl
  apply Walks.bind (nfsFh3Destroy_walks owned)
  intro _ _
  exact .pure rfl

/-- The handle has exactly these bytes in its block. -/
inductive Carries : NfsFh3T → Bytes → Prop
  | none : Carries {} []
  | some {data : Bytes} {len : UInt32} (length : data.length = len.toNat) : Carries ⟨.block data, len, len⟩ data

theorem Carries.owned {object : NfsFh3T} {data : Bytes} (carries : Carries object data) : object.Owned := by
  cases carries with
  | none => exact Ptr.noConfusion
  | some length => exact Ptr.noConfusion

theorem handleOf_owned (data : Bytes) : (handleOf data).Owned := by
  by_cases empty : data = [] <;> simp [handleOf, empty, NfsFh3T.Owned, Ptr.Owned]

/-- The caller gets a copy of the handle in its own place. -/
theorem nfsFh3Set_copies {fh object : NfsFh3T} {data : Bytes} (owned : fh.Owned) (carries : Carries object data) :
    Walks b garbage depth (nfsFh3Set fh object.data object.len) pos pos (· = handleOf data) := by
  apply Walks.bind (free_walks owned)
  intro _ _
  cases carries with
  | none => exact .pure rfl
  | @some data len length =>
      by_cases positive : len > 0
      · have full : data ≠ [] := by
          intro empty
          rw [empty, List.length_nil] at length
          have zero : len = 0 := UInt32.toNat_inj.mp length.symm
          rw [zero] at positive
          exact absurd positive (by decide)
        rw [if_pos positive]
        apply Walks.bind (readBlock_walks (Nat.le_of_eq length.symm))
        intro copied same
        apply Walks.pure
        rw [same, handleOf, if_neg full, ← length, List.take_length, length, UInt32.ofNat_toNat]
      · have zero : len = 0 := by simpa using positive
        have empty : data = [] := List.eq_nil_of_length_eq_zero (by rw [length, zero]; rfl)
        rw [if_neg positive, empty]
        exact .pure rfl

theorem accepted_iff : (⟨word⟩ : Nfsstat3) = .NFS3_OK ↔ word = 0 := by
  constructor
  · exact Nfsstat3.mk.inj
  · exact congrArg Nfsstat3.mk

theorem setOut_walks {outFh : Option NfsFh3T} {object : NfsFh3T} {data : Bytes} (owned : ∀ fh ∈ outFh, fh.Owned)
    (carries : Carries object data) :
    Walks b garbage depth (setOut ⟨word⟩ outFh object) pos pos
      (· = if word = 0 then outFh.map fun _ => handleOf data else outFh) := by
  cases outFh with
  | none =>
      apply Walks.pure
      split <;> rfl
  | some fh =>
      by_cases zero : word = 0
      · rw [setOut, if_pos (accepted_iff.mpr zero), if_pos zero]
        apply Walks.bind (nfsFh3Set_copies (owned fh rfl) carries)
        intro copied same
        exact .pure (congrArg some same)
      · rw [setOut, if_neg fun accepted => zero (accepted_iff.mp accepted), if_neg zero]
        exact .pure rfl

/-- Whatever the local holds before, the status is this word. -/
structure Known (garbage : UInt32 → Prop) (b : Bytes) (word : UInt32) : Prop where
  inside : 4 ≤ b.length → word = wordAt b 0
  missing : ¬ 4 ≤ b.length → ∀ prior, garbage prior → word = prior

theorem unpackStatus_walks (known : Known garbage b word) {prior : UInt32} (held : garbage prior) :
    Walks b garbage depth (into prior xdrUnpackUint32) 0 (skip 4 b 0) (· = word) := by
  apply (intoWord_walks prior).weaken
  intro found same
  rw [same]
  by_cases inside : 4 ≤ b.length
  · rw [if_pos (by omega), known.inside inside]
  · rw [if_neg (by omega), known.missing inside prior held]

theorem ResT.unpack_failed {unpackOk : ok → Run ok} {res : ResT ok} (known : Known garbage b word)
    (failed : word ≠ 0) :
    Walks b garbage depth (ResT.unpack unpackOk res) 0 (skip 4 b 0)
      fun got => got.status = ⟨word⟩ ∧ got.resok = res.resok := by
  apply Walks.bind uninitialized_walks
  intro prior held
  apply Walks.bind (unpackStatus_walks known held)
  intro found same
  have status : ¬ (⟨found⟩ : Nfsstat3) = .NFS3_OK := fun zero => failed (same ▸ Nfsstat3.mk.inj zero)
  simp only [if_neg status, ne_eq, not_true_eq_false, if_false]
  exact .pure ⟨congrArg Nfsstat3.mk same, rfl⟩

theorem ResT.unpack_accepted {unpackOk : ok → Run ok} {result : ok → Prop} (res : ResT ok)
    (known : Known garbage b 0)
    (inner : Walks b garbage depth (unpackOk res.resok) (skip 4 b 0) stop result) :
    Walks b garbage depth (ResT.unpack unpackOk res) 0 stop
      fun got => got.status = ⟨0⟩ ∧ result got.resok := by
  apply Walks.bind uninitialized_walks
  intro prior held
  apply Walks.bind (unpackStatus_walks known held)
  rintro _ rfl
  apply Walks.bind inner
  intro resok holds
  exact .pure ⟨rfl, holds⟩

/-- A result that owns memory is unpacked into zeros. -/
theorem unpackFresh_walks {okDestroy unpackOk : ok → Run ok} {zeros : ok} {result : ResT ok → Prop} (res : ResT ok)
    (clears : Walks b garbage depth (okDestroy res.resok) 0 0 (· = zeros))
    (unpacks : Walks b garbage depth (ResT.unpack unpackOk ⟨⟨0⟩, 0, zeros⟩) 0 stop result) :
    Walks b garbage depth (ResT.unpackFresh okDestroy unpackOk res) 0 stop result := by
  apply Walks.bind clears
  rintro _ rfl
  exact unpacks

def skipWccAttr (b : Bytes) (pos : Nat) : Nat := [8, 4, 4, 4, 4].foldl (fun pos count => skip count b pos) pos

def skipPreOpAttr (b : Bytes) (pos : Nat) : Nat :=
  if FlagSet b pos then skipWccAttr b (pos + 4) else skip 4 b pos

def skipWccData (b : Bytes) (pos : Nat) : Nat := skipPostOpAttr b (skipPreOpAttr b pos)

theorem xdrUnpackWccAttr_walks (attr : WccAttr) :
    Walks b garbage depth (xdrUnpackWccAttr attr) pos (skipWccAttr b pos) fun _ => True :=
  .field (intoUint64_walks _) fun _ => .field (xdrUnpackNfstime3_walks _) fun _ =>
    .field (xdrUnpackNfstime3_walks _) fun _ => .pure trivial

/-- A missing flag counts as a clear flag in a new structure. -/
theorem xdrUnpackPreOpAttr_walks {a : PreOpAttrT} (clear : a.check = 0) :
    Walks b garbage depth (xdrUnpackPreOpAttr a) pos (skipPreOpAttr b pos) fun _ => True := by
  apply Walks.bind (intoBool_walks a.check)
  intro check read
  by_cases set : FlagSet b pos
  · rw [if_pos set.1] at read
    rw [if_pos (read.mpr set.2), skip_enough set.1, skipPreOpAttr, if_pos set]
    exact .field (xdrUnpackWccAttr_walks _) fun _ => .pure trivial
  · have zero : ¬ check ≠ 0 := by
      by_cases inside : pos + 4 ≤ b.length
      · rw [if_pos inside] at read
        exact fun nonzero => set ⟨inside, read.mp nonzero⟩
      · rw [if_neg inside, clear] at read
        exact not_not.mpr read
    rw [if_neg zero, skipPreOpAttr, if_neg set]
    exact .pure trivial

theorem xdrUnpackWccData_walks {d : WccDataT} (before : d.before.check = 0) (after : d.after.follow = 0) :
    Walks b garbage depth (xdrUnpackWccData d) pos (skipWccData b pos) fun _ => True :=
  .field (xdrUnpackPreOpAttr_walks before) fun _ => .field (xdrUnpackPostOpAttr_walks after) fun _ => .pure trivial

/-- A flag that is there has the value of its word. -/
theorem intoBool_exact (prior : Int32) :
    Walks b garbage depth (into prior xdrUnpackBool) pos (skip 4 b pos)
      (· = if pos + 4 ≤ b.length then (if wordAt b pos ≠ 0 then 1 else 0) else prior) := by
  have inner : Walks b garbage depth xdrUnpackBool pos (skip 4 b pos)
      (· = if pos + 4 ≤ b.length then some (if wordAt b pos ≠ 0 then 1 else 0) else none) := by
    apply Walks.bind xdrUnpackUint32_walks
    intro found same
    apply Walks.pure
    rw [same]
    split <;> rfl
  apply Walks.bind inner
  intro found same
  apply Walks.pure
  rw [same]
  split <;> rfl

/-- The handle of a new object stands behind a flag, and so do the attributes. -/
theorem newObject_walks (inside : pos + 4 ≤ b.length) (whole : wordAt b pos ≠ 0 → HoldsOpaque b (pos + 4)) :
    ∃ stop, ∀ depth, Walks b garbage depth (NewObjectT.unpack {}) pos stop
      fun got => Carries got.object (if wordAt b pos = 0 then [] else opaqueAt b (pos + 4)) := by
  have rest : ∀ depth at' object, Walks b garbage depth (do
      let objAttributes ← xdrUnpackPostOpAttr {}
      let dirWcc ← xdrUnpackWccData {}
      return ({ objAttributes, dirWcc, object } : NewObjectT)) at' (skipWccData b (skipPostOpAttr b at'))
      fun got => got.object = object := fun _ _ _ =>
    .field (xdrUnpackPostOpAttr_walks rfl) fun _ => .field (xdrUnpackWccData_walks rfl rfl) fun _ => .pure rfl
  by_cases clear : wordAt b pos = 0
  · refine ⟨skipWccData b (skipPostOpAttr b (pos + 4)), fun depth => ?_⟩
    apply Walks.bind uninitialized_walks
    intro prior _
    apply Walks.bind (intoBool_exact _)
    intro flag same
    rw [skip_enough inside]
    rw [if_pos inside, if_neg (not_not.mpr clear)] at same
    rw [same, if_neg (by decide)]
    apply (rest depth (pos + 4) {}).weaken
    intro got object
    rw [object, if_pos clear]
    exact .none
  · have held := whole clear
    refine ⟨skipWccData b (skipPostOpAttr b (skipOpaque b (pos + 4))), fun depth => ?_⟩
    apply Walks.bind uninitialized_walks
    intro prior _
    apply Walks.bind (intoBool_exact _)
    intro flag same
    rw [skip_enough inside]
    rw [if_pos inside, if_pos clear] at same
    rw [same, if_pos (by decide)]
    apply Walks.bind (xdrUnpackNfsFh3_slice Ptr.noConfusion held)
    rintro _ rfl
    apply (rest depth _ _).weaken
    intro got object
    rw [object, if_neg clear]
    exact .some (opaqueAt_length held)

theorem lookup_walks (whole : HoldsOpaque b pos) :
    ∃ stop, ∀ depth, Walks b garbage depth (LOOKUP3resokT.unpack {}) pos stop
      fun got => Carries got.object (opaqueAt b pos) := by
  refine ⟨skipPostOpAttr b (skipPostOpAttr b (skipOpaque b pos)), fun depth => ?_⟩
  apply Walks.bind (xdrUnpackNfsFh3_slice Ptr.noConfusion whole)
  rintro _ rfl
  exact .field (xdrUnpackPostOpAttr_walks rfl) fun _ => .field (xdrUnpackPostOpAttr_walks rfl) fun _ =>
    .pure (.some (opaqueAt_length whole))

/-- What the READ decoder finds behind the status. -/
structure ReadBody (b : Bytes) (got : READ3resokT) : Prop where
  data : got.data = .block (opaqueAt b (dataPos b))
  dataLen : got.dataLen = wordAt b (dataPos b)
  eof : got.eof = if eofPos b + 4 ≤ b.length ∧ wordAt b (eofPos b) ≠ 0 then 1 else 0

/-- The READ decoder comes to its data behind the attributes, the count, and the flag. -/
theorem readData_walks {result : READ3resokT → Prop} {stop : Nat} (zero : skip 4 b 0 = 4)
    (rest : ∀ fileAttributes count len, garbage len → Walks b garbage depth (do
      let (_, data, dataLen) ← xdrUnpackOpaque .wild len
      return READ3resokT.mk fileAttributes count
        (if eofPos b + 4 ≤ b.length ∧ wordAt b (eofPos b) ≠ 0 then 1 else 0) data dataLen)
          (dataPos b) stop result) :
    Walks b garbage depth (READ3resokT.unpack {}) (skip 4 b 0) stop result := by
  rw [zero]
  apply Walks.field (xdrUnpackPostOpAttr_walks rfl)
  intro fileAttributes
  apply Walks.field (intoUint32_walks _)
  intro count
  apply Walks.bind (intoBool_exact _)
  intro eof same
  apply Walks.bind uninitialized_walks
  intro len held
  have read : eof = if eofPos b + 4 ≤ b.length then (if wordAt b (eofPos b) ≠ 0 then 1 else 0) else 0 := same
  have flag : eof = if eofPos b + 4 ≤ b.length ∧ wordAt b (eofPos b) ≠ 0 then 1 else 0 := by
    rw [read]
    by_cases inside : eofPos b + 4 ≤ b.length
    · rw [if_pos inside]
      by_cases zero : wordAt b (eofPos b) = 0 <;> simp [zero, inside]
    · rw [if_neg inside, if_neg fun held => inside held.1]
  rw [flag]
  exact rest fileAttributes count len held

theorem read_whole (zero : skip 4 b 0 = 4) (whole : HoldsOpaque b (dataPos b)) :
    ∃ stop, ∀ depth, Walks b garbage depth (READ3resokT.unpack {}) (skip 4 b 0) stop (ReadBody b) := by
  refine ⟨skipOpaque b (dataPos b), fun depth => readData_walks zero ?_⟩
  intro fileAttributes count len _
  apply Walks.bind (xdrUnpackOpaque_slice .wild len whole)
  rintro _ rfl
  exact .pure ⟨rfl, rfl, rfl⟩

/-- Data that is cut off leaves the local pointer as it was. -/
theorem read_cut (zero : skip 4 b 0 = 4) (cut : ¬ HoldsOpaque b (dataPos b)) :
    ∃ stop, ∀ depth, Walks b garbage depth (READ3resokT.unpack {}) (skip 4 b 0) stop (·.data = .wild) := by
  refine ⟨skipOpaque b (dataPos b), fun depth => readData_walks zero ?_⟩
  intro fileAttributes count len _
  apply Walks.bind (xdrUnpackOpaque_walks .wild len)
  rintro ⟨_, data, dataLen⟩ unpacked
  exact .pure (unpacked.pointer cut)

section Handles

variable {unpack : ResT ok → Run (ResT ok)} {zeros : ok} {object : ok → NfsFh3T} {destroy : ok → Run ok}
variable {outFh : Option NfsFh3T}

/-- A handle that the decoder has found goes to the caller. -/
theorem decodeHandle_walks {data : Bytes} (owned : ∀ fh ∈ outFh, fh.Owned)
    (unpacks : Walks b garbage depth (unpack ⟨⟨0⟩, 0, zeros⟩) 0 stop
      fun got => got.status = ⟨word⟩ ∧ Carries (object got.resok) data)
    (frees : ∀ resok, (object resok).Owned → Walks b garbage depth (destroy resok) stop stop fun _ => True) :
    Walks b garbage depth (decodeHandle unpack zeros object destroy outFh) 0 stop
      (· = (⟨word⟩, if word = 0 then outFh.map fun _ => handleOf data else outFh)) := by
  apply Walks.bind unpacks
  rintro ⟨status, hasResok, resok⟩ ⟨rfl, carries⟩
  apply Walks.bind (setOut_walks owned carries)
  rintro _ rfl
  exact .field (frees resok carries.owned) fun _ => .pure rfl

/-- A wild handle is not destroyed. -/
theorem decodeHandle_hangs (unpacks : Walks b garbage depth (unpack ⟨⟨0⟩, 0, zeros⟩) 0 stop
      fun got => (object got.resok).data = .wild)
    (sticks : ∀ resok, (object resok).data = .wild → NeverReturns (fun _ => True) (destroy resok)) :
    Hangs b garbage depth (decodeHandle unpack zeros object destroy outFh) 0 := by
  apply Hangs.after unpacks
  intro res wild
  apply NeverReturns.later
  intro _
  exact NeverReturns.bind (sticks res.resok wild)

end Handles

theorem nfsFh3Destroy_sticks {fh : NfsFh3T} (wild : fh.data = .wild) :
    NeverReturns (fun _ : Machine => True) (nfsFh3Destroy fh) := by
  rw [nfsFh3Destroy, wild]
  exact NeverReturns.bind NeverReturns.throw

/-- This is what a decoder does with each body: a failed call changes nothing, an accepted call is found when the rest
of its result is there, and otherwise the decoder faults or hands a wild pointer on. -/
structure Decoder {β : Type} (decode : Run (Nfsstat3 × β)) (unanswered : β) (owned : β → Prop)
    (rest : Bytes → Prop)
    (found : Bytes → β) : Prop where
  failed : ∀ {garbage b word}, Known garbage b word → word ≠ 0 →
    ∃ stop, ∀ depth, Walks b garbage depth decode 0 stop (· = (⟨word⟩, unanswered))
  accepted : ∀ {garbage b}, 4 ≤ b.length → wordAt b 0 = 0 → rest b →
    ∃ stop, ∀ depth, Walks b garbage depth decode 0 stop (· = (.NFS3_OK, found b))
  cut : ∀ {b}, 4 ≤ b.length → wordAt b 0 = 0 → ¬ rest b →
    (∀ depth, Hangs b (· = 1) depth decode 0) ∨
      ∃ stop, ∀ depth, Walks b (· = 1) depth decode 0 stop fun got => got.1 = .NFS3_OK ∧ ¬ owned got.2

theorem known_zero (inside : 4 ≤ b.length) (zero : wordAt b 0 = 0) : Known garbage b 0 :=
  ⟨fun _ => zero.symm, fun missing => absurd inside missing⟩

theorem skip_status (inside : 4 ≤ b.length) : skip 4 b 0 = 4 := skip_enough (by omega)

/-- A result with a handle is decoded as far as its status says. -/
theorem handleDecoder {okDestroy unpackOk : ok → Run ok} {outFh : Option NfsFh3T} {rest : Bytes → Prop}
    {data : Bytes → Bytes} (zeros : ok) (object : ok → NfsFh3T) (owned : ∀ fh ∈ outFh, fh.Owned)
    (empty : object zeros = {})
    (clears : ∀ {b garbage depth}, Walks b garbage depth (okDestroy zeros) 0 0 (· = zeros))
    (frees : ∀ {b garbage depth pos} resok, (object resok).Owned →
      Walks b garbage depth (okDestroy resok) pos pos fun _ => True)
    (sticks : ∀ resok, (object resok).data = .wild → NeverReturns (fun _ => True) (okDestroy resok))
    (whole : ∀ {garbage b}, rest b → ∃ stop, ∀ depth, Walks b garbage depth (unpackOk zeros) 4 stop
      fun got => Carries (object got) (data b))
    (cut : ∀ {b}, ¬ rest b →
      ∃ stop, ∀ depth, Walks b (· = 1) depth (unpackOk zeros) 4 stop fun got => (object got).data = .wild) :
    Decoder (decodeHandle (ResT.unpackFresh okDestroy unpackOk) zeros object okDestroy outFh) outFh
      (fun got => ∀ fh ∈ got, fh.Owned) rest fun b => outFh.map fun _ => handleOf (data b) where
  failed := by
    intro garbage b word known failed
    refine ⟨skip 4 b 0, fun depth => ?_⟩
    have unpacks : Walks b garbage depth (ResT.unpackFresh okDestroy unpackOk ⟨⟨0⟩, 0, zeros⟩) 0 (skip 4 b 0)
        fun got => got.status = ⟨word⟩ ∧ Carries (object got.resok) [] := by
      apply unpackFresh_walks _ clears
      apply (ResT.unpack_failed known failed).weaken
      rintro got ⟨status, resok⟩
      rw [resok, empty]
      exact ⟨status, .none⟩
    have decodes := decodeHandle_walks owned unpacks fun resok held => frees resok held
    rwa [if_neg failed] at decodes
  accepted := by
    intro garbage b inside zero held
    obtain ⟨stop, inner⟩ := @whole garbage b held
    rw [← skip_status inside] at inner
    refine ⟨stop, fun depth => ?_⟩
    have unpacks := unpackFresh_walks ⟨⟨0⟩, 0, zeros⟩ clears
      (ResT.unpack_accepted ⟨⟨0⟩, 0, zeros⟩ (known_zero inside zero) (inner depth))
    have decodes := decodeHandle_walks owned unpacks fun resok held => frees resok held
    rwa [if_pos rfl] at decodes
  cut := by
    intro b inside zero missing
    left
    intro depth
    obtain ⟨stop, wild⟩ := cut missing
    rw [← skip_status inside] at wild
    have unpacks := unpackFresh_walks ⟨⟨0⟩, 0, zeros⟩ clears
      (ResT.unpack_accepted ⟨⟨0⟩, 0, zeros⟩ (known_zero inside zero) (wild depth))
    exact decodeHandle_hangs (unpacks.weaken fun _ held => held.2) sticks

/-- A handle that is cut off has the pointer of the local, and so does a new object without its flag. -/
theorem newObject_cut (missing : ¬ (8 ≤ b.length ∧ (wordAt b 4 ≠ 0 → HoldsOpaque b 8))) :
    ∃ stop, ∀ depth, Walks b (· = 1) depth (NewObjectT.unpack {}) 4 stop (·.object.data = .wild) := by
  have flagged : ∀ (flag : Int32) (held : flag ≠ 0) (at' : Nat) (cut : ¬ HoldsOpaque b at') (depth : Nat),
      Walks b (· = 1) depth (do
        let object ← if flag ≠ 0 then xdrUnpackNfsFh3 {} else pure {}
        let objAttributes ← xdrUnpackPostOpAttr {}
        let dirWcc ← xdrUnpackWccData {}
        return ({ objAttributes, dirWcc, object } : NewObjectT)) at'
        (skipWccData b (skipPostOpAttr b (skipOpaque b at'))) (·.object.data = .wild) := by
    intro flag held at' cut depth
    rw [if_pos held]
    apply Walks.bind (xdrUnpackNfsFh3_walks Ptr.noConfusion)
    rintro object ⟨len, _, unpacked⟩
    exact .field (xdrUnpackPostOpAttr_walks rfl) fun _ => .field (xdrUnpackWccData_walks rfl rfl) fun _ =>
      .pure (unpacked.pointer cut)
  by_cases inside : 4 + 4 ≤ b.length
  · have set : wordAt b 4 ≠ 0 := fun zero => missing ⟨by omega, fun nonzero => absurd zero nonzero⟩
    have cut : ¬ HoldsOpaque b 8 := fun whole => missing ⟨by omega, fun _ => whole⟩
    refine ⟨skipWccData b (skipPostOpAttr b (skipOpaque b 8)), fun depth => ?_⟩
    apply Walks.bind uninitialized_walks
    intro prior _
    apply Walks.bind (intoBool_exact _)
    intro flag same
    rw [if_pos inside, if_pos set] at same
    rw [skip_enough inside]
    exact flagged flag (by rw [same]; decide) 8 cut depth
  · have cut : ¬ HoldsOpaque b 4 := fun whole => inside whole.1
    refine ⟨skipWccData b (skipPostOpAttr b (skipOpaque b 4)), fun depth => ?_⟩
    apply Walks.bind uninitialized_walks
    intro prior one
    apply Walks.bind (intoBool_exact _)
    intro flag same
    rw [if_neg inside] at same
    rw [skip_missing inside]
    exact flagged flag (by rw [same, one]; decide) 4 cut depth

theorem lookup_cut (cut : ¬ HoldsOpaque b pos) :
    ∃ stop, ∀ depth, Walks b (· = 1) depth (LOOKUP3resokT.unpack {}) pos stop (·.object.data = .wild) := by
  refine ⟨skipPostOpAttr b (skipPostOpAttr b (skipOpaque b pos)), fun depth => ?_⟩
  apply Walks.bind (xdrUnpackNfsFh3_walks Ptr.noConfusion)
  rintro object ⟨len, _, unpacked⟩
  exact .field (xdrUnpackPostOpAttr_walks rfl) fun _ => .field (xdrUnpackPostOpAttr_walks rfl) fun _ =>
    .pure (unpacked.pointer cut)

theorem newObjectDecoder {outFh : Option NfsFh3T} (owned : ∀ fh ∈ outFh, fh.Owned) :
    Decoder (decodeHandle (ResT.unpackFresh NewObjectT.destroy NewObjectT.unpack) {} NewObjectT.object
      NewObjectT.destroy
      outFh) outFh (fun got => ∀ fh ∈ got, fh.Owned)
      (fun b => 8 ≤ b.length ∧ (wordAt b 4 ≠ 0 → HoldsOpaque b 8))
      fun b => outFh.map fun _ => handleOf (newObject b) := by
  apply handleDecoder {} NewObjectT.object owned rfl
  · intro b garbage depth
    exact .pure rfl
  · intro b garbage depth pos resok held
    exact .field ((nfsFh3Destroy_walks held).weaken fun _ _ => trivial) fun _ => .pure trivial
  · intro resok wild
    exact NeverReturns.bind (nfsFh3Destroy_sticks wild)
  · intro garbage b rest
    exact newObject_walks rest.1 rest.2
  · intro b missing
    exact newObject_cut missing

theorem lookupDecoder {outFh : Option NfsFh3T} (owned : ∀ fh ∈ outFh, fh.Owned) :
    Decoder (decodeHandle xdrUnpackLOOKUP3res {} LOOKUP3resokT.object LOOKUP3resokT.destroy outFh) outFh
      (fun got => ∀ fh ∈ got, fh.Owned) (HoldsOpaque · 4) fun b => outFh.map fun _ => handleOf (opaqueAt b 4) := by
  apply handleDecoder {} LOOKUP3resokT.object owned rfl
  · intro b garbage depth
    exact .pure rfl
  · intro b garbage depth pos resok held
    exact .field ((nfsFh3Destroy_walks held).weaken fun _ _ => trivial) fun _ => .pure trivial
  · intro resok wild
    exact NeverReturns.bind (nfsFh3Destroy_sticks wild)
  · intro garbage b rest
    exact lookup_walks rest
  · intro b missing
    exact lookup_cut missing

/-- The result of REMOVE and of RMDIR has nothing but its status. -/
theorem removedDecoder :
    Decoder (decodeRemoved (ResT.unpack RemovedEntryT.unpack)) () (fun _ => True) (fun _ => True) fun _ => () where
  failed := by
    intro garbage b word known failed
    refine ⟨skip 4 b 0, fun depth => ?_⟩
    apply Walks.bind (ResT.unpack_failed known failed)
    rintro res ⟨status, _⟩
    exact .pure (by rw [status])
  accepted := by
    intro garbage b inside zero _
    refine ⟨skipWccData b (skip 4 b 0), fun depth => ?_⟩
    have inner : Walks b garbage depth (RemovedEntryT.unpack {}) (skip 4 b 0) (skipWccData b (skip 4 b 0))
        fun _ => True :=
      .field (xdrUnpackWccData_walks rfl rfl) fun _ => .pure trivial
    have unpacks := ResT.unpack_accepted (⟨⟨0⟩, 0, {}⟩ : ResT RemovedEntryT) (known_zero inside zero) inner
    apply Walks.bind unpacks
    rintro res ⟨status, _⟩
    exact .pure (by rw [status]; rfl)
  cut := fun _ _ missing => absurd trivial missing

theorem xdrUnpackVerifier_walks :
    Walks b garbage depth xdrUnpackVerifier pos (skip 8 b pos) fun _ => True := by
  intro machine stands
  rw [xdrUnpackVerifier, get_bind]
  by_cases space : pos + 8 ≤ b.length
  · have enough : machine.buf.pos + 8 ≤ machine.buf.data.length := by
      rw [stands.buf]
      exact space
    rw [dif_pos enough]
    refine ⟨_, _, rfl, ⟨?_, stands.garbage, stands.depth⟩, trivial⟩
    rw [skip_enough space, stands.buf]
  · have missing : ¬ machine.buf.pos + 8 ≤ machine.buf.data.length := by
      rw [stands.buf]
      exact space
    rw [dif_neg missing, skip_missing space]
    exact ⟨_, machine, rfl, stands, trivial⟩

def skipWritten (b : Bytes) (pos : Nat) : Nat := skip 8 b (skip 4 b (skip 4 b (skipWccData b pos)))

theorem WRITE3resokT.unpack_walks :
    Walks b garbage depth (WRITE3resokT.unpack {}) pos (skipWritten b pos) fun _ => True :=
  .field (xdrUnpackWccData_walks rfl rfl) fun _ => .field (intoUint32_walks _) fun _ =>
    .bind uninitialized_walks fun _ _ => .field (intoUint32_walks _) fun _ => .field xdrUnpackVerifier_walks fun _ =>
    .pure trivial

/-- The result of WRITE goes on after the status in both cases. -/
theorem writtenDecoder : Decoder decodeWritten () (fun _ => True) (fun _ => True) fun _ => () where
  failed := by
    intro garbage b word known failed
    refine ⟨skipWccData b (skip 4 b 0), fun depth => ?_⟩
    have unpacks : Walks b garbage depth (xdrUnpackWRITE3res { status := ⟨0⟩, hasResok := 0 }) 0
        (skipWccData b (skip 4 b 0)) (·.status = ⟨word⟩) := by
      apply Walks.bind uninitialized_walks
      intro prior held
      apply Walks.bind (unpackStatus_walks known held)
      intro found same
      have status : ¬ (⟨found⟩ : Nfsstat3) = .NFS3_OK := fun zero => failed (same ▸ Nfsstat3.mk.inj zero)
      simp only [if_neg status, ne_eq, not_true_eq_false, if_false]
      exact .field (xdrUnpackWccData_walks rfl rfl) fun _ => .pure (congrArg Nfsstat3.mk same)
    apply Walks.bind unpacks
    intro res status
    exact .pure (by rw [status])
  accepted := by
    intro garbage b inside zero _
    refine ⟨skipWritten b (skip 4 b 0), fun depth => ?_⟩
    have unpacks : Walks b garbage depth (xdrUnpackWRITE3res { status := ⟨0⟩, hasResok := 0 }) 0
        (skipWritten b (skip 4 b 0)) (·.status = .NFS3_OK) := by
      apply Walks.bind uninitialized_walks
      intro prior held
      apply Walks.bind (unpackStatus_walks (known_zero inside zero) held)
      rintro _ rfl
      exact .field WRITE3resokT.unpack_walks fun _ => .pure rfl
    apply Walks.bind unpacks
    intro res status
    exact .pure (by rw [status])
  cut := fun _ _ missing => absurd trivial missing

theorem READ3resokT.destroy_walks {resok : READ3resokT} (owned : resok.data.Owned) :
    Walks b garbage depth resok.destroy pos pos fun _ => True :=
  .field (free_walks owned) fun _ => .pure trivial

theorem clearData_walks : Walks b garbage depth (READ3resokT.destroy {}) 0 0 (· = {}) := .pure rfl

/-- The data of READ moves to a place of the caller, or is freed with the result. -/
theorem dataDecoder (places : ReadPlaces) :
    Decoder (decodeData places) (cleared places) (fun got => ∀ data ∈ got.data, data.Owned)
      (fun b => HoldsOpaque b (dataPos b)) fun b => filled b places where
  failed := by
    intro garbage b word known failed
    refine ⟨skip 4 b 0, fun depth => ?_⟩
    apply Walks.bind (unpackFresh_walks _ clearData_walks (ResT.unpack_failed known failed))
    rintro ⟨status, hasResok, resok⟩ ⟨rfl, rfl⟩
    rw [if_neg fun accepted => failed (accepted_iff.mp accepted)]
    exact .field (READ3resokT.destroy_walks Ptr.noConfusion) fun _ => .pure rfl
  accepted := by
    intro garbage b inside zero whole
    obtain ⟨stop, inner⟩ := @read_whole b garbage (skip_status inside) whole
    refine ⟨stop, fun depth => ?_⟩
    apply Walks.bind (unpackFresh_walks _ clearData_walks
      (ResT.unpack_accepted ⟨⟨0⟩, 0, {}⟩ (known_zero inside zero) (inner depth)))
    rintro ⟨status, hasResok, resok⟩ ⟨rfl, read⟩
    have data : resok.data = _ := read.data
    have dataLen : resok.dataLen = _ := read.dataLen
    have eof : resok.eof = _ := read.eof
    rw [if_pos (accepted_iff.mpr rfl)]
    have owned : (if places.data.isSome then Ptr.null else resok.data).Owned := by
      rw [data]
      split <;> exact Ptr.noConfusion
    apply Walks.field (READ3resokT.destroy_walks owned)
    intro _
    apply Walks.pure
    rw [filled, data, dataLen, eof]
    rfl
  cut := by
    intro b inside zero missing
    obtain ⟨stop, inner⟩ := @read_cut b (· = 1) (skip_status inside) missing
    have unpacks : ∀ depth, Walks b (· = 1) depth (xdrUnpackREAD3res ⟨⟨0⟩, 0, {}⟩) 0 stop
        fun got => got.status = ⟨0⟩ ∧ got.resok.data = .wild := by
      intro depth
      have accepted :=
        ResT.unpack_accepted (⟨⟨0⟩, 0, {}⟩ : ResT READ3resokT) (known_zero inside zero) (inner depth)
      exact unpackFresh_walks _ clearData_walks accepted
    by_cases place : places.data.isSome
    · refine .inr ⟨stop, fun depth => ?_⟩
      apply Walks.bind (unpacks depth)
      rintro ⟨status, hasResok, resok⟩ ⟨rfl, wild⟩
      have wild : resok.data = .wild := wild
      simp only [if_pos (accepted_iff.mpr rfl), if_pos place]
      apply Walks.field (READ3resokT.destroy_walks Ptr.noConfusion)
      intro _
      refine .pure ⟨rfl, fun owned => ?_⟩
      obtain ⟨prior, some⟩ := Option.isSome_iff_exists.mp place
      exact owned .wild (by rw [some, wild]; rfl) rfl
    · refine .inl fun depth => ?_
      apply Hangs.after (unpacks depth)
      rintro ⟨status, hasResok, resok⟩ ⟨rfl, wild⟩
      have wild : resok.data = .wild := wild
      simp only [if_pos (accepted_iff.mpr rfl), if_neg place, wild]
      exact NeverReturns.bind (NeverReturns.bind NeverReturns.throw)

end Nfs3Rpc.Csuite.Server
