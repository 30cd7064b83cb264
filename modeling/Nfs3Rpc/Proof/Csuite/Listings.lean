import Nfs3Rpc.Proof.Csuite.Chains

namespace Nfs3Rpc.Csuite
open Encoding

variable {ε ρ ok : Type} {b : Bytes} {garbage : UInt32 → Prop} {depth pos size : Nat}
    {flagAt : Bytes → Nat → Nat}
  {fields : Run ε} {unpack : Nat → Run (List ε)}

/-- The cursor moves forward, and past a word that is there. -/
structure Forward (skips : Bytes → Nat → Nat) : Prop where
  stays : ∀ b pos, pos ≤ skips b pos
  word : ∀ b pos, pos + 4 ≤ b.length → pos + 4 ≤ skips b pos

theorem skip_forward {count : Nat} : ∀ b pos, pos ≤ skip count b pos := by
  intro b pos
  unfold skip
  split <;> omega

theorem skip_cases (count : Nat) (b : Bytes) (pos : Nat) :
    (pos + count ≤ b.length ∧ skip count b pos = pos + count) ∨
      (¬ pos + count ≤ b.length ∧ skip count b pos = pos) := by
  by_cases inside : pos + count ≤ b.length
  · exact .inl ⟨inside, skip_enough inside⟩
  · exact .inr ⟨inside, skip_missing inside⟩

theorem skipWord_forward : Forward (skip 4) :=
  ⟨skip_forward, fun _ _ inside => Nat.le_of_eq (skip_enough inside).symm⟩

theorem skipOpaque_forward : Forward skipOpaque := by
  constructor
  · intro b pos
    unfold skipOpaque
    split
    · omega
    · exact skip_forward b pos
  · intro b pos inside
    unfold skipOpaque
    split
    · omega
    · exact skipWord_forward.word b pos inside

theorem skipFattr3_forward (b : Bytes) (pos : Nat) : pos ≤ skipFattr3 b pos := by
  have moves : ∀ (counts : List Nat) pos, pos ≤ counts.foldl (fun pos count => skip count b pos) pos := by
    intro counts
    induction counts with
    | nil => exact Nat.le_refl
    | cons count counts recurse => exact fun pos => (skip_forward b pos).trans (recurse _)
  exact moves _ pos

/-- What follows a flag starts behind it. -/
theorem flagged_forward {skips : Bytes → Nat → Nat} (moves : ∀ b pos, pos ≤ skips b pos) :
    Forward fun b pos => if FlagSet b pos then skips b (pos + 4) else skip 4 b pos := by
  constructor
  · intro b pos
    have inner := moves b (pos + 4)
    have word := @skip_forward 4 b pos
    split <;> omega
  · intro b pos inside
    have inner := moves b (pos + 4)
    have word := skipWord_forward.word b pos inside
    split <;> omega

theorem skipPostOpAttr_forward : Forward skipPostOpAttr := flagged_forward skipFattr3_forward

theorem skipPostOpFh3_forward : Forward skipPostOpFh3 := flagged_forward skipOpaque_forward.stays

/-- This part of an entry stands before its presence word. -/
def entry3Fields : Run Entry3T := do
  let fileid ← into 0 xdrUnpackUint64
  let name ← into .null xdrUnpackCstring
  let cookie ← into 0 xdrUnpackUint64
  return { fileid, name, cookie }

theorem entry3Decoder : EntryDecoder entry3Flag 24 entry3Fields fun level => xdrUnpackEntry3 level {} [] where
  empty := rfl
  step := by
    intro level
    simp only [xdrUnpackEntry3, entry3Fields, bind_assoc, pure_bind]
  walks := by
    intro b garbage depth pos name
    exact .field (intoUint64_walks _) fun _ => .field (intoCstring_walks _ name) fun _ =>
      .field (intoUint64_walks _) fun _ => .pure trivial
  hangs := by
    intro b garbage depth pos long
    apply Hangs.after (intoUint64_walks _)
    intro _ _
    exact NeverReturns.bind (intoCstring_hangs _ long)
  later := by
    intro b pos
    exact (skip_forward b pos).trans ((skipOpaque_forward.stays b _).trans (skip_forward b _))
  apart := by
    intro b pos room
    have name := skipOpaque_forward.stays b (skip 8 b pos)
    have length := skipOpaque_forward.word b (skip 8 b pos)
    unfold entry3Flag at room ⊢
    rcases skip_cases 8 b pos with fileid | fileid <;>
      rcases skip_cases 8 b (skipOpaque b (skip 8 b pos)) with cookie | cookie <;> omega

def entryplus3Fields : Run Entryplus3T := do
  let fileid ← into 0 xdrUnpackUint64
  let name ← into .null xdrUnpackCstring
  let cookie ← into 0 xdrUnpackUint64
  let nameAttributes ← xdrUnpackPostOpAttr {}
  let hasHandle ← uninitialized
  let hasHandle ← into hasHandle.toInt32 xdrUnpackBool
  let nameHandle ← if hasHandle ≠ 0 then xdrUnpackNfsFh3 {} else pure {}
  return { fileid, name, cookie, nameHandle, nameAttributes }

theorem entryplus3Decoder :
    EntryDecoder entryplus3Flag 28 entryplus3Fields fun level => xdrUnpackEntryplus3 level {} [] where
  empty := rfl
  step := by
    intro level
    simp only [xdrUnpackEntryplus3, entryplus3Fields, bind_assoc, pure_bind]
    refine bind_congr fun fileid => bind_congr fun name => bind_congr fun cookie => bind_congr fun attributes =>
      bind_congr fun word => bind_congr fun hasHandle => ?_
    split <;> simp only [bind_assoc, pure_bind]
  walks := by
    intro b garbage depth pos name
    exact .field (intoUint64_walks _) fun _ => .field (intoCstring_walks _ name) fun _ =>
      .field (intoUint64_walks _) fun _ => .field (xdrUnpackPostOpAttr_walks rfl) fun _ =>
      unpackHandle_walks Ptr.noConfusion fun _ => .pure trivial
  hangs := by
    intro b garbage depth pos long
    apply Hangs.after (intoUint64_walks _)
    intro _ _
    exact NeverReturns.bind (intoCstring_hangs _ long)
  later := by
    intro b pos
    exact (skip_forward b pos).trans ((skipOpaque_forward.stays b _).trans ((skip_forward b _).trans
      ((skipPostOpAttr_forward.stays b _).trans (skipPostOpFh3_forward.stays b _))))
  apart := by
    intro b pos room
    have name := skipOpaque_forward.stays b (skip 8 b pos)
    have length := skipOpaque_forward.word b (skip 8 b pos)
    unfold entryplus3Flag at room ⊢
    have attributes := skipPostOpAttr_forward.stays b (skip 8 b (skipOpaque b (skip 8 b pos)))
    have follow := skipPostOpAttr_forward.word b (skip 8 b (skipOpaque b (skip 8 b pos)))
    have handle := skipPostOpFh3_forward.stays b (skipPostOpAttr b (skip 8 b (skipOpaque b (skip 8 b pos))))
    have present := skipPostOpFh3_forward.word b (skipPostOpAttr b (skip 8 b (skipOpaque b (skip 8 b pos))))
    rcases skip_cases 8 b pos with fileid | fileid <;>
      rcases skip_cases 8 b (skipOpaque b (skip 8 b pos)) with cookie | cookie <;> omega

theorem announced_nil {flag : Nat} : Announced flagAt size b flag ([] : List ε) :=
  ⟨Nat.zero_le _, List.forall_mem_nil _⟩

/-- The list is read whole when its presence words are there, and the rest of it is one more flag. -/
theorem EntryDecoder.listing_walks (decoder : EntryDecoder flagAt size fields unpack) (positive : 0 < size)
    {next : List ε → Run ρ} {result : ρ → Prop} (listed : Listed flagAt b pos)
    (rest : ∀ garbage depth stop entries, Announced flagAt size b pos entries →
      Walks b garbage depth (next entries) stop (skip 4 b stop) result) :
    ∃ enough, ∀ garbage depth, enough ≤ depth → ∃ stop, Walks b garbage depth (do
      let has ← uninitialized
      let has ← into has.toInt32 xdrUnpackBool
      let entries ← if has ≠ 0 then do
          let level ← callDepth
          unpack level
        else
          pure []
      next entries) pos stop result := by
  obtain ⟨inside, chain⟩ := listed
  by_cases zero : wordAt b pos = 0
  · refine ⟨0, fun garbage depth _ => ⟨skip 4 b (pos + 4), ?_⟩⟩
    apply Walks.bind uninitialized_walks
    intro word _
    apply Walks.bind (intoBool_walks _)
    intro has read
    rw [if_pos inside] at read
    rw [if_neg fun set => read.mp set zero, skip_enough inside]
    exact rest garbage depth _ [] announced_nil
  · obtain ⟨count, room, words, returns⟩ := decoder.returns_of_linked (chain zero)
    refine ⟨count + 1, fun garbage depth enough => ?_⟩
    obtain ⟨stop, walks⟩ := returns garbage depth depth enough
    refine ⟨skip 4 b stop, ?_⟩
    apply Walks.bind uninitialized_walks
    intro word _
    apply Walks.bind (intoBool_walks _)
    intro has read
    rw [if_pos inside] at read
    rw [if_pos (read.mpr zero), skip_enough inside]
    apply Walks.bind callDepth_walks
    intro level same
    subst same
    apply Walks.bind walks
    intro entries length
    apply rest
    rw [Announced, length, Nat.add_sub_cancel]
    refine ⟨(Nat.le_div_iff_mul_le positive).mpr ?_, words⟩
    rw [Nat.mul_comm]
    omega

theorem EntryDecoder.listing_hangs (decoder : EntryDecoder flagAt size fields unpack) {next : List ε → Run ρ}
    (broken : ¬ Listed flagAt b pos) :
    Hangs b (· = 1) depth (do
      let has ← uninitialized
      let has ← into has.toInt32 xdrUnpackBool
      let entries ← if has ≠ 0 then do
          let level ← callDepth
          unpack level
        else
          pure []
      next entries) pos := by
  apply Hangs.after uninitialized_walks
  intro word one
  subst one
  apply Hangs.after (intoBool_walks _)
  intro has read
  by_cases inside : pos + 4 ≤ b.length
  · rw [if_pos inside] at read
    have set : wordAt b pos ≠ 0 := fun zero => broken ⟨inside, fun set => absurd zero set⟩
    rw [if_pos (read.mpr set), skip_enough inside]
    apply Hangs.after callDepth_walks
    intro level _
    exact NeverReturns.bind (decoder.hangs_of_broken level fun linked => broken ⟨inside, fun _ => linked⟩)
  · rw [if_neg inside] at read
    have set : has ≠ 0 := by
      rw [read]
      decide
    rw [if_pos set, skip_missing inside]
    apply Hangs.after callDepth_walks
    intro level _
    exact NeverReturns.bind (decoder.hangs_of_broken level (decoder.broken_of_missing inside))

/-- The decoder of a whole `resok` returns exactly when the presence words are there. -/
structure ListingDecoder (flagAt : Bytes → Nat → Nat) (size : Nat) (unpackOk : Run ok) (entries : ok → List ε) :
    Prop where
  returns : ∀ {b pos}, Listed flagAt b (entriesFlag b pos) → ∃ enough, ∀ garbage depth, enough ≤ depth →
    ∃ stop, Walks b garbage depth unpackOk pos stop fun resok =>
      Announced flagAt size b (entriesFlag b pos) (entries resok)
  hangs : ∀ {b depth pos}, ¬ Listed flagAt b (entriesFlag b pos) → Hangs b (· = 1) depth unpackOk pos

/-- Both results have the attributes and the verifier before the list. -/
theorem ListingDecoder.of_list {δ : Type} {list : Run δ} {build : PostOpAttrT → UInt64 → δ → ok}
    {inner : δ → List ε}
    {entries : ok → List ε}
    (built : ∀ attributes cookieverf dl, entries (build attributes cookieverf dl) = inner dl)
    (returns : ∀ {b pos}, Listed flagAt b pos → ∃ enough, ∀ garbage depth, enough ≤ depth →
      ∃ stop, Walks b garbage depth list pos stop fun dl => Announced flagAt size b pos (inner dl))
    (hangs : ∀ {b depth pos}, ¬ Listed flagAt b pos → Hangs b (· = 1) depth list pos) :
    ListingDecoder flagAt size (do
      let attributes ← xdrUnpackPostOpAttr {}
      let cookieverf ← into 0 xdrUnpackUint64
      let dl ← list
      return build attributes cookieverf dl) entries where
  returns := by
    intro b pos listed
    obtain ⟨enough, walks⟩ := returns listed
    refine ⟨enough, fun garbage depth deep => ?_⟩
    obtain ⟨stop, reads⟩ := walks garbage depth deep
    refine ⟨stop, .field (xdrUnpackPostOpAttr_walks rfl) fun _ => .field (intoUint64_walks _) fun _ => ?_⟩
    apply Walks.bind reads
    intro dl announced
    apply Walks.pure
    rw [built]
    exact announced
  hangs := by
    intro b depth pos broken
    apply Hangs.after (xdrUnpackPostOpAttr_walks rfl)
    intro _ _
    apply Hangs.after (intoUint64_walks _)
    intro _ _
    exact NeverReturns.bind (hangs broken)

theorem READDIR3resokT.unpack_listing :
    ListingDecoder entry3Flag 24 (READDIR3resokT.unpack {}) fun resok => resok.reply.entries :=
  .of_list (fun _ _ _ => rfl)
    (fun listed => entry3Decoder.listing_walks (by decide) listed fun _ _ _ _ announced =>
      .bind (intoBool_walks _) fun _ _ => .pure announced)
    fun broken => entry3Decoder.listing_hangs broken

theorem READDIRPLUS3resokT.unpack_listing :
    ListingDecoder entryplus3Flag 28 (READDIRPLUS3resokT.unpack {}) fun resok => resok.reply.entries :=
  .of_list (fun _ _ _ => rfl)
    (fun listed => entryplus3Decoder.listing_walks (by decide) listed fun _ _ _ _ announced =>
      .bind (intoBool_walks _) fun _ _ => .pure announced)
    fun broken => entryplus3Decoder.listing_hangs broken

theorem entry3Destroy_walks (entries : List Entry3T) (owned : ∀ e ∈ entries, e.name.Owned) :
    Walks b garbage depth (entry3Destroy entries) pos pos fun _ => True := by
  induction entries with
  | nil => exact .pure trivial
  | cons e entries recurse =>
      apply Walks.bind (free_walks (owned e List.mem_cons_self))
      intro _ _
      exact recurse fun other member => owned other (List.mem_cons_of_mem e member)

theorem entryplus3Destroy_walks (entries : List Entryplus3T)
    (owned : ∀ e ∈ entries, e.name.Owned ∧ e.nameHandle.Owned) :
    Walks b garbage depth (entryplus3Destroy entries) pos pos fun _ => True := by
  induction entries with
  | nil => exact .pure trivial
  | cons e entries recurse =>
      apply Walks.bind (free_walks (owned e List.mem_cons_self).1)
      intro _ _
      apply Walks.bind (nfsFh3Destroy_walks (owned e List.mem_cons_self).2)
      intro _ _
      exact recurse fun other member => owned other (List.mem_cons_of_mem e member)

theorem READDIR3resokT.destroy_walks {res : READDIR3resokT} (owned : ∀ e ∈ res.reply.entries, e.name.Owned) :
    Walks b garbage depth res.destroy pos pos (· = {}) :=
  .bind (entry3Destroy_walks _ owned) fun _ _ => .pure rfl

theorem READDIRPLUS3resokT.destroy_walks {res : READDIRPLUS3resokT}
    (owned : ∀ e ∈ res.reply.entries, e.name.Owned ∧ e.nameHandle.Owned) :
    Walks b garbage depth res.destroy pos pos (· = {}) :=
  .bind (entryplus3Destroy_walks _ owned) fun _ _ => .pure rfl

/-- The word of a failed status hides the `resok`. -/
theorem ResT.unpack_failed {unpackOk : ok → Run ok} {res : ResT ok} (inside : 4 ≤ b.length)
    (failed : wordAt b 0 ≠ 0) :
    Walks b garbage depth (ResT.unpack unpackOk res) 0 4 fun got => got.resok = res.resok := by
  apply Walks.bind uninitialized_walks
  intro word _
  apply Walks.bind (intoWord_walks word)
  intro status same
  rw [if_pos (by omega)] at same
  subst same
  rw [skip_enough (by omega)]
  have other : ¬ (⟨wordAt b 0⟩ : Nfsstat3) = .NFS3_OK := fun same => failed (congrArg Nfsstat3.code same)
  simp only [other, if_false]
  exact .pure rfl

theorem ResT.unpack_succeeded {unpackOk : ok → Run ok} {res : ResT ok} {stop : Nat} (result : ok → Prop)
    (inside : 4 ≤ b.length) (zero : wordAt b 0 = 0)
    (walks : Walks b garbage depth (unpackOk res.resok) 4 stop result) :
    Walks b garbage depth (ResT.unpack unpackOk res) 0 stop fun got => result got.resok := by
  apply Walks.bind uninitialized_walks
  intro word _
  apply Walks.bind (intoWord_walks word)
  intro status same
  rw [if_pos (by omega), zero] at same
  subst same
  rw [skip_enough (by omega)]
  exact .bind walks fun _ holds => .pure holds

/-- A status local that holds zero takes the place of a missing status. -/
theorem ResT.unpack_hangs {unpackOk : ok → Run ok} {res : ResT ok} {stack : Nat → UInt32} (first : stack 0 = 0)
    (later : ∀ index, stack (index + 1) = 1) (zero : 4 ≤ b.length → wordAt b 0 = 0)
    (hangs : Hangs b (· = 1) depth (unpackOk res.resok) (skip 4 b 0)) (got : ResT ok) (last : Machine) :
    ResT.unpack unpackOk res ⟨⟨b, 0⟩, stack, depth⟩ ≠ .ok got last := by
  have declares : uninitialized ⟨⟨b, 0⟩, stack, depth⟩ =
    .ok 0 ⟨⟨b, 0⟩, fun index => stack (index + 1), depth⟩ := by
    rw [← first]
    rfl
  have stands : Stands b (· = 1) depth 0 ⟨⟨b, 0⟩, fun index => stack (index + 1), depth⟩ :=
    ⟨rfl, later, rfl⟩
  rw [ResT.unpack, bind_of_ok declares]
  refine Hangs.after (intoWord_walks 0) ?_ _ stands got last
  intro status same
  have succeeded : status = 0 := by
    rw [same]
    split
    · exact zero (by omega)
    · rfl
  subst succeeded
  exact NeverReturns.bind hangs

theorem entriesFlag_forward (b : Bytes) (pos : Nat) : pos ≤ entriesFlag b pos :=
  (skipPostOpAttr_forward.stays b pos).trans (skip_forward b _)

/-- The result decoder adds the status, which is one more word that may be missing. -/
theorem ResT.endsWithin_iff {okDestroy unpackOk : ok → Run ok} {fresh : ok} {entries : ok → List ε}
    (dest : ResT ok) (blank : entries fresh = [])
    (destroys : ∀ {b garbage depth}, Walks b garbage depth (okDestroy dest.resok) 0 0 (· = fresh))
    (untouched : Untouched (okDestroy dest.resok) (· = fresh))
    (decoder : ListingDecoder flagAt size (unpackOk fresh) entries) :
    EndsWithin (ResT.unpackFresh okDestroy unpackOk dest) (fun res => entries res.resok) flagAt size b ↔
      PresenceInside flagAt b := by
  constructor
  · intro ends
    by_contra outside
    obtain ⟨enough, returns⟩ := ends fun index => if index = 0 then 0 else 1
    obtain ⟨res, last, runs, _⟩ := returns enough (Nat.le_refl enough)
    obtain ⟨resok, middle, destroyed, unpacks⟩ := ok_of_bind_ok runs
    obtain ⟨rfl, rfl⟩ := untouched _ resok middle destroyed
    have broken : (4 ≤ b.length → wordAt b 0 = 0) ∧ ¬ Listed flagAt b (entriesFlag b (skip 4 b 0)) := by
      by_cases inside : 4 ≤ b.length
      · rw [skip_enough (by omega)]
        by_cases zero : wordAt b 0 = 0
        · exact ⟨fun _ => zero, fun listed => outside ⟨inside, fun _ => listed⟩⟩
        · exact absurd ⟨inside, fun same => absurd same zero⟩ outside
      · refine ⟨fun enough => absurd enough inside, fun listed => ?_⟩
        have flag := listed.1
        have moved := entriesFlag_forward b (skip 4 b 0)
        omega
    exact ResT.unpack_hangs rfl (fun _ => rfl) broken.1 (decoder.hangs broken.2) res last unpacks
  · intro presence stack
    obtain ⟨inside, listed⟩ := presence
    by_cases zero : wordAt b 0 = 0
    · obtain ⟨enough, returns⟩ := decoder.returns (listed zero)
      refine ⟨enough, fun depth deep => ?_⟩
      obtain ⟨stop, walks⟩ := returns (fun _ => True) depth deep
      have whole : Walks b (fun _ => True) depth (ResT.unpackFresh okDestroy unpackOk dest) 0 stop fun res =>
          Announced flagAt size b (entriesFlag b 4) (entries res.resok) := by
        apply Walks.bind destroys
        intro resok same
        subst same
        exact ResT.unpack_succeeded (fun resok => Announced flagAt size b _ (entries resok)) inside zero walks
      obtain ⟨res, last, runs, _, announced⟩ :=
        whole ⟨⟨b, 0⟩, stack, depth⟩ ⟨rfl, fun _ => trivial, rfl⟩
      exact ⟨res, last, runs, announced⟩
    · refine ⟨0, fun depth _ => ?_⟩
      have whole : Walks b (fun _ => True) depth (ResT.unpackFresh okDestroy unpackOk dest) 0 4 fun res =>
          res.resok = fresh :=
        .bind destroys fun _ same => (ResT.unpack_failed inside zero).weaken fun _ kept => kept.trans same
      obtain ⟨res, last, runs, _, kept⟩ := whole ⟨⟨b, 0⟩, stack, depth⟩ ⟨rfl, fun _ => trivial, rfl⟩
      refine ⟨res, last, runs, ?_⟩
      change Announced flagAt size b _ (entries res.resok)
      rw [kept, blank]
      exact announced_nil

theorem xdrUnpackREADDIR3res_ends_iff (dest : ResT READDIR3resokT) (owned : ProcNum.READDIR.OwnedRes dest) :
    EndsWithin (xdrUnpackREADDIR3res dest) (·.resok.reply.entries) entry3Flag 24 b ↔ PresenceInside entry3Flag b :=
  ResT.endsWithin_iff dest rfl (READDIR3resokT.destroy_walks owned) dest.resok.destroy_untouched
    READDIR3resokT.unpack_listing

theorem xdrUnpackREADDIRPLUS3res_ends_iff (dest : ResT READDIRPLUS3resokT)
    (owned : ProcNum.READDIRPLUS.OwnedRes dest) :
    EndsWithin (xdrUnpackREADDIRPLUS3res dest) (·.resok.reply.entries) entryplus3Flag 28 b ↔
      PresenceInside entryplus3Flag b :=
  ResT.endsWithin_iff dest rfl (READDIRPLUS3resokT.destroy_walks owned) dest.resok.destroy_untouched
    READDIRPLUS3resokT.unpack_listing

/-- A directory result is decoded in finitely many steps, with no more entries than its bytes allow, exactly
when no presence word that the decoder comes to is missing. -/
theorem directoryDecoding_ends_iff (b : Bytes) (dest : ResT READDIR3resokT) (destplus : ResT READDIRPLUS3resokT)
    (owned : ProcNum.READDIR.OwnedRes dest) (ownedplus : ProcNum.READDIRPLUS.OwnedRes destplus) :
    (EndsWithin (xdrUnpackREADDIR3res dest) (·.resok.reply.entries) entry3Flag 24 b ↔
      PresenceInside entry3Flag b) ∧
    (EndsWithin (xdrUnpackREADDIRPLUS3res destplus) (·.resok.reply.entries) entryplus3Flag 28 b ↔
      PresenceInside entryplus3Flag b) :=
  ⟨xdrUnpackREADDIR3res_ends_iff dest owned, xdrUnpackREADDIRPLUS3res_ends_iff destplus ownedplus⟩

/-- This listing has two entries with empty names. -/
def twoEntries : Bytes :=
  [be32 0, be32 0, be64 0, be32 1, be64 7, be32 0, be64 1, be32 1, be64 8, be32 0, be64 2, be32 0, be32 1].flatten

theorem directoryDecoding_ends_small :
    EndsWithin (xdrUnpackREADDIR3res ⟨⟨0⟩, 0, {}⟩) (·.resok.reply.entries) entry3Flag 24 twoEntries :=
  (directoryDecoding_ends_iff twoEntries ⟨⟨0⟩, 0, {}⟩ ⟨⟨0⟩, 0, {}⟩ (List.forall_mem_nil _)
    (List.forall_mem_nil _)).1.mpr ⟨by decide, fun _ => ⟨by decide, fun _ =>
      .more (by decide) (by decide) (.last (by decide) (by decide) (by decide))⟩⟩

/-- The buffer ends where the first entry should start. -/
def cutListing : Bytes := [be32 0, be32 0, be64 0, be32 1].flatten

theorem cutListing_outside {flagAt : Bytes → Nat → Nat}
    (missing : ¬ flagAt cutListing 20 + 4 ≤ cutListing.length) :
    ¬ PresenceInside flagAt cutListing := by
  intro presence
  have linked : Linked flagAt cutListing 20 := (presence.2 (by decide)).2 (by decide)
  exact missing linked.inside

theorem cut_listing_never_ends :
    ¬ EndsWithin (xdrUnpackREADDIR3res ⟨⟨0⟩, 0, {}⟩) (·.resok.reply.entries) entry3Flag 24 cutListing ∧
      ¬ EndsWithin (xdrUnpackREADDIRPLUS3res ⟨⟨0⟩, 0, {}⟩) (·.resok.reply.entries) entryplus3Flag 28
        cutListing := by
  constructor
  · intro ends
    have presence := (xdrUnpackREADDIR3res_ends_iff ⟨⟨0⟩, 0, {}⟩ (List.forall_mem_nil _)).mp ends
    exact cutListing_outside (by decide) presence
  · intro ends
    have presence := (xdrUnpackREADDIRPLUS3res_ends_iff ⟨⟨0⟩, 0, {}⟩ (List.forall_mem_nil _)).mp ends
    exact cutListing_outside (by decide) presence

end Nfs3Rpc.Csuite
