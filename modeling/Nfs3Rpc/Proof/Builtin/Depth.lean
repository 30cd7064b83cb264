import Nfs3Rpc.Format.Recursion
import Nfs3Rpc.Proof.Builtin.XdrBuffer

namespace Nfs3Rpc
open Encoding Builtin

/-- The bytes behind the cursor are left; a cursor past the end leaves none. -/
def Builtin.XdrBuffer.left (buf : XdrBuffer) : Nat := buf.buffer.length - buf.pos

theorem fetch_spends (count : Nat) : Spends XdrBuffer.left (fetch count) 0 fun _ => count := by
  intro buf value next runs
  obtain ⟨space, _, rfl⟩ := fetch_ok runs
  simp only [XdrBuffer.left]
  omega

theorem unpackUint32_spends : Spends XdrBuffer.left unpackUint32 0 fun _ => 4 :=
  Spends.bind (fetch_spends 4) fun _ => Spends.pure (Nat.le_refl 4)

theorem unpackInt32_spends : Spends XdrBuffer.left unpackInt32 0 fun _ => 4 :=
  Spends.bind (fetch_spends 4) fun _ => Spends.pure (Nat.le_refl 4)

theorem unpackUint64_spends : Spends XdrBuffer.left unpackUint64 0 fun _ => 8 :=
  Spends.bind (fetch_spends 8) fun _ => Spends.pure (Nat.le_refl 8)

theorem unpackBool_spends : Spends XdrBuffer.left unpackBool 0 fun _ => 4 :=
  Spends.bind unpackUint32_spends fun _ => Spends.pure (Nat.le_refl 4)

/-- A skip can only lose bytes. -/
theorem skipPadding_spends (length : Nat) : Spends XdrBuffer.left (skipPadding length) 0 fun _ => 0 := by
  intro buf value next runs
  obtain ⟨_, rfl⟩ := EStateM.Result.ok.inj runs
  simp only [XdrBuffer.left]
  omega

/-- A byte string takes at least its length word. -/
theorem unpackOpaque_spends : Spends XdrBuffer.left unpackOpaque 0 fun _ => 4 := by
  apply Spends.bind unpackUint32_spends
  intro len
  apply Spends.free (fetch_spends len.toNat)
  intro data
  exact Spends.free (skipPadding_spends len.toNat) fun _ => Spends.pure (Nat.le_refl 4)

theorem unpackString_spends : Spends XdrBuffer.left unpackString 0 fun _ => 4 := unpackOpaque_spends

theorem NfsFh3.deserialize_spends : Spends XdrBuffer.left NfsFh3.deserialize 0 fun _ => 4 :=
  Spends.bind unpackOpaque_spends fun _ => Spends.pure (Nat.le_refl 4)

theorem Nfstime3.deserialize_spends : Spends XdrBuffer.left Nfstime3.deserialize 0 fun _ => 8 :=
  Spends.bind unpackUint32_spends fun _ => Spends.bind unpackUint32_spends fun _ => Spends.pure (Nat.le_refl 8)

theorem Specdata3.deserialize_spends : Spends XdrBuffer.left Specdata3.deserialize 0 fun _ => 8 :=
  Spends.bind unpackUint32_spends fun _ => Spends.bind unpackUint32_spends fun _ => Spends.pure (Nat.le_refl 8)

theorem Fattr3.deserialize_spends : Spends XdrBuffer.left Fattr3.deserialize 0 fun _ => 84 :=
  .bind unpackUint32_spends fun _ => .bind unpackUint32_spends fun _ => .bind unpackUint32_spends fun _ =>
  .bind unpackUint32_spends fun _ => .bind unpackUint32_spends fun _ => .bind unpackUint64_spends fun _ =>
  .bind unpackUint64_spends fun _ => .bind Specdata3.deserialize_spends fun _ =>
  .bind unpackUint64_spends fun _ => .bind unpackUint64_spends fun _ =>
  .bind Nfstime3.deserialize_spends fun _ => .bind Nfstime3.deserialize_spends fun _ =>
  .bind Nfstime3.deserialize_spends fun _ => .pure (Nat.le_refl 84)

/-- Attributes take at least their flag. -/
theorem PostOpAttr.deserialize_spends (self : PostOpAttr) :
    Spends XdrBuffer.left self.deserialize 0 fun _ => 4 := by
  apply Spends.bind unpackBool_spends
  intro follow
  cases follow with
  | true => exact Spends.free Fattr3.deserialize_spends fun _ => Spends.pure (Nat.le_refl 4)
  | false => exact Spends.pure (Nat.le_refl 4)

theorem unreadBytes_spends {α : Type} {next : Nat → Xdr α} {credit : Nat} {cost : α → Nat}
    (inner : ∀ unread, Spends XdrBuffer.left (next unread) credit cost) :
    Spends XdrBuffer.left (unreadBytes >>= next) credit cost := by
  intro buf value last runs
  exact inner _ buf value last runs

/-- Where no byte is left, a first read throws, whatever would follow it. -/
theorem bind_of_none_left {α β : Type} {program : Xdr α} {next other : α → Xdr β} {count : Nat} {buf : XdrBuffer}
    (first : Spends XdrBuffer.left program 0 fun _ => count) (positive : 0 < count) (none : buf.left = 0) :
    (program >>= next) buf = (program >>= other) buf := by
  cases starts : program buf with
  | ok value middle =>
      have paid : middle.left + count ≤ buf.left + 0 := first buf value middle starts
      omega
  | error error last => rw [bind_of_error starts, bind_of_error starts]

/-- The fields of an entry take 24 bytes, and what it points to takes 24 bytes for each entry. -/
theorem Entry3.deserialize_spends (unread : Nat) :
    Spends XdrBuffer.left (Entry3.deserialize unread []) 0 (24 * ·.length) := by
  induction unread with
  | zero => exact Spends.bind unpackUint64_spends fun _ => Spends.pure (by simp)
  | succ unread deeper =>
      rw [Entry3.deserialize]
      apply Spends.bind unpackUint64_spends
      intro fileid
      apply Spends.bind unpackString_spends
      intro name
      apply Spends.bind unpackUint64_spends
      intro cookie
      apply Spends.bind unpackBool_spends
      intro hasNext
      cases hasNext with
      | true =>
          apply Spends.bind deeper
          intro later
          exact Spends.pure (by simp only [List.length_cons]; omega)
      | false => exact Spends.pure (by simp)

theorem Entryplus3.deserialize_spends (unread : Nat) (self : Entryplus3) :
    Spends XdrBuffer.left (Entryplus3.deserialize unread self []) 0 (32 * ·.length) := by
  induction unread generalizing self with
  | zero => exact Spends.bind unpackUint64_spends fun _ => Spends.pure (by simp)
  | succ unread deeper =>
      rw [Entryplus3.deserialize]
      apply Spends.bind unpackUint64_spends
      intro fileid
      apply Spends.bind unpackString_spends
      intro name
      apply Spends.bind unpackUint64_spends
      intro cookie
      apply Spends.bind NfsFh3.deserialize_spends
      intro nameHandle
      apply Spends.bind self.nameAttributes.deserialize_spends
      intro nameAttributes
      apply Spends.bind unpackBool_spends
      intro hasNext
      cases hasNext with
      | true =>
          apply Spends.bind (deeper {})
          intro later
          exact Spends.pure (by simp only [List.length_cons]; omega)
      | false => exact Spends.pure (by simp)

theorem Dirlist3.deserialize_spends :
    Spends XdrBuffer.left (Dirlist3.deserialize {}) 0 (24 * ·.entries.length) := by
  apply Spends.free unpackBool_spends
  intro hasEntries
  cases hasEntries with
  | true =>
      apply unreadBytes_spends
      intro unread
      apply Spends.bind (Entry3.deserialize_spends unread)
      intro entries
      exact Spends.free unpackBool_spends fun _ => Spends.pure (by simp)
  | false =>
      show Spends XdrBuffer.left (unpackBool >>= fun eof => pure (Dirlist3.mk [] eof)) 0 _
      exact Spends.free unpackBool_spends fun _ => Spends.pure (by simp)

theorem Dirlistplus3.deserialize_spends :
    Spends XdrBuffer.left (Dirlistplus3.deserialize {}) 0 (32 * ·.entries.length) := by
  apply Spends.free unpackBool_spends
  intro hasEntries
  cases hasEntries with
  | true =>
      apply unreadBytes_spends
      intro unread
      apply Spends.bind (Entryplus3.deserialize_spends unread {})
      intro entries
      exact Spends.free unpackBool_spends fun _ => Spends.pure (by simp)
  | false =>
      show Spends XdrBuffer.left (unpackBool >>= fun eof => pure (Dirlistplus3.mk [] eof)) 0 _
      exact Spends.free unpackBool_spends fun _ => Spends.pure (by simp)

theorem READDIR3resok.deserialize_spends :
    Spends XdrBuffer.left (READDIR3resok.deserialize {}) 0 (24 * ·.reply.entries.length) :=
  .free (PostOpAttr.deserialize_spends _) fun _ => .free unpackUint64_spends fun _ =>
  .bind Dirlist3.deserialize_spends fun _ => .pure (by simp)

theorem READDIRPLUS3resok.deserialize_spends :
    Spends XdrBuffer.left (READDIRPLUS3resok.deserialize {}) 0 (32 * ·.reply.entries.length) :=
  .free (PostOpAttr.deserialize_spends _) fun _ => .free unpackUint64_spends fun _ =>
  .bind Dirlistplus3.deserialize_spends fun _ => .pure (by simp)

/-- A result pays for its `resok`, and its status word comes on top. -/
theorem Res.deserialize_decodes {ok : Type} {okDeserialize : Xdr ok} {cost : ok → Nat}
    (spends : Spends XdrBuffer.left okDeserialize 0 cost) (input : Bytes) (self : Res ok) :
    (∃ error last, Res.deserialize okDeserialize self ⟨input, 0⟩ = .error error last) ∨
      ∃ res last, Res.deserialize okDeserialize self ⟨input, 0⟩ = .ok res last ∧
        self.Decoded res (cost · ≤ input.length) := by
  cases runs : Res.deserialize okDeserialize self ⟨input, 0⟩ with
  | error error last => exact .inl ⟨error, last, rfl⟩
  | ok res last =>
      refine .inr ⟨res, last, rfl, ?_⟩
      obtain ⟨code, middle, reads, continues⟩ := ok_of_bind_ok runs
      have paid : middle.left + 4 ≤ input.length := unpackUint32_spends _ code middle reads
      by_cases success : (⟨code⟩ : Nfsstat3) = .NFS3_OK
      · rw [if_pos success] at continues
        obtain ⟨resok, reached, decodes, returns⟩ := ok_of_bind_ok continues
        obtain ⟨rfl, rfl⟩ := EStateM.Result.ok.inj returns
        have covered := spends middle resok reached decodes
        exact .inr ⟨resok, rfl, by omega⟩
      · rw [if_neg success] at continues
        obtain ⟨rfl, rfl⟩ := EStateM.Result.ok.inj continues
        exact .inl ⟨success, rfl⟩

theorem Entry3.body_guarded : Guarded XdrBuffer.left Entry3.body := by
  intro bound call other same nextentry
  apply SameBelow.after (unpackUint64_spends.weaken fun _ => by decide)
  intro fileid
  apply SameBelow.step unpackString_spends
  intro name
  apply SameBelow.step unpackUint64_spends
  intro cookie
  apply SameBelow.step unpackBool_spends
  intro hasNext
  cases hasNext with
  | true => exact SameBelow.head (same [])
  | false => exact SameBelow.refl _ _

theorem Entryplus3.body_guarded : Guarded XdrBuffer.left Entryplus3.body := by
  intro bound call other same prior
  apply SameBelow.after (unpackUint64_spends.weaken fun _ => by decide)
  intro fileid
  apply SameBelow.step unpackString_spends
  intro name
  apply SameBelow.step unpackUint64_spends
  intro cookie
  apply SameBelow.step NfsFh3.deserialize_spends
  intro nameHandle
  apply SameBelow.step prior.1.nameAttributes.deserialize_spends
  intro nameAttributes
  apply SameBelow.step unpackBool_spends
  intro hasNext
  cases hasNext with
  | true => exact SameBelow.head (same ({}, []))
  | false => exact SameBelow.refl _ _

/-- The unread byte count is depth enough for the recursion of the source. -/
theorem Entry3.deserialize_settles (nextentry : List Entry3) (buf : XdrBuffer) :
    Settles Entry3.body nextentry buf (Entry3.deserialize buf.left nextentry buf) := by
  apply @Settles.of_levels _ _ _ _ XdrBuffer.left Entry3.body Entry3.deserialize Entry3.body_guarded
  · intro level
    rfl
  · intro call index state none
    exact bind_of_none_left unpackUint64_spends (by decide) none
  · exact Nat.le_refl _

theorem Entryplus3.deserialize_settles (prior : Entryplus3 × List Entryplus3) (buf : XdrBuffer) :
    Settles Entryplus3.body prior buf (Entryplus3.deserialize buf.left prior.1 prior.2 buf) := by
  apply @Settles.of_levels _ _ _ _ XdrBuffer.left Entryplus3.body
    (fun level index => Entryplus3.deserialize level index.1 index.2) Entryplus3.body_guarded
  · intro level
    rfl
  · intro call index state none
    exact bind_of_none_left unpackUint64_spends (by decide) none
  · exact Nat.le_refl _

/-- Both directory decoders throw or return a list that the input has paid for, and the recursion of each entry
ends within the depth that the bytes after the cursor give it. The call stack of C++ has no bound here. -/
theorem directoryResults_end (input : Bytes) :
    (∀ self : READDIR3res, (∃ error last, self.deserialize ⟨input, 0⟩ = .error error last) ∨
      ∃ res last, self.deserialize ⟨input, 0⟩ = .ok res last ∧
        self.Decoded res fun resok => 24 * resok.reply.entries.length ≤ input.length) ∧
    (∀ self : READDIRPLUS3res, (∃ error last, self.deserialize ⟨input, 0⟩ = .error error last) ∨
      ∃ res last, self.deserialize ⟨input, 0⟩ = .ok res last ∧
        self.Decoded res fun resok => 32 * resok.reply.entries.length ≤ input.length) ∧
    (∀ nextentry pos, Settles Entry3.body nextentry ⟨input, pos⟩
      ((unreadBytes >>= fun unread => Entry3.deserialize unread nextentry) ⟨input, pos⟩)) ∧
    (∀ prior pos, Settles Entryplus3.body prior ⟨input, pos⟩
      ((unreadBytes >>= fun unread => Entryplus3.deserialize unread prior.1 prior.2) ⟨input, pos⟩)) := by
  refine ⟨fun self => ?_, fun self => ?_, fun nextentry pos => ?_, fun prior pos => ?_⟩
  · exact Res.deserialize_decodes READDIR3resok.deserialize_spends input self
  · exact Res.deserialize_decodes READDIRPLUS3resok.deserialize_spends input self
  · exact Entry3.deserialize_settles nextentry ⟨input, pos⟩
  · exact Entryplus3.deserialize_settles prior ⟨input, pos⟩

end Nfs3Rpc
