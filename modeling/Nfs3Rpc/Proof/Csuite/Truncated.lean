import Nfs3Rpc.Proof.Csuite.Complete

namespace Nfs3Rpc.Csuite
open Encoding

theorem callDepth_keeps : Keeps placed callDepth fun _ => True := by
  intro machine before rest value next buf runs
  obtain ⟨_, rfl⟩ := EStateM.Result.ok.inj runs
  exact ⟨trivial, buf⟩

/-- The two recursions go through the same chain; a chain that is too deep for the stack ends the run. -/
theorem xdrUnpackEntry3_follows (count depth : Nat) :
    Follows placed (Whole.entries3 count) (xdrUnpackEntry3 depth {} []) fun found value =>
      value.map Entry3T.message = found := by
  induction count generalizing depth with
  | zero =>
      intro machine before input found rest value next _ reads
      cases reads
  | succ count recurse =>
      cases depth with
      | zero =>
          intro machine before input found rest value next _ _ runs
          cases runs
      | succ depth =>
          apply Follows.field (intoUint64_follows _)
          intro fileid
          apply Follows.bind (intoCstring_follows _)
          intro name pointer sameName
          apply Follows.field (intoUint64_follows _)
          intro cookie
          apply Follows.silent uninitialized_keeps
          intro has _
          apply Follows.bind (intoBool_follows _)
          intro more _ same
          subst same
          cases more with
          | false => exact .pure (by simp [Entry3T.message, sameName])
          | true =>
              apply Follows.bind (recurse depth)
              intro later entries sameLater
              exact .pure (by simp [Entry3T.message, sameName, sameLater])

theorem xdrUnpackEntryplus3_follows (count depth : Nat) :
    Follows placed (Whole.entriesplus3 count) (xdrUnpackEntryplus3 depth {} []) fun found value =>
      value.map Entryplus3T.message = found := by
  induction count generalizing depth with
  | zero =>
      intro machine before input found rest value next _ reads
      cases reads
  | succ count recurse =>
      cases depth with
      | zero =>
          intro machine before input found rest value next _ _ runs
          cases runs
      | succ depth =>
          apply Follows.field (intoUint64_follows _)
          intro fileid
          apply Follows.bind (intoCstring_follows _)
          intro name pointer sameName
          apply Follows.field (intoUint64_follows _)
          intro cookie
          apply Follows.bind (xdrUnpackPostOpAttr_follows _)
          intro nameAttributes _ sameAttributes
          apply unpackHandle_follows
          intro nameHandle _ sameHandle
          apply Follows.silent uninitialized_keeps
          intro has _
          apply Follows.bind (intoBool_follows _)
          intro more _ same
          subst same
          cases more with
          | false => exact .pure (by simp [Entryplus3T.message, sameName, sameAttributes, sameHandle])
          | true =>
              apply Follows.bind (recurse depth)
              intro later entries sameLater
              exact .pure (by simp [Entryplus3T.message, sameName, sameAttributes, sameHandle, sameLater])

/-- A chain follows its flag, and a clear flag leaves the empty list of a new structure. -/
theorem unpackChain_follows {α γ δ ε : Type} {entries : Nat → Peer.Read (List γ)}
    {unpack : Nat → Run (List α)}
    {message : α → γ} {readNext : List γ → Peer.Read δ} {next : List α → Run ε}
    {agrees : δ → ε → Prop}
    (inner : ∀ count depth, Follows placed (entries count) (unpack depth) fun found value =>
      value.map message = found)
    (rest : ∀ found value, value.map message = found → Follows placed (readNext found) (next value) agrees) :
    Follows placed (Whole.chain entries >>= readNext) (do
      let has ← uninitialized
      let has ← into has.toInt32 xdrUnpackBool
      let value ← if has ≠ 0 then do
          let depth ← callDepth
          unpack depth
        else
          pure []
      next value) agrees := by
  apply Follows.silent uninitialized_keeps
  intro has _
  rw [Whole.chain, bind_assoc]
  apply Follows.bind (intoBool_follows _)
  intro present _ same
  subst same
  cases present with
  | false => exact rest [] [] rfl
  | true =>
      have chained : Follows placed (get >>= fun input => entries input.length) (callDepth >>= unpack)
          fun found value => value.map message = found :=
        .looking fun input => .silent callDepth_keeps fun depth _ => inner input.length depth
      have sequence : Follows placed ((get >>= fun input => entries input.length) >>= readNext)
          ((callDepth >>= unpack) >>= next) agrees := .bind chained rest
      exact sequence

theorem xdrUnpackDirlist3_follows :
    Follows placed Whole.dirlist3 (xdrUnpackDirlist3 {}) fun found value => value.message = found := by
  apply unpackChain_follows xdrUnpackEntry3_follows
  intro entries _ sameEntries
  apply Follows.bind (intoBool_follows _)
  intro eof _ sameEof
  exact .pure (by simp [Dirlist3T.message, sameEntries, sameEof])

theorem READDIR3resokT.unpack_follows :
    Follows placed Whole.READDIR3resok (READDIR3resokT.unpack {}) fun found value => value.message = found := by
  apply Follows.bind (xdrUnpackPostOpAttr_follows _)
  intro dirAttributes _ sameAttributes
  apply Follows.field (intoUint64_follows _)
  intro cookieverf
  apply Follows.bind xdrUnpackDirlist3_follows
  intro reply _ sameReply
  exact .pure (by rw [READDIR3resokT.message, sameAttributes, sameReply])

theorem xdrUnpackDirlistplus3_follows :
    Follows placed Whole.dirlistplus3 (xdrUnpackDirlistplus3 {}) fun found value => value.message = found := by
  apply unpackChain_follows xdrUnpackEntryplus3_follows
  intro entries _ sameEntries
  apply Follows.bind (intoBool_follows _)
  intro eof _ sameEof
  exact .pure (by simp [Dirlistplus3T.message, sameEntries, sameEof])

theorem READDIRPLUS3resokT.unpack_follows :
    Follows placed Whole.READDIRPLUS3resok (READDIRPLUS3resokT.unpack {}) fun found value => value.message = found := by
  apply Follows.bind (xdrUnpackPostOpAttr_follows _)
  intro dirAttributes _ sameAttributes
  apply Follows.field (intoUint64_follows _)
  intro cookieverf
  apply Follows.bind xdrUnpackDirlistplus3_follows
  intro reply _ sameReply
  exact .pure (by rw [READDIRPLUS3resokT.message, sameAttributes, sameReply])

/-- A word is found where four bytes are left. -/
theorem expect_found {value : UInt32} {b rest : Bytes} {done : Unit} (reads : Peer.expect value b = .ok done rest) :
    4 ≤ b.length ∧ leadingWord b = value ∧ rest = b.drop 4 := by
  obtain ⟨word, left, one, two⟩ := ok_of_bind_ok reads
  obtain ⟨data, left', fetched, returned⟩ := ok_of_bind_ok one
  obtain ⟨enough, rfl, rfl⟩ := bytes_found fetched
  obtain ⟨rfl, rfl⟩ := EStateM.Result.ok.inj returned
  rw [leadingWord_take] at two
  by_cases same : leadingWord b = value
  · rw [if_neg (not_not.mpr same)] at two
    obtain ⟨_, rfl⟩ := EStateM.Result.ok.inj two
    exact ⟨enough, same, rfl⟩
  · rw [if_pos same] at two
    cases two

/-- The status local keeps its word when the bytes are missing. -/
theorem intoStatus_runs (b : Bytes) (stack later : Nat → UInt32) (depth : Nat) :
    ∃ middle, into (stack 0) xdrUnpackUint32 ⟨⟨b, 0⟩, later, depth⟩ = .ok (seenStatus b stack) middle ∧
      (4 ≤ b.length → placed middle (b.take 4) (b.drop 4)) := by
  by_cases enough : 4 ≤ b.length
  · have fetches : fetch 4 ⟨⟨b, 0⟩, later, depth⟩ = .ok (some (b.take 4)) ⟨⟨b, 4⟩, later, depth⟩ :=
      fetch_enough (by simpa using enough)
    have unpacks : xdrUnpackUint32 ⟨⟨b, 0⟩, later, depth⟩ =
      .ok (some (leadingWord b)) ⟨⟨b, 4⟩, later, depth⟩ := by
      rw [xdrUnpackUint32, bind_of_ok fetches, ← leadingWord_take]
      rfl
    refine ⟨⟨⟨b, 4⟩, later, depth⟩, ?_, fun _ => ?_⟩
    · rw [into, bind_of_ok unpacks, seenStatus, if_pos enough]
      rfl
    · simp [placed, enough]
  · have fetches : fetch 4 ⟨⟨b, 0⟩, later, depth⟩ = .ok none ⟨⟨b, 0⟩, later, depth⟩ :=
      fetch_missing (by simpa using enough)
    have unpacks : xdrUnpackUint32 ⟨⟨b, 0⟩, later, depth⟩ = .ok none ⟨⟨b, 0⟩, later, depth⟩ := by
      rw [xdrUnpackUint32, bind_of_ok fetches]
      rfl
    refine ⟨⟨⟨b, 0⟩, later, depth⟩, ?_, fun missing => absurd missing enough⟩
    rw [into, bind_of_ok unpacks, seenStatus, if_neg enough]
    rfl

/-- Every result starts with its status, and the decoder goes on whether or not it is there. -/
theorem status_runs (b : Bytes) (stack : Nat → UInt32) (depth : Nat) :
    ∃ middle, (∀ {α : Type} (next : UInt32 → Run α),
        (uninitialized >>= fun s => into s xdrUnpackUint32 >>= next) ⟨⟨b, 0⟩, stack, depth⟩ =
          next (seenStatus b stack) middle) ∧ (4 ≤ b.length → placed middle (b.take 4) (b.drop 4)) := by
  obtain ⟨middle, runs, cursor⟩ := intoStatus_runs b stack (fun index => stack (index + 1)) depth
  have declares : uninitialized ⟨⟨b, 0⟩, stack, depth⟩ =
      .ok (stack 0) ⟨⟨b, 0⟩, fun index => stack (index + 1), depth⟩ := rfl
  exact ⟨middle, fun next => by rw [bind_of_ok declares, bind_of_ok runs], cursor⟩

/-- A report depends on the status that the decoder sees, and a whole reply is reported as it is. -/
structure Reflects {μ : Type} (reader : Peer.Read μ) (b : Bytes) (stack : Nat → UInt32)
    (report : Option μ) : Prop where
  shown : seenStatus b stack = 0 → ∃ resok, report = some resok
  hidden : seenStatus b stack ≠ 0 → report = none
  whole : ∀ resok rest, (Peer.expect 0 >>= fun _ => reader) b = .ok resok rest → report = some resok

def Reports {ρ μ : Type} (unpack : Run ρ) (reader : Peer.Read μ) (reported : ρ → Option μ) : Prop :=
  ∀ b stack depth res next, unpack ⟨⟨b, 0⟩, stack, depth⟩ = .ok res next →
    Reflects reader b stack (reported res)

/-- The bytes after the status word are the only ones that the `resok` decoder takes. -/
theorem resok_whole {ok μ : Type} {unpackOk : Run ok} {reader : Peer.Read μ} {message : ok → μ}
    (follows : Follows placed reader unpackOk fun found value => message value = found)
    {b rest : Bytes} {resok : μ} (reads : (Peer.expect 0 >>= fun _ => reader) b = .ok resok rest)
    {middle next : Machine} {got : ok} (cursor : 4 ≤ b.length → placed middle (b.take 4) (b.drop 4))
    (runs : unpackOk middle = .ok got next) : message got = resok := by
  obtain ⟨_, left, word, found⟩ := ok_of_bind_ok reads
  obtain ⟨enough, _, rfl⟩ := expect_found word
  exact (follows middle (b.take 4) (b.drop 4) resok rest got next (cursor enough) found runs).1

theorem seenStatus_whole {μ : Type} {reader : Peer.Read μ} {b rest : Bytes} {resok : μ}
    (reads : (Peer.expect 0 >>= fun _ => reader) b = .ok resok rest) (stack : Nat → UInt32) :
    seenStatus b stack = 0 := by
  obtain ⟨_, left, word, _⟩ := ok_of_bind_ok reads
  obtain ⟨enough, zero, _⟩ := expect_found word
  rw [seenStatus, if_pos enough, zero]

theorem ResT.unpack_cases {ok : Type} {unpackOk : ok → Run ok} {dest res : ResT ok} {b : Bytes}
    {stack : Nat → UInt32} {depth : Nat} {next : Machine}
    (returns : ResT.unpack unpackOk dest ⟨⟨b, 0⟩, stack, depth⟩ = .ok res next) :
    (seenStatus b stack ≠ 0 ∧ res.hasResok = 0) ∨
      (seenStatus b stack = 0 ∧ ∃ middle got, unpackOk dest.resok middle = .ok got next ∧
        res = ⟨.NFS3_OK, 1, got⟩ ∧ (4 ≤ b.length → placed middle (b.take 4) (b.drop 4))) := by
  obtain ⟨middle, runs, cursor⟩ := status_runs b stack depth
  rw [ResT.unpack, runs] at returns
  by_cases zero : seenStatus b stack = 0
  · right
    have succeeded : (⟨seenStatus b stack⟩ : Nfsstat3) = .NFS3_OK := by rw [zero]; rfl
    simp only [succeeded, if_true] at returns
    obtain ⟨got, last, unpacks, returned⟩ := ok_of_bind_ok returns
    obtain ⟨rfl, rfl⟩ := EStateM.Result.ok.inj returned
    exact ⟨zero, middle, got, unpacks, rfl, cursor⟩
  · left
    have failed : ¬ (⟨seenStatus b stack⟩ : Nfsstat3) = .NFS3_OK := fun same => zero (congrArg Nfsstat3.code same)
    simp only [failed, if_false] at returns
    obtain ⟨rfl, rfl⟩ := EStateM.Result.ok.inj returns
    exact ⟨zero, rfl⟩

theorem ResT.unpack_reports {ok μ : Type} {unpackOk : ok → Run ok} {reader : Peer.Read μ} {message : ok → μ}
    (dest : ResT ok) (follows : Follows placed reader (unpackOk dest.resok) fun found value => message value = found) :
    Reports (ResT.unpack unpackOk dest) reader (ResT.reported message) := by
  intro b stack depth res next returns
  rcases ResT.unpack_cases returns with ⟨seen, clear⟩ | ⟨zero, middle, got, unpacks, rfl, cursor⟩
  · have silent : ResT.reported message res = none := if_neg fun both => by simp [clear] at both
    exact ⟨fun zero => absurd zero seen, fun _ => silent,
      fun resok rest reads => absurd (seenStatus_whole reads stack) seen⟩
  · have report : ResT.reported message ⟨.NFS3_OK, 1, got⟩ = some (message got) := if_pos ⟨rfl, rfl⟩
    exact ⟨fun _ => ⟨message got, report⟩, fun seen => absurd zero seen,
      fun resok rest reads => by rw [report, resok_whole follows reads cursor unpacks]⟩

theorem ResT.unpackFresh_reports {ok μ : Type} {okDestroy unpackOk : ok → Run ok} {reader : Peer.Read μ}
    {message : ok → μ} {fresh : ok} (dest : ResT ok) (destroys : Untouched (okDestroy dest.resok) (· = fresh))
    (follows : Follows placed reader (unpackOk fresh) fun found value => message value = found) :
    Reports (ResT.unpackFresh okDestroy unpackOk dest) reader (ResT.reported message) := by
  intro b stack depth res next returns
  obtain ⟨resok, middle, destroyed, unpacks⟩ := ok_of_bind_ok returns
  obtain ⟨rfl, rfl⟩ := destroys _ resok middle destroyed
  exact ResT.unpack_reports ⟨⟨0⟩, 0, resok⟩ follows b stack depth res next unpacks

/-- The WRITE decoder goes the same way, with data for a failed call. -/
theorem xdrUnpackWRITE3res_reports (dest : WRITE3resT) :
    Reports (xdrUnpackWRITE3res dest) Whole.WRITE3resok WRITE3resT.reported := by
  intro b stack depth res next returns
  obtain ⟨middle, runs, cursor⟩ := status_runs b stack depth
  rw [xdrUnpackWRITE3res, runs] at returns
  by_cases zero : seenStatus b stack = 0
  · have succeeded : (⟨seenStatus b stack⟩ : Nfsstat3) = .NFS3_OK := by rw [zero]; rfl
    simp only [succeeded, if_true] at returns
    obtain ⟨got, last, unpacks, returned⟩ := ok_of_bind_ok returns
    obtain ⟨rfl, rfl⟩ := EStateM.Result.ok.inj returned
    have report : WRITE3resT.reported { dest with status := .NFS3_OK, hasResok := 1, resok := got } =
        some got.message := if_pos ⟨rfl, rfl⟩
    exact ⟨fun _ => ⟨got.message, report⟩, fun seen => absurd zero seen, fun resok rest reads => by
      rw [← resok_whole dest.resok.unpack_follows reads cursor unpacks]
      exact report⟩
  · have failed : ¬ (⟨seenStatus b stack⟩ : Nfsstat3) = .NFS3_OK := fun same => zero (congrArg Nfsstat3.code same)
    simp only [failed, if_false] at returns
    obtain ⟨fileWcc, last, unpacks, returned⟩ := ok_of_bind_ok returns
    obtain ⟨rfl, rfl⟩ := EStateM.Result.ok.inj returned
    exact ⟨fun seen => absurd seen zero, fun _ => if_neg fun both => by simp at both,
      fun resok rest reads => absurd (seenStatus_whole reads stack) zero⟩

theorem LOOKUP3resokT.destroy_untouched (res : LOOKUP3resokT) : Untouched res.destroy (· = {}) :=
  .bind (nfsFh3Destroy_untouched _) fun _ _ => .pure rfl

theorem READLINK3resokT.destroy_untouched (res : READLINK3resokT) : Untouched res.destroy (· = {}) :=
  .bind (free_untouched _) fun _ _ => .pure rfl

theorem READ3resokT.destroy_untouched (res : READ3resokT) : Untouched res.destroy (· = {}) :=
  .bind (free_untouched _) fun _ _ => .pure rfl

theorem NewObjectT.destroy_untouched (res : NewObjectT) : Untouched res.destroy (· = {}) :=
  .bind (nfsFh3Destroy_untouched _) fun _ _ => .pure rfl

theorem entry3Destroy_untouched (entries : List Entry3T) : Untouched (entry3Destroy entries) fun _ => True := by
  induction entries with
  | nil => exact .pure trivial
  | cons e entries recurse => exact .bind (free_untouched _) fun _ _ => recurse

theorem READDIR3resokT.destroy_untouched (res : READDIR3resokT) : Untouched res.destroy (· = {}) :=
  .bind (entry3Destroy_untouched _) fun _ _ => .pure rfl

theorem entryplus3Destroy_untouched (entries : List Entryplus3T) :
    Untouched (entryplus3Destroy entries) fun _ => True := by
  induction entries with
  | nil => exact .pure trivial
  | cons e entries recurse =>
      exact .bind (free_untouched _) fun _ _ => .bind (nfsFh3Destroy_untouched _) fun _ _ => recurse

theorem READDIRPLUS3resokT.destroy_untouched (res : READDIRPLUS3resokT) : Untouched res.destroy (· = {}) :=
  .bind (entryplus3Destroy_untouched _) fun _ _ => .pure rfl

end Nfs3Rpc.Csuite

namespace Nfs3Rpc
open Encoding Csuite

theorem ProcNum.unpackRes_reports (proc : ProcNum) (prior : proc.ResT) :
    Reports (proc.unpackRes prior) proc.wholeResok proc.reported := by
  cases proc with
  | GETATTR => exact ResT.unpack_reports prior (GETATTR3resokT.unpack_follows _)
  | SETATTR => exact ResT.unpack_reports prior (SETATTR3resokT.unpack_follows _)
  | LOOKUP =>
      exact ResT.unpackFresh_reports prior (LOOKUP3resokT.destroy_untouched _) (LOOKUP3resokT.unpack_follows {})
  | ACCESS => exact ResT.unpack_reports prior (ACCESS3resokT.unpack_follows _)
  | READLINK =>
      exact ResT.unpackFresh_reports prior (READLINK3resokT.destroy_untouched _) (READLINK3resokT.unpack_follows {})
  | READ => exact ResT.unpackFresh_reports prior (READ3resokT.destroy_untouched _) (READ3resokT.unpack_follows {})
  | WRITE => exact xdrUnpackWRITE3res_reports prior
  | CREATE => exact ResT.unpackFresh_reports prior (NewObjectT.destroy_untouched _) NewObjectT.unpack_follows
  | MKDIR => exact ResT.unpackFresh_reports prior (NewObjectT.destroy_untouched _) NewObjectT.unpack_follows
  | SYMLINK => exact ResT.unpackFresh_reports prior (NewObjectT.destroy_untouched _) NewObjectT.unpack_follows
  | MKNOD => exact ResT.unpackFresh_reports prior (NewObjectT.destroy_untouched _) NewObjectT.unpack_follows
  | REMOVE => exact ResT.unpack_reports prior (RemovedEntryT.unpack_follows _)
  | RMDIR => exact ResT.unpack_reports prior (RemovedEntryT.unpack_follows _)
  | RENAME => exact ResT.unpack_reports prior (RENAME3resokT.unpack_follows _)
  | LINK => exact ResT.unpack_reports prior (LINK3resokT.unpack_follows _)
  | READDIR =>
      exact ResT.unpackFresh_reports prior (READDIR3resokT.destroy_untouched _) READDIR3resokT.unpack_follows
  | READDIRPLUS =>
      exact ResT.unpackFresh_reports prior (READDIRPLUS3resokT.destroy_untouched _) READDIRPLUS3resokT.unpack_follows
  | FSSTAT => exact ResT.unpack_reports prior (FSSTAT3resokT.unpack_follows _)
  | FSINFO => exact ResT.unpack_reports prior (FSINFO3resokT.unpack_follows _)
  | PATHCONF => exact ResT.unpack_reports prior (PATHCONF3resokT.unpack_follows _)
  | COMMIT => exact ResT.unpack_reports prior (COMMIT3resokT.unpack_follows _)

/-- A report of success is the whole reply of the buffer exactly when the decoder sees another status or
the buffer holds a whole reply: no decoder notices that bytes are missing. -/
theorem unpackRes_whole_iff (proc : ProcNum) (prior : proc.ResT) (b : Bytes) (stack : Nat → UInt32) (depth : Nat)
    (res : proc.ResT) (next : Machine) (returns : proc.unpackRes prior ⟨⟨b, 0⟩, stack, depth⟩ = .ok res next) :
    (∀ resok, proc.reported res = some resok → ∃ rest, proc.wholeReply b = .ok resok rest) ↔
      (seenStatus b stack ≠ 0 ∨ ∃ resok rest, proc.wholeReply b = .ok resok rest) := by
  have reflects := proc.unpackRes_reports prior b stack depth res next returns
  constructor
  · intro sound
    by_cases zero : seenStatus b stack = 0
    · obtain ⟨resok, report⟩ := reflects.shown zero
      exact .inr ⟨resok, sound resok report⟩
    · exact .inl zero
  · intro condition resok report
    rcases condition with seen | ⟨found, rest, reads⟩
    · rw [reflects.hidden seen] at report
      cases report
    · rw [reflects.whole found rest reads] at report
      obtain rfl := Option.some.inj report
      exact ⟨rest, reads⟩

/-- The buffer of this ACCESS result ends with its last field, and the decoder reports that field. -/
theorem unpackRes_whole_iff_access :
    ∃ res next, ProcNum.ACCESS.unpackRes ⟨⟨9⟩, 0, {}⟩
      ⟨⟨[0, 0, 0, 0, 0, 0, 0, 0, 0, 0, 0, 31], 0⟩, fun _ => 7, 0⟩ =
        .ok res next ∧ ProcNum.ACCESS.reported res = some ⟨{}, 31⟩ ∧
      ∃ rest, ProcNum.ACCESS.wholeReply [0, 0, 0, 0, 0, 0, 0, 0, 0, 0, 0, 31] = .ok ⟨{}, 31⟩ rest := by
  obtain ⟨next, returns⟩ : ∃ next, ProcNum.ACCESS.unpackRes ⟨⟨9⟩, 0, {}⟩
      ⟨⟨[0, 0, 0, 0, 0, 0, 0, 0, 0, 0, 0, 31], 0⟩, fun _ => 7, 0⟩ = .ok ⟨⟨0⟩, 1, ⟨{}, 31⟩⟩ next :=
        ⟨_, rfl⟩
  have sound := unpackRes_whole_iff .ACCESS _ _ _ _ _ _ returns
  have report : ProcNum.ACCESS.reported ⟨⟨0⟩, 1, ⟨{}, 31⟩⟩ = some ⟨{}, 31⟩ := rfl
  exact ⟨_, next, returns, report, sound.mpr (.inr ⟨⟨{}, 31⟩, [], rfl⟩) _ report⟩

/-- Four zero bytes make the GETATTR decoder report the attributes that its structure held before. -/
theorem unpackRes_reports_stale :
    ∃ res next, ProcNum.GETATTR.unpackRes ⟨⟨9⟩, 0, ⟨{ mode := 420 }⟩⟩
      ⟨⟨[0, 0, 0, 0], 0⟩, fun _ => 7, 0⟩ =
        .ok res next ∧
      ¬ ∀ resok, ProcNum.GETATTR.reported res = some resok →
        ∃ rest, ProcNum.GETATTR.wholeReply [0, 0, 0, 0] = .ok resok rest := by
  refine ⟨⟨⟨0⟩, 1, ⟨{ type := ⟨7⟩, mode := 420 }⟩⟩, _, rfl, ?_⟩
  intro sound
  obtain ⟨rest, reads⟩ := sound ⟨{ type := ⟨7⟩, mode := 420 }⟩ rfl
  cases reads

end Nfs3Rpc
