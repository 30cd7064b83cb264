import Nfs3Rpc.Format.Hosts
import Nfs3Rpc.Proof.Csuite.Host
import Nfs3Rpc.Proof.Csuite.XdrBuf

namespace Nfs3Rpc.Csuite.Host
open Encoding

/-- The buffer whose sums do not wrap has the same bytes and the same cursor, up to padding behind the end. -/
def Near (memory : HostBytes 64) (reader : Reader 64) (machine : Machine) : Prop :=
  reader.memory = memory ∧ machine.buf = ⟨memory.data, reader.pos⟩ ∧ reader.pos ≤ reader.size + 3

def Onto (memory : HostBytes 64) (reader : Reader 64) (machine : Machine) : Prop :=
  reader.memory = memory ∧ machine.buf = ⟨memory.data, reader.pos⟩ ∧ reader.pos ≤ reader.size

variable {memory : HostBytes 64}

/-- A fault ends both runs. -/
def Faulted (fault : Fault) (found : Fault) (_ : Reader 64) (_ : Machine) : Prop := fault = found

theorem Onto.near {reader : Reader 64} {machine : Machine} (onto : Onto memory reader machine) :
    Near memory reader machine :=
  ⟨onto.1, onto.2.1, Nat.le_add_right_of_le onto.2.2⟩

/-- A read that finds nothing leaves the cursor where it is. -/
def Read {α : Type} (memory : HostBytes 64) (value found : Option α) (reader : Reader 64)
    (machine : Machine) : Prop :=
  value = found ∧ Near memory reader machine ∧ (value.isSome → Onto memory reader machine)

theorem ensureReadSpace_run {count : Nat} {reader : Reader 64} (word : count < 2 ^ 32)
    (bounded : reader.pos ≤ reader.size + 3) :
    ensureReadSpace count reader = .ok (decide (reader.pos + count ≤ reader.size)) reader := by
  have size : reader.size < 2 ^ 63 := reader.memory.fits
  have sum : sizeSum 64 reader.pos count = reader.pos + count := sizeSum_small (by omega)
  simp only [ensureReadSpace, get_bind, sum]
  rfl

theorem copyBytes_run {count : Nat} {reader : Reader 64} (space : reader.pos + count ≤ reader.size) :
    copyBytes Fault.invalidRead count reader = .ok (reader.slice count) (reader.copy count) := by
  simp only [copyBytes, get_bind, if_neg (Nat.not_lt.mpr space)]
  rfl

/-- The bytes of a checked read are the same, and so is the cursor behind them. -/
theorem Near.advanced {reader : Reader 64} {machine : Machine} (near : Near memory reader machine) {count : Nat}
    (space : reader.pos + count ≤ reader.size + 3) :
    Near memory (reader.advance count) { machine with buf.pos := machine.buf.pos + count } := by
  obtain ⟨rfl, same, bounded⟩ := near
  have size : reader.size < 2 ^ 63 := reader.memory.fits
  have sum : (reader.advance count).pos = reader.pos + count := sizeSum_small (by omega)
  rw [Near, same, sum]
  exact ⟨rfl, rfl, space⟩

/-- Both copies take the same bytes, and both cursors stand behind them. -/
theorem Near.fetched {reader : Reader 64} {machine : Machine} (near : Near memory reader machine) {count : Nat}
    (space : reader.pos + count ≤ reader.size) :
    ∃ behind, Csuite.fetch count machine = .ok (some (reader.slice count)) behind ∧
      Onto memory ((reader.copy count).advance count) behind := by
  have copied : Near memory (reader.copy count) machine := near
  have behind := copied.advanced (Nat.le_add_right_of_le space)
  obtain ⟨rfl, same, bounded⟩ := near
  have enough : machine.buf.pos + count ≤ machine.buf.data.length := by
    rw [same]
    exact space
  have bytes : (machine.buf.data.drop machine.buf.pos).take count = reader.slice count := by
    rw [same]
    rfl
  have cursor : machine.buf.pos + count = ((reader.copy count).advance count).pos := congrArg XdrBufT.pos behind.2.1
  have inside : machine.buf.pos + count ≤ reader.size := by
    rw [same]
    exact space
  rw [cursor] at inside
  exact ⟨_, bytes ▸ fetch_enough enough, rfl, behind.2.1, inside⟩

theorem Near.missing {reader : Reader 64} {machine : Machine} (near : Near memory reader machine) {count : Nat}
    (short : ¬ reader.pos + count ≤ reader.size) : Csuite.fetch count machine = .ok none machine := by
  obtain ⟨rfl, same, bounded⟩ := near
  apply fetch_missing
  rw [same]
  exact short

theorem fetch_mirrors {count : Nat} (word : count < 2 ^ 32) :
    Mirrors (Near memory) (fetch count) (Csuite.fetch count) (Read memory) Faulted := by
  intro reader machine near
  have asks := ensureReadSpace_run word near.2.2
  left
  by_cases space : reader.pos + count ≤ reader.size
  · rw [decide_eq_true space] at asks
    obtain ⟨behind, fetches, onto⟩ := near.fetched space
    exact ⟨_, _, _, _, (bind_of_ok asks).trans (bind_of_ok (copyBytes_run space)), fetches, rfl,
      onto.near, fun _ => onto⟩
  · rw [decide_eq_false space] at asks
    exact ⟨_, _, _, _, bind_of_ok asks, near.missing space, rfl, near, nofun⟩

theorem word_mirrors {α : Type} {count : Nat} (word : count < 2 ^ 32) (f : Bytes → α) :
    Mirrors (Near memory) (fetch count >>= fun bytes => pure (bytes.map f))
      (Csuite.fetch count >>= fun bytes => pure (bytes.map f)) (Read memory) Faulted := by
  apply (fetch_mirrors word).closing
  rintro bytes found reader machine ⟨rfl, near, onto⟩
  refine ⟨rfl, near, ?_⟩
  rw [Option.isSome_map]
  exact onto

theorem skipPadding_mirrors (len : Nat) :
    Mirrors (Onto memory) (advance (padding len) : Decode 64 Unit) (skipPadding len)
      (fun _ _ => Near memory) Faulted := by
  apply Mirrors.modify
  intro reader machine onto
  have short := padding_short len
  have bounded := onto.2.2
  exact onto.near.advanced (by omega)

/-- The decoders of variable data go on only behind their length word. -/
theorem length_mirrors {α β : Type} {next : UInt32 → Decode 64 α} {later : UInt32 → Run β}
    {missing : α} {absent : β}
    {post : α → β → Reader 64 → Machine → Prop}
    (behind : ∀ len, Mirrors (Near memory) (next len) (later len) post Faulted)
    (ends : ∀ reader machine, Near memory reader machine → post missing absent reader machine) :
    Mirrors (Near memory) (do
      match ← xdrUnpackUint32 with
      | none => return missing
      | some len => next len) (do
      match ← Csuite.xdrUnpackUint32 with
      | none => return absent
      | some len => later len) post Faulted := by
  apply Mirrors.bind (word_mirrors (by decide) leadingWord)
  rintro length found reader machine ⟨rfl, near, _⟩
  cases length with
  | none => exact Mirrors.pure ends reader machine near
  | some len => exact behind len reader machine near

/-- The two decoders of a string move their cursors at different times, and both stop when the size of the block
wraps. -/
theorem xdrUnpackCstring_mirrors :
    Mirrors (Near memory) xdrUnpackCstring Csuite.xdrUnpackCstring
      (fun value found reader machine => value.map Ptr.block = found ∧ Near memory reader machine) Faulted := by
  apply length_mirrors _ fun _ _ near => ⟨rfl, near⟩
  intro len reader machine near
  have asks := ensureReadSpace_run len.toNat_lt near.2.2
  by_cases space : reader.pos + len.toNat ≤ reader.size
  · rw [decide_eq_true space] at asks
    obtain ⟨behind, fetches, onto⟩ := near.fetched space
    have copies := copyBytes_run space
    by_cases wraps : (len + 1).toNat < len.toNat + 1
    · right
      refine ⟨.heapOverflow, .heapOverflow, reader.copy len.toNat, behind,
        (bind_of_ok asks).trans ((bind_of_ok copies).trans ?_), (bind_of_ok fetches).trans ?_, rfl⟩
      · simp only [if_pos wraps]
        rfl
      · simp only [if_pos wraps]
        rfl
    · left
      refine ⟨some (reader.slice len.toNat ++ [0]), some (.block (reader.slice len.toNat ++ [0])),
        ((reader.copy len.toNat).advance len.toNat).advance (padding len.toNat),
        { behind with buf.pos := behind.buf.pos + padding len.toNat },
        (bind_of_ok asks).trans ((bind_of_ok copies).trans ?_), (bind_of_ok fetches).trans ?_, rfl, ?_⟩
      · simp only [if_neg wraps]
        rfl
      · simp only [if_neg wraps]
        rfl
      · have short := padding_short len.toNat
        have inside := onto.2.2
        exact onto.near.advanced (by omega)
  · left
    rw [decide_eq_false space] at asks
    exact ⟨none, none, _, _, bind_of_ok asks, bind_of_ok (near.missing space), rfl, near⟩

theorem xdrUnpackOpaque_mirrors :
    Mirrors (Near memory) xdrUnpackOpaque (Csuite.xdrUnpackOpaque .null 0)
      (fun value found reader machine =>
        value.map Ptr.block = (if found.1 then some found.2.1 else none) ∧ Near memory reader machine) Faulted := by
  apply length_mirrors _ fun _ _ near => ⟨rfl, near⟩
  intro len
  apply Mirrors.bind (fetch_mirrors len.toNat_lt)
  rintro bytes found reader machine ⟨rfl, near, onto⟩
  cases bytes with
  | none => exact Mirrors.pure (fun _ _ held => ⟨rfl, held⟩) reader machine near
  | some bytes =>
      apply Mirrors.closing (skipPadding_mirrors len.toNat) _ reader machine (onto rfl)
      exact fun _ _ _ _ held => ⟨rfl, held⟩

/-- The verifier is what a read of eight bytes finds, or zero. -/
theorem xdrUnpackVerifier_run {bytes : Option Bytes} {machine next : Machine}
    (fetches : Csuite.fetch 8 machine = .ok bytes next) :
    ∃ verifier, Csuite.xdrUnpackVerifier machine = .ok verifier next ∧
      verifier.data = bytes.getD (List.replicate 8 0) := by
  by_cases space : machine.buf.pos + 8 ≤ machine.buf.data.length
  · obtain ⟨rfl, rfl⟩ := EStateM.Result.ok.inj ((fetch_enough space).symm.trans fetches)
    exact ⟨⟨(machine.buf.data.drop machine.buf.pos).take 8, by simp; omega⟩,
      by simp only [Csuite.xdrUnpackVerifier, get_bind, dif_pos space]; rfl, rfl⟩
  · obtain ⟨rfl, rfl⟩ := EStateM.Result.ok.inj ((fetch_missing space).symm.trans fetches)
    exact ⟨.zero, by simp only [Csuite.xdrUnpackVerifier, get_bind, dif_neg space]; rfl, rfl⟩

theorem xdrUnpackVerifier_mirrors :
    Mirrors (Near memory) xdrUnpackVerifier Csuite.xdrUnpackVerifier
      (fun value found reader machine => value = found.data ∧ Near memory reader machine) Faulted := by
  intro reader machine near
  obtain ⟨bytes, found, next, reached, runs, runs', rfl, after, _⟩ |
      ⟨fault, raised, next, reached, fails, fails', same⟩ :=
    fetch_mirrors (by decide : 8 < 2 ^ 32) reader machine near
  · obtain ⟨verifier, unpacks, data⟩ := xdrUnpackVerifier_run runs'
    exact .inl ⟨_, verifier, next, reached, bind_of_ok runs, unpacks, data.symm, after⟩
  · by_cases space : machine.buf.pos + 8 ≤ machine.buf.data.length
    · cases (fetch_enough space).symm.trans fails'
    · cases (fetch_missing space).symm.trans fails'

/-- Each call answers on the host what it answers without one. -/
theorem Call.answer_mirrors (call : Call) :
    Mirrors (Near memory) call.answer call.plain
      (fun answer found reader machine => answer = found ∧ Near memory reader machine)
      Faulted := by
  have word : Mirrors (Near memory) xdrUnpackUint32 Csuite.xdrUnpackUint32 (Read memory) Faulted :=
    word_mirrors (by decide) leadingWord
  have mapped : ∀ {α : Type} (f : UInt32 → α), Mirrors (Near memory) (xdrUnpackUint32 >>= fun u => pure (u.map f))
      (Csuite.xdrUnpackUint32 >>= fun u => pure (u.map f)) (Read memory) Faulted := by
    intro α f
    apply word.closing
    rintro u found reader machine ⟨rfl, near, onto⟩
    refine ⟨rfl, near, ?_⟩
    rw [Option.isSome_map]
    exact onto
  cases call with
  | int32 => exact (mapped UInt32.toInt32).closing fun _ _ _ _ held => ⟨congrArg Answer.int32 held.1, held.2.1⟩
  | uint32 => exact word.closing fun _ _ _ _ held => ⟨congrArg Answer.uint32 held.1, held.2.1⟩
  | uint64 =>
      apply Mirrors.closing (word_mirrors (by decide) leadingHyper)
      intro value found reader machine held
      exact ⟨congrArg Answer.uint64 held.1, held.2.1⟩
  | bool => exact (mapped _).closing fun _ _ _ _ held => ⟨congrArg Answer.int32 held.1, held.2.1⟩
  | cstring => exact xdrUnpackCstring_mirrors.closing fun _ _ _ _ held => ⟨congrArg Answer.pointer held.1, held.2⟩
  | varOpaque => exact xdrUnpackOpaque_mirrors.closing fun _ _ _ _ held => ⟨congrArg Answer.pointer held.1, held.2⟩
  | writeverf3 =>
      exact xdrUnpackVerifier_mirrors.closing fun _ _ _ _ held => ⟨congrArg Answer.verifier held.1, held.2⟩
  | createverf3 =>
      exact xdrUnpackVerifier_mirrors.closing fun _ _ _ _ held => ⟨congrArg Answer.verifier held.1, held.2⟩
  | resetRead =>
      have rewinds : Mirrors (Near memory) (modify fun reader => { reader with pos := 0 } : Decode 64 PUnit)
          (modify fun machine => { machine with buf.pos := 0 }) (fun _ _ => Near memory) Faulted := by
        apply Mirrors.modify
        rintro reader machine ⟨kept, same, _⟩
        refine ⟨kept, ?_, Nat.zero_le _⟩
        rw [same]
      exact rewinds.closing fun _ _ _ _ held => ⟨rfl, held⟩

/-- A sequence of calls gets the same answers, or both runs stop at the same fault. -/
theorem answers_mirror (calls : List Call) :
    Mirrors (Near memory) (answers calls) (plainAnswers calls)
      (fun answers founds reader machine => List.Forall₂ (· = ·) answers founds ∧ Near memory reader machine)
        Faulted :=
  Mirrors.inOrder fun call _ => call.answer_mirrors

end Nfs3Rpc.Csuite.Host
