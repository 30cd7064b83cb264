import Nfs3Rpc.Format.Hosts
import Nfs3Rpc.Proof.Builtin.Host
import Nfs3Rpc.Proof.Builtin.XdrBuffer

namespace Nfs3Rpc.Builtin.Host
open Encoding

/-- The buffer whose sums do not wrap has the same bytes and the same cursor, up to padding behind the end. -/
def Near (memory : HostBytes 64) (reader : Reader 64) (buf : XdrBuffer) : Prop :=
  reader.memory = memory ∧ buf = ⟨memory.data, reader.pos⟩ ∧ reader.pos ≤ reader.size + 3

def Onto (memory : HostBytes 64) (reader : Reader 64) (buf : XdrBuffer) : Prop :=
  reader.memory = memory ∧ buf = ⟨memory.data, reader.pos⟩ ∧ reader.pos ≤ reader.size

/-- Both methods throw the same error, and a caller may go on. -/
def Thrown (memory : HostBytes 64) (fault : HostFault) (error : XdrError) (reader : Reader 64)
    (buf : XdrBuffer) : Prop :=
  fault = .thrown error ∧ Near memory reader buf

variable {memory : HostBytes 64}

theorem Onto.near {reader : Reader 64} {buf : XdrBuffer} (onto : Onto memory reader buf) : Near memory reader buf :=
  ⟨onto.1, onto.2.1, Nat.le_add_right_of_le onto.2.2⟩

/-- The difference in the message wraps on the host as in the buffer without a host. -/
theorem sizeSum_sizeSub {size pos : Nat} (small : size < 2 ^ 64) (word : pos < 2 ^ 64) :
    sizeSum 64 size (2 ^ 64 - pos) = sizeSub size pos := by
  unfold sizeSum sizeSub
  split <;> omega

theorem fetch_mirrors {count : Nat} (word : count < 2 ^ 32) :
    Mirrors (Near memory) (fetch count) (Builtin.fetch count)
      (fun bytes found reader buf => bytes = found ∧ Onto memory reader buf)
      (Thrown memory) := by
  rintro reader buf ⟨rfl, rfl, bounded⟩
  have size : reader.size < 2 ^ 63 := reader.memory.fits
  have sum : sizeSum 64 reader.pos count = reader.pos + count := sizeSum_small (by omega)
  by_cases beyond : reader.pos + count > reader.size
  · right
    have checks : ensureReadSpace count reader =
        .error (.thrown (.insufficientData count reader.pos (sizeSub reader.size reader.pos))) reader := by
      simp only [ensureReadSpace, get_bind, sum, if_pos beyond, sizeSum_sizeSub (by omega : reader.size < 2 ^ 64)
        (by omega : reader.pos < 2 ^ 64)]
      rfl
    exact ⟨_, _, _, _, bind_of_error checks, fetch_throws count ⟨reader.memory.data, reader.pos⟩ beyond,
      rfl, rfl, rfl, bounded⟩
  · left
    have checks : ensureReadSpace count reader = .ok () reader := by
      simp only [ensureReadSpace, get_bind, sum, if_neg beyond]
      rfl
    have copies : copyBytes HostFault.outOfBounds count reader = .ok (reader.slice count) (reader.copy count) := by
      simp only [copyBytes, get_bind, if_neg beyond]
      rfl
    have space : reader.pos + count ≤ reader.memory.data.length := Nat.le_of_not_lt beyond
    refine ⟨_, _, _, _, (bind_of_ok checks).trans (bind_of_ok copies), fetch_returns space, rfl, rfl, ?_, ?_⟩
    · exact congrArg (XdrBuffer.mk reader.memory.data) sum.symm
    · exact sum.le.trans space

theorem word_mirrors {α : Type} {count : Nat} (word : count < 2 ^ 32) (f : Bytes → α) :
    Mirrors (Near memory) (fetch count >>= fun bytes => pure (f bytes))
      (Builtin.fetch count >>= fun bytes => pure (f bytes))
      (fun value found reader buf => value = found ∧ Onto memory reader buf) (Thrown memory) :=
  (fetch_mirrors word).closing fun _ _ _ _ same => ⟨congrArg f same.1, same.2⟩

theorem skipPadding_mirrors (len : Nat) :
    Mirrors (Onto memory) (advance (padding len) : Decode 64 Unit) (skipPadding len)
      (fun _ _ => Near memory) (Thrown memory) := by
  apply Mirrors.modify
  rintro reader buf ⟨rfl, rfl, bounded⟩
  have size : reader.size < 2 ^ 63 := reader.memory.fits
  have short : padding len ≤ 3 := by
    unfold padding
    omega
  have sum : sizeSum 64 reader.pos (padding len) = reader.pos + padding len := sizeSum_small (by omega)
  refine ⟨rfl, congrArg (XdrBuffer.mk reader.memory.data) sum.symm, ?_⟩
  show sizeSum 64 reader.pos (padding len) ≤ reader.size + 3
  omega

theorem unpackBytes_mirrors :
    Mirrors (Near memory) unpackBytes Builtin.unpackOpaque
      (fun value found reader buf => value = found ∧ Near memory reader buf)
      (Thrown memory) := by
  apply Mirrors.field (word_mirrors (by decide) leadingWord)
  intro len
  apply Mirrors.field ((fetch_mirrors len.toNat_lt).weaken (fun _ _ onto => onto.near) fun _ _ _ _ held => held)
  intro bytes
  apply Mirrors.bind (skipPadding_mirrors len.toNat)
  intro _ _
  exact Mirrors.pure fun _ _ near => ⟨rfl, near⟩

/-- Each call answers on the host what it answers without one. -/
theorem Call.answer_mirrors (call : Call) :
    Mirrors (Near memory) call.answer call.plain
      (fun answer found reader buf => answer = found ∧ Near memory reader buf) (Thrown memory) := by
  have word : Mirrors (Near memory) unpackUint32 Builtin.unpackUint32
      (fun value found reader buf => value = found ∧ Onto memory reader buf) (Thrown memory) :=
    word_mirrors (by decide) leadingWord
  have signed : Mirrors (Near memory) unpackInt32 Builtin.unpackInt32
      (fun value found reader buf => value = found ∧ Onto memory reader buf) (Thrown memory) :=
    word_mirrors (by decide) fun bytes => (leadingWord bytes).toInt32
  have flag : Mirrors (Near memory) unpackBool Builtin.unpackBool
      (fun value found reader buf => value = found ∧ Onto memory reader buf) (Thrown memory) :=
    word.closing fun _ _ _ _ held => ⟨congrArg (· != 0) held.1, held.2⟩
  cases call with
  | int32 => exact signed.closing fun _ _ _ _ held => ⟨congrArg Answer.int32 held.1, held.2.near⟩
  | uint32 => exact word.closing fun _ _ _ _ held => ⟨congrArg Answer.uint32 held.1, held.2.near⟩
  | uint64 =>
      apply Mirrors.closing (word_mirrors (by decide) leadingHyper)
      intro value found reader buf held
      exact ⟨congrArg Answer.uint64 held.1, held.2.near⟩
  | bool => exact flag.closing fun _ _ _ _ held => ⟨congrArg Answer.bool held.1, held.2.near⟩
  | string => exact unpackBytes_mirrors.closing fun _ _ _ _ held => ⟨congrArg Answer.bytes held.1, held.2⟩
  | vector => exact unpackBytes_mirrors.closing fun _ _ _ _ held => ⟨congrArg Answer.bytes held.1, held.2⟩
  | resetRead =>
      have rewinds : Mirrors (Near memory) (modify fun reader => { reader with pos := 0 } : Decode 64 PUnit)
          (modify fun buf => { buf with pos := 0 }) (fun _ _ => Near memory) (Thrown memory) := by
        apply Mirrors.modify
        rintro reader buf ⟨rfl, rfl, _⟩
        exact ⟨rfl, rfl, Nat.zero_le _⟩
      exact rewinds.closing fun _ _ _ _ held => ⟨rfl, held⟩

/-- A caller that catches what the methods throw gets the same answers and errors, and never leaves the bytes. -/
theorem answers_mirror (calls : List Call) :
    Mirrors (Near memory) (answers calls) (plainAnswers calls)
      (fun results founds reader buf =>
        List.Forall₂ (fun result found => result = found.mapError HostFault.thrown) results founds ∧
          Near memory reader buf)
      fun _ _ _ _ => False := by
  apply Mirrors.inOrder
  intro call _
  apply Mirrors.caught
  intro reader buf near
  obtain ⟨answer, found, next, reached, runs, runs', rfl, after⟩ |
      ⟨fault, error, next, reached, fails, fails', rfl, after⟩ :=
    call.answer_mirrors reader buf near
  · exact .inl ⟨answer, answer, next, reached, runs, runs', rfl, after⟩
  · exact .inr ⟨_, error, next, reached, fails, fails', rfl, after⟩

end Nfs3Rpc.Builtin.Host
