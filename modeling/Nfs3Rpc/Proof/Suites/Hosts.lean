import Nfs3Rpc.Proof.Builtin.Mirrors
import Nfs3Rpc.Proof.Csuite.Mirrors

namespace Nfs3Rpc
open Encoding

/-- On a host of 64 bits no caller sees that sums wrap: every sequence of calls gets the answers, the errors, and the
cursor of a buffer whose sums are exact. -/
theorem host_answers_exact (memory : HostBytes 64) :
    (∀ calls : List Builtin.Host.Call, ∃ results reader,
      Builtin.Host.answers calls (Reader.start memory) =
        .ok (results.map (Except.mapError Builtin.Host.HostFault.thrown)) reader ∧
      Builtin.Host.plainAnswers calls ⟨memory.data, 0⟩ = .ok results ⟨memory.data, reader.pos⟩) ∧
    ∀ (calls : List Csuite.Host.Call) (machine : Csuite.Machine), machine.buf = ⟨memory.data, 0⟩ →
      (∃ results reader final, Csuite.Host.answers calls (Reader.start memory) = .ok results reader ∧
        Csuite.Host.plainAnswers calls machine = .ok results final ∧ final.buf = ⟨memory.data, reader.pos⟩) ∨
      ∃ fault reader final, Csuite.Host.answers calls (Reader.start memory) = .error fault reader ∧
        Csuite.Host.plainAnswers calls machine = .error fault final := by
  constructor
  · intro calls
    have start : Builtin.Host.Near memory (Reader.start memory) ⟨memory.data, 0⟩ := ⟨rfl, rfl, Nat.zero_le _⟩
    obtain ⟨results, founds, reader, final, runs, runs', same, _, rfl, _⟩ | ⟨_, _, _, _, _, _, never⟩ :=
      Builtin.Host.answers_mirror calls _ _ start
    · have equal := List.forall₂_map_right_iff.mpr same
      rw [List.forall₂_eq_eq_eq] at equal
      exact ⟨founds, reader, equal ▸ runs, runs'⟩
    · exact never.elim
  · intro calls machine same
    obtain ⟨results, founds, reader, final, runs, runs', answers, after⟩ |
        ⟨fault, _, reader, final, fails, fails', rfl⟩ :=
      Csuite.Host.answers_mirror calls (Reader.start memory) machine ⟨rfl, same, Nat.zero_le _⟩
    · rw [List.forall₂_eq_eq_eq] at answers
      exact .inl ⟨results, reader, final, runs, answers ▸ runs', after.2.1⟩
    · exact .inr ⟨fault, reader, final, fails, fails'⟩

end Nfs3Rpc
