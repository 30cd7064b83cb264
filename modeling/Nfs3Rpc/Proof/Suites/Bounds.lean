import Nfs3Rpc.Proof.Builtin.Host
import Nfs3Rpc.Proof.Csuite.Host

namespace Nfs3Rpc
open Encoding

/-- On a host of 64 bits no sequence of calls copies a byte from behind the end, in either buffer, and the cursor
moves back only at a reset. -/
theorem decoders_read_inside (memory : HostBytes 64) :
    (∀ calls : List Builtin.Host.Call,
      (Builtin.Host.runCalls calls (Reader.start memory)).Inside memory ∧
      ∀ call : Builtin.Host.Call, call ≠ .resetRead →
        (Builtin.Host.runCalls calls (Reader.start memory)).pos ≤
          (stateAfter call.run (Builtin.Host.runCalls calls (Reader.start memory))).pos) ∧
    ∀ calls : List Csuite.Host.Call,
      (Csuite.Host.runCalls calls (Reader.start memory)).Inside memory ∧
      ∀ call : Csuite.Host.Call, call ≠ .resetRead →
        (Csuite.Host.runCalls calls (Reader.start memory)).pos ≤
          (stateAfter call.run (Csuite.Host.runCalls calls (Reader.start memory))).pos := by
  constructor
  · intro calls
    have inside := Builtin.Host.runCalls_inside calls (Reader.start_inside memory)
    exact ⟨inside, fun call reads => ((call.run_exits reads).after inside.onward).forward⟩
  · intro calls
    have inside := Csuite.Host.runCalls_inside calls (Reader.start_inside memory)
    exact ⟨inside, fun call reads => ((call.run_exits reads).after inside.onward).forward⟩

end Nfs3Rpc
