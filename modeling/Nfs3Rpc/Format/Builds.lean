/-
This file states when a filter of the libtirpc build and an encoder of the C suite send the same bytes.
-/

import Nfs3Rpc.Format.Csuite.Wire
import Nfs3Rpc.Format.Tirpc

namespace Nfs3Rpc
open Encoding Tirpc Csuite

/-- From these states the filter and the C encoder append the same bytes. -/
def Tirpc.SameAsC {σ α : Type} (lib : Libtirpc σ) (filter : Filter σ α) (pack : Run Unit) (stream : σ)
    (machine : Machine) : Prop :=
  ∃ bytes obj last final, filter stream = .ok obj last ∧ lib.written last = lib.written stream ++ bytes ∧
    pack machine = .ok () final ∧ final.buf.data = machine.buf.data ++ bytes

/-- Such attributes set neither time. -/
def Sattr3.Untimed (attr : Sattr3) : Prop := attr.atime = none ∧ attr.mtime = none

/-- The C++ object with the same fields has both arms of the union. -/
def Csuite.CREATE3argsT.object (args : CREATE3argsT) : CREATE3args :=
  ⟨args.whereDir.message, args.whereName.cstring, args.howMode, args.howAttributes.message, args.howVerf⟩

/-- A filter takes a C string of this length. -/
def Csuite.Ptr.Taken (s : Ptr) (maxsize : Nat) : Prop := s.cstring.length ≤ maxsize

end Nfs3Rpc
