/-
This file states which texts `nfs3_server_port` takes for a port.
-/

import Nfs3Rpc.Construction.Csuite.Server

namespace Nfs3Rpc.Csuite.Server
open Encoding

/-- A sign may stand before the digits, and a minus sign counts down from 2 ^ 64. -/
inductive Signed : Bytes → Nat → Nat → Prop
  | unsigned {number : Nat} : Signed [] number number
  | plus {number : Nat} : Signed [43] number number
  | minus {number : Nat} (small : number < 2 ^ 64) : Signed [45] number (2 ^ 64 - number)

/-- White space may stand before the sign, and nothing may stand behind the digits. -/
inductive PortText : Bytes → Nat → Prop
  | number {blanks sign digits : Bytes} {port : Nat} (blank : ∀ c ∈ blanks, isspace c = true)
      (signed : Signed sign (decimal digits) port) (some : digits ≠ []) (base : ∀ c ∈ digits, isdigit c = true)
      (valid : 0 < port) (small : port ≤ 65535) : PortText (blanks ++ sign ++ digits) port

end Nfs3Rpc.Csuite.Server
