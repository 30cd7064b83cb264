/-
This file is how the two lock tests of the C suite read the status of an NLM reply:
`unpack_nlm4_status` of `test_lockd_c.c` and of `test_lockd_unavail_c.c`.
-/

import Nfs3Rpc.Construction.Csuite.XdrBuf

namespace Nfs3Rpc.Csuite
open Encoding

def NLM4_GRANTED : Int32 := 0

/-- The buffer gets a copy of the bytes, and its cursor stands at the first one. -/
def xdrBufInitCopy (data : Bytes) : Run Unit := modify fun machine => { machine with buf := ⟨data, 0⟩ }

def xdrBufDestroy : Run Unit := modify fun machine => { machine with buf := ⟨[], 0⟩ }

namespace Lockd

/-- Neither result is checked, and the status starts at zero. -/
def unpackNlm4Status (resp : Bytes) : Run Int32 := do
  xdrBufInitCopy resp
  let (_, cookieData, _) ← xdrUnpackOpaque .null 0
  let _ ← free cookieData
  let status ← into 0 xdrUnpackUint32
  xdrBufDestroy
  return status.toInt32

end Lockd

namespace LockdUnavail

/-- The status is read only behind a whole cookie; the caller learns whether both were there. -/
def unpackNlm4Status (resp : Bytes) (nlmStatus : UInt32) : Run (Bool × UInt32) := do
  xdrBufInitCopy resp
  let (whole, cookieData, _) ← xdrUnpackOpaque .null 0
  let found ← if whole then xdrUnpackUint32 else pure none
  let _ ← free cookieData
  xdrBufDestroy
  return (found.isSome, found.getD nlmStatus)

end LockdUnavail

end Nfs3Rpc.Csuite
