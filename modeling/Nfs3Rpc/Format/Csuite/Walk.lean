/-
This file follows the cursor of the C decoders through a byte string.
A decoder whose bytes are missing leaves the cursor, and the next decoder goes on from there.
-/

import Nfs3Rpc.Format.Csuite.Results

namespace Nfs3Rpc.Csuite
open Encoding

/-- The word that stands at this position. -/
def wordAt (b : Bytes) (pos : Nat) : UInt32 := leadingWord (b.drop pos)

def skip (count : Nat) (b : Bytes) (pos : Nat) : Nat := if pos + count ≤ b.length then pos + count else pos

/-- A length word stands here with as many bytes after it. -/
def HoldsOpaque (b : Bytes) (pos : Nat) : Prop := pos + 4 ≤ b.length ∧ pos + 4 + (wordAt b pos).toNat ≤ b.length

instance (b : Bytes) (pos : Nat) : Decidable (HoldsOpaque b pos) := inferInstanceAs (Decidable (_ ∧ _))

/-- An opaque that is cut off costs its length word. -/
def skipOpaque (b : Bytes) (pos : Nat) : Nat :=
  if HoldsOpaque b pos then
    pos + 4 + (wordAt b pos).toNat + padding (wordAt b pos).toNat
  else
    skip 4 b pos

/-- An NLM reply has its cookie whole, and the status word behind the padding of the cookie. -/
def HoldsStatus (resp : Bytes) : Prop := HoldsOpaque resp 0 ∧ skipOpaque resp 0 + 4 ≤ resp.length

instance (resp : Bytes) : Decidable (HoldsStatus resp) := inferInstanceAs (Decidable (_ ∧ _))

/-- The word behind the cookie, or behind the length word of a cookie that is cut off. -/
def statusWord (resp : Bytes) : UInt32 := wordAt resp (skipOpaque resp 0)

/-- A set flag stands here. -/
def FlagSet (b : Bytes) (pos : Nat) : Prop := pos + 4 ≤ b.length ∧ wordAt b pos ≠ 0

instance (b : Bytes) (pos : Nat) : Decidable (FlagSet b pos) := inferInstanceAs (Decidable (_ ∧ _))

def skipFattr3 (b : Bytes) (pos : Nat) : Nat :=
  [4, 4, 4, 4, 4, 8, 8, 4, 4, 8, 8, 4, 4, 4, 4, 4, 4].foldl (fun pos count => skip count b pos) pos

def skipPostOpAttr (b : Bytes) (pos : Nat) : Nat :=
  if FlagSet b pos then skipFattr3 b (pos + 4) else skip 4 b pos

/-- A handle follows its own flag. -/
def skipPostOpFh3 (b : Bytes) (pos : Nat) : Nat := if FlagSet b pos then skipOpaque b (pos + 4) else skip 4 b pos

/-- The presence word of the next entry stands behind the entry that starts here. -/
def entry3Flag (b : Bytes) (pos : Nat) : Nat := skip 8 b (skipOpaque b (skip 8 b pos))

def entryplus3Flag (b : Bytes) (pos : Nat) : Nat :=
  skipPostOpFh3 b (skipPostOpAttr b (skip 8 b (skipOpaque b (skip 8 b pos))))

/-- The block of a name of 2 ^ 32 - 1 bytes is too small. -/
def NameFits (b : Bytes) (pos : Nat) : Prop := ¬ (HoldsOpaque b pos ∧ (wordAt b pos).toNat = 2 ^ 32 - 1)

instance (b : Bytes) (pos : Nat) : Decidable (NameFits b pos) := inferInstanceAs (Decidable (¬ _))

/-- From this entry on, every presence word that the decoder comes to stands in the buffer. -/
inductive Linked (flagAt : Bytes → Nat → Nat) (b : Bytes) : Nat → Prop
  | last {pos : Nat} (name : NameFits b (skip 8 b pos)) (inside : flagAt b pos + 4 ≤ b.length)
      (zero : wordAt b (flagAt b pos) = 0) : Linked flagAt b pos
  | more {pos : Nat} (name : NameFits b (skip 8 b pos)) (set : FlagSet b (flagAt b pos))
      (later : Linked flagAt b (flagAt b pos + 4)) : Linked flagAt b pos

/-- The presence word of the first entry is in the buffer and, when it is set, the chain is linked. -/
def Listed (flagAt : Bytes → Nat → Nat) (b : Bytes) (flag : Nat) : Prop :=
  flag + 4 ≤ b.length ∧ (wordAt b flag ≠ 0 → Linked flagAt b (flag + 4))

/-- The presence word of the first entry stands behind the attributes and the verifier. -/
def entriesFlag (b : Bytes) (pos : Nat) : Nat := skip 8 b (skipPostOpAttr b pos)

/-- The status word is there and, when it is zero, so is every presence word that the decoder comes to. -/
def PresenceInside (flagAt : Bytes → Nat → Nat) (b : Bytes) : Prop :=
  4 ≤ b.length ∧ (wordAt b 0 = 0 → Listed flagAt b (entriesFlag b 4))

/-- The first presence words behind the entry that starts here. -/
def presenceWords (flagAt : Bytes → Nat → Nat) (b : Bytes) : Nat → Nat → List Nat
  | 0, _ => []
  | count + 1, pos => flagAt b pos :: presenceWords flagAt b count (flagAt b pos + 4)

/-- There are no more entries beyond the first than the bytes allow, and each follows a set presence word. -/
def Announced {ε : Type} (flagAt : Bytes → Nat → Nat) (size : Nat) (b : Bytes) (flag : Nat)
    (entries : List ε) : Prop :=
  entries.length - 1 ≤ b.length / size ∧
    ∀ word ∈ presenceWords flagAt b (entries.length - 1) (flag + 4), FlagSet b word

/-- Whatever the uninitialized locals hold, the decoder returns at every sufficient depth. -/
def EndsWithin {ρ ε : Type} (unpack : Run ρ) (entries : ρ → List ε) (flagAt : Bytes → Nat → Nat) (size : Nat)
    (b : Bytes) : Prop :=
  ∀ stack : Nat → UInt32, ∃ enough, ∀ depth, enough ≤ depth → ∃ res last,
    unpack ⟨⟨b, 0⟩, stack, depth⟩ = .ok res last ∧ Announced flagAt size b (entriesFlag b 4) (entries res)

end Nfs3Rpc.Csuite
