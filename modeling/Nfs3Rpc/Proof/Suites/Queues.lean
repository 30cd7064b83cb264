import Nfs3Rpc.Format.Queues
import Nfs3Rpc.Proof.Builtin.XdrBuffer
import Nfs3Rpc.Proof.Csuite.Attributes

namespace Nfs3Rpc
open Encoding

section Builtin
open Builtin

theorem packItem_emits (item : Item) (fits : item.Fits) (pos : Nat) :
    Emits (XdrBuffer.writing pos) (Builtin.packItem item) () item.wire := by
  cases item with
  | int32 val => exact packInt32_emits val
  | uint32 val => exact packUint32_emits val
  | uint64 val => exact packUint64_emits val
  | bool val => exact packBool_emits val
  | string s => exact packString_emits s fits
  | varOpaque data => exact packOpaque_emits data fits

theorem unpackItem_reads (item : Item) (fits : item.Fits) :
    Reads XdrBuffer.reading (Builtin.unpackItem item.kind) item.wire (· = item) := by
  cases item with
  | int32 val => exact Reads.returning (unpackInt32_reads val) rfl
  | uint32 val => exact Reads.returning (unpackUint32_reads val) rfl
  | uint64 val => exact Reads.returning (unpackUint64_reads val) rfl
  | bool val => exact Reads.returning (unpackBool_reads val) rfl
  | string s => exact Reads.returning (unpackString_reads s fits) rfl
  | varOpaque data => exact Reads.returning (unpackOpaque_reads data fits) rfl

theorem XdrBuffer.views (state : XdrBuffer) (before rest : Bytes) :
    XdrBuffer.writing before.length state (before ++ rest) ↔
      XdrBuffer.reading state before rest ∧ 4 ∣ (before ++ rest).length :=
  Iff.rfl

/-- The C++ buffer takes back every item that it holds. -/
theorem XdrBuffer.queues :
    Queues Builtin.packItem Builtin.unpackItem Item.kind id Item.Fits (fun _ => True)
      (Buffered XdrBuffer.writing Item.wire Item.Fits) :=
  queues_of_wire XdrBuffer.views packItem_emits fun item fits => Decodes.of_reads (unpackItem_reads item fits)

theorem XdrBuffer.at_end {buf : XdrBuffer} (held : Buffered XdrBuffer.writing Item.wire Item.Fits buf []) :
    buf.pos = buf.buffer.length := by
  obtain ⟨_, before, rfl, _⟩ := held
  simp

/-- Every legal run on an empty C++ buffer is a run of the queue. -/
theorem XdrBuffer.serves_queue {operations : List (Operation Item Primitive)} {popped left : List Item}
    (fits : ∀ item, .push item ∈ operations → item.Fits)
    (legal : fifo Item.kind operations [] = some (popped, left)) :
    Builtin.ServesQueue operations popped left := by
  have empty : Buffered XdrBuffer.writing Item.wire Item.Fits XdrBuffer.empty [] :=
    ⟨List.forall_mem_nil _, [], rfl, Nat.dvd_zero 4⟩
  have ends : ∀ next, Buffered XdrBuffer.writing Item.wire Item.Fits next left →
      left = [] → next.pos = next.buffer.length := by
    intro next held none
    subst none
    exact XdrBuffer.at_end held
  have serves := XdrBuffer.queues.serve_iff empty fits legal ends
  rw [List.map_id] at serves
  exact serves.mpr fun _ _ => trivial

end Builtin

section Csuite
open Csuite

variable {depth : Nat}

theorem packItemT_emits (item : Item) (fits : item.Fits ∧ item.NulFree) (pos : Nat) :
    Emits (writing pos depth) (Csuite.packItem item) () item.wire := by
  cases item with
  | int32 val => exact xdrPackInt32_emits val
  | uint32 val => exact xdrPackUint32_emits val
  | uint64 val => exact xdrPackUint64_emits val
  | bool val =>
      cases val
      · exact xdrPackBool_emits 0
      · exact xdrPackBool_emits 1
  | string s =>
      have emits := @xdrPackCstring_emits pos depth (.block (s ++ [0])) (.inr ⟨_, rfl, by simp⟩)
      rwa [cstring_terminated fits.2, clip_of_short fits.1] at emits
  | varOpaque data =>
      have length := toNat_length fits.1
      have holds : (Ptr.block data).Holds (UInt32.ofNat data.length) :=
        ⟨Ptr.noConfusion, fun _ => ⟨data, rfl, length.le⟩⟩
      have emits := @xdrPackOpaque_emits pos depth (.block data) (UInt32.ofNat data.length) holds
      rwa [bytes_block fits.1] at emits

/-- A string of 2 ^ 32 - 1 bytes overflows its block; every other item comes back. -/
theorem unpackItemT_decodes (item : Item) (fits : item.Fits ∧ item.NulFree) :
    Decodes (reading depth) (Csuite.unpackItem item.kind) item.wire item.HasRoom (· = some item) := by
  cases item with
  | int32 val => exact Decodes.of_reads (Reads.returning (xdrUnpackInt32_reads val) rfl)
  | uint32 val => exact Decodes.of_reads (Reads.returning (xdrUnpackUint32_reads val) rfl)
  | uint64 val => exact Decodes.of_reads (Reads.returning (xdrUnpackUint64_reads val) rfl)
  | bool val =>
      apply Decodes.of_reads
      apply Reads.returning (xdrUnpackBool_reads val)
      cases val <;> rfl
  | string s =>
      apply Decodes.finishing (xdrUnpackCstring_decodes s fits.1)
      intro found same
      subst same
      apply Reads.pure
      rw [Option.map_some, cstring_terminated fits.2]
  | varOpaque data =>
      apply Decodes.of_reads
      apply Reads.returning (xdrUnpackOpaque_reads .null 0 data fits.1)
      show some (Item.varOpaque ((Ptr.block data).bytes (UInt32.ofNat data.length))) = _
      rw [bytes_block fits.1]

theorem machine_views (state : Machine) (before rest : Bytes) :
    writing before.length depth state (before ++ rest) ↔
      reading depth state before rest ∧ 4 ∣ (before ++ rest).length :=
  and_assoc.symm

/-- The C buffer takes back every item that has room for its terminator. -/
theorem machine_queues :
    Queues Csuite.packItem Csuite.unpackItem Item.kind some (fun item => item.Fits ∧ item.NulFree) Item.HasRoom
      (Buffered (fun pos => writing pos depth) Item.wire fun item => item.Fits ∧ item.NulFree) :=
  queues_of_wire machine_views packItemT_emits unpackItemT_decodes

theorem machine_at_end {machine : Machine}
    (held : Buffered (fun pos => writing pos depth) Item.wire (fun item => item.Fits ∧ item.NulFree) machine []) :
    machine.buf.pos = machine.buf.data.length := by
  obtain ⟨_, before, buf, _, _⟩ := held
  simp [buf]

/-- A legal run on an empty C buffer is a run of the queue exactly when each item that is taken has room. -/
theorem machine_serves_iff {operations : List (Operation Item Primitive)} {popped left : List Item}
    (stack : Nat → UInt32) (depth : Nat)
    (fits : ∀ item, .push item ∈ operations → item.Fits ∧ item.NulFree)
    (legal : fifo Item.kind operations [] = some (popped, left)) :
    Csuite.ServesQueue stack depth operations popped left ↔ ∀ item ∈ popped, item.HasRoom := by
  have empty : Buffered (fun pos => writing pos depth) Item.wire (fun item => item.Fits ∧ item.NulFree)
      ⟨⟨[], 0⟩, stack, depth⟩ [] :=
    ⟨List.forall_mem_nil _, [], rfl, rfl, Nat.dvd_zero 4⟩
  apply machine_queues.serve_iff empty fits legal
  intro next held none
  subst none
  exact machine_at_end held

end Csuite

/-- A legal run on the C++ buffer takes the items in their order. The C buffer does the same exactly when every
string that is taken is shorter than 2 ^ 32 - 1 bytes. -/
theorem buffers_serve_queue (operations : List (Operation Item Primitive)) (popped left : List Item)
    (fits : ∀ item, .push item ∈ operations → item.Fits)
    (legal : fifo Item.kind operations [] = some (popped, left)) :
    Builtin.ServesQueue operations popped left ∧
      ((∀ item, .push item ∈ operations → item.NulFree) → ∀ stack depth,
        (Csuite.ServesQueue stack depth operations popped left ↔ ∀ s, .string s ∈ popped →
          s.length < 2 ^ 32 - 1)) := by
  refine ⟨XdrBuffer.serves_queue fits legal, fun clean stack depth => ?_⟩
  rw [machine_serves_iff stack depth (fun item member => ⟨fits item member, clean item member⟩) legal]
  constructor
  · intro roomy s member
    exact roomy (.string s) member
  · intro shorter item member
    cases item with
    | string s => exact shorter s member
    | _ => trivial

/-- The client of this run unpacks while later values are still missing. -/
def mixedOperations : List (Operation Item Primitive) :=
  [.push (.string [97, 98, 99]), .push (.bool true), .pop .string, .push (.varOpaque [0]), .push (.int32 (-7)),
    .pop .bool, .pop .varOpaque, .pop .int32]

theorem buffers_serve_mixed :
    Builtin.ServesQueue mixedOperations [.string [97, 98, 99], .bool true, .varOpaque [0], .int32 (-7)] [] ∧
      Csuite.ServesQueue (fun _ => 0) 0 mixedOperations
        [.string [97, 98, 99], .bool true, .varOpaque [0], .int32 (-7)] [] := by
  have short : ∀ item, .push item ∈ mixedOperations → item.Fits := by
    simp [mixedOperations, Item.Fits, Short]
  have clean : ∀ item, .push item ∈ mixedOperations → item.NulFree := by
    simp [mixedOperations, Item.NulFree]
  obtain ⟨cpp, c⟩ := buffers_serve_queue mixedOperations _ _ short rfl
  refine ⟨cpp, (c clean (fun _ => 0) 0).mpr ?_⟩
  simp

def throughQueue (s : Bytes) : List (Operation Item Primitive) := [.push (.string s), .pop .string]

theorem throughQueue_fits {s : Bytes} (short : Short s) (clean : 0 ∉ s) :
    ∀ item, .push item ∈ throughQueue s → item.Fits ∧ item.NulFree := by
  intro item member
  obtain rfl : item = .string s := by simpa [throughQueue] using member
  exact ⟨short, clean⟩

/-- The C buffer cannot take back a string of 2 ^ 32 - 1 bytes, although the queue returns it. -/
theorem machine_overflows {s : Bytes} (length : s.length = 2 ^ 32 - 1) (clean : 0 ∉ s) (stack : Nat → UInt32)
    (depth : Nat) :
    (∀ item, .push item ∈ throughQueue s → item.Fits ∧ item.NulFree) ∧
      fifo Item.kind (throughQueue s) [] = some ([.string s], []) ∧
      ¬ Csuite.ServesQueue stack depth (throughQueue s) [.string s] [] := by
  have short : Short s := by
    unfold Short
    omega
  have fits := throughQueue_fits short clean
  refine ⟨fits, rfl, ?_⟩
  rw [machine_serves_iff stack depth fits rfl]
  intro roomy
  have shorter : s.length < 2 ^ 32 - 1 := roomy (.string s) (List.mem_singleton_self _)
  omega

def longestString : Bytes := List.replicate (2 ^ 32 - 1) 97

theorem longest_string_overflows :
    (∀ item, .push item ∈ throughQueue longestString → item.Fits ∧ item.NulFree) ∧
      fifo Item.kind (throughQueue longestString) [] = some ([.string longestString], []) ∧
      ¬ Csuite.ServesQueue (fun _ => 0) 0 (throughQueue longestString) [.string longestString] [] := by
  have clean : (0 : UInt8) ∉ longestString := fun member => absurd (List.eq_of_mem_replicate member) (by decide)
  exact machine_overflows List.length_replicate clean _ _

end Nfs3Rpc
