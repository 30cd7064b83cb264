/-
This file is a byte string in the memory of a host, and a cursor whose sums wrap at the size type of that host.
Every copy leaves the indices that it has read.
-/

import Nfs3Rpc.Encoding.Triples

namespace Nfs3Rpc.Encoding

/-- No object has more bytes than the signed difference of two of its addresses can count. -/
structure HostBytes (bits : Nat) where
  data : Bytes
  fits : data.length < 2 ^ (bits - 1)

/-- A sum of two sizes keeps its low bits. -/
def sizeSum (bits first second : Nat) : Nat := (first + second) % 2 ^ bits

structure Reader (bits : Nat) where
  memory : HostBytes bits
  pos : Nat
  copied : List Nat

variable {bits : Nat}

def Reader.start (memory : HostBytes bits) : Reader bits := ⟨memory, 0, []⟩

def Reader.size (reader : Reader bits) : Nat := reader.memory.data.length

/-- The copy reads one index after the other. -/
def Reader.copy (reader : Reader bits) (count : Nat) : Reader bits :=
  { reader with copied := reader.copied ++ List.range' reader.pos count }

def Reader.slice (reader : Reader bits) (count : Nat) : Bytes := (reader.memory.data.drop reader.pos).take count

def Reader.advance (reader : Reader bits) (count : Nat) : Reader bits :=
  { reader with pos := sizeSum bits reader.pos count }

/-- A copy that reads behind the last byte has no defined result. -/
def copyBytes {ε : Type} (undefined : ε) (count : Nat) : EStateM ε (Reader bits) Bytes := do
  let reader ← get
  set (reader.copy count)
  if reader.pos + count > reader.size then
    throw undefined
  return reader.slice count

def advance {ε : Type} (count : Nat) : EStateM ε (Reader bits) Unit := modify fun reader => reader.advance count

/-- From here on, copies have stayed below the size, and the cursor has not moved back nor too far. -/
structure Reader.Onward (first reader : Reader bits) : Prop where
  memory : reader.memory = first.memory
  forward : first.pos ≤ reader.pos
  bounded : reader.pos ≤ first.size + 3
  inside : ∀ index ∈ reader.copied, index < first.size

/-- The cursor stands at a byte or right behind the last one. -/
def Reader.Onto (first reader : Reader bits) : Prop := first.Onward reader ∧ reader.pos ≤ first.size

/-- Every copy of the reader has stayed inside the byte string, and its cursor is at most three bytes behind it. -/
structure Reader.Inside (memory : HostBytes bits) (reader : Reader bits) : Prop where
  same : reader.memory = memory
  bounded : reader.pos ≤ memory.data.length + 3
  copied : ∀ index ∈ reader.copied, index < memory.data.length

theorem Reader.start_inside (memory : HostBytes bits) : (Reader.start memory).Inside memory :=
  ⟨rfl, Nat.zero_le _, List.forall_mem_nil _⟩

theorem Reader.Inside.rewound {memory : HostBytes bits} {reader : Reader bits} (inside : reader.Inside memory) :
    Reader.Inside memory { reader with pos := 0 } := ⟨inside.same, Nat.zero_le _, inside.copied⟩

theorem Reader.Inside.onward {memory : HostBytes bits} {reader : Reader bits} (inside : reader.Inside memory) :
    reader.Onward reader where
  memory := rfl
  forward := Nat.le_refl _
  bounded := by
    rw [Reader.size, inside.same]
    exact inside.bounded
  inside := by
    rw [Reader.size, inside.same]
    exact inside.copied

theorem Reader.Onward.stays {memory : HostBytes bits} {first reader : Reader bits} (inside : first.Inside memory)
    (onward : first.Onward reader) : reader.Inside memory where
  same := onward.memory.trans inside.same
  bounded := by
    rw [← inside.same]
    exact onward.bounded
  copied := by
    rw [← inside.same]
    exact onward.inside

/-- A sum below the range of the size type does not wrap. -/
theorem sizeSum_small {first second : Nat} (small : first + second < 2 ^ bits) :
    sizeSum bits first second = first + second := Nat.mod_eq_of_lt small

theorem Reader.Onward.size {first reader : Reader bits} (onward : first.Onward reader) : reader.size = first.size := by
  rw [Reader.size, onward.memory, Reader.size]

/-- A checked copy moves the cursor behind the bytes that it has read. -/
theorem Reader.Onward.copied {first reader : Reader bits} (onward : first.Onward reader) {count : Nat}
    (space : reader.pos + count ≤ first.size) : first.Onward (reader.copy count) where
  memory := onward.memory
  forward := onward.forward
  bounded := onward.bounded
  inside := by
    intro index member
    rcases List.mem_append.mp member with earlier | read
    · exact onward.inside index earlier
    · have range := List.mem_range'_1.mp read
      omega

theorem Reader.Onward.advanced {first reader : Reader bits} (onward : first.Onward reader) {count : Nat}
    (space : reader.pos + count ≤ first.size + 3) (small : first.size + 3 < 2 ^ bits) :
    first.Onward (reader.advance count) := by
  have sum : (reader.advance count).pos = reader.pos + count := sizeSum_small (by omega)
  have forward := onward.forward
  exact ⟨onward.memory, by omega, by omega, onward.inside⟩

/-- The cursor and the bytes to read are inside. -/
def Reader.Covers (first : Reader bits) (count : Nat) (reader : Reader bits) : Prop :=
  first.Onward reader ∧ reader.pos + count ≤ first.size

theorem copyBytes_exits {ε : Type} {undefined : ε} {first : Reader bits} {count : Nat} :
    Exits (first.Covers count) (copyBytes undefined count) (fun _ => first.Covers count) first.Onward := by
  apply Exits.looking
  intro reader covers
  have inside := covers.2
  rw [← covers.1.size] at inside
  apply Exits.setting
  apply Exits.unless
  · intro beyond
    omega
  · intro _
    apply Exits.pure
    intro state same
    rw [same]
    exact ⟨covers.1.copied covers.2, covers.2⟩

theorem advance_exits {ε : Type} {first : Reader bits} {count : Nat} (small : first.size + 3 < 2 ^ bits) :
    Exits (first.Covers count) (advance count : EStateM ε (Reader bits) Unit) (fun _ => first.Onto)
      first.Onward := by
  apply Exits.modify
  intro reader covers
  have space := covers.2
  have sum : (reader.advance count).pos = reader.pos + count := sizeSum_small (by omega)
  have bounded : (reader.advance count).pos ≤ first.size := by omega
  exact ⟨covers.1.advanced (by omega) small, bounded⟩

/-- Padding may lead past the end, by less than a word. -/
theorem skip_exits {ε : Type} {first : Reader bits} {count : Nat} (short : count ≤ 3)
    (small : first.size + 3 < 2 ^ bits) :
    Exits first.Onto (advance count : EStateM ε (Reader bits) Unit) (fun _ => first.Onward) first.Onward := by
  apply Exits.modify
  intro reader onto
  have bounded := onto.2
  exact onto.1.advanced (by omega) small

/-- The cursor is a number of the size type, and the bytes are those of the start. -/
def Reader.Sized (memory : HostBytes bits) (reader : Reader bits) : Prop :=
  reader.memory = memory ∧ reader.pos < 2 ^ bits

theorem copyBytes_sized {ε : Type} {undefined : ε} {memory : HostBytes bits} (count : Nat) :
    Exits (Reader.Sized memory) (copyBytes undefined count) (fun _ => Reader.Sized memory) (Reader.Sized memory) := by
  apply Exits.looking
  intro reader sized
  apply Exits.setting
  have copied : ∀ state, state = reader.copy count → state.Sized memory := fun _ same => same ▸ sized
  exact Exits.unless (fun _ => copied) fun _ => Exits.pure copied

theorem advance_sized {ε : Type} {memory : HostBytes bits} (count : Nat) :
    Exits (Reader.Sized memory) (advance count : EStateM ε (Reader bits) Unit) (fun _ => Reader.Sized memory)
      (Reader.Sized memory) :=
  Exits.modify fun _ sized => ⟨sized.1, Nat.mod_lt _ (Nat.two_pow_pos bits)⟩

end Nfs3Rpc.Encoding
