import Nfs3Rpc.Format.Csuite.Ports
import Mathlib.Tactic

namespace Nfs3Rpc.Csuite.Server
open Encoding

variable {c : UInt8} {text blanks digits sign : Bytes}

theorem isspace_of_isdigit (digit : isdigit c = true) : isspace c = false := by
  simp only [isdigit, isspace, decide_eq_true_eq, decide_eq_false_iff_not] at digit ⊢
  have least := UInt8.le_iff_toNat_le.mp digit.1
  rintro (rfl | ⟨_, most⟩)
  · exact absurd digit.1 (by decide)
  · have most := UInt8.le_iff_toNat_le.mp most
    exact absurd (least.trans most) (by decide)

/-- The number that `strtoul` makes of a sign and its digits. -/
def signedNumber (negative : Bool) (number : Nat) : Nat :=
  if number ≥ 2 ^ 64 then 2 ^ 64 - 1 else if negative then (2 ^ 64 - number) % 2 ^ 64 else number

/-- What `strtoul` does behind the sign. -/
def afterSign (negative : Bool) (text : Bytes) : Option (Nat × Bytes) :=
  if text.takeWhile isdigit = [] then none
  else some (signedNumber negative (decimal (text.takeWhile isdigit)), text.dropWhile isdigit)

theorem strtoul_minus (starts : text.dropWhile isspace = 45 :: digits) : strtoul text = afterSign true digits := by
  simp only [strtoul, starts]
  rfl

theorem strtoul_plus (starts : text.dropWhile isspace = 43 :: digits) : strtoul text = afterSign false digits := by
  simp only [strtoul, starts]
  rfl

theorem strtoul_unsigned (starts : text.dropWhile isspace = digits) (minus : digits.head? ≠ some 45)
    (plus : digits.head? ≠ some 43) : strtoul text = afterSign false digits := by
  simp only [strtoul, starts]
  split
  · exact absurd rfl minus
  · exact absurd rfl plus
  · rfl

theorem afterSign_digits {negative : Bool} (written : digits ≠ []) (base : ∀ c ∈ digits, isdigit c = true) :
    afterSign negative digits = some (signedNumber negative (decimal digits), []) := by
  rw [afterSign, List.takeWhile_eq_self_iff.mpr base, List.dropWhile_eq_nil_iff.mpr base, if_neg written]

/-- Without anything behind them, the digits are the whole text. -/
theorem digits_of_afterSign {negative : Bool} {number : Nat} (taken : afterSign negative digits = some (number, [])) :
    digits ≠ [] ∧ (∀ c ∈ digits, isdigit c = true) ∧ number = signedNumber negative (decimal digits) := by
  rw [afterSign] at taken
  split at taken
  · cases taken
  · rename_i written
    obtain ⟨same, ended⟩ := Prod.mk.inj (Option.some.inj taken)
    have base := List.dropWhile_eq_nil_iff.mp ended
    rw [List.takeWhile_eq_self_iff.mpr base] at written same
    exact ⟨written, base, same.symm⟩

/-- The white space in front of anything else is skipped. -/
theorem blanks_dropped (blank : ∀ c ∈ blanks, isspace c = true) (other : ∀ c ∈ text.head?, isspace c = false) :
    (blanks ++ text).dropWhile isspace = text := by
  rw [List.dropWhile_append_of_pos blank]
  cases text with
  | nil => rfl
  | cons c text => rw [List.dropWhile_cons_of_neg (by simp [other c rfl])]

/-- A text of the grammar has its port. -/
theorem PortText.strtoul {port : Nat} (text' : PortText text port) : strtoul text = some (port, []) := by
  obtain ⟨blank, signed, written, base, valid, small⟩ := text'
  rename_i blanks sign digits
  obtain ⟨first, rest, rfl⟩ := List.exists_cons_of_ne_nil written
  have digit := base first List.mem_cons_self
  rw [List.append_assoc]
  cases signed with
  | unsigned =>
      have starts : (blanks ++ ([] ++ first :: rest)).dropWhile isspace = first :: rest :=
        blanks_dropped blank fun c head => Option.some.inj head ▸ isspace_of_isdigit digit
      rw [strtoul_unsigned starts, afterSign_digits written base, signedNumber, if_neg (by omega),
        if_neg Bool.false_ne_true]
      · rintro same
        cases same
        exact absurd digit (by decide)
      · rintro same
        cases same
        exact absurd digit (by decide)
  | plus =>
      have starts : (blanks ++ ([43] ++ first :: rest)).dropWhile isspace = 43 :: first :: rest :=
        blanks_dropped blank fun c head => Option.some.inj head ▸ rfl
      rw [strtoul_plus starts, afterSign_digits written base, signedNumber, if_neg (by omega),
        if_neg Bool.false_ne_true]
  | minus below =>
      have starts : (blanks ++ ([45] ++ first :: rest)).dropWhile isspace = 45 :: first :: rest :=
        blanks_dropped blank fun c head => Option.some.inj head ▸ rfl
      rw [strtoul_minus starts, afterSign_digits written base, signedNumber, if_neg (by omega), if_pos rfl,
        Nat.mod_eq_of_lt (by omega)]

/-- A text that `strtoul` takes whole is in the grammar, if its number is in range. -/
theorem portText_of_strtoul {port : Nat} (taken : Server.strtoul text = some (port, [])) (valid : 0 < port)
    (small : port ≤ 65535) : PortText text port := by
  have parts : text.takeWhile isspace ++ text.dropWhile isspace = text := List.takeWhile_append_dropWhile
  have blank : ∀ c ∈ text.takeWhile isspace, isspace c = true := fun c member => List.mem_takeWhile_imp member
  rw [← parts]
  by_cases minus : ∃ digits, text.dropWhile isspace = 45 :: digits
  · obtain ⟨digits, starts⟩ := minus
    rw [strtoul_minus starts] at taken
    obtain ⟨written, base, same⟩ := digits_of_afterSign taken
    rw [signedNumber, if_pos rfl] at same
    split at same
    · omega
    · rename_i below
      have signed : Signed [45] (decimal digits) port := by
        have value : port = 2 ^ 64 - decimal digits := by omega
        rw [value]
        exact .minus (by omega)
      have grammar := PortText.number blank signed written base valid small
      rwa [List.append_assoc, List.singleton_append, ← starts] at grammar
  by_cases plus : ∃ digits, text.dropWhile isspace = 43 :: digits
  · obtain ⟨digits, starts⟩ := plus
    rw [strtoul_plus starts] at taken
    obtain ⟨written, base, same⟩ := digits_of_afterSign taken
    rw [signedNumber, if_neg Bool.false_ne_true] at same
    split at same
    · omega
    · subst same
      have grammar := PortText.number blank Signed.plus written base valid small
      rwa [List.append_assoc, List.singleton_append, ← starts] at grammar
  · have other : ∀ c : UInt8, (text.dropWhile isspace).head? = some c →
      ∃ digits, text.dropWhile isspace = c :: digits := by
      intro c head
      cases starts : text.dropWhile isspace with
      | nil =>
          rw [starts] at head
          cases head
      | cons first rest =>
          rw [starts] at head
          exact ⟨rest, by rw [Option.some.inj head]⟩
    rw [strtoul_unsigned rfl (fun head => minus (other 45 head)) (fun head => plus (other 43 head))] at taken
    obtain ⟨written, base, same⟩ := digits_of_afterSign taken
    rw [signedNumber, if_neg Bool.false_ne_true] at same
    split at same
    · omega
    · subst same
      have grammar := PortText.number blank Signed.unsigned written base valid small
      rwa [List.append_nil] at grammar

theorem not_portText_nil {port : Nat} : ¬ PortText [] port := by
  intro taken
  have none := taken.strtoul
  cases none

/-- The port of a variable that is set. -/
def portOf (text : Bytes) : UInt16 :=
  match strtoul text with
  | none => 0
  | some (port, rest) => if rest ≠ [] ∨ port = 0 ∨ port > 65535 then 0 else UInt16.ofNat port

/-- Only a number that two bytes hold, and not zero, is a port. -/
theorem portOf_iff {port : UInt16} : (portOf text = port ∧ port ≠ 0) ↔ PortText text port.toNat := by
  rw [portOf]
  constructor
  · rintro ⟨same, nonzero⟩
    split at same
    · exact absurd same.symm nonzero
    · rename_i number rest taken
      split at same
      · exact absurd same.symm nonzero
      · rename_i valid
        push Not at valid
        obtain ⟨rfl, positive, small⟩ := valid
        have value : port.toNat = number := by
          rw [← same, UInt16.toNat_ofNat_of_lt' (by simp [UInt16.size]; omega)]
        rw [value]
        exact portText_of_strtoul taken (by omega) (by omega)
  · intro taken
    have number := taken.strtoul
    obtain ⟨_, _, _, _, valid, small⟩ := taken
    rw [number]
    constructor
    · dsimp only
      rw [if_neg (by simp; omega), UInt16.ofNat_toNat]
    · rintro rfl
      exact absurd valid (by decide)

/-- The server has this port exactly when the variable holds a text of the grammar, or when it holds no text and the
port is that of NFS. -/
theorem nfs3ServerPort_iff (env : Environment) (port : UInt16) :
    (nfs3ServerPort env = port ∧ port ≠ 0) ↔
      (port = 2049 ∧ ∀ text ∈ env.testPort, text.bytes = []) ∨ ∃ text ∈ env.testPort,
        PortText text.bytes port.toNat := by
  have standard : (2049 = port ∧ port ≠ 0) ↔ port = 2049 := by
    constructor
    · rintro ⟨rfl, _⟩
      rfl
    · rintro rfl
      exact ⟨rfl, by decide⟩
  cases set : env.testPort with
  | none =>
      have unset : nfs3ServerPort env = 2049 := by rw [nfs3ServerPort, set]
      simpa [unset] using standard
  | some text =>
      by_cases empty : text.bytes = []
      · have cleared : nfs3ServerPort env = 2049 := by
          rw [nfs3ServerPort, set]
          exact if_pos empty
        simpa [cleared, empty, not_portText_nil] using standard
      · have taken : nfs3ServerPort env = portOf text.bytes := by
          rw [nfs3ServerPort, set]
          exact if_neg empty
        rw [taken, portOf_iff]
        simp [empty]

/-- A minus sign counts down from 2 ^ 64, so that this text names port 2049 too. -/
example : nfs3ServerPort { testPort := some ⟨[45, 49, 56, 52, 52, 54, 55, 52, 52, 48, 55, 51, 55, 48, 57, 53, 52, 57,
    53, 54, 55], by decide⟩ } = 2049 := by decide

end Nfs3Rpc.Csuite.Server
