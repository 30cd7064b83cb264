import Nfs3Rpc.Proof.Builtin.Mount

namespace Nfs3Rpc
open Encoding Builtin

/-- A word that passes through a byte string of whole words comes out unchanged. -/
theorem word_shifted {first last data : Bytes} (four : first.length = 4) (whole : 4 ∣ data.length)
    (shifted : first ++ data = data ++ last) : first = last := by
  obtain ⟨count, size⟩ := whole
  induction count generalizing data with
  | zero =>
      obtain rfl : data = [] := List.eq_nil_of_length_eq_zero size
      simpa using shifted
  | succ count shorter =>
      have front : first = data.take 4 := by
        have taken := congrArg (List.take 4) shifted
        rwa [List.take_left' four, List.take_append_of_le_length (by omega)] at taken
      have split : data = first ++ data.drop 4 := by
        rw [front, List.take_append_drop]
      rw [split, List.append_assoc, List.append_cancel_left_eq] at shifted
      exact shorter shifted (by rw [List.length_drop]; omega)

/-- Where a byte string is moved by its own length word, the bytes behind it are those of the length word. -/
theorem word_permuted {first last data : Bytes} (shifted : first ++ data = data ++ last) : first.Perm last := by
  have both : (first ++ data).Perm (last ++ data) := by
    rw [shifted]
    exact List.perm_append_comm
  exact (List.perm_append_right_iff data).mp both

/-- The four bytes after an unpadded string and before the rest of a word zero or one. -/
theorem padding_zeros {flag : UInt32} (small : flag = 0 ∨ flag = 1) {length : Nat} (ragged : padding length ≠ 0) :
    (List.replicate (padding length) 0 ++ be32 flag).take 4 = be32 0 := by
  have three : padding length < 4 := Nat.mod_lt _ (by decide)
  obtain one | two | more : padding length = 1 ∨ padding length = 2 ∨ padding length = 3 := by omega
  · rw [one]
    rcases small with rfl | rfl <;> rfl
  · rw [two]
    rcases small with rfl | rfl <;> rfl
  · rw [more]
    rcases small with rfl | rfl <;> rfl

theorem be32_length_zero {data : Bytes} (short : Short data) (zero : UInt32.ofNat data.length = 0) : data = [] := by
  have size := congrArg UInt32.toNat zero
  rw [UInt32.toNat_ofNat', Nat.mod_eq_of_lt short] at size
  exact List.eq_nil_of_length_eq_zero size

/-- A path is never read from its own text without the length word: what follows it is a word zero or one. -/
theorem path_not_shifted {dir text rest tail : Bytes} {flag : UInt32} (named : OpaqueText dir text)
    (filled : dir ≠ []) (small : flag = 0 ∨ flag = 1) :
    padded dir ++ (be32 flag ++ rest) ≠ text ++ tail := by
  intro same
  obtain @⟨skipped, short, count⟩ := named
  have front := congrArg (List.take (dir.length + 4)) same
  have shifted : be32 (UInt32.ofNat dir.length) ++ dir =
      dir ++ (List.replicate (padding dir.length) 0 ++ be32 flag).take 4 := by
    have left : ([be32 (UInt32.ofNat dir.length), dir, skipped].flatten ++ tail).take (dir.length + 4) =
        be32 (UInt32.ofNat dir.length) ++ dir := by
      have size : (be32 (UInt32.ofNat dir.length) ++ dir).length = dir.length + 4 := by
        simp [Nat.add_comm]
      have fields : [be32 (UInt32.ofNat dir.length), dir, skipped].flatten ++ tail =
          (be32 (UInt32.ofNat dir.length) ++ dir) ++ (skipped ++ tail) := by
        simp
      rw [fields, List.take_left' size]
    have right : (padded dir ++ (be32 flag ++ rest)).take (dir.length + 4) =
        dir ++ (List.replicate (padding dir.length) 0 ++ be32 flag).take 4 := by
      rw [padded, List.append_assoc, List.take_length_add_append, ← List.append_assoc,
        List.take_append_of_le_length (by simp)]
    rw [← left, ← right, front]
  by_cases whole : padding dir.length = 0
  · have aligned : 4 ∣ dir.length := by
      unfold padding at whole
      omega
    rw [whole] at shifted
    have words : be32 (UInt32.ofNat dir.length) = be32 flag := word_shifted rfl aligned shifted
    have size := congrArg UInt32.toNat (be32_injective words)
    rw [UInt32.toNat_ofNat', Nat.mod_eq_of_lt short] at size
    have positive : 0 < dir.length := List.length_pos_iff.mpr filled
    rcases small with rfl | rfl
    · have none : dir.length = 0 := size
      omega
    · have one : dir.length = 1 := size
      omega
  · rw [padding_zeros small whole] at shifted
    have four : be32 0 = List.replicate 4 (0 : UInt8) := rfl
    have zeros : be32 (UInt32.ofNat dir.length) = be32 0 := by
      have permuted := word_permuted shifted
      rw [four] at permuted ⊢
      exact List.perm_replicate.mp permuted
    exact filled (be32_length_zero short (be32_injective zeros))

theorem OpaqueText.plain {data : Bytes} (short : Short data) : OpaqueText data (opaqueBytes data) := by
  have whole := @OpaqueText.whole data (List.replicate (padding data.length) 0) short (by simp)
  simpa [opaqueBytes, padded] using whole

/-- Two texts of one byte string differ only in the padding. -/
theorem OpaqueText.append_inj {data text left right : Bytes} (named : OpaqueText data text)
    (same : opaqueBytes data ++ left = text ++ right) : left = right := by
  obtain @⟨skipped, _, count⟩ := named
  have sizes : (opaqueBytes data).length = [be32 (UInt32.ofNat data.length), data, skipped].flatten.length := by
    simp [opaqueBytes, padded, count]
  exact (List.append_inj same sizes).2

/-- The word that opens a chain is zero or one. -/
theorem chainBytes_opens {α : Type} (wire : α → Bytes) (elements : List α) :
    ∃ flag rest, (flag = 0 ∨ flag = 1) ∧ chainBytes wire elements = be32 flag ++ rest := by
  cases elements with
  | nil => exact ⟨0, [], .inl rfl, by simp [chainBytes]⟩
  | cons element later => exact ⟨1, _, .inr rfl, rfl⟩

/-- A text that the decoder takes for a path and more starts with a nonzero word and the text of the path. -/
theorem ExportsText.first {dir text : Bytes} {dirs : List Bytes} (exports : ExportsText (dir :: dirs) text) :
    ∃ flag named rest, flag ≠ 0 ∧ OpaqueText dir named ∧ text = be32 flag ++ (named ++ rest) := by
  cases exports with
  | @last flag _ named groups set opens listed =>
      exact ⟨flag, named, groups ++ be32 0, set, opens, by simp⟩
  | @more flag again _ named groups later _ set opens listed setAgain rest =>
      exact ⟨flag, named, groups ++ (be32 again ++ later), set, opens, by simp⟩

/-- The decoder does not find a second path where RFC 1813 puts it: it takes the presence word as its own flag,
and the length word of the path as the presence word. -/
theorem second_path_missed {second : Export} {others : List Export} {dirs : List Bytes} {text tail : Bytes}
    (exports : ExportsText (second.dir :: dirs) text) : second.wire ++ exportsWire others ≠ text ++ tail := by
  intro same
  obtain ⟨flag, named, rest, set, opens, rfl⟩ := exports.first
  obtain ⟨word, left, small, chain⟩ := chainBytes_opens opaqueBytes second.groups
  rw [Export.wire, opaqueBytes, chain] at same
  simp only [List.append_assoc] at same
  obtain ⟨length, same⟩ := be32_append_inj.mp same
  have filled : second.dir ≠ [] := by
    intro empty
    rw [empty] at length
    exact set length.symm
  exact path_not_shifted opens filled small same

/-- Behind an export without groups, the decoder is at the right place only when the list ends there. -/
theorem holdsExports_iff_only {first : Export} {rest : List Export} (short : Short first.dir)
    (bare : first.groups = []) :
    HoldsExports (first.dir :: rest.map Export.dir) (exportsWire (first :: rest)) ↔ rest = [] := by
  have wire : exportsWire (first :: rest) = be32 1 ++ (opaqueBytes first.dir ++ (be32 0 ++ exportsWire rest)) := by
    simp [exportsWire, chainBytes, Export.wire, bare]
  rw [wire]
  constructor
  · intro holds
    obtain ⟨text, tail, exports, same⟩ := holds
    cases rest with
    | nil => rfl
    | cons second others =>
        exfalso
        cases exports with
        | @more flag again _ named groups later _ set opens listed setAgain exports =>
            simp only [List.flatten_cons, List.flatten_nil, List.append_assoc, List.append_nil] at same
            have behind := opens.append_inj (be32_append_inj.mp same).2
            have after : exportsWire (second :: others) = be32 again ++ (later ++ tail) := by
              cases listed with
              | absent => exact (be32_append_inj.mp behind).2
              | present set groups =>
                  rw [List.append_assoc] at behind
                  exact absurd (be32_append_inj.mp behind).1.symm set
            exact second_path_missed exports (be32_append_inj.mp after).2
  · rintro rfl
    refine ⟨_, [], @ExportsText.last 1 _ _ _ (by decide) (OpaqueText.plain short) GroupPart.absent, ?_⟩
    simp [exportsWire, chainBytes]

/-- A length word whose first byte is not zero promises more bytes than a short text has. -/
theorem OpaqueText.long {name text tail data : Bytes} {byte : UInt8} (named : OpaqueText name text)
    (same : byte :: data = text ++ tail) (nonzero : byte ≠ 0) : 2 ^ 24 ≤ (byte :: data).length := by
  obtain @⟨skipped, short, _⟩ := named
  have total : name.length ≤ (byte :: data).length := by
    rw [same]
    simp only [List.flatten_cons, List.flatten_nil, List.length_append]
    omega
  have first : byte = (UInt32.ofNat name.length >>> 24).toUInt8 := (List.cons.inj same).1
  by_contra few
  apply nonzero
  rw [first]
  apply UInt8.toNat_inj.mp
  simp only [UInt32.toNat_toUInt8, UInt32.toNat_shiftRight, UInt32.toNat_ofNat', Nat.shiftRight_eq_div_pow,
    UInt32.reduceToNat, Nat.reduceMod, Nat.reducePow]
  change _ = 0
  omega

/-- A name of text is not read as a length word in a short list. -/
theorem OpaqueText.not_text {name group text rest tail : Bytes} (named : OpaqueText name text) (filled : group ≠ [])
    (textual : 0 ∉ group) (few : (padded group ++ rest).length < 2 ^ 24) : padded group ++ rest ≠ text ++ tail := by
  intro same
  cases group with
  | nil => exact filled rfl
  | cons byte data =>
      have nonzero : byte ≠ 0 := fun zero => textual (zero ▸ List.mem_cons_self)
      have long := named.long same nonzero
      exact absurd few (Nat.not_lt.mpr long)

/-- The inner loop sees the length word of the first name as its flag. -/
theorem GroupsText.first_empty {group text rest tail : Bytes} (groups : GroupsText text) (short : Short group)
    (textual : 0 ∉ group) (few : (opaqueBytes group ++ rest).length < 2 ^ 24)
    (same : opaqueBytes group ++ rest = text ++ tail) : group = [] ∧ rest = tail := by
  rw [opaqueBytes, List.append_assoc] at same few
  cases groups with
  | stop =>
      obtain ⟨zero, rests⟩ := be32_append_inj.mp same
      have none := be32_length_zero short zero
      subst none
      exact ⟨rfl, rests⟩
  | @group flag name named later set opens groups =>
      simp only [List.flatten_cons, List.flatten_nil, List.append_assoc, List.append_nil] at same
      obtain ⟨rfl, rests⟩ := be32_append_inj.mp same
      have filled : group ≠ [] := by
        rintro rfl
        exact set rfl
      rw [List.length_append] at few
      exact absurd rests (opens.not_text filled textual (by omega))

theorem GroupPart.first_empty {group part rest tail : Bytes} (listed : GroupPart part) (short : Short group)
    (textual : 0 ∉ group) (few : (opaqueBytes group ++ rest).length < 2 ^ 24)
    (same : be32 1 ++ (opaqueBytes group ++ rest) = part ++ tail) : group = [] ∧ rest = tail := by
  cases listed with
  | absent => exact absurd (be32_append_inj.mp same).1 (by decide)
  | @present flag text set groups =>
      rw [List.append_assoc] at same
      exact groups.first_empty short textual few (be32_append_inj.mp same).2

/-- The outer loop sees the length word of a group name as its flag, and no text after it is a path. -/
theorem ExportsText.second_empty {dirs : List Bytes} {group text rest tail : Bytes} (exports : ExportsText dirs text)
    (short : Short group) (textual : 0 ∉ group) (few : (opaqueBytes group ++ rest).length < 2 ^ 24)
    (same : opaqueBytes group ++ rest = text ++ tail) : group = [] ∧ dirs = [] := by
  rw [opaqueBytes, List.append_assoc] at same few
  cases dirs with
  | nil =>
      cases exports with
      | stop => exact ⟨be32_length_zero short (be32_append_inj.mp same).1, rfl⟩
  | cons dir dirs =>
      obtain ⟨flag, named, left, set, opens, rfl⟩ := exports.first
      simp only [List.append_assoc] at same
      obtain ⟨rfl, rests⟩ := be32_append_inj.mp same
      have filled : group ≠ [] := by
        rintro rfl
        exact set rfl
      rw [List.length_append] at few
      exact absurd rests (opens.not_text filled textual (by omega))

/-- With named groups, a short list is taken for one path when the words behind the first name are zero. -/
theorem holdsExports_iff_unnamed {first : Export} {rest : List Export} {group : Bytes} {later : List Bytes}
    (fits : first.Fits) (textual : first.Textual) (named : first.groups = group :: later)
    (few : (exportsWire (first :: rest)).length < 2 ^ 24) :
    HoldsExports (first.dir :: rest.map Export.dir) (exportsWire (first :: rest)) ↔ first.Unnamed ∧ rest = [] := by
  have wire : exportsWire (first :: rest) = be32 1 ++ (opaqueBytes first.dir ++ (be32 1 ++ (opaqueBytes group ++
      (chainBytes opaqueBytes later ++ exportsWire rest)))) := by
    simp [exportsWire, chainBytes, Export.wire, named]
  have head : group ∈ first.groups := by
    rw [named]
    exact List.mem_cons_self
  rw [wire] at few ⊢
  simp only [List.length_append, be32_length] at few
  constructor
  · intro holds
    obtain ⟨text, tail, exports, same⟩ := holds
    -- What stands behind the path decides: the group part, and then the flag for one more path.
    have behind : ∀ {part left : Bytes}, GroupPart part → be32 1 ++ (opaqueBytes group ++
        (chainBytes opaqueBytes later ++ exportsWire rest)) = part ++ left →
          group = [] ∧ chainBytes opaqueBytes later ++ exportsWire rest = left := fun listed after =>
      listed.first_empty (fits.2 group head) (textual group head) (by simp only [List.length_append]; omega) after
    generalize paths : rest.map Export.dir = dirs at exports
    cases exports with
    | @last flag _ opened part set opens listed =>
        simp only [List.flatten_cons, List.flatten_nil, List.append_assoc, List.append_nil] at same
        obtain ⟨rfl, ends⟩ := behind listed (opens.append_inj (be32_append_inj.mp same).2)
        refine ⟨.inr (.inl ?_), List.map_eq_nil_iff.mp paths⟩
        cases later with
        | nil => exact named
        | cons second others => exact absurd (be32_append_inj.mp ((List.append_assoc ..).symm.trans ends)).1 (by decide)
    | @more flag again _ opened part following _ set opens listed setAgain exports =>
        simp only [List.flatten_cons, List.flatten_nil, List.append_assoc, List.append_nil] at same
        obtain ⟨rfl, ends⟩ := behind listed (opens.append_inj (be32_append_inj.mp same).2)
        cases later with
        | nil => exact absurd (be32_append_inj.mp ends).1.symm setAgain
        | cons second others =>
            have member : second ∈ first.groups := by
              rw [named]
              exact List.mem_cons_of_mem _ List.mem_cons_self
            simp only [chainBytes, List.append_assoc] at ends
            simp only [chainBytes, List.length_append] at few
            obtain ⟨rfl, none⟩ := exports.second_empty (fits.2 second member) (textual second member)
              (by simp only [List.length_append]; omega) (be32_append_inj.mp ends).2
            exact ⟨.inr (.inr ⟨others, named⟩), List.map_eq_nil_iff.mp (paths.trans none)⟩
  · intro held
    obtain ⟨unnamed, rfl⟩ := held
    have empty : opaqueBytes [] = be32 0 := rfl
    have part : GroupPart (be32 1 ++ be32 0) := GroupPart.present (by decide) GroupsText.stop
    rcases unnamed with none | one | ⟨others, two⟩
    · rw [none] at named
      cases named
    · rw [one] at named
      obtain ⟨rfl, rfl⟩ := List.cons.inj named
      refine ⟨_, be32 0, @ExportsText.last 1 _ _ _ (by decide) (OpaqueText.plain fits.1) part, ?_⟩
      simp [exportsWire, chainBytes, empty]
    · rw [two] at named
      obtain ⟨rfl, rfl⟩ := List.cons.inj named
      refine ⟨_, chainBytes opaqueBytes others ++ be32 0, @ExportsText.more 1 1 _ _ _ _ _ (by decide)
        (OpaqueText.plain fits.1) part (by decide) ExportsText.stop, ?_⟩
      simp [exportsWire, chainBytes, empty]

/-- A list without zero bytes in its group names, below 2 ^ 24 bytes, is the decoder's layout only of no export or of
one export that seems to have no groups. -/
theorem holdsExports_iff_textual {exports : List Export} (fits : ∀ entry ∈ exports, entry.Fits)
    (textual : ∀ entry ∈ exports, entry.Textual) (few : (exportsWire exports).length < 2 ^ 24) :
    HoldsExports (exports.map Export.dir) (exportsWire exports) ↔
      exports = [] ∨ ∃ only, exports = [only] ∧ only.Unnamed := by
  cases exports with
  | nil => exact iff_of_true ⟨be32 0, [], ExportsText.stop, rfl⟩ (.inl rfl)
  | cons first rest =>
      have single : HoldsExports (first.dir :: rest.map Export.dir) (exportsWire (first :: rest)) ↔
          first.Unnamed ∧ rest = [] := by
        cases named : first.groups with
        | nil =>
            rw [holdsExports_iff_only (fits first List.mem_cons_self).1 named]
            exact ⟨fun none => ⟨.inl named, none⟩, fun held => held.2⟩
        | cons group later =>
            exact holdsExports_iff_unnamed (fits first List.mem_cons_self) (textual first List.mem_cons_self) named few
      rw [List.map_cons, single]
      constructor
      · intro held
        exact .inr ⟨first, by rw [held.2], held.1⟩
      · intro held
        rcases held with none | ⟨only, same, unnamed⟩
        · cases none
        · obtain ⟨rfl, rfl⟩ := List.cons.inj same
          exact ⟨unnamed, rfl⟩

/-- The decoder returns the paths of an RFC 1813 list exactly when the encoding starts with its own layout of them.
For text names in a list below 2 ^ 24 bytes, and for a first export without groups, this leaves one export at most. -/
theorem exports_parsed_iff (exports : List Export) (fits : ∀ entry ∈ exports, entry.Fits) :
    (xdrUnpackExports (exportsWire exports) [] = .ok (exports.map Export.dir) ↔
      HoldsExports (exports.map Export.dir) (exportsWire exports)) ∧
    ((∀ entry ∈ exports, entry.Textual) → (exportsWire exports).length < 2 ^ 24 →
      (xdrUnpackExports (exportsWire exports) [] = .ok (exports.map Export.dir) ↔
        exports = [] ∨ ∃ only, exports = [only] ∧ only.Unnamed)) ∧
    ∀ first rest, exports = first :: rest → first.groups = [] →
      (xdrUnpackExports (exportsWire exports) [] = .ok (exports.map Export.dir) ↔ rest = []) := by
  rw [xdrUnpackExports_ok_iff]
  refine ⟨Iff.rfl, fun textual few => holdsExports_iff_textual fits textual few, ?_⟩
  rintro first rest rfl bare
  exact holdsExports_iff_only (fits first List.mem_cons_self).1 bare

theorem exports_parsed_small :
    xdrUnpackExports (exportsWire [⟨[47], []⟩]) [] = .ok [[47]] ∧
      xdrUnpackExports (exportsWire [⟨[47], [[]]⟩]) [] = .ok [[47]] := by
  constructor
  · exact ((exports_parsed_iff [⟨[47], []⟩] (by simp [Export.Fits, Short])).2.2 ⟨[47], []⟩ [] rfl rfl).mpr rfl
  · exact ((exports_parsed_iff [⟨[47], [[]]⟩] (by simp [Export.Fits, Short])).2.1 (by simp [Export.Textual])
      (by decide)).mpr (.inr ⟨_, rfl, .inr (.inl rfl)⟩)

/-- Of two exports without groups, the decoder takes the length word of the second path for its presence word. -/
theorem two_exports_missed :
    xdrUnpackExports (exportsWire [⟨[47, 97], []⟩, ⟨[47, 98], []⟩]) [] =
        .error (.insufficientData 0x2F620000 28 8) ∧
      xdrUnpackExports (exportsWire [⟨[47, 97], []⟩, ⟨[47, 98], []⟩]) [] ≠ .ok [[47, 97], [47, 98]] :=
  ⟨rfl, nofun⟩

end Nfs3Rpc
