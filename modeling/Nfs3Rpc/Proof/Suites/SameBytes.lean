import Nfs3Rpc.Format.Suites
import Nfs3Rpc.Proof.Builtin.RoundTrip
import Nfs3Rpc.Proof.Csuite.RoundTrip

namespace Nfs3Rpc
open Encoding Builtin Csuite

theorem packOnly_checks (s : Bytes) : Checks (packString s) (∀ t ∈ [s], Short t) := by
  intro state value next runs t member
  rw [List.mem_singleton.mp member]
  exact packString_checks s state value next runs

/-- Only arguments with short strings are written. -/
theorem ProcNum.serializeArgs_checks (proc : ProcNum) (args : proc.Args) (shares : proc.sharesArgs = true) :
    Checks (proc.serializeArgs args) (∀ s ∈ proc.argsStrings args, Short s) := by
  cases proc with
  | SETATTR | CREATE | MKDIR | SYMLINK | MKNOD => exact nomatch shares
  | LOOKUP | REMOVE | RMDIR => exact .later fun _ => packOnly_checks _
  | LINK => exact .later fun _ => .later fun _ => packOnly_checks _
  | RENAME =>
      have fromName : Checks (do packString args.fromName; args.toDir.serialize; packString args.toName)
        (Short args.fromName) := .here (packString_checks args.fromName)
      have toName : Checks (do packString args.fromName; args.toDir.serialize; packString args.toName)
        (Short args.toName) := .later fun _ => .later fun _ => packString_checks _
      apply Checks.later
      intro _ state value next runs s member
      obtain ⟨fromShort, toShort⟩ := fromName.both toName state value next runs
      rcases List.mem_pair.mp member with rfl | rfl
      · exact fromShort
      · exact toShort
  | _ => exact fun _ _ _ _ => List.forall_mem_nil _

theorem Entry3.serialize_checks (entry : Entry3) (nextentry : List Entry3) :
    Checks (entry.serialize nextentry) (∀ e ∈ entry :: nextentry, Short e.name) := by
  induction nextentry generalizing entry with
  | nil =>
      rw [Entry3.serialize]
      have first := packString_checks entry.name
      intro state value next runs e member
      rw [List.mem_singleton.mp member]
      exact Checks.later (fun _ => Checks.here first) state value next runs
  | cons next rest recurse =>
      rw [Entry3.serialize]
      have first := packString_checks entry.name
      intro state value last runs
      rw [List.forall_mem_cons]
      constructor
      · exact Checks.later (fun _ => Checks.here first) state value last runs
      · exact Checks.later (fun _ => .later fun _ => .later fun _ => .later fun _ => recurse next)
          state value last runs

theorem Dirlist3.serialize_checks (list : Dirlist3) :
    Checks list.serialize (∀ s ∈ list.entries.map Entry3.name, Short s) := by
  obtain ⟨entries, eof⟩ := list
  cases entries with
  | nil => exact fun _ _ _ _ => List.forall_mem_nil _
  | cons first rest =>
      intro state value next runs
      rw [List.forall_mem_map]
      exact Checks.later (fun _ => Checks.here (first.serialize_checks rest)) state value next runs

theorem Res.serialize_checks {ok : Type} {okSerialize : ok → Xdr Unit} {okStrings : ok → List Bytes}
    (res : Res ok) (matching : res.status = .NFS3_OK ↔ res.resok.isSome = true)
    (inner : ∀ resok, Checks (okSerialize resok) (∀ s ∈ okStrings resok, Short s)) :
    Checks (Res.serialize okSerialize res) (∀ s ∈ res.resok.toList.flatMap okStrings, Short s) := by
  obtain ⟨status, resok⟩ := res
  cases resok with
  | none => exact fun _ _ _ _ => List.forall_mem_nil _
  | some resok =>
      obtain rfl : status = .NFS3_OK := matching.mpr rfl
      simp only [Option.toList_some, List.flatMap_cons, List.flatMap_nil, List.append_nil]
      exact Checks.later fun _ => inner resok

theorem ProcNum.serializeRes_checks (proc : ProcNum) (res : Res proc.Resok) (shares : proc.sharesRes = true)
    (matching : res.status = .NFS3_OK ↔ res.resok.isSome = true) :
    Checks (proc.serializeRes res) (∀ s ∈ resStrings proc res, Short s) := by
  cases proc with
  | READLINK => exact Res.serialize_checks res matching fun _ => .later fun _ => packOnly_checks _
  | READDIR =>
      exact Res.serialize_checks res matching fun _ => .later fun _ => .later fun _ =>
        Dirlist3.serialize_checks _
  | READ | WRITE | CREATE | MKDIR | SYMLINK | MKNOD | READDIRPLUS | COMMIT => exact nomatch shares
  | _ => exact Res.serialize_checks res matching fun _ _ _ _ _ => List.forall_mem_nil _

theorem PostOpAttr.wire_visible (attr : PostOpAttr) : attr.visible.wire = attr.wire := by
  obtain ⟨follow, attributes⟩ := attr
  cases follow <;> rfl

theorem PreOpAttr.wire_visible (attr : PreOpAttr) : attr.visible.wire = attr.wire := by
  obtain ⟨check, attributes⟩ := attr
  cases check <;> rfl

theorem WccData.wire_visible (wcc : WccData) : wcc.visible.wire = wcc.wire := by
  simp only [WccData.wire, WccData.visible, wcc.before.wire_visible, wcc.after.wire_visible]

/-- Hidden fields do not travel. -/
theorem ProcNum.resokWire_visible (proc : ProcNum) (resok : proc.Resok) (shares : proc.sharesRes = true) :
    proc.resokWire (proc.visibleResok resok) = proc.resokWire resok := by
  cases proc with
  | READ | WRITE | CREATE | MKDIR | SYMLINK | MKNOD | READDIRPLUS | COMMIT => exact nomatch shares
  | GETATTR => rfl
  | SETATTR => exact WccData.wire_visible _
  | LOOKUP =>
      change LOOKUP3resok.wire (LOOKUP3resok.visible resok) = LOOKUP3resok.wire resok
      simp only [LOOKUP3resok.wire, LOOKUP3resok.visible, PostOpAttr.wire_visible]
  | ACCESS =>
      change ACCESS3resok.wire (ACCESS3resok.visible resok) = ACCESS3resok.wire resok
      simp only [ACCESS3resok.wire, ACCESS3resok.visible, PostOpAttr.wire_visible]
  | READLINK =>
      change READLINK3resok.wire (READLINK3resok.visible resok) = READLINK3resok.wire resok
      simp only [READLINK3resok.wire, READLINK3resok.visible, PostOpAttr.wire_visible]
  | REMOVE => exact WccData.wire_visible _
  | RMDIR => exact WccData.wire_visible _
  | RENAME =>
      change RENAME3resok.wire (RENAME3resok.visible resok) = RENAME3resok.wire resok
      simp only [RENAME3resok.wire, RENAME3resok.visible, WccData.wire_visible]
  | LINK =>
      change LINK3resok.wire (LINK3resok.visible resok) = LINK3resok.wire resok
      simp only [LINK3resok.wire, LINK3resok.visible, PostOpAttr.wire_visible, WccData.wire_visible]
  | READDIR =>
      change READDIR3resok.wire (READDIR3resok.visible resok) = READDIR3resok.wire resok
      simp only [READDIR3resok.wire, READDIR3resok.visible, PostOpAttr.wire_visible]
  | FSSTAT =>
      change FSSTAT3resok.wire (FSSTAT3resok.visible resok) = FSSTAT3resok.wire resok
      simp only [FSSTAT3resok.wire, FSSTAT3resok.visible, PostOpAttr.wire_visible]
  | FSINFO =>
      change FSINFO3resok.wire (FSINFO3resok.visible resok) = FSINFO3resok.wire resok
      simp only [FSINFO3resok.wire, FSINFO3resok.visible, PostOpAttr.wire_visible]
  | PATHCONF =>
      change PATHCONF3resok.wire (PATHCONF3resok.visible resok) = PATHCONF3resok.wire resok
      simp only [PATHCONF3resok.wire, PATHCONF3resok.visible, PostOpAttr.wire_visible]

theorem ProcNum.resWire_visible (proc : ProcNum) (res : Res proc.Resok) (shares : proc.sharesRes = true) :
    proc.resWire (proc.visibleRes res) = proc.resWire res := by
  obtain ⟨status, resok⟩ := res
  cases resok with
  | none => rfl
  | some resok => simp [ProcNum.resWire, ProcNum.visibleRes, proc.resokWire_visible resok shares]

theorem ProcNum.resokStrings_visible (proc : ProcNum) (resok : proc.Resok) (shares : proc.sharesRes = true) :
    proc.resokStrings (proc.visibleResok resok) = proc.resokStrings resok := by
  cases proc with
  | READDIRPLUS => exact nomatch shares
  | _ => rfl

theorem ProcNum.resStrings_visible (proc : ProcNum) (res : Res proc.Resok) (shares : proc.sharesRes = true) :
    resStrings proc (proc.visibleRes res) = resStrings proc res := by
  obtain ⟨status, resok⟩ := res
  cases resok with
  | none => rfl
  | some resok => simp [resStrings, ProcNum.visibleRes, proc.resokStrings_visible resok shares]

/-- A shared reply travels as the C++ result that it stands for. -/
theorem ProcNum.wireReply_shared (proc : ProcNum) (reply : proc.Reply) (res : Res proc.Resok)
    (shares : proc.sharesRes = true) (same : proc.replyRes reply = some res) :
    proc.wireReply reply = proc.resWire res ∧ proc.replyStrings reply = resStrings proc res := by
  cases proc with
  | READ | WRITE | CREATE | MKDIR | SYMLINK | MKNOD | READDIRPLUS | COMMIT => exact nomatch shares
  | _ =>
      obtain rfl := Option.some.inj same
      exact ⟨rfl, rfl⟩

section
variable {pack : Run Unit} {serialize : Xdr Unit} {wire : Bytes} {short : Prop}

/-- The C++ writer throws at a long string, and otherwise both writers send the same message. -/
theorem sameBytes_iff (packs : ∀ pos depth, Emits (writing pos depth) pack () wire)
    (checks : Checks serialize short)
    (serializes : short → ∀ pos, Emits (XdrBuffer.writing pos) serialize () wire) :
    SameBytes pack serialize ↔ short := by
  constructor
  · intro same
    obtain ⟨bytes, stack, _, runs⟩ := same [] (fun _ => 0) 0 0 (Nat.dvd_zero 4)
    exact checks _ _ _ runs
  · intro holds packed stack pos depth aligned
    obtain ⟨_, written, view⟩ :=
      packs pos depth ⟨⟨packed, pos⟩, stack, depth⟩ packed ⟨rfl, rfl, aligned⟩
    obtain ⟨⟨stack', rfl⟩, _⟩ := writing_iff.mp view
    obtain ⟨_, serialized, rfl, _⟩ := serializes holds pos ⟨packed, pos⟩ packed ⟨rfl, aligned⟩
    exact ⟨wire, stack', written, serialized⟩

end

theorem ProcNum.wireArgsT_shared (proc : ProcNum) (args : proc.Args) (shares : proc.sharesArgs = true) :
    proc.wireArgsT args = proc.argsWire args ∧ proc.visibleArgs args = args := by
  cases proc with
  | SETATTR | CREATE | MKDIR | SYMLINK | MKNOD => exact nomatch shares
  | _ => exact ⟨rfl, rfl⟩

/-- A C value holds no handle or file data that the C++ suite refuses. -/
theorem ProcNum.messageArgs_fit (proc : ProcNum) (args : proc.ArgsT) (shares : proc.sharesArgs = true)
    (short : ∀ s ∈ proc.argsStrings (proc.messageArgs args), Short s) : proc.ArgsFit (proc.messageArgs args) := by
  have first : ∀ s tail, proc.argsStrings (proc.messageArgs args) = s :: tail → Short s :=
    fun s _ same => short s (same ▸ List.mem_cons_self)
  have second : ∀ s t, proc.argsStrings (proc.messageArgs args) = [s, t] → Short t :=
    fun s t same => short t (same ▸ List.mem_cons_of_mem s List.mem_cons_self)
  cases proc with
  | SETATTR | CREATE | MKDIR | SYMLINK | MKNOD => exact nomatch shares
  | LOOKUP | REMOVE | RMDIR => exact ⟨Ptr.bytes_short _ _, first _ _ rfl⟩
  | WRITE => exact ⟨Ptr.bytes_short _ _, Ptr.bytes_short _ _⟩
  | RENAME => exact ⟨Ptr.bytes_short _ _, first _ _ rfl, Ptr.bytes_short _ _, second _ _ rfl⟩
  | LINK => exact ⟨Ptr.bytes_short _ _, Ptr.bytes_short _ _, first _ _ rfl⟩
  | _ => exact Ptr.bytes_short _ _

theorem ProcNum.args_same_bytes_iff (proc : ProcNum) (shares : proc.sharesArgs = true) (c : proc.ArgsT)
    (cpp : proc.Args) (formed : proc.WellFormedArgs c) (same : proc.SameArgs c cpp) :
    SameBytes (proc.packArgs c) (proc.serializeArgs cpp) ↔ ∀ s ∈ proc.argsStrings cpp, Short s := by
  rw [ProcNum.SameArgs, (proc.wireArgsT_shared cpp shares).2] at same
  subst same
  refine sameBytes_iff (fun _ _ => proc.packArgs_emits c formed) (proc.serializeArgs_checks _ shares) ?_
  intro short pos
  rw [proc.clippedArgs_of_short _ short, (proc.wireArgsT_shared _ shares).1]
  exact proc.serializeArgs_emits _ (proc.messageArgs_fit c shares short)

theorem matching_of_same {ok : Type} {proc : ProcNum} {message : ok → proc.Resok} {c : Csuite.ResT ok}
    {cpp : Res proc.Resok} (matching : c.status = .NFS3_OK ↔ c.hasResok ≠ 0)
    (same : ResT.message message c = proc.visibleRes cpp) :
    cpp.status = .NFS3_OK ↔ cpp.resok.isSome = true := by
  have status : c.status = cpp.status := congrArg Res.status same
  have present : (whenSet c.hasResok (message c.resok)).isSome = cpp.resok.isSome := by
    have fields := congrArg (fun res => res.resok.isSome) same
    rwa [ProcNum.visibleRes, Option.isSome_map] at fields
  rw [← status, ← present, matching, whenSet]
  by_cases zero : c.hasResok = 0 <;> simp [zero]

theorem ProcNum.resMatching_of_same (proc : ProcNum) (c : proc.ResT) (cpp : Res proc.Resok)
    (shares : proc.sharesRes = true) (formed : proc.WellFormedRes c) (same : proc.SameRes c cpp) :
    cpp.status = .NFS3_OK ↔ cpp.resok.isSome = true := by
  cases proc with
  | READ | WRITE | CREATE | MKDIR | SYMLINK | MKNOD | READDIRPLUS | COMMIT => exact nomatch shares
  | _ => exact matching_of_same formed.1 (Option.some.inj same)

theorem lookup_fits_of_same (c : Csuite.ResT LOOKUP3resokT) (cpp : Res LOOKUP3resok) (resok : LOOKUP3resok)
    (same : ResT.message LOOKUP3resokT.message c = ProcNum.LOOKUP.visibleRes cpp)
    (present : cpp.resok = some resok) : resok.object.Fits := by
  have arrived : whenSet c.hasResok c.resok.message = cpp.resok.map LOOKUP3resok.visible :=
    congrArg Res.resok same
  rw [present, Option.map_some, whenSet] at arrived
  split at arrived
  · have object : c.resok.object.message = resok.object :=
      congrArg LOOKUP3resok.object (Option.some.inj arrived)
    rw [← object]
    exact Ptr.bytes_short _ _
  · cases arrived

/-- A C++ result that stands for a C value can be written when its strings are short. -/
theorem ProcNum.resFit_of_same (proc : ProcNum) (c : proc.ResT) (cpp : Res proc.Resok)
    (shares : proc.sharesRes = true) (formed : proc.WellFormedRes c) (same : proc.SameRes c cpp)
    (short : ∀ s ∈ resStrings proc cpp, Short s) : proc.ResFit cpp := by
  refine ⟨proc.resMatching_of_same c cpp shares formed same, fun resok present => ?_⟩
  have inner : ∀ s ∈ proc.resokStrings resok, Short s := by
    intro s member
    exact short s (List.mem_flatMap.mpr ⟨resok, by simpa using present, member⟩)
  cases proc with
  | READ | WRITE | CREATE | MKDIR | SYMLINK | MKNOD | READDIRPLUS | COMMIT => exact nomatch shares
  | LOOKUP => exact lookup_fits_of_same c cpp resok (Option.some.inj same) present
  | READLINK => exact inner _ List.mem_cons_self
  | READDIR => exact fun e member => inner _ (List.mem_map_of_mem member)
  | _ => trivial

theorem ProcNum.res_same_bytes_iff (proc : ProcNum) (shares : proc.sharesRes = true) (c : proc.ResT)
    (cpp : Res proc.Resok) (formed : proc.WellFormedRes c) (same : proc.SameRes c cpp) :
    SameBytes (proc.packRes c) (proc.serializeRes cpp) ↔ ∀ s ∈ resStrings proc cpp, Short s := by
  obtain ⟨wire, strings⟩ := proc.wireReply_shared _ _ shares same
  rw [proc.resWire_visible cpp shares] at wire
  rw [proc.resStrings_visible cpp shares] at strings
  have matching := proc.resMatching_of_same c cpp shares formed same
  refine sameBytes_iff (fun _ _ => proc.packRes_emits c formed)
    (proc.serializeRes_checks cpp shares matching) ?_
  intro short pos
  rw [proc.clippedReply_of_short _ (by rwa [strings]), wire]
  exact proc.serializeRes_emits cpp (proc.resFit_of_same c cpp shares formed same short)

/-- The two suites write the same bytes for the same message exactly when its strings have a length word. -/
theorem ProcNum.suites_same_bytes_iff (proc : ProcNum) :
    (proc.sharesArgs = true → ∀ c cpp, proc.WellFormedArgs c → proc.SameArgs c cpp →
      (SameBytes (proc.packArgs c) (proc.serializeArgs cpp) ↔ ∀ s ∈ proc.argsStrings cpp, Short s)) ∧
    (proc.sharesRes = true → ∀ c cpp, proc.WellFormedRes c → proc.SameRes c cpp →
      (SameBytes (proc.packRes c) (proc.serializeRes cpp) ↔ ∀ s ∈ resStrings proc cpp, Short s)) :=
  ⟨proc.args_same_bytes_iff, proc.res_same_bytes_iff⟩

/-- Both suites write the same LOOKUP arguments and the same READDIR result here. -/
theorem ProcNum.suites_same_bytes_small :
    SameBytes (xdrPackLOOKUP3args ⟨{}, .block [97, 0]⟩) (LOOKUP3args.serialize ⟨{}, [97]⟩) ∧
      SameBytes (xdrPackREADDIR3res ⟨.NFS3_OK, 1, {}, 7, [⟨1, .block [97, 0], 2⟩, ⟨3, .null, 4⟩], 1⟩)
        (READDIR3res.serialize ⟨.NFS3_OK, some ⟨{}, 7, [⟨1, [97], 2⟩, ⟨3, [], 4⟩], true⟩⟩) := by
  constructor
  · apply ((ProcNum.suites_same_bytes_iff .LOOKUP).1 rfl ⟨{}, .block [97, 0]⟩ ⟨{}, [97]⟩ ?_ ?_).mpr
    · decide
    · exact ⟨⟨Ptr.noConfusion, fun empty => absurd rfl empty⟩, .inr ⟨[97, 0], rfl, by decide⟩⟩
    · rfl
  · apply ((ProcNum.suites_same_bytes_iff .READDIR).2 rfl
      ⟨.NFS3_OK, 1, {}, 7, [⟨1, .block [97, 0], 2⟩, ⟨3, .null, 4⟩], 1⟩
      ⟨.NFS3_OK, some ⟨{}, 7, [⟨1, [97], 2⟩, ⟨3, [], 4⟩], true⟩⟩ ?_ ?_).mpr
    · decide
    · refine ⟨by decide, fun e member => ?_⟩
      rcases List.mem_pair.mp member with rfl | rfl
      · exact .inr ⟨[97, 0], rfl, by decide⟩
      · exact .inl rfl
    · rfl

/-- The same name in the C++ suite. -/
def lookupLongArgs (length : Nat) : LOOKUP3args := ⟨⟨[]⟩, List.replicate length 97⟩

theorem lookupLong_same (length : Nat) :
    ProcNum.LOOKUP.SameArgs (lookupLong length) (lookupLongArgs length) :=
  congrArg (LOOKUP3args.mk ⟨[]⟩) (lookupLong_name length)

theorem lookupLong_differs {length : Nat} (long : 2 ^ 32 ≤ length) :
    ¬ SameBytes (xdrPackLOOKUP3args (lookupLong length)) (lookupLongArgs length).serialize := by
  intro same
  have short := (ProcNum.args_same_bytes_iff .LOOKUP rfl _ _ (lookupLong_wellFormed length)
    (lookupLong_same length)).mp same _ List.mem_cons_self
  rw [Short, lookupLongArgs, List.length_replicate] at short
  omega

/-- The C encoder sends an empty name for these arguments, and the C++ encoder throws. -/
theorem lookup_bytes_differ : (lookupLong (2 ^ 32)).WellFormed ∧
    ProcNum.LOOKUP.SameArgs (lookupLong (2 ^ 32)) (lookupLongArgs (2 ^ 32)) ∧
    ¬ SameBytes (xdrPackLOOKUP3args (lookupLong (2 ^ 32))) (lookupLongArgs (2 ^ 32)).serialize :=
  ⟨lookupLong_wellFormed _, lookupLong_same _, lookupLong_differs (Nat.le_refl _)⟩

end Nfs3Rpc
