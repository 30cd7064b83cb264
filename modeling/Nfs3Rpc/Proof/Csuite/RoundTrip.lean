import Nfs3Rpc.Proof.Csuite.Procedures

namespace Nfs3Rpc
open Encoding Csuite

variable {pos depth : Nat}

theorem short_of_terminates {s : Bytes} (terminates : Terminates s) : Short s := by
  unfold Terminates at terminates
  unfold Short
  omega

/-- Short strings travel whole. -/
theorem ProcNum.clippedArgs_of_short (proc : ProcNum) (args : proc.Args)
    (short : ∀ s ∈ proc.argsStrings args, Short s) : proc.clippedArgs args = args := by
  have first : ∀ s tail, proc.argsStrings args = s :: tail → clip s = s := fun s _ same =>
    clip_of_short (short s (same ▸ List.mem_cons_self))
  have second : ∀ s t, proc.argsStrings args = [s, t] → clip t = t := fun s t same =>
    clip_of_short (short t (same ▸ List.mem_cons_of_mem s List.mem_cons_self))
  cases proc with
  | LOOKUP => exact congrArg (LOOKUP3args.mk _) (first _ _ rfl)
  | CREATE => exact congrArg (CREATE3args.mk _ · _ _ _) (first _ _ rfl)
  | MKDIR => exact congrArg (MKDIR3args.mk _ · _) (first _ _ rfl)
  | SYMLINK => exact congrArg₂ (SYMLINK3args.mk _ · _ ·) (first _ _ rfl) (second _ _ rfl)
  | MKNOD => exact congrArg (MKNOD3args.mk _ · _ _) (first _ _ rfl)
  | REMOVE => exact congrArg (REMOVE3args.mk _) (first _ _ rfl)
  | RMDIR => exact congrArg (RMDIR3args.mk _) (first _ _ rfl)
  | RENAME => exact congrArg₂ (RENAME3args.mk _ · _ ·) (first _ _ rfl) (second _ _ rfl)
  | LINK => exact congrArg (LINK3args.mk _ _) (first _ _ rfl)
  | _ => rfl

theorem ProcNum.clippedResok_of_short (proc : ProcNum) (resok : proc.Resok)
    (short : ∀ s ∈ proc.resokStrings resok, Short s) : proc.clippedResok resok = resok := by
  have kept : ∀ s ∈ proc.resokStrings resok, clip s = s := fun s member => clip_of_short (short s member)
  cases proc with
  | READLINK => exact congrArg (READLINK3resok.mk _) (kept _ List.mem_cons_self)
  | READDIR =>
      have same : ∀ entry : Entry3, entry ∈ resok.reply.entries → entry.clipped = entry := fun entry member =>
        congrArg (Entry3.mk _ · _) (kept entry.name (List.mem_map_of_mem member))
      exact congrArg (fun entries => READDIR3resok.mk _ _ (Dirlist3.mk entries _))
        ((List.map_congr_left same).trans (List.map_id _))
  | READDIRPLUS =>
      have same : ∀ entry : Entryplus3, entry ∈ resok.reply.entries → entry.clipped = entry :=
        fun entry member => congrArg (Entryplus3.mk _ · _ _ _) (kept entry.name (List.mem_map_of_mem member))
      exact congrArg (fun entries => READDIRPLUS3resok.mk _ _ (Dirlistplus3.mk entries _))
        ((List.map_congr_left same).trans (List.map_id _))
  | _ => rfl

theorem clippedRes_of_short (proc : ProcNum) (res : Res proc.Resok)
    (short : ∀ s ∈ resStrings proc res, Short s) : clippedRes proc res = res := by
  obtain ⟨status, resok⟩ := res
  cases resok with
  | none => rfl
  | some resok =>
      have kept := proc.clippedResok_of_short resok fun s member => short s (by simpa [resStrings] using member)
      simp [clippedRes, kept]

theorem ProcNum.clippedReply_of_short (proc : ProcNum) (reply : proc.Reply)
    (short : ∀ s ∈ proc.replyStrings reply, Short s) : proc.clippedReply reply = reply := by
  cases proc with
  | WRITE => rfl
  | _ => exact clippedRes_of_short _ reply short

theorem Csuite.Ptr.IsString.owned {s : Ptr} (isString : s.IsString) : s.Owned := by
  rcases isString with rfl | ⟨data, rfl, terminated⟩ <;> exact Ptr.noConfusion

/-- A well-formed value can serve as a destination. -/
theorem ProcNum.ownedArgs_of_wellFormed (proc : ProcNum) (args : proc.ArgsT)
    (formed : proc.WellFormedArgs args) : proc.OwnedArgs args := by
  cases proc with
  | GETATTR => exact formed.1
  | SETATTR => exact ⟨formed.1.1, formed.2.1⟩
  | LOOKUP => exact ⟨formed.1.1, formed.2.owned⟩
  | ACCESS => exact formed.1
  | READLINK => exact formed.1
  | READ => exact formed.1
  | WRITE => exact ⟨formed.1.1, formed.2.1.1⟩
  | CREATE => exact ⟨formed.1.1, formed.2.owned⟩
  | MKDIR => exact ⟨formed.1.1, formed.2.owned⟩
  | SYMLINK => exact ⟨formed.1.1, formed.2.1.owned, formed.2.2.owned⟩
  | MKNOD => exact ⟨formed.1.1, formed.2.owned⟩
  | REMOVE => exact ⟨formed.1.1, formed.2.owned⟩
  | RMDIR => exact ⟨formed.1.1, formed.2.owned⟩
  | RENAME => exact ⟨formed.1.1, formed.2.1.owned, formed.2.2.1.1, formed.2.2.2.owned⟩
  | LINK => exact ⟨formed.1.1, formed.2.1.1, formed.2.2.owned⟩
  | READDIR => exact formed.1
  | READDIRPLUS => exact formed.1
  | FSSTAT => exact formed.1
  | FSINFO => exact formed.1
  | PATHCONF => exact formed.1
  | COMMIT => exact formed.1

theorem ProcNum.ownedRes_of_wellFormed (proc : ProcNum) (res : proc.ResT)
    (formed : proc.WellFormedRes res) : proc.OwnedRes res := by
  cases proc with
  | LOOKUP => exact formed.2.1
  | READLINK => exact formed.2.owned
  | READ => exact formed.2.1
  | CREATE => exact formed.2.1
  | MKDIR => exact formed.2.1
  | SYMLINK => exact formed.2.1
  | MKNOD => exact formed.2.1
  | READDIR => exact fun e member => (formed.2 e member).owned
  | READDIRPLUS => exact fun e member => ⟨(formed.2 e member).1.owned, (formed.2 e member).2.1⟩
  | _ => trivial

/-- The decoder takes back what the encoder wrote of this value, into every destination and past no byte. -/
def RoundTripsAt {α μ : Type} (pack : α → Run Unit) (unpack : α → Run α) (message : α → μ)
    (Owned : α → Prop)
    (need : Nat) (value : α) : Prop :=
  ∀ dest, Owned dest → ∀ (packed trailing : Bytes) (stack stale : Nat → UInt32) (pos depth : Nat),
    4 ∣ packed.length → need ≤ depth →
    ∃ wire stack' got stale', pack value ⟨⟨packed, pos⟩, stack, depth⟩ =
        .ok () ⟨⟨packed ++ wire, pos⟩, stack', depth⟩ ∧
      unpack dest ⟨⟨packed ++ wire ++ trailing, packed.length⟩, stale, depth⟩ =
        .ok got ⟨⟨packed ++ wire ++ trailing, packed.length + wire.length⟩, stale', depth⟩ ∧
      message got = message value

theorem reading_iff {machine : Machine} {before rest : Bytes} : reading depth machine before rest ↔
    ∃ stack, machine = ⟨⟨before ++ rest, before.length⟩, stack, depth⟩ := by
  obtain ⟨buf, stack, deep⟩ := machine
  constructor
  · intro held
    obtain ⟨rfl, rfl⟩ := held
    exact ⟨stack, rfl⟩
  · intro held
    obtain ⟨_, same⟩ := held
    cases same
    exact ⟨rfl, rfl⟩

section
variable {α μ : Type} {pack : α → Run Unit} {unpack : α → Run α} {message : α → μ} {Owned : α → Prop}
  {need : Nat} {value : α} {sent : μ} {wire : Bytes} {sound : Prop}

theorem RoundTripsAt.of_sound
    (emits : ∀ pos depth, Emits (writing pos depth) (pack value) () wire)
    (decodes : ∀ depth, need ≤ depth → ∀ dest, Owned dest →
      Decodes (reading depth) (unpack dest) wire sound (message · = sent))
    (holds : sound) (whole : sent = message value) :
    RoundTripsAt pack unpack message Owned need value := by
  intro dest owned packed trailing stack stale pos depth aligned enough
  obtain ⟨_, written, view⟩ := emits pos depth ⟨⟨packed, pos⟩, stack, depth⟩ packed ⟨rfl, rfl, aligned⟩
  obtain ⟨⟨stack', rfl⟩, _⟩ := writing_iff.mp view
  have start : reading depth ⟨⟨packed ++ wire ++ trailing, packed.length⟩, stale, depth⟩ packed
      (wire ++ trailing) := ⟨by rw [List.append_assoc], rfl⟩
  obtain ⟨got, _, taken, same, view⟩ := (decodes depth enough dest owned).1 holds _ packed trailing start
  obtain ⟨stale', rfl⟩ := reading_iff.mp view
  refine ⟨wire, stack', got, stale', written, ?_, same.trans whole⟩
  rw [taken, List.length_append]

/-- A round trip with the value itself as destination shows that the decoder reads the whole message. -/
theorem RoundTripsAt.reads_whole
    (emits : ∀ pos depth, Emits (writing pos depth) (pack value) () wire)
    (decodes : ∀ depth, need ≤ depth → ∀ dest, Owned dest →
      Decodes (reading depth) (unpack dest) wire sound (message · = sent))
    (owned : Owned value) (trips : RoundTripsAt pack unpack message Owned need value) :
    sound ∧ sent = message value := by
  obtain ⟨bytes, stack', got, stale', packs, unpacks, same⟩ :=
    trips value owned [] [] (fun _ => 0) (fun _ => 0) 0 need (Nat.dvd_zero 4) (Nat.le_refl need)
  obtain ⟨_, written, buf, _⟩ := emits 0 need ⟨⟨[], 0⟩, fun _ => 0, need⟩ [] ⟨rfl, rfl, Nat.dvd_zero 4⟩
  rw [packs] at written
  obtain ⟨_, rfl⟩ := EStateM.Result.ok.inj written
  obtain rfl : bytes = wire := by simpa using buf
  have start : reading need ⟨⟨[] ++ bytes ++ [], 0⟩, fun _ => 0, need⟩ [] (bytes ++ []) := ⟨rfl, rfl⟩
  by_cases holds : sound
  · obtain ⟨_, _, taken, arrived, _⟩ := (decodes need (Nat.le_refl need) value owned).1 holds _ [] [] start
    obtain ⟨rfl, _⟩ := EStateM.Result.ok.inj (unpacks.symm.trans taken)
    exact ⟨holds, arrived.symm.trans same⟩
  · obtain ⟨_, _, fails⟩ := (decodes need (Nat.le_refl need) value owned).2 holds _ [] [] start
    exact nomatch unpacks.symm.trans fails

/-- A message arrives whole exactly when each of its strings has room for its terminator. -/
theorem roundTripsAt_iff {clipped : μ → μ} {strings : μ → List Bytes} {wire : μ → Bytes}
    (emits : ∀ pos depth, Emits (writing pos depth) (pack value) () (wire (clipped (message value))))
    (decodes : ∀ depth, need ≤ depth → ∀ dest, Owned dest →
      Decodes (reading depth) (unpack dest) (wire (clipped (message value)))
        (∀ s ∈ strings (clipped (message value)), Terminates s) (message · = clipped (message value)))
    (owned : Owned value)
    (keeps : (∀ s ∈ strings (message value), Short s) → clipped (message value) = message value) :
    RoundTripsAt pack unpack message Owned need value ↔ ∀ s ∈ strings (message value), Terminates s := by
  constructor
  · intro trips
    obtain ⟨terminate, whole⟩ := trips.reads_whole emits decodes owned
    rwa [whole] at terminate
  · intro terminate
    have whole := keeps fun s member => short_of_terminates (terminate s member)
    exact .of_sound emits decodes (by rwa [whole]) whole

end

theorem ProcNum.args_round_trip_iff (proc : ProcNum) (args : proc.ArgsT) (formed : proc.WellFormedArgs args) :
    RoundTripsAt proc.packArgs proc.unpackArgs proc.messageArgs proc.OwnedArgs 0 args ↔
      ∀ s ∈ proc.argsStrings (proc.messageArgs args), Terminates s :=
  roundTripsAt_iff (fun _ _ => proc.packArgs_emits args formed)
    (fun _ _ dest owned => proc.unpackArgs_decodes dest args owned) (proc.ownedArgs_of_wellFormed args formed)
    (proc.clippedArgs_of_short _)

/-- The recursion of a directory decoder needs one level for each entry. -/
theorem ProcNum.res_round_trip_iff (proc : ProcNum) (res : proc.ResT) (formed : proc.WellFormedRes res) :
    RoundTripsAt proc.packRes proc.unpackRes proc.messageRes proc.OwnedRes
        (proc.replyDepth (proc.messageRes res)) res ↔
      ∀ s ∈ proc.replyStrings (proc.messageRes res), Terminates s :=
  roundTripsAt_iff (fun _ _ => proc.packRes_emits res formed)
    (fun _ enough dest owned => proc.unpackRes_decodes dest res owned formed enough)
    (proc.ownedRes_of_wellFormed res formed) (proc.clippedReply_of_short _)

/-- A well-formed value round-trips through the C codec exactly when its strings stay below 2 ^ 32 - 1 bytes. -/
theorem ProcNum.codecT_round_trips_iff (proc : ProcNum) :
    (∀ args, proc.WellFormedArgs args →
      (RoundTripsAt proc.packArgs proc.unpackArgs proc.messageArgs proc.OwnedArgs 0 args ↔
        ∀ s ∈ proc.argsStrings (proc.messageArgs args), Terminates s)) ∧
    ∀ res, proc.WellFormedRes res →
      (RoundTripsAt proc.packRes proc.unpackRes proc.messageRes proc.OwnedRes
          (proc.replyDepth (proc.messageRes res)) res ↔
        ∀ s ∈ proc.replyStrings (proc.messageRes res), Terminates s) :=
  ⟨proc.args_round_trip_iff, proc.res_round_trip_iff⟩

theorem ProcNum.codecT_round_trips_small :
    RoundTripsAt xdrPackLOOKUP3args xdrUnpackLOOKUP3args LOOKUP3argsT.message LOOKUP3argsT.Owned 0
        ⟨{}, .block [97, 0]⟩ ∧
      RoundTripsAt ProcNum.READDIR.packRes ProcNum.READDIR.unpackRes ProcNum.READDIR.messageRes
        ProcNum.READDIR.OwnedRes 2
        (⟨.NFS3_OK, 1, {}, 7, [⟨1, .block [97, 0], 2⟩, ⟨3, .null, 4⟩], 1⟩ :
          Csuite.ResT READDIR3resokT) := by
  constructor
  · refine ((ProcNum.codecT_round_trips_iff .LOOKUP).1 (⟨{}, .block [97, 0]⟩ : LOOKUP3argsT) ?_).mpr ?_
    · exact ⟨⟨Ptr.noConfusion, fun empty => absurd rfl empty⟩, .inr ⟨[97, 0], rfl, by decide⟩⟩
    · decide
  · refine ((ProcNum.codecT_round_trips_iff .READDIR).2
      (⟨.NFS3_OK, 1, {}, 7, [⟨1, .block [97, 0], 2⟩, ⟨3, .null, 4⟩], 1⟩ : Csuite.ResT READDIR3resokT)
        ?_).mpr ?_
    · refine ⟨by decide, ?_⟩
      intro e member
      rcases List.mem_pair.mp member with rfl | rfl
      · exact .inr ⟨[97, 0], rfl, by decide⟩
      · exact .inl rfl
    · decide

/-- These arguments name an entry with this many letters. -/
def lookupLong (length : Nat) : LOOKUP3argsT := ⟨{}, .block (List.replicate length 97 ++ [0])⟩

theorem lookupLong_wellFormed (length : Nat) : (lookupLong length).WellFormed := by
  refine ⟨⟨Ptr.noConfusion, fun positive => absurd rfl positive⟩, .inr ⟨_, rfl, ?_⟩⟩
  exact List.mem_append_right _ List.mem_cons_self

theorem lookupLong_name (length : Nat) : (lookupLong length).message.whatName = List.replicate length 97 := by
  apply cstring_terminated
  intro member
  exact absurd (List.eq_of_mem_replicate member) (by decide)

theorem lookupLong_fails {length : Nat} (long : 2 ^ 32 - 1 ≤ length) :
    ¬ RoundTripsAt xdrPackLOOKUP3args xdrUnpackLOOKUP3args LOOKUP3argsT.message LOOKUP3argsT.Owned 0
      (lookupLong length) := by
  intro trips
  have terminates := (ProcNum.args_round_trip_iff .LOOKUP _ (lookupLong_wellFormed length)).mp trips
    (lookupLong length).message.whatName List.mem_cons_self
  rw [lookupLong_name, Terminates, List.length_replicate] at terminates
  omega

/-- This name has 2 ^ 32 bytes, so its length word is zero. -/
theorem xdrPackLOOKUP3args_truncates : (lookupLong (2 ^ 32)).WellFormed ∧
    ¬ RoundTripsAt xdrPackLOOKUP3args xdrUnpackLOOKUP3args LOOKUP3argsT.message LOOKUP3argsT.Owned 0
      (lookupLong (2 ^ 32)) :=
  ⟨lookupLong_wellFormed _, lookupLong_fails (by decide)⟩

end Nfs3Rpc
