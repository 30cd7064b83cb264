import Nfs3Rpc.Proof.Csuite.Attributes

namespace Nfs3Rpc.Csuite
open Encoding

variable {pos depth : Nat}

/-- The handle is packed from its block, with the length that its structure names. -/
theorem xdrPackGETATTR3args_emits (args : GETATTR3argsT) (formed : args.WellFormed) :
    Emits (writing pos depth) (xdrPackGETATTR3args args) () args.message.wire :=
  xdrPackNfsFh3_emits _ formed

/-- The decoder destroys the handle of the destination, so that one has to own its block. -/
theorem xdrUnpackGETATTR3args_reads (dest args : GETATTR3argsT) (owned : dest.Owned) :
    Reads (reading depth) (xdrUnpackGETATTR3args dest) args.message.wire (·.message = args.message) := by
  apply Reads.converting (xdrUnpackNfsFh3_reads _ args.object owned)
  intro _ same
  exact congrArg GETATTR3args.mk same

/-- The guard is a handle behind a flag of its own. -/
theorem xdrPackSETATTR3args_emits (args : SETATTR3argsT) (formed : args.WellFormed) :
    Emits (writing pos depth) (xdrPackSETATTR3args args) () (SETATTR3argsWire args.message) :=
  .cons (xdrPackNfsFh3_emits _ formed.1) <| .cons (xdrPackSattr3_emits _) <|
  .last (packWhen_emits (xdrPackNfsFh3_emits _ formed.2))

/-- Without a guard in the message the flag of the destination is cleared and its handle stays. -/
theorem xdrUnpackSETATTR3args_reads (dest args : SETATTR3argsT) (owned : dest.Owned) :
    Reads (reading depth) (xdrUnpackSETATTR3args dest) (SETATTR3argsWire args.message)
      (·.message = args.message) := by
  apply Reads.cons (xdrUnpackNfsFh3_reads _ args.object owned.1)
  intro _ sameObject
  refine Reads.cons (xdrUnpackSattr3_reads _ args.newAttributes) fun _ sameAttributes => Reads.last ?_
  simp only [SETATTR3argsT.message]
  by_cases zero : args.hasGuard = 0
  · have hidden : whenSet args.hasGuard args.guard.message = none := if_neg (not_not.mpr zero)
    rw [hidden]
    exact .ending (intoBool_reads _ false) <| .pure (by simp [sameObject, sameAttributes, whenSet])
  · have shown : whenSet args.hasGuard args.guard.message = some args.guard.message := if_pos zero
    rw [shown]
    apply Reads.field (intoBool_reads _ true)
    refine Reads.cons (xdrUnpackNfsFh3_reads _ args.guard owned.2) fun _ sameGuard => Reads.done ?_
    simp [sameObject, sameAttributes, sameGuard, whenSet]

/-- A C string ends at its first zero byte, so the message has the clipped name. -/
theorem xdrPackLOOKUP3args_emits (args : LOOKUP3argsT) (formed : args.WellFormed) :
    Emits (writing pos depth) (xdrPackLOOKUP3args args) () args.message.clipped.wire :=
  .cons (xdrPackNfsFh3_emits _ formed.1) <| .last (xdrPackCstring_emits _ formed.2)

/-- The block of the name takes one byte more than the name, and this size must not wrap. -/
theorem xdrUnpackLOOKUP3args_decodes (dest args : LOOKUP3argsT) (owned : dest.Owned) :
    Decodes (reading depth) (xdrUnpackLOOKUP3args dest) args.message.clipped.wire
      (∀ s ∈ args.message.clipped.strings, Terminates s) (·.message = args.message.clipped) := by
  apply Decodes.cons (xdrUnpackNfsFh3_reads _ args.whatDir owned.1)
  intro _ sameWhatDir
  apply Decodes.silent (free_reads _ owned.2)
  intro _ _
  apply intoString_decodes _ args.whatName
  intro _ sameWhatName
  apply decodes_plain
  apply Reads.done
  simp only [LOOKUP3argsT.message, LOOKUP3args.clipped, sameWhatDir, sameWhatName]

/-- The wanted rights are one word behind the handle. -/
theorem xdrPackACCESS3args_emits (args : ACCESS3argsT) (formed : args.WellFormed) :
    Emits (writing pos depth) (xdrPackACCESS3args args) () args.message.wire :=
  .cons (xdrPackNfsFh3_emits _ formed) <| .last (xdrPackUint32_emits _)

theorem xdrUnpackACCESS3args_reads (dest args : ACCESS3argsT) (owned : dest.Owned) :
    Reads (reading depth) (xdrUnpackACCESS3args dest) args.message.wire (·.message = args.message) := by
  apply Reads.cons (xdrUnpackNfsFh3_reads _ args.object owned)
  intro _ sameObject
  exact .field (intoUint32_reads _ _) <| .done (by simp only [ACCESS3argsT.message, sameObject])

/-- The link is named by its handle alone. -/
theorem xdrPackREADLINK3args_emits (args : READLINK3argsT) (formed : args.WellFormed) :
    Emits (writing pos depth) (xdrPackREADLINK3args args) () args.message.wire :=
  xdrPackNfsFh3_emits _ formed

theorem xdrUnpackREADLINK3args_reads (dest args : READLINK3argsT) (owned : dest.Owned) :
    Reads (reading depth) (xdrUnpackREADLINK3args dest) args.message.wire (·.message = args.message) := by
  apply Reads.converting (xdrUnpackNfsFh3_reads _ args.symlink owned)
  intro _ same
  exact congrArg READLINK3args.mk same

/-- The offset and the count follow the handle. -/
theorem xdrPackREAD3args_emits (args : READ3argsT) (formed : args.WellFormed) :
    Emits (writing pos depth) (xdrPackREAD3args args) () args.message.wire :=
  .cons (xdrPackNfsFh3_emits _ formed) <| .cons (xdrPackUint64_emits _) <| .last (xdrPackUint32_emits _)

/-- The two numbers do not depend on the destination. -/
theorem xdrUnpackREAD3args_reads (dest args : READ3argsT) (owned : dest.Owned) :
    Reads (reading depth) (xdrUnpackREAD3args dest) args.message.wire (·.message = args.message) := by
  apply Reads.cons (xdrUnpackNfsFh3_reads _ args.file owned)
  intro _ sameFile
  exact .field (intoUint64_reads _ _) <| .field (intoUint32_reads _ _) <|
    .done (by simp only [READ3argsT.message, sameFile])

/-- The count that the caller sets is the length of the data. -/
theorem xdrPackWRITE3args_emits (args : WRITE3argsT) (formed : args.WellFormed) :
    Emits (writing pos depth) (xdrPackWRITE3args args) () args.message.wire := by
  obtain ⟨fileFormed, holds, count⟩ := formed
  have sent : Emits (writing pos depth) (xdrPackOpaque args.data args.count) ()
      (opaqueBytes (args.data.bytes args.dataLen)) := count ▸ xdrPackOpaque_emits _ _ (count ▸ holds)
  exact .cons (xdrPackNfsFh3_emits _ fileFormed) <| .cons (xdrPackUint64_emits _) <|
    .cons (xdrPackUint32_emits _) <| .cons (xdrPackUint32_emits _) <| .last sent

/-- The decoder takes the length of the data from the length word. -/
theorem xdrUnpackWRITE3args_restores (dest args : WRITE3argsT) (owned : dest.Owned) :
    Reads (reading depth) (xdrUnpackWRITE3args dest) args.message.wire fun got =>
      got.message = args.message ∧ got.dataLen = UInt32.ofNat (args.data.bytes args.dataLen).length := by
  have short := Ptr.bytes_short args.data args.dataLen
  apply Reads.cons (xdrUnpackNfsFh3_reads _ args.file owned.1)
  intro _ sameFile
  refine Reads.field (intoUint64_reads _ _) <| Reads.field (intoUint32_reads _ _) ?_
  refine Reads.silent uninitialized_reads fun _ _ => Reads.field (intoUint32_reads _ _) ?_
  refine Reads.silent (free_reads _ owned.2) fun _ _ => Reads.silent uninitialized_reads fun len _ => ?_
  refine Reads.field (xdrUnpackOpaque_reads _ len _ short) (Reads.done ⟨?_, rfl⟩)
  simp only [WRITE3argsT.message, sameFile, bytes_block short]

/-- What a peer sees of the arguments is restored too. -/
theorem xdrUnpackWRITE3args_reads (dest args : WRITE3argsT) (owned : dest.Owned) :
    Reads (reading depth) (xdrUnpackWRITE3args dest) args.message.wire (·.message = args.message) :=
  (xdrUnpackWRITE3args_restores dest args owned).weaken fun _ restored => restored.1

/-- The mode EXCLUSIVE sends the verifier, and each other mode sends the attributes. -/
theorem xdrPackCREATE3args_emits (args : CREATE3argsT) (formed : args.WellFormed) :
    Emits (writing pos depth) (xdrPackCREATE3args args) () (CREATE3argsWire args.message.clipped) := by
  obtain ⟨dir, name, mode, attributes, verf⟩ := args
  by_cases exclusive : mode = .EXCLUSIVE
  · subst exclusive
    exact .cons (xdrPackNfsFh3_emits _ formed.1) <| .cons (xdrPackCstring_emits _ formed.2) <|
      .cons (xdrPackUint32_emits _) <| .last (xdrPackVerifier_emits verf)
  · simp only [xdrPackCREATE3args, CREATE3argsT.message, CREATE3args.clipped, CREATE3argsWire, exclusive,
      if_false]
    exact .cons (xdrPackNfsFh3_emits _ formed.1) <| .cons (xdrPackCstring_emits _ formed.2) <|
      .cons (xdrPackUint32_emits _) <| .last (xdrPackSattr3_emits attributes)

/-- The decoder follows the mode that it has just read, and what this mode leaves out nobody sees. -/
theorem xdrUnpackCREATE3args_decodes (dest args : CREATE3argsT) (owned : dest.Owned) :
    Decodes (reading depth) (xdrUnpackCREATE3args dest) (CREATE3argsWire args.message.clipped)
      (∀ s ∈ args.message.clipped.strings, Terminates s) (·.message = args.message.clipped) := by
  obtain ⟨dir, name, mode, attributes, verf⟩ := args
  by_cases exclusive : mode = .EXCLUSIVE
  · subst exclusive
    apply Decodes.cons (xdrUnpackNfsFh3_reads _ dir owned.1)
    intro _ sameDir
    refine Decodes.silent (free_reads _ owned.2) fun _ _ => intoString_decodes _ name fun _ sameName => ?_
    refine Decodes.silent uninitialized_reads fun _ _ => Decodes.field (intoUint32_reads _ _) ?_
    refine decodes_plain (Reads.field (xdrUnpackVerifier_reads verf) (Reads.done ?_))
    simp only [CREATE3argsT.message, CREATE3args.clipped, sameDir, sameName, if_true]
  · simp only [CREATE3argsT.message, CREATE3args.clipped, CREATE3argsWire, exclusive, if_false]
    apply Decodes.cons (xdrUnpackNfsFh3_reads _ dir owned.1)
    intro _ sameDir
    refine Decodes.silent (free_reads _ owned.2) fun _ _ => intoString_decodes _ name fun _ sameName => ?_
    refine Decodes.silent uninitialized_reads fun _ _ => Decodes.field (intoUint32_reads _ _) ?_
    simp only [exclusive, if_false]
    refine decodes_plain (Reads.cons (xdrUnpackSattr3_reads _ attributes) fun _ sameAttributes => Reads.done ?_)
    simp only [exclusive, if_false, sameDir, sameName, sameAttributes]

/-- A new directory has a place, a name and attributes. -/
theorem xdrPackMKDIR3args_emits (args : MKDIR3argsT) (formed : args.WellFormed) :
    Emits (writing pos depth) (xdrPackMKDIR3args args) () (MKDIR3argsWire args.message.clipped) :=
  .cons (xdrPackNfsFh3_emits _ formed.1) <| .cons (xdrPackCstring_emits _ formed.2) <|
  .last (xdrPackSattr3_emits _)

/-- The name alone decides whether the message can be decoded. -/
theorem xdrUnpackMKDIR3args_decodes (dest args : MKDIR3argsT) (owned : dest.Owned) :
    Decodes (reading depth) (xdrUnpackMKDIR3args dest) (MKDIR3argsWire args.message.clipped)
      (∀ s ∈ args.message.clipped.strings, Terminates s) (·.message = args.message.clipped) := by
  apply Decodes.cons (xdrUnpackNfsFh3_reads _ args.whereDir owned.1)
  intro _ sameWhereDir
  apply Decodes.silent (free_reads _ owned.2)
  intro _ _
  apply intoString_decodes _ args.whereName
  intro _ sameWhereName
  apply Decodes.cons (xdrUnpackSattr3_reads _ args.attributes)
  intro _ sameAttributes
  apply decodes_plain
  apply Reads.done
  simp only [MKDIR3argsT.message, MKDIR3args.clipped, sameWhereDir, sameWhereName, sameAttributes]

/-- Both texts are C strings, and both are clipped. -/
theorem xdrPackSYMLINK3args_emits (args : SYMLINK3argsT) (formed : args.WellFormed) :
    Emits (writing pos depth) (xdrPackSYMLINK3args args) () (SYMLINK3argsWire args.message.clipped) :=
  .cons (xdrPackNfsFh3_emits _ formed.1) <| .cons (xdrPackCstring_emits _ formed.2.1) <|
  .cons (xdrPackSattr3_emits _) <| .last (xdrPackCstring_emits _ formed.2.2)

/-- The name and the text of the link each need a block with a byte for the terminator. -/
theorem xdrUnpackSYMLINK3args_decodes (dest args : SYMLINK3argsT) (owned : dest.Owned) :
    Decodes (reading depth) (xdrUnpackSYMLINK3args dest) (SYMLINK3argsWire args.message.clipped)
      (∀ s ∈ args.message.clipped.strings, Terminates s) (·.message = args.message.clipped) := by
  apply Decodes.cons (xdrUnpackNfsFh3_reads _ args.whereDir owned.1)
  intro _ sameWhereDir
  apply Decodes.silent (free_reads _ owned.2.1)
  intro _ _
  apply intoString_decodes _ args.whereName
  intro _ sameWhereName
  apply Decodes.cons (xdrUnpackSattr3_reads _ args.symlinkAttributes)
  intro _ sameSymlinkAttributes
  apply Decodes.silent (free_reads _ owned.2.2)
  intro _ _
  apply intoString_decodes _ args.symlinkData
  intro _ sameSymlinkData
  apply decodes_plain
  apply Reads.done
  simp only [SYMLINK3argsT.message, SYMLINK3args.clipped, sameWhereDir, sameWhereName,
    sameSymlinkAttributes, sameSymlinkData]

/-- The attributes follow the type for every type. -/
theorem xdrPackMKNOD3args_emits (args : MKNOD3argsT) (formed : args.WellFormed) :
    Emits (writing pos depth) (xdrPackMKNOD3args args) () (MKNOD3argsWire args.message.clipped) :=
  .cons (xdrPackNfsFh3_emits _ formed.1) <| .cons (xdrPackCstring_emits _ formed.2) <|
  .cons (xdrPackUint32_emits _) <| .last (xdrPackSattr3_emits _)

/-- The type is taken as it comes, without a check. -/
theorem xdrUnpackMKNOD3args_decodes (dest args : MKNOD3argsT) (owned : dest.Owned) :
    Decodes (reading depth) (xdrUnpackMKNOD3args dest) (MKNOD3argsWire args.message.clipped)
      (∀ s ∈ args.message.clipped.strings, Terminates s) (·.message = args.message.clipped) := by
  apply Decodes.cons (xdrUnpackNfsFh3_reads _ args.whereDir owned.1)
  intro _ sameWhereDir
  apply Decodes.silent (free_reads _ owned.2)
  intro _ _
  apply intoString_decodes _ args.whereName
  intro _ sameWhereName
  refine Decodes.silent uninitialized_reads fun _ _ => Decodes.field (intoUint32_reads _ _) ?_
  apply Decodes.cons (xdrUnpackSattr3_reads _ args.whatAttributes)
  intro _ sameWhatAttributes
  apply decodes_plain
  apply Reads.done
  simp only [MKNOD3argsT.message, MKNOD3args.clipped, sameWhereDir, sameWhereName, sameWhatAttributes]

/-- The file is named by its directory and its name. -/
theorem xdrPackREMOVE3args_emits (args : REMOVE3argsT) (formed : args.WellFormed) :
    Emits (writing pos depth) (xdrPackREMOVE3args args) () args.message.clipped.wire :=
  .cons (xdrPackNfsFh3_emits _ formed.1) <| .last (xdrPackCstring_emits _ formed.2)

theorem xdrUnpackREMOVE3args_decodes (dest args : REMOVE3argsT) (owned : dest.Owned) :
    Decodes (reading depth) (xdrUnpackREMOVE3args dest) args.message.clipped.wire
      (∀ s ∈ args.message.clipped.strings, Terminates s) (·.message = args.message.clipped) := by
  apply Decodes.cons (xdrUnpackNfsFh3_reads _ args.objectDir owned.1)
  intro _ sameObjectDir
  apply Decodes.silent (free_reads _ owned.2)
  intro _ _
  apply intoString_decodes _ args.objectName
  intro _ sameObjectName
  apply decodes_plain
  apply Reads.done
  simp only [REMOVE3argsT.message, REMOVE3args.clipped, sameObjectDir, sameObjectName]

/-- The directory is named in the same way as a file. -/
theorem xdrPackRMDIR3args_emits (args : RMDIR3argsT) (formed : args.WellFormed) :
    Emits (writing pos depth) (xdrPackRMDIR3args args) () args.message.clipped.wire :=
  .cons (xdrPackNfsFh3_emits _ formed.1) <| .last (xdrPackCstring_emits _ formed.2)

theorem xdrUnpackRMDIR3args_decodes (dest args : RMDIR3argsT) (owned : dest.Owned) :
    Decodes (reading depth) (xdrUnpackRMDIR3args dest) args.message.clipped.wire
      (∀ s ∈ args.message.clipped.strings, Terminates s) (·.message = args.message.clipped) := by
  apply Decodes.cons (xdrUnpackNfsFh3_reads _ args.objectDir owned.1)
  intro _ sameObjectDir
  apply Decodes.silent (free_reads _ owned.2)
  intro _ _
  apply intoString_decodes _ args.objectName
  intro _ sameObjectName
  apply decodes_plain
  apply Reads.done
  simp only [RMDIR3argsT.message, RMDIR3args.clipped, sameObjectDir, sameObjectName]

/-- Two places travel, the old one first. -/
theorem xdrPackRENAME3args_emits (args : RENAME3argsT) (formed : args.WellFormed) :
    Emits (writing pos depth) (xdrPackRENAME3args args) () args.message.clipped.wire :=
  .cons (xdrPackNfsFh3_emits _ formed.1) <| .cons (xdrPackCstring_emits _ formed.2.1) <|
  .cons (xdrPackNfsFh3_emits _ formed.2.2.1) <| .last (xdrPackCstring_emits _ formed.2.2.2)

/-- Two handles and two names are replaced, so the destination has to own four blocks. -/
theorem xdrUnpackRENAME3args_decodes (dest args : RENAME3argsT) (owned : dest.Owned) :
    Decodes (reading depth) (xdrUnpackRENAME3args dest) args.message.clipped.wire
      (∀ s ∈ args.message.clipped.strings, Terminates s) (·.message = args.message.clipped) := by
  apply Decodes.cons (xdrUnpackNfsFh3_reads _ args.fromDir owned.1)
  intro _ sameFromDir
  apply Decodes.silent (free_reads _ owned.2.1)
  intro _ _
  apply intoString_decodes _ args.fromName
  intro _ sameFromName
  apply Decodes.cons (xdrUnpackNfsFh3_reads _ args.toDir owned.2.2.1)
  intro _ sameToDir
  apply Decodes.silent (free_reads _ owned.2.2.2)
  intro _ _
  apply intoString_decodes _ args.toName
  intro _ sameToName
  apply decodes_plain
  apply Reads.done
  simp only [RENAME3argsT.message, RENAME3args.clipped, sameFromDir, sameFromName, sameToDir, sameToName]

/-- The file is a handle, and its new place is a directory with a name. -/
theorem xdrPackLINK3args_emits (args : LINK3argsT) (formed : args.WellFormed) :
    Emits (writing pos depth) (xdrPackLINK3args args) () args.message.clipped.wire :=
  .cons (xdrPackNfsFh3_emits _ formed.1) <| .cons (xdrPackNfsFh3_emits _ formed.2.1) <|
  .last (xdrPackCstring_emits _ formed.2.2)

/-- Two handles are replaced in front of the name. -/
theorem xdrUnpackLINK3args_decodes (dest args : LINK3argsT) (owned : dest.Owned) :
    Decodes (reading depth) (xdrUnpackLINK3args dest) args.message.clipped.wire
      (∀ s ∈ args.message.clipped.strings, Terminates s) (·.message = args.message.clipped) := by
  apply Decodes.cons (xdrUnpackNfsFh3_reads _ args.file owned.1)
  intro _ sameFile
  apply Decodes.cons (xdrUnpackNfsFh3_reads _ args.linkDir owned.2.1)
  intro _ sameLinkDir
  apply Decodes.silent (free_reads _ owned.2.2)
  intro _ _
  apply intoString_decodes _ args.linkName
  intro _ sameLinkName
  apply decodes_plain
  apply Reads.done
  simp only [LINK3argsT.message, LINK3args.clipped, sameFile, sameLinkDir, sameLinkName]

/-- The cookie and its verifier are double words. -/
theorem xdrPackREADDIR3args_emits (args : READDIR3argsT) (formed : args.WellFormed) :
    Emits (writing pos depth) (xdrPackREADDIR3args args) () args.message.wire :=
  .cons (xdrPackNfsFh3_emits _ formed) <| .cons (xdrPackUint64_emits _) <|
  .cons (xdrPackUint64_emits _) <| .last (xdrPackUint32_emits _)

theorem xdrUnpackREADDIR3args_reads (dest args : READDIR3argsT) (owned : dest.Owned) :
    Reads (reading depth) (xdrUnpackREADDIR3args dest) args.message.wire (·.message = args.message) := by
  apply Reads.cons (xdrUnpackNfsFh3_reads _ args.dir owned)
  intro _ sameDir
  exact .field (intoUint64_reads _ _) <| .field (intoUint64_reads _ _) <|
    .field (intoUint32_reads _ _) <| .done (by simp only [READDIR3argsT.message, sameDir])

/-- This listing has one limit for the names and one for the whole reply. -/
theorem xdrPackREADDIRPLUS3args_emits (args : READDIRPLUS3argsT) (formed : args.WellFormed) :
    Emits (writing pos depth) (xdrPackREADDIRPLUS3args args) () args.message.wire :=
  .cons (xdrPackNfsFh3_emits _ formed) <| .cons (xdrPackUint64_emits _) <|
  .cons (xdrPackUint64_emits _) <| .cons (xdrPackUint32_emits _) <| .last (xdrPackUint32_emits _)

theorem xdrUnpackREADDIRPLUS3args_reads (dest args : READDIRPLUS3argsT) (owned : dest.Owned) :
    Reads (reading depth) (xdrUnpackREADDIRPLUS3args dest) args.message.wire (·.message = args.message) := by
  apply Reads.cons (xdrUnpackNfsFh3_reads _ args.dir owned)
  intro _ sameDir
  exact .field (intoUint64_reads _ _) <| .field (intoUint64_reads _ _) <|
    .field (intoUint32_reads _ _) <| .field (intoUint32_reads _ _) <|
    .done (by simp only [READDIRPLUS3argsT.message, sameDir])

/-- The root handle selects the file system. -/
theorem xdrPackFSSTAT3args_emits (args : FSSTAT3argsT) (formed : args.WellFormed) :
    Emits (writing pos depth) (xdrPackFSSTAT3args args) () args.message.wire :=
  xdrPackNfsFh3_emits _ formed

theorem xdrUnpackFSSTAT3args_reads (dest args : FSSTAT3argsT) (owned : dest.Owned) :
    Reads (reading depth) (xdrUnpackFSSTAT3args dest) args.message.wire (·.message = args.message) := by
  apply Reads.converting (xdrUnpackNfsFh3_reads _ args.fsroot owned)
  intro _ same
  exact congrArg FSSTAT3args.mk same

theorem xdrPackFSINFO3args_emits (args : FSINFO3argsT) (formed : args.WellFormed) :
    Emits (writing pos depth) (xdrPackFSINFO3args args) () args.message.wire :=
  xdrPackNfsFh3_emits _ formed

theorem xdrUnpackFSINFO3args_reads (dest args : FSINFO3argsT) (owned : dest.Owned) :
    Reads (reading depth) (xdrUnpackFSINFO3args dest) args.message.wire (·.message = args.message) := by
  apply Reads.converting (xdrUnpackNfsFh3_reads _ args.fsroot owned)
  intro _ same
  exact congrArg FSINFO3args.mk same

/-- The limits of a path belong to an object. -/
theorem xdrPackPATHCONF3args_emits (args : PATHCONF3argsT) (formed : args.WellFormed) :
    Emits (writing pos depth) (xdrPackPATHCONF3args args) () args.message.wire :=
  xdrPackNfsFh3_emits _ formed

theorem xdrUnpackPATHCONF3args_reads (dest args : PATHCONF3argsT) (owned : dest.Owned) :
    Reads (reading depth) (xdrUnpackPATHCONF3args dest) args.message.wire (·.message = args.message) := by
  apply Reads.converting (xdrUnpackNfsFh3_reads _ args.object owned)
  intro _ same
  exact congrArg PATHCONF3args.mk same

/-- The range of a commit has the words of a read. -/
theorem xdrPackCOMMIT3args_emits (args : COMMIT3argsT) (formed : args.WellFormed) :
    Emits (writing pos depth) (xdrPackCOMMIT3args args) () args.message.wire :=
  .cons (xdrPackNfsFh3_emits _ formed) <| .cons (xdrPackUint64_emits _) <| .last (xdrPackUint32_emits _)

theorem xdrUnpackCOMMIT3args_reads (dest args : COMMIT3argsT) (owned : dest.Owned) :
    Reads (reading depth) (xdrUnpackCOMMIT3args dest) args.message.wire (·.message = args.message) := by
  apply Reads.cons (xdrUnpackNfsFh3_reads _ args.file owned)
  intro _ sameFile
  exact .field (intoUint64_reads _ _) <| .field (intoUint32_reads _ _) <|
    .done (by simp only [COMMIT3argsT.message, sameFile])

end Nfs3Rpc.Csuite
