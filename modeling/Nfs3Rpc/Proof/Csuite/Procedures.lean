import Nfs3Rpc.Proof.Csuite.Arguments
import Nfs3Rpc.Proof.Csuite.Directory

namespace Nfs3Rpc
open Encoding Csuite

variable {pos depth : Nat}

theorem ProcNum.packArgs_emits (proc : ProcNum) (args : proc.ArgsT) (formed : proc.WellFormedArgs args) :
    Emits (writing pos depth) (proc.packArgs args) ()
      (proc.wireArgsT (proc.clippedArgs (proc.messageArgs args))) := by
  cases proc with
  | GETATTR => exact xdrPackGETATTR3args_emits args formed
  | SETATTR => exact xdrPackSETATTR3args_emits args formed
  | LOOKUP => exact xdrPackLOOKUP3args_emits args formed
  | ACCESS => exact xdrPackACCESS3args_emits args formed
  | READLINK => exact xdrPackREADLINK3args_emits args formed
  | READ => exact xdrPackREAD3args_emits args formed
  | WRITE => exact xdrPackWRITE3args_emits args formed
  | CREATE => exact xdrPackCREATE3args_emits args formed
  | MKDIR => exact xdrPackMKDIR3args_emits args formed
  | SYMLINK => exact xdrPackSYMLINK3args_emits args formed
  | MKNOD => exact xdrPackMKNOD3args_emits args formed
  | REMOVE => exact xdrPackREMOVE3args_emits args formed
  | RMDIR => exact xdrPackRMDIR3args_emits args formed
  | RENAME => exact xdrPackRENAME3args_emits args formed
  | LINK => exact xdrPackLINK3args_emits args formed
  | READDIR => exact xdrPackREADDIR3args_emits args formed
  | READDIRPLUS => exact xdrPackREADDIRPLUS3args_emits args formed
  | FSSTAT => exact xdrPackFSSTAT3args_emits args formed
  | FSINFO => exact xdrPackFSINFO3args_emits args formed
  | PATHCONF => exact xdrPackPATHCONF3args_emits args formed
  | COMMIT => exact xdrPackCOMMIT3args_emits args formed

/-- An owned destination receives the arguments that were sent. -/
theorem ProcNum.unpackArgs_decodes (proc : ProcNum) (dest args : proc.ArgsT) (owned : proc.OwnedArgs dest) :
    Decodes (reading depth) (proc.unpackArgs dest) (proc.wireArgsT (proc.clippedArgs (proc.messageArgs args)))
      (∀ s ∈ proc.argsStrings (proc.clippedArgs (proc.messageArgs args)), Terminates s)
      (proc.messageArgs · = proc.clippedArgs (proc.messageArgs args)) := by
  cases proc with
  | GETATTR => exact decodes_plain (xdrUnpackGETATTR3args_reads dest args owned)
  | SETATTR => exact decodes_plain (xdrUnpackSETATTR3args_reads dest args owned)
  | LOOKUP => exact xdrUnpackLOOKUP3args_decodes dest args owned
  | ACCESS => exact decodes_plain (xdrUnpackACCESS3args_reads dest args owned)
  | READLINK => exact decodes_plain (xdrUnpackREADLINK3args_reads dest args owned)
  | READ => exact decodes_plain (xdrUnpackREAD3args_reads dest args owned)
  | WRITE => exact decodes_plain (xdrUnpackWRITE3args_reads dest args owned)
  | CREATE => exact xdrUnpackCREATE3args_decodes dest args owned
  | MKDIR => exact xdrUnpackMKDIR3args_decodes dest args owned
  | SYMLINK => exact xdrUnpackSYMLINK3args_decodes dest args owned
  | MKNOD => exact xdrUnpackMKNOD3args_decodes dest args owned
  | REMOVE => exact xdrUnpackREMOVE3args_decodes dest args owned
  | RMDIR => exact xdrUnpackRMDIR3args_decodes dest args owned
  | RENAME => exact xdrUnpackRENAME3args_decodes dest args owned
  | LINK => exact xdrUnpackLINK3args_decodes dest args owned
  | READDIR => exact decodes_plain (xdrUnpackREADDIR3args_reads dest args owned)
  | READDIRPLUS => exact decodes_plain (xdrUnpackREADDIRPLUS3args_reads dest args owned)
  | FSSTAT => exact decodes_plain (xdrUnpackFSSTAT3args_reads dest args owned)
  | FSINFO => exact decodes_plain (xdrUnpackFSINFO3args_reads dest args owned)
  | PATHCONF => exact decodes_plain (xdrUnpackPATHCONF3args_reads dest args owned)
  | COMMIT => exact decodes_plain (xdrUnpackCOMMIT3args_reads dest args owned)

theorem clippedRes_message {ok : Type} (proc : ProcNum) (message : ok → proc.Resok) (res : Csuite.ResT ok) :
    clippedRes proc (ResT.message message res) =
      ⟨res.status, whenSet res.hasResok (proc.clippedResok (message res.resok))⟩ := by
  by_cases zero : res.hasResok = 0 <;> simp [clippedRes, ResT.message, whenSet, zero]

theorem reply_emits {ok : Type} {packOk : ok → Run Unit} (proc : ProcNum) (message : ok → proc.Resok)
    (res : Csuite.ResT ok) (matching : res.status = .NFS3_OK ↔ res.hasResok ≠ 0)
    (inner : Emits (writing pos depth) (packOk res.resok) ()
      (proc.wireResokT (proc.clippedResok (message res.resok)))) :
    Emits (writing pos depth) (ResT.pack packOk res) ()
      (resWireT proc (clippedRes proc (ResT.message message res))) := by
  rw [clippedRes_message]
  exact ResT.pack_emits res matching inner

theorem reply_decodes {ok : Type} {unpackOk : ok → Run ok} (proc : ProcNum) (message : ok → proc.Resok)
    (dest res : Csuite.ResT ok) (matching : res.status = .NFS3_OK ↔ res.hasResok ≠ 0)
    (inner : res.hasResok ≠ 0 → Decodes (reading depth) (unpackOk dest.resok)
      (proc.wireResokT (proc.clippedResok (message res.resok)))
      (∀ s ∈ proc.resokStrings (proc.clippedResok (message res.resok)), Terminates s)
      (message · = proc.clippedResok (message res.resok))) :
    Decodes (reading depth) (ResT.unpack unpackOk dest)
      (resWireT proc (clippedRes proc (ResT.message message res)))
      (∀ s ∈ resStrings proc (clippedRes proc (ResT.message message res)), Terminates s)
      (ResT.message message · = clippedRes proc (ResT.message message res)) := by
  rw [clippedRes_message]
  exact ResT.unpack_decodes dest res matching inner

theorem freshReply_decodes {ok : Type} {okDestroy unpackOk : ok → Run ok} {fresh : ok} (proc : ProcNum)
    (message : ok → proc.Resok) (dest res : Csuite.ResT ok)
    (matching : res.status = .NFS3_OK ↔ res.hasResok ≠ 0)
    (destroyed : Reads (reading depth) (okDestroy dest.resok) [] (· = fresh))
    (inner : res.hasResok ≠ 0 → Decodes (reading depth) (unpackOk fresh)
      (proc.wireResokT (proc.clippedResok (message res.resok)))
      (∀ s ∈ proc.resokStrings (proc.clippedResok (message res.resok)), Terminates s)
      (message · = proc.clippedResok (message res.resok))) :
    Decodes (reading depth) (ResT.unpackFresh okDestroy unpackOk dest)
      (resWireT proc (clippedRes proc (ResT.message message res)))
      (∀ s ∈ resStrings proc (clippedRes proc (ResT.message message res)), Terminates s)
      (ResT.message message · = clippedRes proc (ResT.message message res)) := by
  rw [clippedRes_message]
  exact ResT.unpackFresh_decodes dest res matching destroyed inner

theorem ProcNum.packRes_emits (proc : ProcNum) (res : proc.ResT) (formed : proc.WellFormedRes res) :
    Emits (writing pos depth) (proc.packRes res) ()
      (proc.wireReply (proc.clippedReply (proc.messageRes res))) := by
  cases proc with
  | GETATTR => exact reply_emits .GETATTR GETATTR3resokT.message res formed.1 (GETATTR3resokT.pack_emits _)
  | SETATTR => exact reply_emits .SETATTR SETATTR3resokT.message res formed.1 (SETATTR3resokT.pack_emits _)
  | LOOKUP =>
      exact reply_emits .LOOKUP LOOKUP3resokT.message res formed.1 (LOOKUP3resokT.pack_emits _ formed.2)
  | ACCESS => exact reply_emits .ACCESS ACCESS3resokT.message res formed.1 (ACCESS3resokT.pack_emits _)
  | READLINK =>
      exact reply_emits .READLINK READLINK3resokT.message res formed.1 (READLINK3resokT.pack_emits _ formed.2)
  | READ => exact reply_emits .READ READ3resokT.message res formed.1 (READ3resokT.pack_emits _ formed.2)
  | WRITE => exact xdrPackWRITE3res_emits res formed
  | CREATE => exact reply_emits .CREATE NewObjectT.message res formed.1 (NewObjectT.pack_emits _ formed.2)
  | MKDIR => exact reply_emits .MKDIR NewObjectT.message res formed.1 (NewObjectT.pack_emits _ formed.2)
  | SYMLINK => exact reply_emits .SYMLINK NewObjectT.message res formed.1 (NewObjectT.pack_emits _ formed.2)
  | MKNOD => exact reply_emits .MKNOD NewObjectT.message res formed.1 (NewObjectT.pack_emits _ formed.2)
  | REMOVE => exact reply_emits .REMOVE RemovedEntryT.message res formed.1 (RemovedEntryT.pack_emits _)
  | RMDIR => exact reply_emits .RMDIR RemovedEntryT.message res formed.1 (RemovedEntryT.pack_emits _)
  | RENAME => exact reply_emits .RENAME RENAME3resokT.message res formed.1 (RENAME3resokT.pack_emits _)
  | LINK => exact reply_emits .LINK LINK3resokT.message res formed.1 (LINK3resokT.pack_emits _)
  | READDIR =>
      exact reply_emits .READDIR READDIR3resokT.message res formed.1 (READDIR3resokT.pack_emits _ formed.2)
  | READDIRPLUS =>
      exact reply_emits .READDIRPLUS READDIRPLUS3resokT.message res formed.1 (READDIRPLUS3resokT.pack_emits _ formed.2)
  | FSSTAT => exact reply_emits .FSSTAT FSSTAT3resokT.message res formed.1 (FSSTAT3resokT.pack_emits _)
  | FSINFO => exact reply_emits .FSINFO FSINFO3resokT.message res formed.1 (FSINFO3resokT.pack_emits _)
  | PATHCONF =>
      exact reply_emits .PATHCONF PATHCONF3resokT.message res formed.1 (PATHCONF3resokT.pack_emits _)
  | COMMIT => exact reply_emits .COMMIT COMMIT3resokT.message res formed.1 (COMMIT3resokT.pack_emits _)

theorem resDepth_le {ok : Type} {proc : ProcNum} {message : ok → proc.Resok} {res : Csuite.ResT ok}
    (enough : resDepth proc (ResT.message message res) ≤ depth) (present : res.hasResok ≠ 0) :
    proc.resokDepth (message res.resok) ≤ depth := by
  simpa [resDepth, ResT.message, whenSet, present] using enough

/-- An owned destination receives the result that was sent. -/
theorem ProcNum.unpackRes_decodes (proc : ProcNum) (dest res : proc.ResT) (owned : proc.OwnedRes dest)
    (formed : proc.WellFormedRes res) (enough : proc.replyDepth (proc.messageRes res) ≤ depth) :
    Decodes (reading depth) (proc.unpackRes dest) (proc.wireReply (proc.clippedReply (proc.messageRes res)))
      (∀ s ∈ proc.replyStrings (proc.clippedReply (proc.messageRes res)), Terminates s)
      (proc.messageRes · = proc.clippedReply (proc.messageRes res)) := by
  cases proc with
  | GETATTR =>
      exact reply_decodes .GETATTR GETATTR3resokT.message dest res formed.1 fun _ =>
        decodes_plain (GETATTR3resokT.unpack_reads _ _)
  | SETATTR =>
      exact reply_decodes .SETATTR SETATTR3resokT.message dest res formed.1 fun _ =>
        decodes_plain (SETATTR3resokT.unpack_reads _ _)
  | LOOKUP =>
      refine freshReply_decodes .LOOKUP LOOKUP3resokT.message dest res formed.1 ?_ fun _ =>
        decodes_plain (LOOKUP3resokT.unpack_reads {} _ Ptr.noConfusion)
      exact Reads.silent (nfsFh3Destroy_reads _ owned) fun _ _ => Reads.pure rfl
  | ACCESS =>
      exact reply_decodes .ACCESS ACCESS3resokT.message dest res formed.1 fun _ =>
        decodes_plain (ACCESS3resokT.unpack_reads _ _)
  | READLINK =>
      refine freshReply_decodes .READLINK READLINK3resokT.message dest res formed.1 ?_ fun _ =>
        READLINK3resokT.unpack_decodes {} _
      exact Reads.silent (free_reads _ owned) fun _ _ => Reads.pure rfl
  | READ =>
      refine freshReply_decodes .READ READ3resokT.message dest res formed.1 ?_ fun _ =>
        decodes_plain (READ3resokT.unpack_reads {} _)
      exact Reads.silent (free_reads _ owned) fun _ _ => Reads.pure rfl
  | WRITE => exact decodes_plain (xdrUnpackWRITE3res_reads dest res formed)
  | CREATE =>
      refine freshReply_decodes .CREATE NewObjectT.message dest res formed.1 ?_ fun _ =>
        decodes_plain (NewObjectT.unpack_reads _)
      exact Reads.silent (nfsFh3Destroy_reads _ owned) fun _ _ => Reads.pure rfl
  | MKDIR =>
      refine freshReply_decodes .MKDIR NewObjectT.message dest res formed.1 ?_ fun _ =>
        decodes_plain (NewObjectT.unpack_reads _)
      exact Reads.silent (nfsFh3Destroy_reads _ owned) fun _ _ => Reads.pure rfl
  | SYMLINK =>
      refine freshReply_decodes .SYMLINK NewObjectT.message dest res formed.1 ?_ fun _ =>
        decodes_plain (NewObjectT.unpack_reads _)
      exact Reads.silent (nfsFh3Destroy_reads _ owned) fun _ _ => Reads.pure rfl
  | MKNOD =>
      refine freshReply_decodes .MKNOD NewObjectT.message dest res formed.1 ?_ fun _ =>
        decodes_plain (NewObjectT.unpack_reads _)
      exact Reads.silent (nfsFh3Destroy_reads _ owned) fun _ _ => Reads.pure rfl
  | REMOVE =>
      exact reply_decodes .REMOVE RemovedEntryT.message dest res formed.1 fun _ =>
        decodes_plain (RemovedEntryT.unpack_reads _ _)
  | RMDIR =>
      exact reply_decodes .RMDIR RemovedEntryT.message dest res formed.1 fun _ =>
        decodes_plain (RemovedEntryT.unpack_reads _ _)
  | RENAME =>
      exact reply_decodes .RENAME RENAME3resokT.message dest res formed.1 fun _ =>
        decodes_plain (RENAME3resokT.unpack_reads _ _)
  | LINK =>
      exact reply_decodes .LINK LINK3resokT.message dest res formed.1 fun _ =>
        decodes_plain (LINK3resokT.unpack_reads _ _)
  | READDIR =>
      refine freshReply_decodes .READDIR READDIR3resokT.message dest res formed.1 ?_ fun present =>
        READDIR3resokT.unpack_decodes _ (resDepth_le enough present)
      exact Reads.silent (entry3Destroy_reads _ owned) fun _ _ => Reads.pure rfl
  | READDIRPLUS =>
      refine freshReply_decodes .READDIRPLUS READDIRPLUS3resokT.message dest res formed.1 ?_ fun present =>
        READDIRPLUS3resokT.unpack_decodes _ (resDepth_le enough present)
      exact Reads.silent (entryplus3Destroy_reads _ owned) fun _ _ => Reads.pure rfl
  | FSSTAT =>
      exact reply_decodes .FSSTAT FSSTAT3resokT.message dest res formed.1 fun _ =>
        decodes_plain (FSSTAT3resokT.unpack_reads _ _)
  | FSINFO =>
      exact reply_decodes .FSINFO FSINFO3resokT.message dest res formed.1 fun _ =>
        decodes_plain (FSINFO3resokT.unpack_reads _ _)
  | PATHCONF =>
      exact reply_decodes .PATHCONF PATHCONF3resokT.message dest res formed.1 fun _ =>
        decodes_plain (PATHCONF3resokT.unpack_reads _ _)
  | COMMIT =>
      exact reply_decodes .COMMIT COMMIT3resokT.message dest res formed.1 fun _ =>
        decodes_plain (COMMIT3resokT.unpack_reads _ _)

end Nfs3Rpc
