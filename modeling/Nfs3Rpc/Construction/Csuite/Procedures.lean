/-
This file indexes both directions of the C codec by the procedure.
-/

import Nfs3Rpc.Construction.Csuite.Arguments
import Nfs3Rpc.Construction.Csuite.Directory

namespace Nfs3Rpc
open Csuite

def ProcNum.ArgsT : ProcNum → Type
  | .GETATTR => GETATTR3argsT
  | .SETATTR => SETATTR3argsT
  | .LOOKUP => LOOKUP3argsT
  | .ACCESS => ACCESS3argsT
  | .READLINK => READLINK3argsT
  | .READ => READ3argsT
  | .WRITE => WRITE3argsT
  | .CREATE => CREATE3argsT
  | .MKDIR => MKDIR3argsT
  | .SYMLINK => SYMLINK3argsT
  | .MKNOD => MKNOD3argsT
  | .REMOVE => REMOVE3argsT
  | .RMDIR => RMDIR3argsT
  | .RENAME => RENAME3argsT
  | .LINK => LINK3argsT
  | .READDIR => READDIR3argsT
  | .READDIRPLUS => READDIRPLUS3argsT
  | .FSSTAT => FSSTAT3argsT
  | .FSINFO => FSINFO3argsT
  | .PATHCONF => PATHCONF3argsT
  | .COMMIT => COMMIT3argsT

def ProcNum.packArgs : (proc : ProcNum) → proc.ArgsT → Run Unit
  | .GETATTR => xdrPackGETATTR3args
  | .SETATTR => xdrPackSETATTR3args
  | .LOOKUP => xdrPackLOOKUP3args
  | .ACCESS => xdrPackACCESS3args
  | .READLINK => xdrPackREADLINK3args
  | .READ => xdrPackREAD3args
  | .WRITE => xdrPackWRITE3args
  | .CREATE => xdrPackCREATE3args
  | .MKDIR => xdrPackMKDIR3args
  | .SYMLINK => xdrPackSYMLINK3args
  | .MKNOD => xdrPackMKNOD3args
  | .REMOVE => xdrPackREMOVE3args
  | .RMDIR => xdrPackRMDIR3args
  | .RENAME => xdrPackRENAME3args
  | .LINK => xdrPackLINK3args
  | .READDIR => xdrPackREADDIR3args
  | .READDIRPLUS => xdrPackREADDIRPLUS3args
  | .FSSTAT => xdrPackFSSTAT3args
  | .FSINFO => xdrPackFSINFO3args
  | .PATHCONF => xdrPackPATHCONF3args
  | .COMMIT => xdrPackCOMMIT3args

def ProcNum.unpackArgs : (proc : ProcNum) → proc.ArgsT → Run proc.ArgsT
  | .GETATTR => xdrUnpackGETATTR3args
  | .SETATTR => xdrUnpackSETATTR3args
  | .LOOKUP => xdrUnpackLOOKUP3args
  | .ACCESS => xdrUnpackACCESS3args
  | .READLINK => xdrUnpackREADLINK3args
  | .READ => xdrUnpackREAD3args
  | .WRITE => xdrUnpackWRITE3args
  | .CREATE => xdrUnpackCREATE3args
  | .MKDIR => xdrUnpackMKDIR3args
  | .SYMLINK => xdrUnpackSYMLINK3args
  | .MKNOD => xdrUnpackMKNOD3args
  | .REMOVE => xdrUnpackREMOVE3args
  | .RMDIR => xdrUnpackRMDIR3args
  | .RENAME => xdrUnpackRENAME3args
  | .LINK => xdrUnpackLINK3args
  | .READDIR => xdrUnpackREADDIR3args
  | .READDIRPLUS => xdrUnpackREADDIRPLUS3args
  | .FSSTAT => xdrUnpackFSSTAT3args
  | .FSINFO => xdrUnpackFSINFO3args
  | .PATHCONF => xdrUnpackPATHCONF3args
  | .COMMIT => xdrUnpackCOMMIT3args

def ProcNum.ResT : ProcNum → Type
  | .GETATTR => Csuite.ResT GETATTR3resokT
  | .SETATTR => Csuite.ResT SETATTR3resokT
  | .LOOKUP => Csuite.ResT LOOKUP3resokT
  | .ACCESS => Csuite.ResT ACCESS3resokT
  | .READLINK => Csuite.ResT READLINK3resokT
  | .READ => Csuite.ResT READ3resokT
  | .WRITE => WRITE3resT
  | .CREATE => Csuite.ResT NewObjectT
  | .MKDIR => Csuite.ResT NewObjectT
  | .SYMLINK => Csuite.ResT NewObjectT
  | .MKNOD => Csuite.ResT NewObjectT
  | .REMOVE => Csuite.ResT RemovedEntryT
  | .RMDIR => Csuite.ResT RemovedEntryT
  | .RENAME => Csuite.ResT RENAME3resokT
  | .LINK => Csuite.ResT LINK3resokT
  | .READDIR => Csuite.ResT READDIR3resokT
  | .READDIRPLUS => Csuite.ResT READDIRPLUS3resokT
  | .FSSTAT => Csuite.ResT FSSTAT3resokT
  | .FSINFO => Csuite.ResT FSINFO3resokT
  | .PATHCONF => Csuite.ResT PATHCONF3resokT
  | .COMMIT => Csuite.ResT COMMIT3resokT

def ProcNum.packRes : (proc : ProcNum) → proc.ResT → Run Unit
  | .GETATTR => xdrPackGETATTR3res
  | .SETATTR => xdrPackSETATTR3res
  | .LOOKUP => xdrPackLOOKUP3res
  | .ACCESS => xdrPackACCESS3res
  | .READLINK => xdrPackREADLINK3res
  | .READ => xdrPackREAD3res
  | .WRITE => xdrPackWRITE3res
  | .CREATE => xdrPackCREATE3res
  | .MKDIR => xdrPackMKDIR3res
  | .SYMLINK => xdrPackSYMLINK3res
  | .MKNOD => xdrPackMKNOD3res
  | .REMOVE => xdrPackREMOVE3res
  | .RMDIR => xdrPackRMDIR3res
  | .RENAME => xdrPackRENAME3res
  | .LINK => xdrPackLINK3res
  | .READDIR => xdrPackREADDIR3res
  | .READDIRPLUS => xdrPackREADDIRPLUS3res
  | .FSSTAT => xdrPackFSSTAT3res
  | .FSINFO => xdrPackFSINFO3res
  | .PATHCONF => xdrPackPATHCONF3res
  | .COMMIT => xdrPackCOMMIT3res

def ProcNum.unpackRes : (proc : ProcNum) → proc.ResT → Run proc.ResT
  | .GETATTR => xdrUnpackGETATTR3res
  | .SETATTR => xdrUnpackSETATTR3res
  | .LOOKUP => xdrUnpackLOOKUP3res
  | .ACCESS => xdrUnpackACCESS3res
  | .READLINK => xdrUnpackREADLINK3res
  | .READ => xdrUnpackREAD3res
  | .WRITE => xdrUnpackWRITE3res
  | .CREATE => xdrUnpackCREATE3res
  | .MKDIR => xdrUnpackMKDIR3res
  | .SYMLINK => xdrUnpackSYMLINK3res
  | .MKNOD => xdrUnpackMKNOD3res
  | .REMOVE => xdrUnpackREMOVE3res
  | .RMDIR => xdrUnpackRMDIR3res
  | .RENAME => xdrUnpackRENAME3res
  | .LINK => xdrUnpackLINK3res
  | .READDIR => xdrUnpackREADDIR3res
  | .READDIRPLUS => xdrUnpackREADDIRPLUS3res
  | .FSSTAT => xdrUnpackFSSTAT3res
  | .FSINFO => xdrUnpackFSINFO3res
  | .PATHCONF => xdrUnpackPATHCONF3res
  | .COMMIT => xdrUnpackCOMMIT3res

end Nfs3Rpc
