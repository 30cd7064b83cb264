/-
This file holds the NFSv3 enumerations that both test suites declare.
Their C and C++ types admit every 32-bit value, so each one wraps its code.
-/

import Nfs3Rpc.Encoding.Words

namespace Nfs3Rpc

structure Nfsstat3 where
  code : UInt32
  deriving DecidableEq

def Nfsstat3.NFS3_OK : Nfsstat3 := ⟨0⟩

def Nfsstat3.NFS3ERR_NOENT : Nfsstat3 := ⟨2⟩

def Nfsstat3.NFS3ERR_IO : Nfsstat3 := ⟨5⟩

def Nfsstat3.NFS3ERR_INVAL : Nfsstat3 := ⟨22⟩

structure Ftype3 where
  code : UInt32
  deriving DecidableEq

def Ftype3.NF3NON : Ftype3 := ⟨0⟩

def Ftype3.NF3REG : Ftype3 := ⟨1⟩

structure StableHow where
  code : UInt32
  deriving DecidableEq

def StableHow.UNSTABLE : StableHow := ⟨0⟩

def StableHow.FILE_SYNC : StableHow := ⟨2⟩

structure Createmode3 where
  code : UInt32
  deriving DecidableEq

def Createmode3.UNCHECKED : Createmode3 := ⟨0⟩

def Createmode3.EXCLUSIVE : Createmode3 := ⟨2⟩

/-- The suites name the MKNOD type after NFSv4. -/
structure Ftype4 where
  code : UInt32
  deriving DecidableEq

def Ftype4.NF4FIFO : Ftype4 := ⟨7⟩

/-- These procedures have arguments and results; the NULL procedure has neither. -/
inductive ProcNum where
  | GETATTR | SETATTR | LOOKUP | ACCESS | READLINK | READ | WRITE | CREATE | MKDIR | SYMLINK | MKNOD
  | REMOVE | RMDIR | RENAME | LINK | READDIR | READDIRPLUS | FSSTAT | FSINFO | PATHCONF | COMMIT
  deriving DecidableEq

/-- This is the wire value of `proc_num`. -/
def ProcNum.code : ProcNum → UInt32
  | .GETATTR => 1
  | .SETATTR => 2
  | .LOOKUP => 3
  | .ACCESS => 4
  | .READLINK => 5
  | .READ => 6
  | .WRITE => 7
  | .CREATE => 8
  | .MKDIR => 9
  | .SYMLINK => 10
  | .MKNOD => 11
  | .REMOVE => 12
  | .RMDIR => 13
  | .RENAME => 14
  | .LINK => 15
  | .READDIR => 16
  | .READDIRPLUS => 17
  | .FSSTAT => 18
  | .FSINFO => 19
  | .PATHCONF => 20
  | .COMMIT => 21

def NFS_PROGRAM : UInt32 := 100003

def NFS_V3 : UInt32 := 3

end Nfs3Rpc
