import Nfs3Rpc.Format.Arguments
import Nfs3Rpc.Proof.Builtin.Attributes

namespace Nfs3Rpc
open Encoding Builtin

variable {pos : Nat}

/-- These arguments are a handle and nothing else. -/
theorem GETATTR3args.serialize_emits (args : GETATTR3args) (fits : args.Fits) :
    Emits (XdrBuffer.writing pos) args.serialize () args.wire :=
  args.object.serialize_emits fits

theorem GETATTR3args.deserialize_reads (args : GETATTR3args) (fits : args.Fits) :
    Reads XdrBuffer.reading GETATTR3args.deserialize args.wire (· = args) :=
  Reads.returning (args.object.deserialize_reads fits) rfl

/-- The guard travels behind its flag, and it is a handle too. -/
theorem SETATTR3args.serialize_emits (args : SETATTR3args) (fits : args.Fits) :
    Emits (XdrBuffer.writing pos) args.serialize () args.wire :=
  .cons (args.object.serialize_emits fits.1) <| .cons args.newAttributes.serialize_emits <|
  .last (packOptional_emits _ fun fh present => fh.serialize_emits (fits.2.2 fh present))

/-- An empty object has no attribute or guard that an absent one could leave behind. -/
theorem SETATTR3args.deserialize_reads (args : SETATTR3args) (fits : args.Fits) :
    Reads XdrBuffer.reading (SETATTR3args.deserialize {}) args.wire (· = args) :=
  .field (args.object.deserialize_reads fits.1) <|
  .field (args.newAttributes.deserialize_reads fits.2.1) <|
  .field (unpackOptional_reads none args.guard fun fh present => fh.deserialize_reads (fits.2.2 fh present)) <|
  .done (by simp)

/-- A directory and a name are the front of most arguments that change the tree. -/
theorem LOOKUP3args.serialize_emits (args : LOOKUP3args) (fits : args.Fits) :
    Emits (XdrBuffer.writing pos) args.serialize () args.wire :=
  .cons (args.whatDir.serialize_emits fits.1) <| .last (packString_emits _ fits.2)

/-- The padding of the handle lies in front of the length word of the name. -/
theorem LOOKUP3args.deserialize_reads (args : LOOKUP3args) (fits : args.Fits) :
    Reads XdrBuffer.reading LOOKUP3args.deserialize args.wire (· = args) :=
  .field (args.whatDir.deserialize_reads fits.1) <| .field (unpackString_reads _ fits.2) <| .done rfl

/-- The wanted rights are one word behind the handle. -/
theorem ACCESS3args.serialize_emits (args : ACCESS3args) (fits : args.Fits) :
    Emits (XdrBuffer.writing pos) args.serialize () args.wire :=
  .cons (args.object.serialize_emits fits) <| .last (packUint32_emits _)

theorem ACCESS3args.deserialize_reads (args : ACCESS3args) (fits : args.Fits) :
    Reads XdrBuffer.reading ACCESS3args.deserialize args.wire (· = args) :=
  .field (args.object.deserialize_reads fits) <| .field (unpackUint32_reads _) <| .done rfl

/-- The link is named by its handle alone. -/
theorem READLINK3args.serialize_emits (args : READLINK3args) (fits : args.Fits) :
    Emits (XdrBuffer.writing pos) args.serialize () args.wire :=
  args.symlink.serialize_emits fits

theorem READLINK3args.deserialize_reads (args : READLINK3args) (fits : args.Fits) :
    Reads XdrBuffer.reading READLINK3args.deserialize args.wire (· = args) :=
  Reads.returning (args.symlink.deserialize_reads fits) rfl

/-- An offset of eight bytes and a count of four follow the handle. -/
theorem READ3args.serialize_emits (args : READ3args) (fits : args.Fits) :
    Emits (XdrBuffer.writing pos) args.serialize () args.wire :=
  .cons (args.file.serialize_emits fits) <| .cons (packUint64_emits _) <| .last (packUint32_emits _)

theorem READ3args.deserialize_reads (args : READ3args) (fits : args.Fits) :
    Reads XdrBuffer.reading READ3args.deserialize args.wire (· = args) :=
  .field (args.file.deserialize_reads fits) <| .field (unpackUint64_reads _) <|
  .field (unpackUint32_reads _) <| .done rfl

/-- The count travels beside the length word of the data, and neither is compared with the other. -/
theorem WRITE3args.serialize_emits (args : WRITE3args) (fits : args.Fits) :
    Emits (XdrBuffer.writing pos) args.serialize () args.wire :=
  .cons (args.file.serialize_emits fits.1) <| .cons (packUint64_emits _) <| .cons (packUint32_emits _) <|
  .cons (packUint32_emits _) <| .last (packOpaque_emits _ fits.2)

/-- Each word returns as it was sent, so the count and the data need not agree. -/
theorem WRITE3args.deserialize_reads (args : WRITE3args) (fits : args.Fits) :
    Reads XdrBuffer.reading WRITE3args.deserialize args.wire (· = args) :=
  .field (args.file.deserialize_reads fits.1) <| .field (unpackUint64_reads _) <|
  .field (unpackUint32_reads _) <| .field (unpackUint32_reads _) <|
  .field (unpackOpaque_reads _ fits.2) <| .done rfl

/-- The attributes travel in every mode, and the verifier behind them only in the mode EXCLUSIVE. -/
theorem CREATE3args.serialize_emits (args : CREATE3args) (fits : args.Fits) :
    Emits (XdrBuffer.writing pos) args.serialize () args.wire := by
  refine Emits.cons (args.whereDir.serialize_emits fits.1) (Emits.cons (packString_emits _ fits.2.1)
    (Emits.cons (packUint32_emits _) (Emits.cons args.howAttributes.serialize_emits ?_)))
  split
  · exact Emits.last args.howVerf.serialize_emits
  · exact Emits.pure ()

/-- The verifier is visible in the mode EXCLUSIVE only, so the cases follow the mode. -/
theorem CREATE3args.deserialize_reads (self args : CREATE3args) (fits : args.Fits)
    (fresh : self.howAttributes = {}) :
    Reads XdrBuffer.reading self.deserialize args.wire (·.visible = args.visible) := by
  obtain ⟨dir, name, mode, attributes, verf⟩ := args
  unfold CREATE3args.deserialize
  rw [fresh]
  refine Reads.field (dir.deserialize_reads fits.1) (Reads.field (unpackString_reads name fits.2.1)
    (Reads.field (unpackUint32_reads mode.code) (Reads.field (attributes.deserialize_reads fits.2.2) ?_)))
  by_cases exclusive : mode = .EXCLUSIVE
  · subst exclusive
    exact Reads.field (self.howVerf.deserialize_reads verf) (Reads.done rfl)
  · simp only [exclusive, if_false]
    exact Reads.done (by simp [CREATE3args.visible, exclusive])

/-- A new directory has a place, a name and attributes. -/
theorem MKDIR3args.serialize_emits (args : MKDIR3args) (fits : args.Fits) :
    Emits (XdrBuffer.writing pos) args.serialize () args.wire :=
  .cons (args.whereDir.serialize_emits fits.1) <| .cons (packString_emits _ fits.2.1) <|
  .last args.attributes.serialize_emits

theorem MKDIR3args.deserialize_reads (args : MKDIR3args) (fits : args.Fits) :
    Reads XdrBuffer.reading (MKDIR3args.deserialize {}) args.wire (· = args) :=
  .field (args.whereDir.deserialize_reads fits.1) <| .field (unpackString_reads _ fits.2.1) <|
  .field (args.attributes.deserialize_reads fits.2.2) <| .done rfl

/-- The text of the link stands behind its attributes. -/
theorem SYMLINK3args.serialize_emits (args : SYMLINK3args) (fits : args.Fits) :
    Emits (XdrBuffer.writing pos) args.serialize () args.wire :=
  .cons (args.whereDir.serialize_emits fits.1) <| .cons (packString_emits _ fits.2.1) <|
  .cons args.symlinkAttributes.serialize_emits <| .last (packString_emits _ fits.2.2.2)

/-- The object is empty, so the attributes are those of the message. -/
theorem SYMLINK3args.deserialize_reads (args : SYMLINK3args) (fits : args.Fits) :
    Reads XdrBuffer.reading (SYMLINK3args.deserialize {}) args.wire (· = args) :=
  .field (args.whereDir.deserialize_reads fits.1) <| .field (unpackString_reads _ fits.2.1) <|
  .field (args.symlinkAttributes.deserialize_reads fits.2.2.1) <|
  .field (unpackString_reads _ fits.2.2.2) <| .done rfl

/-- The type goes out as its code, and the attributes follow it for every type. -/
theorem MKNOD3args.serialize_emits (args : MKNOD3args) (fits : args.Fits) :
    Emits (XdrBuffer.writing pos) args.serialize () args.wire :=
  .cons (args.whereDir.serialize_emits fits.1) <| .cons (packString_emits _ fits.2.1) <|
  .cons (packUint32_emits _) <| .last args.whatAttributes.serialize_emits

/-- The type of the object may be anything, since the message replaces it. -/
theorem MKNOD3args.deserialize_reads (self args : MKNOD3args) (fits : args.Fits)
    (fresh : self.whatAttributes = {}) : Reads XdrBuffer.reading self.deserialize args.wire (· = args) := by
  unfold MKNOD3args.deserialize
  rw [fresh]
  exact .field (args.whereDir.deserialize_reads fits.1) <| .field (unpackString_reads _ fits.2.1) <|
    .field (unpackUint32_reads _) <| .field (args.whatAttributes.deserialize_reads fits.2.2) <|
    .done rfl

/-- The file is named by its directory and its name. -/
theorem REMOVE3args.serialize_emits (args : REMOVE3args) (fits : args.Fits) :
    Emits (XdrBuffer.writing pos) args.serialize () args.wire :=
  .cons (args.objectDir.serialize_emits fits.1) <| .last (packString_emits _ fits.2)

theorem REMOVE3args.deserialize_reads (args : REMOVE3args) (fits : args.Fits) :
    Reads XdrBuffer.reading REMOVE3args.deserialize args.wire (· = args) :=
  .field (args.objectDir.deserialize_reads fits.1) <| .field (unpackString_reads _ fits.2) <| .done rfl

/-- The directory is named in the same way as a file. -/
theorem RMDIR3args.serialize_emits (args : RMDIR3args) (fits : args.Fits) :
    Emits (XdrBuffer.writing pos) args.serialize () args.wire :=
  .cons (args.objectDir.serialize_emits fits.1) <| .last (packString_emits _ fits.2)

theorem RMDIR3args.deserialize_reads (args : RMDIR3args) (fits : args.Fits) :
    Reads XdrBuffer.reading RMDIR3args.deserialize args.wire (· = args) :=
  .field (args.objectDir.deserialize_reads fits.1) <| .field (unpackString_reads _ fits.2) <| .done rfl

/-- Two places travel, the old one first. -/
theorem RENAME3args.serialize_emits (args : RENAME3args) (fits : args.Fits) :
    Emits (XdrBuffer.writing pos) args.serialize () args.wire :=
  .cons (args.fromDir.serialize_emits fits.1) <| .cons (packString_emits _ fits.2.1) <|
  .cons (args.toDir.serialize_emits fits.2.2.1) <| .last (packString_emits _ fits.2.2.2)

/-- Four byte strings are read, and each one has to be short enough. -/
theorem RENAME3args.deserialize_reads (args : RENAME3args) (fits : args.Fits) :
    Reads XdrBuffer.reading RENAME3args.deserialize args.wire (· = args) :=
  .field (args.fromDir.deserialize_reads fits.1) <| .field (unpackString_reads _ fits.2.1) <|
  .field (args.toDir.deserialize_reads fits.2.2.1) <| .field (unpackString_reads _ fits.2.2.2) <|
  .done rfl

/-- The file is a handle, and its new place is a directory with a name. -/
theorem LINK3args.serialize_emits (args : LINK3args) (fits : args.Fits) :
    Emits (XdrBuffer.writing pos) args.serialize () args.wire :=
  .cons (args.file.serialize_emits fits.1) <| .cons (args.linkDir.serialize_emits fits.2.1) <|
  .last (packString_emits _ fits.2.2)

theorem LINK3args.deserialize_reads (args : LINK3args) (fits : args.Fits) :
    Reads XdrBuffer.reading LINK3args.deserialize args.wire (· = args) :=
  .field (args.file.deserialize_reads fits.1) <| .field (args.linkDir.deserialize_reads fits.2.1) <|
  .field (unpackString_reads _ fits.2.2) <| .done rfl

/-- The cookie and its verifier are double words. -/
theorem READDIR3args.serialize_emits (args : READDIR3args) (fits : args.Fits) :
    Emits (XdrBuffer.writing pos) args.serialize () args.wire :=
  .cons (args.dir.serialize_emits fits) <| .cons (packUint64_emits _) <| .cons (packUint64_emits _) <|
  .last (packUint32_emits _)

theorem READDIR3args.deserialize_reads (args : READDIR3args) (fits : args.Fits) :
    Reads XdrBuffer.reading READDIR3args.deserialize args.wire (· = args) :=
  .field (args.dir.deserialize_reads fits) <| .field (unpackUint64_reads _) <|
  .field (unpackUint64_reads _) <| .field (unpackUint32_reads _) <| .done rfl

/-- This listing has one limit for the names and one for the whole reply. -/
theorem READDIRPLUS3args.serialize_emits (args : READDIRPLUS3args) (fits : args.Fits) :
    Emits (XdrBuffer.writing pos) args.serialize () args.wire :=
  .cons (args.dir.serialize_emits fits) <| .cons (packUint64_emits _) <| .cons (packUint64_emits _) <|
  .cons (packUint32_emits _) <| .last (packUint32_emits _)

theorem READDIRPLUS3args.deserialize_reads (args : READDIRPLUS3args) (fits : args.Fits) :
    Reads XdrBuffer.reading READDIRPLUS3args.deserialize args.wire (· = args) :=
  .field (args.dir.deserialize_reads fits) <| .field (unpackUint64_reads _) <|
  .field (unpackUint64_reads _) <| .field (unpackUint32_reads _) <| .field (unpackUint32_reads _) <|
  .done rfl

/-- The root handle selects the file system. -/
theorem FSSTAT3args.serialize_emits (args : FSSTAT3args) (fits : args.Fits) :
    Emits (XdrBuffer.writing pos) args.serialize () args.wire :=
  args.fsroot.serialize_emits fits

theorem FSSTAT3args.deserialize_reads (args : FSSTAT3args) (fits : args.Fits) :
    Reads XdrBuffer.reading FSSTAT3args.deserialize args.wire (· = args) :=
  Reads.returning (args.fsroot.deserialize_reads fits) rfl

/-- The root handle selects the file system here too. -/
theorem FSINFO3args.serialize_emits (args : FSINFO3args) (fits : args.Fits) :
    Emits (XdrBuffer.writing pos) args.serialize () args.wire :=
  args.fsroot.serialize_emits fits

theorem FSINFO3args.deserialize_reads (args : FSINFO3args) (fits : args.Fits) :
    Reads XdrBuffer.reading FSINFO3args.deserialize args.wire (· = args) :=
  Reads.returning (args.fsroot.deserialize_reads fits) rfl

/-- The limits of a path belong to an object. -/
theorem PATHCONF3args.serialize_emits (args : PATHCONF3args) (fits : args.Fits) :
    Emits (XdrBuffer.writing pos) args.serialize () args.wire :=
  args.object.serialize_emits fits

theorem PATHCONF3args.deserialize_reads (args : PATHCONF3args) (fits : args.Fits) :
    Reads XdrBuffer.reading PATHCONF3args.deserialize args.wire (· = args) :=
  Reads.returning (args.object.deserialize_reads fits) rfl

/-- The range of a commit has the words of a read. -/
theorem COMMIT3args.serialize_emits (args : COMMIT3args) (fits : args.Fits) :
    Emits (XdrBuffer.writing pos) args.serialize () args.wire :=
  .cons (args.file.serialize_emits fits) <| .cons (packUint64_emits _) <| .last (packUint32_emits _)

theorem COMMIT3args.deserialize_reads (args : COMMIT3args) (fits : args.Fits) :
    Reads XdrBuffer.reading COMMIT3args.deserialize args.wire (· = args) :=
  .field (args.file.deserialize_reads fits) <| .field (unpackUint64_reads _) <|
  .field (unpackUint32_reads _) <| .done rfl

end Nfs3Rpc
