/-
This file states what the libtirpc build relies on and when both builds send the same bytes.
-/

import Nfs3Rpc.Construction.Tirpc.Results
import Nfs3Rpc.Encoding.Programs
import Nfs3Rpc.Format.Arguments
import Nfs3Rpc.Format.Results

namespace Nfs3Rpc.Tirpc
open Encoding Builtin

variable {σ : Type}

def Libtirpc.writing (lib : Libtirpc σ) : Writing σ := fun stream done => lib.written stream = done

def CharPtr.cstring (ptr : CharPtr) : Bytes := ptr.memory.takeWhile (· != 0)

/-- The primitives of libtirpc write the encodings of RFC 4506 and refuse longer values than their bound. -/
structure Rfc4506Encoder (lib : Libtirpc σ) : Prop where
  uInt : ∀ value, Emits lib.writing (lib.xdrUInt .XDR_ENCODE value) value (be32 value)
  int : ∀ value, Emits lib.writing (lib.xdrInt .XDR_ENCODE value) value (be32 value.toUInt32)
  uHyper : ∀ value, Emits lib.writing (lib.xdrUHyper .XDR_ENCODE value) value (be64 value)
  array : ∀ {size : Nat} (data : CharArray size),
    Emits lib.writing (lib.xdrOpaque .XDR_ENCODE data) data (padded data.val)
  bytes : ∀ ptr len maxsize, len.toNat ≤ ptr.memory.length → len ≤ maxsize →
    Emits lib.writing (lib.xdrBytes .XDR_ENCODE ptr len maxsize) (ptr, len)
      (opaqueBytes (ptr.memory.take len.toNat))
  bytesRefused : ∀ ptr len maxsize stream, maxsize < len →
    ∃ last, lib.xdrBytes .XDR_ENCODE ptr len maxsize stream = .error .returnFalse last
  string : ∀ ptr maxsize, 0 ∈ ptr.memory → ptr.cstring.length ≤ maxsize.toNat →
    Emits lib.writing (lib.xdrString .XDR_ENCODE ptr maxsize) ptr (opaqueBytes ptr.cstring)
  stringRefused : ∀ ptr maxsize stream, 0 ∈ ptr.memory → maxsize.toNat < ptr.cstring.length →
    Short ptr.cstring →
    ∃ last, lib.xdrString .XDR_ENCODE ptr maxsize stream = .error .returnFalse last

/-- A decoding stream consumes its input from the front. -/
def Libtirpc.reading (input : σ → Bytes) : Reading σ := fun stream _ rest => input stream = rest

/-- The primitives of libtirpc read these encodings back. They allocate memory for a null pointer;
an empty byte string needs none, and a string has a zero byte after it. -/
structure Rfc4506Decoder (lib : Libtirpc σ) (input : σ → Bytes) : Prop where
  unread : ∀ stream, lib.unread stream = (input stream).length
  uInt : ∀ start value, Reads (Libtirpc.reading input) (lib.xdrUInt .XDR_DECODE start) (be32 value) (· = value)
  int : ∀ start value,
    Reads (Libtirpc.reading input) (lib.xdrInt .XDR_DECODE start) (be32 value.toUInt32) (· = value)
  uHyper : ∀ start value,
    Reads (Libtirpc.reading input) (lib.xdrUHyper .XDR_DECODE start) (be64 value) (· = value)
  array : ∀ {size : Nat} (start data : CharArray size),
    Reads (Libtirpc.reading input) (lib.xdrOpaque .XDR_DECODE start) (padded data.val) (· = data)
  bytes : ∀ (data : Bytes) len maxsize, data.length ≤ maxsize.toNat →
    Reads (Libtirpc.reading input) (lib.xdrBytes .XDR_DECODE .null len maxsize) (opaqueBytes data)
      (· = (if data = [] then .null else .heap data, UInt32.ofNat data.length))
  string : ∀ (s : Bytes) maxsize, s.length ≤ maxsize.toNat →
    Reads (Libtirpc.reading input) (lib.xdrString .XDR_DECODE .null maxsize) (opaqueBytes s)
      (· = .heap (s ++ [0]))

/-- A pointer that is not null gets the bytes in the memory that it points to, and more bytes than that memory has
are written outside of it. -/
structure Rfc4506Filler (lib : Libtirpc σ) (input : σ → Bytes) : Prop where
  fills : ∀ (data block : Bytes) len maxsize, data.length ≤ maxsize.toNat → data.length ≤ block.length →
    Reads (Libtirpc.reading input) (lib.xdrBytes .XDR_DECODE (.inner block) len maxsize) (opaqueBytes data)
      (· = (.inner (data ++ block.drop data.length), UInt32.ofNat data.length))
  overflows : ∀ (data block : Bytes) len maxsize, data.length ≤ maxsize.toNat → block.length < data.length →
    Faults (Libtirpc.reading input) (lib.xdrBytes .XDR_DECODE (.inner block) len maxsize) (opaqueBytes data)

/-- From these states both builds append the same bytes. -/
def SameOutput {α : Type} (lib : Libtirpc σ) (filter : Filter σ α) (serialize : Xdr Unit) (stream : σ)
    (buf : XdrBuffer) : Prop :=
  ∃ bytes obj last, filter stream = .ok obj last ∧ lib.written last = lib.written stream ++ bytes ∧
    serialize buf = .ok () { buf with buffer := buf.buffer ++ bytes }

/-- The libtirpc build sends a presence word before each settable attribute. -/
def sattr3Wire (attr : Sattr3) : Bytes :=
  [optionalWire be32 attr.mode, optionalWire be32 attr.uid, optionalWire be32 attr.gid,
    optionalWire be64 attr.size, optionalWire Nfstime3.wire attr.atime,
    optionalWire Nfstime3.wire attr.mtime].flatten

/-- A filter takes such a handle. -/
def HandleBounded (fh : NfsFh3) : Prop := fh.data.length ≤ 64

/-- A filter takes such a string whole. -/
def StringBounded (maxsize : Nat) (s : Bytes) : Prop := s.length ≤ maxsize ∧ 0 ∉ s

def DataBounded (data : Bytes) : Prop := data.length ≤ 65536

/-- An entry travels with its name up to the first zero byte. -/
def entry3Wire (entry : Entry3) : Bytes :=
  [be64 entry.fileid, opaqueBytes (cStr entry.name).cstring, be64 entry.cookie].flatten

def entryplus3Wire (entry : Entryplus3) : Bytes :=
  [be64 entry.fileid, opaqueBytes (cStr entry.name).cstring, be64 entry.cookie, entry.nameHandle.wire,
    entry.nameAttributes.wire].flatten

/-- The filter takes the name of such an entry. -/
def NameTaken (name : Bytes) : Prop := (cStr name).cstring.length ≤ 255

def EntryTaken (entry : Entryplus3) : Prop := NameTaken entry.name ∧ HandleBounded entry.nameHandle

/-- The memory of a cookie verifier on the host has the bytes of its big-endian number. -/
def SameCookieverf (host : ByteOrder) (verf : UInt64) : Prop :=
  host = .bigEndian ∨ (be64 verf).reverse = be64 verf

end Nfs3Rpc.Tirpc

namespace Nfs3Rpc
open Encoding Tirpc

/-- The receiver has the entries of the sender in their order, its end flag, and its verifier. -/
def READDIR3resok.SameListing (got sent : READDIR3resok) : Prop :=
  got.reply.entries = sent.reply.entries ∧ got.reply.eof = sent.reply.eof ∧ got.cookieverf = sent.cookieverf

def READDIRPLUS3resok.SameListing (got sent : READDIRPLUS3resok) : Prop :=
  got.reply.entries = sent.reply.entries ∧ got.reply.eof = sent.reply.eof ∧ got.cookieverf = sent.cookieverf

def ProcNum.ArgsBounded : (proc : ProcNum) → proc.Args → Prop
  | .GETATTR => fun args : GETATTR3args => HandleBounded args.object
  | .SETATTR => fun args : SETATTR3args => HandleBounded args.object ∧ ∀ guard ∈ args.guard, HandleBounded guard
  | .LOOKUP => fun args : LOOKUP3args => HandleBounded args.whatDir ∧ StringBounded 255 args.whatName
  | .ACCESS => fun args : ACCESS3args => HandleBounded args.object
  | .READLINK => fun args : READLINK3args => HandleBounded args.symlink
  | .READ => fun args : READ3args => HandleBounded args.file
  | .WRITE => fun args : WRITE3args => HandleBounded args.file ∧ DataBounded args.data
  | .CREATE => fun args : CREATE3args => HandleBounded args.whereDir ∧ StringBounded 255 args.whereName
  | .MKDIR => fun args : MKDIR3args => HandleBounded args.whereDir ∧ StringBounded 255 args.whereName
  | .SYMLINK => fun args : SYMLINK3args => HandleBounded args.whereDir ∧ StringBounded 255 args.whereName ∧
      StringBounded 4096 args.symlinkData
  | .MKNOD => fun args : MKNOD3args => HandleBounded args.whereDir ∧ StringBounded 255 args.whereName
  | .REMOVE => fun args : REMOVE3args => HandleBounded args.objectDir ∧ StringBounded 255 args.objectName
  | .RMDIR => fun args : RMDIR3args => HandleBounded args.objectDir ∧ StringBounded 255 args.objectName
  | .RENAME => fun args : RENAME3args => HandleBounded args.fromDir ∧ StringBounded 255 args.fromName ∧
      HandleBounded args.toDir ∧ StringBounded 255 args.toName
  | .LINK => fun args : LINK3args => HandleBounded args.file ∧ HandleBounded args.linkDir ∧
      StringBounded 255 args.linkName
  | .READDIR => fun args : READDIR3args => HandleBounded args.dir
  | .READDIRPLUS => fun args : READDIRPLUS3args => HandleBounded args.dir
  | .FSSTAT => fun args : FSSTAT3args => HandleBounded args.fsroot
  | .FSINFO => fun args : FSINFO3args => HandleBounded args.fsroot
  | .PATHCONF => fun args : PATHCONF3args => HandleBounded args.object
  | .COMMIT => fun args : COMMIT3args => HandleBounded args.file

def ProcNum.ResokBounded : (proc : ProcNum) → proc.Resok → Prop
  | .LOOKUP => fun res : LOOKUP3resok => HandleBounded res.object
  | .READLINK => fun res : READLINK3resok => StringBounded 4096 res.data
  | .READ => fun res : READ3resok => DataBounded res.data
  | .CREATE | .MKDIR | .SYMLINK | .MKNOD => fun res : NewObject => HandleBounded res.object
  | .READDIR => fun res : READDIR3resok => ∀ entry ∈ res.reply.entries, StringBounded 255 entry.name
  | .READDIRPLUS => fun res : READDIRPLUS3resok => ∀ entry ∈ res.reply.entries,
      StringBounded 255 entry.name ∧ HandleBounded entry.nameHandle
  | _ => fun _ => True

/-- The libtirpc build sends a verifier as a fixed array. -/
def ProcNum.filterWire : (proc : ProcNum) → proc.Resok → Bytes
  | .WRITE => fun res : WRITE3resok =>
      [res.fileAttributes.wire, be32 res.count, be32 res.committed.code, res.verf.data].flatten
  | .COMMIT => fun res : COMMIT3resok => [res.fileWcc.wire, res.verf.data].flatten
  | proc => proc.resokWire

/-- A result holds its `resok` exactly when its status is NFS3_OK. -/
def ProcNum.ResBounded (proc : ProcNum) (res : Res proc.Resok) : Prop :=
  (res.status = .NFS3_OK ↔ res.resok.isSome = true) ∧ ∀ resok ∈ res.resok, proc.ResokBounded resok

/-- These arguments hold neither settable attributes nor a verifier. -/
def ProcNum.plainArgs : ProcNum → Bool
  | .SETATTR | .CREATE | .MKDIR | .SYMLINK | .MKNOD | .READDIR | .READDIRPLUS => false
  | _ => true

/-- These results hold no verifier. -/
def ProcNum.plainRes : ProcNum → Bool
  | .WRITE | .READDIR | .READDIRPLUS | .COMMIT => false
  | _ => true

end Nfs3Rpc
