import TypedJsx.Batch
/-!
Archives: files packed under their names, each name once. How entries are kept while an archive is packed is
the matter of a packer, and the bytes of an archive are those of the ZIP format.
-/
namespace TypedJsx

/-- The entries of an archive, in order. -/
structure Archive where
  entries : List SourceFile
deriving DecidableEq, Repr, Inhabited

/-- The first name that stands in a list for the second time. -/
def firstRepeated? (seen : List String) : List String → Option String
  | [] => none
  | n :: rest => if seen.contains n then some n else firstRepeated? (n :: seen) rest

/-- Packs files; a name that is given twice is the error. -/
def Archive.ofFiles (files : List SourceFile) : Except String Archive :=
  match firstRepeated? [] (files.map SourceFile.name) with
  | some name => .error name
  | none => .ok ⟨files⟩

/-- What is said about a name that is given twice. -/
def Archive.duplicateMessage (name : String) : String :=
  "invalid Zip archive: Duplicate filename: " ++ name

/-! ## Packing

A packer opens an entry under a name, puts content into the entry that is open, and hands over the archive
in the end. Each step may fail. -/

/-- Why files could not be packed: the archive was refused, or something could not be written. -/
inductive ArchiveError where
  | refused (cause : String)
  | unwritten (cause : String)
deriving DecidableEq, Repr, Inhabited

namespace ArchiveError

def cause : ArchiveError → String
  | refused cause => cause
  | unwritten cause => cause

def message : ArchiveError → String
  | refused cause => "archive write failed: " ++ cause
  | unwritten cause => "archive i/o failed: " ++ cause

end ArchiveError

/-- What archives are packed with. A step that fails says why. -/
structure Packer where
  State : Type
  start : State
  openEntry : State → String → Except String State
  write : State → String → Except String State
  finish : State → Except String Archive

namespace Packer

/-- One more file: an entry is opened under its name and gets its content. -/
def add (p : Packer) (s : p.State) (f : SourceFile) : Except ArchiveError p.State := do
  let opened ← (p.openEntry s f.name).mapError .refused
  (p.write opened f.content).mapError .unwritten

/-- Packs every file, one entry per file. -/
def pack (p : Packer) (files : List SourceFile) : Except ArchiveError Archive := do
  let packed ← files.foldlM p.add p.start
  (p.finish packed).mapError .refused

/-- A new entry behind the others. A name can be opened once. -/
def openNew (entries : List SourceFile) (name : String) : Except String (List SourceFile) :=
  if entries.any (·.name == name) then .error (Archive.duplicateMessage name)
  else .ok (entries ++ [⟨name, ""⟩])

/-- The last entry with more content. -/
def writeLast (entries : List SourceFile) (content : String) : Except String (List SourceFile) :=
  match entries.getLast? with
  | none => .error "No file has been started"
  | some last => .ok (entries.dropLast ++ [⟨last.name, last.content ++ content⟩])

/-- Keeps the entries in a list, of which the last is open. -/
def standard : Packer where
  State := List SourceFile
  start := []
  openEntry := openNew
  write := writeLast
  finish entries := .ok ⟨entries⟩

end Packer

/-! ## Bytes

Contents are kept in deflate streams of blocks that are stored as they are, and every entry has the earliest
date that the format knows. -/

namespace Zip

/-- The bytes of a number, the least significant first. -/
def littleEndian : Nat → Nat → List UInt8
  | 0, _ => []
  | width + 1, n => n.toUInt8 :: littleEndian width (n / 256)

/-- One bit of the checksum's division. -/
def checksumBit (c : UInt32) : UInt32 :=
  if c &&& 1 = 1 then (c >>> 1) ^^^ 0xedb88320 else c >>> 1

/-- The checksum after one more byte. -/
def checksumByte (c : UInt32) (b : UInt8) : UInt32 :=
  (List.range 8).foldl (fun c _ => checksumBit c) (c ^^^ b.toUInt32)

/-- The cyclic redundancy check of 32 bits. -/
def checksum (bytes : List UInt8) : UInt32 := bytes.foldl checksumByte 0xffffffff ^^^ 0xffffffff

/-- A deflate stream of stored blocks; `fuel` bounds their number. -/
def stored : Nat → List UInt8 → List UInt8
  | 0, _ => []
  | fuel + 1, bytes =>
    let block := bytes.take 65535
    let rest := bytes.drop 65535
    let last : UInt8 := if rest.isEmpty then 1 else 0
    last :: (littleEndian 2 block.length ++ littleEndian 2 (65535 - block.length) ++ block
      ++ if rest.isEmpty then [] else stored fuel rest)

/-- An entry with the bytes that stand for it. -/
structure Entry where
  name : List UInt8
  data : List UInt8
  size : Nat
  checksum : UInt32

def Entry.ofFile (f : SourceFile) : Entry :=
  let content := f.content.toUTF8.toList
  { name := f.name.toUTF8.toList, data := stored (content.length + 1) content, size := content.length,
    checksum := Zip.checksum content }

/-- What the header of an entry and its record in the directory have in common: version, flags, method,
time, date, checksum, sizes, lengths of the name and of what is added to it. -/
def Entry.fields (e : Entry) : List UInt8 :=
  littleEndian 2 20 ++ littleEndian 2 0x800 ++ littleEndian 2 8 ++ littleEndian 2 0 ++ littleEndian 2 33
    ++ littleEndian 4 e.checksum.toNat ++ littleEndian 4 e.data.length ++ littleEndian 4 e.size
    ++ littleEndian 2 e.name.length ++ littleEndian 2 0

def Entry.bytes (e : Entry) : List UInt8 :=
  littleEndian 4 0x04034b50 ++ e.fields ++ e.name ++ e.data

/-- The record of an entry that begins at an offset. -/
def Entry.record (e : Entry) (offset : Nat) : List UInt8 :=
  littleEndian 4 0x02014b50 ++ littleEndian 2 0x314 ++ e.fields ++ littleEndian 2 0 ++ littleEndian 2 0
    ++ littleEndian 2 0 ++ littleEndian 4 (0o100644 * 65536) ++ littleEndian 4 offset ++ e.name

/-- The records of entries, the first of which begins at an offset. -/
def records : Nat → List Entry → List UInt8
  | _, [] => []
  | offset, e :: rest => e.record offset ++ records (offset + e.bytes.length) rest

end Zip

/-- The bytes of an archive: its entries, then the directory, then where that stands. -/
def Archive.bytes (a : Archive) : List UInt8 :=
  let entries := a.entries.map Zip.Entry.ofFile
  let body := entries.flatMap Zip.Entry.bytes
  let directory := Zip.records 0 entries
  let count := Zip.littleEndian 2 entries.length
  body ++ directory ++ Zip.littleEndian 4 0x06054b50 ++ Zip.littleEndian 4 0 ++ count ++ count
    ++ Zip.littleEndian 4 directory.length ++ Zip.littleEndian 4 body.length ++ Zip.littleEndian 2 0

end TypedJsx
