import ClassLoom.Zip.Crc32
import ClassLoom.Zip.Deflate
import ClassLoom.Zip.Timestamp

namespace ClassLoom
namespace Zip

/-!
# Records of an archive file

An archive file is a sequence of entries, each a local header followed by the packed data, then a
directory that repeats every header with the place of its entry, then an end record.  A record is
what the directory says of one entry, together with its packed data.
-/

/-- The file attributes stored for an entry: a Unix mode in the upper half. -/
abbrev Attributes := Nat

/-- The bit that says a name is written in UTF-8. -/
def utf8Flag : Nat := 0x800

/-- Data is stored as it is. -/
def methodStored : Nat := 0
/-- Data is compressed. -/
def methodDeflated : Nat := 8

/-- One entry as it is written to an archive file. -/
structure Record where
  name : Bytes
  localName : Bytes
  flags : Nat
  method : Nat
  stamp : Timestamp
  crc : Nat
  size : Nat
  packed : Bytes
  attributes : Attributes
  extra : Bytes
  comment : Bytes

namespace Record

/-- Fields that the local header and the directory share. -/
def common (record : Record) : Bytes :=
  Bytes.u16 record.flags ++ Bytes.u16 record.method ++ Bytes.u16 record.stamp.time ++
    Bytes.u16 record.stamp.date ++ Bytes.u32 record.crc ++ Bytes.u32 record.packed.length ++
    Bytes.u32 record.size

/-- A local header and its data. -/
def local_ (record : Record) : Bytes :=
  [0x50, 0x4B, 0x03, 0x04] ++ Bytes.u16 20 ++ record.common ++
    Bytes.u16 record.localName.length ++ Bytes.u16 record.extra.length ++
    record.localName ++ record.extra ++ record.packed

/-- The directory's header of an entry at `offset`. -/
def central (record : Record) (offset : Nat) : Bytes :=
  [0x50, 0x4B, 0x01, 0x02] ++ [20, 3] ++ Bytes.u16 20 ++ record.common ++
    Bytes.u16 record.name.length ++ Bytes.u16 record.extra.length ++
    Bytes.u16 record.comment.length ++ Bytes.u16 0 ++ Bytes.u16 0 ++
    Bytes.u32 record.attributes ++ Bytes.u32 offset ++
    record.name ++ record.extra ++ record.comment

/-- The record of an entry with plain content. -/
def ofContent (name : String) (stamp : Timestamp) (method : Nat) (attributes : Attributes)
    (content : Bytes) : Record :=
  let bytes := Bytes.ofText name
  { name := bytes
    localName := bytes
    flags := if name.toList.all (·.toNat < 128) then 0 else utf8Flag
    method
    stamp
    crc := (crc32 content).toNat
    size := content.length
    packed := if method = methodDeflated then deflate content else content
    attributes
    extra := []
    comment := [] }

end Record

/-- Local parts one after the other, and the offset at which each starts. -/
def layOut : Nat → List Record → Bytes × List (Record × Nat)
  | _, [] => ([], [])
  | offset, record :: rest =>
    let here := record.local_
    let (bytes, placed) := layOut (offset + here.length) rest
    (here ++ bytes, (record, offset) :: placed)

/-- The end record. -/
def endRecord (count directorySize directoryOffset : Nat) (comment : Bytes) : Bytes :=
  [0x50, 0x4B, 0x05, 0x06] ++ Bytes.u16 0 ++ Bytes.u16 0 ++ Bytes.u16 count ++ Bytes.u16 count ++
    Bytes.u32 directorySize ++ Bytes.u32 directoryOffset ++ Bytes.u16 comment.length ++ comment

/-- An archive file with the given entries. -/
def encode (records : List Record) (comment : Bytes) : Bytes :=
  let (entries, placed) := layOut 0 records
  let directory := placed.flatMap fun (record, offset) => record.central offset
  entries ++ directory ++ endRecord records.length directory.length entries.length comment

end Zip
end ClassLoom
