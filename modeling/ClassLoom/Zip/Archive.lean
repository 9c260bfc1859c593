import ClassLoom.Text.Utf8
import ClassLoom.Zip.CodePage
import ClassLoom.Zip.Record

namespace ClassLoom
namespace Zip

/-!
# Reading archive files

The end record is looked for at the end of the file, and then, because an archive may carry a
comment or trailing octets, backwards through the last 64 KiB.  The distance between where the
directory should be and where it is shifts all offsets, so that octets before the first entry do no
harm.

Reading an entry checks its local header against the directory, and the check value of its content
at the end.  Each way of failing is a cause of its own; callers decide which of them they report as
a damaged archive.
-/

/-- A way in which an archive file is damaged. -/
inductive Damage where
  | notAnArchive
  | spansDisks
  | directoryOffset
  | truncatedDirectory
  | directorySignature
  | extraField (kind size : Nat)
  | wideField (field : String)
  | truncatedHeader
  | headerSignature
  | nameMismatch (directory : String) (header : Bytes)
  | overlap (name : String)
  | checkValue (name : String)
  deriving Repr, DecidableEq, Inhabited

/-- The wording of a damage. -/
def Damage.message : Damage → String
  | .notAnArchive => "File is not a zip file"
  | .spansDisks => "zipfiles that span multiple disks are not supported"
  | .directoryOffset => "Bad offset for central directory"
  | .truncatedDirectory => "Truncated central directory"
  | .directorySignature => "Bad magic number for central directory"
  | .extraField kind size =>
    "Corrupt extra field " ++ String.ofList (Text.hexadecimal 4 kind) ++ " (size=" ++
      toString size ++ ")"
  | .wideField field => "Corrupt zip64 extra field. " ++ field ++ " not found."
  | .truncatedHeader => "Truncated file header"
  | .headerSignature => "Bad magic number for file header"
  | .nameMismatch directory header =>
    "File name in directory " ++ Text.quoted directory ++ " and header " ++
      Text.quotedBytes header ++ " differ."
  | .overlap name => "Overlapped entries: " ++ Text.quoted name ++ " (possible zip bomb)"
  | .checkValue name => "Bad CRC-32 for file " ++ Text.quoted name

/-- A feature of the format that is not read. -/
inductive Unsupported where
  | version (tenths : Nat)
  | patchedData
  | strongEncryption
  | method
  deriving Repr, DecidableEq, Inhabited

/-- The wording of a missing feature. -/
def Unsupported.message : Unsupported → String
  | .version tenths =>
    "zip file version " ++ toString (tenths / 10) ++ "." ++ toString (tenths % 10)
  | .patchedData => "compressed patched data (flag bit 5)"
  | .strongEncryption => "strong encryption (flag bit 6)"
  | .method => "That compression method is not supported"

/-- Why an archive or an entry cannot be read. -/
inductive ReadError where
  | damaged (damage : Damage)
  | unsupported (feature : Unsupported)
  | encrypted (name : String)
  | corrupt (cause : Corruption)
  | endOfFile
  | undecodable (fault : Text.Utf8Fault)
  | offsetBeforeStart
  deriving Repr, DecidableEq, Inhabited

/-- What the directory says of one entry.  `offset` is the place of the local header in the file,
and `limit` the start of whatever follows the entry. -/
structure Member where
  /-- The name as it is written. -/
  writtenName : String
  flags : Nat
  method : Nat
  stamp : Timestamp
  crc : Nat
  packedSize : Nat
  size : Nat
  attributes : Attributes
  extra : Bytes
  comment : Bytes
  offset : Int
  limit : Int
  deriving Repr, DecidableEq, Inhabited

namespace Member

/-- A name ends before its first NUL. -/
def cutName (name : String) : String :=
  String.ofList (name.toList.takeWhile (·.toNat ≠ 0))

/-- The name of an entry. -/
def name (member : Member) : String := cutName member.writtenName

end Member

/-- A name in the character set that the flags say. -/
def decodeName (flags : Nat) (bytes : Bytes) : Except ReadError String :=
  if flags &&& utf8Flag ≠ 0 then
    match Text.decodeUtf8 bytes with
    | .ok text => .ok (String.ofList text)
    | .error fault => .error (.undecodable fault)
  else .ok (decodeCodePage bytes)

/-- The end record: size and offset of the directory, the comment, the place of the record itself,
and the octets between the directory and the record that belong to neither. -/
structure EndRecord where
  size : Nat
  offset : Nat
  comment : Bytes
  place : Nat
  between : Nat

/-- Replace sizes by those of the wide end record, if there is one before `place`. -/
def EndRecord.widen (bytes : Bytes) (record : EndRecord) : Except ReadError EndRecord :=
  if record.place < 20 then .ok record
  else
    let locator := bytes.slice (record.place - 20) 20
    if locator.length ≠ 20 || locator.take 4 ≠ [0x50, 0x4B, 0x06, 0x07] then .ok record
    else if locator.natAt 4 4 ≠ 0 || 1 < locator.natAt 16 4 then .error (.damaged .spansDisks)
    else if record.place < 76 then .ok record
    else
      let wide := bytes.slice (record.place - 76) 56
      if wide.length ≠ 56 || wide.take 4 ≠ [0x50, 0x4B, 0x06, 0x06] then .ok record
      else .ok { record with size := wide.natAt 40 8, offset := wide.natAt 48 8, between := 76 }

/-- The last place at which `needle` occurs. -/
def lastOccurrence (needle : Bytes) : Nat → Bytes → Option Nat
  | _, [] => none
  | place, b :: rest =>
    (lastOccurrence needle (place + 1) rest).or
      (if needle.isPrefixOf (b :: rest) then some place else none)

/-- Find the end record. -/
def findEnd (bytes : Bytes) : Except ReadError (Option EndRecord) :=
  let size := bytes.length
  if size < 22 then .ok none
  else
    let signature : Bytes := [0x50, 0x4B, 0x05, 0x06]
    let tail : Bytes := bytes.drop (size - 22)
    if tail.take 4 = signature && tail.drop 20 = [0, 0] then
      (EndRecord.widen bytes ⟨tail.natAt 12 4, tail.natAt 16 4, [], size - 22, 0⟩).map some
    else
      let start := size - 65558
      match lastOccurrence signature start (bytes.drop start) with
      | none => .ok none
      | some place =>
        let record := bytes.slice place 22
        if record.length ≠ 22 then .ok none
        else (EndRecord.widen bytes
          ⟨record.natAt 12 4, record.natAt 16 4,
            bytes.slice (place + 22) (record.natAt 20 2), place, 0⟩).map some

/-- Whether octets look like an archive file: an end record can be found. -/
def isArchive (bytes : Bytes) : Except ReadError Bool :=
  (findEnd bytes).map Option.isSome

/-- The next wide number of an extra field, if the short form says that there is one. -/
def wideNumber (field : String) (present : Bool) (value : Nat) (data : Bytes) :
    Except ReadError (Nat × Bytes) :=
  if !present then .ok (value, data)
  else if data.length < 8 then .error (.damaged (.wideField field))
  else .ok (data.natAt 0 8, data.drop 8)

/-- Go through the extra field of an entry; wide sizes and offsets replace the short ones. -/
def readExtra : Nat → Bytes → Member → Except ReadError Member
  | 0, _, member => .ok member
  | fuel + 1, extra, member =>
    if extra.length < 4 then .ok member
    else
      let kind := extra.natAt 0 2
      let size := extra.natAt 2 2
      if extra.length < size + 4 then .error (.damaged (.extraField kind size))
      else do
        let member ←
          if kind ≠ 1 then pure member
          else do
            let data := extra.slice 4 size
            let (length, data) ← wideNumber "File size"
              (member.size == 0xFFFFFFFFFFFFFFFF || member.size == 0xFFFFFFFF) member.size data
            let (packed, data) ← wideNumber "Compress size"
              (member.packedSize == 0xFFFFFFFF) member.packedSize data
            let (offset, _) ← wideNumber "Header offset"
              (member.offset == 0xFFFFFFFF) member.offset.toNat data
            pure { member with size := length, packedSize := packed, offset := Int.ofNat offset }
        readExtra fuel (extra.drop (size + 4)) member

/-- The entries of a directory of `left` octets. -/
def readDirectory (shift : Int) : Nat → Nat → Bytes → Except ReadError (List Member)
  | 0, _, _ => .ok []
  | fuel + 1, left, data =>
    if left = 0 then .ok []
    else
      let header : Bytes := data.take 46
      if header.length ≠ 46 then .error (.damaged .truncatedDirectory)
      else if header.take 4 ≠ [0x50, 0x4B, 0x01, 0x02] then .error (.damaged .directorySignature)
      else do
        let nameLength := header.natAt 28 2
        let extraLength := header.natAt 30 2
        let commentLength := header.natAt 32 2
        let body : Bytes := data.drop 46
        let flags := header.natAt 8 2
        let name ← decodeName flags (body.take nameLength)
        if 63 < header.natAt 6 2 % 256 then
          .error (.unsupported (.version (header.natAt 6 2 % 256)))
        let member : Member := {
          writtenName := name
          flags
          method := header.natAt 10 2
          stamp := ⟨header.natAt 14 2, header.natAt 12 2⟩
          crc := header.natAt 16 4
          packedSize := header.natAt 20 4
          size := header.natAt 24 4
          attributes := header.natAt 38 4
          extra := body.slice nameLength extraLength
          comment := body.slice (nameLength + extraLength) commentLength
          offset := header.natAt 42 4
          limit := 0 }
        let member ← readExtra (member.extra.length + 1) member.extra member
        let member := { member with offset := member.offset + shift }
        let length := 46 + nameLength + extraLength + commentLength
        let rest ← readDirectory shift fuel (left - length)
          (body.drop (nameLength + extraLength + commentLength))
        return member :: rest

/-- The start of whatever follows the entry at `place` of a directory: the nearest later local
header, or the directory.  Of entries that claim one place, each ends where the next in the
directory begins. -/
def limitOf (members : List Member) (directory : Int) (place : Nat) (member : Member) : Int :=
  let later := members.zipIdx.filter fun (other, i) =>
    member.offset < other.offset || (member.offset == other.offset && i < place)
  match later with
  | [] => directory
  | (first, _) :: rest => rest.foldl (fun least (other, _) => min least other.offset) first.offset

/-- An opened archive: its entries in the order of the directory, and its comment. -/
structure Archive where
  members : List Member
  comment : Bytes
  deriving Repr, DecidableEq, Inhabited

namespace Archive

/-- Read the directory of an archive file. -/
def ofBytes (bytes : Bytes) : Except ReadError Archive := do
  match ← findEnd bytes with
  | none => .error (.damaged .notAnArchive)
  | some record =>
    let shift : Int := Int.ofNat record.place - record.size - record.offset - record.between
    let start := Int.ofNat record.offset + shift
    if start < 0 then .error (.damaged .directoryOffset)
    let data := bytes.slice start.toNat record.size
    let members ← readDirectory shift (record.size + 1) record.size data
    let members := members.zipIdx.map fun (member, place) =>
      { member with limit := limitOf members start place member }
    return ⟨members, record.comment⟩

/-- The last entry of a name. -/
def find? (archive : Archive) (name : String) : Option Member :=
  archive.members.reverse.find? (·.name == name)

end Archive

/-- The packed data of an entry, after the checks that opening it makes. -/
def Member.locate (member : Member) (bytes : Bytes) : Except ReadError Bytes := do
  if member.offset < 0 then .error .offsetBeforeStart
  let here : Bytes := bytes.drop member.offset.toNat
  let header : Bytes := here.take 30
  if header.length ≠ 30 then .error (.damaged .truncatedHeader)
  if header.take 4 ≠ [0x50, 0x4B, 0x03, 0x04] then .error (.damaged .headerSignature)
  let nameLength := header.natAt 26 2
  let extraLength := header.natAt 28 2
  let name := here.slice 30 nameLength
  if member.flags &&& 0x20 ≠ 0 then .error (.unsupported .patchedData)
  if member.flags &&& 0x40 ≠ 0 then .error (.unsupported .strongEncryption)
  let localName ← decodeName (header.natAt 6 2) name
  if localName ≠ member.writtenName then
    .error (.damaged (.nameMismatch member.writtenName name))
  let start := 30 + name.length + (here.slice (30 + nameLength) extraLength).length
  if member.limit < member.offset + start + member.packedSize then
    .error (.damaged (.overlap member.writtenName))
  if member.flags &&& 1 ≠ 0 then .error (.encrypted member.name)
  if member.method ≠ methodStored && member.method ≠ methodDeflated then
    .error (.unsupported .method)
  return here.slice start member.packedSize

/-- What an entry's packed data spells before it ends or breaks, and how it ends. -/
def Member.unpack (member : Member) (packed : Bytes) : Bytes × Option ReadError :=
  let (data, stop) : Bytes × Option ReadError :=
    if member.method = methodStored then
      (packed, if packed.length < member.packedSize then some .endOfFile else none)
    else match inflate packed with
      | (data, .error (.corrupt cause)) => (data, some (.corrupt cause))
      | (data, _) => (data, if packed.length < member.packedSize then some .endOfFile else none)
  let complete := member.size ≤ data.length
  let data := data.take member.size
  match stop with
  | some .endOfFile => (data, if complete then check data else some .endOfFile)
  | some error => (data, some error)
  | none => (data, check data)
where
  check (data : Bytes) : Option ReadError :=
    if (crc32 data).toNat = member.crc then none
    else some (.damaged (.checkValue member.name))

/-- The content of an entry. -/
def Member.read (member : Member) (bytes : Bytes) : Except ReadError Bytes := do
  let packed ← member.locate bytes
  match member.unpack packed with
  | (data, none) => return data
  | (_, some error) => .error error

/-- The content of an entry as a reader receives it that asks for `width` octets at a time.  A
failure takes with it the part in which it occurs; the parts before have been delivered. -/
def Member.readParts (member : Member) (width : Nat) (bytes : Bytes) :
    Except ReadError (List Bytes × Option ReadError) := do
  let packed ← member.locate bytes
  match member.unpack packed with
  | (data, none) => return (chunks (data.length + 1) data, none)
  | (data, some error) =>
    return (chunks (data.length + 1) (data.take ((data.length - 1) / width * width)), some error)
where
  chunks : Nat → Bytes → List Bytes
    | 0, _ => []
    | fuel + 1, data =>
      if data.isEmpty then [] else data.take width :: chunks fuel (data.drop width)

end Zip
end ClassLoom
