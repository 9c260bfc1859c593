import ClassLoom.Config.Value
import ClassLoom.Text.LetterCase
import ClassLoom.Yaml.Node

namespace ClassLoom
namespace Yaml

/-!
# Values of nodes

A node is read as its tag says.  Tags that ask for anything but plain data are refused.

A document is read level by level: what stands in a collection is looked at before what stands in
the collections inside it.  So of several things that are wrong the outermost is told, and of those
the first.
-/

open Config (Value Mapping DateTime)
open Decimal (Double)

/-- A refusal with the level at which it is met. -/
abbrev Found := Nat × Refusal

/-- The refusal that is met first. -/
def earlier (first second : Found) : Found := if second.1 < first.1 then second else first

/-- Both of two answers, or the refusal that is met first. -/
def both {α β : Type} : Except Found α → Except Found β → Except Found (α × β)
  | .ok first, .ok second => .ok (first, second)
  | .error first, .error second => .error (earlier first second)
  | .error first, .ok _ => .error first
  | .ok _, .error second => .error second

/-- A complaint about a node. -/
def complain {α : Type} (complaint : Complaint) : Except Refusal α :=
  .error (.malformed none complaint)

/-! ## Scalars -/

/-- The complaint about a text that is no number. -/
def notANumber {α : Type} (kind text : String) : Except Refusal α :=
  .error (.fault (.wrongValue ("invalid literal for " ++ kind ++ ": " ++ Text.quoted text)))

/-- A whole number in a base. -/
def wholeIn (base : Nat) (text : List Char) : Except Refusal Int :=
  match Decimal.whole? base text with
  | some number => .ok number
  | none =>
    notANumber ("int() with base " ++ toString base) (String.ofList text)

/-- The first character of a number, which must not be empty. -/
def firstOf : List Char → Except Refusal Char
  | [] => .error (.fault .noIndex)
  | c :: _ => .ok c

/-- A text that starts with a given character and a letter, without both. -/
def afterMark (mark : Char) : List Char → Option (List Char)
  | '0' :: c :: rest => if c == mark then some rest else none
  | _ => none

/-- The number that places of sixty stand for, highest first. -/
def ofSixtieths (places : List Int) : Int :=
  places.foldl (fun number place => number * 60 + place) 0

/-- Read a whole number: with a mark of its base, an octal one after a zero, or in places of
sixty. -/
def readWhole (text : String) : Except Refusal Value := do
  let body := text.toList.filter (· != '_')
  let sign : Int := if (← firstOf body) == '-' then -1 else 1
  let body := if body.head? == some '-' || body.head? == some '+' then body.drop 1 else body
  if body == ['0'] then return .integer 0
  match afterMark 'b' body, afterMark 'x' body with
  | some digits, _ => return .integer (sign * (← wholeIn 2 digits))
  | none, some digits => return .integer (sign * (← wholeIn 16 digits))
  | none, none =>
    if (← firstOf body) == '0' then return .integer (sign * (← wholeIn 8 body))
    if body.contains ':' then
      let places ← (colonParts body).mapM (wholeIn 10)
      return .integer (sign * ofSixtieths places)
    return .integer (sign * (← wholeIn 10 body))

/-- A floating-point number. -/
def realOf (text : List Char) : Except Refusal Double :=
  match Decimal.real? text with
  | some number => .ok number
  | none =>
    .error (.fault (.wrongValue
      ("could not convert string to float: " ++ Text.quoted (String.ofList text))))

/-- The sum of places of sixty, lowest first, each rounded. -/
def sumOfPlaces : Float → Float → List Double → Float
  | _, sum, [] => sum
  | weight, sum, place :: places =>
    sumOfPlaces (weight * 60) (sum + Float.ofBits place.bits * weight) places

/-- A number with the sign turned around. -/
def negated (x : Double) : Double := ⟨x.bits ^^^ (Nat.pow 2 63).toUInt64⟩

/-- Read a floating-point number: one by name, in places of sixty, or with decimal digits. -/
def readReal (text : String) : Except Refusal Value := do
  let body := (Text.lower (String.ofList (text.toList.filter (· != '_')))).toList
  let negative := (← firstOf body) == '-'
  let body := if negative || body.head? == some '+' then body.drop 1 else body
  let signed := fun (x : Double) => if negative then negated x else x
  if body == ".inf".toList then return .real (.infinity negative)
  if body == ".nan".toList then return .real .nan
  if body.contains ':' then
    let places ← (colonParts body).mapM realOf
    return .real (signed ⟨(sumOfPlaces 1 0 places.reverse).toBits⟩)
  return .real (signed (← realOf body))

/-- Read a truth value. -/
def readTruth (text : String) : Except Refusal Value :=
  let word := Text.lower text
  match truthWords.lookup word with
  | some truth => .ok (.boolean truth)
  | none => .error (.fault (.missingKey word))

/-- The number that decimal digits stand for. -/
def number (digits : List Char) : Nat :=
  digits.foldl (fun n c => n * 10 + (c.toNat - 48)) 0

/-- The number of days in a month. -/
def daysIn (year month : Nat) : Nat :=
  if month = 2 then
    (if year % 4 = 0 && (year % 100 ≠ 0 || year % 400 = 0) then 29 else 28)
  else if month = 4 || month = 6 || month = 9 || month = 11 then 30 else 31

/-- The complaint about a moment that is not on the calendar or the clock. -/
def outOfRange {α : Type} (what : String) : Except Refusal α :=
  .error (.fault (.wrongValue what))

/-- A day that is on the calendar. -/
def checkDay (year month day : Nat) : Except Refusal Unit :=
  if year = 0 then outOfRange "year 0 is out of range"
  else if month = 0 || 12 < month then outOfRange "month must be in 1..12"
  else if day = 0 || daysIn year month < day then outOfRange "day is out of range for month"
  else .ok ()

/-- The offset of a zone in minutes. -/
def offset? : Option (Option (Char × List Char × List Char)) → Except Refusal (Option Int)
  | none => .ok none
  | some none => .ok (some 0)
  | some (some (sign, hour, minute)) =>
    let size := Int.ofNat (number hour * 60 + number minute)
    if 1440 ≤ size then outOfRange "offset must be less than a day"
    else .ok (some (if sign == '-' then -size else size))

/-- Read a moment. -/
def readMoment (text : String) : Except Refusal Value := do
  let written := text.toList
  let written := if written.getLast? == some '\n' then written.dropLast else written
  match WrittenMoment.ofText? written with
  | none =>
    .error (.fault (.noAttribute
      (Text.quoted "NoneType" ++ " object has no attribute " ++ Text.quoted "groupdict")))
  | some moment =>
    let year := number moment.year
    let month := number moment.month
    let day := number moment.day
    match moment.time with
    | none =>
      checkDay year month day
      return .date year month day
    | some (hour, minute, second) =>
      let offset ← offset? moment.zone
      checkDay year month day
      let hour := number hour
      let minute := number minute
      let second := number second
      if 23 < hour then outOfRange "hour must be in 0..23"
      if 59 < minute then outOfRange "minute must be in 0..59"
      if 59 < second then outOfRange "second must be in 0..59"
      let fraction := moment.fraction.take 6
      let microsecond := number (fraction ++ List.replicate (6 - fraction.length) '0')
      return .dateTime ⟨year, month, day, hour, minute, second, microsecond, offset⟩

/-- The value of a character of the alphabet of sixty-four. -/
def sextet? (c : Char) : Option Nat :=
  if 'A' ≤ c && c ≤ 'Z' then some (c.toNat - 65)
  else if 'a' ≤ c && c ≤ 'z' then some (c.toNat - 71)
  else if c.isDigit then some (c.toNat + 4)
  else if c == '+' then some 62
  else if c == '/' then some 63
  else none

/-- Decode octets from groups of four characters.  Other characters are skipped; padding that
completes a group ends the text.  The state is the position in the group, the bits that are left
from the character before, and the number of padding characters. -/
def sextets : Nat → Nat → Nat → List Char → Option Bytes
  | position, _, _, [] => if position = 0 then some [] else none
  | position, left, padding, c :: rest =>
    if c == '=' then
      if 2 ≤ position then
        (if 4 ≤ position + padding + 1 then some [] else sextets position left (padding + 1) rest)
      else sextets position left padding rest
    else match sextet? c with
      | none => sextets position left padding rest
      | some value =>
        match position with
        | 0 => sextets 1 value 0 rest
        | 1 => (sextets 2 (value % 16) 0 rest).map ((left * 4 + value / 16).toUInt8 :: ·)
        | 2 => (sextets 3 (value % 4) 0 rest).map ((left * 16 + value / 4).toUInt8 :: ·)
        | _ => (sextets 0 0 0 rest).map ((left * 64 + value).toUInt8 :: ·)

/-- Read octets. -/
def readOctets (text : String) : Except Refusal Value :=
  if text.toList.any fun c => 128 ≤ c.toNat then complain .notAscii
  else match sextets 0 0 0 text.toList with
    | some octets => .ok (.octets octets)
    | none => complain .badPadding

/-- How the text of a scalar is read, by the last part of its tag. -/
def scalarReaders : List (String × (String → Except Refusal Value)) :=
  [("null", fun _ => .ok .null), ("bool", readTruth), ("int", readWhole), ("float", readReal),
   ("binary", readOctets), ("timestamp", readMoment), ("str", fun text => .ok (.text text))]

/-! ## Collections -/

/-- The tag of a node. -/
def Node.tag : Node → String
  | .scalar tag _ => tag
  | .list tag _ => tag
  | .table tag _ => tag
  | .circular _ => ""

/-- The entries of tables that are merged into a table. -/
abbrev Entries := List (Node × Node)

/-- The text of a node that must be a scalar; a table may hold one under the mark of a default. -/
def scalarText : Nat → Node → Except Refusal String
  | _, .scalar _ text => .ok text
  | 0, _ => complain (.wrongNode "a scalar node")
  | fuel + 1, .table _ entries =>
    match entries.find? fun e => e.1.tag == standardTag "value" with
    | some (_, value) => scalarText fuel value
    | none => complain (.wrongNode "a scalar node")
  | _, _ => complain (.wrongNode "a scalar node")

mutual

/-- The depth of a node. -/
def Node.depth : Node → Nat
  | .scalar _ _ => 0
  | .circular _ => 0
  | .list _ items => Node.depths items + 1
  | .table _ entries => Node.entryDepths entries + 1

/-- The depth of the deepest of some nodes. -/
def Node.depths : List Node → Nat
  | [] => 0
  | node :: rest => max node.depth (Node.depths rest)

/-- The depth of the deepest node in some entries. -/
def Node.entryDepths : List (Node × Node) → Nat
  | [] => 0
  | (key, value) :: rest => max (max key.depth value.depth) (Node.entryDepths rest)

end

mutual

/-- The entries of a table with those of the tables that it merges before them; the key that marks a
default is a text. -/
def flattened : Nat → Entries → Except Refusal Entries
  | 0, entries => .ok entries
  | fuel + 1, entries => do
    let (merged, own) ← splitMerges fuel entries
    return merged ++ own

/-- The merged entries and the table's own. -/
def splitMerges : Nat → Entries → Except Refusal (Entries × Entries)
  | _, [] => .ok ([], [])
  | fuel, (key, value) :: rest => do
    if key.tag == standardTag "merge" then
      let here ← mergedFrom fuel value
      let (merged, own) ← splitMerges fuel rest
      return (here ++ merged, own)
    let key := match key with
      | .scalar tag text =>
        if tag == standardTag "value" then .scalar (standardTag "str") text else key
      | key => key
    let (merged, own) ← splitMerges fuel rest
    return (merged, (key, value) :: own)

/-- The entries that a value under the mark of a merge brings in; of several tables the first
wins. -/
def mergedFrom : Nat → Node → Except Refusal Entries
  | fuel, .table _ entries => flattened fuel entries
  | fuel, .list _ items => do
    let tables ← mergedItems fuel items
    return tables.reverse.flatten
  | _, _ => complain (.wrongNode "a mapping or list of mappings for merging")

/-- The entries of each of some tables. -/
def mergedItems : Nat → List Node → Except Refusal (List Entries)
  | _, [] => .ok []
  | fuel, .table _ entries :: rest => do
    let here ← flattened fuel entries
    return here :: (← mergedItems fuel rest)
  | _, _ :: _ => complain (.wrongNode "a mapping for merging")

end

/-- Whether a node becomes a value that can be a key. -/
def isComparable : Value → Bool
  | .list _ => false
  | .mapping _ => false
  | .set _ => false
  | _ => true

/-- The single entry of a table in an ordered list of pairs. -/
def singleEntry : Node → Except Refusal (Node × Node)
  | .table _ [entry] => .ok entry
  | .table _ _ => complain (.wrongNode "a single mapping item")
  | _ => complain (.wrongNode "a mapping of length 1")

/-- The members of a mapping that is read as a set. -/
def members (entries : Mapping) : List Value := entries.map (·.1)

mutual

/-- Read a node at a level.  The fuel bounds the depth. -/
def readNode : Nat → Nat → Node → Except Found Value
  | _, level, .circular anchor => .error (level, .malformed none (.circular anchor))
  | 0, level, node => .error (level, .malformed none (.unknownTag node.tag))
  | fuel + 1, level, node =>
    let kind := (["seq", "map", "omap", "pairs", "set"].find? fun name =>
      node.tag == standardTag name).getD ""
    let reader := scalarReaders.find? fun e => node.tag == standardTag e.1
    let inside := level + 1
    match reader, kind, node with
    | some (_, read), _, node =>
      ((scalarText node.depth node).bind read).mapError (level, ·)
    | none, "seq", .list _ items => (readItems fuel inside items).map .list
    | none, "map", .table _ entries => (readTable fuel inside entries).map .mapping
    | none, "set", .table _ entries => do
      let entries ← readTable fuel inside entries
      return .set (members entries)
    | none, "omap", .list _ items => (readPairs fuel inside items).map .list
    | none, "pairs", .list _ items => (readPairs fuel inside items).map .list
    | none, "seq", _ => .error (inside, .malformed none (.wrongNode "a sequence node"))
    | none, "map", _ => .error (inside, .malformed none (.wrongNode "a mapping node"))
    | none, "set", _ => .error (inside, .malformed none (.wrongNode "a mapping node"))
    | none, "omap", _ => .error (inside, .malformed none (.wrongNode "a sequence"))
    | none, "pairs", _ => .error (inside, .malformed none (.wrongNode "a sequence"))
    | none, _, node => .error (level, .malformed none (.unknownTag node.tag))

/-- Read the items of a list. -/
def readItems : Nat → Nat → List Node → Except Found (List Value)
  | _, _, [] => .ok []
  | fuel, level, node :: rest => do
    let (item, items) ← both (readNode fuel level node) (readItems fuel level rest)
    return item :: items

/-- Read the entries of a table. -/
def readTable : Nat → Nat → Entries → Except Found Mapping
  | fuel, level, entries => do
    let entries ← (flattened fuel entries).mapError (level, ·)
    let pairs ← readEntries fuel level entries
    return pairs.foldl (fun mapping (key, value) => Value.insert mapping key value) []

/-- Read keys and values. -/
def readEntries : Nat → Nat → Entries → Except Found (List (Value × Value))
  | _, _, [] => .ok []
  | fuel, level, (key, value) :: rest => do
    let key := readNode fuel level key
    let key := match key with
      | .ok key =>
        if isComparable key then .ok key else .error (level, .malformed none .keyNotComparable)
      | .error (depth, refusal) =>
        if level < depth then .error (level, .malformed none .keyNotComparable)
        else .error (depth, refusal)
    let (entry, entries) ←
      both (both key (readNode fuel level value)) (readEntries fuel level rest)
    return entry :: entries

/-- Read the entries of tables with one entry each. -/
def readPairs : Nat → Nat → List Node → Except Found (List Value)
  | _, _, [] => .ok []
  | fuel, level, node :: rest => do
    let (key, value) ← (singleEntry node).mapError (level, ·)
    let pair := both (readNode fuel level key) (readNode fuel level value)
    let ((key, value), pairs) ← both pair (readPairs fuel level rest)
    return .tuple [key, value] :: pairs

end

/-- The value that a node stands for. -/
def Node.value (node : Node) : Except Refusal Value :=
  (readNode (2 * node.depth + 2) 0 node).mapError (·.2)

/-- The value of a text with one document; a text without one is null. -/
def valueOf (text : List Char) : Except Refusal Value := do
  match ← Node.ofText? text with
  | none => return .null
  | some node => node.value

end Yaml
end ClassLoom
