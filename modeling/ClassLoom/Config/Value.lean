import ClassLoom.Bytes
import ClassLoom.Decimal.Double
import ClassLoom.Text.Quoted

namespace ClassLoom
namespace Config

/-!
# Configuration values

A configuration is a tree of mappings, lists and scalars.  Mappings keep their entries in the order
in which the keys were first written.  Keys are compared as values: a truth value counts as the
whole number zero or one, and a whole number equals the floating-point number of the same size.

Two texts belong to a value.  Its quoted text shows what kind of value it is; its plain text is the
same, except that a text stands for itself.
-/

open Decimal (Double)

/-- A day with a time of day; the offset from universal time, if known, is in minutes. -/
structure DateTime where
  year : Nat
  month : Nat
  day : Nat
  hour : Nat
  minute : Nat
  second : Nat
  microsecond : Nat
  offset : Option Int
  deriving Repr, DecidableEq, Inhabited

/-- A configuration value. -/
inductive Value where
  | null
  | boolean (b : Bool)
  | integer (n : Int)
  | real (x : Double)
  | text (s : String)
  | list (items : List Value)
  | tuple (items : List Value)
  | mapping (entries : List (Value × Value))
  | set (items : List Value)
  | octets (bytes : Bytes)
  | date (year month day : Nat)
  | dateTime (moment : DateTime)
  deriving Repr, Inhabited

/-- The entries of a mapping. -/
abbrev Mapping := List (Value × Value)

namespace Value

/-- The name of a value's kind. -/
def kind : Value → String
  | .null => "NoneType"
  | .boolean _ => "bool"
  | .integer _ => "int"
  | .real _ => "float"
  | .text _ => "str"
  | .list _ => "list"
  | .tuple _ => "tuple"
  | .mapping _ => "dict"
  | .set _ => "set"
  | .octets _ => "bytes"
  | .date _ _ _ => "date"
  | .dateTime _ => "datetime"

/-- The name of a value's kind as a class. -/
def kindClass (value : Value) : String :=
  let module := match value with
    | .date _ _ _ => "datetime."
    | .dateTime _ => "datetime."
    | _ => ""
  "<class '" ++ module ++ value.kind ++ "'>"

/-- Whether a value counts as given: not null, zero or empty. -/
def isTruthy : Value → Bool
  | .null => false
  | .boolean b => b
  | .integer n => n != 0
  | .real x => !x.isZero
  | .text s => s != ""
  | .list items => !items.isEmpty
  | .tuple items => !items.isEmpty
  | .mapping entries => !entries.isEmpty
  | .set items => !items.isEmpty
  | .octets bytes => !bytes.isEmpty
  | .date _ _ _ => true
  | .dateTime _ => true

def isNull : Value → Bool
  | .null => true
  | _ => false

/-- The number that a value counts as when it is compared. -/
def wholeNumber? : Value → Option Int
  | .boolean b => some (if b then 1 else 0)
  | .integer n => some n
  | _ => none

/-- Whether a floating-point number is a whole number of a given size. -/
def realEqualsWhole (x : Double) (n : Int) : Bool :=
  if x.isNaN || x.isInfinite then false
  else
    let (numerator, denominator) := x.fraction
    let size := n.natAbs * denominator == numerator
    size && (n == 0 || (x.isNegative == decide (n < 0)))

/-- Equality of keys. -/
def sameKey (a b : Value) : Bool :=
  match a, b with
  | .null, .null => true
  | .text s, .text t => s == t
  | .octets s, .octets t => s == t
  | .date y m d, .date y' m' d' => y == y' && m == m' && d == d'
  | .dateTime s, .dateTime t => s == t
  | .real x, .real y => (x.bits == y.bits && !x.isNaN) || (x.isZero && y.isZero)
  | .tuple [], .tuple [] => true
  | a, b =>
    match a.wholeNumber?, b.wholeNumber?, a, b with
    | some n, some m, _, _ => n == m
    | some n, none, _, .real x => realEqualsWhole x n
    | none, some n, .real x, _ => realEqualsWhole x n
    | _, _, _, _ => false

/-- Look up a key. -/
def lookup (entries : Mapping) (key : Value) : Option Value :=
  (entries.find? fun e => sameKey e.1 key).map (·.2)

/-- Look up a text key. -/
def field? (entries : Mapping) (name : String) : Option Value := lookup entries (.text name)

/-- Look up a text key; an absent key is null. -/
def field (entries : Mapping) (name : String) : Value := (field? entries name).getD .null

/-- Bind a key.  A key that is there keeps its place and its first spelling. -/
def insert (entries : Mapping) (key value : Value) : Mapping :=
  if entries.any fun e => sameKey e.1 key then
    entries.map fun e => if sameKey e.1 key then (e.1, value) else e
  else entries ++ [(key, value)]

/-- A calendar day. -/
def dayText (year month day : Nat) : String :=
  Text.padded 4 year ++ "-" ++ Text.padded 2 month ++ "-" ++ Text.padded 2 day

/-- An offset from universal time. -/
def offsetText (minutes : Int) : String :=
  (if minutes < 0 then "-" else "+") ++ Text.padded 2 (minutes.natAbs / 60) ++ ":" ++
    Text.padded 2 (minutes.natAbs % 60)

/-- A day and time of day, in the order of their size. -/
def momentText (t : DateTime) : String :=
  dayText t.year t.month t.day ++ " " ++ Text.padded 2 t.hour ++ ":" ++ Text.padded 2 t.minute ++
    ":" ++ Text.padded 2 t.second ++
    (if t.microsecond = 0 then "" else "." ++ Text.padded 6 t.microsecond) ++
    (t.offset.map offsetText).getD ""

/-- A duration of whole minutes as days and seconds, the seconds not negative. -/
def durationText (minutes : Int) : String :=
  let days := minutes.fdiv 1440
  let seconds := minutes.fmod 1440 * 60
  let parts := (if days = 0 then [] else ["days=" ++ toString days]) ++
    (if seconds = 0 then [] else ["seconds=" ++ toString seconds])
  "datetime.timedelta(" ++ (if parts.isEmpty then "0" else Text.joined ", " parts) ++ ")"

/-- The constructor call of a day and time of day; seconds and below are left out if zero. -/
def momentQuoted (t : DateTime) : String :=
  let fields := [t.year, t.month, t.day, t.hour, t.minute] ++
    (if t.microsecond = 0 then (if t.second = 0 then [] else [t.second])
      else [t.second, t.microsecond])
  let zone := match t.offset with
    | none => ""
    | some 0 => ", tzinfo=datetime.timezone.utc"
    | some minutes => ", tzinfo=datetime.timezone(" ++ durationText minutes ++ ")"
  "datetime.datetime(" ++ Text.joined ", " (fields.map toString) ++ zone ++ ")"

mutual

/-- The text that shows what kind of value it is. -/
def quoted : Value → String
  | .null => "None"
  | .boolean b => if b then "True" else "False"
  | .integer n => toString n
  | .real x => x.text
  | .text s => Text.quoted s
  | .list items => "[" ++ Text.joined ", " (quotedItems items) ++ "]"
  | .tuple items =>
    "(" ++ Text.joined ", " (quotedItems items) ++ (if items.length == 1 then ",)" else ")")
  | .mapping entries => "\x7b" ++ Text.joined ", " (quotedEntries entries) ++ "\x7d"
  | .set items =>
    if items.isEmpty then "set()" else "\x7b" ++ Text.joined ", " (quotedItems items) ++ "\x7d"
  | .octets bytes => Text.quotedBytes bytes
  | .date year month day =>
    "datetime.date(" ++ Text.joined ", " ([year, month, day].map toString) ++ ")"
  | .dateTime moment => momentQuoted moment

/-- The quoted texts of items. -/
def quotedItems : List Value → List String
  | [] => []
  | item :: rest => quoted item :: quotedItems rest

/-- The quoted texts of entries. -/
def quotedEntries : List (Value × Value) → List String
  | [] => []
  | (key, value) :: rest => (quoted key ++ ": " ++ quoted value) :: quotedEntries rest

end

/-- The text of a value; a text stands for itself. -/
def plain : Value → String
  | .text s => s
  | .date year month day => dayText year month day
  | .dateTime moment => momentText moment
  | value => value.quoted

/-- A mapping from texts. -/
def ofFields (fields : List (String × Value)) : Value :=
  .mapping (fields.map fun (name, value) => (.text name, value))

/-- The text of a value, if it is one. -/
def text? : Value → Option String
  | .text s => some s
  | _ => none

end Value
end Config
end ClassLoom
