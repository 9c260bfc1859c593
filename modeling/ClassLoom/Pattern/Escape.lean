import ClassLoom.Pattern.Cursor

namespace ClassLoom
namespace Pattern

/-!
# Escapes in patterns

A backslash gives a letter or digit a meaning of its own: a class of characters, a place in the
text, a code point in octal or hexadecimal, or a reference to a group.  Before any other character
it only takes away a special meaning.
-/

/-- What an escape stands for. -/
inductive Escaped where
  | code (code : Nat)
  | category (category : Category) (negated : Bool)
  | anchor (place : Anchor)
  | reference (group : Nat)

/-- Whether a character is an octal digit. -/
def isOctalDigit (c : Char) : Bool := '0' ≤ c && c ≤ '7'

/-- Whether a character is a digit of a base up to sixteen. -/
def isHexDigit (c : Char) : Bool :=
  c.isDigit || ('a' ≤ c && c ≤ 'f') || ('A' ≤ c && c ≤ 'F')

/-- The value of a digit. -/
def digitValue (c : Char) : Nat :=
  if c.isDigit then c.toNat - 48
  else if 'a' ≤ c then c.toNat - 87
  else c.toNat - 55

/-- The number that digits write in a base. -/
def numberOf (base : Nat) (digits : String) : Nat :=
  digits.toList.foldl (fun n c => n * base + digitValue c) 0

/-- Control characters that have a letter. -/
def controlCode? : Char → Option Nat
  | 'a' => some 7
  | 'b' => some 8
  | 'f' => some 12
  | 'n' => some 10
  | 'r' => some 13
  | 't' => some 9
  | 'v' => some 11
  | '\\' => some 92
  | _ => none

/-- Classes of characters that have a letter, with their complements. -/
def category? : Char → Option (Category × Bool)
  | 'd' => some (.digit, false)
  | 'D' => some (.digit, true)
  | 's' => some (.space, false)
  | 'S' => some (.space, true)
  | 'w' => some (.word, false)
  | 'W' => some (.word, true)
  | _ => none

/-- Places in the text that have a letter. -/
def anchor? : Char → Option Anchor
  | 'A' => some .textStart
  | 'b' => some .boundary
  | 'B' => some .noBoundary
  | 'Z' => some .textEnd
  | _ => none

/-- Read the hexadecimal digits of an escape. -/
def readHexadecimal (escape : String) (width : Nat) : Reader Nat := do
  let digits ← Reader.takeWhile isHexDigit width
  let text := escape ++ digits
  if digits.length ≠ width then Reader.refuse (.incompleteEscape text) text.length
  let code := numberOf 16 digits
  if 0x10FFFF < code then Reader.refuse (.badEscape text) text.length
  return code

/-- Read a character given by its name; no names are known. -/
def readNamed : Reader Nat := do
  if !(← Reader.accept "\x7b") then Reader.refuse .braceMissing 0
  let name ← Reader.takeName "\x7d" "character name"
  Reader.refuse (.undefinedCharacter name) (name.length + 4)

/-- Read the rest of an octal escape. -/
def readOctal (escape : String) : Reader Nat := do
  let text := escape ++ (← Reader.takeWhile isOctalDigit 2)
  let code := numberOf 8 (text.drop 1).toString
  if 0o377 < code then Reader.refuse (.octalOutOfRange text) text.length
  return code

/-- The escapes that mean a code point inside and outside of sets. -/
def readCode? (escape : String) (c : Char) : Reader (Option Nat) := do
  match c with
  | 'x' => some <$> readHexadecimal escape 2
  | 'u' => some <$> readHexadecimal escape 4
  | 'U' => some <$> readHexadecimal escape 8
  | 'N' => some <$> readNamed
  | _ => return none

/-- An escape without a meaning of its own. -/
def readPlain (escape : String) (c : Char) : Reader Nat := do
  if c.isAlphanum then Reader.refuse (.badEscape escape) escape.length
  return c.toNat

/-- Read an escape inside a set. -/
def readSetEscape (escape : String) : Reader Escaped := do
  let c := escape.toList.getD 1 ' '
  match controlCode? c, category? c with
  | some code, _ => return .code code
  | none, some (category, negated) => return .category category negated
  | none, none =>
    match ← readCode? escape c with
    | some code => return .code code
    | none =>
      if isOctalDigit c then return .code (← readOctal escape)
      else return .code (← readPlain escape c)

/-- Read a reference to a group, or an octal escape of three digits. -/
def readReference (escape : String) : Reader Escaped := do
  let escape := escape ++ (← Reader.takeWhile Char.isDigit 1)
  let octal := escape.length = 3 && (escape.drop 1).toString.toList.all isOctalDigit
  let third ← if octal then Reader.takeWhile isOctalDigit 1 else pure ""
  if !third.isEmpty then
    let text := escape ++ third
    let code := numberOf 8 (text.drop 1).toString
    if 0o377 < code then Reader.refuse (.octalOutOfRange text) text.length
    return .code code
  let group := numberOf 10 (escape.drop 1).toString
  if (← get).groups.length < group then
    Reader.refuse (.invalidReference group) (escape.length - 1)
  if (← Reader.groupWidth? group).isNone then Reader.refuse .openGroup escape.length
  Reader.checkLookbehind group
  return .reference group

/-- Read an escape outside of sets. -/
def readEscape (escape : String) : Reader Escaped := do
  let c := escape.toList.getD 1 ' '
  match anchor? c, category? c, controlCode? c with
  | some place, _, _ => return .anchor place
  | none, some (category, negated), _ => return .category category negated
  | none, none, some code => return .code code
  | none, none, none =>
    match ← readCode? escape c with
    | some code => return .code code
    | none =>
      if c = '0' then
        let digits ← Reader.takeWhile isOctalDigit 2
        return .code (numberOf 8 digits)
      else if c.isDigit then readReference escape
      else return .code (← readPlain escape c)

end Pattern
end ClassLoom
