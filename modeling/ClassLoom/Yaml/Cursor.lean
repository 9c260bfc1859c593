namespace ClassLoom
namespace Yaml

/-!
# A place in a text

A cursor is what is left of a text, with the number of characters before it, the line and the
column.  Every step goes forward by one character, so what is left gets shorter with each step.
-/

/-- A place in a text. -/
structure Cursor where
  rest : List Char
  index : Nat
  line : Nat
  column : Nat
  deriving Repr, Inhabited

/-- A character that ends a line. -/
def isBreak (c : Char) : Bool :=
  c == '\n' || c == '\r' || c.toNat == 0x85 || c.toNat == 0x2028 || c.toNat == 0x2029

/-- A character that a text may hold. -/
def isAdmitted (c : Char) : Bool :=
  let n := c.toNat
  n == 9 || n == 10 || n == 13 || (32 ≤ n && n ≤ 126) || n == 0x85 ||
    (0xA0 ≤ n && n ≤ 0xD7FF) || (0xE000 ≤ n && n ≤ 0xFFFD) || 0x10000 ≤ n

/-- The end of a line or of the text. -/
def endsLine : Option Char → Bool
  | none => true
  | some c => isBreak c

/-- A space, or the end of a line. -/
def endsItem (c : Option Char) : Bool := c == some ' ' || endsLine c

/-- A space, a tab, or the end of a line. -/
def endsWord (c : Option Char) : Bool := c == some '\t' || endsItem c

/-- A letter, a digit, a hyphen or an underscore. -/
def isNameCharacter (c : Char) : Bool := c.isAlphanum || c == '-' || c == '_'

namespace Cursor

def ofText (text : List Char) : Cursor := ⟨text, 0, 0, 0⟩

/-- The character at a distance. -/
def peek (cursor : Cursor) (distance : Nat) : Option Char := cursor.rest[distance]?

/-- The next character. -/
def head (cursor : Cursor) : Option Char := cursor.rest.head?

/-- Whether a carriage return belongs to the line feed after it. -/
def joinsNext (c : Char) (rest : List Char) : Bool := c == '\r' && rest.head? == some '\n'

/-- The place after the next character; a byte order mark takes no column. -/
def advance (cursor : Cursor) : Cursor :=
  match cursor.rest with
  | [] => cursor
  | c :: rest =>
    if isBreak c && !joinsNext c rest then ⟨rest, cursor.index + 1, cursor.line + 1, 0⟩
    else
      let width := if c.toNat = 0xFEFF then 0 else 1
      ⟨rest, cursor.index + 1, cursor.line, cursor.column + width⟩

/-- The place after a number of characters. -/
def advanceBy (cursor : Cursor) : Nat → Cursor
  | 0 => cursor
  | count + 1 => cursor.advance.advanceBy count

/-- The characters up to the first that fails a test, and the place after them. -/
def span (cursor : Cursor) (test : Char → Bool) : List Char × Cursor :=
  let taken := cursor.rest.takeWhile test
  (taken, cursor.advanceBy taken.length)

/-- The place after the characters that pass a test. -/
def skip (cursor : Cursor) (test : Char → Bool) : Cursor := (cursor.span test).2

/-- The place after spaces. -/
def skipSpaces (cursor : Cursor) : Cursor := cursor.skip (· == ' ')

/-- The place after a comment, if there is one. -/
def skipComment (cursor : Cursor) : Cursor :=
  if cursor.head == some '#' then cursor.skip fun c => !isBreak c else cursor

/-- The line break at a place and the place after it.  The separators of lines and paragraphs stand
for themselves, and every other line break for a line feed. -/
def lineBreak? (cursor : Cursor) : Option (Char × Cursor) :=
  match cursor.rest with
  | [] => none
  | c :: rest =>
    if !isBreak c then none
    else if c.toNat == 0x2028 || c.toNat == 0x2029 then some (c, cursor.advance)
    else some ('\n', cursor.advanceBy (if joinsNext c rest then 2 else 1))

/-- Whether three given characters stand at a place, and nothing else in their word. -/
def hasMark (cursor : Cursor) (mark : Char) : Bool :=
  match cursor.rest with
  | a :: b :: c :: _ => a == mark && b == mark && c == mark && endsWord (cursor.peek 3)
  | _ => false

/-- Whether the mark of a document's start or end stands at a place. -/
def atSeparator (cursor : Cursor) : Bool := cursor.hasMark '-' || cursor.hasMark '.'

theorem rest_length_advance_le (cursor : Cursor) :
    cursor.advance.rest.length ≤ cursor.rest.length := by
  unfold advance
  split
  · exact Nat.le_refl _
  · rename_i c rest equal
    split <;> simp [equal]

end Cursor
end Yaml
end ClassLoom
