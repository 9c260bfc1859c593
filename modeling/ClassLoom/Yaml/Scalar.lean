import ClassLoom.Text.Utf8
import ClassLoom.Yaml.Refusal

namespace ClassLoom
namespace Yaml

/-!
# The text of scalars

A scalar is plain, between quotes, or a block of lines.  A single line break inside a plain or a
quoted scalar is a space, and of several the first is dropped; a folded block treats the breaks
between its unindented lines alike.  The separators of lines and paragraphs are always kept.
-/

open Cursor

/-- The text of line breaks inside a scalar: the first is folded. -/
def folded (first : Char) (others : List Char) : List Char :=
  if first != '\n' then first :: others else if others.isEmpty then [' '] else others

/-! ## Plain scalars -/

/-- A plain scalar that has been read: its text, the place after it, and whether that place starts
a line. -/
structure PlainText where
  text : List Char
  cursor : Cursor
  atLineStart : Bool

/-- Whether a word of a plain scalar ends at a place; `inFlow` tells that brackets are open. -/
def endsPlain (inFlow : Bool) (cursor : Cursor) : Bool :=
  match cursor.head with
  | some ':' =>
    let next := cursor.peek 1
    endsWord next || (inFlow && (next.map (",[]\x7b\x7d".toList.contains ·)).getD false)
  | some c => endsWord (some c) || (inFlow && ",?[]\x7b\x7d".toList.contains c)
  | none => true

/-- A word of a plain scalar. -/
def plainWord (inFlow : Bool) : Nat → Cursor → List Char × Cursor
  | 0, cursor => ([], cursor)
  | fuel + 1, cursor =>
    match cursor.head with
    | some c =>
      if endsPlain inFlow cursor then ([], cursor)
      else
        let (word, rest) := plainWord inFlow fuel cursor.advance
        (c :: word, rest)
    | none => ([], cursor)

/-- The line breaks and spaces after a line break, up to a document separator; it is none if there
is a separator. -/
def plainBreaks : Nat → Cursor → Option (List Char) × Cursor
  | 0, cursor => (some [], cursor)
  | fuel + 1, cursor =>
    if cursor.head == some ' ' then plainBreaks fuel cursor.advance
    else match cursor.lineBreak? with
      | some (c, next) =>
        if next.atSeparator then (none, next)
        else
          let (more, rest) := plainBreaks fuel next
          (more.map (c :: ·), rest)
      | none => (some [], cursor)

/-- The space between two words of a plain scalar, whether a line has started in it, and the place
after it; it is none before a document separator. -/
def plainSpace (cursor : Cursor) : Option (List Char) × Bool × Cursor :=
  let (spaces, next) := cursor.span (· == ' ')
  match next.lineBreak? with
  | none => (some spaces, false, next)
  | some (first, next) =>
    if next.atSeparator then (none, true, next)
    else
      let (others, next) := plainBreaks next.rest.length next
      (others.map (folded first), true, next)

/-- The words of a plain scalar, from a place on.  Outside of brackets a line must be indented. -/
def plainWords (inFlow : Bool) (indent : Int) : Nat → List Char → Bool → Cursor → PlainText
  | 0, _, atLineStart, cursor => ⟨[], cursor, atLineStart⟩
  | fuel + 1, space, atLineStart, cursor =>
    let (word, next) := plainWord inFlow cursor.rest.length cursor
    if word.isEmpty || cursor.head == some '#' then ⟨[], cursor, atLineStart⟩
    else
      let before := space ++ word
      match plainSpace next with
      | (some (c :: more), started, next) =>
        if next.head == some '#' || (!inFlow && Int.ofNat next.column < indent) then
          ⟨before, next, started⟩
        else
          let rest := plainWords inFlow indent fuel (c :: more) started next
          { rest with text := before ++ rest.text }
      | (_, started, next) => ⟨before, next, started⟩

/-- The plain scalar at a place, inside a block of some indentation. -/
def plainScalar (inFlow : Bool) (indent : Int) (cursor : Cursor) : PlainText :=
  plainWords inFlow (indent + 1) (cursor.rest.length + 1) [] false cursor

/-! ## Quoted scalars -/

/-- What an escaped character stands for. -/
def escaped? (c : Char) : Option Char :=
  match c with
  | '0' => some (Char.ofNat 0)
  | 'a' => some (Char.ofNat 7)
  | 'b' => some (Char.ofNat 8)
  | 't' => some '\t'
  | '\t' => some '\t'
  | 'n' => some '\n'
  | 'v' => some (Char.ofNat 11)
  | 'f' => some (Char.ofNat 12)
  | 'r' => some '\r'
  | 'e' => some (Char.ofNat 27)
  | ' ' => some ' '
  | '"' => some '"'
  | '\\' => some '\\'
  | '/' => some '/'
  | 'N' => some (Char.ofNat 0x85)
  | '_' => some (Char.ofNat 0xA0)
  | 'L' => some (Char.ofNat 0x2028)
  | 'P' => some (Char.ofNat 0x2029)
  | _ => none

/-- The number of hexadecimal digits after an escaped letter. -/
def escapeWidth? (c : Char) : Option Nat :=
  match c with
  | 'x' => some 2
  | 'u' => some 4
  | 'U' => some 8
  | _ => none

/-- The value of a hexadecimal digit. -/
def hexValue? (c : Char) : Option Nat :=
  if c.isDigit then some (c.toNat - 48)
  else if 'a' ≤ c && c ≤ 'f' then some (c.toNat - 87)
  else if 'A' ≤ c && c ≤ 'F' then some (c.toNat - 55)
  else none

/-- The number that the next hexadecimal digits stand for, if there are enough of them. -/
def hexNumber? (cursor : Cursor) (width : Nat) : Option Nat := do
  let values ← (cursor.rest.take width).mapM hexValue?
  if values.length < width then none
  return values.foldl (fun number digit => number * 16 + digit) 0

/-- The character of a code, if it is in range. -/
def characterOf (code : Nat) : Except Refusal Char :=
  if code < 0x110000 then .ok (if code.isValidChar then Char.ofNat code else Char.ofNat 0xFFFD)
  else if code < Nat.pow 2 31 then
    .error (.fault (.wrongValue "character code out of range"))
  else .error (.fault (.outOfRange "character code too large"))

/-- The blanks and line breaks after a line break in a quoted scalar; answers the breaks. -/
def quotedBreaks : Nat → Cursor → Except Refusal (List Char × Cursor)
  | 0, cursor => .ok ([], cursor)
  | fuel + 1, cursor =>
    if cursor.atSeparator then cursor.refuse .separatorInQuote
    else
      let next := cursor.skip fun c => c == ' ' || c == '\t'
      match next.lineBreak? with
      | none => .ok ([], next)
      | some (c, next) => do
        let (breaks, rest) ← quotedBreaks fuel next
        return (c :: breaks, rest)

/-- The blanks between two words of a quoted scalar. -/
def quotedSpace (cursor : Cursor) : Except Refusal (List Char × Cursor) := do
  let (blanks, next) := cursor.span fun c => c == ' ' || c == '\t'
  match next.head, next.lineBreak? with
  | none, _ => next.refuse .unclosedQuote
  | _, none => return (blanks, next)
  | _, some (first, next) =>
    let (others, next) ← quotedBreaks (next.rest.length + 1) next
    return (folded first others, next)

/-- An escape in a scalar between double quotes, after the backslash. -/
def escape (cursor : Cursor) : Except Refusal (List Char × Cursor) :=
  match cursor.head with
  | none => cursor.refuse .unknownEscape
  | some c =>
    match escaped? c, escapeWidth? c, cursor.lineBreak? with
    | some plain, _, _ => .ok ([plain], cursor.advance)
    | none, some width, _ => do
      let next := cursor.advance
      match hexNumber? next width with
      | none => next.refuse .escapeDigits
      | some code =>
        let c ← characterOf code
        return ([c], next.advanceBy width)
    | none, none, some (_, next) => quotedBreaks (next.rest.length + 1) next
    | none, none, none => cursor.refuse .unknownEscape

/-- The characters of a quoted scalar up to a blank, a line break or the closing quote. -/
def quotedWord (double : Bool) : Nat → Cursor → Except Refusal (List Char × Cursor)
  | 0, cursor => .ok ([], cursor)
  | fuel + 1, cursor =>
    match cursor.head with
    | none => .ok ([], cursor)
    | some c =>
      let quote := if double then '"' else Text.apostrophe
      if endsWord (some c) then .ok ([], cursor)
      else if c == quote then
        if !double && cursor.peek 1 == some quote then do
          let (word, rest) ← quotedWord double fuel (cursor.advanceBy 2)
          return (c :: word, rest)
        else .ok ([], cursor)
      else if double && c == Text.backslash then do
        let (start, next) ← escape cursor.advance
        let (word, rest) ← quotedWord double fuel next
        return (start ++ word, rest)
      else do
        let (word, rest) ← quotedWord double fuel cursor.advance
        return (c :: word, rest)

/-- What is left of a quoted scalar, with the place after the closing quote. -/
def quotedRest (double : Bool) : Nat → Cursor → Except Refusal (List Char × Cursor)
  | 0, cursor => cursor.refuse .unclosedQuote
  | fuel + 1, cursor => do
    let quote := if double then '"' else Text.apostrophe
    let (word, next) ← quotedWord double (cursor.rest.length + 1) cursor
    if next.head == some quote then return (word, next.advance)
    let (space, next) ← quotedSpace next
    let (more, rest) ← quotedRest double fuel next
    return (word ++ space ++ more, rest)

/-- The quoted scalar at a place. -/
def quotedScalar (double : Bool) (cursor : Cursor) : Except Refusal (List Char × Cursor) :=
  quotedRest double (cursor.rest.length + 1) cursor.advance

/-! ## Block scalars -/

/-- What becomes of the line breaks at the end of a block. -/
inductive Chomping where
  | strip | clip | keep
  deriving Repr, DecidableEq, Inhabited

/-- The sign of a chomping. -/
def chomping? : Option Char → Option Chomping
  | some '+' => some .keep
  | some '-' => some .strip
  | _ => none

/-- The indentation that a digit tells; zero is none. -/
def increment? (cursor : Cursor) : Except Refusal (Option Nat × Cursor) :=
  match cursor.head with
  | some c =>
    if c == '0' then cursor.refuse .blockHeader
    else if c.isDigit then .ok (some (c.toNat - 48), cursor.advance)
    else .ok (none, cursor)
  | none => .ok (none, cursor)

/-- The rest of a line, which may hold a comment and nothing else. -/
def restOfLine (complaint : Complaint) (cursor : Cursor) : Except Refusal Cursor :=
  let next := cursor.skipSpaces.skipComment
  match next.lineBreak? with
  | some (_, next) => .ok next
  | none => if next.head.isNone then .ok next else next.refuse complaint

/-- The header of a block: its chomping and the indentation that it tells. -/
def blockHeader (cursor : Cursor) : Except Refusal (Chomping × Option Nat × Cursor) := do
  let (chomping, increment, next) ← match chomping? cursor.head with
    | some chomping =>
      let (increment, next) ← increment? cursor.advance
      pure (chomping, increment, next)
    | none =>
      let (increment, next) ← increment? cursor
      match increment, chomping? next.head with
      | some _, some chomping => pure (chomping, increment, next.advance)
      | _, _ => pure (Chomping.clip, increment, next)
  if endsItem next.head then
    let next ← restOfLine .blockHeader next
    return (chomping, increment, next)
  next.refuse .blockHeader

/-- The empty lines before a block, the widest indentation of them, and the place of the first line
that is not empty. -/
def leadingLines : Nat → Nat → Cursor → List Char × Nat × Cursor
  | 0, widest, cursor => ([], widest, cursor)
  | fuel + 1, widest, cursor =>
    if cursor.head == some ' ' then
      leadingLines fuel (max widest cursor.advance.column) cursor.advance
    else match cursor.lineBreak? with
      | some (c, next) =>
        let (breaks, widest, rest) := leadingLines fuel widest next
        (c :: breaks, widest, rest)
      | none => ([], widest, cursor)

/-- The place after at most so many spaces that a column is reached. -/
def indentTo (column : Nat) : Nat → Cursor → Cursor
  | 0, cursor => cursor
  | fuel + 1, cursor =>
    if cursor.column < column && cursor.head == some ' ' then indentTo column fuel cursor.advance
    else cursor

/-- The empty lines at a place inside a block, and the place of the next line's text. -/
def emptyLines (column : Nat) : Nat → Cursor → List Char × Cursor
  | 0, cursor => ([], cursor)
  | fuel + 1, cursor =>
    let next := indentTo column column cursor
    match next.lineBreak? with
    | some (c, next) =>
      let (breaks, rest) := emptyLines column fuel next
      (c :: breaks, rest)
    | none => ([], next)

/-- The end of a block: its last line break, if it has one, and the empty lines after it. -/
def blockEnd (chomping : Chomping) (last : List Char) (breaks : List Char) : List Char :=
  match chomping with
  | .strip => []
  | .clip => last
  | .keep => last ++ breaks

/-- Whether a line starts with a blank. -/
def isMoreIndented (cursor : Cursor) : Bool :=
  cursor.head == some ' ' || cursor.head == some '\t'

/-- The lines of a block, from the text of a line on. -/
def blockLines (foldLines : Bool) (chomping : Chomping) (column : Nat) :
    Nat → Cursor → List Char × Cursor
  | 0, cursor => ([], cursor)
  | fuel + 1, cursor =>
    let (line, next) := cursor.span fun c => !isBreak c
    let (last, next) := match next.lineBreak? with
      | some (c, next) => ([c], next)
      | none => ([], next)
    let (breaks, next) := emptyLines column (next.rest.length + 1) next
    if next.column = column && next.head.isSome then
      let (more, rest) := blockLines foldLines chomping column fuel next
      let between :=
        if foldLines && last == ['\n'] && !isMoreIndented cursor && !isMoreIndented next then
          (if breaks.isEmpty then [' '] else [])
        else last
      (line ++ between ++ breaks ++ more, rest)
    else (line ++ blockEnd chomping last breaks, next)

/-- The block scalar after its indicator, inside a block of some indentation. -/
def blockScalar (foldLines : Bool) (indent : Int) (cursor : Cursor) :
    Except Refusal (List Char × Cursor) := do
  let (chomping, increment, start) ← blockHeader cursor.advance
  let least := (max (indent + 1) 1).toNat
  let fuel := start.rest.length + 1
  let (breaks, column, next) := match increment with
    | some increment =>
      let column := least + increment - 1
      let (breaks, next) := emptyLines column fuel start
      (breaks, column, next)
    | none =>
      let (breaks, widest, next) := leadingLines fuel 0 start
      (breaks, max least widest, next)
  if next.column = column && next.head.isSome then
    let (lines, rest) := blockLines foldLines chomping column fuel next
    return (breaks ++ lines, rest)
  return (blockEnd chomping [] breaks, next)

end Yaml
end ClassLoom
