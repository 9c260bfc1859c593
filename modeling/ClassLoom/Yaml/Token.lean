import ClassLoom.Yaml.Scalar

namespace ClassLoom
namespace Yaml

/-!
# Tokens

A text is cut into tokens from its start to its end.  Indentation becomes tokens of its own: a block
of items or of keys is opened where its first item or key stands, and closed before the first token
that is indented less.

That a token is a key is known only when the colon after it is read.  So a slot is left before
everything that can be a key, and a slot is filled at the colon, if that is in the same line and
near enough.  Tokens are only ever added at the end.
-/

open Cursor

/-- A directive: the version, what a tag handle stands for, or one without a meaning. -/
inductive Directive where
  | version (major minor : Nat)
  | tagHandle (handle start : String)
  | other (name : String)
  deriving Repr, DecidableEq, Inhabited

/-- A token.  The last one is the end of the text or the refusal that stopped the reading. -/
inductive Token where
  | directive (directive : Directive)
  | documentStart
  | documentEnd
  | itemsStart
  | keysStart
  | blockEnd
  | listStart
  | listEnd
  | tableStart
  | tableEnd
  | comma
  | item
  | key
  | value
  | alias (name : String)
  | anchor (name : String)
  | tag (handle : Option String) (suffix : String)
  | scalar (plain : Bool) (text : String)
  | textEnd
  | refused (refusal : Refusal)
  deriving Inhabited

/-- What has been read: a token, or a slot for the start of a key. -/
inductive Piece where
  | token (token : Token)
  | slot (number : Nat)
  deriving Inhabited

/-- A place where a key may have started.  A needed key is one that the indentation asks for. -/
structure Opening where
  slot : Nat
  needed : Bool
  cursor : Cursor
  deriving Inhabited

/-- The state of the reading. -/
structure Reading where
  cursor : Cursor
  /-- What has been read, last first. -/
  pieces : List Piece
  /-- The filled slots, each with whether a block of keys is opened there. -/
  filled : List (Nat × Bool)
  slots : Nat
  /-- The number of open brackets. -/
  depth : Nat
  indent : Int
  /-- The indentations around the present one, innermost first. -/
  indents : List Int
  keyAllowed : Bool
  /-- The latest place at each depth where a key may have started. -/
  openings : List (Nat × Opening)
  deriving Inhabited

namespace Reading

def ofText (text : List Char) : Reading :=
  ⟨.ofText text, [], [], 0, 0, -1, [], true, []⟩

def column (reading : Reading) : Int := Int.ofNat reading.cursor.column

/-- Add a token. -/
def add (reading : Reading) (token : Token) : Reading :=
  { reading with pieces := .token token :: reading.pieces }

/-- The tokens that have been read, with the filled slots in their places. -/
def tokens (reading : Reading) : List Token :=
  reading.pieces.reverse.flatMap fun
    | .token token => [token]
    | .slot number => match reading.filled.lookup number with
      | none => []
      | some true => [.keysStart, .key]
      | some false => [.key]

/-! ## Indentation -/

/-- Close the blocks that are indented more than a column, unless brackets are open. -/
def closeTo (column : Int) : List Int → Reading → Reading
  | [], reading => reading
  | outer :: indents, reading =>
    if column < reading.indent then
      closeTo column indents { reading.add .blockEnd with indent := outer, indents }
    else reading

def close (reading : Reading) (column : Int) : Reading :=
  if 0 < reading.depth then reading else closeTo column reading.indents reading

/-- Indent to a column; answers whether that is further than before. -/
def indentTo (reading : Reading) (column : Int) : Reading × Bool :=
  if reading.indent < column then
    ({ reading with indent := column, indents := reading.indent :: reading.indents }, true)
  else (reading, false)

/-! ## Keys -/

/-- The farthest that a colon may be from the start of its key. -/
def longestKey : Nat := 1024

/-- Give up the places from which no key can go on to the present place. -/
def expire (reading : Reading) : Except Refusal Reading := do
  let isGone := fun (opening : Opening) =>
    opening.cursor.line != reading.cursor.line ||
      longestKey < reading.cursor.index - opening.cursor.index
  match reading.openings.find? fun e => isGone e.2 && e.2.needed with
  | some _ => reading.cursor.refuse .keyWithoutColon
  | none => return { reading with openings := reading.openings.filter fun e => !isGone e.2 }

/-- Give up the place of a key at the present depth. -/
def giveUp (reading : Reading) : Except Refusal Reading :=
  match reading.openings.lookup reading.depth with
  | none => .ok reading
  | some opening =>
    if opening.needed then reading.cursor.refuse .keyWithoutColon
    else .ok { reading with openings := reading.openings.filter (·.1 ≠ reading.depth) }

/-- Note that a key may start here, if one is allowed. -/
def open_ (reading : Reading) : Except Refusal Reading := do
  if !reading.keyAllowed then return reading
  let needed := reading.depth == 0 && reading.indent == reading.column
  let reading ← reading.giveUp
  let opening : Opening := ⟨reading.slots, needed, reading.cursor⟩
  return { reading with
    pieces := .slot reading.slots :: reading.pieces
    slots := reading.slots + 1
    openings := reading.openings ++ [(reading.depth, opening)] }

/-! ## Indicators -/

/-- Go on behind a number of characters after adding a token. -/
def pass (reading : Reading) (count : Nat) (token : Token) : Reading :=
  { reading.add token with cursor := reading.cursor.advanceBy count }

/-- The start or the end of a document. -/
def documentMark (reading : Reading) (token : Token) : Except Refusal Reading := do
  let reading ← (reading.close (-1)).giveUp
  return { reading with keyAllowed := false }.pass 3 token

/-- An opening bracket. -/
def openBracket (reading : Reading) (token : Token) : Except Refusal Reading := do
  let reading ← reading.open_
  return { reading with depth := reading.depth + 1, keyAllowed := true }.pass 1 token

/-- A closing bracket. -/
def closeBracket (reading : Reading) (token : Token) : Except Refusal Reading := do
  let reading ← reading.giveUp
  if reading.depth = 0 then reading.cursor.refuse .unmatchedBracket
  return { reading with depth := reading.depth - 1, keyAllowed := false }.pass 1 token

/-- A comma between brackets. -/
def comma (reading : Reading) : Except Refusal Reading := do
  let reading ← reading.giveUp
  return { reading with keyAllowed := true }.pass 1 .comma

/-- Open a block at the present column where the indentation has grown. -/
def openBlock (reading : Reading) (token : Token) : Reading :=
  let (indented, grown) := reading.indentTo reading.column
  if grown then indented.add token else reading

/-- The hyphen of an item.  Between brackets the order of tokens will refuse it. -/
def itemMark (reading : Reading) : Except Refusal Reading := do
  if reading.depth = 0 && !reading.keyAllowed then reading.cursor.refuse .itemNotAllowed
  let reading := if reading.depth = 0 then reading.openBlock .itemsStart else reading
  let reading ← { reading with keyAllowed := true }.giveUp
  return reading.pass 1 .item

/-- The question mark of a key. -/
def keyMark (reading : Reading) : Except Refusal Reading := do
  if reading.depth = 0 && !reading.keyAllowed then reading.cursor.refuse .keyNotAllowed
  let reading := if reading.depth = 0 then reading.openBlock .keysStart else reading
  let reading ← { reading with keyAllowed := reading.depth == 0 }.giveUp
  return reading.pass 1 .key

/-- Fill the slot of a key that started at some place. -/
def fill (reading : Reading) (opening : Opening) : Reading :=
  let (indented, grown) :=
    if reading.depth = 0 then reading.indentTo (Int.ofNat opening.cursor.column)
    else (reading, false)
  { indented with
    filled := (opening.slot, grown) :: reading.filled
    openings := reading.openings.filter (·.1 ≠ reading.depth)
    keyAllowed := false }

/-- The colon of a value. -/
def valueMark (reading : Reading) : Except Refusal Reading := do
  match reading.openings.lookup reading.depth with
  | some opening => return (reading.fill opening).pass 1 .value
  | none =>
    if reading.depth = 0 && !reading.keyAllowed then reading.cursor.refuse .valueNotAllowed
    let reading := if reading.depth = 0 then reading.openBlock .keysStart else reading
    let reading ← { reading with keyAllowed := reading.depth == 0 }.giveUp
    return reading.pass 1 .value

/-! ## Names, tags and directives -/

/-- The name of an anchor, after its indicator. -/
def anchorName (cursor : Cursor) : Except Refusal (String × Cursor) :=
  let (name, next) := cursor.advance.span isNameCharacter
  let ends := endsWord next.head || (next.head.map ("?:,]\x7d%@`".toList.contains ·)).getD true
  if name.isEmpty || !ends then next.refuse .anchorName
  else .ok (String.ofList name, next)

/-- An anchor or an alias. -/
def anchorMark (reading : Reading) (token : String → Token) : Except Refusal Reading := do
  let reading ← reading.open_
  let (name, next) ← anchorName reading.cursor
  return { reading.add (token name) with cursor := next, keyAllowed := false }

/-- A character of a tag's address. -/
def isAddressCharacter (c : Char) : Bool :=
  c.isAlphanum || "-;/?:@&=+$,_.!~*'()[]%".toList.contains c

/-- The octets that percent signs with two hexadecimal digits stand for. -/
def percentOctets : Nat → Cursor → Except Refusal (Bytes × Cursor)
  | 0, cursor => .ok ([], cursor)
  | fuel + 1, cursor =>
    if cursor.head != some '%' then .ok ([], cursor)
    else match hexNumber? cursor.advance 2 with
      | none => cursor.refuse .tagAddress
      | some octet => do
        let (octets, rest) ← percentOctets fuel (cursor.advanceBy 3)
        return (octet.toUInt8 :: octets, rest)

/-- The characters of a tag's address. -/
def address : Nat → Cursor → Except Refusal (List Char × Cursor)
  | 0, cursor => .ok ([], cursor)
  | fuel + 1, cursor =>
    match cursor.head with
    | none => .ok ([], cursor)
    | some c =>
      if c == '%' then do
        let (octets, next) ← percentOctets cursor.rest.length cursor
        match Text.decodeUtf8 octets with
        | .error _ => cursor.refuse .tagAddress
        | .ok decoded =>
          let (more, rest) ← address fuel next
          return (decoded ++ more, rest)
      else if isAddressCharacter c then do
        let (more, rest) ← address fuel cursor.advance
        return (c :: more, rest)
      else .ok ([], cursor)

/-- The address of a tag, which is not empty. -/
def tagAddress (cursor : Cursor) : Except Refusal (String × Cursor) := do
  let (text, next) ← address (cursor.rest.length + 1) cursor
  if next.index == cursor.index then next.refuse .tagAddress
  return (String.ofList text, next)

/-- A tag handle: an exclamation mark, or a name between two. -/
def tagHandle (cursor : Cursor) : Except Refusal (String × Cursor) :=
  if cursor.head != some '!' then cursor.refuse .tagHandle
  else
    let next := cursor.advance
    if next.head == some ' ' then .ok ("!", next)
    else
      let (name, after) := next.span isNameCharacter
      if after.head == some '!' then
        .ok ("!" ++ String.ofList name ++ "!", after.advance)
      else after.refuse .tagHandle

/-- A tag: in full between angle brackets, a lone exclamation mark, or a handle and an address. -/
def tag (cursor : Cursor) : Except Refusal (Token × Cursor) := do
  let (token, next) ←
    if cursor.peek 1 == some '<' then do
      let (suffix, next) ← tagAddress (cursor.advanceBy 2)
      if next.head != some '>' then next.refuse .tagEnd
      pure (Token.tag none suffix, next.advance)
    else if endsWord (cursor.peek 1) then pure (Token.tag none "!", cursor.advance)
    else do
      let word := (cursor.advance.span fun c => !endsItem (some c)).1
      let (handle, next) ←
        if word.contains '!' then tagHandle cursor else pure ("!", cursor.advance)
      let (suffix, next) ← tagAddress next
      pure (Token.tag (some handle) suffix, next)
  if endsItem next.head then return (token, next)
  next.refuse .tagEnd

/-- A tag. -/
def tagMark (reading : Reading) : Except Refusal Reading := do
  let reading ← reading.open_
  let (token, next) ← tag reading.cursor
  return { reading.add token with cursor := next, keyAllowed := false }

/-- A row of digits. -/
def directiveNumber (cursor : Cursor) : Except Refusal (Nat × Cursor) :=
  let (digits, next) := cursor.span Char.isDigit
  if digits.isEmpty then cursor.refuse .directiveValue
  else .ok (digits.foldl (fun n c => n * 10 + (c.toNat - 48)) 0, next)

/-- The version that a directive tells. -/
def versionDirective (cursor : Cursor) : Except Refusal (Directive × Cursor) := do
  let (major, next) ← directiveNumber cursor.skipSpaces
  if next.head != some '.' then next.refuse .directiveValue
  let (minor, next) ← directiveNumber next.advance
  if endsItem next.head then return (.version major minor, next)
  next.refuse .directiveValue

/-- The tag handle that a directive explains. -/
def handleDirective (cursor : Cursor) : Except Refusal (Directive × Cursor) := do
  let (handle, next) ← tagHandle cursor.skipSpaces
  if next.head != some ' ' then next.refuse .directiveValue
  let (start, next) ← tagAddress next.skipSpaces
  if endsItem next.head then return (.tagHandle handle start, next)
  next.refuse .directiveValue

/-- A directive, at its percent sign. -/
def directive (cursor : Cursor) : Except Refusal (Directive × Cursor) := do
  let (name, next) := cursor.advance.span isNameCharacter
  if name.isEmpty || !endsItem next.head then next.refuse .directiveName
  let name := String.ofList name
  let (directive, next) ←
    if name == "YAML" then versionDirective next
    else if name == "TAG" then handleDirective next
    else pure (Directive.other name, next.skip fun c => !isBreak c)
  return (directive, ← restOfLine .directiveEnd next)

/-- A directive. -/
def directiveMark (reading : Reading) : Except Refusal Reading := do
  let reading ← (reading.close (-1)).giveUp
  let (directive, next) ← directive reading.cursor
  return { reading.add (.directive directive) with cursor := next, keyAllowed := false }

/-! ## Scalars -/

/-- A plain scalar. -/
def plain (reading : Reading) : Except Refusal Reading := do
  let reading ← reading.open_
  let scalar := plainScalar (0 < reading.depth) reading.indent reading.cursor
  return { reading.add (.scalar true (String.ofList scalar.text)) with
    cursor := scalar.cursor, keyAllowed := scalar.atLineStart }

/-- A quoted scalar. -/
def quoted (reading : Reading) (double : Bool) : Except Refusal Reading := do
  let reading ← reading.open_
  let (text, next) ← quotedScalar double reading.cursor
  return { reading.add (.scalar false (String.ofList text)) with
    cursor := next, keyAllowed := false }

/-- A block scalar. -/
def block (reading : Reading) (foldLines : Bool) : Except Refusal Reading := do
  let reading ← { reading with keyAllowed := true }.giveUp
  let (text, next) ← blockScalar foldLines reading.indent reading.cursor
  return { reading.add (.scalar false (String.ofList text)) with cursor := next }

/-! ## The next token -/

/-- Skip spaces, comments and line breaks; outside of brackets a key may start in a new line. -/
def skipBlank : Nat → Reading → Reading
  | 0, reading => reading
  | fuel + 1, reading =>
    let next := reading.cursor.skipSpaces.skipComment
    match next.lineBreak? with
    | none => { reading with cursor := next }
    | some (_, next) =>
      skipBlank fuel { reading with
        cursor := next, keyAllowed := reading.keyAllowed || reading.depth == 0 }

/-- Whether a plain scalar may start here. -/
def startsPlain (reading : Reading) (c : Char) : Bool :=
  let indicators := "-?:,[]\x7b\x7d#&*!|>\x27\x22%@`".toList
  (!endsWord (some c) && !indicators.contains c) ||
    (!endsWord (reading.cursor.peek 1) &&
      (c == '-' || (reading.depth == 0 && (c == '?' || c == ':'))))

/-- Read the token at a character. -/
def readToken (reading : Reading) (c : Char) : Except Refusal Reading :=
  let cursor := reading.cursor
  let aloneOrInFlow := 0 < reading.depth || endsWord (cursor.peek 1)
  if c == '%' && cursor.column = 0 then reading.directiveMark
  else if cursor.column = 0 && cursor.hasMark '-' then reading.documentMark .documentStart
  else if cursor.column = 0 && cursor.hasMark '.' then reading.documentMark .documentEnd
  else if c == '[' then reading.openBracket .listStart
  else if c == '\x7b' then reading.openBracket .tableStart
  else if c == ']' then reading.closeBracket .listEnd
  else if c == '\x7d' then reading.closeBracket .tableEnd
  else if c == ',' then reading.comma
  else if c == '-' && endsWord (cursor.peek 1) then reading.itemMark
  else if c == '?' && aloneOrInFlow then reading.keyMark
  else if c == ':' && aloneOrInFlow then reading.valueMark
  else if c == '*' then reading.anchorMark .alias
  else if c == '&' then reading.anchorMark .anchor
  else if c == '!' then reading.tagMark
  else if c == '|' && reading.depth = 0 then reading.block false
  else if c == '>' && reading.depth = 0 then reading.block true
  else if c == Text.apostrophe then reading.quoted false
  else if c == Text.doubleQuote then reading.quoted true
  else if reading.startsPlain c then reading.plain
  else cursor.refuse (.noToken c)

/-- Read the next token; answers whether the text goes on. -/
def next (reading : Reading) : Except Refusal (Reading × Bool) := do
  let reading ← (reading.skipBlank (reading.cursor.rest.length + 1)).expire
  let reading := reading.close reading.column
  match reading.cursor.head with
  | some c => return (← reading.readToken c, true)
  | none =>
    let reading ← (reading.close (-1)).giveUp
    return (reading.add .textEnd, false)

/-- Read tokens to the end of the text or to a refusal. -/
def run : Nat → Reading → Reading
  | 0, reading => reading
  | fuel + 1, reading =>
    match reading.next with
    | .error refusal => reading.add (.refused refusal)
    | .ok (reading, true) => run fuel reading
    | .ok (reading, false) => reading

end Reading

/-- The tokens of a text. -/
def Token.ofText (text : List Char) : List Token :=
  match text.find? fun c => !isAdmitted c with
  | some c => [.refused (.malformed none (.unprintable c))]
  | none =>
    let reading := Reading.ofText text
    let reading :=
      if text.head?.map Char.toNat == some 0xFEFF then
        { reading with cursor := reading.cursor.advance }
      else reading
    (reading.run (text.length + 1)).tokens

end Yaml
end ClassLoom
