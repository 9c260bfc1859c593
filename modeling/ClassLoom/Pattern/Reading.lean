import ClassLoom.Pattern.Escape
import ClassLoom.Text.Digit
import ClassLoom.Text.Identifier

namespace ClassLoom
namespace Pattern

/-!
# Reading a pattern

A pattern is a choice of sequences.  The readers below take a bound on their steps; every step takes
a token or enters a group that has just been opened, so a small multiple of the number of tokens is
enough, and the bound is never met.

Choices are simplified as they are read: what all options start with is taken out, and a choice of
single characters becomes a set.  This decides which repetitions are of single characters and has no
effect on what is matched.
-/

/-- Whether two nodes are the same, for nodes that hold no others. -/
def sameLeaf : Node → Node → Bool
  | .literal a, .literal b => a == b
  | .notLiteral a, .notLiteral b => a == b
  | .set n a, .set m b => n == m && a == b
  | .any, .any => true
  | .anchor a, .anchor b => a == b
  | .reference a, .reference b => a == b
  | _, _ => false

/-- Take out what all options start with. -/
def factor : Nat → List Expression → Expression × List Expression
  | 0, options => ([], options)
  | fuel + 1, options =>
    match options with
    | (head :: _) :: _ =>
      let shared := options.all fun option => match option with
        | node :: _ => sameLeaf node head
        | [] => false
      if shared then
        let (front, rest) := factor fuel (options.map (·.drop 1))
        (head :: front, rest)
      else ([], options)
    | _ => ([], options)

/-- The set items of an option that is a single character. -/
def characterItems? : Expression → Option (List SetItem)
  | [.literal code] => some [.single code]
  | [.set false items] => some items
  | _ => none

/-- The expression of a choice. -/
def ofOptions (options : List Expression) : Expression :=
  match options with
  | [option] => option
  | options =>
    let (front, options) := factor ((options.map List.length).foldl max 0) options
    match options.mapM characterItems? with
    | some items => front ++ [.set false items.flatten.eraseDups]
    | none => front ++ [.branch options]

/-- Groups that neither capture nor change flags dissolve. -/
def dissolve (nodes : List Node) : Expression :=
  nodes.flatMap fun node => match node with
    | .group none add remove body =>
      if add = Flags.none && remove = Flags.none then body else [node]
    | node => [node]

/-- The set of escaped and single members. -/
def setOf (negated : Bool) (items : List SetItem) : Node :=
  match items.eraseDups, negated with
  | [.single code], false => .literal code
  | [.single code], true => .notLiteral code
  | items, negated => .set negated items

/-- A member of a set, before it is known whether it starts a range. -/
def readMember (token : String) : Reader Escaped :=
  match token.toList with
  | '\\' :: _ :: _ => readSetEscape token
  | c :: _ => return .code c.toNat
  | [] => return .code 0

/-- The item of a member that is alone. -/
def Escaped.item : Escaped → SetItem
  | .code point => .single point
  | .category kind negated => .category kind negated
  | .anchor _ => .single 0
  | .reference _ => .single 0

/-- Read the members of a set up to its end. -/
def readMembers (start : Nat) : Nat → List SetItem → Reader (List SetItem)
  | 0, items => return items
  | fuel + 1, items => do
    match ← Reader.take? with
    | none => Reader.refuseAt .unterminatedSet start
    | some token =>
      if token == "]" && !items.isEmpty then return items
      let first ← readMember token
      if !(← Reader.accept "-") then readMembers start fuel (items ++ [first.item])
      else match ← Reader.take? with
        | none => Reader.refuseAt .unterminatedSet start
        | some "]" => return items ++ [first.item, .single 45]
        | some that =>
          let last ← readMember that
          match first, last with
          | .code low, .code high =>
            if high < low then
              Reader.refuse (.badRange token that) (token.length + 1 + that.length)
            readMembers start fuel (items ++ [.range low high])
          | _, _ => Reader.refuse (.badRange token that) (token.length + 1 + that.length)

/-- Read a set after its opening bracket. -/
def readSet : Reader Node := do
  let start := (← Reader.place) - 1
  let negated ← Reader.accept "^"
  let items ← readMembers start ((← get).tokens.length + 1) []
  return setOf negated items

/-- No repetition count is this large. -/
def repetitionLimit : Nat := 4294967295

/-- A count in a repetition. -/
def readCount (digits : String) : Reader Nat := do
  let count := numberOf 10 digits
  if repetitionLimit ≤ count then throw .repetitionTooLarge
  return count

/-- The bounds of a repetition, after its first token; nothing if a brace starts none. -/
def readBounds (token : String) : Reader (Option (Nat × Option Nat)) := do
  match token with
  | "?" => return some (0, some 1)
  | "*" => return some (0, none)
  | "+" => return some (1, none)
  | _ =>
    if (← Reader.next?) == some "\x7d" then return none
    let before ← get
    let width := before.tokens.length
    let low ← Reader.takeWhile Char.isDigit width
    let high ← if ← Reader.accept "," then Reader.takeWhile Char.isDigit width else pure low
    if !(← Reader.accept "\x7d") then
      set before
      return none
    let least ← if low.isEmpty then pure 0 else readCount low
    if high.isEmpty then return some (least, none)
    let most ← readCount high
    if most < least then Reader.refuseAt .boundsReversed before.place
    return some (least, some most)

/-- What a repetition repeats. -/
def repeated : Node → Expression
  | .group none add remove body =>
    if add = Flags.none && remove = Flags.none then body
    else [.group none add remove body]
  | node => [node]

/-- Read a repetition; `sequence` holds the nodes before it, last first. -/
def readRepetition (token : String) (sequence : List Node) : Reader (List Node) := do
  let place := (← Reader.place) - token.length
  match ← readBounds token with
  | none => return .literal 123 :: sequence
  | some (least, most) =>
    match sequence with
    | [] => Reader.refuseAt .nothingToRepeat place
    | .anchor _ :: _ => Reader.refuseAt .nothingToRepeat place
    | .repetition _ _ _ _ :: _ => Reader.refuseAt .multipleRepeat place
    | node :: before =>
      let body := repeated node
      if ← Reader.accept "?" then return .repetition .lazy least most body :: before
      else if ← Reader.accept "+" then return .repetition .possessive least most body :: before
      else return .repetition .greedy least most body :: before

/-- Whether a token is a letter; complaints about flags depend on it. -/
def isLetterToken (token : String) : Bool :=
  match token.toList with
  | [c] => c != '_' && Text.isIdentifier [c]
  | _ => false

/-- The flag of a token. -/
def flagOf? (token : String) : Option Flags :=
  match token.toList with
  | [c] => Flags.ofLetter? c
  | _ => none

/-- Whether flags hold one that can only be set for a whole pattern. -/
def isGlobal (flags : Flags) : Bool := flags.template

/-- Read flags to turn on; answers them with the token that ends them. -/
def readAdded : Nat → Flags → String → Reader (Flags × String)
  | 0, add, token => return (add, token)
  | fuel + 1, add, token => do
    let flag := (flagOf? token).getD Flags.none
    if token == "L" then Reader.refuse .localeFlag 0
    let add := add.union flag
    if flag.hasType && add.ascii && add.unicode then Reader.refuse .incompatibleFlags 0
    match ← Reader.take? with
    | none => Reader.refuse .flagEndMissing 0
    | some token =>
      if token == ")" || token == "-" || token == ":" then return (add, token)
      else if (flagOf? token).isSome then readAdded fuel add token
      else
        Reader.refuse (if isLetterToken token then .unknownFlag else .flagEndMissing) token.length

/-- Read flags to turn off, up to the colon. -/
def readRemoved : Nat → Flags → String → Reader Flags
  | 0, remove, _ => return remove
  | fuel + 1, remove, token => do
    let flag := (flagOf? token).getD Flags.none
    if token == "L" || flag.hasType then Reader.refuse .typeTurnedOff 0
    let remove := remove.union flag
    match ← Reader.take? with
    | none => Reader.refuse .colonMissing 0
    | some ":" => return remove
    | some token =>
      if (flagOf? token).isSome then readRemoved fuel remove token
      else Reader.refuse (if isLetterToken token then .unknownFlag else .colonMissing) token.length

/-- Read flags after their first token.  Flags for the whole pattern are set at once and answer
nothing; flags for a group are answered, those to add and those to remove. -/
def readFlags (token : String) : Reader (Option (Flags × Flags)) := do
  let fuel := (← get).tokens.length + 2
  let (add, ending) ←
    if token == "-" then pure (Flags.none, "-") else readAdded fuel Flags.none token
  if ending == ")" then
    modify fun cursor => { cursor with flags := cursor.flags.union add }
    return none
  if isGlobal add then Reader.refuse .globalTurnedOn 1
  let remove ←
    if ending == "-" then
      match ← Reader.take? with
      | none => Reader.refuse .flagMissing 0
      | some token =>
        if (flagOf? token).isNone then
          Reader.refuse (if isLetterToken token then .unknownFlag else .flagMissing) token.length
        readRemoved fuel Flags.none token
    else pure Flags.none
  if isGlobal remove then Reader.refuse .globalTurnedOff 1
  if add.common remove ≠ Flags.none then Reader.refuse .onAndOff 1
  return some (add, remove)

/-- A name of a group. -/
def readGroupName (terminator : String) : Reader String := do
  let name ← Reader.takeName terminator "group name"
  if !Text.isIdentifier name.toList then
    Reader.refuse (.badGroupName name) (name.length + 1)
  return name

/-- The number that digits with single underscores between them write. -/
def wholeNumber? : List Char → Option Nat
  | [] => none
  | digits =>
    let pieces := splitUnderscores digits
    if pieces.any List.isEmpty then none
    else (pieces.flatten.mapM Text.decimalValue?).map fun values =>
      values.foldl (fun n value => n * 10 + value) 0
where
  splitUnderscores : List Char → List (List Char)
    | [] => [[]]
    | '_' :: rest => [] :: splitUnderscores rest
    | c :: rest => match splitUnderscores rest with
      | [] => [[c]]
      | piece :: pieces => (c :: piece) :: pieces

/-- The number of a group that a condition names; a sign and blanks around it do no harm. -/
def groupNumber? (name : String) : Option Nat :=
  match Text.strip name.toList with
  | '+' :: digits => wholeNumber? digits
  | '-' :: digits => (wholeNumber? digits).filter (· = 0)
  | digits => wholeNumber? digits

/-- The largest number of groups. -/
def groupLimit : Nat := 1073741823

/-- Read the group that a condition asks for. -/
def readCondition : Reader Nat := do
  let name ← Reader.takeName ")" "group name"
  let back := name.length + 1
  let number ←
    if Text.isIdentifier name.toList then
      match (← get).names.lookup name with
      | some number => pure number
      | none => Reader.refuse (.unknownGroup name) back
    else match groupNumber? name with
      | none => Reader.refuse (.badGroupName name) back
      | some number => do
        if number = 0 then Reader.refuse .badGroupNumber back
        if groupLimit ≤ number then Reader.refuse (.invalidReference number) back
        let place := (← Reader.place) - back
        modify fun cursor =>
          if (cursor.references.lookup number).isSome then cursor
          else { cursor with references := cursor.references ++ [(number, place)] }
        pure number
  Reader.checkLookbehind number
  return number

/-- Read a named reference after its equals sign. -/
def readNamedReference : Reader Node := do
  let name ← readGroupName ")"
  match (← get).names.lookup name with
  | none => Reader.refuse (.unknownGroup name) (name.length + 1)
  | some number =>
    if (← Reader.groupWidth? number).isNone then Reader.refuse .openGroup (name.length + 1)
    Reader.checkLookbehind number
    return .reference number

/-- Skip a comment group; `start` is the place of its parenthesis. -/
def skipComment (start : Nat) : Nat → Reader Unit
  | 0 => return
  | fuel + 1 => do
    match ← Reader.next? with
    | none => Reader.refuseAt .unterminatedComment start
    | some _ => if (← Reader.take?) != some ")" then skipComment start fuel

/-- Skip a comment up to the end of its line. -/
def skipLine : Nat → Reader Unit
  | 0 => return
  | fuel + 1 => do
    match ← Reader.take? with
    | none => return
    | some token => if token != "\n" then skipLine fuel

/-- How a parenthesis goes on. -/
inductive Opening where
  | capturing (name : Option String)
  | plain (add remove : Flags)
  | atomic
  | look (ahead wanted : Bool)
  | conditional
  | node (node : Node)
  | nothing
  | flags

/-- Read what follows an opening parenthesis up to the contents of the group. -/
def readOpening (start : Nat) : Reader Opening := do
  if !(← Reader.accept "?") then return .capturing none
  let fuel := (← get).tokens.length + 1
  match ← Reader.take? with
  | none => Reader.refuse .unexpectedEnd 0
  | some "P" =>
    if ← Reader.accept "<" then return .capturing (some (← readGroupName ">"))
    else if ← Reader.accept "=" then return .node (← readNamedReference)
    else match ← Reader.take? with
      | none => Reader.refuse .unexpectedEnd 0
      | some token => Reader.refuse (.unknownExtension ("P" ++ token)) (token.length + 2)
  | some ":" => return .plain Flags.none Flags.none
  | some "#" =>
    skipComment start fuel
    return .nothing
  | some "=" => return .look true true
  | some "!" => return .look true false
  | some "<" =>
    match ← Reader.take? with
    | none => Reader.refuse .unexpectedEnd 0
    | some "=" => return .look false true
    | some "!" => return .look false false
    | some token => Reader.refuse (.unknownExtension ("<" ++ token)) (token.length + 2)
  | some "(" => return .conditional
  | some ">" => return .atomic
  | some token =>
    if token == "-" || (flagOf? token).isSome then
      match ← readFlags token with
      | none => return .flags
      | some (add, remove) => return .plain add remove
    else Reader.refuse (.unknownExtension token) (token.length + 1)

/-- The node of an escape outside of sets. -/
def Escaped.node : Escaped → Node
  | .code point => .literal point
  | .category kind negated => .set false [.category kind negated]
  | .anchor place => .anchor place
  | .reference number => .reference number

/-- The end of a group. -/
def closeParenthesis (start : Nat) : Reader Unit := do
  if !(← Reader.accept ")") then Reader.refuseAt .unterminatedGroup start

/-- Whether a token is skipped in a verbose pattern. -/
def isLayout (token : String) : Bool :=
  token == " " || token == "\t" || token == "\n" || token == "\r" || token == "\x0b" ||
    token == "\x0c"

mutual

/-- Read a choice; `outermost` is true outside of all groups, where flags for the whole pattern may
stand at the start. -/
def readChoice : Nat → Bool → Bool → List Expression → Reader Expression
  | 0, _, _, options => return ofOptions options
  | fuel + 1, verbose, outermost, options => do
    let option ← readSequence fuel verbose (outermost && options.isEmpty) []
    let options := options ++ [option]
    if ← Reader.accept "|" then
      let flags := (← get).flags
      readChoice fuel (if outermost then flags.verbose else verbose) outermost options
    else return ofOptions options

/-- Read a sequence; `sequence` holds the nodes that have been read, last first. -/
def readSequence : Nat → Bool → Bool → List Node → Reader Expression
  | 0, _, _, sequence => return dissolve sequence.reverse
  | fuel + 1, verbose, first, sequence => do
    match ← Reader.next? with
    | none => return dissolve sequence.reverse
    | some token =>
      if token == "|" || token == ")" then return dissolve sequence.reverse
      let _ ← Reader.take?
      if verbose && isLayout token then readSequence fuel verbose first sequence
      else if verbose && token == "#" then
        skipLine ((← get).tokens.length + 1)
        readSequence fuel verbose first sequence
      else match token.toList with
        | '\\' :: _ =>
          let escaped ← readEscape token
          readSequence fuel verbose first (escaped.node :: sequence)
        | ['['] => readSequence fuel verbose first ((← readSet) :: sequence)
        | ['.'] => readSequence fuel verbose first (.any :: sequence)
        | ['^'] => readSequence fuel verbose first (.anchor .lineStart :: sequence)
        | ['$'] => readSequence fuel verbose first (.anchor .lineEnd :: sequence)
        | ['('] => readGroup fuel verbose first sequence
        | [c] =>
          if c == '*' || c == '+' || c == '?' || c.toNat = 123 then
            readSequence fuel verbose first (← readRepetition token sequence)
          else readSequence fuel verbose first (.literal c.toNat :: sequence)
        | _ => readSequence fuel verbose first sequence

/-- Read a group after its parenthesis, and the sequence after it. -/
def readGroup : Nat → Bool → Bool → List Node → Reader Expression
  | 0, _, _, sequence => return dissolve sequence.reverse
  | fuel + 1, verbose, first, sequence => do
    let start := (← Reader.place) - 1
    match ← readOpening start with
    | .nothing => readSequence fuel verbose first sequence
    | .node node => readSequence fuel verbose first (node :: sequence)
    | .flags =>
      if !first || !sequence.isEmpty then Reader.refuseAt .lateFlags start
      let verbose := (← get).flags.verbose
      readSequence fuel verbose first sequence
    | .capturing name =>
      let number ← Reader.openGroup name
      let body ← readChoice fuel verbose false []
      closeParenthesis start
      Reader.closeGroup number (body.width (← Reader.groupWidths))
      readSequence fuel verbose first (.group (some number) Flags.none Flags.none body :: sequence)
    | .plain add remove =>
      let inner := (verbose || add.verbose) && !remove.verbose
      let body ← readChoice fuel inner false []
      closeParenthesis start
      readSequence fuel verbose first (.group none add remove body :: sequence)
    | .atomic =>
      let body ← readChoice fuel verbose false []
      closeParenthesis start
      readSequence fuel verbose first (.atomic body :: sequence)
    | .look ahead wanted =>
      let outer := (← get).lookbehind
      if !ahead && outer.isNone then
        modify fun cursor => { cursor with lookbehind := some cursor.groups.length }
      let body ← readChoice fuel verbose false []
      if !ahead && outer.isNone then modify fun cursor => { cursor with lookbehind := none }
      closeParenthesis start
      let widths ← Reader.groupWidths
      let behind := if ahead then none else some (body.width widths)
      readSequence fuel verbose first (.look behind wanted body :: sequence)
    | .conditional =>
      let number ← readCondition
      let yes ← readSequence fuel verbose false []
      let no ←
        if ← Reader.accept "|" then
          let no ← readSequence fuel verbose false []
          if (← Reader.next?) == some "|" then Reader.refuse .tooManyBranches 0
          pure no
        else pure []
      closeParenthesis start
      readSequence fuel verbose first (.conditional number yes no :: sequence)

end

/-- A pattern that has been read: the expression, the flags of the whole, the number of groups with
their widths, and the names of groups. -/
structure Reading where
  expression : Expression
  flags : Flags
  widths : List (Option Width)
  names : List (String × Nat)
  deriving Inhabited

/-- Read a whole pattern. -/
def readPattern : Reader Reading := do
  Reader.checkEnd
  let size := (← get).tokens.length
  let expression ← readChoice (4 * size + 8) false true []
  let flags := (← get).flags
  if flags.ascii && flags.unicode then throw .mixedTypes
  if (← Reader.next?).isSome then Reader.refuse .unbalanced 0
  let cursor ← get
  for (number, place) in cursor.references do
    if cursor.groups.length < number then Reader.refuseAt (.invalidReference number) place
  return ⟨expression, cursor.flags, cursor.groups, cursor.names⟩

/-- The repetitions have operators with names. -/
def Greed.operator : Greed → String
  | .greedy => "MAX_REPEAT"
  | .lazy => "MIN_REPEAT"
  | .possessive => "POSSESSIVE_REPEAT"

mutual

/-- Checks that need the whole pattern: look-behinds match a fixed number of characters, and a
template repeats nothing. -/
def Node.check (template : Bool) : Node → Except Complaint Unit
  | .branch options => checkAny template options
  | .group _ _ _ body => checkAll template body
  | .atomic body => checkAll template body
  | .look none _ body => checkAll template body
  | .look (some width) _ body =>
    if repetitionLimit < width.1 then .error (.malformed .lookbehindTooFar none)
    else if width.1 ≠ width.2 then .error (.malformed .lookbehindNotFixed none)
    else checkAll template body
  | .conditional _ yes no => do
    checkAll template yes
    checkAll template no
  | .repetition greed _ _ body =>
    if template then .error (.malformed (.repeatInTemplate greed.operator) none)
    else checkAll template body
  | _ => .ok ()

def checkAll (template : Bool) : List Node → Except Complaint Unit
  | [] => .ok ()
  | node :: rest => do
    node.check template
    checkAll template rest

def checkAny (template : Bool) : List (List Node) → Except Complaint Unit
  | [] => .ok ()
  | option :: rest => do
    checkAll template option
    checkAny template rest

end

namespace Reading

/-- Read and check a pattern. -/
def ofString (pattern : String) : Except Complaint Reading := do
  let (tokens, dangling) := tokensOf pattern.toList
  let (reading, _) ← readPattern.run
    ⟨tokens, dangling, 0, pattern.length, Flags.none, [], [], none, []⟩
  checkAll reading.flags.template reading.expression
  return reading

end Reading
end Pattern
end ClassLoom
