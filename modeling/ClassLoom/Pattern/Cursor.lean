import ClassLoom.Pattern.Complaint
import ClassLoom.Pattern.Expression

namespace ClassLoom
namespace Pattern

/-!
# Going through a pattern

A pattern is read one token at a time: a token is a character, or a backslash with the character
after it.  A backslash at the very end is noticed as soon as it is the next token.  Besides the
tokens that are left, the cursor carries what has been learnt: flags, groups with their widths, and
their names.
-/

/-- Cut a pattern into tokens; the flag says that a lone backslash is left over. -/
def tokensOf : List Char → List String × Bool
  | [] => ([], false)
  | ['\\'] => ([], true)
  | '\\' :: c :: rest =>
    let (tokens, dangling) := tokensOf rest
    (String.ofList ['\\', c] :: tokens, dangling)
  | c :: rest =>
    let (tokens, dangling) := tokensOf rest
    (String.singleton c :: tokens, dangling)

/-- The state of reading. -/
structure Cursor where
  tokens : List String
  dangling : Bool
  /-- The place of the next token. -/
  place : Nat
  /-- The length of the pattern. -/
  size : Nat
  flags : Flags
  /-- The widths of the groups, from the first on; an open group has none yet. -/
  groups : List (Option Width)
  names : List (String × Nat)
  /-- Inside a look-behind, the number of groups that were there before it. -/
  lookbehind : Option Nat
  /-- Group numbers that conditions refer to, with the place of the first reference. -/
  references : List (Nat × Nat)
  deriving Inhabited

/-- A step of reading. -/
abbrev Reader := StateT Cursor (Except Complaint)

namespace Reader

/-- Refuse at a place. -/
def refuseAt {α : Type} (cause : Cause) (place : Nat) : Reader α :=
  throw (.malformed cause (some place))

/-- Refuse a number of characters before the next token. -/
def refuse {α : Type} (cause : Cause) (back : Nat) : Reader α := do
  refuseAt cause ((← get).place - back)

/-- The next token. -/
def next? : Reader (Option String) := do return (← get).tokens.head?

/-- The place of the next token. -/
def place : Reader Nat := do return (← get).place

/-- Check that the next token is not a lone backslash. -/
def checkEnd : Reader Unit := do
  let cursor ← get
  if cursor.tokens.isEmpty && cursor.dangling then
    refuseAt .danglingEscape (cursor.size - 1)

/-- Take the next token. -/
def take? : Reader (Option String) := do
  let cursor ← get
  match cursor.tokens with
  | [] => return none
  | token :: rest =>
    set { cursor with tokens := rest, place := cursor.place + token.length }
    checkEnd
    return some token

/-- Take the next token if it is a given one. -/
def accept (token : String) : Reader Bool := do
  if (← next?) == some token then
    let _ ← take?
    return true
  else return false

/-- Take at most a number of tokens that are characters of a kind. -/
def takeWhile (kind : Char → Bool) : Nat → Reader String
  | 0 => return ""
  | count + 1 => do
    match ← next? with
    | some token =>
      match token.toList with
      | [c] =>
        if kind c then
          let _ ← take?
          return token ++ (← takeWhile kind count)
        else return ""
      | _ => return ""
    | none => return ""

/-- Take a name up to a terminator. -/
def takeName (terminator what : String) : Reader String := do
  go ((← get).tokens.length + 1) ""
where
  go : Nat → String → Reader String
    | 0, name => return name
    | fuel + 1, name => do
      match ← take? with
      | none =>
        if name.isEmpty then refuse (.nameMissing what) 0
        else refuse (.unterminatedName terminator) name.length
      | some token =>
        if token == terminator then
          if name.isEmpty then refuse (.nameMissing what) 1 else return name
        else go fuel (name ++ token)

/-- Open a group and answer its number. -/
def openGroup (name : Option String) : Reader Nat := do
  let cursor ← get
  let number := cursor.groups.length + 1
  match name with
  | none => set { cursor with groups := cursor.groups ++ [none] }
  | some name =>
    match cursor.names.lookup name with
    | some first => refuse (.redefinedGroup name number first) (name.length + 1)
    | none =>
      set { cursor with
        groups := cursor.groups ++ [none], names := cursor.names ++ [(name, number)] }
  return number

/-- Close a group. -/
def closeGroup (number : Nat) (width : Width) : Reader Unit :=
  modify fun cursor => { cursor with groups := cursor.groups.set (number - 1) (some width) }

/-- The width of a group, if it is closed. -/
def groupWidth? (number : Nat) : Reader (Option Width) := do
  let groups := (← get).groups
  return if number = 0 then none else (groups[number - 1]?).join

/-- The widths of all groups. -/
def groupWidths : Reader (Nat → Width) := do
  let groups := (← get).groups
  return fun number => (groups[number - 1]?.join).getD (0, 0)

/-- Inside a look-behind only groups from before it can be referred to. -/
def checkLookbehind (number : Nat) : Reader Unit := do
  match (← get).lookbehind with
  | none => return
  | some before =>
    if (← groupWidth? number).isNone then refuse .openGroup 0
    if before < number then refuse .groupOfLookbehind 0

end Reader
end Pattern
end ClassLoom
