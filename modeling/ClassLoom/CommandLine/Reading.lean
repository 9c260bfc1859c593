import ClassLoom.CommandLine.Grammar

namespace ClassLoom
namespace CommandLine

/-!
# Reading a command line

Marked words are read from the left.  Operands are taken as far as the words before the next option
go, each as soon as it can be, so an optional operand that finds no word is not waited for.  Words
that nothing takes are kept aside.
-/

open Config (Value Mapping)

/-- A word with its mark. -/
abbrev Marked := String × Mark

/-- What has been read: the values by key, the words that the last operand took, the words that
nothing took, and the operands that are still open. -/
structure Reading where
  values : Mapping
  rest : List String
  extras : List String
  waiting : List Operand
  deriving Inhabited

/-! ## Operands -/

/-- How many words an operand takes at the front, if it can be taken. -/
def Operand.width? (operand : Operand) (words : List Marked) : Option Nat :=
  let separators := (words.takeWhile fun word => word.2 = .separator).length
  let after := words.drop separators
  let found := match after with
    | (_, .operand) :: _ => true
    | _ => false
  let closing := ((after.drop 1).takeWhile fun word => word.2 = .separator).length
  match operand.arity, found with
  | .rest, true => some words.length
  | _, true => some (separators + 1 + closing)
  | .optional, false => some separators
  | _, false => none

/-- The words of an operand without the first separator. -/
def withoutSeparator (words : List String) : List String := words.erase "--"

/-- Keep the words of an operand. -/
def Reading.takeOperand (reading : Reading) (operand : Operand) (words : List String) : Reading :=
  match operand.arity, withoutSeparator words with
  | .rest, _ => { reading with rest := words }
  | .optional, [] =>
    { reading with values := Value.insert reading.values (.text operand.key) .null }
  | _, [word] =>
    { reading with values := Value.insert reading.values (.text operand.key) (.text word) }
  | _, words =>
    { reading with
      values := Value.insert reading.values (.text operand.key) (.list (words.map .text)) }

/-- Take operands at the front, one after the other; the answer has the number of words taken. -/
def takeOperands (words : List Marked) : List Operand → Reading → Reading × Nat
  | [], reading => ({ reading with waiting := [] }, 0)
  | operand :: others, reading =>
    match operand.width? words with
    | none => ({ reading with waiting := operand :: others }, 0)
    | some width =>
      let reading := reading.takeOperand operand ((words.take width).map (·.1))
      let (reading, count) := takeOperands (words.drop width) others reading
      (reading, width + count)

/-! ## Options -/

/-- The uses that one word makes of options, and what is left of it. -/
structure Uses where
  uses : List (Switch × Option String)
  leftover : List String
  /-- Whether the last use took the next word as its argument. -/
  tookNext : Bool
  deriving Inhabited

/-- How complaints name an option. -/
def Switch.shown (switch : Switch) : String := "/".intercalate switch.names

/-- Whether a name has a single hyphen. -/
def isShort (name : String) : Bool :=
  match name.toList with
  | _ :: second :: _ => second != '-'
  | _ => false

/-- An option without an argument of its own in the word takes the next word, if it needs one. -/
def useOfNext (switch : Switch) (next : Option String) : Except Complaint Uses :=
  if switch.takesArgument then
    match next with
    | some argument => .ok ⟨[(switch, some argument)], [], true⟩
    | none => .error (.noArgument switch.shown)
  else .ok ⟨[(switch, none)], [], false⟩

/-- The uses of a word that goes on after a short option: the rest is the option's argument, or it
holds further short options. -/
def usesOfShort (grammar : Grammar) (next : Option String) :
    Switch → Bool → List Char → Except Complaint Uses
  | switch, separated, text => do
    if switch.takesArgument then return ⟨[(switch, some (String.ofList text))], [], false⟩
    match text with
    | [] => throw (.needlessArgument switch.shown "")
    | letter :: rest =>
      if separated || letter == '-' then
        throw (.needlessArgument switch.shown (String.ofList text))
      match grammar.switch? (String.ofList ['-', letter]) with
      | none => return ⟨[(switch, none)], [String.ofList ('-' :: text)], false⟩
      | some following =>
        let others ← match rest with
          | [] => useOfNext following next
          | '=' :: argument => usesOfShort grammar next following true argument
          | rest => usesOfShort grammar next following false rest
        return { others with uses := (switch, none) :: others.uses }
  termination_by _ _ text => text.length
  decreasing_by all_goals simp_all +arith

/-- The uses of a word that spells an option. -/
def usesOf (grammar : Grammar) (word : String) (spelling : Spelling) (next : Option String) :
    Except Complaint Uses :=
  match spelling.switch, spelling.attached with
  | none, _ => .ok ⟨[], [word], false⟩
  | some switch, none => useOfNext switch next
  | some switch, some argument =>
    if switch.takesArgument then .ok ⟨[(switch, some argument)], [], false⟩
    else if isShort spelling.name then
      usesOfShort grammar next switch spelling.separated argument.toList
    else .error (.needlessArgument switch.shown argument)

/-- The text of several lines. -/
def textOf (lines : List String) : String := String.join (lines.map (· ++ "\n"))

/-- Use an option. -/
def Reading.use (grammar : Grammar) (version : String) (reading : Reading) :
    Switch × Option String → Except Halt Reading
  | (switch, argument) =>
    let keep := fun value =>
      { reading with values := Value.insert reading.values (.text switch.key) value }
    let argument := argument.getD ""
    match switch.effect with
    | .help => .error (.shown (textOf (grammar.usage ++ grammar.help)))
    | .version => .error (.shown (textOf [version]))
    | .flag => .ok (keep (.boolean true))
    | .repeatable =>
      match Value.field reading.values switch.key with
      | .list earlier => .ok (keep (.list (earlier ++ [.text argument])))
      | _ => .ok (keep (.list [.text argument]))
    | .valued choices =>
      if choices.isEmpty || choices.contains argument then .ok (keep (.text argument))
      else .error (.refused grammar (.invalidChoice switch.shown argument choices))

/-! ## The whole line -/

/-- Whether a word spells an option. -/
def isOption (word : Marked) : Bool :=
  match word.2 with
  | .option _ => true
  | _ => false

/-- The word after an option, if it can be an argument. -/
def argumentOf : List Marked → Option String
  | (word, .operand) :: _ => some word
  | _ => none

/-- Read an option at the front; the answer has the number of words taken. -/
def Reading.takeOption (grammar : Grammar) (version : String) (reading : Reading) (word : String)
    (spelling : Spelling) (following : List Marked) : Except Halt (Reading × Nat) := do
  let found ← (usesOf grammar word spelling (argumentOf following)).mapError (.refused grammar)
  let reading ← found.uses.foldlM (Reading.use grammar version)
    { reading with extras := reading.extras ++ found.leftover }
  return (reading, if found.tookNext then 2 else 1)

/-- Read words; each round takes at least one of them, so as many rounds as words are enough. -/
def readRounds (grammar : Grammar) (version : String) :
    Nat → List Marked → Reading → Except Halt Reading
  | 0, words, reading => .ok { reading with extras := reading.extras ++ words.map (·.1) }
  | rounds + 1, words, reading => do
    match words with
    | (word, .option spelling) :: following =>
      let (reading, count) ← reading.takeOption grammar version word spelling following
      readRounds grammar version rounds (words.drop count) reading
    | words =>
      let (reading, count) := takeOperands words reading.waiting reading
      let left := words.drop count
      if left.any isOption && count = 0 then
        let reading :=
          { reading with
            extras := reading.extras ++ (left.takeWhile fun word => !isOption word).map (·.1) }
        readRounds grammar version rounds (left.dropWhile fun word => !isOption word) reading
      else if left.any isOption then readRounds grammar version rounds left reading
      else return { reading with extras := reading.extras ++ left.map (·.1) }

/-- The names of operands that are still needed. -/
def Reading.missing (reading : Reading) : List String :=
  (reading.waiting.filter fun operand => operand.arity != .optional).map (·.shown)

/-- Read the words of a command. -/
def Grammar.read (grammar : Grammar) (version : String) (words : List String) :
    Except Halt Reading := do
  let marked ← (grammar.marks words).mapError (.refused grammar)
  let reading ← readRounds grammar version (words.length + 1) marked ⟨[], [], [], grammar.operands⟩
  if !reading.missing.isEmpty then throw (.refused grammar (.missing reading.missing))
  return reading

end CommandLine
end ClassLoom
