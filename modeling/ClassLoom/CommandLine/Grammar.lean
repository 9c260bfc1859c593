import ClassLoom.Config.Value
import ClassLoom.Text.Digit

namespace ClassLoom
namespace CommandLine

/-!
# What a command line may hold

A grammar lists the options and the operands of a command.  Words are marked before any of them is
used: a word is an operand, or it spells an option, or it is the two hyphens after which every word
is an operand.  An option may be spelled by any beginning of a long name that fits no other name,
its argument may follow an equals sign, and short options may be written together.
-/

/-- What an option does.  A valued option takes one argument, out of some choices if there are any;
a repeatable one takes one argument each time that it is given. -/
inductive Effect where
  | help
  | version
  | flag
  | valued (choices : List String)
  | repeatable
  deriving Repr, DecidableEq, Inhabited

/-- An option: its names, the key under which it is kept, and its effect. -/
structure Switch where
  names : List String
  key : String
  effect : Effect
  deriving Repr, DecidableEq, Inhabited

/-- Whether an option takes an argument. -/
def Switch.takesArgument (switch : Switch) : Bool :=
  match switch.effect with
  | .valued _ => true
  | .repeatable => true
  | _ => false

/-- Which words an operand takes: one, one if there is one, or every word that is left, where there
must be one. -/
inductive Arity where
  | one | optional | rest
  deriving Repr, DecidableEq, Inhabited

/-- An operand: the key under which it is kept, the name that complaints give it, and its arity. -/
structure Operand where
  key : String
  shown : String
  arity : Arity
  deriving Repr, DecidableEq, Inhabited

/-- The options and operands of a command, with its name, its usage and its help. -/
structure Grammar where
  program : String
  switches : List Switch
  operands : List Operand
  usage : List String
  help : List String
  deriving Inhabited

namespace Grammar

/-- Every name with its option. -/
def names (grammar : Grammar) : List (String × Switch) :=
  grammar.switches.flatMap fun switch => switch.names.map fun name => (name, switch)

/-- The option of a name. -/
def switch? (grammar : Grammar) (name : String) : Option Switch := grammar.names.lookup name

end Grammar

/-- What is wrong with a command line. -/
inductive Complaint where
  | ambiguous (word : String) (names : List String)
  | noArgument (name : String)
  | needlessArgument (name argument : String)
  | invalidChoice (name choice : String) (choices : List String)
  | missing (names : List String)
  | unrecognized (words : List String)
  deriving Repr, DecidableEq, Inhabited

namespace Complaint

/-- A complaint about an argument. -/
def about (name text : String) : String := "argument " ++ name ++ ": " ++ text

def message : Complaint → String
  | .ambiguous word names =>
    "ambiguous option: " ++ word ++ " could match " ++ Text.joined ", " names
  | .noArgument name => about name "expected one argument"
  | .needlessArgument name argument =>
    about name ("ignored explicit argument " ++ Text.quoted argument)
  | .invalidChoice name choice choices =>
    about name ("invalid choice: " ++ Text.quoted choice ++ " (choose from " ++
      Text.joined ", " (choices.map Text.quoted) ++ ")")
  | .missing names => "the following arguments are required: " ++ Text.joined ", " names
  | .unrecognized words => "unrecognized arguments: " ++ Text.joined " " words

end Complaint

/-- Why a command line is not used: it asks for a text, or a command complains about it. -/
inductive Halt where
  | shown (text : String)
  | refused (grammar : Grammar) (complaint : Complaint)
  deriving Inhabited

/-! ## Marking words -/

/-- A word that spells an option: the option, unless it is unknown, under one of its names, and the
argument in the word, if there is one, with whether it follows an equals sign. -/
structure Spelling where
  switch : Option Switch
  name : String
  separated : Bool
  attached : Option String
  deriving Repr, DecidableEq, Inhabited

/-- How a word is taken. -/
inductive Mark where
  | operand
  | separator
  | option (spelling : Spelling)
  deriving Repr, DecidableEq, Inhabited

/-- A word cut at its first equals sign. -/
def cutAtEquals (word : String) : String × Option String :=
  let name := word.toList.takeWhile (· != '=')
  if name.length = word.length then (word, none)
  else (String.ofList name, some (String.ofList (word.toList.drop (name.length + 1))))

/-- Whether a text starts with another one. -/
def beginsWith (start text : String) : Bool := start.toList.isPrefixOf text.toList

/-- Every way to read a word as an abbreviated option or as a short option with its argument. -/
def Grammar.readings (grammar : Grammar) (word : String) : List Spelling :=
  match word.toList with
  | '-' :: '-' :: _ =>
    let (start, attached) := cutAtEquals word
    grammar.names.filterMap fun (name, switch) =>
      if beginsWith start name then some ⟨some switch, name, attached.isSome, attached⟩ else none
  | first :: second :: rest =>
    grammar.names.filterMap fun (name, switch) =>
      if name == String.ofList [first, second] then
        some ⟨some switch, name, false, some (String.ofList rest)⟩
      else if beginsWith word name then some ⟨some switch, name, false, none⟩
      else none
  | _ => []

/-- Whether a text is a whole number or a number with digits after a point; a line feed at the very
end does no harm. -/
def isPlainNumber (text : List Char) : Bool :=
  let text := if text.getLast? == some '\n' then text.dropLast else text
  let whole := text.takeWhile Text.isDecimal
  match text.dropWhile Text.isDecimal with
  | [] => !whole.isEmpty
  | '.' :: fraction => !fraction.isEmpty && fraction.all Text.isDecimal
  | _ => false

/-- The mark of a word that stands before any separator. -/
def Grammar.mark (grammar : Grammar) (word : String) : Except Complaint Mark :=
  match word.toList with
  | '-' :: second :: rest =>
    if word == "--" then .ok .separator
    else match grammar.switch? word, cutAtEquals word with
      | some switch, _ => .ok (.option ⟨some switch, word, false, none⟩)
      | none, (name, attached) =>
        match attached.bind fun _ => grammar.switch? name with
        | some switch => .ok (.option ⟨some switch, name, true, attached⟩)
        | none =>
          match grammar.readings word with
          | [spelling] => .ok (.option spelling)
          | [] =>
            if isPlainNumber (second :: rest) || word.toList.contains ' ' then .ok .operand
            else .ok (.option ⟨none, word, false, none⟩)
          | spellings => .error (.ambiguous word (spellings.map (·.name)))
  | _ => .ok .operand

/-- The marks of words; after the separator every word is an operand. -/
def Grammar.marks (grammar : Grammar) : List String → Except Complaint (List (String × Mark))
  | [] => .ok []
  | word :: rest => do
    match ← grammar.mark word with
    | .separator => return (word, .separator) :: rest.map fun word => (word, .operand)
    | mark => return (word, mark) :: (← grammar.marks rest)

end CommandLine
end ClassLoom
