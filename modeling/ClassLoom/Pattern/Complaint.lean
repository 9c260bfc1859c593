import ClassLoom.Text.Quoted

namespace ClassLoom
namespace Pattern

/-!
# Complaints about a pattern

A pattern that is not well formed is refused with a cause and the place where reading stopped.  The
place is a count of characters; for a pattern of several lines it is also given as line and column.
-/

/-- What is wrong with a pattern. -/
inductive Cause where
  | danglingEscape
  | badEscape (escape : String)
  | incompleteEscape (escape : String)
  | octalOutOfRange (escape : String)
  | braceMissing
  | nameMissing (what : String)
  | unterminatedName (terminator : String)
  | undefinedCharacter (name : String)
  | badGroupName (name : String)
  | redefinedGroup (name : String) (number first : Nat)
  | unknownGroup (name : String)
  | openGroup
  | groupOfLookbehind
  | invalidReference (number : Nat)
  | badGroupNumber
  | unterminatedSet
  | badRange (first last : String)
  | boundsReversed
  | nothingToRepeat
  | multipleRepeat
  | unexpectedEnd
  | unknownExtension (text : String)
  | unterminatedComment
  | unterminatedGroup
  | tooManyBranches
  | lateFlags
  | unbalanced
  | localeFlag
  | incompatibleFlags
  | flagEndMissing
  | unknownFlag
  | flagMissing
  | colonMissing
  | globalTurnedOn
  | globalTurnedOff
  | typeTurnedOff
  | onAndOff
  | lookbehindNotFixed
  | lookbehindTooFar
  | repeatInTemplate (operator : String)
  deriving Repr, DecidableEq, Inhabited

namespace Cause

def message : Cause → String
  | .danglingEscape => "bad escape (end of pattern)"
  | .badEscape escape => "bad escape " ++ escape
  | .incompleteEscape escape => "incomplete escape " ++ escape
  | .octalOutOfRange escape => "octal escape value " ++ escape ++ " outside of range 0-0o377"
  | .braceMissing => "missing \x7b"
  | .nameMissing what => "missing " ++ what
  | .unterminatedName terminator => "missing " ++ terminator ++ ", unterminated name"
  | .undefinedCharacter name => "undefined character name " ++ Text.quoted name
  | .badGroupName name => "bad character in group name " ++ Text.quoted name
  | .redefinedGroup name number first =>
    "redefinition of group name " ++ Text.quoted name ++ " as group " ++ toString number ++
      "; was group " ++ toString first
  | .unknownGroup name => "unknown group name " ++ Text.quoted name
  | .openGroup => "cannot refer to an open group"
  | .groupOfLookbehind => "cannot refer to group defined in the same lookbehind subpattern"
  | .invalidReference number => "invalid group reference " ++ toString number
  | .badGroupNumber => "bad group number"
  | .unterminatedSet => "unterminated character set"
  | .badRange first last => "bad character range " ++ first ++ "-" ++ last
  | .boundsReversed => "min repeat greater than max repeat"
  | .nothingToRepeat => "nothing to repeat"
  | .multipleRepeat => "multiple repeat"
  | .unexpectedEnd => "unexpected end of pattern"
  | .unknownExtension text => "unknown extension ?" ++ text
  | .unterminatedComment => "missing ), unterminated comment"
  | .unterminatedGroup => "missing ), unterminated subpattern"
  | .tooManyBranches => "conditional backref with more than two branches"
  | .lateFlags => "global flags not at the start of the expression"
  | .unbalanced => "unbalanced parenthesis"
  | .localeFlag => "bad inline flags: cannot use 'L' flag with a str pattern"
  | .incompatibleFlags => "bad inline flags: flags 'a', 'u' and 'L' are incompatible"
  | .flagEndMissing => "missing -, : or )"
  | .unknownFlag => "unknown flag"
  | .flagMissing => "missing flag"
  | .colonMissing => "missing :"
  | .globalTurnedOn => "bad inline flags: cannot turn on global flag"
  | .globalTurnedOff => "bad inline flags: cannot turn off global flag"
  | .typeTurnedOff => "bad inline flags: cannot turn off flags 'a', 'u' and 'L'"
  | .onAndOff => "bad inline flags: flag turned on and off"
  | .lookbehindNotFixed => "look-behind requires fixed-width pattern"
  | .lookbehindTooFar => "looks too much behind"
  | .repeatInTemplate operator => "internal: unsupported template operator " ++ operator

end Cause

/-- Why a pattern is refused: a cause, with its place if it has one, a bound on repetitions that no
machine word holds, or flags for the whole pattern that exclude each other. -/
inductive Complaint where
  | malformed (cause : Cause) (place : Option Nat)
  | repetitionTooLarge
  | mixedTypes
  deriving Repr, DecidableEq, Inhabited

/-- Line and column of a place, both counted from one. -/
def lineAndColumn (pattern : List Char) (place : Nat) : Nat × Nat :=
  let before := pattern.take place
  ((before.filter (· == '\n')).length + 1, (before.reverse.takeWhile (· != '\n')).length + 1)

/-- The wording of a complaint about a pattern. -/
def Complaint.message (pattern : String) : Complaint → String
  | .repetitionTooLarge => "the repetition number is too large"
  | .mixedTypes => "ASCII and UNICODE flags are incompatible"
  | .malformed cause none => cause.message
  | .malformed cause (some place) =>
    let characters := pattern.toList
    let (line, column) := lineAndColumn characters place
    cause.message ++ " at position " ++ toString place ++
      (if characters.contains '\n' then
        " (line " ++ toString line ++ ", column " ++ toString column ++ ")"
      else "")

end Pattern
end ClassLoom
