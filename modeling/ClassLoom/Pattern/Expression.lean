namespace ClassLoom
namespace Pattern

/-!
# Regular expressions

An expression is a sequence of nodes.  Characters are code points here, because a pattern may name
code points that no text holds.
-/

/-- What changes the meaning of an expression.  `ascii` and `unicode` exclude each other, and the
latter is what holds if neither is asked for. -/
structure Flags where
  ignoreCase : Bool
  multiline : Bool
  dotAll : Bool
  verbose : Bool
  ascii : Bool
  unicode : Bool
  template : Bool
  deriving Repr, DecidableEq, Inhabited

namespace Flags

def none : Flags := ⟨false, false, false, false, false, false, false⟩

/-- The flag of a letter; `L` is a letter without a flag. -/
def ofLetter? : Char → Option Flags
  | 'i' => some { none with ignoreCase := true }
  | 'm' => some { none with multiline := true }
  | 's' => some { none with dotAll := true }
  | 'x' => some { none with verbose := true }
  | 'a' => some { none with ascii := true }
  | 'u' => some { none with unicode := true }
  | 't' => some { none with template := true }
  | 'L' => some none
  | _ => Option.none

/-- What holds in one or the other. -/
def union (a b : Flags) : Flags :=
  ⟨a.ignoreCase || b.ignoreCase, a.multiline || b.multiline, a.dotAll || b.dotAll,
    a.verbose || b.verbose, a.ascii || b.ascii, a.unicode || b.unicode, a.template || b.template⟩

/-- What holds in the first and not in the second. -/
def without (a b : Flags) : Flags :=
  ⟨a.ignoreCase && !b.ignoreCase, a.multiline && !b.multiline, a.dotAll && !b.dotAll,
    a.verbose && !b.verbose, a.ascii && !b.ascii, a.unicode && !b.unicode,
    a.template && !b.template⟩

/-- What holds in both. -/
def common (a b : Flags) : Flags := a.without (a.without b)

/-- Whether a flag says which characters are letters. -/
def hasType (flags : Flags) : Bool := flags.ascii || flags.unicode

/-- The flags inside a group that turns some on and some off. -/
def inside (flags add remove : Flags) : Flags :=
  let flags := if add.hasType then { flags with ascii := false, unicode := false } else flags
  (flags.union add).without remove

end Flags

/-- Classes of characters. -/
inductive Category where
  | digit | space | word
  deriving Repr, DecidableEq, Inhabited

/-- A part of a character set. -/
inductive SetItem where
  | single (code : Nat)
  | range (first last : Nat)
  | category (category : Category) (negated : Bool)
  deriving Repr, DecidableEq, Inhabited

/-- Places in a text that an expression can ask for. -/
inductive Anchor where
  | lineStart | textStart | lineEnd | textEnd | boundary | noBoundary
  deriving Repr, DecidableEq, Inhabited

/-- How a repetition chooses between more and fewer rounds. -/
inductive Greed where
  | greedy | lazy | possessive
  deriving Repr, DecidableEq, Inhabited

/-- The parts of expressions. -/
inductive Node where
  | literal (code : Nat)
  | notLiteral (code : Nat)
  | set (negated : Bool) (items : List SetItem)
  | any
  | anchor (place : Anchor)
  | branch (options : List (List Node))
  | group (number : Option Nat) (add remove : Flags) (body : List Node)
  | atomic (body : List Node)
  /-- A look at what follows, or at as many characters before as `behind` says. -/
  | look (behind : Option (Nat × Nat)) (wanted : Bool) (body : List Node)
  | reference (group : Nat)
  | conditional (group : Nat) (yes no : List Node)
  | repetition (greed : Greed) (least : Nat) (most : Option Nat) (body : List Node)
  deriving Repr, Inhabited

/-- Nodes in sequence. -/
abbrev Expression := List Node

/-- The least and the greatest number of characters that something matches. -/
abbrev Width := Nat × Nat

namespace Width

/-- No width is greater than this. -/
def limit : Nat := Nat.pow 2 64

def add (a b : Width) : Width := (a.1 + b.1, a.2 + b.2)

def either (a b : Width) : Width := (min a.1 b.1, max a.2 b.2)

def capped (a : Width) : Width := (min a.1 limit, min a.2 limit)

/-- The width of a number of rounds. -/
def times (a : Width) (least : Nat) (most : Option Nat) : Width :=
  (a.1 * least, match most with
    | some most => a.2 * most
    | none => if a.2 = 0 then 0 else limit)

end Width

mutual

/-- The width of a node, given the widths of the groups that can be referred to. -/
def Node.width (groups : Nat → Width) : Node → Width
  | .literal _ => (1, 1)
  | .notLiteral _ => (1, 1)
  | .set _ _ => (1, 1)
  | .any => (1, 1)
  | .anchor _ => (0, 0)
  | .branch options => widthOfAny groups options
  | .group _ _ _ body => (widthOfAll groups body).capped
  | .atomic body => (widthOfAll groups body).capped
  | .look _ _ _ => (0, 0)
  | .reference group => groups group
  | .conditional _ yes no => (widthOfAll groups yes).capped.either (widthOfAll groups no).capped
  | .repetition _ least most body => (widthOfAll groups body).capped.times least most

/-- The width of a sequence. -/
def widthOfAll (groups : Nat → Width) : List Node → Width
  | [] => (0, 0)
  | node :: rest => (node.width groups).add (widthOfAll groups rest)

/-- The width of alternatives. -/
def widthOfAny (groups : Nat → Width) : List (List Node) → Width
  | [] => (Width.limit, 0)
  | option :: rest => (widthOfAll groups option).capped.either (widthOfAny groups rest)

end

/-- The width of an expression. -/
def Expression.width (groups : Nat → Width) (expression : Expression) : Width :=
  (widthOfAll groups expression).capped

end Pattern
end ClassLoom
