import ClassLoom.Pattern.Expression
import ClassLoom.Text.Digit
import ClassLoom.Text.SharedCapital
import ClassLoom.Text.Word

namespace ClassLoom
namespace Pattern

/-!
# Matching

What a node matches from a place is the list of all ways to match it there, in the order in which
they are to be tried.  A way is told by the place where it ends and by what groups have captured;
of equal ways only the first is kept, since what follows could not tell them apart.  A pattern is
found in a text if it has a way at some place.

The list is finite because a repetition goes on after its least number of rounds only if the last
round moved forward.
-/

/-- The end of a way to match: the place, and where closed groups start and end. -/
structure Way where
  place : Nat
  captures : List (Nat × Nat × Nat)
  deriving Repr, DecidableEq, Inhabited

/-- What a group has captured. -/
def Way.capture? (way : Way) (group : Nat) : Option (Nat × Nat) := way.captures.lookup group

/-- Close a group that started at a place. -/
def Way.close (way : Way) (group start : Nat) : Way :=
  { way with
    captures := (group, start, way.place) :: way.captures.filter fun entry => entry.1 ≠ group }

/-- The text that is searched. -/
abbrev Subject := Array Char

/-! ## Single characters -/

/-- The small form of a code point; only ASCII letters have one if letters are ASCII. -/
def smallCode (flags : Flags) (code : Nat) : Nat :=
  if flags.ascii then (if 65 ≤ code && code ≤ 90 then code + 32 else code)
  else Text.shifted Text.smallRuns code

/-- The code points with a given small form. -/
def sourcesOfSmall (flags : Flags) (small : Nat) : List Nat :=
  if flags.ascii then
    (if 65 ≤ small && small ≤ 90 then [] else [small]) ++
      (if 97 ≤ small && small ≤ 122 then [small - 32] else [])
  else Text.sources Text.smallRuns small

/-- Whether a code point has case. -/
def hasCase (flags : Flags) (code : Nat) : Bool :=
  if flags.ascii then (65 ≤ code && code ≤ 90) || (97 ≤ code && code ≤ 122)
  else
    Text.shifted Text.smallRuns code != code || Text.shifted Text.capitalRuns code != code ||
      (Text.capitalSpellings.lookup code).isSome

/-- The small letters that count as a small letter. -/
def variants (flags : Flags) (small : Nat) : List Nat :=
  if flags.ascii then [small] else Text.smallVariants small

/-- Whether a character is the one asked for. -/
def isLiteral (flags : Flags) (code : Nat) (c : Char) : Bool :=
  if flags.ignoreCase && hasCase flags code then
    (variants flags (smallCode flags code)).contains (smallCode flags c.toNat)
  else c.toNat == code

/-- Whether a code point is in a class of characters. -/
def isCategory (flags : Flags) (category : Category) (code : Nat) : Bool :=
  let c := Char.ofNat code
  if flags.ascii then
    match category with
    | .digit => c.isDigit
    | .space => c == ' ' || (9 ≤ code && code ≤ 13)
    | .word => c.isAlphanum || c == '_'
  else
    match category with
    | .digit => Text.isDecimal c
    | .space => Text.isSpace c
    | .word => Text.isWord c

/-- The first code point outside of the basic plane. -/
def planeSize : Nat := 0x10000

/-- Whether a set item holds a code point as it is. -/
def SetItem.holds (flags : Flags) (code : Nat) : SetItem → Bool
  | .single member => code == member
  | .range first last => first ≤ code && code ≤ last
  | .category kind negated => isCategory flags kind code != negated

/-- Whether a set item holds a small code point without regard to case.  Outside of the basic plane
a single member is compared as it is written. -/
def SetItem.holdsSmall (flags : Flags) (small : Nat) : SetItem → Bool
  | .single member =>
    if planeSize ≤ smallCode flags member then small == member
    else (variants flags (smallCode flags member)).contains small
  | .range first last =>
    let inside := fun code => first ≤ code && code ≤ last
    let basic := (variants flags small).flatMap (sourcesOfSmall flags)
    (basic.any fun code => code < planeSize && inside code) ||
      (planeSize ≤ last && (inside small || inside (Text.shifted Text.capitalRuns small)))
  | .category kind negated => isCategory flags kind small != negated

/-- Whether a set holds a character. -/
def isInSet (flags : Flags) (negated : Bool) (items : List SetItem) (c : Char) : Bool :=
  let held :=
    if flags.ignoreCase then items.any (SetItem.holdsSmall flags (smallCode flags c.toNat))
    else items.any (SetItem.holds flags c.toNat)
  held != negated

/-! ## Places -/

/-- Whether the character at a place is a word character. -/
def isWordAt (flags : Flags) (subject : Subject) (place : Nat) : Bool :=
  match subject[place]? with
  | some c => isCategory flags .word c.toNat
  | none => false

/-- Whether the character at a place ends a line. -/
def isBreakAt (subject : Subject) (place : Nat) : Bool := subject[place]? == some '\n'

/-- Whether a place is one that an anchor asks for.  The empty text has neither word boundaries nor
places without one. -/
def isAnchored (flags : Flags) (subject : Subject) (place : Nat) : Anchor → Bool
  | .lineStart => place = 0 || (flags.multiline && isBreakAt subject (place - 1))
  | .textStart => place = 0
  | .lineEnd =>
    place = subject.size ||
      ((flags.multiline || place + 1 = subject.size) && isBreakAt subject place)
  | .textEnd => place = subject.size
  | .boundary => 0 < subject.size && before != isWordAt flags subject place
  | .noBoundary => 0 < subject.size && before == isWordAt flags subject place
where
  before : Bool := 0 < place && isWordAt flags subject (place - 1)

/-- The ways of a test on a single character. -/
def step (subject : Subject) (test : Char → Bool) (way : Way) : List Way :=
  match subject[way.place]? with
  | some c => if test c then [{ way with place := way.place + 1 }] else []
  | none => []

/-- The way over a repetition of what a group has captured. -/
def echo (flags : Flags) (subject : Subject) (group : Nat) (way : Way) : List Way :=
  match way.capture? group with
  | none => []
  | some (start, stop) =>
    let same := fun (a b : Char) =>
      if flags.ignoreCase then smallCode flags a.toNat == smallCode flags b.toNat else a == b
    let length := stop - start
    let fits := way.place + length ≤ subject.size &&
      (List.range length).all fun i => match subject[start + i]?, subject[way.place + i]? with
        | some a, some b => same a b
        | _, _ => false
    if fits then [{ way with place := way.place + length }] else []

/-! ## Repetitions

The functions below are told the ways of one round.  `last` is the place where the last round beyond
the least number started; a round that ends there has not moved and is the last.
-/

/-- Rounds beyond the least number, as many as possible first. -/
def moreGreedy (round : Way → List Way) : Nat → Option Nat → Option Nat → Way → List Way
  | 0, _, _, way => [way]
  | fuel + 1, most, last, way =>
    if most = some 0 || last = some way.place then [way]
    else
      ((round way).flatMap
        (moreGreedy round fuel (most.map (· - 1)) (some way.place))).eraseDups ++ [way]

/-- Rounds beyond the least number, as few as possible first. -/
def moreLazy (round : Way → List Way) : Nat → Option Nat → Option Nat → Way → List Way
  | 0, _, _, way => [way]
  | fuel + 1, most, last, way =>
    if most = some 0 || last = some way.place then [way]
    else
      way :: ((round way).flatMap
        (moreLazy round fuel (most.map (· - 1)) (some way.place))).eraseDups

/-- Rounds beyond the least number, each in its first way and for good. -/
def morePossessive (round : Way → List Way) : Nat → Option Nat → Option Nat → Way → List Way
  | 0, _, _, way => [way]
  | fuel + 1, most, last, way =>
    if most = some 0 || last = some way.place then [way]
    else match round way with
      | [] => [way]
      | first :: _ => morePossessive round fuel (most.map (· - 1)) (some way.place) first

/-- A fixed number of rounds. -/
def rounds (round : Way → List Way) : Nat → Way → List Way
  | 0, way => [way]
  | count + 1, way => ((round way).flatMap (rounds round count)).eraseDups

/-- All ways of a repetition.  If more rounds are asked for than there are characters left, some of
them match nothing, and how many of these there are makes no difference. -/
def repeatWays (greed : Greed) (least : Nat) (most : Option Nat) (size : Nat)
    (round : Way → List Way) (way : Way) : List Way :=
  let left := size - way.place + 1
  let needed := min least (left + 1)
  let most := most.map (· - least)
  let fuel := left + 1
  match greed with
  | .greedy =>
    ((rounds round needed way).flatMap (moreGreedy round fuel most none)).eraseDups
  | .lazy => ((rounds round needed way).flatMap (moreLazy round fuel most none)).eraseDups
  | .possessive =>
    let first := fun way => (round way).take 1
    (rounds first needed way).flatMap (morePossessive round fuel most none)

/-! ## Nodes -/

mutual

/-- All ways to match a node. -/
def Node.ways (subject : Subject) (flags : Flags) (way : Way) : Node → List Way
  | .literal code => step subject (isLiteral flags code) way
  | .notLiteral code => step subject (fun c => !isLiteral flags code c) way
  | .set negated items => step subject (isInSet flags negated items) way
  | .any => step subject (fun c => flags.dotAll || c != '\n') way
  | .anchor place => if isAnchored flags subject way.place place then [way] else []
  | .branch options => (waysOfAny subject flags way options).eraseDups
  | .group number add remove body =>
    let found := waysOfAll subject (flags.inside add remove) way body
    match number with
    | some group => found.map fun inner => inner.close group way.place
    | none => found
  | .atomic body => (waysOfAll subject flags way body).take 1
  | .look behind wanted body =>
    let distance := (behind.map (·.1)).getD 0
    let found :=
      if way.place < distance then []
      else waysOfAll subject flags { way with place := way.place - distance } body
    match wanted, found with
    | true, first :: _ => [{ first with place := way.place }]
    | true, [] => []
    | false, [] => [way]
    | false, _ :: _ => []
  | .reference group => echo flags subject group way
  | .conditional group yes no =>
    if (way.capture? group).isSome then waysOfAll subject flags way yes
    else waysOfAll subject flags way no
  | .repetition greed least most body =>
    repeatWays greed least most subject.size
      (fun way => waysOfAll subject flags way body) way

/-- All ways to match a sequence. -/
def waysOfAll (subject : Subject) (flags : Flags) (way : Way) : List Node → List Way
  | [] => [way]
  | node :: rest =>
    ((node.ways subject flags way).flatMap fun way => waysOfAll subject flags way rest).eraseDups

/-- All ways to match one of several sequences. -/
def waysOfAny (subject : Subject) (flags : Flags) (way : Way) : List (List Node) → List Way
  | [] => []
  | option :: rest => waysOfAll subject flags way option ++ waysOfAny subject flags way rest

end

/-- Whether an expression matches somewhere in a text. -/
def isFound (expression : Expression) (flags : Flags) (text : String) : Bool :=
  let subject := text.toList.toArray
  (List.range (subject.size + 1)).any fun place =>
    !(waysOfAll subject flags ⟨place, []⟩ expression).isEmpty

end Pattern
end ClassLoom
