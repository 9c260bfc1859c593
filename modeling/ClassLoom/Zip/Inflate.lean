import ClassLoom.Bytes

namespace ClassLoom
namespace Zip

/-!
# Reading compressed data

A compressed stream is a sequence of blocks, each stored, coded with the fixed prefix codes of the
format, or coded with prefix codes that it describes itself.  Reading ends in one of three ways: the
last block was finished, the input ended too early, or the input breaks a rule of the format.  In
all three the octets produced so far are kept, since a reader that hands out data in pieces has
already delivered some of them.

Every step takes at least one bit from the input, so the number of input bits bounds the work; it
is the fuel of the two loops below.
-/

/-- A rule of the compressed format that an input breaks. -/
inductive Corruption where
  | blockType | storedLengths | tooManySymbols | codeLengthsSet | bitLengthRepeat
  | missingEndOfBlock | literalSet | distanceSet | literalCode | distanceCode | distanceTooFar
  deriving Repr, DecidableEq, Inhabited

/-- The wording of a broken rule. -/
def Corruption.message : Corruption → String
  | .blockType => "invalid block type"
  | .storedLengths => "invalid stored block lengths"
  | .tooManySymbols => "too many length or distance symbols"
  | .codeLengthsSet => "invalid code lengths set"
  | .bitLengthRepeat => "invalid bit length repeat"
  | .missingEndOfBlock => "invalid code -- missing end-of-block"
  | .literalSet => "invalid literal/lengths set"
  | .distanceSet => "invalid distances set"
  | .literalCode => "invalid literal/length code"
  | .distanceCode => "invalid distance code"
  | .distanceTooFar => "invalid distance too far back"

/-- Why reading stopped before the end of the last block. -/
inductive Stop where
  | inputEnded
  | corrupt (cause : Corruption)
  deriving Repr, DecidableEq, Inhabited

/-- The unread part of a compressed stream: some bits of the current octet, then whole octets. -/
structure BitSource where
  current : Nat
  count : Nat
  rest : Bytes

namespace BitSource

def ofBytes (bytes : Bytes) : BitSource := ⟨0, 0, bytes⟩

/-- One bit, the least significant of an octet first. -/
def next (source : BitSource) : Except Stop (Nat × BitSource) :=
  match source.count, source.rest with
  | 0, [] => .error .inputEnded
  | 0, b :: rest => .ok (b.toNat % 2, ⟨b.toNat / 2, 7, rest⟩)
  | count + 1, rest => .ok (source.current % 2, ⟨source.current / 2, count, rest⟩)

/-- A number of `width` bits, least significant first. -/
def number : Nat → BitSource → Except Stop (Nat × BitSource)
  | 0, source => .ok (0, source)
  | width + 1, source => do
    let (bit, source) ← source.next
    let (high, source) ← number width source
    return (bit + 2 * high, source)

/-- The octets after the current one. -/
def align (source : BitSource) : Bytes := source.rest

end BitSource

/-- A prefix code: how many symbols have each length from one up, and the symbols by length. -/
structure PrefixCode where
  counts : List Nat
  symbols : Array Nat

namespace PrefixCode

/-- Code words that `lengths` leaves unused, or nothing if there are more symbols than words. -/
def spare (counts : List Nat) : Option Nat :=
  counts.foldlM (fun left count => if count ≤ 2 * left then some (2 * left - count) else none) 1

def ofLengths (lengths : List Nat) : PrefixCode where
  counts := (List.range 15).map fun n => lengths.countP (· == n + 1)
  symbols := ((List.range 15).flatMap fun n =>
    lengths.zipIdx.filterMap fun (len, symbol) =>
      if len == n + 1 then some symbol else none).toArray

/-- Whether a set of lengths is usable: no symbol at all, every code word in use, or, where
`single` allows it, one code word of one bit. -/
def acceptable (single : Bool) (lengths : List Nat) : Bool :=
  let counts := (List.range 15).map fun n => lengths.countP (· == n + 1)
  if counts.all (· == 0) then true
  else match spare counts with
    | none => false
    | some 0 => true
    | some _ => single && (counts.drop 1).all (· == 0)

/-- The next symbol.  Words of one length are consecutive numbers, so a word is recognised by its
distance from the first word of its length. -/
def decode (code : PrefixCode) (bad : Corruption) (source : BitSource) :
    Except Stop (Nat × BitSource) :=
  go code.counts 0 0 0 source
where
  go : List Nat → Nat → Nat → Nat → BitSource → Except Stop (Nat × BitSource)
    | [], _, _, _, _ => .error (.corrupt bad)
    | count :: counts, word, first, index, source => do
      let (bit, source) ← source.next
      let word := word + bit
      if word < first + count then
        match code.symbols[index + (word - first)]? with
        | some symbol => return (symbol, source)
        | none => .error (.corrupt bad)
      else go counts (2 * word) (2 * (first + count)) (index + count) source

end PrefixCode

/-- Length symbols from 257: the smallest length and the number of extra bits. -/
def lengthSymbols : List (Nat × Nat) :=
  [(3, 0), (4, 0), (5, 0), (6, 0), (7, 0), (8, 0), (9, 0), (10, 0), (11, 1), (13, 1), (15, 1),
   (17, 1), (19, 2), (23, 2), (27, 2), (31, 2), (35, 3), (43, 3), (51, 3), (59, 3), (67, 4),
   (83, 4), (99, 4), (115, 4), (131, 5), (163, 5), (195, 5), (227, 5), (258, 0)]

/-- Distance symbols: the smallest distance and the number of extra bits. -/
def distanceSymbols : List (Nat × Nat) :=
  [(1, 0), (2, 0), (3, 0), (4, 0), (5, 1), (7, 1), (9, 2), (13, 2), (17, 3), (25, 3), (33, 4),
   (49, 4), (65, 5), (97, 5), (129, 6), (193, 6), (257, 7), (385, 7), (513, 8), (769, 8),
   (1025, 9), (1537, 9), (2049, 10), (3073, 10), (4097, 11), (6145, 11), (8193, 12), (12289, 12),
   (16385, 13), (24577, 13)]

/-- The order in which the lengths of the code-length code are sent. -/
def codeLengthOrder : List Nat :=
  [16, 17, 18, 0, 8, 7, 9, 6, 10, 5, 11, 4, 12, 3, 13, 2, 14, 1, 15]

/-- The lengths of the fixed literal code. -/
def fixedLiteralLengths : List Nat :=
  List.replicate 144 8 ++ List.replicate 112 9 ++ List.replicate 24 7 ++ List.replicate 8 8

/-- The lengths of the fixed distance code. -/
def fixedDistanceLengths : List Nat := List.replicate 32 5

/-- Output so far, and how reading went on from there. -/
abbrev Progress (α : Type) := Array UInt8 × Except Stop α

/-- Append `length` octets, each a copy of the one `distance` before it. -/
def copyBack : Nat → Nat → Array UInt8 → Array UInt8
  | 0, _, out => out
  | length + 1, distance, out =>
    copyBack length distance (out.push (out.getD (out.size - distance) 0))

/-- The symbols of one coded block. -/
def inflateSymbols (literals distances : PrefixCode) : Nat → BitSource → Array UInt8 →
    Progress BitSource
  | 0, _, out => (out, .error .inputEnded)
  | fuel + 1, source, out =>
    match literals.decode .literalCode source with
    | .error stop => (out, .error stop)
    | .ok (symbol, source) =>
      if symbol < 256 then inflateSymbols literals distances fuel source (out.push symbol.toUInt8)
      else if symbol = 256 then (out, .ok source)
      else
        let reference : Except Stop (Nat × Nat × BitSource) := do
          let (base, extra) ← (lengthSymbols[symbol - 257]?).elim
            (.error (.corrupt .literalCode)) .ok
          let (more, source) ← source.number extra
          let (place, source) ← distances.decode .distanceCode source
          let (near, extra) ← (distanceSymbols[place]?).elim
            (.error (.corrupt .distanceCode)) .ok
          let (further, source) ← source.number extra
          if out.size < near + further then .error (.corrupt .distanceTooFar)
          return (base + more, near + further, source)
        match reference with
        | .error stop => (out, .error stop)
        | .ok (length, distance, source) =>
          inflateSymbols literals distances fuel source (copyBack length distance out)

/-- Code lengths in run-length form, newest first in `known`. -/
def readLengths (code : PrefixCode) : Nat → Nat → BitSource → List Nat →
    Except Stop (List Nat × BitSource)
  | 0, _, _, _ => .error .inputEnded
  | fuel + 1, wanted, source, known =>
    if wanted ≤ known.length then .ok (known.reverse, source) else do
      let (symbol, source) ← code.decode .codeLengthsSet source
      if symbol < 16 then readLengths code fuel wanted source (symbol :: known)
      else
        let (value, least, width) :=
          if symbol = 16 then (known.head?, 3, 2)
          else if symbol = 17 then (some 0, 3, 3) else (some 0, 11, 7)
        match value with
        | none => .error (.corrupt .bitLengthRepeat)
        | some value =>
          let (more, source) ← source.number width
          if wanted < known.length + least + more then .error (.corrupt .bitLengthRepeat)
          else readLengths code fuel wanted source (List.replicate (least + more) value ++ known)

/-- A number of three bits for each of the given places. -/
def readPlaced : List Nat → BitSource → Except Stop (List (Nat × Nat) × BitSource)
  | [], source => .ok ([], source)
  | place :: places, source => do
    let (length, source) ← source.number 3
    let (sent, source) ← readPlaced places source
    return ((place, length) :: sent, source)

/-- The two codes that a block describes at its start. -/
def readCodes (source : BitSource) : Except Stop (PrefixCode × PrefixCode × BitSource) := do
  let (literalCount, source) ← source.number 5
  let (distanceCount, source) ← source.number 5
  let (lengthCount, source) ← source.number 4
  let literalCount := literalCount + 257
  let distanceCount := distanceCount + 1
  if 286 < literalCount || 30 < distanceCount then .error (.corrupt .tooManySymbols)
  let (sent, source) ← readPlaced (codeLengthOrder.take (lengthCount + 4)) source
  let lengths := (List.range 19).map fun symbol => (sent.lookup symbol).getD 0
  if !PrefixCode.acceptable false lengths then .error (.corrupt .codeLengthsSet)
  let wanted := literalCount + distanceCount
  let (all, source) ← readLengths (.ofLengths lengths) (wanted + 1) wanted source []
  let literals := all.take literalCount
  let distances := all.drop literalCount
  if literals.getD 256 0 == 0 then .error (.corrupt .missingEndOfBlock)
  if !PrefixCode.acceptable true literals then .error (.corrupt .literalSet)
  if !PrefixCode.acceptable true distances then .error (.corrupt .distanceSet)
  return (.ofLengths literals, .ofLengths distances, source)

/-- The octets of a stored block. -/
def inflateStored (source : BitSource) (out : Array UInt8) : Progress BitSource :=
  let bytes := source.align
  if bytes.length < 4 then (out, .error .inputEnded)
  else
    let length := bytes.natAt 0 2
    let check := bytes.natAt 2 2
    if length + check ≠ 65535 then (out, .error (.corrupt .storedLengths))
    else
      let body := bytes.drop 4
      let out := out ++ (body.take length).toArray
      if body.length < length then (out, .error .inputEnded)
      else (out, .ok (.ofBytes (body.drop length)))

/-- Blocks up to the one marked as the last. -/
def inflateBlocks : Nat → Nat → BitSource → Array UInt8 → Progress Unit
  | 0, _, _, out => (out, .error .inputEnded)
  | fuel + 1, work, source, out =>
    let header := do
      let (last, source) ← source.next
      let (kind, source) ← source.number 2
      return (last, kind, source)
    match header with
    | .error stop => (out, .error stop)
    | .ok (last, kind, source) =>
      let (out, block) : Progress BitSource :=
        match kind with
        | 0 => inflateStored source out
        | 1 => inflateSymbols (.ofLengths fixedLiteralLengths) (.ofLengths fixedDistanceLengths)
            work source out
        | 2 => match readCodes source with
          | .error stop => (out, .error stop)
          | .ok (literals, distances, source) => inflateSymbols literals distances work source out
        | _ => (out, .error (.corrupt .blockType))
      match block with
      | .error stop => (out, .error stop)
      | .ok source =>
        if last = 1 then (out, .ok ()) else inflateBlocks fuel work source out

/-- Everything a compressed stream spells before it ends or breaks a rule. -/
def inflate (bytes : Bytes) : Bytes × Except Stop Unit :=
  let work := 8 * bytes.length + 1
  let (out, outcome) := inflateBlocks work work (.ofBytes bytes) #[]
  (out.toList, outcome)

end Zip
end ClassLoom
