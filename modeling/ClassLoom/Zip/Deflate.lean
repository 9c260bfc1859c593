import ClassLoom.Zip.Inflate

namespace ClassLoom
namespace Zip

/-!
# Writing compressed data

A byte string becomes a sequence of tokens, literal octets and references to earlier output; the
tokens are cut into blocks; each block is written in the shortest of the three block forms.

The search for references is lazy: a match is kept back for one octet, and given up if the next
octet starts a longer one.  The limits below are part of the written form, because an archive that
is cut short shows the compressed octets themselves.
-/

/-- A step of the decompressor. -/
inductive Token where
  | literal (byte : UInt8)
  | reference (length distance : Nat)
  deriving Repr, DecidableEq, Inhabited

namespace Token

/-- How many octets of the input a token stands for. -/
def span : Token → Nat
  | .literal _ => 1
  | .reference length _ => length

end Token

namespace Matcher

/-- The farthest distance that the search looks back. -/
def reach : Nat := 32768 - 262
/-- The longest match. -/
def longest : Nat := 258
/-- A match of this length ends the search along a chain. -/
def nice : Nat := 128
/-- A match of this length is not given up for the next octet. -/
def lazyLimit : Nat := 16
/-- From this length on the search for a longer match is shortened. -/
def good : Nat := 8
/-- How many earlier places are tried. -/
def chain : Nat := 128
/-- Matches of three octets are not worth a reference beyond this distance. -/
def tooFar : Nat := 4096
/-- Tokens in a full block. -/
def blockTokens : Nat := 16383

/-- The number that three octets share with their likely repetitions. -/
def key (data : Array UInt8) (pos : Nat) : Nat :=
  let byte := fun i => (data.getD (pos + i) 0).toNat
  (byte 0 * 1024 ^^^ byte 1 * 32 ^^^ byte 2) % 32768

/-- How far two places agree, up to a bound. -/
def agreement (data : Array UInt8) : Nat → Nat → Nat → Nat
  | 0, _, _ => 0
  | bound + 1, here, there =>
    if data.getD here 0 == data.getD there 0 then 1 + agreement data bound (here + 1) (there + 1)
    else 0

/-- Try the places of a chain, latest first; keep the longest match and the place of it. -/
def search (data : Array UInt8) (earlier : Array Nat) (pos lookahead : Nat) :
    Nat → Nat → Nat → Nat → Nat × Nat
  | 0, _, best, start => (best, start)
  | tries + 1, place, best, start =>
    let length := agreement data (min longest lookahead) pos place
    let (best, start, done) :=
      if best < length then (length, place, decide (min nice lookahead ≤ length))
      else (best, start, false)
    let next := earlier.getD place 0
    if done || next ≤ pos - reach then (best, start)
    else search data earlier pos lookahead tries next best start

/-- What the search remembers from one octet to the next: the latest place of each key, the place
before each place, and the match kept back. -/
structure State where
  latest : Array Nat
  earlier : Array Nat
  length : Nat := 2
  start : Nat := 0
  pending : Bool := false
  tokens : Array Token := #[]

/-- Record a place under its key; answers the previous place, zero if there is none. -/
def State.record (state : State) (data : Array UInt8) (pos : Nat) : State × Nat :=
  let k := key data pos
  let previous := state.latest.getD k 0
  ({ state with
      latest := state.latest.setIfInBounds k pos
      earlier := state.earlier.setIfInBounds pos previous }, previous)

/-- Record every place from `pos` that still has three octets. -/
def State.recordAll (data : Array UInt8) : Nat → Nat → State → State
  | 0, _, state => state
  | count + 1, pos, state =>
    let state := if pos + 3 ≤ data.size then (state.record data pos).1 else state
    State.recordAll data count (pos + 1) state

/-- One step of the lazy search for every octet that no reference covers. -/
def scan (data : Array UInt8) : Nat → Nat → State → State
  | 0, _, state => state
  | fuel + 1, pos, state =>
    if data.size ≤ pos then
      if state.pending then
        { state with tokens := state.tokens.push (.literal (data.getD (pos - 1) 0)) }
      else state
    else
      let lookahead := data.size - pos
      let (state, place) := if 3 ≤ lookahead then state.record data pos else (state, 0)
      let keptLength := state.length
      let keptStart := state.start
      let (length, start) :=
        if place ≠ 0 && keptLength < lazyLimit && pos - place ≤ reach then
          let tries := if good ≤ keptLength then chain / 4 else chain
          let (found, start) :=
            search data state.earlier pos lookahead tries place keptLength keptStart
          let found := min found lookahead
          if found = 3 && tooFar < pos - start then (2, start) else (found, start)
        else (2, keptStart)
      if 3 ≤ keptLength && length ≤ keptLength then
        let tokens := state.tokens.push (.reference keptLength (pos - 1 - keptStart))
        let state := State.recordAll data (keptLength - 2) (pos + 1) state
        scan data fuel (pos + keptLength - 1)
          { state with length := 2, start := start, pending := false, tokens }
      else
        let tokens := if state.pending then
          state.tokens.push (.literal (data.getD (pos - 1) 0)) else state.tokens
        scan data fuel (pos + 1) { state with length, start, pending := true, tokens }

/-- The tokens of a byte string. -/
def tokens (data : Array UInt8) : Array Token :=
  (scan data (data.size + 1) 0
    { latest := Array.replicate 32768 0, earlier := Array.replicate data.size 0 }).tokens

end Matcher

/-- The last entry of a symbol table whose smallest value is not above `value`. -/
def symbolFor (table : List (Nat × Nat)) (value : Nat) : Nat :=
  table.countP (·.1 ≤ value) - 1

/-- How many extra bits a literal or length symbol has. -/
def literalExtra (symbol : Nat) : Nat :=
  if symbol < 257 then 0 else (lengthSymbols.getD (symbol - 257) (0, 0)).2

/-- How many extra bits a distance symbol has. -/
def distanceExtra (symbol : Nat) : Nat := (distanceSymbols.getD symbol (0, 0)).2

/-- The literal or length symbol of a token. -/
def Token.symbol : Token → Nat
  | .literal byte => byte.toNat
  | .reference length _ => 257 + symbolFor lengthSymbols length

/-- The distance symbol of a token. -/
def Token.place? : Token → Option Nat
  | .literal _ => none
  | .reference _ distance => some (symbolFor distanceSymbols distance)

/-!
## Code lengths

The two lightest nodes are joined until one is left.  Of two nodes of one weight the flatter is the
lighter; the rest of the order is that of the heap below, and it decides which of several equally
short codes is written.
-/

namespace CodeLengths

/-- A heap of nodes with their weights and heights. -/
structure Heap where
  slots : Array Nat
  size : Nat
  weight : Array Nat
  height : Array Nat

def Heap.lighter (heap : Heap) (a b : Nat) : Bool :=
  let wa := heap.weight.getD a 0
  let wb := heap.weight.getD b 0
  wa < wb || (wa == wb && heap.height.getD a 0 ≤ heap.height.getD b 0)

/-- Move the node `v` down from slot `k` to its place. -/
def Heap.sink (heap : Heap) (v : Nat) : Nat → Nat → Heap
  | 0, k => { heap with slots := heap.slots.setIfInBounds k v }
  | fuel + 1, k =>
    let j := 2 * k
    if heap.size < j then { heap with slots := heap.slots.setIfInBounds k v }
    else
      let right := heap.slots.getD (j + 1) 0
      let left := heap.slots.getD j 0
      let (j, child) :=
        if j < heap.size && heap.lighter right left then (j + 1, right) else (j, left)
      if heap.lighter v child then { heap with slots := heap.slots.setIfInBounds k v }
      else Heap.sink { heap with slots := heap.slots.setIfInBounds k child } v fuel j

def Heap.down (heap : Heap) (k : Nat) : Heap :=
  heap.sink (heap.slots.getD k 0) (heap.size + 1) k

/-- Put the slots from `k` down to one in order. -/
def Heap.order (heap : Heap) : Nat → Heap
  | 0 => heap
  | k + 1 => (heap.down (k + 1)).order k

/-- Join nodes until one is left.  `taken` lists the nodes, the last joined first. -/
def join : Nat → Nat → Heap → Array Nat → List Nat → Array Nat × List Nat
  | 0, _, _, parent, taken => (parent, taken)
  | fuel + 1, node, heap, parent, taken =>
    let n := heap.slots.getD 1 0
    let last := heap.slots.getD heap.size 0
    let heap := { heap with size := heap.size - 1, slots := heap.slots.setIfInBounds 1 last }
    let heap := heap.down 1
    let m := heap.slots.getD 1 0
    let heap := { heap with
      weight := heap.weight.setIfInBounds node (heap.weight.getD n 0 + heap.weight.getD m 0)
      height :=
        heap.height.setIfInBounds node (max (heap.height.getD n 0) (heap.height.getD m 0) + 1)
      slots := heap.slots.setIfInBounds 1 node }
    let heap := heap.down 1
    let parent := (parent.setIfInBounds n node).setIfInBounds m node
    let taken := m :: n :: taken
    if heap.size < 2 then (parent, heap.slots.getD 1 0 :: taken)
    else join fuel (node + 1) heap parent taken

/-- Depths of the nodes, parents before children, no deeper than `limit`; counts the excess. -/
def depths (parent : Array Nat) (limit : Nat) : List Nat → Array Nat → Nat → Array Nat × Nat
  | [], depth, excess => (depth, excess)
  | n :: rest, depth, excess =>
    let d := depth.getD (parent.getD n 0) 0 + 1
    if limit < d then depths parent limit rest (depth.setIfInBounds n limit) (excess + 1)
    else depths parent limit rest (depth.setIfInBounds n d) excess

/-- Make room at the depth limit: take one leaf off the deepest level that has one above it. -/
def spread (limit : Nat) : Nat → Nat → Array Nat → Array Nat
  | 0, _, counts => counts
  | fuel + 1, excess, counts =>
    if excess = 0 then counts
    else
      let level := ((List.range limit).reverse.find? fun d => counts.getD d 0 ≠ 0).getD 0
      let counts := counts.modify level (· - 1)
      let counts := counts.modify (level + 1) (· + 2)
      let counts := counts.modify limit (· - 1)
      spread limit fuel (excess - 2) counts

/-- Give the lengths of `counts`, longest first, to the leaves in the order of `taken`. -/
def assign (counts : Array Nat) (leaves : List Nat) (limit : Nat) (depth : Array Nat) : Array Nat :=
  let lengths := (List.range limit).reverse.flatMap fun d =>
    List.replicate (counts.getD (d + 1) 0) (d + 1)
  (leaves.zip lengths).foldl (fun depth (leaf, length) => depth.setIfInBounds leaf length) depth

/-- Code lengths for symbol weights, up to the last symbol that has a code. -/
def ofWeights (weights : List Nat) (limit : Nat) : List Nat :=
  let symbols := weights.length
  let used := (List.range symbols).filter fun s => weights.getD s 0 ≠ 0
  let highest := used.getLast?.elim (-1 : Int) Int.ofNat
  let extra : List Nat := match used with
    | [] => [0, 1]
    | [_] => if highest < 2 then [(highest + 1).toNat] else [0]
    | _ => []
  let all := used ++ extra
  let top := all.foldl max 0
  let weight := extra.foldl (fun w s => w.setIfInBounds s 1)
    (weights.toArray ++ Array.replicate (symbols + 1) 0)
  let nodes := weight.size
  let heap : Heap := {
    slots := #[0] ++ all.toArray ++ Array.replicate 2 0
    size := all.length
    weight := weight
    height := Array.replicate nodes 0 }
  let heap := heap.order (all.length / 2)
  let (parent, taken) := join (2 * symbols) symbols heap (Array.replicate nodes 0) []
  let (depth, excess) := depths parent limit (taken.drop 1) (Array.replicate nodes 0) 0
  let isLeaf := fun n => n < symbols
  let leaves := (taken.drop 1).filter isLeaf
  let depth :=
    if excess = 0 then depth
    else
      let counts := leaves.foldl (fun c n => c.modify (depth.getD n 0) (· + 1))
        (Array.replicate (limit + 2) 0)
      assign (spread limit excess excess counts) leaves.reverse limit depth
  (List.range (top + 1)).map fun s => if all.contains s then depth.getD s 0 else 0

end CodeLengths

/-- The words of a prefix code: consecutive numbers within a length, shorter lengths first. -/
def codeWords (lengths : List Nat) : Array (Nat × Nat) :=
  let firsts := (List.range 16).foldl (fun (acc : List Nat × Nat) d =>
    let count := if d = 0 then 0 else lengths.countP (· == d)
    (acc.1 ++ [acc.2], 2 * (acc.2 + count))) ([], 0)
  let place := fun (state : Array (Nat × Nat) × Array Nat) length =>
    let word := state.2.getD length 0
    (state.1.push (word, length), state.2.setIfInBounds length (word + 1))
  (lengths.foldl place (#[], firsts.1.toArray)).1

/-- Run-length form of code lengths: a symbol, the value of its extra bits and their number. -/
def runLengths (lengths : List Nat) : List (Nat × Nat × Nat) :=
  go (lengths.length + 1) lengths none
where
  run : Nat → Nat → List Nat → Nat
    | 0, _, _ => 0
    | _, _, [] => 0
    | bound + 1, value, x :: rest => if x = value then 1 + run bound value rest else 0
  go : Nat → List Nat → Option Nat → List (Nat × Nat × Nat)
    | 0, _, _ => []
    | _, [], _ => []
    | fuel + 1, value :: rest, previous =>
      let repeated := previous = some value
      let bound := if value = 0 then 138 else if repeated then 6 else 7
      let least := if value = 0 || repeated then 3 else 4
      let count := run bound value (value :: rest)
      let written :=
        if count < least then List.replicate count (value, 0, 0)
        else if value ≠ 0 then
          if repeated then [(16, count - 3, 2)] else [(value, 0, 0), (16, count - 4, 2)]
        else if count ≤ 10 then [(17, count - 3, 3)] else [(18, count - 11, 7)]
      written ++ go fuel ((value :: rest).drop count) (some value)

/-- Bits written so far, least significant bit of each octet first. -/
structure BitSink where
  bytes : Array UInt8 := #[]
  buffer : Nat := 0
  count : Nat := 0

namespace BitSink

/-- Move whole octets out of the buffer. -/
def spill : Nat → BitSink → BitSink
  | 0, sink => sink
  | fuel + 1, sink =>
    if sink.count < 8 then sink
    else spill fuel ⟨sink.bytes.push sink.buffer.toUInt8, sink.buffer / 256, sink.count - 8⟩

def number (sink : BitSink) (value width : Nat) : BitSink :=
  let buffer := sink.buffer + value * Nat.pow 2 sink.count
  spill 4 { sink with buffer, count := sink.count + width }

/-- A code word goes out with its most significant bit first. -/
def word (sink : BitSink) (code : Nat × Nat) : BitSink :=
  let reversed := (List.range code.2).foldl (fun acc i => 2 * acc + code.1 / Nat.pow 2 i % 2) 0
  sink.number reversed code.2

/-- Fill the current octet with zero bits. -/
def align (sink : BitSink) : BitSink :=
  if sink.count = 0 then sink else ⟨sink.bytes.push sink.buffer.toUInt8, 0, 0⟩

end BitSink

/-- The code of a block: literal and length words, and distance words. -/
structure BlockCode where
  literals : Array (Nat × Nat)
  distances : Array (Nat × Nat)

namespace BlockCode

def ofLengths (literals distances : List Nat) : BlockCode :=
  ⟨codeWords literals, codeWords distances⟩

def putToken (code : BlockCode) (sink : BitSink) (token : Token) : BitSink :=
  let sink := sink.word (code.literals.getD token.symbol (0, 0))
  match token with
  | .literal _ => sink
  | .reference length distance =>
    let (base, extra) := lengthSymbols.getD (token.symbol - 257) (0, 0)
    let sink := sink.number (length - base) extra
    let place := symbolFor distanceSymbols distance
    let (near, further) := distanceSymbols.getD place (0, 0)
    (sink.word (code.distances.getD place (0, 0))).number (distance - near) further

def putTokens (code : BlockCode) (sink : BitSink) (tokens : List Token) : BitSink :=
  (tokens.foldl code.putToken sink).word (code.literals.getD 256 (0, 0))

end BlockCode

/-- Weighted sum of code lengths and extra bits. -/
def codedSize (weights lengths : List Nat) (extra : Nat → Nat) : Nat :=
  (weights.zip lengths).zipIdx.foldl (fun size ((weight, length), symbol) =>
    size + weight * (length + extra symbol)) 0

/-- Occurrences of each symbol below `bound`. -/
def tally (symbols : List Nat) (bound : Nat) : List Nat :=
  (symbols.foldl (fun counts s => counts.modify s (· + 1)) (Array.replicate bound 0)).toList

/-- Write one block in the form that takes the fewest octets; on a tie the stored form comes before
the fixed codes, and the fixed codes before described ones. -/
def putBlock (sink : BitSink) (last : Bool) (data : Bytes) (tokens : List Token) : BitSink :=
  let literalWeights := tally (256 :: tokens.map Token.symbol) 286
  let distanceWeights := tally (tokens.filterMap Token.place?) 30
  let literals := CodeLengths.ofWeights literalWeights 15
  let distances := CodeLengths.ofWeights distanceWeights 15
  let runs := runLengths literals ++ runLengths distances
  let runWeights := tally (runs.map (·.1)) 19
  let runLengthsCode := CodeLengths.ofWeights runWeights 7
  let sent := codeLengthOrder.map fun s => runLengthsCode.getD s 0
  let sent := sent.take (max 4 (19 - (sent.reverse.takeWhile (· = 0)).length))
  let runExtra := fun s => if s = 16 then 2 else if s = 17 then 3 else if s = 18 then 7 else 0
  let described := codedSize literalWeights literals literalExtra
    + codedSize distanceWeights distances distanceExtra
    + codedSize runWeights runLengthsCode runExtra + 3 * sent.length + 14
  let fixed := codedSize literalWeights fixedLiteralLengths literalExtra
    + codedSize distanceWeights fixedDistanceLengths distanceExtra
  let describedOctets := (described + 10) / 8
  let fixedOctets := (fixed + 10) / 8
  let flag := if last then 1 else 0
  if data.length + 4 ≤ min fixedOctets describedOctets then
    let sink := (sink.number flag 3).align
    { sink with bytes := sink.bytes ++
        (Bytes.u16 data.length ++ Bytes.u16 (65535 - data.length) ++ data).toArray }
  else if fixedOctets ≤ describedOctets then
    let sink := sink.number (2 + flag) 3
    (BlockCode.ofLengths fixedLiteralLengths fixedDistanceLengths).putTokens sink tokens
  else
    let sink := sink.number (4 + flag) 3
    let sink := sink.number (literals.length - 257) 5
    let sink := sink.number (distances.length - 1) 5
    let sink := sink.number (sent.length - 4) 4
    let sink := sent.foldl (fun sink length => sink.number length 3) sink
    let words := codeWords runLengthsCode
    let sink := runs.foldl (fun sink (symbol, value, width) =>
      (sink.word (words.getD symbol (0, 0))).number value width) sink
    (BlockCode.ofLengths literals distances).putTokens sink tokens

/-- Whether the tokens left make the last block: fewer than a full block, or a full block that a
literal ends, because the last literal is known only when the input has ended. -/
def endsStream (tokens : List Token) : Bool :=
  tokens.length < Matcher.blockTokens ||
    (tokens.length == Matcher.blockTokens && match tokens.getLast? with
      | some (.literal _) => true
      | _ => false)

/-- Full blocks, then a last one that may be empty. -/
def putBlocks : Nat → BitSink → Bytes → List Token → BitSink
  | 0, sink, _, _ => sink
  | fuel + 1, sink, data, tokens =>
    if endsStream tokens then putBlock sink true data tokens
    else
      let here := tokens.take Matcher.blockTokens
      let size := (here.map Token.span).sum
      putBlocks fuel (putBlock sink false (data.take size) here) (data.drop size)
        (tokens.drop Matcher.blockTokens)

/-- The compressed form of a byte string. -/
def deflate (bytes : Bytes) : Bytes :=
  let tokens := (Matcher.tokens bytes.toArray).toList
  (putBlocks (tokens.length + 1) {} bytes tokens).align.bytes.toList

end Zip
end ClassLoom
