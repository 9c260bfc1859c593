import ClassLoom.Yaml.Tag
import ClassLoom.Yaml.Token

namespace ClassLoom
namespace Yaml

/-!
# Nodes

A node is a scalar, a list or a table, each with a tag.  An alias is the node of its anchor, so no
alias is left in a tree of nodes; an alias inside of its own node has no such tree and is refused
where it is used.

A reader takes tokens from the front.  What is missing between two tokens is an empty scalar.
-/

/-- A node. -/
inductive Node where
  | scalar (tag text : String)
  | list (tag : String) (items : List Node)
  | table (tag : String) (entries : List (Node × Node))
  | circular (anchor : String)
  deriving Repr, Inhabited

namespace Node

/-- An empty plain scalar. -/
def empty : Node := .scalar (plainTag "") ""

/-- The state of the composition: the tokens that are left, the anchors with their nodes, none while
a node is not complete, and the tag handles. -/
structure Supply where
  tokens : List Token
  anchors : List (String × Option Node)
  handles : List (String × String)

/-- Work that takes tokens. -/
abbrev Composing (α : Type) := StateT Supply (Except Refusal) α

/-- The next token. -/
def peek : Composing Token := do return (← get).tokens.headD .textEnd

/-- Take the next token. -/
def drop : Composing Unit :=
  modify fun supply => { supply with tokens := supply.tokens.drop 1 }

/-- Refuse the next token, or say why there is none. -/
def refuse {α : Type} (complaint : Complaint) : Composing α := do
  match ← peek with
  | .refused refusal => throw refusal
  | _ => throw (.malformed none complaint)

/-- Take the next token if it is the one that is asked for. -/
def takeIf (test : Token → Bool) : Composing Bool := do
  if test (← peek) then
    drop
    return true
  return false

def isItem : Token → Bool | .item => true | _ => false
def isKey : Token → Bool | .key => true | _ => false
def isValue : Token → Bool | .value => true | _ => false
def isComma : Token → Bool | .comma => true | _ => false
def isBlockEnd : Token → Bool | .blockEnd => true | _ => false
def isListEnd : Token → Bool | .listEnd => true | _ => false
def isTableEnd : Token → Bool | .tableEnd => true | _ => false
def isDocumentEnd : Token → Bool | .documentEnd => true | _ => false
def isDocumentStart : Token → Bool | .documentStart => true | _ => false
def isTextEnd : Token → Bool | .textEnd => true | _ => false

/-- The anchor that is next. -/
def takeAnchor : Composing (Option String) := do
  match ← peek with
  | .anchor name =>
    drop
    return some name
  | _ => return none

/-- The tag that is next, its handle replaced by what it stands for. -/
def takeTag : Composing (Option String) := do
  match ← peek with
  | .tag none suffix =>
    drop
    return some suffix
  | .tag (some handle) suffix =>
    drop
    match (← get).handles.lookup handle with
    | some start => return some (start ++ suffix)
    | none => throw (.malformed none (.unknownHandle handle))
  | _ => return none

/-- Anchor and tag before a node, in either order. -/
def properties : Composing (Option String × Option String) := do
  match ← takeAnchor with
  | some anchor => return (some anchor, ← takeTag)
  | none =>
    let tag ← takeTag
    match tag with
    | some _ => return (← takeAnchor, tag)
    | none => return (none, none)

/-- The tag of a list or a table. -/
def collectionTag (name : String) : Option String → String
  | none => standardTag name
  | some tag => if tag == "!" then standardTag name else tag

/-- The tag of a scalar. -/
def scalarTag (plain : Bool) (text : String) : Option String → String
  | none => if plain then plainTag text else standardTag "str"
  | some tag => if tag == "!" then plainTag text else tag

/-- Note that the node of an anchor has begun. -/
def begin_ : Option String → Composing Unit
  | none => return
  | some name => do
    if ((← get).anchors.lookup name).isSome then
      throw (.malformed none (.secondAnchor name))
    modify fun supply => { supply with anchors := (name, none) :: supply.anchors }

/-- Note the node of an anchor. -/
def finish (anchor : Option String) (node : Node) : Composing Node := do
  match anchor with
  | none => return node
  | some name =>
    modify fun supply => { supply with anchors := (name, some node) :: supply.anchors }
    return node

/-- The node that an alias stands for. -/
def aliased (name : String) : Composing Node := do
  match (← get).anchors.lookup name with
  | none => throw (.malformed none (.unknownAnchor name))
  | some none => return .circular name
  | some (some node) => return node

/-- The place of a node: whether blocks may start there, and whether items without indentation. -/
inductive Setting where
  | flow | block | blockOrItems
  deriving Repr, DecidableEq

mutual

/-- A node. -/
def node (setting : Setting) : Nat → Composing Node
  | 0 => refuse (.expected "fewer levels")
  | fuel + 1 => do
    match ← peek with
    | .alias name =>
      drop
      aliased name
    | _ =>
      let (anchor, tag) ← properties
      let found ← peek
      match found, setting with
      | .item, .blockOrItems =>
        begin_ anchor
        finish anchor (.list (collectionTag "seq" tag) (← looseItems fuel))
      | .scalar plain text, _ =>
        drop
        begin_ anchor
        finish anchor (.scalar (scalarTag plain text tag) text)
      | .listStart, _ =>
        drop
        begin_ anchor
        finish anchor (.list (collectionTag "seq" tag) (← flowItems true fuel))
      | .tableStart, _ =>
        drop
        begin_ anchor
        finish anchor (.table (collectionTag "map" tag) (← flowEntries true fuel))
      | .itemsStart, .block =>
        drop
        begin_ anchor
        finish anchor (.list (collectionTag "seq" tag) (← blockItems fuel))
      | .itemsStart, .blockOrItems =>
        drop
        begin_ anchor
        finish anchor (.list (collectionTag "seq" tag) (← blockItems fuel))
      | .keysStart, .block =>
        drop
        begin_ anchor
        finish anchor (.table (collectionTag "map" tag) (← blockEntries fuel))
      | .keysStart, .blockOrItems =>
        drop
        begin_ anchor
        finish anchor (.table (collectionTag "map" tag) (← blockEntries fuel))
      | _, _ =>
        if anchor.isSome || tag.isSome then
          begin_ anchor
          let kind := match tag with
            | none => plainTag ""
            | some tag => if tag == "!" then plainTag "" else tag
          finish anchor (.scalar kind "")
        else refuse (.expected "the node content")

/-- A node, or an empty scalar where a token that ends it is next. -/
def nodeUnless (ends : Token → Bool) (setting : Setting) : Nat → Composing Node
  | 0 => refuse (.expected "fewer levels")
  | fuel + 1 => do
    if ends (← peek) then return .empty
    node setting fuel

/-- The items of a block. -/
def blockItems : Nat → Composing (List Node)
  | 0 => refuse (.expected "fewer items")
  | fuel + 1 => do
    if ← takeIf isItem then
      let item ← nodeUnless (fun t => isItem t || isBlockEnd t) .block fuel
      return item :: (← blockItems fuel)
    if ← takeIf isBlockEnd then return []
    refuse (.expected "the end of a block")

/-- Items that are indented no more than the key before them. -/
def looseItems : Nat → Composing (List Node)
  | 0 => refuse (.expected "fewer items")
  | fuel + 1 => do
    if ← takeIf isItem then
      let item ← nodeUnless (fun t => isItem t || isKey t || isValue t || isBlockEnd t) .block fuel
      return item :: (← looseItems fuel)
    return []

/-- The value of an entry in a block. -/
def blockValue : Nat → Composing Node
  | 0 => refuse (.expected "fewer levels")
  | fuel + 1 => do
    if ← takeIf isValue then
      nodeUnless (fun t => isKey t || isValue t || isBlockEnd t) .blockOrItems fuel
    else return .empty

/-- The entries of a block. -/
def blockEntries : Nat → Composing (List (Node × Node))
  | 0 => refuse (.expected "fewer entries")
  | fuel + 1 => do
    if ← takeIf isKey then
      let name ← nodeUnless (fun t => isKey t || isValue t || isBlockEnd t) .blockOrItems fuel
      let value ← blockValue fuel
      return (name, value) :: (← blockEntries fuel)
    if ← takeIf isBlockEnd then return []
    refuse (.expected "the end of a block")

/-- The value of an entry between brackets. -/
def flowValue (ends : Token → Bool) : Nat → Composing Node
  | 0 => refuse (.expected "fewer levels")
  | fuel + 1 => do
    if ← takeIf isValue then nodeUnless (fun t => isComma t || ends t) .flow fuel
    else return .empty

/-- The items between square brackets; a key there starts a table of one entry. -/
def flowItems (first : Bool) : Nat → Composing (List Node)
  | 0 => refuse (.expected "fewer items")
  | fuel + 1 => do
    if ← takeIf isListEnd then return []
    if !first then
      if !(← takeIf isComma) then refuse (.expected "a comma or a bracket")
      if ← takeIf isListEnd then return []
    let item ←
      if ← takeIf isKey then do
        let name ← nodeUnless (fun t => isValue t || isComma t || isListEnd t) .flow fuel
        let value ← flowValue isListEnd fuel
        pure (.table (standardTag "map") [(name, value)])
      else node .flow fuel
    return item :: (← flowItems false fuel)

/-- The entries between braces. -/
def flowEntries (first : Bool) : Nat → Composing (List (Node × Node))
  | 0 => refuse (.expected "fewer entries")
  | fuel + 1 => do
    if ← takeIf isTableEnd then return []
    if !first then
      if !(← takeIf isComma) then refuse (.expected "a comma or a brace")
      if ← takeIf isTableEnd then return []
    let entry ←
      if ← takeIf isKey then do
        let name ← nodeUnless (fun t => isValue t || isComma t || isTableEnd t) .flow fuel
        let value ← flowValue isTableEnd fuel
        pure (name, value)
      else do
        let name ← node .flow fuel
        pure (name, .empty)
    return entry :: (← flowEntries false fuel)

end

/-! ## Documents -/

/-- The tag handles that need no directive. -/
def standardHandles : List (String × String) := [("!", "!"), ("!!", standardTag "")]

/-- Take the directives before a document. -/
def directives (version : Bool) (handles : List (String × String)) :
    Nat → Composing (List (String × String))
  | 0 => return handles
  | fuel + 1 => do
    match ← peek with
    | .directive (.version major _) =>
      drop
      if version then throw (.malformed none .secondVersion)
      if major ≠ 1 then throw (.malformed none .otherVersion)
      directives true handles fuel
    | .directive (.tagHandle handle start) =>
      drop
      if (handles.lookup handle).isSome then throw (.malformed none (.secondHandle handle))
      directives version ((handle, start) :: handles) fuel
    | .directive (.other _) =>
      drop
      directives version handles fuel
    | _ => return handles ++ standardHandles

/-- Skip marks of a document's end. -/
def skipEnds : Nat → Composing Unit
  | 0 => return
  | fuel + 1 => do
    if ← takeIf isDocumentEnd then skipEnds fuel

/-- The node of a document that starts with its mark; it is none where the text ends. -/
def markedDocument (fuel : Nat) : Composing (Option Node) := do
  skipEnds fuel
  if isTextEnd (← peek) then return none
  let handles ← directives false [] fuel
  modify fun supply => { supply with handles }
  if !(← takeIf isDocumentStart) then refuse (.expected "the start of a document")
  match ← peek with
  | .directive _ => return some .empty
  | .documentStart => return some .empty
  | .documentEnd => return some .empty
  | .textEnd => return some .empty
  | _ => return some (← node .block fuel)

/-- The first document of a text. -/
def firstDocument (fuel : Nat) : Composing (Option Node) := do
  match ← peek with
  | .directive _ => markedDocument fuel
  | .documentStart => markedDocument fuel
  | .textEnd => return none
  | _ => return some (← node .block fuel)

/-- The node of a text with at most one document. -/
def onlyDocument (fuel : Nat) : Composing (Option Node) := do
  match ← firstDocument fuel with
  | none => return none
  | some found =>
    let _ ← takeIf isDocumentEnd
    skipEnds fuel
    if isTextEnd (← peek) then return some found
    let _ ← directives false [] fuel
    if isDocumentStart (← peek) then throw (.malformed none .secondDocument)
    refuse (.expected "the start of a document")

/-- The node of a text, which holds one document or none. -/
def ofText? (text : List Char) : Except Refusal (Option Node) := do
  let tokens := Token.ofText text
  let (found, _) ← (onlyDocument (2 * tokens.length + 10)).run ⟨tokens, [], standardHandles⟩
  return found

end Node
end Yaml
end ClassLoom
