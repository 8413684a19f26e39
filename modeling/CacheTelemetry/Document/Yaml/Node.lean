import CacheTelemetry.Document.Yaml.Tag
import CacheTelemetry.Document.Yaml.Tokens

/-!
# The nodes of a YAML document

A document is a graph: a node that is given a name may be referred to from several places, and even
from inside itself. `Graph.ofTokens` builds the graph from the tokens of a text, which must hold at
most one document. Nodes are numbered in the order in which they begin.

The grammar is followed by functions that take tokens from the front of those that are left. Each
call takes a token or ends one that did, so the number of tokens bounds the depth.
-/

namespace CacheTelemetry.Document.Yaml

/-- The number of a node. -/
abbrev NodeId := Nat

/-- What a node consists of. -/
inductive Shape where
  | scalar (content : Content)
  | sequence (items : List NodeId)
  | mapping (entries : List (NodeId × NodeId))
  deriving DecidableEq, Repr, Inhabited

/-- A node of a document. -/
structure Node where
  tag : Tag
  shape : Shape
  deriving DecidableEq, Repr, Inhabited

/-- The nodes of a document by their numbers. -/
abbrev Graph := Array Node

/-- How deep collections may be nested. -/
def maxDepth : Nat := 488

/-- What the standard handles stand for. -/
def standardHandles : List (String × String) := [("!", "!"), ("!!", Tag.standardLead)]

/-- A document that is being built. -/
structure Draft where
  /-- The tokens that are left. -/
  tokens : List Token
  /-- The fault behind the last token. -/
  fault : Option Fault
  nodes : Graph
  /-- The nodes that were given names. -/
  anchors : List (String × NodeId)
  /-- What the handles of tags stand for. -/
  handles : List (String × String)
  /-- How many further collections may be nested here. -/
  room : Nat
  deriving Inhabited

/-- Steps on a document that is being built. -/
abbrev Build := StateT Draft (Except Fault)

namespace Build

/-- The fault of a malformed text. -/
def fail {α : Type} : Build α := fun _ => malformed

/-- The next token, none at the end of the text. -/
def peek : Build (Option Token) := fun d =>
  match d.tokens, d.fault with
  | t :: _, _ => .ok (some t, d)
  | [], none => .ok (none, d)
  | [], some f => .error f

/-- Over one token. -/
def advance : Build Unit := modify fun d => { d with tokens := d.tokens.tail }

/-- Over the next token if it is the given one. -/
def skip? (t : Token) : Build Bool := do
  if (← peek) = some t then
    advance
    return true
  else return false

/-- Over the next token, which must be the given one. -/
def expect (t : Token) : Build Unit := do
  if !(← skip? t) then fail

/-- The next token is one of some. -/
def atAny (ts : List Token) : Build Bool := return (← peek).any ts.contains

/-! ### Nodes -/

/-- What may stand in front of a node: its name and its tag. -/
structure Properties where
  anchor : Option String
  tag : Option TagText

/-- The name of a node, if one follows. -/
def anchor? : Build (Option String) := do
  match ← peek with
  | some (.anchor name) =>
    advance
    return some name
  | _ => return none

/-- The tag of a node, if one follows. -/
def tag? : Build (Option TagText) := do
  match ← peek with
  | some (.tag t) =>
    advance
    return some t
  | _ => return none

/-- Name and tag of a node, in either order. -/
def properties : Build Properties := do
  match ← anchor? with
  | some name => return ⟨some name, ← tag?⟩
  | none =>
    match ← tag? with
    | some t => return ⟨← anchor?, some t⟩
    | none => return ⟨none, none⟩

/-- The text of a tag, with what its handle stands for. -/
def resolve (t : TagText) : Build String := do
  match t.handle with
  | none => return t.suffix
  | some handle =>
    match (← get).handles.lookup handle with
    | some lead => return lead ++ t.suffix
    | none => fail

/-- The tag given to a node. A single exclamation mark leaves the choice to the form. -/
def givenTag (t : Option TagText) : Build (Option String) := do
  match t with
  | some t => return some (← resolve t)
  | none => return none

/-- A new node. Its name must be new in the document. -/
def place (name : Option String) (node : Node) : Build NodeId := do
  let d ← get
  let id := d.nodes.size
  match name with
  | none =>
    set { d with nodes := d.nodes.push node }
    return id
  | some name =>
    if (d.anchors.lookup name).isSome then fail
    else
      set { d with nodes := d.nodes.push node, anchors := (name, id) :: d.anchors }
      return id

/-- A scalar that is left out: null. -/
def empty : Build NodeId := place none ⟨.null, .scalar []⟩

/-- The characters of a content. What is no character is replaced. -/
def chars (content : Content) : List Char :=
  content.map fun n => if n.isValidChar then Char.ofNat n else '\ufffd'

/-- A scalar. Without a tag the form decides about a plain one, and with the tag `!` about any. -/
def scalar (name : Option String) (tag : Option String) (plain : Bool) (content : Content) :
    Build NodeId :=
  let byForm := Tag.ofScalar (chars content)
  let tag := match tag with
    | none => if plain then byForm else .str
    | some t => if t = "!" then byForm else .ofText t
  place name ⟨tag, .scalar content⟩

/-- What is built one level further inside. -/
def nested {α : Type} (inner : Build α) : Build α := do
  let room := (← get).room
  if room = 0 then fun _ => .error .tooDeep
  else
    modify fun d => { d with room := room - 1 }
    let a ← inner
    modify fun d => { d with room := room }
    return a

/-- A collection: it has its number and its name before what is inside it. -/
def enclose (name : Option String) (tag : Option String) (standard : Tag) (inner : Build Shape) :
    Build NodeId := do
  let tag := match tag with
    | none => standard
    | some t => if t = "!" then standard else .ofText t
  let id ← place name ⟨tag, .sequence []⟩
  let shape ← nested inner
  modify fun d => { d with nodes := d.nodes.setIfInBounds id ⟨tag, shape⟩ }
  return id

/-- The node that a reference names. -/
def referent (name : String) : Build NodeId := do
  match (← get).anchors.lookup name with
  | some id => return id
  | none => fail

/-- A node of which there is nothing but a name or a tag. -/
def bare (name : Option String) (tag : Option String) : Build NodeId :=
  if name.isSome ∨ tag.isSome then scalar name tag true [] else fail

/-- Where a node stands: inside brackets, in a block, or in a block where a sequence need not be
indented. -/
inductive Position where
  | flow
  | block
  | entry
  deriving DecidableEq, Repr, Inhabited

mutual

/-- A node. -/
def node (n : Nat) (p : Position) : Build NodeId :=
  match n with
  | 0 => fail
  | n + 1 => do
    match ← peek with
    | some (.reference name) =>
      advance
      referent name
    | _ =>
      let ⟨name, t⟩ ← properties
      let tag ← givenTag t
      match p, ← peek with
      | .entry, some .blockEntry => enclose name tag .seq (.sequence <$> looseItems n)
      | _, some (.scalar plain content) =>
        advance
        scalar name tag plain content
      | _, some .flowSequenceStart =>
        advance
        enclose name tag .seq (.sequence <$> flowItems n true)
      | _, some .flowMappingStart =>
        advance
        enclose name tag .map (.mapping <$> flowEntries n true)
      | .flow, _ => bare name tag
      | _, some .blockSequenceStart =>
        advance
        enclose name tag .seq (.sequence <$> blockItems n)
      | _, some .blockMappingStart =>
        advance
        enclose name tag .map (.mapping <$> blockEntries n)
      | _, _ => bare name tag

/-- A node that may be left out in front of some tokens. -/
def part (n : Nat) (p : Position) (stops : List Token) : Build NodeId :=
  match n with
  | 0 => fail
  | n + 1 => do
    if ← atAny stops then empty else node n p

/-- A value behind its sign, or nothing if there is no sign. -/
def valuePart (n : Nat) (p : Position) (stops : List Token) : Build NodeId :=
  match n with
  | 0 => fail
  | n + 1 => do
    if ← skip? .value then part n p stops else empty

/-- The items of a sequence in a block. -/
def blockItems (n : Nat) : Build (List NodeId) :=
  match n with
  | 0 => fail
  | n + 1 => do
    if ← skip? .blockEntry then
      let item ← part n .block [.blockEntry, .blockEnd]
      return item :: (← blockItems n)
    else
      expect .blockEnd
      return []

/-- The items of a sequence in a block that is not indented. -/
def looseItems (n : Nat) : Build (List NodeId) :=
  match n with
  | 0 => fail
  | n + 1 => do
    if ← skip? .blockEntry then
      let item ← part n .block [.blockEntry, .key, .value, .blockEnd]
      return item :: (← looseItems n)
    else return []

/-- The entries of a mapping in a block. -/
def blockEntries (n : Nat) : Build (List (NodeId × NodeId)) :=
  match n with
  | 0 => fail
  | n + 1 => do
    if ← skip? .key then
      let stops := [.key, .value, .blockEnd]
      let key ← part n .entry stops
      let value ← valuePart n .entry stops
      return (key, value) :: (← blockEntries n)
    else
      expect .blockEnd
      return []

/-- The items of a sequence between brackets; all but the first follow a comma. A key makes an item
a mapping with one entry. -/
def flowItems (n : Nat) (first : Bool) : Build (List NodeId) :=
  match n with
  | 0 => fail
  | n + 1 => do
    if ← skip? .flowSequenceEnd then return []
    if !first then expect .flowEntry
    if ← skip? .flowSequenceEnd then return []
    if ← skip? .key then
      let stops := [.flowEntry, .flowSequenceEnd]
      let pair := do
        let key ← part n .flow (.value :: stops)
        let value ← valuePart n .flow stops
        return Shape.mapping [(key, value)]
      let item ← enclose none none .map pair
      return item :: (← flowItems n false)
    else
      let item ← node n .flow
      return item :: (← flowItems n false)

/-- The entries of a mapping between braces; all but the first follow a comma. -/
def flowEntries (n : Nat) (first : Bool) : Build (List (NodeId × NodeId)) :=
  match n with
  | 0 => fail
  | n + 1 => do
    if ← skip? .flowMappingEnd then return []
    if !first then expect .flowEntry
    if ← skip? .flowMappingEnd then return []
    let stops := [.flowEntry, .flowMappingEnd]
    if ← skip? .key then
      let key ← part n .flow (.value :: stops)
      let value ← valuePart n .flow stops
      return (key, value) :: (← flowEntries n false)
    else
      let key ← node n .flow
      let value ← empty
      return (key, value) :: (← flowEntries n false)

end

/-! ### Documents -/

/-- What the directives in front of a document have said. -/
structure Preamble where
  versioned : Bool
  handles : List (String × String)

/-- The directives in front of a document. One version may be given, and each handle be set once. -/
def directives : Nat → Preamble → Build Preamble
  | 0, p => return p
  | n + 1, p => do
    match ← peek with
    | some (.directive d) =>
      advance
      match d with
      | .version major =>
        if p.versioned ∨ major ≠ 1 then fail else directives n { p with versioned := true }
      | .tagHandle handle lead =>
        if (p.handles.lookup handle).isSome then fail
        else directives n { p with handles := (handle, lead) :: p.handles }
      | .unknown => directives n p
    | _ => return p

/-- The root of a document that starts with a line of its own. -/
def explicitRoot (n : Nat) : Build NodeId := do
  let p ← directives n ⟨false, []⟩
  modify fun d => { d with handles := p.handles ++ standardHandles }
  expect .documentStart
  match ← peek with
  | none | some (.directive _) | some .documentStart | some .documentEnd => empty
  | _ => node n .block

/-- The root of the document, if there is one. -/
def root? (n : Nat) : Build (Option NodeId) := do
  match ← peek with
  | none => return none
  | some (.directive _) | some .documentStart => return some (← explicitRoot n)
  | _ => return some (← node n .block)

/-- The end of the text, perhaps behind lines that end a document. A second document may not follow;
its directives are looked at all the same, and what comes behind them. -/
def finish : Nat → Build Unit
  | 0 => fail
  | n + 1 => do
    if ← skip? .documentEnd then finish n
    else if (← peek).isSome then
      let _ ← directives n ⟨false, []⟩
      let _ ← peek
      fail

end Build

/-- The graph that the tokens of a text describe, with the number of its root; nothing if there is
no document. -/
def Graph.ofTokens (ts : Tokens) : Except Fault (Option (Graph × NodeId)) := do
  let n := 4 * ts.items.length + 4
  let build : Build (Option NodeId) := do
    let root ← Build.root? n
    Build.finish n
    return root
  let (root, d) ← build.run ⟨ts.items, ts.fault, #[], [], standardHandles, maxDepth⟩
  return root.map fun id => (d.nodes, id)

end CacheTelemetry.Document.Yaml
