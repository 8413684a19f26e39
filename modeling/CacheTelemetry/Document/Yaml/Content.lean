import CacheTelemetry.Document.Yaml.Binary
import CacheTelemetry.Document.Yaml.Node

/-!
# The value of a YAML document

What the nodes of a document stand for. `Graph.toValue` gives the value of a root. Scalars become
values by their tags. If the root is a mapping its entries are known; collections further inside
may contain themselves, and only the fact that they are collections is kept of them.

All nodes are gone through, level by level: each scalar must fit its tag, each collection its kind,
and no collection may be a key. Mappings under a merge key give their entries to the mapping around
them, in front of its own.
-/

namespace CacheTelemetry.Document.Yaml

/-- A document whose nodes are being gone through. -/
structure Tour where
  nodes : Graph
  /-- The collections that have been met, in the order in which they were met. -/
  met : Array NodeId
  deriving Inhabited

/-- Steps on a document whose nodes are being gone through. -/
abbrev Visit := StateT Tour (Except Fault)

namespace Visit

/-- Ends in a fault. -/
def fail {α : Type} (f : Fault) : Visit α := fun _ => .error f

/-- The fault of a node that does not fit its tag or its place. -/
def misfit {α : Type} : Visit α := fail (.malformed .yaml)

/-- The node with a number. -/
def nodeAt (id : NodeId) : Visit Node := return (← get).nodes[id]?.getD default

/-- The entries of a mapping. -/
def entriesAt (id : NodeId) : Visit (List (NodeId × NodeId)) := do
  match (← nodeAt id).shape with
  | .mapping entries => return entries
  | _ => misfit

/-- Changes a node. -/
def update (id : NodeId) (f : Node → Node) : Visit Unit :=
  modify fun t => { t with nodes := t.nodes.modify id f }

/-! ### Scalars -/

/-- The content of a scalar, or of what stands under the value key of a mapping. A chain of more
than `n` mappings leads back into itself. -/
def contentAt : Nat → NodeId → Visit Content
  | 0, _ => fail .tooDeep
  | n + 1, id => do
    let nodes := (← get).nodes
    let isValueKey := fun (k : NodeId) => (nodes[k]?.map (·.tag)) == some Tag.value
    match (← nodeAt id).shape with
    | .scalar content => return content
    | .sequence _ => misfit
    | .mapping entries =>
      match entries.find? fun e => isValueKey e.1 with
      | some (_, v) => contentAt n v
      | none => misfit

/-- The truth value of a word. -/
def flag (cs : List Char) : Visit Value :=
  let w := Text.lowerAscii (String.ofList cs)
  if w ∈ ["yes", "true", "on"] then return .bool true
  else if w ∈ ["no", "false", "off"] then return .bool false
  else fail .unknownFlag

/-- The octets of a text in base 64. -/
def octets (cs : List Char) : Visit Value :=
  match Binary.decode? cs with
  | some bytes => if cs.all fun c => c.toNat < 0x80 then return .special (.bytes bytes) else misfit
  | none => misfit

/-- A moment, from a scalar. -/
def moment (shape : Shape) (cs : List Char) : Visit Value :=
  match shape with
  | .scalar _ =>
    match Moment.parse? (Tag.dropLastBreak cs) with
    | some m => if m.isPossible then return .special .moment else fail .impossibleValue
    | none => fail .unknownMoment
  | _ => fail .momentNotText

/-- The value of a node that is no collection. -/
def scalar (node : Node) (content : Content) : Visit Value :=
  let cs := Build.chars content
  match node.tag with
  | .null => return .null
  | .bool => flag cs
  | .int => return .int (← readInteger cs)
  | .float => return .float (← readFloat cs)
  | .binary => octets cs
  | .timestamp => moment node.shape cs
  | .str => return ofCodePoints content
  | _ => misfit

/-- The value of a node. A collection is put off. -/
def visit (id : NodeId) : Visit Value := do
  let node ← nodeAt id
  if node.tag.isCollection then
    modify fun t => if t.met.contains id then t else { t with met := t.met.push id }
    return .special .collection
  else if node.tag ∈ [.merge, .value, .other] then misfit
  else scalar node (← contentAt ((← get).nodes.size + 1) id)

/-! ### Merging -/

/-- The first entry of a mapping with a merge key, with its position. -/
def firstMerge? (id : NodeId) : Visit (Option (Nat × NodeId)) := do
  let nodes := (← get).nodes
  let isMerge := fun (e : NodeId × NodeId) => (nodes[e.1]?.map (·.tag)) == some Tag.merge
  let entries ← entriesAt id
  return (entries.findIdx? isMerge).bind fun i => entries[i]?.map fun e => (i, e.2)

/-- Puts entries in front of those of a mapping, in which a value key is a text like others. -/
def prepend (id : NodeId) (merged : List (NodeId × NodeId)) : Visit Unit := do
  let own ← entriesAt id
  for (k, _) in own do
    update k fun node => if node.tag = .value then { node with tag := .str } else node
  update id fun node => { node with shape := .mapping (merged ++ own) }

/-- Removes the merge keys of a mapping one after the other, and collects the entries that they
take over. In turn the merge keys of the mappings that these come from are resolved. Each of the `n`
steps removes a merge key. -/
def takeMerges : Nat → NodeId → Visit (List (NodeId × NodeId))
  | 0, _ => return []
  | n + 1, id => do
    let flattened := fun (s : NodeId) => do
      let _ ← entriesAt s
      prepend s (← takeMerges n s)
      entriesAt s
    match ← firstMerge? id with
    | none => return []
    | some (i, source) =>
      let own ← entriesAt id
      update id fun node => { node with shape := .mapping (own.eraseIdx i) }
      let taken ← match (← nodeAt source).shape with
        | .mapping _ => flattened source
        | .sequence items => do
          let parts ← items.mapM flattened
          pure parts.reverse.flatten
        | .scalar _ => misfit
      return taken ++ (← takeMerges n id)

/-- The number of entries of all mappings. -/
def entryCount (g : Graph) : Nat :=
  g.foldl (fun n node => match node.shape with
    | .mapping entries => n + entries.length
    | _ => n) 0

/-- Resolves the merge keys of a mapping. -/
def flatten (id : NodeId) : Visit Unit := do
  prepend id (← takeMerges (entryCount (← get).nodes + 1) id)

/-! ### Collections -/

/-- An entry of a mapping. -/
def entry (e : NodeId × NodeId) : Visit (Value × Value) := do
  let key ← visit e.1
  if (← nodeAt e.1).tag.isCollection then misfit
  else return (key, ← visit e.2)

/-- An item of a list of pairs: a mapping with one entry. -/
def pair (id : NodeId) : Visit Unit := do
  match (← nodeAt id).shape with
  | .mapping [(k, v)] =>
    let _ ← visit k
    let _ ← visit v
  | _ => misfit

/-- Goes through the nodes inside a collection; the entries, if it is a mapping. -/
def inside (id : NodeId) : Visit (List (Value × Value)) := do
  let node ← nodeAt id
  match node.tag, node.shape with
  | .map, .mapping _ | .set, .mapping _ =>
    flatten id
    (← entriesAt id).mapM entry
  | .seq, .sequence items =>
    let _ ← items.mapM visit
    return []
  | .omap, .sequence items | .pairs, .sequence items =>
    items.forM pair
    return []
  | _, _ => misfit

/-- Goes through the collections that have been met, from the one at a position on. Each of them is
met once, so the number of nodes bounds the number of steps. -/
def others : Nat → Nat → Visit Unit
  | 0, _ => return
  | n + 1, i => do
    match (← get).met[i]? with
    | none => return
    | some id =>
      let _ ← inside id
      others n (i + 1)

/-- The value of a root. -/
def root (id : NodeId) : Visit Value := do
  let node ← nodeAt id
  let v ← visit id
  if node.tag.isCollection then
    let entries ← inside id
    others (← get).nodes.size 1
    return if node.tag = .map then .dict entries else v
  else return v

end Visit

/-- The value of a document with a root. -/
def Graph.toValue (g : Graph) (root : NodeId) : Except Fault Value :=
  ((Visit.root root).run ⟨g, #[]⟩).map Prod.fst

end CacheTelemetry.Document.Yaml
