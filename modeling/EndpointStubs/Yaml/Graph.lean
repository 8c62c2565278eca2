import EndpointStubs.Yaml.Kind

/-!
# The graph of nodes

A YAML text is a graph: a reference leads to the very node it names, which may
be a collection around the reference. The nodes are numbered, and collections
hold the numbers of what is inside of them.
-/

namespace EndpointStubs.Yaml

abbrev NodeId := Nat

inductive Content where
  | scalar (text : LooseText)
  | sequence (items : List NodeId)
  | mapping (entries : List (NodeId × NodeId))
  deriving DecidableEq, Repr

structure Node where
  kind : Kind
  content : Content
  deriving DecidableEq, Repr

/-- What stands where a node is left out. -/
def Node.absent : Node :=
  ⟨.null, .scalar []⟩

structure Graph where
  nodes : Array Node := #[]

namespace Graph

def node (g : Graph) (id : NodeId) : Node :=
  g.nodes[id]?.getD .absent

def kind (g : Graph) (id : NodeId) : Kind :=
  (g.node id).kind

def content (g : Graph) (id : NodeId) : Content :=
  (g.node id).content

/-- The entries of a mapping; nothing else has any. -/
def entries (g : Graph) (id : NodeId) : List (NodeId × NodeId) :=
  match g.content id with
  | .mapping entries => entries
  | _ => []

def isMapping (g : Graph) (id : NodeId) : Bool :=
  match g.content id with
  | .mapping _ => true
  | _ => false

/-- How many entries the mappings have together. -/
def entryCount (g : Graph) : Nat :=
  g.nodes.foldl (fun n node ↦
    match node.content with
    | .mapping entries => n + entries.length
    | _ => n) 0

def setContent (g : Graph) (id : NodeId) (content : Content) : Graph :=
  ⟨g.nodes.modify id fun node ↦ { node with content }⟩

def setKind (g : Graph) (id : NodeId) (kind : Kind) : Graph :=
  ⟨g.nodes.modify id fun node ↦ { node with kind }⟩

/-- The entries before the first one that merges, the value of that one, and the entries
after it. -/
def splitAtMerge (g : Graph) :
    List (NodeId × NodeId) → Option (List (NodeId × NodeId) × NodeId × List (NodeId × NodeId))
  | [] => none
  | (key, value) :: rest =>
    if g.kind key = .merge then some ([], value, rest)
    else
      (g.splitAtMerge rest).map fun (before, merged, after) ↦
        ((key, value) :: before, merged, after)

/-- Keys of the default kind are texts in a mapping. -/
def settleKeys (g : Graph) (entries : List (NodeId × NodeId)) : Graph :=
  entries.foldl (fun g (key, _) ↦ if g.kind key = .default then g.setKind key .text else g) g

mutual

/-- Replaces the entries of a mapping that merge by the entries of the mappings they name.
Those come in front, after the ones that are `merged` already. An entry is taken out
before the mappings it names are looked at, so a mapping may name itself. -/
def mergeInto (g : Graph) (id : NodeId) (merged : List (NodeId × NodeId)) :
    Nat → Except Error Graph
  | 0 => .error .malformed
  | fuel + 1 => do
    let entries := g.entries id
    match g.splitAtMerge entries with
    | none => return (g.settleKeys entries).setContent id (.mapping (merged ++ entries))
    | some (before, value, after) =>
      let (g, more) ← namedEntries (g.setContent id (.mapping (before ++ after))) value fuel
      mergeInto g id (merged ++ more) fuel

/-- The entries of the mapping or mappings that a merging entry names; those of earlier
mappings come after those of later ones. -/
def namedEntries (g : Graph) (value : NodeId) :
    Nat → Except Error (Graph × List (NodeId × NodeId))
  | 0 => .error .malformed
  | fuel + 1 =>
    match g.content value with
    | .mapping _ => do
      let g ← mergeInto g value [] fuel
      return (g, g.entries value)
    | .sequence items =>
      items.foldlM (fun (g, named) item ↦ do
        if !g.isMapping item then .error .malformed
        else
          let g ← mergeInto g item [] fuel
          return (g, g.entries item ++ named)) (g, [])
    | .scalar _ => .error .malformed

end

/-- The graph with the entries of a mapping merged. Every merge takes an entry away, so
the fuel suffices. -/
def merge (g : Graph) (id : NodeId) : Except Error Graph :=
  g.mergeInto id [] (2 * g.entryCount + 2)

/-- The text of a scalar. Where a mapping stands for a scalar, it is that of the value with
the default key. -/
def textFrom (g : Graph) : Nat → NodeId → Except Error LooseText
  | 0, _ => .error .endless
  | fuel + 1, id =>
    match g.content id with
    | .scalar text => .ok text
    | .sequence _ => .error .malformed
    | .mapping entries =>
      match entries.find? fun (key, _) ↦ g.kind key = .default with
      | some (_, value) => g.textFrom fuel value
      | none => .error .malformed

/-- The text of a scalar; more steps than there are nodes have no end. -/
def text (g : Graph) (id : NodeId) : Except Error LooseText :=
  g.textFrom (g.nodes.size + 1) id

end Graph

end EndpointStubs.Yaml
