import EndpointStubs.Document
import EndpointStubs.Yaml.Binary
import EndpointStubs.Yaml.Reading

/-!
# Documents from YAML

Every node of the graph is checked. The root comes first and then, collection by
collection in the order they are met, what is inside of them: of several faults
the first one in this order counts. The document itself is flat: what the
collections inside of the outermost one hold is checked but left out of it.
-/

namespace EndpointStubs.Yaml

def trueWords : List String :=
  ["yes", "true", "on"]

def falseWords : List String :=
  ["no", "false", "off"]

def boolDocument (text : LooseText) : Except Error Document :=
  let isOneOf (words : List String) : Bool := words.any fun word ↦ Text.lower text = word
  if isOneOf trueWords then .ok (.bool true)
  else if isOneOf falseWords then .ok (.bool false)
  else .error .notBool

def timeDocument (text : LooseText) : Except Error Document :=
  match text.chars?.bind fun chars ↦ moment? (withoutLastBreak chars) with
  | none => .error .notTime
  | some m => m.check.map fun _ ↦ if m.time.isSome then .dateTime else .date

/-- The document of a node that is no collection. -/
def Graph.scalarDocument (g : Graph) (id : NodeId) : Except Error Document :=
  let withText (f : LooseText → Except Error Document) : Except Error Document := g.text id >>= f
  match g.kind id with
  | .null => withText fun _ ↦ .ok .null
  | .bool => withText boolDocument
  | .integer => withText fun text ↦ (integer text).map .integer
  | .decimal => withText fun text ↦ (decimalIsZero text).map .decimal
  | .binary => withText fun text ↦
    match text.chars?.bind binary? with
    | some content => .ok (.bytes content)
    | none => .error .malformed
  | .time => withText fun text ↦
    if g.isMapping id then .error .timeInMapping else timeDocument text
  | .text => withText fun text ↦ .ok (.text text)
  | _ => .error .malformed

/-- What stands for a collection before it is filled. -/
def Kind.shell? : Kind → Option Document
  | .list | .entryList => some (.list [])
  | .mapping => some (.mapping [])
  | .set => some (.set [])
  | _ => none

structure Loading where
  graph : Graph
  /-- The documents of the nodes met so far; of collections, their shells. -/
  documents : Array (Option Document)
  /-- The collections that are to be filled, in this order. -/
  waiting : List NodeId := []

namespace Loading

def document? (l : Loading) (id : NodeId) : Option Document :=
  l.documents[id]?.join

def remember (l : Loading) (id : NodeId) (document : Document) : Loading :=
  { l with documents := l.documents.setIfInBounds id (some document) }

/-- Meets a node: a scalar is read, a collection is to be filled later. -/
def meet (l : Loading) (id : NodeId) : Except Error Loading :=
  if (l.document? id).isSome then .ok l
  else
    match (l.graph.kind id).shell? with
    | some shell => .ok { l.remember id shell with waiting := l.waiting ++ [id] }
    | none => return l.remember id (← l.graph.scalarDocument id)

def meetAll (l : Loading) (ids : List NodeId) : Except Error Loading :=
  ids.foldlM meet l

/-- The entries of a mapping are met in order, each key before its value. Collections
cannot be keys. -/
def meetEntries (l : Loading) (entries : List (NodeId × NodeId)) : Except Error Loading :=
  entries.foldlM (fun l (key, value) ↦ do
    let l ← l.meet key
    if (l.document? key).any Document.isCollection then .error .malformed else l.meet value) l

/-- Meets what is inside of a collection. -/
def fill (l : Loading) (id : NodeId) : Except Error Loading :=
  match l.graph.kind id, l.graph.content id with
  | .list, .sequence items => l.meetAll items
  | .entryList, .sequence items =>
    items.foldlM (fun l item ↦
      match l.graph.content item with
      | .mapping [(key, value)] => l.meetAll [key, value]
      | _ => .error .malformed) l
  | .mapping, .mapping _ | .set, .mapping _ => do
    let graph ← l.graph.merge id
    { l with graph }.meetEntries (graph.entries id)
  | _, _ => .error .malformed

/-- Fills the collections that wait. Each node waits at most once. -/
def fillAll (l : Loading) : Nat → Except Error Loading
  | 0 => .ok l
  | fuel + 1 =>
    match l.waiting with
    | [] => .ok l
    | id :: rest => do ({ l with waiting := rest }.fill id >>= (fillAll · fuel))

def documentAt (l : Loading) (id : NodeId) : Document :=
  (l.document? id).getD .null

/-- The document of the root, with what is right inside of it. -/
def flatDocument (l : Loading) (root : NodeId) : Document :=
  match l.documentAt root, l.graph.content root with
  | .list _, .sequence items => .list (items.map l.documentAt)
  | .mapping _, .mapping entries =>
    .mapping (entries.map fun (key, value) ↦ (l.documentAt key, l.documentAt value))
  | .set _, .mapping entries => .set (entries.map fun (key, _) ↦ l.documentAt key)
  | document, _ => document

end Loading

/-- The document of a text; nothing is null. -/
def load (text : List Char) : Except Error Document := do
  match ← Graph.ofText text with
  | (_, none) => return .null
  | (graph, some root) =>
    let size := graph.nodes.size
    let start : Loading := { graph, documents := .replicate size none }
    let loaded ← (← start.meet root).fillAll size
    return loaded.flatDocument root

end EndpointStubs.Yaml
