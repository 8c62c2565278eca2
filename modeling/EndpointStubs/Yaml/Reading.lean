import EndpointStubs.Yaml.Graph
import EndpointStubs.Yaml.Token

/-!
# Reading nodes

Builds the graph of the only document of a text from its tokens.
-/

namespace EndpointStubs.Yaml

structure Reading where
  tokens : List Token
  /-- What is wrong where the tokens end. -/
  fault : Error
  graph : Graph := {}
  /-- The nodes by the names they were given. -/
  anchors : List (String × NodeId) := []
  /-- The stems of tags by their handles. -/
  handles : List (String × String) := []
  /-- How many collections are being read, each within the one before. -/
  depth : Nat := 0

/-- How deep collections can stand within each other. -/
def nestingLimit : Nat := 486

abbrev Reader := StateT Reading (Except Error)

namespace Reader

def fail {α : Type} : Reader α :=
  throw .malformed

def peek : Reader Token := do
  let reading ← get
  match reading.tokens with
  | token :: _ => return token
  | [] => throw reading.fault

def skip : Reader Unit :=
  modify fun r ↦ { r with tokens := r.tokens.drop 1 }

/-- The next token is one of these. -/
def at? (tokens : List Token) : Reader Bool := do
  return tokens.contains (← peek)

/-- Passes the token if it is next. -/
def passes (token : Token) : Reader Bool := do
  if (← peek) = token then
    skip
    return true
  else return false

def pass (token : Token) : Reader Unit := do
  if !(← passes token) then fail

def add (kind : Kind) (content : Content) : Reader NodeId :=
  modifyGet fun r ↦ (r.graph.nodes.size, { r with graph := ⟨r.graph.nodes.push ⟨kind, content⟩⟩ })

/-- A node that is left out. -/
def absent : Reader NodeId :=
  add Node.absent.kind Node.absent.content

def tagOf (handle : Option String) (suffix : String) : Reader String := do
  match handle with
  | none => return suffix
  | some handle =>
    match (← get).handles.lookup handle with
    | some stem => return stem ++ suffix
    | none => fail

/-- What stands in front of a node. -/
structure Properties where
  anchor : Option String := none
  tag : Option String := none

/-- The anchor and the tag before a node, in either order. A tag is looked up once there can
be no other property. -/
def properties : Reader Properties := do
  match ← peek with
  | .anchor name =>
    skip
    match ← peek with
    | .tag handle suffix =>
      skip
      return ⟨some name, some (← tagOf handle suffix)⟩
    | _ => return ⟨some name, none⟩
  | .tag handle suffix =>
    skip
    match ← peek with
    | .anchor name =>
      skip
      return ⟨some name, some (← tagOf handle suffix)⟩
    | _ => return ⟨none, some (← tagOf handle suffix)⟩
  | _ => return {}

/-- Gives a name to a node. -/
def name (anchor : Option String) (id : NodeId) : Reader Unit := do
  match anchor with
  | none => return
  | some name => modify fun r ↦ { r with anchors := (name, id) :: r.anchors }

def scalar (properties : Properties) (plain : Bool) (text : LooseText) : Reader NodeId := do
  let id ← add (.ofScalar properties.tag plain text) (.scalar text)
  name properties.anchor id
  return id

/-- A collection has its name already inside of it. -/
def collection (properties : Properties) (usual : Kind) (content : Reader Content) :
    Reader NodeId := do
  let id ← add (.ofCollection properties.tag usual) (.sequence [])
  name properties.anchor id
  let depth := (← get).depth
  if nestingLimit ≤ depth then throw .tooDeep
  modify fun r ↦ { r with depth := depth + 1 }
  let content ← content
  modify fun r ↦ { r with graph := r.graph.setContent id content, depth := depth }
  return id

mutual

/-- A node; `block` admits block collections, `indentless` a sequence that is not indented. -/
def read (block indentless : Bool) : Nat → Reader NodeId
  | 0 => fail
  | fuel + 1 => do
    if let .reference referred := ← peek then
      skip
      match (← get).anchors.lookup referred with
      | some id => return id
      | none => fail
    else
      let properties ← properties
      let list (items : Reader (List NodeId)) : Reader NodeId :=
        collection properties .list (Content.sequence <$> items)
      let mapping (entries : Reader (List (NodeId × NodeId))) : Reader NodeId :=
        collection properties .mapping (Content.mapping <$> entries)
      let token ← peek
      let anchors := (← get).anchors
      if properties.anchor.any fun a ↦ (anchors.lookup a).isSome then fail
      match token with
      | .scalar text plain =>
        skip
        scalar properties plain text
      | .flowSequenceStart =>
        skip
        list (flowItems true fuel)
      | .flowMappingStart =>
        skip
        mapping (flowEntries true fuel)
      | _ =>
        if indentless && token = .blockEntry then list (indentlessItems fuel)
        else if block && token = .blockSequenceStart then
          skip
          list (blockItems fuel)
        else if block && token = .blockMappingStart then
          skip
          mapping (blockEntries fuel)
        else if properties.anchor.isSome || properties.tag.isSome then scalar properties true []
        else fail

/-- The node here, unless one of the tokens stands here. -/
def readUnless (tokens : List Token) (block indentless : Bool) : Nat → Reader NodeId
  | 0 => fail
  | fuel + 1 => do
    if ← at? tokens then absent else read block indentless fuel

/-- The value of a key, which may be left out. -/
def readValue (tokens : List Token) (block indentless : Bool) : Nat → Reader NodeId
  | 0 => fail
  | fuel + 1 => do
    if ← passes .value then readUnless tokens block indentless fuel else absent

def blockItems : Nat → Reader (List NodeId)
  | 0 => fail
  | fuel + 1 => do
    if ← passes .blockEntry then
      let item ← readUnless [.blockEntry, .blockEnd] true false fuel
      return item :: (← blockItems fuel)
    else
      pass .blockEnd
      return []

def indentlessItems : Nat → Reader (List NodeId)
  | 0 => fail
  | fuel + 1 => do
    if ← passes .blockEntry then
      let item ← readUnless [.blockEntry, .key, .value, .blockEnd] true false fuel
      return item :: (← indentlessItems fuel)
    else return []

def blockEntries : Nat → Reader (List (NodeId × NodeId))
  | 0 => fail
  | fuel + 1 => do
    let stops : List Token := [.key, .value, .blockEnd]
    if ← passes .key then
      let key ← readUnless stops true true fuel
      let value ← readValue stops true true fuel
      return (key, value) :: (← blockEntries fuel)
    else
      pass .blockEnd
      return []

def flowItems (first : Bool) : Nat → Reader (List NodeId)
  | 0 => fail
  | fuel + 1 => do
    if ← passes .flowSequenceEnd then return []
    if !first then pass .flowEntry
    if ← passes .flowSequenceEnd then return []
    let item ←
      if ← passes .key then
        collection {} .mapping do
          let key ← readUnless [.value, .flowEntry, .flowSequenceEnd] false false fuel
          let value ← readValue [.flowEntry, .flowSequenceEnd] false false fuel
          return .mapping [(key, value)]
      else read false false fuel
    return item :: (← flowItems false fuel)

def flowEntries (first : Bool) : Nat → Reader (List (NodeId × NodeId))
  | 0 => fail
  | fuel + 1 => do
    if ← passes .flowMappingEnd then return []
    if !first then pass .flowEntry
    if ← passes .flowMappingEnd then return []
    let entry ←
      if ← passes .key then
        let key ← readUnless [.value, .flowEntry, .flowMappingEnd] false false fuel
        let value ← readValue [.flowEntry, .flowMappingEnd] false false fuel
        pure (key, value)
      else
        pure (← read false false fuel, ← absent)
    return entry :: (← flowEntries false fuel)

end

def defaultHandles : List (String × String) :=
  [("!", "!"), ("!!", tagStem)]

/-- The directives before a document; at most one version, and one stem for each handle. -/
def directives (version : Bool) (handles : List (String × String)) :
    Nat → Reader (List (String × String))
  | 0 => fail
  | fuel + 1 => do
    match ← peek with
    | .versionDirective major =>
      if version || major != 1 then fail
      skip
      directives true handles fuel
    | .tagDirective handle stem =>
      if (handles.lookup handle).isSome then fail
      skip
      directives version ((handle, stem) :: handles) fuel
    | .otherDirective =>
      skip
      directives version handles fuel
    | _ => return handles

def skipDocumentEnds : Nat → Reader Unit
  | 0 => return
  | fuel + 1 => do
    if ← passes .documentEnd then skipDocumentEnds fuel

def isDirective : Token → Bool
  | .versionDirective _ | .tagDirective .. | .otherDirective => true
  | _ => false

/-- The only document of a text, if there is one at all. Of a second one, the directives are
read. -/
def document (fuel : Nat) : Reader (Option NodeId) := do
  let first ← peek
  if first = .streamEnd then return none
  else
    let root ←
      if isDirective first || first = .documentStart then do
        let handles ← directives false [] fuel
        pass .documentStart
        modify fun r ↦ { r with handles := handles ++ defaultHandles }
        let content ← peek
        if isDirective content || [.documentStart, .documentEnd, .streamEnd].contains content then
          absent
        else read true false fuel
      else do
        modify fun r ↦ { r with handles := defaultHandles }
        read true false fuel
    skipDocumentEnds fuel
    if ← at? [.streamEnd] then return some root
    else
      let _ ← directives false [] fuel
      fail

end Reader

/-- The graph of a text and its root; nothing if there is no document in it. -/
def Graph.ofText (text : List Char) : Except Error (Graph × Option NodeId) := do
  let (tokens, fault) := tokens text
  let (root, reading) ← (Reader.document (4 * tokens.length + 4)).run { tokens, fault }
  return (reading.graph, root)

end EndpointStubs.Yaml
