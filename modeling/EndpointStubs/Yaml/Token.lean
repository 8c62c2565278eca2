import EndpointStubs.Yaml.Number
import EndpointStubs.Yaml.Scalar

/-!
# Tokens

The tokens of a YAML text. Indentation shows as tokens that open and close
block collections. A key that is not marked as one is recognised by the colon
behind it; the tokens that make it a key are then put in front of it.
-/

namespace EndpointStubs.Yaml

inductive Token where
  | versionDirective (major : Nat)
  | tagDirective (handle stem : String)
  | otherDirective
  | documentStart
  | documentEnd
  | streamEnd
  | blockSequenceStart
  | blockMappingStart
  | blockEnd
  | flowSequenceStart
  | flowSequenceEnd
  | flowMappingStart
  | flowMappingEnd
  | blockEntry
  | flowEntry
  | key
  | value
  | reference (name : String)
  | anchor (name : String)
  /-- Without a handle the suffix is the whole tag. -/
  | tag (handle : Option String) (suffix : String)
  | scalar (text : LooseText) (plain : Bool)
  deriving DecidableEq

/-- A place where a key may have started. -/
structure PossibleKey where
  /-- How many tokens stand before it. -/
  position : Nat
  /-- Nothing but a key can stand there. -/
  required : Bool
  index : Nat
  line : Nat
  column : Nat

structure Lexing where
  cursor : Cursor
  /-- The tokens so far, the last one first. -/
  tokens : List Token := []
  /-- How many tokens there are so far. -/
  count : Nat := 0
  flowLevel : Nat := 0
  indent : Int := -1
  /-- The indentations around the current one, the nearest first. -/
  outerIndents : List Int := []
  keyAllowed : Bool := true
  /-- The possible keys by the flow level they stand at. -/
  possibleKeys : List (Nat × PossibleKey) := []

namespace Lexing

def push (s : Lexing) (token : Token) : Lexing :=
  { s with tokens := token :: s.tokens, count := s.count + 1 }

/-- Puts a token behind the first `position` ones. -/
def insertAt (s : Lexing) (position : Nat) (token : Token) : Lexing :=
  let later := s.count - position
  { s with tokens := s.tokens.take later ++ token :: s.tokens.drop later, count := s.count + 1 }

def column (s : Lexing) : Int :=
  s.cursor.column

/-- Skips spaces, comments and line breaks. Outside of flow collections a key may follow a break. -/
def skipToToken (s : Lexing) : Nat → Lexing
  | 0 => s
  | fuel + 1 =>
    let cursor := s.cursor.skip (· == ' ')
    let cursor := if cursor.peek == some '#' then cursor.skip (!isBreak ·) else cursor
    if cursor.peek.any isBreak then
      skipToToken { s with cursor := cursor.lineBreak.2,
                           keyAllowed := s.keyAllowed || s.flowLevel == 0 } fuel
    else { s with cursor }

/-- A key stands on one line and is not too long; drops the possible keys that
cannot be one any more. -/
def dropStaleKeys (s : Lexing) : Except Error Lexing :=
  let isStale (key : PossibleKey) : Bool :=
    key.line != s.cursor.line || s.cursor.index - key.index > 1024
  if s.possibleKeys.any fun (_, key) ↦ isStale key && key.required then .error .malformed
  else .ok { s with possibleKeys := s.possibleKeys.filter fun (_, key) ↦ !isStale key }

def possibleKey? (s : Lexing) : Option PossibleKey :=
  s.possibleKeys.lookup s.flowLevel

/-- Forgets the possible key at this level; an error if it had to be one. -/
def dropPossibleKey (s : Lexing) : Except Error Lexing :=
  if s.possibleKey?.any (·.required) then .error .malformed
  else .ok { s with possibleKeys := s.possibleKeys.filter fun (level, _) ↦ level != s.flowLevel }

def savePossibleKey (s : Lexing) : Except Error Lexing :=
  if !s.keyAllowed then .ok s
  else do
    let s ← s.dropPossibleKey
    let key : PossibleKey :=
      { position := s.count, required := s.flowLevel == 0 && s.indent == s.column,
        index := s.cursor.index, line := s.cursor.line, column := s.cursor.column }
    return { s with possibleKeys := (s.flowLevel, key) :: s.possibleKeys }

/-- Closes the block collections that are indented more than the column. -/
def unwind (s : Lexing) (column : Int) : Lexing :=
  if s.flowLevel != 0 then s else go s s.outerIndents
where
  go (s : Lexing) : List Int → Lexing
    | [] => s
    | outer :: outers =>
      if s.indent > column then
        go { s.push .blockEnd with indent := outer, outerIndents := outers } outers
      else s

/-- Opens a block collection at the column, unless one is open there; the token is
put at the position. -/
def indentTo (s : Lexing) (column : Int) (position : Nat) (token : Token) : Lexing :=
  if s.indent < column then
    { s.insertAt position token with indent := column, outerIndents := s.indent :: s.outerIndents }
  else s

/-- Passes `count` characters as a token. -/
def take (s : Lexing) (count : Nat) (token : Token) : Lexing :=
  { s.push token with cursor := s.cursor.advance count }

/-- Ends all blocks; no key can be open at a document mark. -/
def endBlocks (s : Lexing) : Except Error Lexing := do
  let s ← (s.unwind (-1)).dropPossibleKey
  return { s with keyAllowed := false }

def documentMark (s : Lexing) (token : Token) : Except Error Lexing := do
  return (← s.endBlocks).take 3 token

def isNameChar (c : Char) : Bool :=
  c.isAlphanum || c == '-' || c == '_'

/-- The number before a dot or the end of a directive. -/
def directiveNumber (cursor : Cursor) : Except Error (Nat × Cursor) :=
  let (digits, cursor) := cursor.span Char.isDigit
  if digits.isEmpty then .error .malformed
  else if digitLimit < digits.length then .error (.tooManyDigits digits.length)
  else .ok (Text.number 10 digits, cursor)

def isTagChar (c : Char) : Bool :=
  c.isAlphanum || "-;/?:@&=+$,_.!~*'()[]".toList.contains c

/-- The handle of a tag, from its first exclamation mark through its last one. -/
def tagHandle (cursor : Cursor) : Except Error (String × Cursor) :=
  if cursor.peek != some '!' then .error .malformed
  else
    let (name, after) := cursor.step.span isNameChar
    if after.peek == some '!' then .ok (.ofList ('!' :: name ++ ['!']), after.step)
    else if name.isEmpty && after.peek == some ' ' then .ok ("!", after)
    else .error .malformed

/-- Bytes that are each given by a percent sign and two hexadecimal digits. -/
def escapedBytes : Nat → Cursor → Except Error (List UInt8 × Cursor)
  | 0, cursor => .ok ([], cursor)
  | fuel + 1, cursor =>
    if cursor.peek != some '%' then .ok ([], cursor)
    else
      let digits := cursor.step.rest.take 2
      if digits.length = 2 ∧ digits.all (Text.hexDigit? · |>.isSome) then do
        let (bytes, last) ← escapedBytes fuel (cursor.advance 3)
        return (.ofNat (Text.number 16 digits) :: bytes, last)
      else .error .malformed

/-- The characters of a tag from here on, some of which may be given by their bytes. -/
def tagChars : Nat → Cursor → Except Error (List Char × Cursor)
  | 0, cursor => .ok ([], cursor)
  | fuel + 1, cursor => do
    if cursor.peek == some '%' then
      let (bytes, after) ← escapedBytes fuel cursor
      match String.fromUTF8? ⟨bytes.toArray⟩ with
      | none => .error .malformed
      | some text =>
        let (more, last) ← tagChars fuel after
        return (text.toList ++ more, last)
    else
      let (run, after) := cursor.span isTagChar
      if run.isEmpty then return ([], cursor)
      else
        let (more, last) ← tagChars fuel after
        return (run ++ more, last)

def tagText (cursor : Cursor) : Except Error (String × Cursor) := do
  let (text, after) ← tagChars (cursor.rest.length + 1) cursor
  if text.isEmpty then .error .malformed else return (.ofList text, after)

/-- A directive whose percent sign has been passed. -/
def directive (s : Lexing) (cursor : Cursor) : Except Error Lexing := do
  let (name, cursor) := cursor.span isNameChar
  if name.isEmpty || !(cursor.atLineEnd || cursor.peek == some ' ') then .error .malformed
  else
    let arguments := cursor.skip (· == ' ')
    let (token, cursor) ←
      if name = "YAML".toList then do
        let (major, cursor) ← directiveNumber arguments
        if cursor.peek != some '.' then .error .malformed
        else
          let (_, cursor) ← directiveNumber cursor.step
          if cursor.atLineEnd || cursor.peek == some ' ' then
            pure (Token.versionDirective major, cursor)
          else .error .malformed
      else if name = "TAG".toList then do
        let (handle, cursor) ← tagHandle arguments
        if cursor.peek != some ' ' then .error .malformed
        else
          let (stem, cursor) ← tagText (cursor.skip (· == ' '))
          if cursor.atLineEnd || cursor.peek == some ' ' then
            pure (Token.tagDirective handle stem, cursor)
          else .error .malformed
      else pure (Token.otherDirective, cursor.skip (!isBreak ·))
    match cursor.endLine? with
    | none => .error .malformed
    | some cursor => return { s.push token with cursor }

/-- The name behind the mark of an anchor or a reference. -/
def anchorName (cursor : Cursor) : Except Error (String × Cursor) :=
  let (name, cursor) := cursor.step.span isNameChar
  if name.isEmpty then .error .malformed
  else if cursor.atGap 0 || cursor.peek.any ("?:,]\x7d%@\x60".toList.contains ·) then
    .ok (.ofList name, cursor)
  else .error .malformed

def tagToken (cursor : Cursor) : Except Error (Token × Cursor) := do
  let (token, cursor) ←
    if cursor.peekAt 1 == some '<' then do
      let (suffix, cursor) ← tagText (cursor.advance 2)
      if cursor.peek != some '>' then .error .malformed
      else pure (Token.tag none suffix, cursor.step)
    else if cursor.atGap 1 then pure (Token.tag none "!", cursor.step)
    else do
      let word := cursor.step.rest.takeWhile fun c ↦ c != ' ' && !isBreak c
      let (handle, after) ←
        if word.contains '!' then tagHandle cursor else pure ("!", cursor.step)
      let (suffix, after) ← tagText after
      pure (Token.tag (some handle) suffix, after)
  if cursor.atLineEnd || cursor.peek == some ' ' then return (token, cursor) else .error .malformed

/-- A token that may be a key of its own or start one. -/
def node (s : Lexing) (read : Cursor → Except Error (Token × Cursor)) : Except Error Lexing := do
  let s ← s.savePossibleKey
  let (token, cursor) ← read s.cursor
  return { s.push token with cursor, keyAllowed := false }

def flowStart (s : Lexing) (token : Token) : Except Error Lexing := do
  let s ← s.savePossibleKey
  return { s.take 1 token with flowLevel := s.flowLevel + 1, keyAllowed := true }

def flowEnd (s : Lexing) (token : Token) : Except Error Lexing := do
  let s ← s.dropPossibleKey
  if s.flowLevel = 0 then .error .malformed
  else return { s.take 1 token with flowLevel := s.flowLevel - 1, keyAllowed := false }

def flowEntry (s : Lexing) : Except Error Lexing := do
  let s ← { s with keyAllowed := true }.dropPossibleKey
  return s.take 1 .flowEntry

/-- Starts an entry outside of flow collections, where it opens a block if it is indented. -/
def openEntry (s : Lexing) (block : Token) : Except Error Lexing :=
  if s.flowLevel != 0 then .ok s
  else if !s.keyAllowed then .error .malformed
  else .ok (s.indentTo s.column s.count block)

def blockEntry (s : Lexing) : Except Error Lexing := do
  let s ← s.openEntry .blockSequenceStart
  let s ← { s with keyAllowed := true }.dropPossibleKey
  return s.take 1 .blockEntry

def explicitKey (s : Lexing) : Except Error Lexing := do
  let s ← s.openEntry .blockMappingStart
  let s ← { s with keyAllowed := s.flowLevel == 0 }.dropPossibleKey
  return s.take 1 .key

def valueMark (s : Lexing) : Except Error Lexing :=
  match s.possibleKey? with
  | some key =>
    let s := { s with possibleKeys := s.possibleKeys.filter fun (level, _) ↦ level != s.flowLevel }
    let s := s.insertAt key.position .key
    let s := if s.flowLevel == 0 then s.indentTo key.column key.position .blockMappingStart else s
    .ok ({ s with keyAllowed := false }.take 1 .value)
  | none => do
    let s ← s.openEntry .blockMappingStart
    let s ← { s with keyAllowed := s.flowLevel == 0 }.dropPossibleKey
    return s.take 1 .value

def blockScalar (s : Lexing) (folded : Bool) : Except Error Lexing := do
  let s ← { s with keyAllowed := true }.dropPossibleKey
  let (text, cursor) ← blockText folded s.indent (s.cursor.rest.length + 1) s.cursor.step
  return { s.push (.scalar (.ofChars text) false) with cursor }

def quotedScalar (s : Lexing) (double : Bool) : Except Error Lexing :=
  s.node fun cursor ↦ do
    let (text, cursor) ← quotedText double (cursor.rest.length + 1) cursor.step
    return (.scalar text false, cursor)

def plainScalar (s : Lexing) : Except Error Lexing := do
  let s ← s.savePossibleKey
  let (text, lineEnded, cursor) ←
    plainText (s.flowLevel != 0) (s.indent + 1) [] false (s.cursor.rest.length + 1) s.cursor
  return { s.push (.scalar (.ofChars text) true) with cursor, keyAllowed := lineEnded }

/-- A plain scalar can start with this character. -/
def startsPlain (s : Lexing) (c : Char) : Bool :=
  !(s.cursor.atGap 0 || "-?:,[]\x7b\x7d#&*!|>'\"%@\x60".toList.contains c) ||
    (!s.cursor.atGap 1 && (c == '-' || (s.flowLevel == 0 && (c == '?' || c == ':'))))

/-- Reads one token, and whatever blocks end before it. -/
def next (s : Lexing) : Except Error Lexing := do
  let s ← (s.skipToToken (s.cursor.rest.length + 1)).dropStaleKeys
  let s := s.unwind s.column
  let inFlow := s.flowLevel != 0
  let entryMark := inFlow || s.cursor.atGap 1
  match s.cursor.peek with
  | none => return { (← s.endBlocks).push .streamEnd with possibleKeys := [] }
  | some c =>
    if c == '%' && s.cursor.column == 0 then (← s.endBlocks).directive s.cursor.step
    else if s.cursor.column == 0 && s.cursor.atMark '-' then s.documentMark .documentStart
    else if s.cursor.column == 0 && s.cursor.atMark '.' then s.documentMark .documentEnd
    else if c == '[' then s.flowStart .flowSequenceStart
    else if c == '{' then s.flowStart .flowMappingStart
    else if c == ']' then s.flowEnd .flowSequenceEnd
    else if c == '}' then s.flowEnd .flowMappingEnd
    else if c == ',' then s.flowEntry
    else if c == '-' && s.cursor.atGap 1 then s.blockEntry
    else if c == '?' && entryMark then s.explicitKey
    else if c == ':' && entryMark then s.valueMark
    else if c == '*' then
      s.node fun cursor ↦ (anchorName cursor).map fun (name, cursor) ↦ (.reference name, cursor)
    else if c == '&' then
      s.node fun cursor ↦ (anchorName cursor).map fun (name, cursor) ↦ (.anchor name, cursor)
    else if c == '!' then s.node tagToken
    else if c == '|' && !inFlow then s.blockScalar false
    else if c == '>' && !inFlow then s.blockScalar true
    else if c == '\'' then s.quotedScalar false
    else if c == '"' then s.quotedScalar true
    else if s.startsPlain c then s.plainScalar
    else .error .malformed

/-- How many tokens are settled: no key can be put in front of them any more. -/
def settled (s : Lexing) : Nat :=
  match s.dropStaleKeys with
  | .error _ => s.count
  | .ok kept => kept.possibleKeys.foldl (fun n (_, key) ↦ min n key.position) s.count

/-- Reads tokens as far as the text allows, and what is wrong where they end. Each one but
the last passes a character. -/
def run (s : Lexing) : Nat → List Token × Error
  | 0 => (s.tokens.reverse, .malformed)
  | fuel + 1 =>
    match s.next with
    | .error error => (s.tokens.reverse.take s.settled, error)
    | .ok s =>
      if s.tokens.head? = some .streamEnd then (s.tokens.reverse, .malformed) else s.run fuel

end Lexing

/-- The tokens of a text, and what is wrong where they end. A byte order mark in front of
the text does not count. -/
def tokens (text : List Char) : List Token × Error :=
  if !text.all isAllowed then ([], .malformed)
  else
    let text := if text.head? = some '\uFEFF' then text.drop 1 else text
    let start : Lexing := { cursor := { rest := text } }
    start.run (text.length + 1)

end EndpointStubs.Yaml
