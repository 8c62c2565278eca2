import EndpointStubs.Text.Digit
import EndpointStubs.Yaml.Cursor
import EndpointStubs.Yaml.Error

/-!
# The texts of scalars

Scalars are written plain, in quotes, or as indented blocks. Line breaks inside
them are folded: a single one is a space, of several the first one is dropped.
-/

namespace EndpointStubs.Yaml

/-- A run of breaks as text: one alone is a space. -/
def foldedBreak (first : List Char) (others : List Char) : List Char :=
  if first != ['\n'] then first ++ others
  else if others.isEmpty then [' ']
  else others

/-- The breaks of the empty lines inside a quoted scalar. A document mark cannot stand in it. -/
def emptyLines : Nat → Cursor → Except Error (List Char × Cursor)
  | 0, cursor => .ok ([], cursor)
  | fuel + 1, cursor =>
    if cursor.atAnyMark then .error .malformed
    else
      let cursor := cursor.skip isSpaceOrTab
      if cursor.peek.any isBreak then do
        let (text, after) := cursor.lineBreak
        let (more, last) ← emptyLines fuel after
        return (text ++ more, last)
      else .ok ([], cursor)

def simpleEscapes : List (Char × Char) :=
  [('0', '\x00'), ('a', '\x07'), ('b', '\x08'), ('t', '\t'), ('\t', '\t'), ('n', '\n'),
    ('v', '\x0B'), ('f', '\x0C'), ('r', '\r'), ('e', '\x1B'), (' ', ' '), ('"', '"'),
    ('\\', '\\'), ('/', '/'), ('N', '\x85'), ('_', '\xA0'), ('L', '\u2028'), ('P', '\u2029')]

/-- The number of hexadecimal digits after an escape letter. -/
def escapeWidth? : Char → Option Nat
  | 'x' => some 2
  | 'u' => some 4
  | 'U' => some 8
  | _ => none

/-- The number of an escape whose backslash has been passed, and the cursor after it. -/
def escapedNumber? (cursor : Cursor) : Option (Nat × Cursor) := do
  let width ← cursor.peek.bind escapeWidth?
  let cursor := cursor.step
  let digits := cursor.rest.take width
  if digits.length = width ∧ digits.all (Text.hexDigit? · |>.isSome) then
    return (Text.number 16 digits, cursor.advance width)
  else none

/-- The code point with an escaped number. -/
def escapedPoint (n : Nat) : Except Error CodePoint :=
  if 0x80000000 ≤ n then .error .escapeTooLarge
  else if 0x110000 ≤ n then .error .noSuchCharacter
  else .ok (.ofNat n)

def isQuotedStop (c : Char) : Bool :=
  c == '\'' || c == '"' || c == '\\' || isSpaceOrTab c || isBreak c

/-- The content of a quoted scalar, from after its opening quote through its closing one. -/
def quotedText (double : Bool) : Nat → Cursor → Except Error (LooseText × Cursor)
  | 0, _ => .error .malformed
  | fuel + 1, cursor => do
    let continueWith (text : LooseText) (cursor : Cursor) : Except Error (LooseText × Cursor) := do
      let (rest, last) ← quotedText double fuel cursor
      return (text ++ rest, last)
    let continueAfter (text : List Char) := continueWith (.ofChars text)
    match cursor.peek with
    | none => .error .malformed
    | some c =>
      if c == '"' && double then return ([], cursor.step)
      else if c == '\'' && !double then
        if cursor.peekAt 1 == some '\'' then continueWith ['\''] (cursor.advance 2)
        else return ([], cursor.step)
      else if c == '\\' && double then
        let cursor := cursor.step
        match cursor.peek with
        | none => .error .malformed
        | some e =>
          match simpleEscapes.lookup e, escapedNumber? cursor with
          | some character, _ => continueWith [character] cursor.step
          | none, some (n, after) =>
            let point ← escapedPoint n
            continueWith [point] after
          | none, none =>
            if isBreak e then
              let (_, cursor) := cursor.lineBreak
              let (text, cursor) ← emptyLines fuel cursor
              continueAfter text cursor
            else .error .malformed
      else if isSpaceOrTab c then
        let (blanks, cursor) := cursor.span isSpaceOrTab
        if cursor.peek.any isBreak then continueWith [] cursor
        else if cursor.peek.isNone then .error .malformed
        else continueAfter blanks cursor
      else if isBreak c then
        let (first, cursor) := cursor.lineBreak
        let (others, cursor) ← emptyLines fuel cursor
        continueAfter (foldedBreak first others) cursor
      else if c == '\'' || c == '"' || c == '\\' then continueWith [c] cursor.step
      else
        let (run, cursor) := cursor.span (!isQuotedStop ·)
        continueAfter run cursor

/-- A plain scalar ends before this place. -/
def atPlainEnd (flow : Bool) (text : List Char) : Bool :=
  let gapAfter (rest : List Char) : Bool :=
    match rest with
    | [] => true
    | c :: _ => isSpaceOrTab c || isBreak c || (flow && ",[]\x7b\x7d".toList.contains c)
  match text with
  | [] => true
  | c :: rest =>
    isSpaceOrTab c || isBreak c || (c == ':' && gapAfter rest) ||
      (flow && ",?[]\x7b\x7d".toList.contains c)

/-- The piece of a plain scalar that starts the text. -/
def plainPiece (flow : Bool) : List Char → List Char
  | [] => []
  | c :: rest => if atPlainEnd flow (c :: rest) then [] else c :: plainPiece flow rest

/-- The blanks after a piece of a plain scalar as text, whether a line ended in
them, and where they end; no text if the scalar ends with the document. -/
def plainGap (fuel : Nat) (cursor : Cursor) : Except Error (List Char × Bool × Cursor) :=
  let (spaces, cursor) := cursor.span (· == ' ')
  if cursor.peek.any isBreak then do
    let (first, cursor) := cursor.lineBreak
    if cursor.atAnyMark then return ([], true, cursor)
    let (others, cursor) ← plainBreaks fuel cursor
    return ((others.map (foldedBreak first)).getD [], true, cursor)
  else .ok (spaces, false, cursor)
where
  plainBreaks : Nat → Cursor → Except Error (Option (List Char) × Cursor)
    | 0, cursor => .ok (some [], cursor)
    | fuel + 1, cursor =>
      let cursor := cursor.skip (· == ' ')
      if cursor.peek.any isBreak then do
        let (text, cursor) := cursor.lineBreak
        if cursor.atAnyMark then return (none, cursor)
        let (more, last) ← plainBreaks fuel cursor
        return (more.map (text ++ ·), last)
      else .ok (some [], cursor)

/-- A plain scalar, whether a line ended behind it, and where it ends. A line that
is indented less than `indent` does not belong to it. -/
def plainText (flow : Bool) (indent : Int) (gap : List Char) (lineEnded : Bool) :
    Nat → Cursor → Except Error (List Char × Bool × Cursor)
  | 0, _ => .error .malformed
  | fuel + 1, cursor => do
    let piece := if cursor.peek == some '#' then [] else plainPiece flow cursor.rest
    if piece.isEmpty then return ([], lineEnded, cursor)
    let (spaces, ended, after) ← plainGap fuel (cursor.advance piece.length)
    if spaces.isEmpty || after.peek == some '#' || (!flow && (after.column : Int) < indent) then
      return (gap ++ piece, ended, after)
    let (more, ended, last) ← plainText flow indent spaces ended fuel after
    return (gap ++ piece ++ more, ended, last)

/-- What becomes of the line breaks at the end of a block scalar. -/
inductive Chomping where
  | clip
  | strip
  | keep
  deriving DecidableEq

def chomping? : Char → Option Chomping
  | '+' => some .keep
  | '-' => some .strip
  | _ => none

/-- The chomping and the indentation given behind the mark of a block scalar. -/
def blockIndicators (cursor : Cursor) : Except Error (Chomping × Option Nat × Cursor) := do
  let digit? (cursor : Cursor) : Option Char := cursor.peek.filter Char.isDigit
  let number (c : Char) : Nat := c.toNat - '0'.toNat
  let (chomping, increment, cursor) :=
    match cursor.peek.bind chomping?, digit? cursor with
    | some chomping, _ =>
      let cursor := cursor.step
      match digit? cursor with
      | some c => (chomping, some (number c), cursor.step)
      | none => (chomping, none, cursor)
    | none, some c =>
      let cursor := cursor.step
      match cursor.peek.bind chomping? with
      | some chomping => (chomping, some (number c), cursor.step)
      | none => (.clip, some (number c), cursor)
    | none, none => (.clip, none, cursor)
  if increment == some 0 || !(cursor.atLineEnd || cursor.peek == some ' ') then .error .malformed
  else return (chomping, increment, cursor)

/-- The breaks of the empty lines before a block, and the widest indentation among them. -/
def leadingLines (widest : Nat) : Nat → Cursor → List Char × Nat × Cursor
  | 0, cursor => ([], widest, cursor)
  | fuel + 1, cursor =>
    let cursor := cursor.skip (· == ' ')
    let widest := max widest cursor.column
    if cursor.peek.any isBreak then
      let (text, cursor) := cursor.lineBreak
      let (more, widest, last) := leadingLines widest fuel cursor
      (text ++ more, widest, last)
    else ([], widest, cursor)

/-- Skips spaces as far as the given column. -/
def indentTo (indent : Nat) : Nat → Cursor → Cursor
  | 0, cursor => cursor
  | fuel + 1, cursor =>
    if cursor.column < indent && cursor.peek == some ' ' then indentTo indent fuel cursor.step
    else cursor

/-- The breaks of the empty lines inside a block. -/
def blockBreaks (indent : Nat) : Nat → Cursor → List Char × Cursor
  | 0, cursor => ([], cursor)
  | fuel + 1, cursor =>
    let cursor := indentTo indent indent cursor
    if cursor.peek.any isBreak then
      let (text, cursor) := cursor.lineBreak
      let (more, last) := blockBreaks indent fuel cursor
      (text ++ more, last)
    else ([], cursor)

/-- The lines of a block from here on; `breaks` are those of the empty lines before. -/
def blockLines (folded : Bool) (chomping : Chomping) (indent : Nat) (breaks lastBreak : List Char) :
    Nat → Cursor → List Char × Cursor
  | 0, cursor => ([], cursor)
  | fuel + 1, cursor =>
    let ending := (if chomping == .strip then [] else lastBreak) ++
      if chomping == .keep then breaks else []
    if cursor.column != indent || cursor.peek.isNone then (ending, cursor)
    else
      let isMore (c : Option Char) : Bool := c == some ' ' || c == some '\t'
      let plainStart := !isMore cursor.peek
      let (line, cursor) := cursor.span (!isBreak ·)
      let (lineEnd, cursor) := cursor.lineBreak
      let (later, cursor) := blockBreaks indent fuel cursor
      let goesOn := cursor.column == indent && cursor.peek.isSome
      let joint :=
        if !goesOn then []
        else if folded && lineEnd == ['\n'] && plainStart && !isMore cursor.peek then
          if later.isEmpty then [' '] else []
        else lineEnd
      let (more, last) := blockLines folded chomping indent later lineEnd fuel cursor
      (breaks ++ line ++ joint ++ more, last)

/-- A block scalar whose mark has been passed; `outer` is the indentation around it. -/
def blockText (folded : Bool) (outer : Int) (fuel : Nat) (cursor : Cursor) :
    Except Error (List Char × Cursor) := do
  let (chomping, increment, cursor) ← blockIndicators cursor
  match cursor.endLine? with
  | none => .error .malformed
  | some cursor =>
    let least := (max (outer + 1) 1).toNat
    match increment with
    | none =>
      let (breaks, widest, cursor) := leadingLines 0 fuel cursor
      return blockLines folded chomping (max least widest) breaks [] fuel cursor
    | some increment =>
      let indent := least + increment - 1
      let (breaks, cursor) := blockBreaks indent fuel cursor
      return blockLines folded chomping indent breaks [] fuel cursor

end EndpointStubs.Yaml
