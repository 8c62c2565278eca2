/-!
# Positions in YAML text

A cursor holds the text still to be read and where in the document it starts.
Columns matter, since indentation is structure.
-/

namespace EndpointStubs.Yaml

/-- Line breaks, in the widest sense. -/
def isBreak (c : Char) : Bool :=
  c == '\n' || c == '\r' || c == '\x85' || c == '\u2028' || c == '\u2029'

def isSpaceOrTab (c : Char) : Bool :=
  c == ' ' || c == '\t'

/-- A character that may stand in a document at all. -/
def isAllowed (c : Char) : Bool :=
  let n := c.toNat
  n == 9 || n == 10 || n == 13 || (0x20 ≤ n && n ≤ 0x7E) || n == 0x85 ||
    (0xA0 ≤ n && n ≤ 0xD7FF) || (0xE000 ≤ n && n ≤ 0xFFFD) || 0x10000 ≤ n

structure Cursor where
  rest : List Char
  index : Nat := 0
  line : Nat := 0
  column : Nat := 0

namespace Cursor

def peek (cursor : Cursor) : Option Char :=
  cursor.rest.head?

def peekAt (cursor : Cursor) (offset : Nat) : Option Char :=
  cursor.rest[offset]?

def step (cursor : Cursor) : Cursor :=
  match cursor.rest with
  | [] => cursor
  | c :: rest =>
    let moved := { cursor with rest, index := cursor.index + 1 }
    if isBreak c && !(c == '\r' && rest.head? == some '\n') then
      { moved with line := cursor.line + 1, column := 0 }
    else if c == '\uFEFF' then moved
    else { moved with column := cursor.column + 1 }

def advance (cursor : Cursor) : Nat → Cursor
  | 0 => cursor
  | n + 1 => cursor.step.advance n

/-- The characters from here on that satisfy `p`, and the cursor after them. -/
def span (cursor : Cursor) (p : Char → Bool) : List Char × Cursor :=
  let run := cursor.rest.takeWhile p
  (run, cursor.advance run.length)

def skip (cursor : Cursor) (p : Char → Bool) : Cursor :=
  (cursor.span p).2

/-- The text ends at the offset, or a blank or line break stands there. -/
def atGap (cursor : Cursor) (offset : Nat) : Bool :=
  (cursor.peekAt offset).all fun c ↦ isSpaceOrTab c || isBreak c

/-- The line ends here. -/
def atLineEnd (cursor : Cursor) : Bool :=
  cursor.peek.all isBreak

/-- The line break here, as it counts in a text, and the cursor after it. -/
def lineBreak (cursor : Cursor) : List Char × Cursor :=
  match cursor.rest with
  | '\r' :: '\n' :: _ => (['\n'], cursor.advance 2)
  | c :: _ =>
    if c == '\n' || c == '\r' || c == '\x85' then (['\n'], cursor.step)
    else if isBreak c then ([c], cursor.step)
    else ([], cursor)
  | [] => ([], cursor)

/-- A document mark, `---` or `...`, stands here. -/
def atMark (cursor : Cursor) (mark : Char) : Bool :=
  cursor.rest.take 3 == [mark, mark, mark] && cursor.atGap 3

def atAnyMark (cursor : Cursor) : Bool :=
  cursor.atMark '-' || cursor.atMark '.'

/-- The cursor after spaces, a comment and the line break, if nothing else is on the line. -/
def endLine? (cursor : Cursor) : Option Cursor :=
  let cursor := cursor.skip (· == ' ')
  let cursor := if cursor.peek == some '#' then cursor.skip (!isBreak ·) else cursor
  if cursor.atLineEnd then some cursor.lineBreak.2 else none

end Cursor

end EndpointStubs.Yaml
