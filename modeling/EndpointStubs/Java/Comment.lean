import EndpointStubs.Java.Lexeme

/-!
# Comments

Source text read as code, literals and comments. A line comment ends before
its newline; a block comment ends after the first closing mark, or with the
text. Comment marks inside literals, and quotes inside comments, mean nothing.
-/

namespace EndpointStubs.Java

inductive Passage where
  | code (c : Char)
  | literal (text : List Char)
  | lineComment (text : List Char)
  | blockComment (text : List Char)
  deriving DecidableEq, Repr

/-- What follows the opening mark of a block comment, cut after its closing mark. -/
def blockCommentTail : List Char → List Char × List Char
  | [] => ([], [])
  | c :: rest =>
    match c, rest with
    | '*', '/' :: outside => (['*', '/'], outside)
    | _, _ =>
      let (inside, outside) := blockCommentTail rest
      (c :: inside, outside)

theorem blockCommentTail_append (text : List Char) :
    (blockCommentTail text).1 ++ (blockCommentTail text).2 = text := by
  fun_induction blockCommentTail text <;> simp_all

theorem length_blockCommentTail (text : List Char) :
    (blockCommentTail text).2.length ≤ text.length := by
  have := congrArg List.length (blockCommentTail_append text)
  simp only [List.length_append] at this
  omega

namespace Passage

def chars : Passage → List Char
  | .code c => [c]
  | .literal text => text
  | .lineComment text => text
  | .blockComment text => text

/-- What stays of a passage: code and literals as they are, one space for a block comment. -/
def kept : Passage → List Char
  | .code c => [c]
  | .literal text => text
  | .lineComment _ => []
  | .blockComment _ => [' ']

end Passage

def passages : List Char → List Passage
  | [] => []
  | '/' :: '/' :: rest =>
    .lineComment ('/' :: '/' :: rest.takeWhile (· != '\n')) :: passages (rest.dropWhile (· != '\n'))
  | '/' :: '*' :: rest =>
    .blockComment ('/' :: '*' :: (blockCommentTail rest).1) :: passages (blockCommentTail rest).2
  | c :: rest =>
    if isQuote c then
      .literal (c :: (literalTail c rest).1) :: passages (literalTail c rest).2
    else .code c :: passages rest
termination_by text => text.length
decreasing_by
  · have := (List.dropWhile_sublist (l := rest) (· != '\n')).length_le
    simp only [List.length_cons]
    omega
  · have := length_blockCommentTail rest
    simp only [List.length_cons]
    omega
  · have := length_literalTail c rest
    simp only [List.length_cons]
    omega
  · simp

/-- No character is lost or moved by reading the text as passages. -/
theorem flatMap_chars_passages (text : List Char) :
    (passages text).flatMap Passage.chars = text := by
  fun_induction passages text with
  | case1 => rfl
  | case2 rest ih => simp [Passage.chars, ih]
  | case3 rest ih => simp [Passage.chars, ih, blockCommentTail_append]
  | case4 c rest _ _ _ ih => simp [Passage.chars, ih, literalTail_append]
  | case5 c rest _ _ _ ih => simp [Passage.chars, ih]

def stripComments (text : List Char) : List Char :=
  (passages text).flatMap Passage.kept

end EndpointStubs.Java
