/-!
# Lexemes of source text

Source text is read as single characters and whole string or character
literals. A literal runs from its quote to the next unescaped equal quote, or
through the end of its line if it is not closed there. Everything that counts
brackets or looks for separators works on lexemes, so nothing inside a literal
is ever mistaken for structure. Writing the lexemes out gives the text back.
-/

namespace EndpointStubs.Java

inductive Lexeme where
  | char (c : Char)
  | literal (text : List Char)
  deriving DecidableEq, Repr

def isQuote (c : Char) : Bool :=
  c == '"' || c == '\''

/-- What follows the opening quote, cut after the end of the literal. -/
def literalTail (quote : Char) : List Char → List Char × List Char
  | [] => ([], [])
  | c :: rest =>
    if c = '\\' then
      match rest with
      | [] => ([c], [])
      | escaped :: rest =>
        let (inside, outside) := literalTail quote rest
        (c :: escaped :: inside, outside)
    else if c = quote ∨ c = '\n' then ([c], rest)
    else
      let (inside, outside) := literalTail quote rest
      (c :: inside, outside)

theorem literalTail_append (quote : Char) (text : List Char) :
    (literalTail quote text).1 ++ (literalTail quote text).2 = text := by
  fun_induction literalTail quote text <;> simp_all

theorem length_literalTail (quote : Char) (text : List Char) :
    (literalTail quote text).2.length ≤ text.length := by
  have := congrArg List.length (literalTail_append quote text)
  simp only [List.length_append] at this
  omega

/-- A literal that ends before the text does ends there in any longer text. -/
theorem literalTail_append_right {quote : Char} {text : List Char} (more : List Char)
    (h : (literalTail quote text).2 ≠ []) :
    literalTail quote (text ++ more) =
      ((literalTail quote text).1, (literalTail quote text).2 ++ more) := by
  fun_induction literalTail quote text <;>
    (rw [literalTail.eq_def quote (_ ++ more)]; simp_all)

namespace Lexeme

def chars : Lexeme → List Char
  | .char c => [c]
  | .literal text => text

/-- The lexeme is a single character, outside of literals, that satisfies `p`. -/
def is (p : Char → Bool) : Lexeme → Bool
  | .char c => p c
  | .literal _ => false

end Lexeme

/-- The text that the lexemes were read from. -/
def flatten (lexemes : List Lexeme) : List Char :=
  lexemes.flatMap Lexeme.chars

@[simp]
theorem flatten_nil : flatten [] = [] := rfl

@[simp]
theorem flatten_cons (l : Lexeme) (ls : List Lexeme) :
    flatten (l :: ls) = l.chars ++ flatten ls := by
  simp [flatten]

@[simp]
theorem flatten_append (ls ms : List Lexeme) : flatten (ls ++ ms) = flatten ls ++ flatten ms := by
  simp [flatten]

def lex : List Char → List Lexeme
  | [] => []
  | c :: rest =>
    if isQuote c then
      .literal (c :: (literalTail c rest).1) :: lex (literalTail c rest).2
    else .char c :: lex rest
termination_by text => text.length
decreasing_by
  · have := length_literalTail c rest
    simp only [List.length_cons]
    omega
  · simp

@[simp]
theorem flatten_lex (text : List Char) : flatten (lex text) = text := by
  fun_induction lex text with
  | case1 => rfl
  | case2 c rest _ ih =>
    rw [flatten_cons, ih, Lexeme.chars, List.cons_append, literalTail_append]
  | case3 c rest _ ih => rw [flatten_cons, ih]; rfl

end EndpointStubs.Java
