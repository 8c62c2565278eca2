import EndpointStubs.Java.Comment
import EndpointStubs.Java.Header
import EndpointStubs.Java.Imports
import EndpointStubs.Java.Signature

/-!
# Outlines

The outline of a source is its package, its imports and the tree of its type
and method declarations, each with its annotations. Method bodies, fields and
initialisers are not part of it. Reading an outline never fails: what is not
recognised as a declaration is left out, and from a block that is never closed
on nothing is read.
-/

namespace EndpointStubs.Java

structure Parameter where
  annotations : List AnnotationUse
  type : String
  name : String
  deriving DecidableEq, Repr

structure Method where
  annotations : List AnnotationUse
  returnType : String
  name : String
  parameters : List Parameter
  deriving DecidableEq, Repr

inductive Member where
  | method (method : Method)
  | type (annotations : List AnnotationUse) (name : String) (members : List Member)

structure Outline where
  /-- Empty if the source declares none. -/
  packageName : String
  imports : List String
  types : List Member

/-- The header of the next member, whether a block follows it, and the text after
the semicolon or the opening brace that ends it. Neither counts inside parentheses. -/
def nextHeader? (depth : Int) : List Lexeme → Option (List Lexeme × Bool × List Lexeme)
  | [] => none
  | l :: rest =>
    if depth = 0 ∧ l = .char ';' then some ([], false, rest)
    else if depth = 0 ∧ l = .char '{' then some ([], true, rest)
    else
      let depth := if l = .char '(' then depth + 1 else if l = .char ')' then depth - 1 else depth
      (nextHeader? depth rest).map fun (header, hasBlock, after) ↦ (l :: header, hasBlock, after)

theorem append_of_nextHeader? {depth : Int} {text header after : List Lexeme} {hasBlock : Bool}
    (h : nextHeader? depth text = some (header, hasBlock, after)) :
    text = header ++ .char (if hasBlock then '{' else ';') :: after := by
  induction text generalizing depth header after with
  | nil => simp [nextHeader?] at h
  | cons l rest ih =>
    rw [nextHeader?] at h
    split at h
    · rename_i hl
      cases h
      simp [hl.2]
    · split at h
      · rename_i hl
        cases h
        simp [hl.2]
      · obtain ⟨⟨i, b, a⟩, hn, he⟩ := Option.map_eq_some_iff.1 h
        cases he
        rw [ih hn, List.cons_append]

theorem length_of_nextHeader? {depth : Int} {text header after : List Lexeme} {hasBlock : Bool}
    (h : nextHeader? depth text = some (header, hasBlock, after)) :
    after.length < text.length := by
  have := congrArg List.length (append_of_nextHeader? h)
  simp only [List.length_append, List.length_cons] at this
  omega

def parameter? (item : List Lexeme) : Option Parameter :=
  let (annotations, declaration) := peelHeader item
  (typeAndName? (flatten declaration)).map fun (type, name) ↦ ⟨annotations, type, name⟩

/-- The text of a parameter list whose parenthesis has just been opened; it ends where
that parenthesis is closed, almost always in the header. `after` and then
`following` are what comes after the header in the source. -/
def parameterList? (header : List Char) (after : List Lexeme) (following : List Char) :
    Option (List Lexeme) :=
  ((closing '(' ')' 0 (lex header)) <|>
    closing '(' ')' 0 (lex (header ++ (flatten after ++ following)))).map Prod.fst

/-- Looking in the header first changes nothing. -/
theorem parameterList?_eq (header : List Char) (after : List Lexeme) (following : List Char) :
    parameterList? header after following =
      (closing '(' ')' 0 (lex (header ++ (flatten after ++ following)))).map Prod.fst := by
  rw [parameterList?]
  cases h : closing '(' ')' 0 (lex header) with
  | none => rfl
  | some found =>
    obtain ⟨inside, outside⟩ := found
    obtain ⟨rest, hr⟩ := closing_lex_append (flatten after ++ following) h
    rw [hr]
    rfl

/-- Reads a method from its peeled declaration. -/
def method? (annotations : List AnnotationUse) (declaration : List Lexeme) (after : List Lexeme)
    (following : List Char) : Option Method := do
  let head ← methodHead? (flatten declaration)
  let parameters ← parameterList? head.parameters after following
  return ⟨annotations, head.returnType, head.name, (listItems parameters).filterMap parameter?⟩

/-- The members declared in a text, the body of a type or a whole source;
`following` is what comes after that text in the source. -/
def members (following : List Char) (text : List Lexeme) : List Member :=
  match _h : nextHeader? 0 text with
  | none => []
  | some (header, false, after) =>
    let (annotations, declaration) := peelHeader header
    let member :=
      if (typeName? (flatten declaration)).isSome then none
      else method? annotations declaration (.char ';' :: after) following
    (member.map .method).toList ++ members following after
  | some (header, true, rest) =>
    match _hc : closing '{' '}' 0 rest with
    | none => []
    | some (body, after) =>
      let (annotations, declaration) := peelHeader header
      let member : Option Member :=
        match typeName? (flatten declaration) with
        | some name =>
          some (.type annotations name (members ('}' :: flatten after ++ following) body))
        | none =>
          (method? annotations declaration (.char '{' :: rest) following).map .method
      member.toList ++ members following after
termination_by text.length
decreasing_by
  · exact length_of_nextHeader? _h
  · have := length_of_nextHeader? _h
    have := length_of_closing _hc
    omega
  · have := length_of_nextHeader? _h
    have := length_of_closing _hc
    omega

def Member.isType : Member → Bool
  | .method _ => false
  | .type .. => true

mutual

/-- How many types stand within each other at most. -/
def Member.nesting : Member → Nat
  | .method _ => 0
  | .type _ _ members => Member.listNesting members + 1

def Member.listNesting : List Member → Nat
  | [] => 0
  | member :: members => max member.nesting (Member.listNesting members)

end

def Outline.ofText (source : List Char) : Outline :=
  let text := stripComments source
  ⟨Java.packageName text, Java.imports text, (members [] (lex text)).filter Member.isType⟩

def Outline.nesting (outline : Outline) : Nat :=
  Member.listNesting outline.types

end EndpointStubs.Java
