import EndpointStubs.Text.Blank
import EndpointStubs.Text.Pattern
import EndpointStubs.Text.Word

/-!
# Signatures

What a declaration says once its annotations and modifiers are gone: the name
of a type, the return type and name of a method, the type and name of a
parameter. These read characters, not lexemes: a quote has no meaning here.
-/

namespace EndpointStubs.Java

def typeKeywords : List String :=
  ["class", "interface", "enum", "record"]

/-- The name in `class Name`, `interface Name`, `enum Name` or `record Name`. -/
def typeName? (declaration : List Char) : Option String :=
  match typeKeywords.findSome? fun keyword ↦ Text.after? keyword.toList declaration with
  | none => none
  | some rest =>
    let name := (Text.trimStart rest).takeWhile Text.isWord
    if (rest.takeWhile Text.isBlank).isEmpty ∨ name.isEmpty then none else some (.ofList name)

structure MethodHead where
  returnType : String
  name : String
  /-- The text after the parenthesis that opens the parameter list. -/
  parameters : List Char

def isBeforeParameters (c : Char) : Bool :=
  c != '(' && c != '='

/-- Reads `Type name (`, where no `=` stands before the parenthesis. The type may
be blank, if at least two blanks stand before the name. -/
def typedHead? (text : List Char) : Option MethodHead :=
  match text.dropWhile isBeforeParameters with
  | '(' :: parameters =>
    let (typeAndGap, name) :=
      Text.splitTrailing Text.isWord (Text.trimEnd (text.takeWhile isBeforeParameters))
    let type := Text.trimEnd typeAndGap
    if name.isEmpty ∨ type = typeAndGap ∨ (type.isEmpty ∧ typeAndGap.length < 2) then none
    else some ⟨.ofList (Text.compact type), .ofList name, parameters⟩
  | _ => none

/-- Reads the head of a method. A `<` at the front opens a type parameter
section, which is taken to end at the first `>`; where no head follows that, the
section is read as part of the type. -/
def methodHead? (declaration : List Char) : Option MethodHead :=
  match declaration with
  | '<' :: typeParameters =>
    match typeParameters.dropWhile (· != '>') with
    | '>' :: rest =>
      typedHead? (Text.trimStart rest) <|> typedHead? rest <|> typedHead? declaration
    | _ => typedHead? declaration
  | _ => typedHead? declaration

/-- The type and the name of a parameter: the name is the word at the end, the
type is what stands before it. -/
def typeAndName? (declaration : List Char) : Option (String × String) :=
  let (typeAndGap, name) := Text.splitTrailing Text.isWord (Text.trim declaration)
  if name.isEmpty ∨ (Text.trimEnd typeAndGap).isEmpty then none
  else some (.ofList (Text.compact typeAndGap), .ofList name)

end EndpointStubs.Java
