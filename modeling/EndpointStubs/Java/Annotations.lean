import EndpointStubs.Registry
import EndpointStubs.Java.Bracket
import EndpointStubs.Java.StringLiteral
import EndpointStubs.Text.Word

/-!
# Annotations

An annotation has a simple name and possibly arguments in parentheses. Only the
string attributes among the arguments matter: each has the contents of its
string literals as values, one value per element if it is written as an array,
and a single concatenated one otherwise. An argument without a name is the
attribute `value`.
-/

namespace EndpointStubs.Java

structure AnnotationUse where
  name : String
  /-- The text between the parentheses; `none` if there are no parentheses. -/
  arguments : Option (List Char)
  deriving DecidableEq, Repr

/-- The name and the expression of an argument, the expression trimmed. -/
def namedArgument (argument : List Char) : String × List Char :=
  let text := Text.trimStart argument
  let name := text.takeWhile Text.isWord
  match (text.dropWhile Text.isWord).dropWhile Text.isBlank with
  | '=' :: expression =>
    if name.isEmpty then ("value", Text.trim argument) else (.ofList name, Text.trim expression)
  | _ => ("value", Text.trim argument)

/-- The string values of an attribute expression. -/
def attributeValues (expression : List Char) : List String :=
  let contents := stringContents expression
  if expression.head? = some '{' then contents.map .ofList
  else if contents.isEmpty then []
  else [.ofList contents.flatten]

/-- The string attributes among the arguments of an annotation. Of two arguments
with one name the later one counts. -/
def attributes (arguments : Option (List Char)) : Registry String (List String) :=
  .ofList <| (listItems (lex (arguments.getD []))).map fun item ↦
    let (name, expression) := namedArgument (flatten item)
    (name, attributeValues expression)

end EndpointStubs.Java
