import EndpointStubs.Text.Blank
import EndpointStubs.Text.Pattern
import EndpointStubs.Text.Word

/-!
# The type of a response

A stub method takes the response it shall answer with as an argument, unless
the endpoint answers with nothing. The argument has the declared return type,
taken out of a `ResponseEntity` around it.
-/

namespace EndpointStubs

def isVoidType (type : List Char) : Bool :=
  type = "void".toList || type = "Void".toList || type = "java.lang.Void".toList

/-- The type argument of `ResponseEntity`, empty if it has none; nothing for any other type. The
name may be qualified. -/
def responseEntityArgument? (type : List Char) : Option (List Char) :=
  let name := type.takeWhile Text.isWordOrDot
  let tail := type.dropWhile Text.isWordOrDot
  let isEntity := (Text.after? "ResponseEntity".toList.reverse name.reverse).any fun qualifier ↦
    qualifier.isEmpty || (qualifier.head? = some '.' && 2 ≤ qualifier.length)
  if !isEntity then none
  else
    match tail with
    | [] => some []
    | '<' :: rest =>
      if rest.getLast? = some '>' ∧ !rest.dropLast.contains '\n' then some rest.dropLast else none
    | _ => none

/-- The type of the response argument; nothing if there is no response. An unknown
type and an unbounded wildcard are `Object`. -/
def responseArgumentType (responseType : Option String) : Option String :=
  match responseType with
  | none => some "Object"
  | some declared =>
    let type := Text.trim declared.toList
    if isVoidType type then none
    else
      match responseEntityArgument? type with
      | none => some (.ofList type)
      | some argument =>
        let argument := Text.trim argument
        if isVoidType argument then none
        else if argument.isEmpty ∨ argument = ['?'] then some "Object"
        else some (.ofList argument)

end EndpointStubs
