import EndpointStubs.Text.Blank
import EndpointStubs.Text.Pattern
import EndpointStubs.Text.Word

/-!
# Mentions of controllers

A quick test whether a source is worth scanning: it names one of the controller
annotations somewhere, be it in a comment.
-/

namespace EndpointStubs.Java

def isControllerName (name : List Char) : Bool :=
  name = "Controller".toList || name = "RestController".toList

/-- One of the segments of a dotted name is a controller annotation. The name
before it may be any dotted name, but not a lone dot. -/
def namesController (dottedName : List Char) : Bool :=
  match Text.splitAt '.' dottedName with
  | [] :: _ :: segments => segments.any isControllerName
  | segments => segments.any isControllerName

/-- The source uses `@RestController` or `@Controller`, perhaps by a qualified name. -/
def mentionsController : List Char → Bool
  | [] => false
  | c :: rest =>
    (c == '@' && namesController ((Text.trimStart rest).takeWhile Text.isWordOrDot)) ||
      mentionsController rest

end EndpointStubs.Java
