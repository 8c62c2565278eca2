/-!
# Facts

A fact is one pair of an annotation and the declaration it stands on. Facts are
all that is known about the sources: the endpoint model is built from them
alone, in whatever order they come.
-/

namespace EndpointStubs

inductive FactKind where
  | controller
  | getRoute
  | postRoute
  | requestParam
  | pathVariable
  | requestBody
  /-- An annotation that has no meaning where it stands. -/
  | unknown
  deriving DecidableEq, Repr

namespace FactKind

def all : List FactKind :=
  [controller, getRoute, postRoute, requestParam, pathVariable, requestBody, unknown]

def label : FactKind → String
  | controller => "controller"
  | getRoute => "get_route"
  | postRoute => "post_route"
  | requestParam => "request_param"
  | pathVariable => "path_variable"
  | requestBody => "request_body"
  | unknown => "unknown"

def ofLabel? (label : String) : Option FactKind :=
  all.find? (·.label == label)

/-- The kind an annotation has on the declarations it is made for. -/
def ofAnnotationName : String → FactKind
  | "RestController" => controller
  | "GetMapping" => getRoute
  | "PostMapping" => postRoute
  | "RequestParam" => requestParam
  | "PathVariable" => pathVariable
  | "RequestBody" => requestBody
  | _ => unknown

end FactKind

/-- The declarations that annotations stand on. -/
inductive Site where
  | type
  | method
  | parameter
  deriving DecidableEq, Repr

def Site.allows : Site → FactKind → Bool
  | type, kind => kind = .controller
  | method, kind => kind = .getRoute || kind = .postRoute
  | parameter, kind => kind = .requestParam || kind = .pathVariable || kind = .requestBody

/-- The kind of an annotation on this site; out of place it is unknown. -/
def Site.kindOf (site : Site) (annotationName : String) : FactKind :=
  let kind := FactKind.ofAnnotationName annotationName
  if site.allows kind then kind else .unknown

/-- The annotations that are reported at all; the last two carry nothing that the model uses. -/
def reportedAnnotations : List String :=
  ["RestController", "GetMapping", "PostMapping", "RequestParam", "PathVariable", "RequestBody",
    "Controller", "ResponseBody"]

structure Fact where
  kind : FactKind
  annotationName : String
  /-- The declaration the annotation stands on, as shown in messages. -/
  element : String
  /-- The qualified name of the controller. -/
  controller : String
  methodKey : Option String := none
  methodName : Option String := none
  path : List String := []
  value : List String := []
  /-- The return type for routes, the declared type for parameters. -/
  typeText : Option String := none
  name : Option String := none
  /-- The name given to a parameter by its annotation. -/
  givenName : Option String := none
  packageName : Option String := none
  imports : List String := []
  deriving DecidableEq, Repr

end EndpointStubs
