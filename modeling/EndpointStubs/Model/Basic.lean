import EndpointStubs.Registry

/-!
# The endpoint model

A model holds the controllers by qualified name; a controller holds its
endpoints, here called resources, by method key; a resource holds its query
arguments and path variables by parameter name. A parameter may have been
reported without a name, so these two registries also admit the key `none`.
-/

namespace EndpointStubs

inductive HttpMethod where
  | get
  | post
  deriving DecidableEq, Repr

def HttpMethod.label : HttpMethod → String
  | get => "GET"
  | post => "POST"

/-- A query parameter, a path variable or a request body. -/
structure Argument where
  name : Option String := none
  type : Option String := none
  /-- The name given by the annotation, if it differs from the parameter's own. -/
  givenName : Option String := none
  deriving DecidableEq, Repr

structure Resource where
  methodName : Option String := none
  httpMethod : Option HttpMethod := none
  /-- The path template; its placeholders become format specifiers when it is normalized. -/
  template : Option String := none
  responseType : Option String := none
  /-- A path variable or a request body has been seen. -/
  hasPathVariable : Bool := false
  arguments : Registry (Option String) Argument := ∅
  pathVariables : Registry (Option String) Argument := ∅
  requestBody : Option Argument := none
  /-- The names of the format arguments of the normalized template, in their order. -/
  formatArguments : List (Option String) := []
  deriving DecidableEq, Repr

structure Controller where
  packageName : Option String := none
  imports : List String := []
  resources : Registry String Resource := ∅
  deriving DecidableEq, Repr

structure Model where
  controllers : Registry String Controller := ∅
  deriving DecidableEq, Repr

instance : EmptyCollection Model := ⟨{}⟩

namespace Model

def controller? (model : Model) (controller : String) : Option Controller :=
  model.controllers.get? controller

def resource? (model : Model) (controller key : String) : Option Resource :=
  (model.controller? controller).bind (·.resources.get? key)

def updateController (model : Model) (controller : String) (f : Controller → Controller) : Model :=
  ⟨model.controllers.update controller {} f⟩

theorem controller?_updateController (model : Model) (controller : String)
    (f : Controller → Controller) (other : String) :
    (model.updateController controller f).controller? other =
      if other = controller then some (f ((model.controller? controller).getD {}))
      else model.controller? other :=
  model.controllers.get?_update controller {} f other

/-- Changes a resource by `f`; the resource and its controller are added if they are new. -/
def updateResource (model : Model) (controller key : String) (f : Resource → Resource) : Model :=
  model.updateController controller fun c ↦ { c with resources := c.resources.update key {} f }

/-- Changing one resource leaves every other one as it is. -/
theorem resource?_updateResource (model : Model) (controller key : String)
    (f : Resource → Resource) (otherController otherKey : String) :
    (model.updateResource controller key f).resource? otherController otherKey =
      if otherController = controller ∧ otherKey = key then
        some (f ((model.resource? controller key).getD {}))
      else model.resource? otherController otherKey := by
  rw [resource?, updateResource, controller?_updateController]
  by_cases hc : otherController = controller
  · subst hc
    simp only [if_true, Option.bind_some, true_and, Registry.get?_update]
    cases h : model.controller? otherController <;> simp [resource?, h]
  · simp [resource?, hc]

/-- Applies `f` to every resource of every controller. -/
def mapResources (f : Resource → Resource) (model : Model) : Model :=
  ⟨model.controllers.mapValues fun c ↦ { c with resources := c.resources.mapValues f }⟩

theorem resource?_mapResources (f : Resource → Resource) (model : Model) (controller key : String) :
    (model.mapResources f).resource? controller key = (model.resource? controller key).map f := by
  simp only [resource?, controller?, mapResources, Registry.get?_mapValues]
  cases model.controllers.get? controller <;> simp

/-- Every resource with its key, controller by controller. -/
def endpoints (model : Model) : List (String × Resource) :=
  model.controllers.values.flatMap (·.resources.entries)

end Model

end EndpointStubs
