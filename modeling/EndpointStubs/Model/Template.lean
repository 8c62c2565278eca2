import EndpointStubs.Model.Basic
import EndpointStubs.Text.Pattern
import EndpointStubs.Text.Quoted

/-!
# Path templates

A path template marks its variables by placeholders `{name}`. Normalizing a
resource replaces the placeholders of its path variables by the format
specifier `%s` and records which variable each of them stands for.
-/

namespace EndpointStubs

/-- The order in which format arguments are recorded. -/
inductive VariableOrder where
  /-- The placeholders from left to right. -/
  | textual
  /-- The path variables as registered. -/
  | declaration
  deriving DecidableEq, Repr

namespace VariableOrder

def label : VariableOrder → String
  | textual => "textual"
  | declaration => "declaration"

def ofLabel? : String → Option VariableOrder
  | "textual" => some textual
  | "declaration" => some declaration
  | _ => none

theorem ofLabel?_label (order : VariableOrder) : ofLabel? order.label = some order := by
  cases order <;> rfl

end VariableOrder

/-- A text that names no order. -/
structure UnknownOrder where
  given : String
  deriving DecidableEq, Repr

def UnknownOrder.message (error : UnknownOrder) : String :=
  "order must be one of ('textual', 'declaration'), got " ++ Text.quoted error.given

def VariableOrder.parse (text : String) : Except UnknownOrder VariableOrder :=
  match ofLabel? text with
  | some order => .ok order
  | none => .error ⟨text⟩

def isBrace (c : Char) : Bool :=
  c == '{' || c == '}'

/-- The groups in braces, the innermost ones where they nest, from the left;
with or without empty groups. -/
def bracedGroups (withEmpty : Bool) (text : List Char) : List (List Char) :=
  match text with
  | [] => []
  | c :: rest =>
    if c = '{' then
      let inside := rest.takeWhile (!isBrace ·)
      match rest.dropWhile (!isBrace ·) with
      | '}' :: _ =>
        if inside.isEmpty && !withEmpty then bracedGroups withEmpty rest
        else inside :: bracedGroups withEmpty rest
      | _ => bracedGroups withEmpty rest
    else bracedGroups withEmpty rest

/-- The text between braces that stands for a name; a missing name is written `None`. -/
def nameText (name : Option String) : String :=
  name.getD "None"

def placeholderText (placeholder : Option String) : List Char :=
  '{' :: (nameText placeholder).toList ++ ['}']

/-- The placeholder of a path variable: its given name, or its own if none is given. -/
def Argument.placeholder (entry : Argument) : Option String :=
  match entry.givenName with
  | some given => if given.isEmpty then entry.name else some given
  | none => entry.name

namespace Resource

/-- The name of the variable that fills each placeholder. Of two variables with
one placeholder the later one fills it. -/
def placeholders (resource : Resource) : Registry (Option String) (Option String) :=
  .ofList <| resource.pathVariables.values.map fun v ↦ (v.placeholder, v.name)

/-- The template with the placeholders replaced one after the other. -/
def substitutePlaceholders (placeholders : List (Option String)) (template : List Char) :
    List Char :=
  placeholders.foldl (fun t p ↦ Text.replaceAll (placeholderText p) "%s".toList t) template

/-- The variables of the format specifiers, in the given order. -/
def argumentOrder (order : VariableOrder) (placeholders : Registry (Option String) (Option String))
    (template : List Char) : List (Option String) :=
  match order with
  | .textual =>
    (bracedGroups false template).filterMap fun group ↦ placeholders.get? (some (.ofList group))
  | .declaration =>
    placeholders.entries.flatMap fun (placeholder, name) ↦
      List.replicate (Text.countOccurrences (placeholderText placeholder) template) name

/-- Resources without path variables or without a template stay as they are. -/
def normalize (order : VariableOrder) (resource : Resource) : Resource :=
  match resource.template with
  | none => resource
  | some template =>
    if resource.pathVariables.isEmpty then resource
    else
      let text := template.toList
      let placeholders := resource.placeholders
      { resource with
        template := some (.ofList (substitutePlaceholders placeholders.keys text))
        formatArguments := argumentOrder order placeholders text }

end Resource

def Model.normalize (order : VariableOrder) (model : Model) : Model :=
  model.mapResources (Resource.normalize order)

end EndpointStubs
