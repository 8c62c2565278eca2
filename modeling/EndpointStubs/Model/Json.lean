import EndpointStubs.Json
import EndpointStubs.Model.Template

/-!
# Models as JSON

The text in which a model is shown: all fields in the order of their
declaration, registries as objects in insertion order.
-/

namespace EndpointStubs

def Json.ofText (value : Option String) : Json :=
  .ofOption .string value

def Argument.json (argument : Argument) : Json :=
  .object [
    ("name", .ofText argument.name),
    ("type", .ofText argument.type),
    ("alias", .ofText argument.givenName)]

def argumentsJson (arguments : Registry (Option String) Argument) : Json :=
  .object (arguments.entries.map fun (name, a) ↦ (nameText name, a.json))

def Resource.json (resource : Resource) : Json :=
  .object [
    ("method_name", .ofText resource.methodName),
    ("http_method", .ofText (resource.httpMethod.map HttpMethod.label)),
    ("sub_resource", .ofText resource.template),
    ("response_type", .ofText resource.responseType),
    ("url_has_path_variable", .bool resource.hasPathVariable),
    ("arguments", argumentsJson resource.arguments),
    ("path_variables", argumentsJson resource.pathVariables),
    ("request_body", .ofOption Argument.json resource.requestBody),
    ("path_variable_order", .array (resource.formatArguments.map .ofText))]

def Controller.json (controller : Controller) : Json :=
  .object [
    ("package", .ofText controller.packageName),
    ("imports", .array (controller.imports.map .string)),
    ("resources", .object (controller.resources.entries.map fun (key, r) ↦ (key, r.json)))]

def Model.json (model : Model) : Json :=
  .object [
    ("controllers", .object (model.controllers.entries.map fun (key, c) ↦ (key, c.json)))]

def Model.text (model : Model) : String :=
  model.json.text 0

end EndpointStubs
