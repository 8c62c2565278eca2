import EndpointStubs.Document
import EndpointStubs.Fact.Basic

/-!
# Facts from documents

A fact needs its kind, annotation, element and controller; everything else may
be absent.
-/

namespace EndpointStubs

def Checked.factKind (location : String) (document : Document) : Checked FactKind :=
  match (document.text?.bind LooseText.text?).bind FactKind.ofLabel? with
  | some kind => .valid kind
  | none => .invalid [⟨location, .unknownKind⟩]

def Fact.ofFields (fields : List (String × Document)) : Except (List FieldError) Fact :=
  (Fact.mk <$> Checked.required fields "kind" .factKind
    <*> Checked.required fields "annotation" .text
    <*> Checked.required fields "element" .text
    <*> Checked.required fields "controller" .text
    <*> Checked.optional fields "method_key" none .textOrNull
    <*> Checked.optional fields "method_name" none .textOrNull
    <*> Checked.optional fields "path" [] .texts
    <*> Checked.optional fields "value" [] .texts
    <*> Checked.optional fields "type_text" none .textOrNull
    <*> Checked.optional fields "name" none .textOrNull
    <*> Checked.optional fields "alias" none .textOrNull
    <*> Checked.optional fields "package" none .textOrNull
    <*> Checked.optional fields "imports" [] .texts).toExcept

end EndpointStubs
