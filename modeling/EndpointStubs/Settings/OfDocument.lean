import EndpointStubs.Document
import EndpointStubs.Files.Path
import EndpointStubs.Settings.Basic

/-!
# Settings from documents

Every setting may be absent and then has its default.
-/

namespace EndpointStubs

def Checked.pathText (location : String) (document : Document) : Checked LooseText :=
  match document.text? with
  | some text => .valid (Path.normalized text)
  | none => .invalid [⟨location, .notPath⟩]

def Checked.variableOrder (location : String) (document : Document) : Checked VariableOrder :=
  match document.text?.map LooseText.text? with
  | some none => .invalid [⟨location, .notUnicode⟩]
  | label =>
    match label.join.bind VariableOrder.ofLabel? with
    | some order => .valid order
    | none => .invalid [⟨location, .unknownOrder⟩]

def Settings.ofFields (fields : List (String × Document)) : Except (List FieldError) Settings :=
  let defaults : Settings := {}
  (Settings.mk <$> Checked.optional fields "output_dir" defaults.outputDirectory .pathText
    <*> Checked.optional fields "stub_suffix" defaults.stubSuffix .looseText
    <*> Checked.optional fields "base_suffix" defaults.baseSuffix .looseText
    <*> Checked.optional fields "source_pattern" defaults.sourcePattern .looseText
    <*> Checked.optional fields "encoding" defaults.encoding .looseText
    <*> Checked.optional fields "path_variable_order" defaults.variableOrder
      .variableOrder).toExcept

end EndpointStubs
