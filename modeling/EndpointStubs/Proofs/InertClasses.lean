import EndpointStubs.Files.Search
import EndpointStubs.Proofs.ClassFiles
import EndpointStubs.Proofs.PrintableModels

/-!
# Nothing is reported from generated classes

The generated classes are sources themselves, and are scanned again if they lie
below a directory of sources. Line by line they are texts that nothing is reported
from: names and types bring nothing that means anything to the scanner, free texts
stand in literals behind a parenthesis or an equals sign, and all the rest is fixed.
So no template and no given name can get out of its literal, whatever it holds, as
long as it is on one line. For a text with a carriage return this is only so of the
class as it is generated: in a file the carriage return is read as the end of a line.
-/

namespace EndpointStubs

open Java

section Parts

variable {before : Bool}

theorem unmarked_nameText {name : Option String} (h : ∀ text ∈ name, Unmarked before text) :
    Unmarked before (nameText name) := by
  cases name with
  | none => cases before <;> exact .ofList rfl
  | some text => exact h text rfl

theorem unmarked_intercalate {texts : List String} (h : ∀ text ∈ texts, Unmarked before text) :
    Unmarked before (", ".intercalate texts) := by
  have hcomma : Unmarked before ", " := by cases before <;> exact .ofList rfl
  rw [Unmarked, String.toList_intercalate]
  refine forall_mem_intercalate hcomma fun piece hpiece ↦ ?_
  obtain ⟨text, htext, rfl⟩ := List.mem_map.1 hpiece
  exact h text htext

theorem unmarked_parameterText {type name : Option String}
    (htype : ∀ text ∈ type, Unmarked true text) (hname : ∀ text ∈ name, IsNameText text) :
    Unmarked true (parameterText type name) := by
  have hnameText := unmarked_nameText fun text htext ↦ (hname text htext).unmarked true
  have hfinal : Unmarked true "final " := .ofList rfl
  have hblank : Unmarked true " " := .ofList rfl
  exact ((hfinal.append (unmarked_nameText htype)).append hblank).append hnameText

theorem unmarked_urlText {constant url : String} {names : List (Option String)}
    (hconstant : Unmarked before constant)
    (hnames : ∀ name ∈ names, ∀ text ∈ name, Unmarked before text)
    (h : urlText constant names = .ok url) : Unmarked before url := by
  unfold urlText at h
  split at h
  · exact Except.ok.inj h ▸ hconstant
  · split at h
    · cases h
    · cases h
      have hformat : Unmarked before "String.format(" := by cases before <;> exact .ofList rfl
      have hcomma : Unmarked before ", " := by cases before <;> exact .ofList rfl
      have hclose : Unmarked before ")" := by cases before <;> exact .ofList rfl
      refine (((hformat.append hconstant).append hcomma).append
        (unmarked_intercalate fun text htext ↦ ?_)).append hclose
      obtain ⟨name, hname, rfl⟩ := List.mem_map.1 htext
      exact unmarked_nameText (hnames name hname)

theorem mem_of_responseEntityArgument? {type argument : List Char}
    (h : responseEntityArgument? type = some argument) : ∀ c ∈ argument, c ∈ type := by
  unfold responseEntityArgument? at h
  dsimp only at h
  split at h
  · cases h
  · split at h
    · cases h
      exact nofun
    · rename_i rest hrest
      rw [Option.ite_none_right_eq_some, Option.some.injEq] at h
      obtain ⟨-, rfl⟩ := h
      intro c hc
      have htail : c ∈ '<' :: rest := List.mem_cons_of_mem _ (List.mem_of_mem_dropLast hc)
      rw [← hrest] at htail
      exact (List.dropWhile_subset _) htail
    · cases h

/-- The type of the response is a part of the declared type, or the most general one. -/
theorem unmarked_responseArgumentType {declared : Option String}
    (h : ∀ text ∈ declared, Unmarked before text) :
    ∀ type ∈ responseArgumentType declared, Unmarked before type := by
  have hobject : Unmarked before "Object" := by cases before <;> exact .ofList rfl
  intro type htype
  cases declared with
  | none => exact Option.some.inj htype ▸ hobject
  | some text =>
    have hpart {part : List Char} (hmem : ∀ c ∈ part, c ∈ text.toList) :
        Unmarked before (.ofList part) := by
      rw [Unmarked, String.toList_ofList]
      exact fun c hc ↦ h text rfl c (hmem c hc)
    rw [responseArgumentType] at htype
    dsimp only at htype
    split at htype
    · cases htype
    · split at htype
      · exact Option.some.inj htype ▸ hpart fun c hc ↦ Text.mem_of_mem_trim hc
      · rename_i argument hargument
        split at htype
        · cases htype
        · split at htype
          · exact Option.some.inj htype ▸ hobject
          · exact Option.some.inj htype ▸ hpart fun c hc ↦ Text.mem_of_mem_trim
              (mem_of_responseEntityArgument? hargument c (Text.mem_of_mem_trim hc))

end Parts

/-- An endpoint with the name of its stub method. -/
structure StubEndpoint.IsPrintable (p : Prop) (endpoint : StubEndpoint) : Prop where
  name : IsNameText endpoint.name
  resource : endpoint.resource.IsPrintable p
  consistent : endpoint.resource.Consistent

/-- Parameters are registered under their own names. -/
theorem Registry.IsNamedByKeys.isNameText {p : Prop}
    {registry : Registry (Option String) Argument} (hkeys : registry.IsNamedByKeys)
    (h : registry.Forall (Argument.IsPrintable p)) {name : Option String}
    (hname : name ∈ registry.keys) : ∀ text ∈ name, IsNameText text := by
  rw [Registry.mem_keys_iff] at hname
  obtain ⟨argument, hargument⟩ := Option.isSome_iff_exists.1 hname
  rw [← hkeys name argument hargument]
  exact (h name argument hargument).name

namespace StubEndpoint.IsPrintable

variable {p : Prop} {endpoint : StubEndpoint} (h : endpoint.IsPrintable p)

include h

theorem isNameText_constant : IsNameText endpoint.constant :=
  holdsNames_isPlainChar.forall_mem_constantName h.name

theorem isNameText_formatArguments : ∀ name ∈ endpoint.resource.formatArguments,
    ∀ text ∈ name, IsNameText text :=
  fun name hname ↦ h.consistent.pathVariables.isNameText h.resource.pathVariables
    (h.consistent.formatArguments name hname)

theorem unmarked_variableParameter {name : Option String}
    (hname : name ∈ endpoint.resource.formatArguments) :
    Unmarked true (endpoint.resource.variableParameter name) := by
  refine unmarked_parameterText (fun type htype ↦ ?_) (h.isNameText_formatArguments name hname)
  obtain ⟨argument, hargument, htype⟩ := Option.bind_eq_some_iff.1 htype
  exact (h.resource.pathVariables name argument hargument).type type htype

/-- All parameters of a stub method are written without marks. -/
theorem unmarked_parameters {leading : List String} {arguments : List (Option String × Argument)}
    (hleading : ∀ parameter ∈ leading, Unmarked true parameter)
    (harguments : ∀ entry ∈ arguments, (∀ text ∈ entry.1, IsNameText text) ∧
      entry.2.IsPrintable p) :
    ∀ parameter ∈ endpoint.parameters leading arguments, Unmarked true parameter := by
  intro parameter hparameter
  unfold StubEndpoint.parameters at hparameter
  rcases List.mem_append.1 hparameter with hparameter | hparameter
  · rcases List.mem_append.1 hparameter with hparameter | hparameter
    · rcases List.mem_append.1 hparameter with hparameter | hparameter
      · exact hleading parameter hparameter
      · obtain ⟨entry, hentry, rfl⟩ := List.mem_map.1 hparameter
        exact unmarked_parameterText (harguments entry hentry).2.type (harguments entry hentry).1
    · obtain ⟨body, hbody, rfl⟩ := List.mem_map.1 hparameter
      have hprintable := h.resource.requestBody body (Option.mem_toList.1 hbody)
      exact unmarked_parameterText hprintable.type hprintable.name
  · obtain ⟨type, htype, rfl⟩ := List.mem_map.1 hparameter
    have htypeText := unmarked_responseArgumentType h.resource.responseType type
      (Option.mem_toList.1 htype)
    have hfinal : Unmarked true "final " := .ofList rfl
    have hresponse : Unmarked true " response" := .ofList rfl
    exact (hfinal.append htypeText).append hresponse

theorem inert_signature {parameters : List String}
    (hparameters : ∀ parameter ∈ parameters, Unmarked true parameter) :
    Inert p false false (endpoint.signature parameters).toList := by
  have hstart : Inert p false false "    public void ".toList := .of_unmarked (.ofList rfl)
  have hname : Inert p false false endpoint.name.toList := .of_unmarked (h.name.unmarked false)
  have hopen : Inert p false true "(".toList := .ofList (by decide +kernel)
  have hlist : Inert p true true (", ".intercalate parameters).toList :=
    .of_unmarked (unmarked_intercalate hparameters)
  have hclose : Inert p true false ") \x7b".toList := .ofList (by decide +kernel)
  exact (((hstart.append_string hname).append_string hopen).append_string hlist).append_string
    hclose

theorem unmarked_url {url : String} (before : Bool)
    (hurl : urlText endpoint.constant endpoint.resource.formatArguments = .ok url) :
    Unmarked before url :=
  unmarked_urlText (h.isNameText_constant.unmarked before)
    (fun name hname text htext ↦ (h.isNameText_formatArguments name hname text htext).unmarked _)
    hurl

omit h in
theorem inert_requestLine {url : String} (hurl : Unmarked false url) :
    Inert p false false (endpoint.requestLine url).toList := by
  have hcall : Unmarked false "        stubFor(" := .ofList rfl
  have hverb : Unmarked false endpoint.httpMethod.verb := by
    cases endpoint.httpMethod <;> exact .ofList rfl
  have hpath : Unmarked false "(urlPathEqualTo(" := .ofList rfl
  have hclose : Unmarked false "))" := .ofList rfl
  exact .of_unmarked ((((hcall.append hverb).append hpath).append hurl).append hclose)

omit h in
/-- The name under which an argument is sent stands in its literal. -/
theorem exists_of_queryLine {name : Option String} {argument : Argument} {line : String}
    (hname : ∀ text ∈ name, IsNameText text) (hargument : argument.IsPrintable p)
    (hline : queryLine name argument = .ok line) :
    ∃ queryName, IsLine p queryName ∧
      line = "                .withQueryParam(\"" ++ escapeString queryName ++
        "\", equalTo(String.valueOf(" ++ nameText name ++ ")))" := by
  unfold queryLine at hline
  split at hline
  · cases hline
  · rename_i queryName hquery
    cases hline
    refine ⟨queryName, ?_, rfl⟩
    rcases (Option.orElse_eq_some _ _ _).1 hquery with hgiven | ⟨-, hown⟩
    · exact hargument.givenName queryName (Option.filter_eq_some_iff.1 hgiven).1
    · exact (hname queryName hown).isLine p

omit h in
theorem inert_queryLine {name : Option String} {argument : Argument} {line : String}
    (hname : ∀ text ∈ name, IsNameText text) (hargument : argument.IsPrintable p)
    (hline : queryLine name argument = .ok line) : Inert p false false line.toList := by
  obtain ⟨queryName, hquoted, rfl⟩ := exists_of_queryLine hname hargument hline
  have hstart : Inert p false true "                .withQueryParam(".toList :=
    .ofList (by decide +kernel)
  have hvalue : Inert p true true ", equalTo(String.valueOf(".toList := .of_unmarked (.ofList rfl)
  have hnameText : Inert p true true (nameText name).toList :=
    .of_unmarked (unmarked_nameText fun text htext ↦ (hname text htext).unmarked true)
  have hclose : Inert p true false ")))".toList := .ofList (by decide +kernel)
  exact ((Inert.quoted hstart hvalue rfl rfl hquoted.1 hquoted.2).append_string
    hnameText).append_string hclose

theorem inert_bodyLines : ∀ line ∈ endpoint.bodyLines, Inert p false false line.toList := by
  intro line hline
  obtain ⟨body, hbody, rfl⟩ := List.mem_map.1 hline
  have hname := (h.resource.requestBody body (Option.mem_toList.1 hbody)).name
  have hstart : Unmarked false "                .withRequestBody(equalToJson(buildBody(" :=
    .ofList rfl
  have hclose : Unmarked false ")))" := .ofList rfl
  exact .of_unmarked ((hstart.append (unmarked_nameText fun text htext ↦
    (hname text htext).unmarked false)).append hclose)

omit h in
theorem inert_answerLine : Inert p false false endpoint.answerLine.toList := by
  unfold answerLine
  split <;> exact .of_unmarked (.ofList rfl)

theorem of_mem_sortedArguments {arguments : List (Option String × Argument)}
    (harguments : sortedArguments endpoint.resource.arguments = .ok arguments) :
    ∀ entry ∈ arguments, (∀ text ∈ entry.1, IsNameText text) ∧ entry.2.IsPrintable p := by
  unfold sortedArguments at harguments
  split at harguments
  · cases harguments
  · cases harguments
    intro entry hentry
    have hmem := List.mem_mergeSort.1 hentry
    refine ⟨h.consistent.arguments.isNameText h.resource.arguments (List.mem_map_of_mem hmem), ?_⟩
    exact h.resource.arguments entry.1 entry.2 (Registry.get?_eq_some_iff.2 hmem)

/-- The lines of a stub method, and what is known of their parts. -/
theorem exists_of_methodLines {lines : List String} (hlines : endpoint.methodLines = .ok lines) :
    ∃ parameters url queryLines,
      lines = endpoint.signature parameters :: endpoint.requestLine url ::
        (queryLines ++ endpoint.bodyLines ++ [endpoint.answerLine, "    \x7d"]) ∧
      (∀ parameter ∈ parameters, Unmarked true parameter) ∧ (∀ before, Unmarked before url) ∧
      ∀ line ∈ queryLines, ∃ name argument, (∀ text ∈ name, IsNameText text) ∧
        argument.IsPrintable p ∧ queryLine name argument = .ok line := by
  obtain ⟨leading, arguments, url, queryLines, hleading, harguments, hurl, hqueryLines, rfl⟩ :=
    methodLines_eq_ok hlines
  have hentries := h.of_mem_sortedArguments harguments
  obtain ⟨declared, rfl, -, hdeclared⟩ := pathParameters_eq_ok hleading
  have hvariables : ∀ parameter ∈ declared.map endpoint.resource.variableParameter,
      Unmarked true parameter := by
    intro parameter hparameter
    obtain ⟨name, hname, rfl⟩ := List.mem_map.1 hparameter
    exact h.unmarked_variableParameter ((hdeclared name).1 hname).1
  refine ⟨_, url, queryLines, rfl, h.unmarked_parameters hvariables hentries,
    fun before ↦ h.unmarked_url before hurl, ?_⟩
  exact forall_mem_of_mapM_eq_ok hqueryLines fun entry hentry line hline ↦
    ⟨entry.1, entry.2, (hentries entry hentry).1, (hentries entry hentry).2, hline⟩

/-- Nothing is reported from the lines of a stub method. -/
theorem inert_methodLines {lines : List String} (hlines : endpoint.methodLines = .ok lines) :
    ∀ line ∈ lines, Inert p false false line.toList := by
  obtain ⟨parameters, url, queryLines, rfl, hparameters, hurl, hqueryLines⟩ :=
    h.exists_of_methodLines hlines
  have hqueries : ∀ line ∈ queryLines, Inert p false false line.toList := by
    intro line hline
    obtain ⟨name, argument, hname, hargument, hquery⟩ := hqueryLines line hline
    exact inert_queryLine hname hargument hquery
  have hlast : ∀ line ∈ [endpoint.answerLine, "    \x7d"], Inert p false false line.toList :=
    List.forall_mem_cons.2 ⟨inert_answerLine,
      List.forall_mem_singleton.2 (.of_unmarked (.ofList rfl))⟩
  refine List.forall_mem_cons.2 ⟨h.inert_signature hparameters,
    List.forall_mem_cons.2 ⟨inert_requestLine (hurl false), ?_⟩⟩
  exact List.forall_mem_append.2 ⟨List.forall_mem_append.2 ⟨hqueries, h.inert_bodyLines⟩, hlast⟩

theorem isLine_template : IsLine p (endpoint.resource.template.getD "") := by
  cases htemplate : endpoint.resource.template with
  | none => exact ⟨List.not_mem_nil, fun hmem ↦ absurd hmem List.not_mem_nil⟩
  | some text => exact h.resource.template text htemplate

/-- The template of the endpoint stands in its literal. -/
theorem inert_constantLine : Inert p false false endpoint.constantLine.toList := by
  have hkeywords : Inert p false false "    protected static final String ".toList :=
    .of_unmarked (.ofList rfl)
  have hconstant : Inert p false false endpoint.constant.toList :=
    .of_unmarked (h.isNameText_constant.unmarked false)
  have hassign : Inert p false true " = ".toList := .ofList (by decide +kernel)
  have hclose : Inert p true false ";".toList := .ofList (by decide +kernel)
  have hopening : ("    protected static final String " ++ endpoint.constant ++ " = \"").toList =
      ("    protected static final String " ++ endpoint.constant ++ " = ").toList ++ ['"'] := by
    simp
  exact Inert.quoted ((hkeywords.append_string hconstant).append_string hassign) hclose hopening rfl
    h.isLine_template.1 h.isLine_template.2

end StubEndpoint.IsPrintable

/-! ## Classes -/

theorem unmarked_packageLines {packageName : String} (h : IsNameText packageName) :
    ∀ line ∈ packageLines packageName, Unmarked false line := by
  have hkeyword : Unmarked false "package " := .ofList rfl
  have hend : Unmarked false ";" := .ofList rfl
  have hempty : Unmarked false "" := .ofList rfl
  unfold packageLines
  split
  · exact List.forall_mem_nil _
  · exact List.forall_mem_cons.2 ⟨(hkeyword.append (h.unmarked false)).append hend,
      List.forall_mem_singleton.2 hempty⟩

theorem unmarked_importLines {imports : List String} (h : ∀ name ∈ imports, IsNameText name) :
    ∀ line ∈ importLines imports, Unmarked false line := by
  intro line hline
  obtain ⟨name, hname, rfl⟩ := List.mem_map.1 hline
  have hnameText : Unmarked false name := by
    rcases List.mem_cons.1 (List.mem_eraseDups.1 (List.mem_mergeSort.1 hname)) with rfl | hmem
    · exact .ofList rfl
    · exact (h name (List.mem_of_mem_filter hmem)).unmarked false
  have hkeyword : Unmarked false "import " := .ofList rfl
  have hend : Unmarked false ";" := .ofList rfl
  exact (hkeyword.append hnameText).append hend

theorem IsNameText.append {text more : String} (h : IsNameText text) (hmore : IsNameText more) :
    IsNameText (text ++ more) := by
  rw [IsNameText, String.toList_append]
  exact List.forall_mem_append.2 ⟨h, hmore⟩

/-- The line that starts the constructor of a class. -/
theorem unmarked_constructorLine {className : String} (h : IsNameText className) :
    Unmarked false ("    public " ++ className ++ "(ObjectMapper objectMapper) \x7b") := by
  have hkeyword : Unmarked false "    public " := .ofList rfl
  have hparameters : Unmarked false "(ObjectMapper objectMapper) \x7b" := .ofList rfl
  exact (hkeyword.append (h.unmarked false)).append hparameters

theorem inert_fileText {p : Prop} {lines : List String}
    (h : ∀ line ∈ lines, Inert p false false line.toList) :
    Inert p false false (fileText lines).toList := by
  have hnewline : Inert p false false "\n".toList := .of_unmarked (.ofList rfl)
  have hlines : Inert p false false ("\n".intercalate lines).toList := by
    rw [String.toList_intercalate]
    refine .intercalate fun piece hpiece ↦ ?_
    obtain ⟨line, hline, rfl⟩ := List.mem_map.1 hpiece
    exact h line hline
  exact hlines.append_string hnewline

namespace Controller

variable {p : Prop} {controller : Controller} {suffixes : Suffixes}
  {packageName simpleName : String}

theorem IsPrintable.isPrintable_stubEndpoints (h : controller.IsPrintable p)
    (hconsistent : controller.Consistent) :
    ∀ endpoint ∈ controller.stubEndpoints, endpoint.IsPrintable p := by
  intro endpoint hendpoint
  obtain ⟨key, methodName, n, hmem, hmethod, hname⟩ := exists_of_mem_numberEndpoints hendpoint
  have hget := Registry.get?_eq_some_iff.2 (List.mem_mergeSort.1 hmem)
  have hresource := h.resources key endpoint.resource hget
  refine ⟨?_, hresource, hconsistent.resources key endpoint.resource hget⟩
  rw [hname]
  exact holdsNames_isPlainChar.forall_mem_numberedName (hresource.methodName methodName hmethod) n

/-- The fixed helper methods hold two literals, both behind a parenthesis. -/
theorem inert_helperLines : ∀ line ∈ helperLines, Inert p false false line.toList := by
  simp only [helperLines, List.forall_mem_cons]
  and_intros
  all_goals first
    | exact .of_unmarked (.ofList rfl)
    | exact .ofList (by decide +kernel)
    | exact List.forall_mem_nil _

theorem unmarked_stubHead (hpackage : IsNameText packageName)
    (himports : ∀ name ∈ controller.imports, IsNameText name)
    (hstub : IsNameText (simpleName ++ suffixes.stub))
    (hbase : IsNameText (simpleName ++ suffixes.base)) :
    ∀ line ∈ controller.stubHead suffixes packageName simpleName, Unmarked false line := by
  have hclass : Unmarked false ("public class " ++ (simpleName ++ suffixes.stub) ++ " extends " ++
      (simpleName ++ suffixes.base) ++ " \x7b") := by
    have hkeyword : Unmarked false "public class " := .ofList rfl
    have hextends : Unmarked false " extends " := .ofList rfl
    have hbrace : Unmarked false " \x7b" := .ofList rfl
    exact (((hkeyword.append (hstub.unmarked false)).append hextends).append
      (hbase.unmarked false)).append hbrace
  have hconstructor := unmarked_constructorLine hstub
  rw [stubHead, List.forall_mem_append, List.forall_mem_append]
  refine ⟨⟨unmarked_packageLines hpackage, unmarked_importLines himports⟩, ?_⟩
  simp only [List.forall_mem_cons]
  exact ⟨.ofList rfl, .ofList rfl, .ofList rfl, .ofList rfl, .ofList rfl, hclass, .ofList rfl,
    hconstructor, .ofList rfl, .ofList rfl, List.forall_mem_nil _⟩

theorem unmarked_baseHead (hpackage : IsNameText packageName)
    (hbase : IsNameText (simpleName ++ suffixes.base)) :
    ∀ line ∈ baseHead suffixes packageName simpleName, Unmarked false line := by
  have hclass : Unmarked false ("public class " ++ (simpleName ++ suffixes.base) ++ " \x7b") := by
    have hkeyword : Unmarked false "public class " := .ofList rfl
    have hbrace : Unmarked false " \x7b" := .ofList rfl
    exact (hkeyword.append (hbase.unmarked false)).append hbrace
  rw [baseHead, List.forall_mem_append]
  refine ⟨unmarked_packageLines hpackage, ?_⟩
  simp only [List.forall_mem_cons]
  exact ⟨.ofList rfl, .ofList rfl, .ofList rfl, .ofList rfl, .ofList rfl, .ofList rfl, hclass,
    .ofList rfl,
    List.forall_mem_nil _⟩

/-- Nothing is reported from the stub class. -/
theorem IsPrintable.inert_stubText (h : controller.IsPrintable p)
    (hconsistent : controller.Consistent) (hpackage : IsNameText packageName)
    (hstub : IsNameText (simpleName ++ suffixes.stub))
    (hbase : IsNameText (simpleName ++ suffixes.base)) {text : String}
    (htext : controller.stubText suffixes packageName simpleName = .ok text) :
    Inert p false false text.toList := by
  obtain ⟨methods, hmethods, rfl⟩ := stubText_eq_ok htext
  have hendpoints := h.isPrintable_stubEndpoints hconsistent
  have hempty : Inert p false false "".toList := .of_unmarked (.ofList rfl)
  have hclose : Inert p false false "\x7d".toList := .of_unmarked (.ofList rfl)
  have hlines : ∀ lines ∈ methods, ∀ line ∈ "" :: lines, Inert p false false line.toList :=
    forall_mem_of_mapM_eq_ok hmethods fun endpoint hendpoint lines hlines ↦
      List.forall_mem_cons.2 ⟨hempty, (hendpoints endpoint hendpoint).inert_methodLines hlines⟩
  refine inert_fileText (List.forall_mem_append.2 ⟨List.forall_mem_append.2 ⟨fun line hline ↦ ?_,
    fun line hline ↦ ?_⟩, List.forall_mem_singleton.2 hclose⟩)
  · exact .of_unmarked (unmarked_stubHead hpackage h.imports hstub hbase line hline)
  · obtain ⟨lines, hmem, hline⟩ := List.mem_flatMap.1 hline
    exact hlines lines hmem line hline

/-- Nothing is reported from the base class. -/
theorem IsPrintable.inert_baseText (h : controller.IsPrintable p)
    (hconsistent : controller.Consistent) (hpackage : IsNameText packageName)
    (hbase : IsNameText (simpleName ++ suffixes.base)) :
    Inert p false false (controller.baseText suffixes packageName simpleName).toList := by
  have hendpoints := h.isPrintable_stubEndpoints hconsistent
  have hempty : Inert p false false "".toList := .of_unmarked (.ofList rfl)
  have hconstants : ∀ line ∈ controller.stubEndpoints.map StubEndpoint.constantLine,
      Inert p false false line.toList := by
    intro line hline
    obtain ⟨endpoint, hendpoint, rfl⟩ := List.mem_map.1 hline
    exact (hendpoints endpoint hendpoint).inert_constantLine
  have hfield : Inert p false false "    protected final ObjectMapper objectMapper;".toList :=
    .of_unmarked (.ofList rfl)
  have hconstructor := Inert.of_unmarked (p := p) (unmarked_constructorLine hbase)
  rw [baseText_eq, baseLines]
  refine inert_fileText (List.forall_mem_append.2 ⟨List.forall_mem_append.2 ⟨fun line hline ↦ ?_,
    ?_⟩, ?_⟩)
  · exact .of_unmarked (unmarked_baseHead hpackage hbase line hline)
  · split
    · exact List.forall_mem_nil _
    · exact List.forall_mem_append.2 ⟨hconstants, List.forall_mem_singleton.2 hempty⟩
  · exact List.forall_mem_cons.2 ⟨hfield, List.forall_mem_cons.2 ⟨hempty,
      List.forall_mem_cons.2 ⟨hconstructor, inert_helperLines⟩⟩⟩

end Controller

namespace Model

variable {p : Prop} {model : Model} {suffixes : Suffixes}

/-- The text of one of the classes that are generated for the model. -/
def IsGenerated (suffixes : Suffixes) (model : Model) (text : String) : Prop :=
  (∃ stubs, model.stubFiles suffixes = .ok stubs ∧ text ∈ stubs.values) ∨
    text ∈ (model.baseFiles suffixes).values

/-- The package and the class name of a controller bring nothing that means anything. -/
theorem IsPrintable.isNameText_controllerName (h : model.IsPrintable p) {key : String}
    {controller : Controller} (hget : model.controllers.get? key = some controller) :
    IsNameText (controllerName key controller.packageName).1 ∧
      IsNameText (controllerName key controller.packageName).2 :=
  forall_mem_controllerName (by decide)
    (h.keys key ((Registry.mem_keys_iff _ _).2 (Option.isSome_of_eq_some hget)))
    (h.controllers key controller hget).packageName

/-- Each generated text is the stub class or the base class of a controller. -/
theorem IsPrintable.exists_of_isGenerated (h : model.IsPrintable p) (hconsistent : model.Consistent)
    (hstub : IsNameText suffixes.stub) (hbase : IsNameText suffixes.base) {text : String}
    (htext : model.IsGenerated suffixes text) :
    ∃ (controller : Controller) (packageName simpleName : String), controller.IsPrintable p ∧
      controller.Consistent ∧ IsNameText packageName ∧ IsNameText (simpleName ++ suffixes.stub) ∧
      IsNameText (simpleName ++ suffixes.base) ∧
      (controller.stubText suffixes packageName simpleName = .ok text ∨
        controller.baseText suffixes packageName simpleName = text) := by
  have hnames {entry : String × Controller} (hentry : entry ∈ model.sortedControllers) :
      entry.2.IsPrintable p ∧ entry.2.Consistent ∧
        IsNameText (controllerName entry.1 entry.2.packageName).1 ∧
        IsNameText ((controllerName entry.1 entry.2.packageName).2 ++ suffixes.stub) ∧
        IsNameText ((controllerName entry.1 entry.2.packageName).2 ++ suffixes.base) := by
    have hget := Registry.get?_eq_some_iff.2 (List.mem_mergeSort.1 hentry)
    obtain ⟨hpackage, hname⟩ := h.isNameText_controllerName hget
    exact ⟨h.controllers _ _ hget, hconsistent _ _ hget, hpackage, hname.append hstub,
      hname.append hbase⟩
  rcases htext with ⟨stubs, hstubs, htext⟩ | htext
  · obtain ⟨written, rfl, hwritten, -⟩ := exists_of_stubFiles_eq_ok hstubs
    obtain ⟨⟨path, text⟩, hmem, rfl⟩ := List.mem_map.1 htext
    have hfile := forall_mem_of_mapM_eq_ok (p := fun file : String × String ↦
      ∃ entry ∈ model.sortedControllers, stubFile suffixes entry.1 entry.2 = .ok file) hwritten
      fun entry hentry file hfile ↦ ⟨entry, hentry, hfile⟩
    obtain ⟨entry, hentry, hfile⟩ := hfile (path, text)
      (Registry.mem_of_get?_ofList (Registry.get?_eq_some_iff.2 hmem))
    obtain ⟨hprintable, hcontroller, hpackage, hstubName, hbaseName⟩ := hnames hentry
    exact ⟨entry.2, _, _, hprintable, hcontroller, hpackage, hstubName, hbaseName,
      .inl (stubFile_eq_ok hfile).2⟩
  · obtain ⟨⟨path, text⟩, hmem, rfl⟩ := List.mem_map.1 htext
    obtain ⟨entry, hentry, hfile⟩ :=
      List.mem_map.1 (Registry.mem_of_get?_ofList (Registry.get?_eq_some_iff.2 hmem))
    obtain ⟨hprintable, hcontroller, hpackage, hstubName, hbaseName⟩ := hnames hentry
    exact ⟨entry.2, _, _, hprintable, hcontroller, hpackage, hstubName, hbaseName,
      .inr (congrArg Prod.snd hfile)⟩

/-- Nothing is reported from the generated classes. -/
theorem IsPrintable.inert_of_isGenerated (h : model.IsPrintable p) (hconsistent : model.Consistent)
    (hstub : IsNameText suffixes.stub) (hbase : IsNameText suffixes.base) {text : String}
    (htext : model.IsGenerated suffixes text) : Inert p false false text.toList := by
  obtain ⟨controller, packageName, simpleName, hprintable, hcontroller, hpackage, hstubName,
    hbaseName, htext | rfl⟩ := h.exists_of_isGenerated hconsistent hstub hbase htext
  · exact hprintable.inert_stubText hcontroller hpackage hstubName hbaseName htext
  · exact hprintable.inert_baseText hcontroller hpackage hbaseName

end Model

end EndpointStubs
