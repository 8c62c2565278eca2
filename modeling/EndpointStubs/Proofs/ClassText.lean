import EndpointStubs.Proofs.ConstantNames
import EndpointStubs.Proofs.LiteralValue
import EndpointStubs.Proofs.RenderSuccess
import EndpointStubs.Proofs.TextRuns

/-!
# Reading the generated classes

What another program sees of the generated classes: the stub methods with their
signatures, the constants that they take their paths from, and the constants that
the base class declares with the contents of their literals. No other line of the
two classes can be taken for one of these.
-/

namespace EndpointStubs

theorem bind_eq_ok {ε α β : Type} {x : Except ε α} {f : α → Except ε β} {b : β} :
    x >>= f = .ok b ↔ ∃ a, x = .ok a ∧ f a = .ok b := by
  cases x <;> simp [bind, Except.bind]

/-- The results of the calls, one by one. -/
theorem forall₂_of_mapM_eq_ok {ε α β : Type} {f : α → Except ε β} {l : List α} {results : List β}
    (h : l.mapM f = .ok results) : List.Forall₂ (fun a b ↦ f a = .ok b) l results := by
  induction l generalizing results with
  | nil =>
    cases h
    exact .nil
  | cons a l ih =>
    rw [List.mapM_cons] at h
    obtain ⟨b, hb, h⟩ := bind_eq_ok.1 h
    obtain ⟨bs, hbs, h⟩ := bind_eq_ok.1 h
    cases h
    exact .cons hb (ih hbs)

theorem exists_of_mapM_eq_ok {ε α β : Type} {f : α → Except ε β} {l : List α} {results : List β}
    (h : l.mapM f = .ok results) {a : α} (ha : a ∈ l) : ∃ b ∈ results, f a = .ok b := by
  have hresults := forall₂_of_mapM_eq_ok h
  clear h
  induction hresults with
  | nil => cases ha
  | cons hb _ ih =>
    rcases List.mem_cons.1 ha with rfl | ha
    · exact ⟨_, List.mem_cons_self, hb⟩
    · obtain ⟨b, hmem, hb⟩ := ih ha
      exact ⟨b, List.mem_cons_of_mem _ hmem, hb⟩

theorem forall_mem_of_mapM_eq_ok {ε α β : Type} {f : α → Except ε β} {p : β → Prop} {l : List α}
    {results : List β} (h : l.mapM f = .ok results)
    (hp : ∀ a ∈ l, ∀ b, f a = .ok b → p b) : ∀ b ∈ results, p b := by
  have hresults := forall₂_of_mapM_eq_ok h
  clear h
  induction hresults with
  | nil => simp
  | cons hb _ ih =>
    rw [List.forall_mem_cons]
    exact ⟨hp _ List.mem_cons_self _ hb, ih fun a ha ↦ hp a (List.mem_cons_of_mem _ ha)⟩

/-- The texts have different characters at some place. -/
def Text.differ : List Char → List Char → Bool
  | a :: as, b :: bs => a != b || differ as bs
  | _, _ => false

theorem Text.differ_append {pattern : List Char} {start : String}
    (h : differ pattern start.toList = true) (rest : String) :
    differ pattern (start ++ rest).toList = true := by
  rw [String.toList_append]
  generalize start.toList = chars at h
  induction pattern generalizing chars with
  | nil => cases h
  | cons p pattern ih =>
    cases chars with
    | nil => cases h
    | cons c chars =>
      rw [differ, Bool.or_eq_true] at h
      rw [List.cons_append, differ, Bool.or_eq_true]
      exact h.imp_right (ih chars)

theorem Text.differ_literals {pattern start : List Char} (h : differ pattern start = true) :
    differ (String.ofList pattern).toList (String.ofList start).toList = true := by
  rwa [String.toList_ofList, String.toList_ofList]

theorem Text.after?_eq_none_of_differ {pattern text : List Char}
    (h : differ pattern text = true) : after? pattern text = none := by
  fun_induction differ pattern text with
  | case1 a as b bs ih =>
    rw [Bool.or_eq_true, bne_iff_ne] at h
    rw [after?]
    split
    · rename_i heq
      exact ih (h.resolve_left fun hne ↦ hne heq)
    · rfl
  | case2 => cases h

theorem toList_append_parts (a b c d e : String) : (a ++ b ++ c ++ d ++ e).toList =
    a.toList ++ (b.toList ++ (c.toList ++ (d.toList ++ e.toList))) := by
  simp only [String.toList_append, List.append_assoc]

/-- What follows the call that a stub method makes. -/
def afterStubCall? (line : String) : Option (List Char) :=
  Text.after? "        stubFor(".toList line.toList

/-- What follows the modifiers of a constant. -/
def afterConstantKeywords? (line : String) : Option (List Char) :=
  Text.after? "    protected static final String ".toList line.toList

/-- The constant that a line of a stub class takes its path from. -/
def usedConstant? (line : String) : Option String := do
  let call ← afterStubCall? line
  let path ← Text.after? "(urlPathEqualTo(".toList (call.dropWhile Text.isNameChar)
  let expression := (Text.after? "String.format(".toList path).getD path
  return .ofList (expression.takeWhile Text.isNameChar)

/-- The constant that a line of a base class declares, and the content of its literal. -/
def declaredConstant? (line : String) : Option (String × List Char) := do
  let declaration ← afterConstantKeywords? line
  let literal ← Text.after? " = \"".toList (declaration.dropWhile Text.isNameChar)
  let (content, _) ← Java.closeString literal
  return (.ofList (declaration.takeWhile Text.isNameChar), content)

theorem usedConstant?_eq_none {line : String} (h : afterStubCall? line = none) :
    usedConstant? line = none := by
  rw [usedConstant?, h]
  rfl

theorem usedConstant?_eq_some {line : String} {call path : List Char}
    (hcall : afterStubCall? line = some call)
    (hpath : call.dropWhile Text.isNameChar = "(urlPathEqualTo(".toList ++ path) :
    usedConstant? line = some (.ofList
      (((Text.after? "String.format(".toList path).getD path).takeWhile Text.isNameChar)) := by
  rw [usedConstant?, hcall, Option.bind_eq_bind, Option.bind_some,
    Text.after?_eq_some_iff.2 hpath]
  rfl

theorem declaredConstant?_eq_none {line : String} (h : afterConstantKeywords? line = none) :
    declaredConstant? line = none := by
  rw [declaredConstant?, h]
  rfl

namespace StubEndpoint

variable {endpoint : StubEndpoint}

/-- The line that starts the stub method. -/
def signature (endpoint : StubEndpoint) (parameters : List String) : String :=
  "    public void " ++ endpoint.name ++ "(" ++ ", ".intercalate parameters ++ ") \x7b"

/-- The parameters after those for the path variables: the query arguments, the request body and
the response. -/
def parameters (endpoint : StubEndpoint) (leading : List String)
    (arguments : List (Option String × Argument)) : List String :=
  leading ++ arguments.map (fun (name, a) ↦ parameterText a.type name) ++
    endpoint.resource.requestBody.toList.map (fun body ↦ parameterText body.type body.name) ++
    (responseArgumentType endpoint.resource.responseType).toList.map
      fun type ↦ "final " ++ type ++ " response"

/-- The line that says which path is answered. -/
def requestLine (endpoint : StubEndpoint) (url : String) : String :=
  "        stubFor(" ++ endpoint.httpMethod.verb ++ "(urlPathEqualTo(" ++ url ++ "))"

def bodyLines (endpoint : StubEndpoint) : List String :=
  endpoint.resource.requestBody.toList.map fun body ↦
    "                .withRequestBody(equalToJson(buildBody(" ++ nameText body.name ++ ")))"

def answerLine (endpoint : StubEndpoint) : String :=
  if (responseArgumentType endpoint.resource.responseType).isSome then
    "                .willReturn(aJsonResponse(response)));"
  else "                .willReturn(aResponse().withStatus(200)));"

/-- The parts of a stub method, each of which can fail on its own. -/
theorem methodLines_eq_ok {lines : List String} (h : endpoint.methodLines = .ok lines) :
    ∃ leading arguments url queryLines,
      pathParameters endpoint.resource.pathVariables [] endpoint.resource.formatArguments =
        .ok leading ∧
      sortedArguments endpoint.resource.arguments = .ok arguments ∧
      urlText endpoint.constant endpoint.resource.formatArguments = .ok url ∧
      arguments.mapM (fun (name, a) ↦ queryLine name a) = .ok queryLines ∧
      lines = endpoint.signature (endpoint.parameters leading arguments) ::
        endpoint.requestLine url ::
          (queryLines ++ endpoint.bodyLines ++ [endpoint.answerLine, "    \x7d"]) := by
  unfold methodLines at h
  obtain ⟨leading, hleading, h⟩ := bind_eq_ok.1 h
  obtain ⟨arguments, harguments, h⟩ := bind_eq_ok.1 h
  obtain ⟨url, hurl, h⟩ := bind_eq_ok.1 h
  obtain ⟨queryLines, hqueryLines, h⟩ := bind_eq_ok.1 h
  refine ⟨leading, arguments, url, queryLines, hleading, harguments, hurl, hqueryLines, ?_⟩
  exact (Except.ok.inj h).symm

theorem afterStubCall?_signature (parameters : List String) :
    afterStubCall? (endpoint.signature parameters) = none :=
  Text.after?_eq_none_of_differ <| Text.differ_append (Text.differ_append (Text.differ_append
    (Text.differ_append (Text.differ_literals rfl) _) _) _) _

theorem afterStubCall?_queryLine {name : Option String} {argument : Argument} {line : String}
    (h : queryLine name argument = .ok line) : afterStubCall? line = none := by
  unfold queryLine at h
  split at h
  · cases h
  · cases h
    exact Text.after?_eq_none_of_differ <| Text.differ_append (Text.differ_append
      (Text.differ_append (Text.differ_append (Text.differ_literals rfl) _) _) _) _

theorem afterStubCall?_bodyLines : ∀ line ∈ endpoint.bodyLines, afterStubCall? line = none := by
  intro line hline
  obtain ⟨body, -, rfl⟩ := List.mem_map.1 hline
  exact Text.after?_eq_none_of_differ <|
    Text.differ_append (Text.differ_append (Text.differ_literals rfl) _) _

theorem afterStubCall?_answerLine : afterStubCall? endpoint.answerLine = none := by
  unfold answerLine
  split <;> exact Text.after?_eq_none_of_differ (Text.differ_literals rfl)

theorem isNameChar_head_parentheses : ∀ c ∈ "))".toList.head?, Text.isNameChar c = false := by
  intro c hc
  cases hc
  rfl

theorem after?_format_of_name {name : List Char} (hname : ∀ c ∈ name, Text.isNameChar c = true) :
    Text.after? "String.format(".toList (name ++ "))".toList) = none := by
  refine Option.eq_none_iff_forall_ne_some.2 fun rest hrest ↦ ?_
  have htext := congrArg (List.dropWhile Text.isNameChar) (Text.after?_eq_some_iff.1 hrest)
  rw [Text.dropWhile_append_stop hname isNameChar_head_parentheses] at htext
  cases htext

/-- The constant stands in front of the comma or the parenthesis that ends it, be it passed to the
format call or alone. -/
theorem takeWhile_isNameChar_urlText {constant url : String}
    {formatArguments : List (Option String)} (hurl : urlText constant formatArguments = .ok url)
    (hname : ∀ c ∈ constant.toList, Text.isNameChar c = true) :
    ((Text.after? "String.format(".toList (url.toList ++ "))".toList)).getD
      (url.toList ++ "))".toList)).takeWhile Text.isNameChar = constant.toList := by
  unfold urlText at hurl
  split at hurl
  · cases hurl
    rw [after?_format_of_name hname, Option.getD_none,
      Text.takeWhile_append_stop hname isNameChar_head_parentheses]
  · split at hurl
    · cases hurl
    · cases hurl
      have hformat (names : String) : Text.after? "String.format(".toList
          (("String.format(" ++ constant ++ ", " ++ names ++ ")").toList ++ "))".toList) =
            some (constant.toList ++
              (", ".toList ++ ((names.toList ++ ")".toList) ++ "))".toList))) := by
        rw [toList_append_parts, Text.after?_eq_some_iff, List.append_assoc "String.format(".toList,
          List.append_assoc constant.toList, List.append_assoc ", ".toList]
      have hcomma (rest : List Char) :
          ∀ c ∈ (", ".toList ++ rest).head?, Text.isNameChar c = false := by
        intro c hc
        cases hc
        rfl
      rw [hformat, Option.getD_some, Text.takeWhile_append_stop hname (hcomma _)]

/-- The line that says which path is answered uses the constant of its endpoint. -/
theorem usedConstant?_requestLine {url : String}
    (hurl : urlText endpoint.constant endpoint.resource.formatArguments = .ok url)
    (hname : ∀ c ∈ endpoint.constant.toList, Text.isNameChar c = true) :
    usedConstant? (endpoint.requestLine url) = some endpoint.constant := by
  have hcall : afterStubCall? (endpoint.requestLine url) =
      some (endpoint.httpMethod.verb.toList ++ ("(urlPathEqualTo(".toList ++
        (url.toList ++ "))".toList))) :=
    Text.after?_eq_some_iff.2 (toList_append_parts _ _ _ _ _)
  have hverb : (endpoint.httpMethod.verb.toList ++ ("(urlPathEqualTo(".toList ++
      (url.toList ++ "))".toList))).dropWhile Text.isNameChar =
        "(urlPathEqualTo(".toList ++ (url.toList ++ "))".toList) := by
    refine Text.dropWhile_append_stop ?_ ?_
    · apply List.all_eq_true.1
      cases endpoint.httpMethod <;> decide
    · intro c hc
      cases hc
      rfl
  rw [usedConstant?_eq_some hcall hverb, takeWhile_isNameChar_urlText hurl hname,
    String.ofList_toList]

/-- A stub method uses the constant of its endpoint and no other. -/
theorem filterMap_usedConstant? {lines : List String} (h : endpoint.methodLines = .ok lines)
    (hname : ∀ c ∈ endpoint.constant.toList, Text.isNameChar c = true) :
    lines.filterMap usedConstant? = [endpoint.constant] := by
  obtain ⟨leading, arguments, url, queryLines, -, -, hurl, hqueryLines, rfl⟩ :=
    methodLines_eq_ok h
  have hrest : ∀ line ∈ queryLines ++ endpoint.bodyLines ++ [endpoint.answerLine, "    \x7d"],
      usedConstant? line = none := by
    intro line hline
    apply usedConstant?_eq_none
    rcases List.mem_append.1 hline with hline | hline
    · rcases List.mem_append.1 hline with hline | hline
      · exact forall_mem_of_mapM_eq_ok hqueryLines (fun _ _ _ ↦ afterStubCall?_queryLine) line
          hline
      · exact afterStubCall?_bodyLines line hline
    · rcases List.mem_cons.1 hline with rfl | hline
      · exact afterStubCall?_answerLine
      · rw [List.mem_singleton.1 hline]
        exact Text.after?_eq_none_of_differ (Text.differ_literals rfl)
  rw [List.filterMap_cons_none (usedConstant?_eq_none (afterStubCall?_signature _)),
    List.filterMap_cons_some (usedConstant?_requestLine hurl hname),
    List.filterMap_eq_nil_iff.2 hrest]

/-- The constant and the escaped template, which may be missing. -/
theorem declaredConstant?_constantLine
    (hname : ∀ c ∈ endpoint.constant.toList, Text.isNameChar c = true) :
    declaredConstant? endpoint.constantLine =
      some (endpoint.constant, Java.escape (endpoint.resource.template.getD "").toList) := by
  have hdeclaration : afterConstantKeywords? endpoint.constantLine =
      some (endpoint.constant.toList ++ (" = \"".toList ++
        ((Java.escapeString (endpoint.resource.template.getD "")).toList ++ "\";".toList))) :=
    Text.after?_eq_some_iff.2 (toList_append_parts _ _ _ _ _)
  have hblank (rest : List Char) :
      ∀ c ∈ (" = \"".toList ++ rest).head?, Text.isNameChar c = false := by
    intro c hc
    cases hc
    rfl
  have hliteral (rest : List Char) :
      Text.after? " = \"".toList (" = \"".toList ++ rest) = some rest :=
    Text.after?_eq_some_iff.2 rfl
  have hcontent : Java.closeString
      ((Java.escapeString (endpoint.resource.template.getD "")).toList ++ "\";".toList) =
        some (Java.escape (endpoint.resource.template.getD "").toList, [';']) := by
    rw [Java.escapeString, String.toList_ofList]
    exact Java.closeString_escape _ [';']
  simp only [declaredConstant?, hdeclaration, Option.bind_eq_bind, Option.bind_some,
    Text.dropWhile_append_stop hname (hblank _), hliteral, hcontent,
    Text.takeWhile_append_stop hname (hblank _), String.ofList_toList]
  rfl

end StubEndpoint

/-! ## The classes of a controller -/

theorem differ_packageLines {pattern : List Char} (hpattern : pattern ≠ [])
    (h : Text.differ pattern "package ".toList = true) (packageName : String) :
    ∀ line ∈ packageLines packageName, Text.after? pattern line.toList = none := by
  intro line hline
  unfold packageLines at hline
  split at hline
  · cases hline
  · rcases List.mem_cons.1 hline with rfl | hline
    · exact Text.after?_eq_none_of_differ (Text.differ_append (Text.differ_append h _) _)
    · rw [List.mem_singleton.1 hline]
      cases pattern with
      | nil => exact absurd rfl hpattern
      | cons p pattern => rfl

namespace Controller

/-- The stub class up to its constructor. -/
def stubHead (suffixes : Suffixes) (packageName simpleName : String) (controller : Controller) :
    List String :=
  packageLines packageName ++ importLines controller.imports ++
    ["",
      "import java.util.*;",
      "",
      "import static com.github.tomakehurst.wiremock.client.WireMock.*;",
      "",
      "public class " ++ (simpleName ++ suffixes.stub) ++ " extends " ++
        (simpleName ++ suffixes.base) ++ " \x7b",
      "",
      "    public " ++ (simpleName ++ suffixes.stub) ++ "(ObjectMapper objectMapper) \x7b",
      "        super(objectMapper);",
      "    \x7d"]

theorem stubText_eq_ok {controller : Controller} {suffixes : Suffixes}
    {packageName simpleName text : String}
    (h : controller.stubText suffixes packageName simpleName = .ok text) :
    ∃ methods, controller.stubEndpoints.mapM StubEndpoint.methodLines = .ok methods ∧
      text = fileText (controller.stubHead suffixes packageName simpleName ++
        methods.flatMap ("" :: ·) ++ ["\x7d"]) := by
  unfold stubText at h
  obtain ⟨methods, hmethods, h⟩ := bind_eq_ok.1 h
  exact ⟨methods, hmethods, (Except.ok.inj h).symm⟩

/-- The stub class makes no call before its methods. -/
theorem afterStubCall?_stubHead {controller : Controller} {suffixes : Suffixes}
    {packageName simpleName : String} :
    ∀ line ∈ controller.stubHead suffixes packageName simpleName, afterStubCall? line = none := by
  have hdiffer {start : String} (h : Text.differ "        stubFor(".toList start.toList = true)
      (rest : String) : Text.differ "        stubFor(".toList (start ++ rest).toList = true :=
    Text.differ_append h rest
  intro line hline
  simp only [stubHead, List.mem_append, List.mem_cons, List.not_mem_nil, or_false] at hline
  rcases hline with (hline | hline) | rfl | rfl | rfl | rfl | rfl | rfl | rfl | rfl | rfl | rfl
  · exact differ_packageLines (by simp) (Text.differ_literals rfl) packageName line hline
  · obtain ⟨name, -, rfl⟩ := List.mem_map.1 hline
    exact Text.after?_eq_none_of_differ (hdiffer (hdiffer (Text.differ_literals rfl) _) _)
  · rfl
  · exact Text.after?_eq_none_of_differ (Text.differ_literals rfl)
  · rfl
  · exact Text.after?_eq_none_of_differ (Text.differ_literals rfl)
  · rfl
  · exact Text.after?_eq_none_of_differ
      (hdiffer (hdiffer (hdiffer (hdiffer (Text.differ_literals rfl) _) _) _) _)
  · rfl
  · exact Text.after?_eq_none_of_differ (hdiffer (hdiffer (Text.differ_literals rfl) _) _)
  · exact Text.after?_eq_none_of_differ (Text.differ_literals rfl)
  · exact Text.after?_eq_none_of_differ (Text.differ_literals rfl)

/-- The constants that the stub methods use are those of the endpoints, in their order. -/
theorem filterMap_usedConstant? {controller : Controller}
    (hname : ∀ endpoint ∈ controller.stubEndpoints,
      ∀ c ∈ endpoint.constant.toList, Text.isNameChar c = true)
    {methods : List (List String)}
    (hmethods : controller.stubEndpoints.mapM StubEndpoint.methodLines = .ok methods)
    (suffixes : Suffixes) (packageName simpleName : String) :
    (controller.stubHead suffixes packageName simpleName ++ methods.flatMap ("" :: ·) ++
      ["\x7d"]).filterMap usedConstant? =
        controller.stubEndpoints.map StubEndpoint.constant := by
  have hhead : (controller.stubHead suffixes packageName simpleName).filterMap usedConstant? =
      [] :=
    List.filterMap_eq_nil_iff.2 fun line hline ↦
      usedConstant?_eq_none (afterStubCall?_stubHead line hline)
  have hclose : usedConstant? "\x7d" = none := rfl
  rw [List.filterMap_append, List.filterMap_append, hhead, List.nil_append,
    List.filterMap_cons_none hclose, List.filterMap_nil, List.append_nil]
  generalize controller.stubEndpoints = endpoints at hname hmethods
  induction endpoints generalizing methods with
  | nil =>
    cases hmethods
    rfl
  | cons endpoint endpoints ih =>
    rw [List.mapM_cons] at hmethods
    obtain ⟨lines, hlines, hmethods⟩ := bind_eq_ok.1 hmethods
    obtain ⟨rest, hrest, hmethods⟩ := bind_eq_ok.1 hmethods
    cases hmethods
    have hempty : usedConstant? "" = none := rfl
    have hmethod := endpoint.filterMap_usedConstant? hlines (hname endpoint List.mem_cons_self)
    have hothers := ih (fun e he ↦ hname e (List.mem_cons_of_mem _ he)) hrest
    rw [List.flatMap_cons, List.filterMap_append, List.filterMap_cons_none hempty, hmethod,
      hothers, List.map_cons]
    rfl

/-- The base class up to its constants. -/
def baseHead (suffixes : Suffixes) (packageName simpleName : String) : List String :=
  packageLines packageName ++
    ["import com.fasterxml.jackson.core.JsonProcessingException;",
      "import com.fasterxml.jackson.databind.ObjectMapper;",
      "import com.github.tomakehurst.wiremock.client.ResponseDefinitionBuilder;",
      "",
      "import static com.github.tomakehurst.wiremock.client.WireMock.aResponse;",
      "",
      "public class " ++ (simpleName ++ suffixes.base) ++ " \x7b",
      ""]

/-- The helper methods of every base class. -/
def helperLines : List String :=
  ["        this.objectMapper = objectMapper;",
    "    \x7d",
    "",
    "    protected String buildBody(Object object) \x7b",
    "        try \x7b",
    "            return objectMapper.writeValueAsString(object);",
    "        \x7d catch (JsonProcessingException e) \x7b",
    "            throw new IllegalArgumentException(e);",
    "        \x7d",
    "    \x7d",
    "",
    "    protected ResponseDefinitionBuilder aJsonResponse(Object response) \x7b",
    "        return aResponse()",
    "                .withStatus(200)",
    "                .withHeader(\"Content-Type\", \"application/json\")",
    "                .withBody(buildBody(response));",
    "    \x7d",
    "\x7d"]

/-- The lines of the base class. -/
def baseLines (suffixes : Suffixes) (packageName simpleName : String) (controller : Controller) :
    List String :=
  let constants := controller.stubEndpoints.map StubEndpoint.constantLine
  baseHead suffixes packageName simpleName ++
    (if constants.isEmpty then [] else constants ++ [""]) ++
    ("    protected final ObjectMapper objectMapper;" :: "" ::
      ("    public " ++ (simpleName ++ suffixes.base) ++ "(ObjectMapper objectMapper) \x7b") ::
      helperLines)

theorem baseText_eq (suffixes : Suffixes) (packageName simpleName : String)
    (controller : Controller) : controller.baseText suffixes packageName simpleName =
      fileText (controller.baseLines suffixes packageName simpleName) := rfl

theorem filterMap_declaredConstant?_baseHead (suffixes : Suffixes)
    (packageName simpleName : String) :
    (baseHead suffixes packageName simpleName).filterMap declaredConstant? = [] := by
  refine List.filterMap_eq_nil_iff.2 fun line hline ↦ declaredConstant?_eq_none ?_
  simp only [baseHead, List.mem_append, List.mem_cons, List.not_mem_nil, or_false] at hline
  rcases hline with hline | rfl | rfl | rfl | rfl | rfl | rfl | rfl | rfl
  · exact differ_packageLines (by simp) (Text.differ_literals rfl) packageName line hline
  · exact Text.after?_eq_none_of_differ (Text.differ_literals rfl)
  · exact Text.after?_eq_none_of_differ (Text.differ_literals rfl)
  · exact Text.after?_eq_none_of_differ (Text.differ_literals rfl)
  · rfl
  · exact Text.after?_eq_none_of_differ (Text.differ_literals rfl)
  · rfl
  · exact Text.after?_eq_none_of_differ
      (Text.differ_append (Text.differ_append (Text.differ_literals rfl) _) _)
  · rfl

theorem filterMap_declaredConstant?_helperLines :
    helperLines.filterMap declaredConstant? = [] := by
  refine List.filterMap_eq_nil_iff.2 fun line hline ↦ declaredConstant?_eq_none ?_
  simp only [helperLines, List.mem_cons, List.not_mem_nil, or_false] at hline
  rcases hline with rfl | rfl | rfl | rfl | rfl | rfl | rfl | rfl | rfl | rfl | rfl | rfl | rfl |
    rfl | rfl | rfl | rfl | rfl
  any_goals exact Text.after?_eq_none_of_differ (Text.differ_literals rfl)
  all_goals rfl

theorem filterMap_declaredConstant?_constantLines {endpoints : List StubEndpoint}
    (hname : ∀ endpoint ∈ endpoints, ∀ c ∈ endpoint.constant.toList, Text.isNameChar c = true) :
    (endpoints.map StubEndpoint.constantLine).filterMap declaredConstant? =
      endpoints.map fun endpoint ↦
        (endpoint.constant, Java.escape (endpoint.resource.template.getD "").toList) := by
  rw [List.filterMap_map]
  refine List.filterMap_eq_map_iff_forall_eq_some.2 fun endpoint hendpoint ↦ ?_
  exact endpoint.declaredConstant?_constantLine (hname endpoint hendpoint)

/-- The constants that the base class declares are those of the endpoints, in their order, each with
the template of its endpoint. -/
theorem filterMap_declaredConstant? {controller : Controller}
    (hname : ∀ endpoint ∈ controller.stubEndpoints,
      ∀ c ∈ endpoint.constant.toList, Text.isNameChar c = true)
    (suffixes : Suffixes) (packageName simpleName : String) :
    (controller.baseLines suffixes packageName simpleName).filterMap declaredConstant? =
      controller.stubEndpoints.map fun endpoint ↦
        (endpoint.constant, Java.escape (endpoint.resource.template.getD "").toList) := by
  have hconstructor (name : String) : declaredConstant?
      ("    public " ++ name ++ "(ObjectMapper objectMapper) \x7b") = none :=
    declaredConstant?_eq_none <| Text.after?_eq_none_of_differ
      (Text.differ_append (Text.differ_append (Text.differ_literals rfl) _) _)
  have hfield : declaredConstant? "    protected final ObjectMapper objectMapper;" = none :=
    declaredConstant?_eq_none (Text.after?_eq_none_of_differ (Text.differ_literals rfl))
  have hempty : declaredConstant? "" = none := rfl
  rw [baseLines, List.filterMap_append, List.filterMap_append,
    filterMap_declaredConstant?_baseHead, List.nil_append, List.filterMap_cons_none hfield,
    List.filterMap_cons_none hempty, List.filterMap_cons_none (hconstructor _),
    filterMap_declaredConstant?_helperLines, List.append_nil,
    ← filterMap_declaredConstant?_constantLines hname]
  split
  · rename_i hnone
    rw [List.isEmpty_iff.1 hnone]
  · rw [List.filterMap_append, List.filterMap_cons_none hempty, List.filterMap_nil,
      List.append_nil]

end Controller

end EndpointStubs
