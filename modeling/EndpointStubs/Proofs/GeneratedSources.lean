import EndpointStubs.Proofs.BraceDepth
import EndpointStubs.Proofs.DecodedFiles
import EndpointStubs.Proofs.InertClasses

/-!
# Generated classes among the sources

The generated classes are scanned again if they lie below a directory of sources.
Their braces are few deep, whatever the names and the free texts are, so every
runtime can scan them, and nothing is reported. This is so of the classes as they are
generated, and of their files if no free text has a carriage return: in a file that is
read as the end of a line, and then what is behind it is no longer in its literal.
-/

namespace EndpointStubs

open Java

theorem toList_fileText {lines : List String} (h : lines ≠ []) :
    (fileText lines).toList = lines.flatMap fun line ↦ line.toList ++ ['\n'] := by
  rw [fileText, String.toList_append, String.toList_intercalate]
  induction lines with
  | nil => exact absurd rfl h
  | cons line lines ih =>
    cases lines with
    | nil => simp [List.intercalate_singleton]
    | cons next lines =>
      have hrest := ih (List.cons_ne_nil _ _)
      rw [List.flatMap_cons, ← hrest, List.map_cons, List.map_cons, List.intercalate_cons_cons]
      simp

/-- The lines take so many open braces to so many, one after the other. -/
inductive BracedLines (top : Nat) : Nat → Nat → List String → Prop
  | nil (depth : Nat) : BracedLines top depth depth []
  | cons {before middle after : Nat} {line : String} {lines : List String}
      (hline : Braced top before middle line.toList) (hlines : BracedLines top middle after lines) :
      BracedLines top before after (line :: lines)

namespace BracedLines

variable {top before middle after depth : Nat} {lines more : List String}

theorem append (h : BracedLines top before middle lines)
    (hmore : BracedLines top middle after more) : BracedLines top before after (lines ++ more) := by
  induction h with
  | nil => exact hmore
  | cons hline _ ih => exact .cons hline (ih hmore)

theorem of_forall (h : ∀ line ∈ lines, Braced top depth depth line.toList) :
    BracedLines top depth depth lines := by
  induction lines with
  | nil => exact .nil depth
  | cons line lines ih =>
    exact .cons (h line List.mem_cons_self) (ih fun l hl ↦ h l (List.mem_cons_of_mem _ hl))

theorem flatMap {α : Type} {xs : List α} {f : α → List String}
    (h : ∀ x ∈ xs, BracedLines top depth depth (f x)) :
    BracedLines top depth depth (xs.flatMap f) := by
  induction xs with
  | nil => exact .nil depth
  | cons x xs ih =>
    exact (h x List.mem_cons_self).append (ih fun y hy ↦ h y (List.mem_cons_of_mem _ hy))

theorem fileText (h : BracedLines top before after lines) :
    Braced top before after (fileText lines).toList := by
  have hnewline (depth : Nat) : Braced top depth depth ['\n'] :=
    .of_forall (List.forall_mem_singleton.2 (by decide))
  have hlines : Braced top before after (lines.flatMap fun line ↦ line.toList ++ ['\n']) := by
    induction h with
    | nil depth => exact .of_forall (List.forall_mem_nil _)
    | cons hline _ ih => exact (hline.append (hnewline _)).append ih
  cases lines with
  | nil =>
    cases h
    exact hnewline _
  | cons line lines => rwa [toList_fileText (List.cons_ne_nil _ _)]

end BracedLines

/-- A part of a line without quotes and braces, tested so as `Unmarked.ofList`. -/
theorem braced_of_any {top depth : Nat} {chars : List Char}
    (h : chars.any ['"', '\'', '{', '}'].contains = false) :
    Braced top depth depth (String.ofList chars).toList := by
  rw [String.toList_ofList]
  refine .of_forall fun c hc ↦ ?_
  have hnone : c ∉ ['"', '\'', '{', '}'] := fun hmem ↦
    List.any_eq_false.1 h c hc (List.contains_iff_mem.2 hmem)
  simp only [List.mem_cons, List.not_mem_nil, or_false, not_or] at hnone
  exact ⟨by simp [isQuote, hnone], hnone.2.2.1, hnone.2.2.2⟩

theorem IsNameText.braced {top depth : Nat} {text : String} (h : IsNameText text) :
    Braced top depth depth text.toList :=
  .of_unmarked (h.unmarked true)

/-- A text on one line between what is written before and behind its literal. -/
theorem Java.Braced.quoted {top depth : Nat} {text start rest opening closing : String}
    (hstart : Braced top depth depth start.toList) (hrest : Braced top depth depth rest.toList)
    (hopening : opening.toList = start.toList ++ ['"'])
    (hclosing : closing.toList = '"' :: rest.toList) (hline : '\n' ∉ text.toList) :
    Braced top depth depth (opening ++ escapeString text ++ closing).toList := by
  have htext : (opening ++ escapeString text ++ closing).toList =
      start.toList ++ ('"' :: (escape text.toList ++ ['"'])) ++ rest.toList := by
    simp [hopening, hclosing, escapeString]
  rw [htext]
  exact (hstart.append (.literal hline)).append hrest

namespace StubEndpoint.IsPrintable

variable {p : Prop} {endpoint : StubEndpoint} {depth : Nat} (h : endpoint.IsPrintable p)

include h

theorem braced_signature {parameters : List String}
    (hparameters : ∀ parameter ∈ parameters, Unmarked true parameter) :
    Braced 3 1 2 (endpoint.signature parameters).toList := by
  have hstart : Braced 3 1 1 "    public void ".toList := braced_of_any rfl
  have hopen : Braced 3 1 1 "(".toList := braced_of_any rfl
  have hlist : Braced 3 1 1 (", ".intercalate parameters).toList :=
    .of_unmarked (unmarked_intercalate hparameters)
  have hclose : Braced 3 1 2 ") \x7b".toList := .ofList rfl (by cbv)
  exact (((hstart.append_string h.name.braced).append_string hopen).append_string
    hlist).append_string hclose

omit h in
theorem braced_requestLine {url : String} (hurl : Unmarked true url) :
    Braced 3 depth depth (endpoint.requestLine url).toList := by
  have hcall : Braced 3 depth depth "        stubFor(".toList := braced_of_any rfl
  have hverb : Braced 3 depth depth endpoint.httpMethod.verb.toList := by
    cases endpoint.httpMethod <;> exact braced_of_any rfl
  have hpath : Braced 3 depth depth "(urlPathEqualTo(".toList := braced_of_any rfl
  have hclose : Braced 3 depth depth "))".toList := braced_of_any rfl
  exact (((hcall.append_string hverb).append_string hpath).append_string
    (.of_unmarked hurl)).append_string hclose

omit h in
theorem braced_nameText {name : Option String} (hname : ∀ text ∈ name, IsNameText text) :
    Braced 3 depth depth (nameText name).toList :=
  .of_unmarked (unmarked_nameText fun text htext ↦ (hname text htext).unmarked true)

omit h in
theorem braced_queryLine {name : Option String} {argument : Argument} {line : String}
    (hname : ∀ text ∈ name, IsNameText text) (hargument : argument.IsPrintable p)
    (hline : queryLine name argument = .ok line) : Braced 3 depth depth line.toList := by
  obtain ⟨queryName, hquoted, rfl⟩ := exists_of_queryLine hname hargument hline
  have hstart : Braced 3 depth depth "                .withQueryParam(".toList := braced_of_any rfl
  have hvalue : Braced 3 depth depth ", equalTo(String.valueOf(".toList := braced_of_any rfl
  have hclose : Braced 3 depth depth ")))".toList := braced_of_any rfl
  exact ((Braced.quoted hstart hvalue rfl rfl hquoted.1).append_string
    (braced_nameText hname)).append_string hclose

theorem braced_bodyLines : ∀ line ∈ endpoint.bodyLines, Braced 3 depth depth line.toList := by
  intro line hline
  obtain ⟨body, hbody, rfl⟩ := List.mem_map.1 hline
  have hname := (h.resource.requestBody body (Option.mem_toList.1 hbody)).name
  have hstart : Braced 3 depth depth
      "                .withRequestBody(equalToJson(buildBody(".toList := braced_of_any rfl
  have hclose : Braced 3 depth depth ")))".toList := braced_of_any rfl
  exact (hstart.append_string (braced_nameText hname)).append_string hclose

omit h in
theorem braced_answerLine : Braced 3 depth depth endpoint.answerLine.toList := by
  unfold answerLine
  split <;> exact braced_of_any rfl

/-- A stub method opens one brace more than those of the class, and closes it. -/
theorem braced_methodLines {lines : List String} (hlines : endpoint.methodLines = .ok lines) :
    BracedLines 3 1 1 ("" :: lines) := by
  obtain ⟨parameters, url, queryLines, rfl, hparameters, hurl, hqueryLines⟩ :=
    h.exists_of_methodLines hlines
  have hqueries : ∀ line ∈ queryLines, Braced 3 2 2 line.toList := by
    intro line hline
    obtain ⟨name, argument, hname, hargument, hquery⟩ := hqueryLines line hline
    exact braced_queryLine hname hargument hquery
  have hclose : Braced 3 2 1 "    \x7d".toList := .ofList rfl (by cbv)
  refine .cons (braced_of_any rfl) (.cons (h.braced_signature hparameters)
    (.cons (braced_requestLine (hurl true)) ?_))
  exact ((BracedLines.of_forall hqueries).append (.of_forall h.braced_bodyLines)).append
    (.cons braced_answerLine (.cons hclose (.nil 1)))

theorem braced_constantLine : Braced 3 depth depth endpoint.constantLine.toList := by
  have hkeywords : Braced 3 depth depth "    protected static final String ".toList :=
    braced_of_any rfl
  have hassign : Braced 3 depth depth " = ".toList := braced_of_any rfl
  have hclose : Braced 3 depth depth ";".toList := braced_of_any rfl
  have hopening : ("    protected static final String " ++ endpoint.constant ++ " = \"").toList =
      ("    protected static final String " ++ endpoint.constant ++ " = ").toList ++ ['"'] := by
    simp
  exact Braced.quoted ((hkeywords.append_string h.isNameText_constant.braced).append_string hassign)
    hclose hopening rfl h.isLine_template.1

end StubEndpoint.IsPrintable

theorem braced_packageLines {packageName : String} (h : IsNameText packageName) :
    ∀ line ∈ packageLines packageName, Braced 3 0 0 line.toList := by
  have hkeyword : Braced 3 0 0 "package ".toList := braced_of_any rfl
  have hend : Braced 3 0 0 ";".toList := braced_of_any rfl
  unfold packageLines
  split
  · exact List.forall_mem_nil _
  · exact List.forall_mem_cons.2 ⟨(hkeyword.append_string h.braced).append_string hend,
      List.forall_mem_singleton.2 (braced_of_any rfl)⟩

theorem isNameText_of_mem_importLines {imports : List String}
    (h : ∀ name ∈ imports, IsNameText name) {line : String} (hline : line ∈ importLines imports) :
    ∃ name, IsNameText name ∧ line = "import " ++ name ++ ";" := by
  obtain ⟨name, hname, rfl⟩ := List.mem_map.1 hline
  refine ⟨name, ?_, rfl⟩
  rcases List.mem_cons.1 (List.mem_eraseDups.1 (List.mem_mergeSort.1 hname)) with rfl | hmem
  · decide +kernel
  · exact h name (List.mem_of_mem_filter hmem)

theorem braced_importLines {imports : List String} (h : ∀ name ∈ imports, IsNameText name) :
    ∀ line ∈ importLines imports, Braced 3 0 0 line.toList := by
  intro line hline
  obtain ⟨name, hname, rfl⟩ := isNameText_of_mem_importLines h hline
  have hkeyword : Braced 3 0 0 "import ".toList := braced_of_any rfl
  have hend : Braced 3 0 0 ";".toList := braced_of_any rfl
  exact (hkeyword.append_string hname.braced).append_string hend

theorem braced_constructorLine {className : String} (h : IsNameText className) :
    Braced 3 1 2 ("    public " ++ className ++ "(ObjectMapper objectMapper) \x7b").toList := by
  have hkeyword : Braced 3 1 1 "    public ".toList := braced_of_any rfl
  have hparameters : Braced 3 1 2 "(ObjectMapper objectMapper) \x7b".toList :=
    .ofList rfl (by cbv)
  exact (hkeyword.append_string h.braced).append_string hparameters

namespace Controller

variable {p : Prop} {controller : Controller} {suffixes : Suffixes}
  {packageName simpleName : String}

theorem braced_stubHead (hpackage : IsNameText packageName)
    (himports : ∀ name ∈ controller.imports, IsNameText name)
    (hstub : IsNameText (simpleName ++ suffixes.stub))
    (hbase : IsNameText (simpleName ++ suffixes.base)) :
    BracedLines 3 0 1 (controller.stubHead suffixes packageName simpleName) := by
  have hclass : Braced 3 0 1 ("public class " ++ (simpleName ++ suffixes.stub) ++ " extends " ++
      (simpleName ++ suffixes.base) ++ " \x7b").toList := by
    have hkeyword : Braced 3 0 0 "public class ".toList := braced_of_any rfl
    have hextends : Braced 3 0 0 " extends ".toList := braced_of_any rfl
    have hbrace : Braced 3 0 1 " \x7b".toList := .ofList rfl (by cbv)
    exact (((hkeyword.append_string hstub.braced).append_string hextends).append_string
      hbase.braced).append_string hbrace
  have hend : Braced 3 2 1 "    \x7d".toList := .ofList rfl (by cbv)
  have hempty {depth : Nat} : Braced 3 depth depth "".toList := braced_of_any rfl
  refine BracedLines.append (.of_forall (List.forall_mem_append.2
    ⟨braced_packageLines hpackage, braced_importLines himports⟩)) ?_
  exact .cons hempty <| .cons (braced_of_any rfl) <| .cons hempty <| .cons (braced_of_any rfl) <|
    .cons hempty <| .cons hclass <| .cons hempty <| .cons (braced_constructorLine hstub) <|
    .cons (braced_of_any rfl) <| .cons hend <| .nil 1

theorem braced_baseHead (hpackage : IsNameText packageName)
    (hbase : IsNameText (simpleName ++ suffixes.base)) :
    BracedLines 3 0 1 (baseHead suffixes packageName simpleName) := by
  have hclass : Braced 3 0 1 ("public class " ++ (simpleName ++ suffixes.base) ++
      " \x7b").toList := by
    have hkeyword : Braced 3 0 0 "public class ".toList := braced_of_any rfl
    have hbrace : Braced 3 0 1 " \x7b".toList := .ofList rfl (by cbv)
    exact (hkeyword.append_string hbase.braced).append_string hbrace
  have hempty {depth : Nat} : Braced 3 depth depth "".toList := braced_of_any rfl
  refine (BracedLines.of_forall (braced_packageLines hpackage)).append ?_
  exact .cons (braced_of_any rfl) <| .cons (braced_of_any rfl) <| .cons (braced_of_any rfl) <|
    .cons hempty <| .cons (braced_of_any rfl) <| .cons hempty <| .cons hclass <| .cons hempty <|
    .nil 1

/-- The helper methods go deepest, with a block and a handler in a method. -/
theorem braced_helperLines : BracedLines 3 2 0 helperLines := by
  have hempty {depth : Nat} : Braced 3 depth depth "".toList := braced_of_any rfl
  have hmethodEnd : Braced 3 2 1 "    \x7d".toList := .ofList rfl (by cbv)
  have hbuild : Braced 3 1 2 "    protected String buildBody(Object object) \x7b".toList :=
    .ofList rfl (by cbv)
  have htry : Braced 3 2 3 "        try \x7b".toList := .ofList rfl (by cbv)
  have hcatch : Braced 3 3 3 "        \x7d catch (JsonProcessingException e) \x7b".toList :=
    .ofList rfl (by cbv)
  have hcatchEnd : Braced 3 3 2 "        \x7d".toList := .ofList rfl (by cbv)
  have hanswer : Braced 3 1 2
      "    protected ResponseDefinitionBuilder aJsonResponse(Object response) \x7b".toList :=
    .ofList rfl (by cbv)
  have hheader : Braced 3 2 2
      "                .withHeader(\"Content-Type\", \"application/json\")".toList :=
    ⟨by decide +kernel, by decide +kernel⟩
  have hclassEnd : Braced 3 1 0 "\x7d".toList := .ofList rfl (by cbv)
  exact .cons (braced_of_any rfl) <| .cons hmethodEnd <| .cons hempty <|
    .cons hbuild <| .cons htry <| .cons (braced_of_any rfl) <| .cons hcatch <|
    .cons (braced_of_any rfl) <| .cons hcatchEnd <| .cons hmethodEnd <| .cons hempty <|
    .cons hanswer <| .cons (braced_of_any rfl) <| .cons (braced_of_any rfl) <| .cons hheader <|
    .cons (braced_of_any rfl) <| .cons hmethodEnd <| .cons hclassEnd <| .nil 0

theorem IsPrintable.braced_stubText (h : controller.IsPrintable p)
    (hconsistent : controller.Consistent) (hpackage : IsNameText packageName)
    (hstub : IsNameText (simpleName ++ suffixes.stub))
    (hbase : IsNameText (simpleName ++ suffixes.base)) {text : String}
    (htext : controller.stubText suffixes packageName simpleName = .ok text) :
    Braced 3 0 0 text.toList := by
  obtain ⟨methods, hmethods, rfl⟩ := stubText_eq_ok htext
  have hlines : ∀ lines ∈ methods, BracedLines 3 1 1 ("" :: lines) :=
    forall_mem_of_mapM_eq_ok hmethods fun endpoint hendpoint lines hlines ↦
      (h.isPrintable_stubEndpoints hconsistent endpoint hendpoint).braced_methodLines hlines
  have hclassEnd : Braced 3 1 0 "\x7d".toList := .ofList rfl (by cbv)
  exact (((braced_stubHead hpackage h.imports hstub hbase).append (.flatMap hlines)).append
    (.cons hclassEnd (.nil 0))).fileText

theorem IsPrintable.braced_baseText (h : controller.IsPrintable p)
    (hconsistent : controller.Consistent) (hpackage : IsNameText packageName)
    (hbase : IsNameText (simpleName ++ suffixes.base)) :
    Braced 3 0 0 (controller.baseText suffixes packageName simpleName).toList := by
  have hempty : Braced 3 1 1 "".toList := braced_of_any rfl
  have hconstants : BracedLines 3 1 1 (controller.stubEndpoints.map StubEndpoint.constantLine) := by
    refine .of_forall fun line hline ↦ ?_
    obtain ⟨endpoint, hendpoint, rfl⟩ := List.mem_map.1 hline
    exact (h.isPrintable_stubEndpoints hconsistent endpoint hendpoint).braced_constantLine
  rw [baseText_eq, baseLines]
  refine (((braced_baseHead hpackage hbase).append ?_).append (.cons (braced_of_any rfl)
    (.cons hempty (.cons (braced_constructorLine hbase) braced_helperLines)))).fileText
  split
  · exact .nil 1
  · exact hconstants.append (.cons hempty (.nil 1))

end Controller

namespace Model

variable {p : Prop} {model : Model} {suffixes : Suffixes}

/-- No more than three types are within each other in a generated class. -/
theorem IsPrintable.nesting_le_of_isGenerated (h : model.IsPrintable p)
    (hconsistent : model.Consistent) (hstub : IsNameText suffixes.stub)
    (hbase : IsNameText suffixes.base) {text : String} (htext : model.IsGenerated suffixes text) :
    (Outline.ofText text.toList).nesting ≤ 3 := by
  have hslash := (h.inert_of_isGenerated hconsistent hstub hbase htext).noSlash
  obtain ⟨controller, packageName, simpleName, hprintable, hcontroller, hpackage, hstubName,
    hbaseName, htext | rfl⟩ := h.exists_of_isGenerated hconsistent hstub hbase htext
  · exact (hprintable.braced_stubText hcontroller hpackage hstubName hbaseName
      htext).nesting_ofText_le (Nat.zero_le _) hslash
  · exact (hprintable.braced_baseText hcontroller hpackage hbaseName).nesting_ofText_le
      (Nat.zero_le _) hslash

end Model

/-! ## Scanning the files again -/

theorem scanFile_of_scanWithin_eq_nil {runtime : Runtime} {fs : FileSystem} {path : Path}
    {text : String} (hread : fs.read path = .ok text.toUTF8) (hreturn : '\r' ∉ text.toList)
    (hscan : scanWithin runtime.nesting text = .ok []) :
    scanFile runtime fs "utf-8" path = .ok ⟨[], [.scanned path.text 0]⟩ := by
  simp only [scanFile, readText_toUTF8 runtime hread, unifyLineEnds_eq_self hreturn,
    String.ofList_toList, hscan]
  rfl

section Files

variable {runtime : Runtime} {fs : FileSystem} {encoding : LooseText} {path : Path}
  {generated paths : List Path}

theorem map_facts_scanFiles_cons {first : Scanned}
    (h : scanFile runtime fs encoding path = .ok first) :
    (scanFiles runtime fs encoding (path :: paths)).map Scanned.facts =
      ((scanFiles runtime fs encoding paths).map Scanned.facts).map (first.facts ++ ·) := by
  rw [scanFiles, h]
  cases scanFiles runtime fs encoding paths <;> rfl

/-- Files without facts can be left out. -/
theorem map_facts_scanFiles
    (h : ∀ path ∈ generated, ∃ diagnostics,
      scanFile runtime fs encoding path = .ok ⟨[], diagnostics⟩) (paths : List Path) :
    (scanFiles runtime fs encoding paths).map Scanned.facts =
      (scanFiles runtime fs encoding (paths.filter (· ∉ generated))).map Scanned.facts := by
  induction paths with
  | nil => rfl
  | cons path paths ih =>
    by_cases hmem : path ∈ generated
    · obtain ⟨diagnostics, hscan⟩ := h path hmem
      rw [List.filter_cons_of_neg (by simpa using hmem), ← ih, map_facts_scanFiles_cons hscan]
      cases scanFiles runtime fs encoding paths <;> rfl
    · rw [List.filter_cons_of_pos (by simpa using hmem)]
      cases hscan : scanFile runtime fs encoding path with
      | error e => rw [scanFiles, scanFiles, hscan]; rfl
      | ok first => rw [map_facts_scanFiles_cons hscan, map_facts_scanFiles_cons hscan, ih]

end Files

/-- For all facts whose names and types are written with the characters of names and types, in
either order of the path variables and with suffixes that are words, whatever the templates and the
given names hold on their one line: every runtime can scan the generated classes, and nothing is
reported from them. Scanning files again among which generated classes are reports what the other
files report, if no template and no given name has a carriage return. The classes can be generated
if all parameters have names. -/
theorem scan_generated_eq_nil (runtime : Runtime) {facts : List Fact}
    (hfacts : ∀ fact ∈ facts, fact.IsPrintable) (order : VariableOrder) {suffixes : Suffixes}
    (hstub : ConsistsOf Text.isWord suffixes.stub) (hbase : ConsistsOf Text.isWord suffixes.base) :
    let model := roundModel order facts
    (HasNamedParameters facts → ∃ stubs, model.stubFiles suffixes = .ok stubs) ∧
    (∀ text, model.IsGenerated suffixes text → scanWithin runtime.nesting text = .ok []) ∧
    ((∀ fact ∈ facts, ¬fact.HasReturn) →
      ∀ (fs : FileSystem) (generated paths : List Path),
        (∀ path ∈ generated, ∃ text, model.IsGenerated suffixes text ∧
          fs.read path = .ok text.toUTF8) →
        (scanFiles runtime fs "utf-8" paths).map Scanned.facts =
          (scanFiles runtime fs "utf-8" (paths.filter (· ∉ generated))).map Scanned.facts) := by
  intro model
  have hprintable := Model.isPrintable_roundModel hfacts order
  have hconsistent : model.Consistent := by
    rw [show model = _ from roundModel_eq_run order facts]
    exact Model.consistent_empty.run _
  have hword {suffix : String} (h : ConsistsOf Text.isWord suffix) : IsNameText suffix :=
    h.isNameText (by decide) (by decide)
  have hinert (text : String) (htext : model.IsGenerated suffixes text) :=
    hprintable.inert_of_isGenerated hconsistent (hword hstub) (hword hbase) htext
  have hscan (text : String) (htext : model.IsGenerated suffixes text) :
      scanWithin runtime.nesting text = .ok [] := by
    have hnesting := hprintable.nesting_le_of_isGenerated hconsistent (hword hstub) (hword hbase)
      htext
    rw [scanWithin_eq, if_pos (hnesting.trans runtime.room), (hinert text htext).scan_eq_nil]
  refine ⟨fun hnamed ↦ Model.exists_stubFiles (fun _ _ _ ↦ hnamed.renderable) suffixes, hscan,
    fun hreturn fs generated paths hgenerated ↦ map_facts_scanFiles (fun path hpath ↦ ?_) paths⟩
  obtain ⟨text, htext, hread⟩ := hgenerated path hpath
  refine ⟨_, scanFile_of_scanWithin_eq_nil hread (fun hmem ↦ ?_) (hscan text htext)⟩
  obtain ⟨fact, hfact, hhas⟩ := (hinert text htext).returns hmem
  exact hreturn fact hfact hhas

/-- A template that would end its literal, its class and the line, and a given name like that. -/
theorem scan_generated_eq_nil_declaration :
    let template := "/\x7bid\x7d\"; \x7d @RestController class C \x7b \x7d // \\"
    let type : Fact :=
      { kind := .controller, annotationName := "RestController", element := "a.B"
        controller := "a.B", packageName := some "a", imports := ["java.util.*"] }
    let method : Fact :=
      { type with methodKey := some "a.B.get(int[],String)", methodName := some "get" }
    let facts : List Fact :=
      [type,
        { method with
          kind := .getRoute, typeText := some "Map<String, ? extends B>", value := [template] },
        { method with kind := .pathVariable, name := some "id", typeText := some "int[]" },
        { method with
          kind := .requestParam, name := some "q", typeText := some "String"
          givenName := some "\"; \x7d @PostMapping(\"/b\") B post() \x7b '" }]
    let model := roundModel .textual facts
    scan ("class B \x7b String url = \"" ++ template) ≠ [] ∧
    (∃ controller, model.controllers.entries = [("a.B", controller)] ∧
      controller.stubEndpoints.map StubEndpoint.constantLine =
        ["    protected static final String GET_URL = \"/%s\\\"; \x7d" ++
          " @RestController class C \x7b \x7d // \\\\\";"]) ∧
    (∃ stubs, model.stubFiles {} = .ok stubs) ∧
    ∀ text, model.IsGenerated {} text → scanWithin Runtime.standard.nesting text = .ok [] ∧
      ∀ (fs : FileSystem) (path : Path), fs.read path = .ok text.toUTF8 →
        (scanFiles .standard fs "utf-8" [path]).map Scanned.facts = .ok [] := by
  intro template type method facts model
  have hfacts : ∀ fact ∈ facts, fact.IsPrintable := by decide +kernel
  have hnamed : HasNamedParameters facts := by
    unfold HasNamedParameters
    decide +kernel
  have hreturn : ∀ fact ∈ facts, ¬fact.HasReturn := by decide +kernel
  obtain ⟨hstubs, hscan, hfiles⟩ := @scan_generated_eq_nil .standard _ hfacts .textual {}
    (by decide +kernel) (by decide +kernel)
  refine ⟨by decide +kernel, ⟨_, rfl, ?_⟩, hstubs hnamed,
    fun text htext ↦ ⟨hscan text htext, fun fs path hread ↦ ?_⟩⟩
  · rw [Controller.stubEndpoints, Controller.orderedEndpoints,
      List.mergeSort_of_pairwise (by decide +kernel)]
    decide +kernel
  · rw [hfiles hreturn fs [path] [path] (List.forall_mem_singleton.2 ⟨text, htext, hread⟩),
      List.filter_cons_of_neg (by simp), List.filter_nil]
    rfl

/-- A file is scanned after its line ends have become newlines. -/
theorem map_facts_scanFiles_singleton (runtime : Runtime) {fs : FileSystem} {path : Path}
    {text : String} (hread : fs.read path = .ok text.toUTF8)
    (hnesting : (Outline.ofText (unifyLineEnds text.toList)).nesting ≤ 3) :
    (scanFiles runtime fs "utf-8" [path]).map Scanned.facts =
      .ok (scan (.ofList (unifyLineEnds text.toList))) := by
  have hscan : scanWithin runtime.nesting (.ofList (unifyLineEnds text.toList)) =
      .ok (scan (.ofList (unifyLineEnds text.toList))) := by
    rw [scanWithin_eq, String.toList_ofList, if_pos (hnesting.trans runtime.room)]
  simp only [scanFiles, scanFile, readText_toUTF8 runtime hread, hscan, ok_bind]
  change Except.ok (_ ++ []) = _
  rw [List.append_nil]

/-- A template of one line with a carriage return, and a class behind it. In the file of the base
class that is a line of its own, outside of all literals. -/
theorem class_reported_behind_return :
    let type : Fact :=
      { kind := .controller, annotationName := "RestController", element := "A"
        controller := "A", packageName := some "" }
    let route : Fact :=
      { kind := .getRoute, annotationName := "GetMapping", element := "A.f()", controller := "A"
        methodKey := some "A.f()", methodName := some "f"
        value := ["/a\r; @RestController class C \x7b \x7d //"], typeText := some "String" }
    let found : Fact :=
      { kind := .controller, annotationName := "RestController", element := "AStubBase.C"
        controller := "AStubBase.C", packageName := some ""
        imports := ["com.fasterxml.jackson.core.JsonProcessingException",
          "com.fasterxml.jackson.databind.ObjectMapper",
          "com.github.tomakehurst.wiremock.client.ResponseDefinitionBuilder"] }
    (∀ fact ∈ [type, route], fact.IsPrintable) ∧
    ∃ text, (roundModel .textual [type, route]).IsGenerated {} text ∧
      ∀ (runtime : Runtime) (fs : FileSystem) (path : Path), fs.read path = .ok text.toUTF8 →
        (scanFiles runtime fs "utf-8" [path]).map Scanned.facts = .ok [found] := by
  intro type route found
  have hmodel : ∃ controller,
      (roundModel .textual [type, route]).controllers.entries = [("A", controller)] ∧
      controllerName "A" controller.packageName = ("", "A") ∧
      controller.stubEndpoints.map StubEndpoint.constantLine =
        ["    protected static final String F_URL = " ++
          "\"/a\r; @RestController class C \x7b \x7d //\";"] := by
    refine ⟨_, rfl, by decide +kernel, ?_⟩
    rw [Controller.stubEndpoints, Controller.orderedEndpoints,
      List.mergeSort_of_pairwise (by decide +kernel)]
    decide +kernel
  obtain ⟨controller, hentries, hname, hconstants⟩ := hmodel
  have hgenerated : controller.baseText {} "" "A" ∈
      ((roundModel .textual [type, route]).baseFiles {}).values := by
    have hfile : Model.baseFile {} "A" controller =
        (classFile "" ("A" ++ "StubBase"), controller.baseText {} "" "A") := by
      rw [Model.baseFile, hname]
    rw [Model.baseFiles, Model.sortedControllers, hentries, List.mergeSort_singleton,
      List.map_singleton]
    simp only [hfile]
    exact List.mem_singleton_self _
  have hchars : ∃ chars, (controller.baseText {} "" "A").toList = chars ∧
      (Outline.ofText (unifyLineEnds chars)).nesting ≤ 3 ∧
      scan (.ofList (unifyLineEnds chars)) = [found] := by
    have hpackage : packageLines "" = [] := rfl
    rw [Controller.baseText_eq, Controller.baseLines, hconstants,
      toList_fileText (List.append_ne_nil_of_right_ne_nil _ (List.cons_ne_nil _ _)),
      Controller.baseHead, Controller.helperLines]
    simp only [hpackage, List.nil_append, List.isEmpty_cons, Bool.false_eq_true, if_false,
      List.cons_append, List.flatMap_cons, List.flatMap_nil, String.toList_append]
    repeat rw [String.toList_ofList]
    refine ⟨_, rfl, by decide +kernel, ?_⟩
    rw [scan, String.toList_ofList]
    decide +kernel
  obtain ⟨chars, htext, hnesting, hscan⟩ := hchars
  refine ⟨by decide +kernel, _, .inr hgenerated, fun runtime fs path hread ↦ ?_⟩
  rw [map_facts_scanFiles_singleton runtime hread (htext ▸ hnesting), htext, hscan]

end EndpointStubs
