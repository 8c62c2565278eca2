import EndpointStubs.Proofs.ConstantNames
import EndpointStubs.Proofs.InertText
import EndpointStubs.Proofs.JoinedTexts
import EndpointStubs.Proofs.ModelSteps

/-!
# Models that can be printed

Facts come with two kinds of text: names and types, which are printed as code, and
the texts of string literals, which are printed as literals again and may hold
anything but the end of a line. Every name, every type and every free text that a
model holds is kept apart in the same way, since folding and normalizing put names
into names, types into types, and free texts into templates. A name in a placeholder
is only replaced in a template, so that it need not be a name there.
-/

namespace EndpointStubs

/-- The character means nothing to the scanner, wherever it stands, and does not end a line. -/
def IsPlainChar (c : Char) : Prop :=
  c ≠ '\n' ∧ ∀ before, c ∉ Java.marks before

instance (c : Char) : Decidable (IsPlainChar c) :=
  inferInstanceAs (Decidable (_ ∧ _))

def IsNameText (text : String) : Prop :=
  ∀ c ∈ text.toList, IsPlainChar c

instance (text : String) : Decidable (IsNameText text) :=
  List.decidableBAll IsPlainChar text.toList

/-- The text has no newline, and carriage returns only if `p` holds. -/
def IsLine (p : Prop) (text : String) : Prop :=
  '\n' ∉ text.toList ∧ ('\r' ∈ text.toList → p)

theorem IsNameText.unmarked {text : String} (h : IsNameText text) (before : Bool) :
    Java.Unmarked before text :=
  fun c hc ↦ (h c hc).2 before

theorem IsNameText.isLine {text : String} (h : IsNameText text) (p : Prop) : IsLine p text :=
  ⟨fun hmem ↦ (h _ hmem).1 rfl, fun hmem ↦ absurd hmem fun hreturn ↦
    (h _ hreturn).2 false (by decide)⟩

/-- No character of a class is one of those that are none of the class. -/
theorem not_mem_of_class {q : Char → Bool} {others : List Char}
    (hq : others.any q = false) {c : Char} (h : q c = true) : c ∉ others :=
  fun hmem ↦ List.any_eq_false.1 hq c hmem h

theorem isPlainChar_of_class {q : Char → Bool} (hnewline : q '\n' = false)
    (hq : ∀ before, (Java.marks before).any q = false) {c : Char} (h : q c = true) :
    IsPlainChar c := by
  refine ⟨?_, fun before ↦ not_mem_of_class (hq before) h⟩
  rintro rfl
  exact Bool.false_ne_true (hnewline.symm.trans h)

theorem holdsNames_isPlainChar : Text.HoldsNames IsPlainChar where
  capital _ h := isPlainChar_of_class (by decide) (by decide) h
  digit _ h := isPlainChar_of_class (by decide) (by decide) h
  underscore := by decide
  wide c h := by
    have hwide : decide (128 ≤ c.toNat) = true := decide_eq_true h
    exact isPlainChar_of_class (q := fun c ↦ decide (128 ≤ c.toNat)) (by decide) (by decide) hwide

/-- The text is written with the characters of a class. -/
def ConsistsOf (q : Char → Bool) (text : String) : Prop :=
  ∀ c ∈ text.toList, q c = true

instance (q : Char → Bool) (text : String) : Decidable (ConsistsOf q text) :=
  List.decidableBAll (q · = true) text.toList

/-- A character of a type: of a name, or one of those that types are built with. -/
def isTypeChar (c : Char) : Bool :=
  Text.isWord c || [' ', '.', ',', '<', '>', '[', ']', '?', '&'].contains c

/-- A character of an import, which may end in a star. -/
def isImportChar (c : Char) : Bool :=
  Text.isWordOrDot c || c == '*'

/-- The texts of a fact that come from string literals. -/
def Fact.texts (fact : Fact) : List String :=
  fact.path ++ fact.value ++ fact.givenName.toList

/-- Names, imports and types are written with their characters, and the texts of string literals are
on one line. -/
structure Fact.IsPrintable (fact : Fact) : Prop where
  controller : ConsistsOf Text.isWordOrDot fact.controller
  packageName : ∀ name ∈ fact.packageName, ConsistsOf Text.isWordOrDot name
  imports : ∀ name ∈ fact.imports, ConsistsOf isImportChar name
  methodName : ∀ name ∈ fact.methodName, ConsistsOf Text.isWordOrDot name
  name : ∀ name ∈ fact.name, ConsistsOf Text.isWordOrDot name
  typeText : ∀ type ∈ fact.typeText, ConsistsOf isTypeChar type
  texts : ∀ text ∈ fact.texts, '\n' ∉ text.toList

instance (fact : Fact) : Decidable fact.IsPrintable :=
  decidable_of_iff (ConsistsOf Text.isWordOrDot fact.controller ∧
      (∀ name ∈ fact.packageName, ConsistsOf Text.isWordOrDot name) ∧
      (∀ name ∈ fact.imports, ConsistsOf isImportChar name) ∧
      (∀ name ∈ fact.methodName, ConsistsOf Text.isWordOrDot name) ∧
      (∀ name ∈ fact.name, ConsistsOf Text.isWordOrDot name) ∧
      (∀ type ∈ fact.typeText, ConsistsOf isTypeChar type) ∧
      ∀ text ∈ fact.texts, '\n' ∉ text.toList)
    ⟨fun ⟨h₁, h₂, h₃, h₄, h₅, h₆, h₇⟩ ↦ ⟨h₁, h₂, h₃, h₄, h₅, h₆, h₇⟩,
      fun ⟨h₁, h₂, h₃, h₄, h₅, h₆, h₇⟩ ↦ ⟨h₁, h₂, h₃, h₄, h₅, h₆, h₇⟩⟩

/-- A string literal of the fact has a carriage return. -/
def Fact.HasReturn (fact : Fact) : Prop :=
  ∃ text ∈ fact.texts, '\r' ∈ text.toList

instance (fact : Fact) : Decidable fact.HasReturn :=
  inferInstanceAs (Decidable (∃ text ∈ fact.texts, _))

theorem ConsistsOf.isNameText {q : Char → Bool} {text : String} (h : ConsistsOf q text)
    (hnewline : q '\n' = false) (hq : ∀ before, (Java.marks before).any q = false) :
    IsNameText text :=
  fun c hc ↦ isPlainChar_of_class hnewline hq (h c hc)

theorem isNameText_of_isWordOrDot {text : String} (h : ConsistsOf Text.isWordOrDot text) :
    IsNameText text :=
  h.isNameText (by decide) (by decide)

/-- Leaving parts of a type out leaves characters of a type. -/
theorem forall_mem_cleanType {q : Char → Prop} (hnewline : q '\n') {text : String}
    (h : ∀ c ∈ text.toList, q c) : ∀ c ∈ (cleanType text).toList, q c := by
  rw [cleanType, String.toList_ofList]
  refine forall_mem_intercalate (List.forall_mem_singleton.2 hnewline) fun line hline c hc ↦ ?_
  obtain ⟨piece, hpiece, rfl⟩ := List.mem_map.1 hline
  refine h c (mem_of_mem_splitAt hpiece c ?_).1
  unfold dropGroup at hc
  split at hc
  · rename_i rest hrest
    split at hc
    · rcases List.mem_append.1 hc with hc | hc
      · exact (List.takeWhile_subset _) hc
      · refine List.dropWhile_subset _ (hrest ▸ List.mem_cons_of_mem _ ?_)
        rw [← Text.splitTrailing_append (· != ')') rest]
        exact List.mem_append_right _ hc
    · exact hc
  · exact hc

namespace Fact.IsPrintable

variable {fact : Fact} (h : fact.IsPrintable)

include h

theorem isNameText_name : ∀ name ∈ fact.name, IsNameText name :=
  fun name hname ↦ isNameText_of_isWordOrDot (h.name name hname)

theorem unmarked_typeText : ∀ type ∈ fact.typeText, Java.Unmarked true type :=
  fun type htype c hc ↦ not_mem_of_class (by decide) (h.typeText type htype c hc)

theorem isLine_text {p : Prop} (hreturn : fact.HasReturn → p) {text : String}
    (htext : text ∈ fact.texts) : IsLine p text :=
  ⟨h.texts text htext, fun hmem ↦ hreturn ⟨text, htext, hmem⟩⟩

end Fact.IsPrintable

structure Argument.IsPrintable (p : Prop) (argument : Argument) : Prop where
  name : ∀ name ∈ argument.name, IsNameText name
  type : ∀ type ∈ argument.type, Java.Unmarked true type
  givenName : ∀ text ∈ argument.givenName, IsLine p text

structure Resource.IsPrintable (p : Prop) (resource : Resource) : Prop where
  methodName : ∀ name ∈ resource.methodName, IsNameText name
  responseType : ∀ type ∈ resource.responseType, Java.Unmarked true type
  template : ∀ text ∈ resource.template, IsLine p text
  arguments : resource.arguments.Forall (Argument.IsPrintable p)
  pathVariables : resource.pathVariables.Forall (Argument.IsPrintable p)
  requestBody : ∀ body ∈ resource.requestBody, body.IsPrintable p

structure Controller.IsPrintable (p : Prop) (controller : Controller) : Prop where
  packageName : ∀ name ∈ controller.packageName, IsNameText name
  imports : ∀ name ∈ controller.imports, IsNameText name
  resources : controller.resources.Forall (Resource.IsPrintable p)

structure Model.IsPrintable (p : Prop) (model : Model) : Prop where
  keys : ∀ key ∈ model.controllers.keys, IsNameText key
  controllers : model.controllers.Forall (Controller.IsPrintable p)

/-- What is taken from a fact, or else kept. -/
theorem forall_mem_orElse {α : Type} {P : α → Prop} {new old : Option α} (hnew : ∀ a ∈ new, P a)
    (hold : ∀ a ∈ old, P a) : ∀ a ∈ (new <|> old), P a := by
  cases new with
  | none => exact hold
  | some a => exact hnew

section

variable {p : Prop} {fact : Fact} (hfact : fact.IsPrintable) (hreturn : fact.HasReturn → p)

include hfact hreturn

theorem Fact.isPrintable_argument : fact.argument.IsPrintable p where
  name := hfact.isNameText_name
  type := hfact.unmarked_typeText
  givenName _ htext := hfact.isLine_text hreturn
    (List.mem_append_right _ (Option.mem_toList.2 htext))

omit hreturn in
theorem Fact.isPrintable_body : fact.body.IsPrintable p where
  name := hfact.isNameText_name
  type := hfact.unmarked_typeText
  givenName := nofun

namespace Resource.IsPrintable

variable {resource : Resource} (h : resource.IsPrintable p)

include h

theorem withRoute (method : HttpMethod) : (resource.withRoute method fact).IsPrintable p where
  methodName := forall_mem_orElse (fun name hname ↦ by
    obtain ⟨given, hgiven, rfl⟩ := Option.mem_map.1 hname
    have hgivenText := isNameText_of_isWordOrDot (hfact.methodName given hgiven)
    exact holdsNames_isPlainChar.forall_mem_capitalize hgivenText) h.methodName
  responseType := forall_mem_orElse (fun type htype ↦ by
    obtain ⟨given, hgiven, rfl⟩ := Option.mem_map.1 htype
    have hgivenText := hfact.unmarked_typeText given hgiven
    exact forall_mem_cleanType (by decide) hgivenText) h.responseType
  template := by
    refine forall_mem_orElse (fun text htext ↦ hfact.isLine_text hreturn ?_) h.template
    refine List.mem_append_left _ (List.mem_append.2 ?_)
    unfold selectTemplate at htext
    rcases (Option.orElse_eq_some _ _ _).1 htext with htext | ⟨-, htext⟩
    · exact .inl (List.mem_of_mem_head? htext)
    · exact .inr (List.mem_of_mem_head? htext)
  arguments := h.arguments
  pathVariables := h.pathVariables
  requestBody := h.requestBody

/-- Folding a fact that can be printed keeps an endpoint so. -/
theorem afterFact : (resource.afterFact fact).IsPrintable p := by
  have hargument := Fact.isPrintable_argument hfact hreturn
  unfold Resource.afterFact
  split
  · exact h.withRoute hfact hreturn .get
  · exact h.withRoute hfact hreturn .post
  · exact { h with arguments := h.arguments.update hargument fun _ _ ↦ hargument }
  · exact { h with pathVariables := h.pathVariables.update hargument fun _ _ ↦ hargument }
  · exact { h with requestBody := fun body hbody ↦
      Option.some.inj hbody ▸ Fact.isPrintable_body hfact }
  · exact h
  · exact h

end Resource.IsPrintable

end

theorem Text.mem_of_mem_replaceAll {pattern new text : List Char} {c : Char}
    (h : c ∈ replaceAll pattern new text) : c ∈ text ∨ c ∈ new := by
  fun_induction replaceAll pattern new text with
  | case1 => exact .inl h
  | case2 => exact .inl h
  | case3 d tail hp rest hafter ih =>
    rcases List.mem_append.1 h with h | h
    · exact .inr h
    · rw [after?_eq_some_iff.1 hafter]
      exact (ih h).imp_left (List.mem_append_right _)
  | case4 d tail hp hafter ih =>
    rcases List.mem_cons.1 h with rfl | h
    · exact .inl List.mem_cons_self
    · exact (ih h).imp_left (List.mem_cons_of_mem _)

namespace Resource

theorem mem_of_mem_substitutePlaceholders {placeholders : List (Option String)}
    {template : List Char} {c : Char} (h : c ∈ substitutePlaceholders placeholders template) :
    c ∈ template ∨ c ∈ ['%', 's'] := by
  induction placeholders generalizing template with
  | nil => exact .inl h
  | cons placeholder placeholders ih =>
    rcases ih h with h | h
    · exact Text.mem_of_mem_replaceAll h
    · exact .inr h

variable {p : Prop} {resource : Resource}

/-- Format specifiers are no ends of lines. -/
theorem IsPrintable.normalize (h : resource.IsPrintable p) (order : VariableOrder) :
    (resource.normalize order).IsPrintable p := by
  unfold Resource.normalize
  split
  · exact h
  · rename_i template htemplate
    split
    · exact h
    · obtain ⟨hline, hreturn⟩ := h.template template htemplate
      refine { h with template := fun text htext ↦ ?_ }
      obtain rfl := Option.some.inj htext
      have hchars {c : Char} (hc : c ∉ ['%', 's']) (hmem : c ∈ (String.ofList
          (substitutePlaceholders resource.placeholders.keys template.toList)).toList) :
          c ∈ template.toList := by
        rw [String.toList_ofList] at hmem
        exact (mem_of_mem_substitutePlaceholders hmem).resolve_right hc
      exact ⟨fun hmem ↦ hline (hchars (by decide) hmem), fun hmem ↦
        hreturn (hchars (by decide) hmem)⟩

theorem isPrintable_empty : Resource.IsPrintable p {} where
  methodName := nofun
  responseType := nofun
  template := nofun
  arguments := Registry.forall_empty
  pathVariables := Registry.forall_empty
  requestBody := nofun

end Resource

/-! ## Controllers and models -/

section

variable {p : Prop} {fact : Fact}

theorem Controller.isPrintable_empty : Controller.IsPrintable p {} where
  packageName := nofun
  imports := nofun
  resources := Registry.forall_empty

theorem Controller.IsPrintable.withFact {controller : Controller} (h : controller.IsPrintable p)
    (hfact : fact.IsPrintable) : (controller.withFact fact).IsPrintable p where
  packageName := forall_mem_orElse
    (fun name hname ↦ isNameText_of_isWordOrDot (hfact.packageName name hname)) h.packageName
  imports name hname := (mem_foldl_addNew.1 hname).elim (h.imports name) fun hmem ↦
    (hfact.imports name hmem).isNameText (by decide) (by decide)
  resources := h.resources

theorem Controller.IsPrintable.afterFact {controller : Controller} (h : controller.IsPrintable p)
    (hfact : fact.IsPrintable) (hreturn : fact.HasReturn → p) :
    (controller.afterFact fact).IsPrintable p := by
  by_cases hkind : fact.kind = .controller
  · rw [Controller.afterFact, hkind]
    exact h.withFact hfact
  · cases hkey : fact.endpointKey? with
    | none => rwa [afterFact_of_endpointKey?_eq_none hkind hkey]
    | some key =>
      rw [afterFact_of_endpointKey?_eq_some hkind hkey]
      exact { h with
        resources := h.resources.update Resource.isPrintable_empty fun _ hr ↦
          hr.afterFact hfact hreturn }

namespace Model

variable {model : Model}

theorem isPrintable_empty : Model.IsPrintable p ∅ :=
  ⟨nofun, Registry.forall_empty⟩

theorem IsPrintable.fold (h : model.IsPrintable p) (hfact : fact.IsPrintable)
    (hreturn : fact.HasReturn → p) : (model.fold fact).IsPrintable p := by
  cases hcontributes : fact.contributesTo? with
  | none => rwa [fold_of_contributesTo?_eq_none hcontributes]
  | some controller =>
    rw [fold_of_contributesTo?_eq_some hcontributes]
    have hcontroller := Fact.controller_of_contributesTo? hcontributes
    refine ⟨fun key hkey ↦ ?_, h.controllers.update Controller.isPrintable_empty fun _ hc ↦
      hc.afterFact hfact hreturn⟩
    rw [updateController, Registry.keys_update] at hkey
    split at hkey
    · exact h.keys key hkey
    · rcases List.mem_append.1 hkey with hkey | hkey
      · exact h.keys key hkey
      · rw [List.mem_singleton.1 hkey, ← hcontroller]
        exact isNameText_of_isWordOrDot hfact.controller

theorem IsPrintable.normalize (h : model.IsPrintable p) (order : VariableOrder) :
    (model.normalize order).IsPrintable p := by
  refine ⟨?_, h.controllers.mapValues fun _ hc ↦
    { hc with resources := hc.resources.mapValues fun _ hr ↦ hr.normalize order }⟩
  rw [Model.normalize, mapResources, Registry.keys_mapValues]
  exact h.keys

theorem IsPrintable.foldAll {facts : List Fact} (h : model.IsPrintable p)
    (hfacts : ∀ fact ∈ facts, fact.IsPrintable) (hreturn : ∀ fact ∈ facts, fact.HasReturn → p) :
    (model.foldAll facts).IsPrintable p := by
  induction facts generalizing model with
  | nil => exact h
  | cons fact facts ih =>
    exact ih (h.fold (hfacts fact List.mem_cons_self) (hreturn fact List.mem_cons_self))
      (fun f hf ↦ hfacts f (List.mem_cons_of_mem _ hf))
      fun f hf ↦ hreturn f (List.mem_cons_of_mem _ hf)

/-- A round of facts that can be printed gives a model that can be. -/
theorem isPrintable_roundModel {facts : List Fact} (hfacts : ∀ fact ∈ facts, fact.IsPrintable)
    (order : VariableOrder) :
    (roundModel order facts).IsPrintable (∃ fact ∈ facts, fact.HasReturn) :=
  (isPrintable_empty.foldAll hfacts fun fact hfact hreturn ↦ ⟨fact, hfact, hreturn⟩).normalize order

end Model

end

end EndpointStubs
