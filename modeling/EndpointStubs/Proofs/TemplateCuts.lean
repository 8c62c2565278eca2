import EndpointStubs.Proofs.FormatBack
import Mathlib.Data.List.Infix

/-!
# Templates cut at their placeholders

A template is cut at the placeholders of the path variables: the parts that are
kept hold no such placeholder, and between them stands one placeholder each.
There is one way only to do so, so that a cut shows all occurrences at once.
Normalizing in textual order puts a format specifier between the kept parts,
which stay as they are, and records for each one the last variable with the
placeholder that stood there. The order in which the placeholders are replaced
does not matter.
-/

namespace EndpointStubs

/-- A text and the places to cut it: what is kept at the front, and then each placeholder with what
is kept behind it. -/
structure Cut where
  first : List Char
  parts : List (String × List Char)
  deriving DecidableEq

namespace Cut

/-- Each placeholder with what is kept behind it. -/
def partsText (parts : List (String × List Char)) : List Char :=
  parts.flatMap fun (placeholder, kept) ↦ placeholderText (some placeholder) ++ kept

/-- The text that is cut. -/
def text (cut : Cut) : List Char :=
  cut.first ++ partsText cut.parts

/-- The kept parts with a format specifier for each placeholder. -/
def specified (cut : Cut) : List Char :=
  cut.first ++ cut.parts.flatMap fun (_, kept) ↦ "%s".toList ++ kept

def kept (cut : Cut) : List (List Char) :=
  cut.first :: cut.parts.map Prod.snd

def placeholders (cut : Cut) : List String :=
  cut.parts.map Prod.fst

/-- A template is cut at all placeholders of a set, and nowhere else. -/
structure IsOf (cut : Cut) (known : List String) (template : List Char) : Prop where
  text_eq : cut.text = template
  isKnown : ∀ placeholder ∈ cut.placeholders, placeholder ∈ known
  kept : ∀ kept ∈ cut.kept, ∀ placeholder ∈ known, ¬placeholderText (some placeholder) <:+: kept

instance (cut : Cut) (known : List String) (template : List Char) :
    Decidable (cut.IsOf known template) :=
  decidable_of_iff (cut.text = template ∧ (∀ placeholder ∈ cut.placeholders, placeholder ∈ known) ∧
      ∀ kept ∈ cut.kept, ∀ placeholder ∈ known,
        ¬placeholderText (some placeholder) <:+: kept) <|
    ⟨fun ⟨htext, hknown, hkept⟩ ↦ ⟨htext, hknown, hkept⟩,
      fun h ↦ ⟨h.text_eq, h.isKnown, h.kept⟩⟩

section

variable {known : List String} {template : List Char}

/-- One more character in front is kept, unless a placeholder starts there. -/
theorem IsOf.cons {cut : Cut} (h : cut.IsOf known template) {c : Char}
    (hstart : ∀ placeholder ∈ known,
      ¬placeholderText (some placeholder) <+: c :: template) :
    (Cut.mk (c :: cut.first) cut.parts).IsOf known (c :: template) where
  text_eq := by
    rw [← h.text_eq]
    rfl
  isKnown := h.isKnown
  kept := by
    intro kept hkept placeholder hplaceholder hoccurs
    rcases List.mem_cons.1 hkept with rfl | hkept
    · rcases List.infix_cons_iff.1 hoccurs with hstarts | hoccurs
      · apply hstart placeholder hplaceholder
        rw [← h.text_eq]
        exact hstarts.trans (List.prefix_append (c :: cut.first) _)
      · exact h.kept cut.first List.mem_cons_self placeholder hplaceholder hoccurs
    · exact h.kept kept (List.mem_cons_of_mem _ hkept) placeholder hplaceholder hoccurs

theorem IsOf.placeholder {cut : Cut} (h : cut.IsOf known template) {placeholder : String}
    (hplaceholder : placeholder ∈ known) :
    (Cut.mk [] ((placeholder, cut.first) :: cut.parts)).IsOf known
      (placeholderText (some placeholder) ++ template) where
  text_eq := by
    rw [← h.text_eq]
    simp [text, partsText]
  isKnown := List.forall_mem_cons.2 ⟨hplaceholder, h.isKnown⟩
  kept := by
    intro kept hkept other _ hoccurs
    rcases List.mem_cons.1 hkept with rfl | hkept
    · simp [placeholderText] at hoccurs
    · exact h.kept kept hkept other ‹_› hoccurs

/-- Every template can be cut; it is read from the left. -/
theorem exists_isOf (known : List String) (template : List Char) :
    ∃ cut : Cut, cut.IsOf known template := by
  induction hlength : template.length using Nat.strong_induction_on generalizing template with
  | _ n ih =>
  subst hlength
  by_cases hstart : ∃ placeholder ∈ known, placeholderText (some placeholder) <+: template
  · obtain ⟨placeholder, hplaceholder, rest, rfl⟩ := hstart
    have hshorter : rest.length < (placeholderText (some placeholder) ++ rest).length := by
      simp only [placeholderText, List.length_append, List.length_cons]
      omega
    obtain ⟨cut, hcut⟩ := ih _ hshorter rest rfl
    exact ⟨_, hcut.placeholder hplaceholder⟩
  · cases template with
    | nil =>
      refine ⟨⟨[], []⟩, rfl, List.forall_mem_nil _, ?_⟩
      intro kept hkept placeholder _ hoccurs
      rw [List.mem_singleton.1 hkept] at hoccurs
      simp [placeholderText] at hoccurs
    | cons c rest =>
      obtain ⟨cut, hcut⟩ := ih _ (Nat.lt_succ_self rest.length) rest rfl
      exact ⟨_, hcut.cons fun placeholder hplaceholder hstarts ↦
        hstart ⟨placeholder, hplaceholder, hstarts⟩⟩

/-- A kept part does not reach into the placeholder behind another one. -/
theorem eq_nil_of_append_eq {keep rest rest' : List Char} {placeholder : String}
    (hbraces : ∀ c ∈ placeholder.toList, isBrace c = false)
    (hkeep : ¬placeholderText (some placeholder) <:+: keep)
    (hrest : ∀ c ∈ rest.head?, c = '{')
    (h : keep ++ rest = placeholderText (some placeholder) ++ rest') : keep = [] := by
  rcases List.append_eq_append_iff.1 h with ⟨inside, hinside, hafter⟩ | ⟨more, hmore, -⟩
  · -- The rest starts inside of the placeholder, but with an opening brace.
    cases keep with
    | nil => rfl
    | cons c keep =>
      have hend : placeholder.toList ++ ['}'] = keep ++ inside := by
        have hcons := congrArg List.tail hinside
        simpa [placeholderText, nameText] using hcons
      cases inside with
      | nil =>
        rw [List.append_nil] at hinside
        exact absurd ⟨[], [], by rw [hinside]; simp⟩ hkeep
      | cons d inside =>
        have hd : d = '{' := hrest d (by rw [hafter]; rfl)
        have hmem : d ∈ placeholder.toList ++ ['}'] := by
          rw [hend]
          exact List.mem_append_right _ List.mem_cons_self
        rw [hd] at hmem
        exact absurd hmem (not_mem_closed hbraces)
  · exact absurd ⟨[], more, by rw [hmore]; rfl⟩ hkeep

/-- Behind what is kept at the front stands nothing or an opening brace. -/
theorem head_partsText (parts : List (String × List Char)) :
    ∀ c ∈ (partsText parts).head?, c = '{' := by
  cases parts with
  | nil => nofun
  | cons part parts =>
    intro c hc
    cases hc
    rfl

theorem IsOf.tail {first : List Char} {part : String × List Char}
    {parts : List (String × List Char)} (h : (Cut.mk first (part :: parts)).IsOf known template) :
    (Cut.mk part.2 parts).IsOf known (Cut.mk part.2 parts).text :=
  ⟨rfl, fun other hother ↦ h.isKnown other (List.mem_cons_of_mem _ hother),
    fun other hother ↦ h.kept other (List.mem_cons_of_mem _ hother)⟩

variable (hplain : ∀ placeholder ∈ known, IsPlain placeholder.toList)
include hplain

theorem eq_nil_of_partsText_eq {keep : List Char} {parts parts' : List (String × List Char)}
    (hparts : ∀ part ∈ parts, part.1 ∈ known)
    (hkeep : ∀ placeholder ∈ known, ¬placeholderText (some placeholder) <:+: keep)
    (h : partsText parts = keep ++ partsText parts') : keep = [] := by
  cases parts with
  | nil => exact (List.append_eq_nil_iff.1 h.symm).1
  | cons part parts =>
    have hpart := hparts part List.mem_cons_self
    have htext : keep ++ partsText parts' =
        placeholderText (some part.1) ++ (part.2 ++ partsText parts) := by
      rw [← h]
      simp [partsText]
    exact eq_nil_of_append_eq (hplain _ hpart).not_isBrace (hkeep _ hpart)
      (head_partsText parts') htext

/-- Two cuts of one template keep the same at the front. -/
theorem IsOf.first_eq {cut other : Cut} (h : cut.IsOf known template)
    (hother : other.IsOf known template) :
    cut.first = other.first ∧ partsText cut.parts = partsText other.parts := by
  have hknown {cut : Cut} (h : cut.IsOf known template) : ∀ part ∈ cut.parts, part.1 ∈ known :=
    fun part hpart ↦ h.isKnown _ (List.mem_map_of_mem hpart)
  have hkept {keep all : List Char} (hkeep : keep <:+: all)
      (hall : ∀ placeholder ∈ known, ¬placeholderText (some placeholder) <:+: all) :
      ∀ placeholder ∈ known, ¬placeholderText (some placeholder) <:+: keep :=
    fun placeholder hplaceholder hoccurs ↦ hall placeholder hplaceholder (hoccurs.trans hkeep)
  rcases List.append_eq_append_iff.1 (h.text_eq.trans hother.text_eq.symm) with
    ⟨keep, hfirst, hrest⟩ | ⟨keep, hfirst, hrest⟩
  · have hinside : keep <:+: other.first := ⟨cut.first, [], by rw [hfirst, List.append_nil]⟩
    have hnil := eq_nil_of_partsText_eq hplain (hknown h)
      (hkept hinside (hother.kept _ List.mem_cons_self)) hrest
    rw [hnil, List.append_nil] at hfirst
    rw [hnil, List.nil_append] at hrest
    exact ⟨hfirst.symm, hrest⟩
  · have hinside : keep <:+: cut.first := ⟨other.first, [], by rw [hfirst, List.append_nil]⟩
    have hnil := eq_nil_of_partsText_eq hplain (hknown hother)
      (hkept hinside (h.kept _ List.mem_cons_self)) hrest
    rw [hnil, List.append_nil] at hfirst
    rw [hnil, List.nil_append] at hrest
    exact ⟨hfirst, hrest.symm⟩

/-- There is one way only to cut a template. -/
theorem IsOf.eq {cut other : Cut} (h : cut.IsOf known template)
    (hother : other.IsOf known template) : cut = other := by
  obtain ⟨first, parts⟩ := cut
  induction parts generalizing first other template with
  | nil =>
    obtain ⟨first', parts'⟩ := other
    obtain ⟨hfirst, hrest⟩ := h.first_eq hplain hother
    cases parts' with
    | nil => exact congrArg (Cut.mk · []) hfirst
    | cons part' parts' => cases hrest
  | cons part parts ih =>
    obtain ⟨first', parts'⟩ := other
    obtain ⟨hfirst, hrest⟩ := h.first_eq hplain hother
    cases parts' with
    | nil => cases hrest
    | cons part' parts' =>
      obtain ⟨placeholder, kept⟩ := part
      obtain ⟨placeholder', kept'⟩ := part'
      have hclosed : placeholder.toList ++ '}' :: (Cut.mk kept parts).text =
          placeholder'.toList ++ '}' :: (Cut.mk kept' parts').text := by
        have htail := congrArg List.tail hrest
        simpa [partsText, placeholderText, nameText, text] using htail
      obtain ⟨hplaceholder, htexts⟩ := append_closed_inj
        (hplain _ (h.isKnown _ List.mem_cons_self)).not_isBrace
        (hplain _ (hother.isKnown _ List.mem_cons_self)).not_isBrace hclosed
      have hparts := ih (htexts ▸ hother.tail) kept h.tail
      obtain ⟨rfl, rfl⟩ := Cut.mk.inj hparts
      obtain rfl : first = first' := hfirst
      obtain rfl : placeholder = placeholder' := String.toList_inj.1 hplaceholder
      rfl

end

end Cut

/-- A group among the pieces of a text occurs in it. -/
theorem infix_of_mem_pieces {text name : List Char} (h : .group name ∈ pieces text) :
    braced name <:+: text := by
  obtain ⟨before, after, hpieces⟩ := List.append_of_mem h
  have hchars := flatMap_chars_pieces text
  rw [hpieces, List.flatMap_append, List.flatMap_cons] at hchars
  exact ⟨before.flatMap Piece.chars, after.flatMap Piece.chars, by
    rw [← hchars, Piece.chars, braced, List.append_assoc]⟩

theorem filledGroups_eq_nil {known : List Char → Bool} {text : List Char}
    (h : ∀ name, known name = true → ¬braced name <:+: text) : filledGroups known text = [] := by
  refine List.filter_eq_nil_iff.2 fun name hname hknown ↦ ?_
  obtain ⟨piece, hpiece, hpieceName⟩ := List.mem_filterMap.1 hname
  cases piece with
  | char c => cases hpieceName
  | group inside =>
    cases hpieceName
    exact h _ hknown (infix_of_mem_pieces hpiece)

section Substituting

variable {names : List String} {isKnown : List Char → Bool}
  (hnames : ∀ group, isKnown group = true ↔ ∃ name ∈ names, name.toList = group)
include hnames

/-- What is kept has no group to be filled. -/
theorem filledGroups_of_kept {kept : List Char}
    (h : ∀ name ∈ names, ¬placeholderText (some name) <:+: kept) :
    filledGroups isKnown kept = [] := by
  refine filledGroups_eq_nil fun group hgroup ↦ ?_
  obtain ⟨name, hname, rfl⟩ := (hnames group).1 hgroup
  exact h name hname

/-- The groups to be filled are those at which the text is cut. -/
theorem Cut.IsOf.substituteAtOnce_eq (hplain : ∀ name ∈ names, IsPlain name.toList) {cut : Cut}
    {template : List Char} (h : cut.IsOf names template) :
    substituteAtOnce isKnown template = cut.specified ∧
      filledGroups isKnown template = cut.placeholders.map String.toList := by
  obtain ⟨first, parts⟩ := cut
  have htext := h.text_eq
  subst htext
  have hfirst := filledGroups_of_kept hnames (h.kept first List.mem_cons_self)
  induction parts generalizing first with
  | nil =>
    have hself := (substituteAtOnce_eq_self hfirst).1
    simp only [Cut.text, Cut.partsText, Cut.specified, Cut.placeholders, List.flatMap_nil,
      List.append_nil]
    exact ⟨hself, hfirst⟩
  | cons part parts ih =>
    obtain ⟨name, kept⟩ := part
    have hmem : name ∈ names := h.isKnown name List.mem_cons_self
    have hbraces := (hplain name hmem).not_isBrace
    have hknown : isKnown name.toList = true := (hnames _).2 ⟨name, hmem, rfl⟩
    have hrest : (Cut.mk kept parts).IsOf names (Cut.mk kept parts).text :=
      ⟨rfl, fun other hother ↦ h.isKnown other (List.mem_cons_of_mem _ hother),
        fun other hother ↦ h.kept other (List.mem_cons_of_mem _ hother)⟩
    obtain ⟨hsubstitute, hgroups⟩ := ih kept hrest
      (filledGroups_of_kept hnames (hrest.kept kept List.mem_cons_self))
    have htext : (Cut.mk first ((name, kept) :: parts)).text =
        first ++ '{' :: (name.toList ++ '}' :: (Cut.mk kept parts).text) := by
      simp [Cut.text, Cut.partsText, placeholderText, nameText]
    rw [htext, substituteAtOnce_append_group hbraces hknown,
      filledGroups_append_group hbraces hknown, (substituteAtOnce_eq_self hfirst).1, hfirst,
      hsubstitute, hgroups]
    exact ⟨by simp [Cut.specified], rfl⟩

end Substituting

namespace Resource

/-- The placeholders that the path variables fill. -/
def placeholderNames (resource : Resource) : List String :=
  resource.pathVariables.values.filterMap Argument.placeholder

/-- The name of the last path variable with the placeholder. -/
def lastNamed? (resource : Resource) (placeholder : String) : Option (Option String) :=
  (resource.pathVariables.values.reverse.find? (·.placeholder = some placeholder)).map (·.name)

variable {resource : Resource}

/-- Of several variables with one placeholder the last one is registered for it. -/
theorem get?_placeholders_eq_lastNamed? (placeholder : String) :
    resource.placeholders.get? (some placeholder) = resource.lastNamed? placeholder := by
  rw [placeholders, lastNamed?]
  induction resource.pathVariables.values using List.reverseRecOn with
  | nil => rfl
  | append_singleton before v ih =>
    rw [List.map_append, List.map_singleton, Registry.get?_ofList_concat, List.reverse_append,
      List.reverse_singleton, List.singleton_append, List.find?_cons, ih]
    by_cases hv : v.placeholder = some placeholder
    · simp [hv]
    · simp [hv, Ne.symm hv]

theorem isSome_lastNamed?_iff {placeholder : String} :
    (resource.lastNamed? placeholder).isSome ↔ placeholder ∈ resource.placeholderNames := by
  simp [lastNamed?, placeholderNames]

variable (hplain : ∀ v ∈ resource.pathVariables.values,
  ∃ placeholder, v.placeholder = some placeholder ∧ placeholder ≠ "" ∧ IsPlain placeholder.toList)
include hplain

theorem isPlain_of_mem_placeholderNames {placeholder : String}
    (h : placeholder ∈ resource.placeholderNames) :
    placeholder ≠ "" ∧ IsPlain placeholder.toList := by
  obtain ⟨v, hv, hplaceholder⟩ := List.mem_filterMap.1 h
  obtain ⟨other, hother, hproper⟩ := hplain v hv
  rw [hplaceholder] at hother
  cases hother
  exact hproper

/-- Under the registered keys are the placeholders, none of which is missing. -/
theorem mem_keys_placeholders_iff {key : Option String} :
    key ∈ resource.placeholders.keys ↔
      ∃ placeholder ∈ resource.placeholderNames, key = some placeholder := by
  rw [Registry.mem_keys_iff]
  cases key with
  | none =>
    constructor
    · intro hsome
      obtain ⟨name, hname⟩ := Option.isSome_iff_exists.1 hsome
      obtain ⟨v, hv, heq⟩ := List.mem_map.1 (Registry.mem_of_get?_ofList hname)
      obtain ⟨placeholder, hplaceholder, -⟩ := hplain v hv
      rw [hplaceholder] at heq
      cases heq
    · rintro ⟨_, _, ⟨⟩⟩
  | some placeholder =>
    rw [get?_placeholders_eq_lastNamed?, isSome_lastNamed?_iff]
    exact ⟨fun h ↦ ⟨placeholder, h, rfl⟩, fun ⟨_, h, heq⟩ ↦ by cases heq; exact h⟩

/-- The placeholders may be replaced in any order. -/
theorem substitutePlaceholders_eq_specified {cut : Cut} {template : List Char}
    (hcut : cut.IsOf resource.placeholderNames template) {keys : List (Option String)}
    (hkeys : keys.Perm resource.placeholders.keys) :
    substitutePlaceholders keys template = cut.specified := by
  have hmem (key : Option String) : key ∈ keys ↔
      ∃ placeholder ∈ resource.placeholderNames, key = some placeholder := by
    rw [hkeys.mem_iff, mem_keys_placeholders_iff hplain]
  have hproper : ∀ key ∈ keys, IsPlain (nameText key).toList := by
    intro key hkey
    obtain ⟨placeholder, hplaceholder, rfl⟩ := (hmem key).1 hkey
    exact (isPlain_of_mem_placeholderNames hplain hplaceholder).2
  have hknown (group : List Char) :
      (keys.any fun key ↦ group == (nameText key).toList) = true ↔
        ∃ placeholder ∈ resource.placeholderNames, placeholder.toList = group := by
    rw [List.any_eq_true]
    constructor
    · rintro ⟨key, hkey, hgroup⟩
      obtain ⟨placeholder, hplaceholder, rfl⟩ := (hmem key).1 hkey
      exact ⟨placeholder, hplaceholder, (eq_of_beq hgroup).symm⟩
    · rintro ⟨placeholder, hplaceholder, rfl⟩
      exact ⟨some placeholder, (hmem _).2 ⟨placeholder, hplaceholder, rfl⟩, BEq.rfl⟩
  rw [substitutePlaceholders_eq_substituteAtOnce hproper]
  exact (hcut.substituteAtOnce_eq hknown fun placeholder hplaceholder ↦
    (isPlain_of_mem_placeholderNames hplain hplaceholder).2).1

theorem fills_iff (group : List Char) : resource.fills group = true ↔
    ∃ placeholder ∈ resource.placeholderNames, placeholder.toList = group := by
  rw [fills, filledBy?, get?_placeholders_eq_lastNamed?, Bool.and_eq_true, isSome_lastNamed?_iff]
  constructor
  · rintro ⟨-, hgroup⟩
    exact ⟨_, hgroup, String.toList_ofList⟩
  · rintro ⟨placeholder, hplaceholder, rfl⟩
    have hne := (isPlain_of_mem_placeholderNames hplain hplaceholder).1
    rw [String.ofList_toList]
    refine ⟨?_, hplaceholder⟩
    simpa using hne

/-- Each replaced placeholder is recorded by the last variable that fills it, from the left. -/
theorem map_some_argumentOrder {cut : Cut} {template : List Char}
    (hcut : cut.IsOf resource.placeholderNames template) :
    (argumentOrder .textual resource.placeholders template).map some =
      cut.placeholders.map resource.lastNamed? := by
  have hgroups := (hcut.substituteAtOnce_eq (fills_iff hplain) fun placeholder hplaceholder ↦
    (isPlain_of_mem_placeholderNames hplain hplaceholder).2).2
  have hfilled : (bracedGroups false template).filterMap resource.filledBy? =
      (filledGroups resource.fills template).filterMap resource.filledBy? := by
    rw [filledGroups_fills, List.filterMap_filter]
    refine List.filterMap_congr fun group _ ↦ ?_
    cases resource.filledBy? group <;> rfl
  calc
    _ = ((bracedGroups false template).filterMap resource.filledBy?).map some := rfl
    _ = (cut.placeholders.filterMap resource.lastNamed?).map some := by
      rw [hfilled, hgroups, List.filterMap_map]
      congr 2
      funext placeholder
      rw [Function.comp_apply, filledBy?, String.ofList_toList, get?_placeholders_eq_lastNamed?]
    _ = cut.placeholders.map resource.lastNamed? := by
      have hsome : ∀ placeholder ∈ cut.placeholders, (resource.lastNamed? placeholder).isSome :=
        fun placeholder hplaceholder ↦
          isSome_lastNamed?_iff.2 (hcut.isKnown placeholder hplaceholder)
      generalize cut.placeholders = placeholders at hsome
      induction placeholders with
      | nil => rfl
      | cons placeholder placeholders ih =>
        obtain ⟨name, hname⟩ := Option.isSome_iff_exists.1 (hsome placeholder List.mem_cons_self)
        rw [List.filterMap_cons_some hname, List.map_cons, List.map_cons, hname,
          ih fun other hother ↦ hsome other (List.mem_cons_of_mem _ hother)]

end Resource

/-! ## Models -/

/-- What a controller holds besides the contents of its endpoints. -/
def Controller.frame (controller : Controller) : Option String × List String × List String :=
  (controller.packageName, controller.imports, controller.resources.keys)

/-- Normalizing in textual order turns all placeholders of a resource into format specifiers at
once and leaves everything else in its template alone, in whichever order the placeholders are
replaced. The variables are recorded from the left, of several with one placeholder the last one.
Resources without path variables or without a template stay as they are, and so does everything
else in a model. -/
theorem normalize_textual_at_once (model : Model) :
    let normalized := model.normalize .textual
    (normalized.controllers.keys = model.controllers.keys ∧
      ∀ controller, (normalized.controller? controller).map Controller.frame =
        (model.controller? controller).map Controller.frame) ∧
    (∀ controller key, normalized.resource? controller key = none ↔
      model.resource? controller key = none) ∧
    ∀ controller key resource, model.resource? controller key = some resource →
      (resource.template = none ∨ resource.pathVariables.isEmpty →
        normalized.resource? controller key = some resource) ∧
      ∀ template, resource.template = some template → resource.pathVariables.isEmpty = false →
        (∀ v ∈ resource.pathVariables.values, ∃ placeholder, v.placeholder = some placeholder ∧
          placeholder ≠ "" ∧ IsPlain placeholder.toList) →
        ∃ cut : Cut, cut.IsOf resource.placeholderNames template.toList ∧
          (∀ other : Cut, other.IsOf resource.placeholderNames template.toList → other = cut) ∧
          (∀ keys : List (Option String), keys.Perm resource.placeholders.keys →
            Resource.substitutePlaceholders keys template.toList = cut.specified) ∧
          ∃ names, names.map some = cut.placeholders.map resource.lastNamed? ∧
            normalized.resource? controller key = some { resource with
              template := some (.ofList cut.specified)
              formatArguments := names } := by
  intro normalized
  have hresource (controller key : String) : normalized.resource? controller key =
      (model.resource? controller key).map (Resource.normalize .textual) :=
    model.resource?_mapResources _ controller key
  refine ⟨⟨Registry.keys_mapValues _ _, fun controller ↦ ?_⟩, fun controller key ↦ ?_,
    fun controller key resource hmem ↦ ?_⟩
  · rw [show normalized.controller? controller = _ from Registry.get?_mapValues _ _ controller,
      Option.map_map]
    refine congrArg (Option.map · _) (funext fun c ↦ ?_)
    rw [Function.comp_apply, Controller.frame, Registry.keys_mapValues]
    rfl
  · rw [hresource, Option.map_eq_none_iff]
  · rw [hresource, hmem, Option.map_some]
    refine ⟨?_, fun template htemplate hvariables hplain ↦ ?_⟩
    · rintro (hnone | hempty)
      · rw [Resource.normalize, hnone]
      · rw [Resource.normalize]
        split
        · rfl
        · rw [if_pos hempty]
    · obtain ⟨cut, hcut⟩ := Cut.exists_isOf resource.placeholderNames template.toList
      have hnames : ∀ placeholder ∈ resource.placeholderNames, IsPlain placeholder.toList :=
        fun placeholder h ↦ (Resource.isPlain_of_mem_placeholderNames hplain h).2
      refine ⟨cut, hcut, fun other hother ↦ hother.eq hnames hcut, fun keys hkeys ↦
        Resource.substitutePlaceholders_eq_specified hplain hcut hkeys,
        _, Resource.map_some_argumentOrder hplain hcut, ?_⟩
      rw [Resource.normalize, htemplate]
      simp only [hvariables, Bool.false_eq_true, if_false]
      rw [Resource.substitutePlaceholders_eq_specified hplain hcut (List.Perm.refl _)]

/-- Two variables share a placeholder, which stands in braces of its own, behind a group that no
variable fills, and before a brace that is never closed. -/
theorem normalize_textual_at_once_shared :
    let resource : Resource :=
      { template := some "/\x7b\x7bid\x7d\x7d/\x7bx\x7d\x7b\x7d/\x7bid\x7d%/\x7bid"
        responseType := some "T"
        pathVariables := .ofList
          [(some "a", ⟨some "a", none, some "id"⟩), (some "id", ⟨some "id", some "Long", none⟩)] }
    let model : Model := (∅ : Model).updateResource "A" "A.f()" fun _ ↦ resource
    (model.normalize .textual).resource? "A" "A.f()" = some { resource with
      template := some "/\x7b%s\x7d/\x7bx\x7d\x7b\x7d/%s%/\x7bid"
      formatArguments := [some "id", some "id"] } := by
  intro resource model
  have hresource : model.resource? "A" "A.f()" = some resource := by decide +kernel
  have hplain : ∀ v ∈ resource.pathVariables.values, ∃ placeholder,
      v.placeholder = some placeholder ∧ placeholder ≠ "" ∧ IsPlain placeholder.toList := by
    intro v hv
    have hid : v.placeholder = some "id" := by
      revert v
      decide +kernel
    exact ⟨"id", hid, by decide, by decide⟩
  let cut : Cut :=
    ⟨"/\x7b".toList, [("id", "\x7d/\x7bx\x7d\x7b\x7d/".toList), ("id", "%/\x7bid".toList)]⟩
  obtain ⟨found, -, honly, -, names, hnames, hnormalized⟩ :=
    ((normalize_textual_at_once model).2.2 "A" "A.f()" resource hresource).2 _ rfl
      (by decide +kernel) hplain
  obtain rfl : cut = found := honly cut (by decide +kernel)
  have hlast : cut.placeholders.map resource.lastNamed? = [some "id", some "id"].map some := by
    decide +kernel
  obtain rfl : names = [some "id", some "id"] :=
    List.map_injective_iff.2 (fun _ _ ↦ Option.some.inj) (hnames.trans hlast)
  rw [hnormalized]
  decide +kernel

end EndpointStubs
