import EndpointStubs.Fact.Scan
import EndpointStubs.Proofs.EndpointFacts
import EndpointStubs.Proofs.FormatString
import EndpointStubs.Proofs.RegistryOrder
import EndpointStubs.Proofs.SubstitutionLength
import Mathlib.Data.List.Basic

/-!
# Format arguments match the template

A normalized template is a format string for its format arguments if it has a
`%s` for each of them, no other conversion, and gives back the raw template when
the placeholders of the arguments are filled in. That is so exactly if the raw
template has no percent sign outside the groups that the path variables fill,
and the placeholders are replaced as if at once: percent signs are not escaped,
and a placeholder may be made or lost by replacing another one.
-/

namespace EndpointStubs

variable {known : List Char → Bool}

/-- The known groups of a text, from the left. -/
def filledGroups (known : List Char → Bool) (text : List Char) : List (List Char) :=
  ((pieces text).filterMap Piece.name?).filter known

/-- What is left of a piece when the known groups are taken out. -/
def Piece.outside (known : List Char → Bool) : Piece → List Char
  | char c => [c]
  | group name => if known name then [] else '{' :: name ++ ['}']

/-- The characters of a text outside its known groups. -/
def outsideGroups (known : List Char → Bool) (text : List Char) : List Char :=
  (pieces text).flatMap (Piece.outside known)

def braced (group : List Char) : List Char :=
  '{' :: group ++ ['}']

/-- A piece of a template as pieces of a format string. -/
def Piece.format (known : List Char → Bool) : Piece → List FormatPiece
  | char c => [.text c]
  | group name => if known name then [.conversion ['s']] else (braced name).map .text

theorem formatPieces?_map_text {before text : List Char} (h : '%' ∉ before) :
    formatPieces? (before ++ text) =
      (formatPieces? text).map (before.map FormatPiece.text ++ ·) := by
  induction before with
  | nil => simp
  | cons c before ih =>
    rw [List.mem_cons, not_or] at h
    rw [List.cons_append, formatPieces?_cons_of_ne (Ne.symm h.1), ih h.2, Option.map_map]
    rfl

/-- Without percent signs outside the known groups, the pieces of the template are the pieces of
the format string. -/
theorem formatPieces?_flatMap_filled {ps : List Piece}
    (h : '%' ∉ ps.flatMap (Piece.outside known)) :
    formatPieces? (ps.flatMap (Piece.filled known)) = some (ps.flatMap (Piece.format known)) := by
  induction ps with
  | nil => rw [List.flatMap_nil, List.flatMap_nil, formatPieces?]
  | cons piece ps ih =>
    rw [List.flatMap_cons, List.mem_append, not_or] at h
    rw [List.flatMap_cons, List.flatMap_cons]
    cases piece with
    | char c =>
      have hc : '%' ∉ [c] := h.1
      rw [Piece.filled, Piece.format, formatPieces?_map_text hc, ih h.2]
      rfl
    | group name =>
      cases hname : known name with
      | true =>
        simp only [Piece.filled, Piece.format, hname, if_true]
        rw [List.cons_append, List.cons_append, List.nil_append, formatPieces?_specifier, ih h.2]
        rfl
      | false =>
        have houtside := h.1
        simp only [Piece.outside, hname, if_false, Bool.false_eq_true] at houtside
        simp only [Piece.filled, Piece.format, hname, if_false, Bool.false_eq_true]
        rw [formatPieces?_map_text houtside, ih h.2]
        rfl

theorem fillIn_map_text (before : List Char) (rest : List FormatPiece)
    (arguments : List (List Char)) :
    fillIn (before.map FormatPiece.text ++ rest) arguments =
      (fillIn rest arguments).map (before ++ ·) := by
  induction before with
  | nil => simp
  | cons c before ih =>
    rw [List.map_cons, List.cons_append, fillIn, ih, Option.map_map]
    rfl

/-- Filling in the known groups gives the template back. -/
theorem fillIn_flatMap_format (known : List Char → Bool) (ps : List Piece) :
    fillIn (ps.flatMap (Piece.format known))
      (((ps.filterMap Piece.name?).filter known).map braced) = some (ps.flatMap Piece.chars) := by
  induction ps with
  | nil => rfl
  | cons piece ps ih =>
    rw [List.flatMap_cons, List.flatMap_cons]
    cases piece with
    | char c =>
      rw [List.filterMap_cons_none rfl, Piece.format, List.singleton_append, fillIn, ih]
      rfl
    | group name =>
      rw [List.filterMap_cons_some (f := Piece.name?) (b := name) rfl]
      cases hname : known name with
      | true =>
        rw [List.filter_cons_of_pos hname, Piece.format, if_pos hname, List.singleton_append,
          List.map_cons, fillIn, ih]
        rfl
      | false =>
        have hskip : ¬known name = true := by simp [hname]
        rw [List.filter_cons_of_neg hskip, Piece.format, if_neg hskip, fillIn_map_text, ih]
        rfl

/-- There is a `%s` for each known group, and no other conversion. -/
theorem filterMap_spec?_flatMap_format (ps : List Piece) :
    (ps.flatMap (Piece.format known)).filterMap FormatPiece.spec? =
      List.replicate ((ps.filterMap Piece.name?).filter known).length ['s'] := by
  have htext (text : List Char) :
      (text.map FormatPiece.text).filterMap FormatPiece.spec? = [] := by
    rw [List.filterMap_map]
    exact List.filterMap_eq_nil_iff.2 fun _ _ ↦ rfl
  induction ps with
  | nil => rfl
  | cons piece ps ih =>
    rw [List.flatMap_cons, List.filterMap_append, ih]
    cases piece with
    | char c =>
      rw [List.filterMap_cons_none rfl, Piece.format]
      rfl
    | group name =>
      rw [List.filterMap_cons_some (f := Piece.name?) (b := name) rfl]
      cases hname : known name with
      | true =>
        rw [List.filter_cons_of_pos hname, Piece.format, if_pos hname, List.length_cons,
          List.replicate_succ]
        rfl
      | false =>
        have hskip : ¬known name = true := by simp [hname]
        rw [List.filter_cons_of_neg hskip, Piece.format, if_neg hskip, htext, List.nil_append]

theorem substituteAtOnce_eq_self {text : List Char} (h : filledGroups known text = []) :
    substituteAtOnce known text = text ∧ outsideGroups known text = text := by
  have hpiece : ∀ piece ∈ pieces text, Piece.filled known piece = piece.chars ∧
      Piece.outside known piece = piece.chars := by
    intro piece hpiece
    cases piece with
    | char c => exact ⟨rfl, rfl⟩
    | group name =>
      have hname : ¬known name = true := by
        intro hname
        have hmem : name ∈ filledGroups known text :=
          List.mem_filter.2 ⟨List.mem_filterMap.2 ⟨_, hpiece, rfl⟩, hname⟩
        rw [h] at hmem
        cases hmem
      exact ⟨if_neg hname, if_neg hname⟩
  have hchars := flatMap_chars_pieces text
  constructor
  · rw [substituteAtOnce, List.flatMap_congr fun piece hmem ↦ (hpiece piece hmem).1, hchars]
  · rw [outsideGroups, List.flatMap_congr fun piece hmem ↦ (hpiece piece hmem).2, hchars]

section Group

variable {name : List Char} (h : ∀ c ∈ name, isBrace c = false) (hknown : known name = true)
  (before tail : List Char)

include h hknown

theorem filledGroups_append_group :
    filledGroups known (before ++ '{' :: (name ++ '}' :: tail)) =
      filledGroups known before ++ name :: filledGroups known tail := by
  rw [filledGroups, pieces_append_group h, List.filterMap_append,
    List.filterMap_cons_some (f := Piece.name?) (b := name) rfl, List.filter_append,
    List.filter_cons_of_pos hknown]
  rfl

theorem substituteAtOnce_append_group :
    substituteAtOnce known (before ++ '{' :: (name ++ '}' :: tail)) =
      substituteAtOnce known before ++ '%' :: 's' :: substituteAtOnce known tail := by
  rw [substituteAtOnce, pieces_append_group h, List.flatMap_append, List.flatMap_cons,
    Piece.filled, if_pos hknown]
  rfl

theorem outsideGroups_append_group :
    outsideGroups known (before ++ '{' :: (name ++ '}' :: tail)) =
      outsideGroups known before ++ outsideGroups known tail := by
  rw [outsideGroups, pieces_append_group h, List.flatMap_append, List.flatMap_cons,
    Piece.outside, if_pos hknown, List.nil_append]
  rfl

end Group

/-- How a piece is written if percent signs are not escaped. -/
def FormatPiece.unescaped : FormatPiece → List Char
  | text c => [c]
  | conversion spec => '%' :: spec

/-- The text has at least so many filled groups. If it has no others, it becomes `substituted` when
they are replaced, and `outside` is what stands outside of them. -/
structure FilledAs (known : List Char → Bool) (text : List Char) (count : Nat)
    (substituted outside : List Char) : Prop where
  count_le : count ≤ (filledGroups known text).length
  eq_of_length : (filledGroups known text).length = count →
    substituteAtOnce known text = substituted ∧ outsideGroups known text = outside

theorem filledAs_self (known : List Char → Bool) (text : List Char) :
    FilledAs known text 0 text text :=
  ⟨Nat.zero_le _, fun hlength ↦ substituteAtOnce_eq_self (List.length_eq_zero_iff.1 hlength)⟩

/-- A filled group more. If it is to be the first one, the text before it has none. -/
theorem FilledAs.append_group {group : List Char} (hbraces : ∀ c ∈ group, isBrace c = false)
    (hknown : known group = true) {rest substituted outside : List Char} {count : Nat}
    (h : FilledAs known rest count substituted outside) (before : List Char) :
    FilledAs known (before ++ '{' :: (group ++ '}' :: rest)) (count + 1)
      (before ++ '%' :: 's' :: substituted) (before ++ outside) := by
  have hle := h.count_le
  have hlength : (filledGroups known (before ++ '{' :: (group ++ '}' :: rest))).length =
      (filledGroups known before).length + ((filledGroups known rest).length + 1) := by
    rw [filledGroups_append_group hbraces hknown, List.length_append, List.length_cons]
  constructor
  · omega
  · intro hcount
    have hbefore : (filledGroups known before).length = 0 := by omega
    obtain ⟨hself, hself'⟩ := substituteAtOnce_eq_self (List.length_eq_zero_iff.1 hbefore)
    obtain ⟨hsubstituted, houtside⟩ := h.eq_of_length (by omega)
    rw [substituteAtOnce_append_group hbraces hknown, outsideGroups_append_group hbraces hknown,
      hself, hself', hsubstituted, houtside]
    exact ⟨rfl, rfl⟩

/-- A text that a format string gives for known groups has at least these groups. If it has no
others, the format string is the text with its groups replaced, up to escapes. -/
theorem filledAs_of_fillIn {format : List FormatPiece} {groups : List (List Char)}
    (hspecs : format.filterMap FormatPiece.spec? = List.replicate groups.length ['s'])
    (hgroups : ∀ group ∈ groups, (∀ c ∈ group, isBrace c = false) ∧ known group = true)
    {rest : List Char} (hfill : fillIn format (groups.map braced) = some rest)
    (before : List Char) :
    FilledAs known (before ++ rest) groups.length (before ++ format.flatMap FormatPiece.unescaped)
      (before ++ format.filterMap FormatPiece.text?) := by
  induction format generalizing groups rest before with
  | nil =>
    cases hfill
    have hnil : groups = [] := by
      rw [List.filterMap_nil] at hspecs
      exact List.length_eq_zero_iff.1 ((List.replicate_eq_nil_iff _).1 hspecs.symm)
    rw [hnil]
    exact filledAs_self known (before ++ [])
  | cons piece format ih =>
    cases piece with
    | text c =>
      obtain ⟨rest', hrest', rfl⟩ := Option.map_eq_some_iff.1 hfill
      have hnext := ih hspecs hgroups hrest' (before ++ [c])
      simp only [List.append_assoc, List.singleton_append] at hnext
      exact hnext
    | conversion spec =>
      match groups with
      | [] => cases hfill
      | group :: groups =>
        obtain ⟨rest', hrest', rfl⟩ := Option.map_eq_some_iff.1 hfill
        rw [List.filterMap_cons_some (f := FormatPiece.spec?) (b := spec) rfl, List.length_cons,
          List.replicate_succ, List.cons.injEq] at hspecs
        obtain ⟨rfl, hspecs⟩ := hspecs
        obtain ⟨hbraces, hknown⟩ := hgroups group List.mem_cons_self
        have hnext := ih hspecs (fun g hg ↦ hgroups g (List.mem_cons_of_mem _ hg)) hrest' []
        have htext : before ++ (braced group ++ rest') =
            before ++ '{' :: (group ++ '}' :: rest') := by
          simp [braced]
        rw [htext]
        exact hnext.append_group hbraces hknown before

/-- A format string that is not longer than its unescaped pieces escapes nothing. -/
theorem not_mem_of_length_le {format : List FormatPiece}
    (h : (format.flatMap FormatPiece.chars).length ≤
      (format.flatMap FormatPiece.unescaped).length) :
    '%' ∉ format.filterMap FormatPiece.text? ∧
      format.flatMap FormatPiece.chars = format.flatMap FormatPiece.unescaped := by
  have hle (piece : FormatPiece) : piece.unescaped.length ≤ piece.chars.length := by
    cases piece with
    | text c =>
      rw [FormatPiece.chars]
      split <;> simp [FormatPiece.unescaped]
    | conversion spec => exact le_refl _
  have hall (format : List FormatPiece) : (format.flatMap FormatPiece.unescaped).length ≤
      (format.flatMap FormatPiece.chars).length := by
    induction format with
    | nil => exact le_refl 0
    | cons piece format ih =>
      rw [List.flatMap_cons, List.flatMap_cons, List.length_append, List.length_append]
      exact Nat.add_le_add (hle piece) ih
  induction format with
  | nil => exact ⟨List.not_mem_nil, rfl⟩
  | cons piece format ih =>
    rw [List.flatMap_cons, List.flatMap_cons, List.length_append, List.length_append] at h
    have hpiece := hle piece
    have hrest := hall format
    obtain ⟨hmem, hchars⟩ := ih (by omega)
    rw [List.flatMap_cons, List.flatMap_cons, hchars]
    cases piece with
    | text c =>
      have hc : c ≠ '%' := by
        rintro rfl
        have hescaped : (FormatPiece.text '%').chars.length = 2 := rfl
        have hplain : (FormatPiece.text '%').unescaped.length = 1 := rfl
        omega
      rw [List.filterMap_cons_some (f := FormatPiece.text?) (b := c) rfl, List.mem_cons, not_or,
        FormatPiece.chars, if_neg hc]
      exact ⟨⟨Ne.symm hc, hmem⟩, rfl⟩
    | conversion spec => exact ⟨hmem, rfl⟩

/-- When a text with conversions for the known groups of a template gives back the template. -/
theorem formatsBack_iff_of_length_le {template normalized : List Char}
    (h : normalized.length ≤ (substituteAtOnce known template).length) :
    (∃ format, formatPieces? normalized = some format ∧
      format.filterMap FormatPiece.spec? =
        List.replicate (filledGroups known template).length ['s'] ∧
      fillIn format ((filledGroups known template).map braced) = some template) ↔
    '%' ∉ outsideGroups known template ∧ normalized = substituteAtOnce known template := by
  constructor
  · rintro ⟨format, hformat, hspecs, hfill⟩
    have hgroups : ∀ group ∈ filledGroups known template,
        (∀ c ∈ group, isBrace c = false) ∧ known group = true := by
      intro group hgroup
      obtain ⟨hmem, hknown⟩ := List.mem_filter.1 hgroup
      exact ⟨not_isBrace_of_mem_filterMap_pieces hmem, hknown⟩
    obtain ⟨hsubstitute, houtside⟩ := (filledAs_of_fillIn hspecs hgroups hfill []).eq_of_length rfl
    rw [List.nil_append, List.nil_append] at hsubstitute houtside
    have hchars := flatMap_chars_formatPieces? hformat
    rw [hsubstitute, ← hchars] at h
    obtain ⟨hpercent, hunescaped⟩ := not_mem_of_length_le h
    exact ⟨by rwa [houtside], by rw [hsubstitute, ← hchars, hunescaped]⟩
  · rintro ⟨hpercent, rfl⟩
    refine ⟨_, formatPieces?_flatMap_filled hpercent, filterMap_spec?_flatMap_format _, ?_⟩
    have hfill := fillIn_flatMap_format known (pieces template)
    rw [flatMap_chars_pieces] at hfill
    exact hfill

namespace Resource

/-- What the format call of an endpoint gives for the placeholders of its arguments; none, unless
the template has a `%s` for each argument and no other conversion. -/
def formatted? (resource : Resource) : Option (List Char) := do
  let template ← resource.template
  let format ← formatPieces? template.toList
  let found ← resource.formatArguments.mapM resource.pathVariables.get?
  if format.filterMap FormatPiece.spec? =
      List.replicate resource.formatArguments.length ['s'] then
    fillIn format (found.map fun v ↦ placeholderText v.placeholder)
  else none

theorem formatted?_eq_some_iff {resource : Resource} {template : String} {found : List Argument}
    {text : List Char} (htemplate : resource.template = some template)
    (hfound : resource.formatArguments.mapM resource.pathVariables.get? = some found) :
    resource.formatted? = some text ↔ ∃ format, formatPieces? template.toList = some format ∧
      format.filterMap FormatPiece.spec? =
        List.replicate resource.formatArguments.length ['s'] ∧
      fillIn format (found.map fun v ↦ placeholderText v.placeholder) = some text := by
  rw [formatted?, htemplate, hfound]
  simp only [Option.bind_eq_bind, Option.bind_some, Option.bind_eq_some_iff,
    Option.ite_none_right_eq_some]

/-- The name of the path variable that fills a group. -/
def filledBy? (resource : Resource) (group : List Char) : Option (Option String) :=
  resource.placeholders.get? (some (.ofList group))

def fills (resource : Resource) (group : List Char) : Bool :=
  !group.isEmpty && (resource.filledBy? group).isSome

variable {raw : Resource}

theorem exists_variable_of_filledBy?
    (hnamed : ∀ name v, raw.pathVariables.get? name = some v → v.name = name)
    {group : List Char} {name : Option String} (h : raw.filledBy? group = some name) :
    ∃ v, raw.pathVariables.get? name = some v ∧ placeholderText v.placeholder = braced group := by
  obtain ⟨v, hv, hplaceholder⟩ := exists_variable_of_get?_placeholders hnamed h
  refine ⟨v, hv, ?_⟩
  rw [hplaceholder, placeholderText, nameText, Option.getD_some, String.toList_ofList]
  rfl

/-- The format arguments are found again, and their placeholders are the groups they fill. -/
theorem exists_variables
    (hnamed : ∀ name v, raw.pathVariables.get? name = some v → v.name = name)
    (groups : List (List Char)) :
    ∃ found, (groups.filterMap raw.filledBy?).mapM raw.pathVariables.get? = some found ∧
      found.map (fun v ↦ placeholderText v.placeholder) =
        (groups.filter fun group ↦ (raw.filledBy? group).isSome).map braced := by
  induction groups with
  | nil => exact ⟨[], rfl, rfl⟩
  | cons group groups ih =>
    obtain ⟨found, hfound, htexts⟩ := ih
    cases hname : raw.filledBy? group with
    | none =>
      refine ⟨found, ?_, ?_⟩
      · rw [List.filterMap_cons_none hname, hfound]
      · rw [htexts, List.filter_cons_of_neg (by simp [hname])]
    | some name =>
      obtain ⟨v, hv, hplaceholder⟩ := exists_variable_of_filledBy? hnamed hname
      refine ⟨v :: found, ?_, ?_⟩
      · rw [List.filterMap_cons_some hname, List.mapM_cons, hv, hfound]
        rfl
      · rw [List.map_cons, htexts, List.filter_cons_of_pos (by simp [hname]), hplaceholder,
          List.map_cons]

theorem filledGroups_fills (text : List Char) :
    filledGroups raw.fills text =
      (bracedGroups false text).filter fun group ↦ (raw.filledBy? group).isSome := by
  rw [filledGroups, bracedGroups_eq_filterMap_pieces, List.filter_filter]
  congr 1
  funext group
  rw [fills, Bool.false_or, Bool.and_comm]

theorem length_substitutePlaceholders_le_fills (raw : Resource) (text : List Char) :
    (substitutePlaceholders raw.placeholders.keys text).length ≤
      (substituteAtOnce raw.fills text).length := by
  refine (length_substitutePlaceholders_le _ text).trans (length_substituteAtOnce_anti ?_ text)
  intro group hgroup
  rw [fills, Bool.and_eq_true, filledBy?, ← Registry.mem_keys_iff] at hgroup
  exact List.any_eq_true.2 ⟨_, hgroup.2, by simp [nameText]⟩

/-- Only an endpoint with a template gets format arguments: the variables that fill its groups. -/
theorem exists_template_of_formatArguments_ne_nil (hraw : raw.formatArguments = [])
    (hne : (raw.normalize .textual).formatArguments ≠ []) :
    ∃ template, raw.template = some template ∧ raw.normalize .textual =
      { raw with
        template := some (.ofList
          (substitutePlaceholders raw.placeholders.keys template.toList))
        formatArguments := (bracedGroups false template.toList).filterMap raw.filledBy? } := by
  unfold normalize at hne ⊢
  cases htemplate : raw.template with
  | none =>
    rw [htemplate] at hne
    exact absurd hraw hne
  | some template =>
    refine ⟨template, rfl, ?_⟩
    rw [htemplate] at hne
    dsimp only at hne
    split at hne
    · exact absurd hraw hne
    · rename_i hvariables
      exact if_neg hvariables

/-- The format call of a normalized endpoint with arguments gives back the raw template if and only
if the template has no percent sign outside the groups that are filled, and the placeholders are
replaced as if at once. -/
theorem formatted?_normalize_iff
    (hnamed : ∀ name v, raw.pathVariables.get? name = some v → v.name = name)
    (hraw : raw.formatArguments = []) (hne : (raw.normalize .textual).formatArguments ≠ []) :
    ∃ template, raw.template = some template ∧
      ((raw.normalize .textual).formatted? = some template.toList ↔
        '%' ∉ outsideGroups raw.fills template.toList ∧
        (raw.normalize .textual).template =
          some (.ofList (substituteAtOnce raw.fills template.toList))) := by
  obtain ⟨template, htemplate, hnormalize⟩ := exists_template_of_formatArguments_ne_nil hraw hne
  obtain ⟨found, hfound, htexts⟩ := exists_variables hnamed (bracedGroups false template.toList)
  have hlength : ((bracedGroups false template.toList).filterMap raw.filledBy?).length =
      (filledGroups raw.fills template.toList).length := by
    rw [List.length_filterMap_eq_countP, List.countP_eq_length_filter, filledGroups_fills]
  have hiff := formatsBack_iff_of_length_le
    (length_substitutePlaceholders_le_fills raw template.toList)
  refine ⟨template, htemplate, ?_⟩
  rw [hnormalize, formatted?_eq_some_iff rfl hfound, String.toList_ofList, htexts, hlength,
    ← filledGroups_fills, hiff, Option.some.injEq]
  refine and_congr_right fun _ ↦ ⟨congrArg String.ofList, fun heq ↦ ?_⟩
  have hlists := congrArg String.toList heq
  rwa [String.toList_ofList, String.toList_ofList] at hlists

end Resource

/-! ## Endpoints of sources -/

/-- For every endpoint of a round of sources whose template takes arguments: the format call gives
back the raw template if and only if this has no percent sign outside the groups that the path
variables fill, and the placeholders are replaced as if at once. -/
theorem formatted?_roundModel_iff {sources : List String} {controller key : String}
    {raw resource : Resource}
    (hraw : ((∅ : Model).foldAll (sources.flatMap scan)).resource? controller key = some raw)
    (hresource : (roundModel .textual (sources.flatMap scan)).resource? controller key =
      some resource)
    (hne : resource.formatArguments ≠ []) :
    ∃ template, raw.template = some template ∧
      (resource.formatted? = some template.toList ↔
        '%' ∉ outsideGroups raw.fills template.toList ∧
        resource.template = some (.ofList (substituteAtOnce raw.fills template.toList))) := by
  have hsummary := Model.foldAll_summary [] (sources.flatMap scan)
  have hmodel := hsummary ▸ hraw
  obtain ⟨raw', hraw', rfl⟩ := resource?_roundModel.1 hresource
  obtain rfl : raw' = raw := Option.some.inj (hraw'.symm.trans hmodel)
  obtain ⟨-, rfl⟩ := Model.resource?_summary.1 hraw'
  refine Resource.formatted?_normalize_iff (fun name v hv ↦ ?_) rfl hne
  obtain ⟨fact, -, -, hname, rfl⟩ := exists_fact_of_get?_parameters hv
  exact hname

/-- A placeholder that is used twice is an argument twice, and both are filled in. -/
theorem formatted?_roundModel_repeated :
    let sources := ["@RestController class A \x7b
      @GetMapping(\"/\x7bid\x7d/\x7bid\x7d\") String f(@PathVariable(\"id\") Long a) \x7b return a; \x7d \x7d"]
    let raw : Resource :=
      { methodName := some "F", httpMethod := some .get, responseType := some "String",
        template := some "/\x7bid\x7d/\x7bid\x7d", hasPathVariable := true,
        pathVariables := .ofList [(some "a", ⟨some "a", some "Long", some "id"⟩)] }
    ((∅ : Model).foldAll (sources.flatMap scan)).resource? "A" "A.f(Long)" = some raw ∧
      (roundModel .textual (sources.flatMap scan)).resource? "A" "A.f(Long)" =
        some (raw.normalize .textual) ∧
      (raw.normalize .textual).formatted? = some "/\x7bid\x7d/\x7bid\x7d".toList := by
  intro sources raw
  have hraw : ((∅ : Model).foldAll (sources.flatMap scan)).resource? "A" "A.f(Long)" =
      some raw := by
    decide +kernel
  have hresource : (roundModel .textual (sources.flatMap scan)).resource? "A" "A.f(Long)" =
      some (raw.normalize .textual) := by
    decide +kernel
  obtain ⟨template, htemplate, hiff⟩ := formatted?_roundModel_iff hraw hresource (by decide +kernel)
  cases htemplate
  exact ⟨hraw, hresource, hiff.2 (by decide +kernel)⟩

/-- A percent sign in a path is taken for a conversion, so the format call fails. -/
theorem formatted?_ne_of_percent :
    let sources := ["@RestController class A \x7b
      @GetMapping(\"/a%20b/\x7bid\x7d\") String f(@PathVariable Long id) \x7b return null; \x7d \x7d"]
    let raw : Resource :=
      { methodName := some "F", httpMethod := some .get, responseType := some "String",
        template := some "/a%20b/\x7bid\x7d", hasPathVariable := true,
        pathVariables := .ofList [(some "id", ⟨some "id", some "Long", none⟩)] }
    ((∅ : Model).foldAll (sources.flatMap scan)).resource? "A" "A.f(Long)" = some raw ∧
      (roundModel .textual (sources.flatMap scan)).resource? "A" "A.f(Long)" =
        some (raw.normalize .textual) ∧
      (raw.normalize .textual).formatArguments = [some "id"] ∧
      (raw.normalize .textual).formatted? = none := by
  decide +kernel

end EndpointStubs
