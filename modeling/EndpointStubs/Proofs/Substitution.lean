import EndpointStubs.Model.Template
import Mathlib.Data.List.TakeWhile

/-!
# Substitution at once

A template read as single characters and innermost groups in braces, and the
substitution that replaces all groups of a set at once. Replacing placeholders
one after the other has the same effect as long as none of them holds a brace or
a percent sign: then a replacement neither makes a placeholder nor breaks one,
and the order of the replacements does not matter.
-/

namespace EndpointStubs

namespace Text

theorem replaceAll_of_after?_eq_some {pattern new text rest : List Char} (hne : pattern ≠ [])
    (h : after? pattern text = some rest) :
    replaceAll pattern new text = new ++ replaceAll pattern new rest := by
  cases text with
  | nil =>
    have hnil : pattern = [] := List.append_eq_nil_iff.1 (after?_eq_some_iff.1 h).symm |>.1
    exact absurd hnil hne
  | cons c tail =>
    rw [replaceAll, dif_neg hne]
    split
    · rename_i hrest
      rw [h] at hrest
      cases hrest
      rfl
    · rename_i hnone
      rw [h] at hnone
      cases hnone

theorem replaceAll_of_after?_eq_none {pattern new tail : List Char} {c : Char}
    (h : after? pattern (c :: tail) = none) :
    replaceAll pattern new (c :: tail) = c :: replaceAll pattern new tail := by
  have hne : pattern ≠ [] := by
    rintro rfl
    cases h
  rw [replaceAll, dif_neg hne]
  split
  · rename_i hrest
    rw [h] at hrest
    cases hrest
  · rfl

/-- Text without the first character of the pattern is passed over. -/
theorem replaceAll_append_of_not_mem {p : Char} {pattern new before text : List Char}
    (h : p ∉ before) :
    replaceAll (p :: pattern) new (before ++ text) =
      before ++ replaceAll (p :: pattern) new text := by
  induction before with
  | nil => rfl
  | cons c before ih =>
    rw [List.mem_cons, not_or] at h
    have hnone : after? (p :: pattern) (c :: (before ++ text)) = none := by
      rw [after?, if_neg h.1]
    rw [List.cons_append, replaceAll_of_after?_eq_none hnone, ih h.2, List.cons_append]

end Text

/-- A single character, or a group in braces that holds no brace itself. -/
inductive Piece where
  | char (c : Char)
  | group (name : List Char)
  deriving DecidableEq, Repr

namespace Piece

def chars : Piece → List Char
  | char c => [c]
  | group name => '{' :: name ++ ['}']

def name? : Piece → Option (List Char)
  | char _ => none
  | group name => some name

/-- What a piece becomes when the known groups are replaced by format specifiers. -/
def filled (known : List Char → Bool) : Piece → List Char
  | char c => [c]
  | group name => if known name then ['%', 's'] else '{' :: name ++ ['}']

end Piece

/-- The pieces of a text; a brace that opens no innermost group is a character like any other. -/
def pieces : List Char → List Piece
  | [] => []
  | c :: rest =>
    if c = '{' then
      match _h : rest.dropWhile (!isBrace ·) with
      | '}' :: after => .group (rest.takeWhile (!isBrace ·)) :: pieces after
      | _ => .char c :: pieces rest
    else .char c :: pieces rest
termination_by text => text.length
decreasing_by
  · have := (List.dropWhile_sublist (l := rest) (!isBrace ·)).length_le
    rw [_h, List.length_cons] at this
    simp only [List.length_cons]
    omega
  · simp
  · simp

theorem takeWhile_append_of_dropWhile_eq {rest after : List Char}
    (h : rest.dropWhile (!isBrace ·) = '}' :: after) :
    rest = rest.takeWhile (!isBrace ·) ++ '}' :: after := by
  rw [← h, List.takeWhile_append_dropWhile]

theorem not_isBrace_of_mem_takeWhile {rest : List Char} {c : Char}
    (h : c ∈ rest.takeWhile (!isBrace ·)) : isBrace c = false := by
  simpa using List.mem_takeWhile_imp h

/-- No character is lost or moved by reading a text as pieces. -/
theorem flatMap_chars_pieces (text : List Char) : (pieces text).flatMap Piece.chars = text := by
  fun_induction pieces text with
  | case1 => rfl
  | case2 rest after h ih =>
    have hrest := takeWhile_append_of_dropWhile_eq h
    rw [List.flatMap_cons, ih, Piece.chars, List.cons_append, List.cons_append, List.append_assoc,
      List.singleton_append, ← hrest]
  | case3 rest h ih => rw [List.flatMap_cons, ih]; rfl
  | case4 c rest hc ih => rw [List.flatMap_cons, ih]; rfl

theorem not_isBrace_of_mem_pieces {text name : List Char} (h : .group name ∈ pieces text) :
    ∀ c ∈ name, isBrace c = false := by
  fun_induction pieces text with
  | case1 => cases h
  | case2 rest after hdrop ih =>
    rcases List.mem_cons.1 h with heq | hmem
    · cases heq
      exact fun c ↦ not_isBrace_of_mem_takeWhile
    · exact ih hmem
  | case3 rest hdrop ih => exact ih ((List.mem_cons.1 h).resolve_left nofun)
  | case4 c rest hc ih => exact ih ((List.mem_cons.1 h).resolve_left nofun)

theorem not_isBrace_of_mem_filterMap_pieces {text name : List Char}
    (h : name ∈ (pieces text).filterMap Piece.name?) : ∀ c ∈ name, isBrace c = false := by
  obtain ⟨piece, hpiece, hname⟩ := List.mem_filterMap.1 h
  cases piece with
  | char c => cases hname
  | group other =>
    cases hname
    exact not_isBrace_of_mem_pieces hpiece

/-- A run of characters without braces and the closing brace after it read back as themselves. -/
theorem takeWhile_dropWhile_closed {name : List Char} (h : ∀ c ∈ name, isBrace c = false)
    (tail : List Char) :
    (name ++ '}' :: tail).takeWhile (!isBrace ·) = name ∧
      (name ++ '}' :: tail).dropWhile (!isBrace ·) = '}' :: tail := by
  have hpos : ∀ c ∈ name, (!isBrace c) = true := fun c hc ↦ by rw [h c hc]; rfl
  rw [List.takeWhile_append_of_pos hpos, List.dropWhile_append_of_pos hpos]
  simp [isBrace]

theorem pieces_group {name tail : List Char} (h : ∀ c ∈ name, isBrace c = false) :
    pieces ('{' :: (name ++ '}' :: tail)) = .group name :: pieces tail := by
  obtain ⟨htake, hdrop⟩ := takeWhile_dropWhile_closed h tail
  rw [pieces, if_pos rfl]
  split
  · rename_i after hafter
    rw [hdrop] at hafter
    cases hafter
    rw [htake]
  · rename_i hne
    exact absurd hdrop (hne tail)

theorem bracedGroups_append_of_not_mem {withEmpty : Bool} {before text : List Char}
    (h : '{' ∉ before) :
    bracedGroups withEmpty (before ++ text) = bracedGroups withEmpty text := by
  induction before with
  | nil => rfl
  | cons c before ih =>
    rw [List.mem_cons, not_or] at h
    rw [List.cons_append, bracedGroups, if_neg (Ne.symm h.1), ih h.2]

theorem not_mem_takeWhile_not_isBrace (rest : List Char) :
    '{' ∉ rest.takeWhile (!isBrace ·) := by
  intro hmem
  exact absurd (not_isBrace_of_mem_takeWhile hmem) (by decide)

/-- The groups of a text are the groups among its pieces. -/
theorem bracedGroups_eq_filterMap_pieces (withEmpty : Bool) (text : List Char) :
    bracedGroups withEmpty text =
      ((pieces text).filterMap Piece.name?).filter (withEmpty || !·.isEmpty) := by
  fun_induction pieces text with
  | case1 => rfl
  | case2 rest after h ih =>
    have hskip : bracedGroups withEmpty rest = bracedGroups withEmpty after := by
      calc
        _ = bracedGroups withEmpty (rest.takeWhile (!isBrace ·) ++ '}' :: after) := by
          rw [← takeWhile_append_of_dropWhile_eq h]
        _ = bracedGroups withEmpty (['}'] ++ after) :=
          bracedGroups_append_of_not_mem (not_mem_takeWhile_not_isBrace rest)
        _ = bracedGroups withEmpty after := bracedGroups_append_of_not_mem (by decide)
    rw [bracedGroups, if_pos rfl, h]
    simp only [hskip, ih, List.filterMap_cons, Piece.name?, List.filter_cons]
    cases withEmpty <;> cases (rest.takeWhile (!isBrace ·)).isEmpty <;> rfl
  | case3 rest h ih =>
    rw [bracedGroups, if_pos rfl, List.filterMap_cons, Piece.name?]
    split
    · rename_i after hafter
      exact absurd hafter (h after)
    · exact ih
  | case4 c rest hc ih =>
    rw [bracedGroups, if_neg hc, List.filterMap_cons, Piece.name?, ih]

/-! ## Replacing at once and one after the other -/

/-- Replaces all known groups by format specifiers at once. -/
def substituteAtOnce (known : List Char → Bool) (text : List Char) : List Char :=
  (pieces text).flatMap (Piece.filled known)

theorem substituteAtOnce_none (text : List Char) :
    substituteAtOnce (fun _ ↦ false) text = text := by
  have hfilled : Piece.filled (fun _ ↦ false) = Piece.chars := by
    funext piece
    cases piece <;> rfl
  rw [substituteAtOnce, hfilled, flatMap_chars_pieces]

/-- A placeholder without braces and percent signs. -/
def IsPlain (name : List Char) : Prop :=
  ∀ c ∈ name, c ≠ '{' ∧ c ≠ '}' ∧ c ≠ '%'

instance (name : List Char) : Decidable (IsPlain name) :=
  List.decidableBAll (fun c ↦ c ≠ '{' ∧ c ≠ '}' ∧ c ≠ '%') name

theorem IsPlain.not_isBrace {name : List Char} (h : IsPlain name) :
    ∀ c ∈ name, isBrace c = false := by
  intro c hc
  obtain ⟨hopen, hclose, -⟩ := h c hc
  simp [isBrace, hopen, hclose]

/-- Only a character other than an opening brace is still the first one after substitution, and
then it was the first one before. -/
theorem eq_cons_of_substituteAtOnce_eq_cons {known : List Char → Bool} {text tail : List Char}
    {c : Char} (hopen : c ≠ '{') (hpercent : c ≠ '%')
    (h : substituteAtOnce known text = c :: tail) :
    ∃ rest, text = c :: rest ∧ substituteAtOnce known rest = tail := by
  rw [substituteAtOnce] at h
  fun_cases pieces text with
  | case1 => simp [pieces] at h
  | case2 rest after hafter =>
    rw [takeWhile_append_of_dropWhile_eq hafter,
      pieces_group fun _ hc ↦ not_isBrace_of_mem_takeWhile hc, List.flatMap_cons,
      Piece.filled] at h
    split at h
    · cases h
      exact absurd rfl hpercent
    · cases h
      exact absurd rfl hopen
  | case3 rest hrest =>
    rw [pieces, if_pos rfl] at h
    split at h
    · rename_i after hafter
      exact absurd hafter (hrest after)
    · cases h
      exact absurd rfl hopen
  | case4 d rest hd =>
    rw [pieces, if_neg hd] at h
    cases h
    exact ⟨rest, rfl, rfl⟩

/-- A plain placeholder that is closed in the substituted text was closed in the text. -/
theorem exists_closed_of_substituteAtOnce_eq (known : List Char → Bool) {name : List Char}
    (hplain : IsPlain name) {text tail : List Char}
    (h : substituteAtOnce known text = name ++ '}' :: tail) :
    ∃ rest, text = name ++ '}' :: rest := by
  induction name generalizing text with
  | nil =>
    obtain ⟨rest, htext, -⟩ := eq_cons_of_substituteAtOnce_eq_cons (by decide) (by decide) h
    exact ⟨rest, htext⟩
  | cons c name ih =>
    obtain ⟨hopen, -, hpercent⟩ := hplain c List.mem_cons_self
    obtain ⟨rest, htext, hrest⟩ := eq_cons_of_substituteAtOnce_eq_cons hopen hpercent h
    obtain ⟨rest', hrest'⟩ := ih (fun d hd ↦ hplain d (List.mem_cons_of_mem _ hd)) hrest
    exact ⟨rest', by rw [htext, hrest', List.cons_append]⟩

theorem append_closed_inj {name other tail tail' : List Char} (h : ∀ c ∈ name, isBrace c = false)
    (hother : ∀ c ∈ other, isBrace c = false) (heq : name ++ '}' :: tail = other ++ '}' :: tail') :
    name = other ∧ tail = tail' := by
  have htake := congrArg (List.takeWhile (!isBrace ·)) heq
  have hdrop := congrArg (List.dropWhile (!isBrace ·)) heq
  rw [(takeWhile_dropWhile_closed h _).1, (takeWhile_dropWhile_closed hother _).1] at htake
  rw [(takeWhile_dropWhile_closed h _).2, (takeWhile_dropWhile_closed hother _).2] at hdrop
  exact ⟨htake, (List.cons.inj hdrop).2⟩

/-- The text before a closing brace and the brace have no opening brace. -/
theorem not_mem_closed {inside : List Char} (h : ∀ c ∈ inside, isBrace c = false) :
    '{' ∉ inside ++ ['}'] := by
  intro hmem
  rcases List.mem_append.1 hmem with hmem | hmem
  · exact absurd (h _ hmem) (by decide)
  · exact absurd hmem (by decide)

/-- A closed group at which the placeholder does not start is passed over. -/
theorem replaceAll_closed (new : List Char) {name inside after : List Char}
    (hinside : ∀ c ∈ inside, isBrace c = false)
    (h : Text.after? ('{' :: name ++ ['}']) ('{' :: (inside ++ '}' :: after)) = none) :
    Text.replaceAll ('{' :: name ++ ['}']) new ('{' :: (inside ++ '}' :: after)) =
      '{' :: (inside ++ '}' :: Text.replaceAll ('{' :: name ++ ['}']) new after) := by
  have hskip : Text.replaceAll ('{' :: (name ++ ['}'])) new (inside ++ ['}'] ++ after) = _ :=
    Text.replaceAll_append_of_not_mem (not_mem_closed hinside)
  rw [List.append_assoc, List.singleton_append, List.append_assoc, List.singleton_append,
    ← List.cons_append] at hskip
  rw [Text.replaceAll_of_after?_eq_none h, hskip]

theorem after?_placeholder_eq_none {name text : List Char}
    (h : ∀ tail, text ≠ name ++ '}' :: tail) :
    Text.after? ('{' :: name ++ ['}']) ('{' :: text) = none := by
  rw [← Option.not_isSome_iff_eq_none, Option.isSome_iff_exists]
  rintro ⟨tail, htail⟩
  have heq := Text.after?_eq_some_iff.1 htail
  simp only [List.cons_append, List.append_assoc, List.nil_append, List.cons.injEq,
    true_and] at heq
  exact h tail heq

/-- Replacing a placeholder in a group that is filled already, or not at all, is filling it with the
placeholder added to the known groups. -/
theorem replaceAll_filled_group {name inside : List Char} (hname : ∀ c ∈ name, isBrace c = false)
    (hinside : ∀ c ∈ inside, isBrace c = false) (known : List Char → Bool) (tail : List Char) :
    Text.replaceAll ('{' :: name ++ ['}']) ['%', 's'] (Piece.filled known (.group inside) ++ tail) =
      Piece.filled (fun group ↦ known group || group == name) (.group inside) ++
        Text.replaceAll ('{' :: name ++ ['}']) ['%', 's'] tail := by
  by_cases hknown : known inside = true
  · simp only [Piece.filled, hknown, if_true, Bool.true_or]
    exact Text.replaceAll_append_of_not_mem (by decide)
  · by_cases heq : inside = name
    · subst heq
      have hafter : Text.after? ('{' :: inside ++ ['}']) ('{' :: inside ++ ['}'] ++ tail) =
          some tail := Text.after?_eq_some_iff.2 rfl
      simp only [Piece.filled, hknown, if_false, Bool.false_eq_true, BEq.rfl, Bool.or_true,
        if_true]
      exact Text.replaceAll_of_after?_eq_some (by simp) hafter
    · have hbeq : (inside == name) = false := beq_false_of_ne heq
      have hnone : Text.after? ('{' :: name ++ ['}']) ('{' :: (inside ++ '}' :: tail)) = none :=
        after?_placeholder_eq_none fun _ htext ↦ heq (append_closed_inj hinside hname htext).1
      have hpass := replaceAll_closed ['%', 's'] hinside hnone
      simp only [Piece.filled, hknown, hbeq, Bool.or_false, if_false, Bool.false_eq_true]
      simpa only [List.cons_append, List.append_assoc, List.nil_append] using hpass

/-- Replacing one more plain placeholder in a substituted text adds it to the known groups. -/
theorem replaceAll_substituteAtOnce {name : List Char} (hplain : IsPlain name)
    (known : List Char → Bool) (text : List Char) :
    Text.replaceAll ('{' :: name ++ ['}']) ['%', 's'] (substituteAtOnce known text) =
      substituteAtOnce (fun group ↦ known group || group == name) text := by
  unfold substituteAtOnce
  fun_induction pieces text with
  | case1 => rw [List.flatMap_nil, List.flatMap_nil, Text.replaceAll]
  | case2 rest after h ih =>
    rw [List.flatMap_cons, List.flatMap_cons, ← ih]
    exact replaceAll_filled_group hplain.not_isBrace (fun _ ↦ not_isBrace_of_mem_takeWhile) known _
  | case3 rest h ih =>
    -- A group that is closed after the substitution was closed before it.
    rw [List.flatMap_cons, List.flatMap_cons, ← ih]
    apply Text.replaceAll_of_after?_eq_none
    apply after?_placeholder_eq_none
    intro tail htail
    obtain ⟨rest', hrest'⟩ := exists_closed_of_substituteAtOnce_eq known hplain htail
    exact h rest' (hrest' ▸ (takeWhile_dropWhile_closed hplain.not_isBrace _).2)
  | case4 c rest hc ih =>
    rw [List.flatMap_cons, List.flatMap_cons, ← ih]
    exact Text.replaceAll_append_of_not_mem (by simpa [Piece.filled] using Ne.symm hc)

/-- Plain placeholders may be replaced one after the other, in any order. -/
theorem substitutePlaceholders_eq_substituteAtOnce {names : List (Option String)}
    (hplain : ∀ name ∈ names, IsPlain (nameText name).toList) (text : List Char) :
    Resource.substitutePlaceholders names text =
      substituteAtOnce (fun group ↦ names.any fun name ↦ group == (nameText name).toList) text := by
  have hfrom (known : List Char → Bool) :
      Resource.substitutePlaceholders names (substituteAtOnce known text) =
        substituteAtOnce
          (fun group ↦ known group || names.any fun name ↦ group == (nameText name).toList) text := by
    induction names generalizing known with
    | nil => simp [Resource.substitutePlaceholders]
    | cons name names ih =>
      have hname := hplain name List.mem_cons_self
      have hnames := ih fun other hother ↦ hplain other (List.mem_cons_of_mem _ hother)
      rw [Resource.substitutePlaceholders, List.foldl_cons, placeholderText]
      have hone := replaceAll_substituteAtOnce hname known text
      have hrest := hnames fun group ↦ known group || group == (nameText name).toList
      rw [Resource.substitutePlaceholders] at hrest
      rw [show "%s".toList = ['%', 's'] from rfl] at hrest ⊢
      rw [hone, hrest]
      simp only [List.any_cons, Bool.or_assoc]
  have hnone := hfrom fun _ ↦ false
  rw [substituteAtOnce_none] at hnone
  simpa only [Bool.false_or] using hnone

end EndpointStubs
