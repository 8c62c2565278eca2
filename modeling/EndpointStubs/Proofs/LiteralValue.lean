import EndpointStubs.Java.StringLiteral
import EndpointStubs.Text.Digit
import Mathlib.Data.List.Basic

/-!
# What string literals denote

The string that the content of a string literal denotes, as the language defines
it: Unicode escapes are translated first, then escape sequences in what that
gives. A string is a sequence of UTF-16 code units. An escaped text denotes the
text itself, so a content that is escaped once more denotes what it did before
if and only if there was no escape in it.
-/

namespace EndpointStubs.Java

/-- A character as UTF-16 code units. -/
def codeUnits (c : Char) : List Nat :=
  if c.toNat < 0x10000 then [c.toNat]
  else [0xD800 + (c.toNat - 0x10000) / 0x400, 0xDC00 + (c.toNat - 0x10000) % 0x400]

/-- The code unit of a Unicode escape, read after the first `u`, and the text after it. -/
def unicodeUnit? : List Char → Option (Nat × List Char)
  | 'u' :: rest => unicodeUnit? rest
  | a :: b :: c :: d :: rest =>
    if [a, b, c, d].all fun digit ↦ (Text.hexDigit? digit).isSome then
      some (Text.number 16 [a, b, c, d], rest)
    else none
  | _ => none

theorem exists_append_of_unicodeUnit? {text rest : List Char} {unit : Nat}
    (h : unicodeUnit? text = some (unit, rest)) : ∃ digits, text = digits ++ rest := by
  fun_induction unicodeUnit? text with
  | case1 text ih =>
    obtain ⟨digits, rfl⟩ := ih h
    exact ⟨'u' :: digits, rfl⟩
  | case2 a b c d =>
    cases h
    exact ⟨[a, b, c, d], rfl⟩
  | case3 => cases h
  | case4 => cases h

/-- The code units of the text, its Unicode escapes translated. Of two backslashes the second one
starts no Unicode escape. -/
def translated? : List Char → Option (List Nat)
  | [] => some []
  | c :: rest =>
    if c = '\\' then
      match rest with
      | [] => some (codeUnits c)
      | d :: rest =>
        if d = 'u' then
          match _h : unicodeUnit? rest with
          | some (unit, rest) => (translated? rest).map (unit :: ·)
          | none => none
        else (translated? rest).map (codeUnits c ++ codeUnits d ++ ·)
    else (translated? rest).map (codeUnits c ++ ·)
termination_by text => text.length
decreasing_by
  · obtain ⟨digits, hdigits⟩ := exists_append_of_unicodeUnit? _h
    have := congrArg List.length hdigits
    simp only [List.length_append, List.length_cons] at this ⊢
    omega
  · simp only [List.length_cons]
    omega
  · simp

def simpleEscapes : List (Nat × Char) :=
  [('b'.toNat, '\x08'), ('s'.toNat, ' '), ('t'.toNat, '\t'), ('n'.toNat, '\n'), ('f'.toNat, '\x0c'),
    ('r'.toNat, '\r'), ('"'.toNat, '"'), ('\''.toNat, '\''), ('\\'.toNat, '\\')]

def isOctal (unit : Nat) : Bool :=
  '0'.toNat ≤ unit && unit ≤ '7'.toNat

/-- One to three octal digits, for a number up to 255. -/
def octalDigits (units : List Nat) : List Nat :=
  (units.takeWhile isOctal).take (if units.head?.any (· ≤ '3'.toNat) then 3 else 2)

def octalEscape? (units : List Nat) : Option (Nat × List Nat) :=
  let digits := octalDigits units
  if digits.isEmpty then none
  else some (digits.foldl (fun n digit ↦ 8 * n + (digit - '0'.toNat)) 0, units.drop digits.length)

/-- The code unit of an escape sequence, read after its backslash, and what follows it. -/
def escapeSequence? : List Nat → Option (Nat × List Nat)
  | [] => none
  | unit :: rest =>
    match simpleEscapes.lookup unit with
    | some c => some (c.toNat, rest)
    | none => octalEscape? (unit :: rest)

theorem length_of_escapeSequence? {units rest : List Nat} {unit : Nat}
    (h : escapeSequence? units = some (unit, rest)) : rest.length < units.length := by
  unfold escapeSequence? at h
  split at h
  · cases h
  · split at h
    · cases h
      exact Nat.lt_succ_self _
    · unfold octalEscape? at h
      dsimp only at h
      split at h
      · cases h
      · rename_i hdigits
        cases h
        rw [List.length_drop]
        have hpos := List.length_pos_iff.2 (mt List.isEmpty_iff.2 hdigits)
        simp only [List.length_cons]
        omega

/-- What a literal cannot hold unless it is escaped. -/
def literalMarks : List Char :=
  ['\\', '"', '\n', '\r']

/-- The string of a literal with these code units, its escape sequences replaced. -/
def unescaped? : List Nat → Option (List Nat)
  | [] => some []
  | unit :: rest =>
    if unit = '\\'.toNat then
      match _h : escapeSequence? rest with
      | some (unit, rest) => (unescaped? rest).map (unit :: ·)
      | none => none
    else if unit ∈ literalMarks.map Char.toNat then none
    else (unescaped? rest).map (unit :: ·)
termination_by units => units.length
decreasing_by
  · have := length_of_escapeSequence? _h
    simp only [List.length_cons]
    omega
  · simp

/-- The string that a literal with this content denotes, if the content is legal. -/
def literalValue? (content : List Char) : Option (List Nat) :=
  (translated? content).bind unescaped?

/-! ## Escaped texts -/

def isLineEnd (c : Char) : Bool :=
  c == '\n' || c == '\r'

theorem not_mem_codeUnits {c d : Char} (hd : d.toNat < 0xD800) (h : c ≠ d) :
    d.toNat ∉ codeUnits c := by
  have hne : d.toNat ≠ c.toNat := fun heq ↦ h (Char.toNat_inj.1 heq.symm)
  unfold codeUnits
  split
  · rwa [List.mem_singleton]
  · simp only [List.mem_cons, List.not_mem_nil, or_false]
    omega

theorem not_mem_literalMarks {c : Char} (h : c ∉ literalMarks) :
    ∀ unit ∈ codeUnits c, unit ∉ literalMarks.map Char.toNat := by
  intro unit hunit hmem
  obtain ⟨mark, hmark, rfl⟩ := List.mem_map.1 hmem
  have hsmall : literalMarks.all (fun mark ↦ decide (mark.toNat < 0xD800)) = true := by decide
  have hmarkSmall := of_decide_eq_true (List.all_eq_true.1 hsmall mark hmark)
  exact not_mem_codeUnits hmarkSmall (fun heq ↦ h (by rwa [heq])) hunit

theorem translated?_pair {d : Char} (hd : d ≠ 'u') (rest : List Char) :
    translated? ('\\' :: d :: rest) =
      (translated? rest).map (codeUnits '\\' ++ codeUnits d ++ ·) := by
  rw [translated?, if_pos rfl]
  exact if_neg hd

theorem translated?_cons {c : Char} (hc : c ≠ '\\') (rest : List Char) :
    translated? (c :: rest) = (translated? rest).map (codeUnits c ++ ·) := by
  rw [translated?.eq_def]
  exact if_neg hc

theorem unescaped?_backslash {units rest : List Nat} {unit : Nat}
    (h : escapeSequence? units = some (unit, rest)) :
    unescaped? ('\\'.toNat :: units) = (unescaped? rest).map (unit :: ·) := by
  rw [unescaped?, if_pos rfl]
  split
  · rename_i hsome
    rw [h] at hsome
    cases hsome
    rfl
  · rename_i hnone
    rw [h] at hnone
    cases hnone

theorem unescaped?_append {units : List Nat}
    (h : ∀ unit ∈ units, unit ∉ literalMarks.map Char.toNat) (rest : List Nat) :
    unescaped? (units ++ rest) = (unescaped? rest).map (units ++ ·) := by
  induction units with
  | nil => simp
  | cons unit units ih =>
    have hunit := h unit List.mem_cons_self
    have hbackslash : unit ≠ '\\'.toNat := fun heq ↦ hunit (heq ▸ List.mem_cons_self)
    rw [List.cons_append, unescaped?.eq_def]
    dsimp only
    rw [if_neg hbackslash, if_neg hunit, ih fun u hu ↦ h u (List.mem_cons_of_mem _ hu),
      Option.map_map]
    rfl

theorem unescaped?_mark {unit : Nat} (hne : unit ≠ '\\'.toNat)
    (h : unit ∈ literalMarks.map Char.toNat) (rest : List Nat) :
    unescaped? (unit :: rest) = none := by
  rw [unescaped?.eq_def]
  dsimp only
  rw [if_neg hne, if_pos h]

theorem escape_cons_of_mark {c : Char} (h : c = '\\' ∨ c = '"') (text : List Char) :
    escape (c :: text) = '\\' :: c :: escape text := by
  have hmark : (c == '\\' || c == '"') = true := by simpa using h
  rw [escape, List.flatMap_cons, escapeChar, if_pos hmark]
  rfl

theorem escape_cons_of_not_mark {c : Char} (h : ¬(c = '\\' ∨ c = '"')) (text : List Char) :
    escape (c :: text) = c :: escape text := by
  have hmark : ¬(c == '\\' || c == '"') = true := by simpa using h
  rw [escape, List.flatMap_cons, escapeChar, if_neg hmark]
  rfl

/-- The content of a written literal is read back. -/
theorem closeString_escape (text rest : List Char) :
    closeString (escape text ++ '"' :: rest) = some (escape text, rest) := by
  induction text with
  | nil =>
    rw [closeString.eq_def]
    simp [escape]
  | cons c text ih =>
    by_cases hmark : c = '\\' ∨ c = '"'
    · have hline : c ≠ '\n' := by
        rcases hmark with rfl | rfl <;> decide
      simp [escape_cons_of_mark hmark, closeString, hline, ih]
    · rw [escape_cons_of_not_mark hmark, List.cons_append, closeString.eq_def]
      rw [not_or] at hmark
      simp [hmark, ih]

/-- No backslash of an escaped text starts a Unicode escape. -/
theorem translated?_escape (text : List Char) :
    translated? (escape text) = some ((escape text).flatMap codeUnits) := by
  induction text with
  | nil => rw [escape, List.flatMap_nil, translated?, List.flatMap_nil]
  | cons c text ih =>
    by_cases hmark : c = '\\' ∨ c = '"'
    · have hu : c ≠ 'u' := by
        rcases hmark with rfl | rfl <;> decide
      rw [escape_cons_of_mark hmark, translated?_pair hu, ih, Option.map_some, List.flatMap_cons,
        List.flatMap_cons, List.append_assoc]
    · rw [escape_cons_of_not_mark hmark, translated?_cons fun heq ↦ hmark (.inl heq), ih,
        Option.map_some, List.flatMap_cons]

/-- An escaped text denotes the text itself, if it is all on one line. -/
theorem literalValue?_escape (text : List Char) :
    literalValue? (escape text) =
      if text.any isLineEnd then none else some (text.flatMap codeUnits) := by
  rw [literalValue?, translated?_escape, Option.bind_some]
  induction text with
  | nil =>
    rw [escape, List.flatMap_nil, List.flatMap_nil, unescaped?]
    rfl
  | cons c text ih =>
    rw [List.any_cons, List.flatMap_cons]
    by_cases hmark : c = '\\' ∨ c = '"'
    · have hsequence (rest : List Nat) :
          escapeSequence? (codeUnits c ++ rest) = some (c.toNat, rest) := by
        rcases hmark with rfl | rfl <;> rfl
      have hunits : codeUnits c = [c.toNat] := by
        rcases hmark with rfl | rfl <;> rfl
      have hline : isLineEnd c = false := by
        rcases hmark with rfl | rfl <;> rfl
      rw [escape_cons_of_mark hmark, List.flatMap_cons, List.flatMap_cons, hline, Bool.false_or]
      refine (unescaped?_backslash (hsequence _)).trans ?_
      rw [ih, hunits]
      split <;> rfl
    · rw [escape_cons_of_not_mark hmark, List.flatMap_cons]
      cases hline : isLineEnd c with
      | true =>
        rw [isLineEnd, Bool.or_eq_true, beq_iff_eq, beq_iff_eq] at hline
        rw [Bool.true_or, if_pos rfl]
        rcases hline with rfl | rfl <;> exact unescaped?_mark (by decide) (by decide) _
      | false =>
        have hplain : c ∉ literalMarks := by
          rw [not_or] at hmark
          rw [isLineEnd, Bool.or_eq_false_iff, beq_eq_false_iff_ne, beq_eq_false_iff_ne] at hline
          simp only [literalMarks, List.mem_cons, List.not_mem_nil, or_false, not_or]
          exact ⟨hmark.1, hmark.2, hline⟩
        rw [unescaped?_append (not_mem_literalMarks hplain), ih, Bool.false_or]
        split <;> rfl

/-- Translating Unicode escapes leaves the text as it is or makes it shorter. -/
theorem eq_or_length_lt_of_translated? {text : List Char} {units : List Nat}
    (h : translated? text = some units) :
    units = text.flatMap codeUnits ∨ units.length < (text.flatMap codeUnits).length := by
  have hprepend {before units after : List Nat}
      (hunits : units = after ∨ units.length < after.length) :
      before ++ units = before ++ after ∨ (before ++ units).length < (before ++ after).length := by
    rw [List.length_append, List.length_append]
    exact hunits.imp (congrArg (before ++ ·)) fun hlt ↦ Nat.add_lt_add_left hlt _
  fun_induction translated? text generalizing units with
  | case1 =>
    cases h
    exact .inl rfl
  | case2 =>
    cases h
    exact .inl (List.append_nil _).symm
  | case3 rest unit after hunit ih =>
    obtain ⟨tail, htail, rfl⟩ := Option.map_eq_some_iff.1 h
    obtain ⟨digits, rfl⟩ := exists_append_of_unicodeUnit? hunit
    have hle : tail.length ≤ (after.flatMap codeUnits).length := by
      rcases ih htail with rfl | hlt
      · exact Nat.le_refl _
      · exact Nat.le_of_lt hlt
    have hbackslash : (codeUnits '\\').length = 1 := rfl
    have hu : (codeUnits 'u').length = 1 := rfl
    right
    simp only [List.flatMap_cons, List.flatMap_append, List.length_append, List.length_cons]
    omega
  | case4 => cases h
  | case5 d rest hd ih =>
    obtain ⟨tail, htail, rfl⟩ := Option.map_eq_some_iff.1 h
    rw [List.flatMap_cons, List.flatMap_cons, ← List.append_assoc]
    exact hprepend (ih htail)
  | case6 c rest hc ih =>
    obtain ⟨tail, htail, rfl⟩ := Option.map_eq_some_iff.1 h
    exact hprepend (ih htail)

/-- An escape sequence is longer than the code unit that it stands for. -/
theorem length_of_unescaped? {units string : List Nat} (h : unescaped? units = some string) :
    string.length ≤ units.length ∧ ('\\'.toNat ∈ units → string.length < units.length) := by
  fun_induction unescaped? units generalizing string with
  | case1 =>
    cases h
    exact ⟨Nat.le_refl _, fun hmem ↦ absurd hmem List.not_mem_nil⟩
  | case2 rest unit after hsequence ih =>
    obtain ⟨tail, htail, rfl⟩ := Option.map_eq_some_iff.1 h
    have hle := (ih htail).1
    have hlt := length_of_escapeSequence? hsequence
    simp only [List.length_cons]
    exact ⟨by omega, fun _ ↦ by omega⟩
  | case3 => cases h
  | case4 => cases h
  | case5 unit rest hbackslash hmark ih =>
    obtain ⟨tail, htail, rfl⟩ := Option.map_eq_some_iff.1 h
    obtain ⟨hle, hlt⟩ := ih htail
    simp only [List.length_cons, List.mem_cons]
    refine ⟨by omega, fun hmem ↦ ?_⟩
    have := hlt (hmem.resolve_left (Ne.symm hbackslash))
    omega

theorem escape_eq_self {content : List Char} (h : '\\' ∉ content) (hquote : '"' ∉ content) :
    escape content = content := by
  induction content with
  | nil => rfl
  | cons c content ih =>
    rw [List.mem_cons, not_or] at h hquote
    rw [escape_cons_of_not_mark (not_or.2 ⟨Ne.symm h.1, Ne.symm hquote.1⟩), ih h.2 hquote.2]

theorem translated?_of_not_mem {content : List Char} (h : '\\' ∉ content) :
    translated? content = some (content.flatMap codeUnits) := by
  induction content with
  | nil => rw [translated?, List.flatMap_nil]
  | cons c content ih =>
    rw [List.mem_cons, not_or] at h
    rw [translated?_cons (Ne.symm h.1), ih h.2, Option.map_some, List.flatMap_cons]

theorem not_mem_of_unescaped? {units string : List Nat} (h : unescaped? units = some string)
    (hbackslash : '\\'.toNat ∉ units) : ∀ unit ∈ units, unit ∉ literalMarks.map Char.toNat := by
  induction units generalizing string with
  | nil => exact fun unit hunit ↦ absurd hunit List.not_mem_nil
  | cons unit units ih =>
    rw [List.mem_cons, not_or] at hbackslash
    have hmark : unit ∉ literalMarks.map Char.toNat := by
      intro hmark
      rw [unescaped?_mark (Ne.symm hbackslash.1) hmark] at h
      cases h
    rw [unescaped?.eq_def] at h
    dsimp only at h
    rw [if_neg (Ne.symm hbackslash.1), if_neg hmark] at h
    obtain ⟨tail, htail, -⟩ := Option.map_eq_some_iff.1 h
    rw [List.forall_mem_cons]
    exact ⟨hmark, ih htail hbackslash.2⟩

/-- A legal content denotes once it is escaped what it denotes itself if and only if it has no
escape. -/
theorem literalValue?_escape_eq_iff {content : List Char} {string : List Nat}
    (h : literalValue? content = some string) :
    literalValue? (escape content) = literalValue? content ↔ '\\' ∉ content := by
  obtain ⟨units, hunits, hstring⟩ := Option.bind_eq_some_iff.1 h
  have hlength := length_of_unescaped? hstring
  rw [h]
  constructor
  · intro hescaped hbackslash
    rw [literalValue?_escape, Option.ite_none_left_eq_some, Option.some.injEq] at hescaped
    rcases eq_or_length_lt_of_translated? hunits with rfl | hlt
    · have hlt := hlength.2 (List.mem_flatMap.2 ⟨'\\', hbackslash, List.mem_singleton_self _⟩)
      rw [hescaped.2] at hlt
      exact Nat.lt_irrefl _ hlt
    · rw [hescaped.2] at hlt
      exact Nat.not_lt_of_le hlength.1 hlt
  · intro hbackslash
    have hquote : '"' ∉ content := by
      intro hquote
      rw [translated?_of_not_mem hbackslash, Option.some.injEq] at hunits
      subst hunits
      have hnone : '\\'.toNat ∉ content.flatMap codeUnits := by
        intro hmem
        obtain ⟨c, hc, hunit⟩ := List.mem_flatMap.1 hmem
        have hne : c ≠ '\\' := by
          rintro rfl
          exact hbackslash hc
        exact not_mem_codeUnits (by decide) hne hunit
      have hmem : '"'.toNat ∈ content.flatMap codeUnits :=
        List.mem_flatMap.2 ⟨'"', hquote, List.mem_singleton_self _⟩
      exact not_mem_of_unescaped? hstring hnone _ hmem (by decide)
    rw [escape_eq_self hbackslash hquote, h]

end EndpointStubs.Java
