import EndpointStubs.Proofs.SignatureReading

/-!
# Reading package and import declarations

A declaration that starts a line is read there, and nothing else is if no other
line starts with its word. Between the lines that start a declaration the reader
of imports only looks for the next one.
-/

namespace EndpointStubs.Java

open Written

theorem newlineTails_append (xs ys : List Char) :
    lineStarts.newlineTails (xs ++ ys) =
      (lineStarts.newlineTails xs).map (· ++ ys) ++ lineStarts.newlineTails ys := by
  induction xs with
  | nil => rfl
  | cons c xs ih =>
    rw [List.cons_append, lineStarts.newlineTails, lineStarts.newlineTails]
    split
    · rw [ih, List.map_cons, List.cons_append]
    · exact ih

theorem suffix_of_mem_newlineTails {xs line : List Char}
    (h : line ∈ lineStarts.newlineTails xs) : line <:+ xs := by
  induction xs with
  | nil => cases h
  | cons c xs ih =>
    rw [lineStarts.newlineTails] at h
    split at h
    · rcases List.mem_cons.1 h with rfl | h
      · exact List.suffix_cons c line
      · exact (ih h).trans (List.suffix_cons c xs)
    · exact (ih h).trans (List.suffix_cons c xs)

/-- The first word of a line is found before a character that is neither blank nor of a word. -/
theorem firstWord_trimStart_append {d : Char} (hblank : Text.isBlank d = false)
    (hword : Text.isWord d = false) (line more : List Char) :
    firstWord (Text.trimStart (line ++ d :: more)) = firstWord (Text.trimStart line) := by
  rw [Text.trimStart, Text.dropWhile_append_cons hblank, firstWord,
    Text.takeWhile_append_cons hword, firstWord, Text.trimStart]

section Keyword

variable {keyword : String} (hword : ∀ c ∈ keyword.toList, Text.isWord c = true)
include hword

theorem afterKeyword?_eq_none {text : List Char} (h : firstWord (Text.trimStart text) ≠ keyword) :
    afterKeyword? keyword text = none := by
  rw [afterKeyword?]
  split
  · rfl
  · rename_i rest hafter
    have htext := Text.after?_eq_some_iff.1 hafter
    split
    · rfl
    · rename_i hblank
      have hblanks : rest.takeWhile Text.isBlank ≠ [] := fun hnil ↦
        hblank (List.isEmpty_iff.2 hnil)
      rw [firstWord, htext, Text.takeWhile_append_stop hword (Text.isWord_head_eq_false hblanks),
        String.ofList_toList] at h
      exact absurd rfl h

variable (hkeyword : keyword ≠ "")
include hkeyword

theorem trimStart_keyword (lead : Gap) (text : List Char) :
    Text.trimStart (lead.chars ++ (keyword.toList ++ text)) = keyword.toList ++ text := by
  apply Text.trimStart_append_stop lead.blank
  intro c hc
  have hne : keyword.toList ≠ [] := fun hnil ↦ hkeyword (String.toList_eq_nil_iff.1 hnil)
  rw [List.head?_append_of_ne_nil _ hne] at hc
  exact Text.isBlank_eq_false_of_isWord (hword c (List.mem_of_mem_head? hc))

theorem afterKeyword?_eq_some (lead : Gap) {gap : Gap} {text : List Char} (hgap : gap.chars ≠ [])
    (htext : ∀ c ∈ text.head?, Text.isBlank c = false) :
    afterKeyword? keyword (lead.chars ++ (keyword.toList ++ (gap.chars ++ text))) = some text := by
  rw [afterKeyword?, trimStart_keyword hword hkeyword, Text.after?_eq_some_iff.2 rfl]
  dsimp only
  rw [Text.takeWhile_append_stop gap.blank htext, Text.trimStart_append_stop gap.blank htext,
    if_neg fun hempty ↦ hgap (List.isEmpty_iff.1 hempty)]

theorem firstWord_keyword (lead : Gap) {gap : Gap} (hgap : gap.chars ≠ []) (text : List Char) :
    firstWord (Text.trimStart (lead.chars ++ (keyword.toList ++ (gap.chars ++ text)))) =
      keyword := by
  have hstop : ∀ c ∈ (gap.chars ++ text).head?, Text.isWord c = false := by
    intro c hc
    rw [List.head?_append_of_ne_nil _ hgap] at hc
    exact Text.isWord_eq_false_of_isBlank (gap.blank c (List.mem_of_mem_head? hc))
  rw [trimStart_keyword hword hkeyword, firstWord, Text.takeWhile_append_stop hword hstop,
    String.ofList_toList]

end Keyword

theorem isWord_package : ∀ c ∈ "package".toList, Text.isWord c = true :=
  List.all_eq_true.1 (by decide)

theorem isWord_import : ∀ c ∈ "import".toList, Text.isWord c = true :=
  List.all_eq_true.1 (by decide)

theorem packageLine?_eq_none {text : List Char} (h : firstWord (Text.trimStart text) ≠ "package") :
    packageLine? text = none := by
  rw [packageLine?, afterKeyword?_eq_none isWord_package h]
  rfl

theorem importLine?_eq_none {text : List Char} (h : firstWord (Text.trimStart text) ≠ "import") :
    importLine? text = none := by
  rw [importLine?, afterKeyword?_eq_none isWord_import h]

theorem Written.NotStatement.ne_package {text : List Char} (h : NotStatement text) :
    firstWord (Text.trimStart text) ≠ "package" := by
  intro heq
  rw [NotStatement, heq] at h
  exact h (by decide)

theorem Written.NotStatement.ne_import {text : List Char} (h : NotStatement text) :
    firstWord (Text.trimStart text) ≠ "import" := by
  intro heq
  rw [NotStatement, heq] at h
  exact h (by decide)

theorem afterSemicolon?_eq_some (gap : Gap) (more : List Char) :
    afterSemicolon? (gap.chars ++ ';' :: more) = some more := by
  have hstart : ∀ c ∈ (';' :: more).head?, Text.isBlank c = false := by
    intro c hc
    cases hc
    rfl
  rw [afterSemicolon?, Text.trimStart_append_stop gap.blank hstart]
  rfl

theorem head_qualifiedName (name : QualifiedName) (text : List Char) :
    ∀ c ∈ (name.chars ++ text).head?, Text.isBlank c = false := by
  obtain ⟨d, ds, hchars, hword⟩ := name.exists_cons
  intro c hc
  rw [hchars] at hc
  cases hc
  exact Text.isBlank_eq_false_of_isWord hword

theorem packageLine?_chars (p : PackageLine) (more : List Char) :
    packageLine? (p.chars ++ more) = some (.ofList p.name.chars) := by
  have hstop := p.trail.head_eq_false (fun _ ↦ isWordOrDot_eq_false_of_isBlank) ';'
    (by decide) more
  have hafter := afterKeyword?_eq_some isWord_package (by decide) p.lead p.gap_ne_nil
    (head_qualifiedName p.name (p.trail.chars ++ ';' :: more))
  have htext : p.chars ++ more = p.lead.chars ++ ("package".toList ++
      (p.gap.chars ++ (p.name.chars ++ (p.trail.chars ++ ';' :: more)))) := by
    simp [PackageLine.chars, statement]
  have hname : ¬ p.name.chars.isEmpty = true := fun hempty ↦
    p.name.chars_ne_nil (List.isEmpty_iff.1 hempty)
  rw [packageLine?, htext, hafter]
  simp only [Option.bind_eq_bind, Option.bind_some,
    Text.takeWhile_append_stop p.name.isWordOrDot hstop,
    Text.dropWhile_append_stop p.name.isWordOrDot hstop, afterSemicolon?_eq_some, if_neg hname]
  rfl

namespace Written.ImportLine

/-- What stands between the blanks after the keyword and the semicolon. -/
def named (i : ImportLine) : List Char :=
  (i.static.elim [] fun gap ↦ "static".toList ++ gap.chars) ++ i.imported ++ i.trail.chars

theorem afterKeyword_eq (i : ImportLine) : i.afterKeyword = i.gap.chars ++ i.named := by
  rw [afterKeyword, named, List.append_assoc, List.append_assoc, List.append_assoc]

theorem named_of_static {i : ImportLine} {gap : Gap} (h : i.static = some gap)
    (text : List Char) :
    i.named ++ text =
      "static".toList ++ (gap.chars ++ (i.imported ++ (i.trail.chars ++ text))) := by
  rw [named, h]
  simp

/-- What stands between the name and the blanks before the semicolon. -/
def star (i : ImportLine) : List Char :=
  if i.wildcard then ['.', '*'] else []

theorem named_of_not_static {i : ImportLine} (h : i.static = none) (text : List Char) :
    i.named ++ text = i.name.chars ++ (i.star ++ (i.trail.chars ++ text)) := by
  rw [named, h, imported, star]
  simp

theorem head_named (i : ImportLine) (text : List Char) :
    ∀ c ∈ (i.named ++ text).head?, Text.isBlank c = false := by
  cases hstatic : i.static with
  | none =>
    rw [named_of_not_static hstatic]
    exact head_qualifiedName i.name _
  | some gap =>
    intro c hc
    rw [named_of_static hstatic] at hc
    cases hc
    decide

theorem head_star (i : ImportLine) (more : List Char) :
    ∀ c ∈ (i.star ++ (i.trail.chars ++ ';' :: more)).head?, Text.isWord c = false := by
  rw [star]
  split
  · intro c hc
    cases hc
    decide
  · exact i.trail.head_eq_false (fun _ ↦ Text.isWord_eq_false_of_isBlank) ';' (by decide) more

theorem isStaticImport_of_static {i : ImportLine} (h : i.Proper) (hstatic : i.static.isSome)
    (more : List Char) : isStaticImport (i.named ++ ';' :: more) = true := by
  obtain ⟨gap, hgap⟩ := Option.isSome_iff_exists.1 hstatic
  have hne := h.static_ne_nil gap hgap
  rw [isStaticImport, named_of_static hgap, Text.after?_eq_some_iff.2 rfl]
  dsimp only
  rw [List.head?_append_of_ne_nil _ hne]
  cases hchars : gap.chars with
  | nil => exact absurd hchars hne
  | cons c cs =>
    have hblank := gap.blank c (by rw [hchars]; exact List.mem_cons_self)
    rw [List.head?_cons, Option.any_some, Text.isWord_eq_false_of_isBlank hblank, Bool.not_false]

theorem isStaticImport_of_not_static {i : ImportLine} (h : i.Proper) (hstatic : i.static = none)
    (more : List Char) : isStaticImport (i.named ++ ';' :: more) = false := by
  have hword : firstWord (i.named ++ ';' :: more) = firstWord i.name.chars := by
    rw [named_of_not_static hstatic, firstWord_append (i.head_star more)]
  rw [isStaticImport]
  split
  · rfl
  · rename_i rest hafter
    have htext := Text.after?_eq_some_iff.1 hafter
    rw [Bool.not_eq_false']
    by_contra hany
    have hstop : ∀ c ∈ rest.head?, Text.isWord c = false := by
      intro c hc
      have hhead : rest.head? = some c := hc
      rw [hhead, Option.any_some] at hany
      exact Bool.eq_false_iff.2 hany
    rw [htext, firstWord_append hstop] at hword
    exact h.notStatic hstatic hword.symm

/-- A static import is not read. -/
theorem importLine?_static {i : ImportLine} (h : i.Proper) (hstatic : i.static.isSome)
    (lead : Gap) (more : List Char) :
    importLine? (lead.chars ++ ("import".toList ++ (i.afterKeyword ++ ';' :: more))) = none := by
  have hafter := afterKeyword?_eq_some isWord_import (by decide) lead h.gap_ne_nil
    (i.head_named (';' :: more))
  have hread := isStaticImport_of_static h hstatic more
  rw [afterKeyword_eq, List.append_assoc, importLine?, hafter]
  simp only [hread, true_or, if_true]

section NotStatic

variable {i : ImportLine} (h : i.Proper) (hstatic : i.static = none)
include h hstatic

theorem importLine?_type (hwildcard : i.wildcard = false) (lead : Gap) (more : List Char) :
    importLine? (lead.chars ++ ("import".toList ++ (i.afterKeyword ++ ';' :: more))) =
      some (.ofList i.imported, more) := by
  have hafter := afterKeyword?_eq_some isWord_import (by decide) lead h.gap_ne_nil
    (i.head_named (';' :: more))
  have hread := isStaticImport_of_not_static h hstatic more
  have hnamed : i.named ++ ';' :: more = i.name.chars ++ (i.trail.chars ++ ';' :: more) := by
    rw [named_of_not_static hstatic, star, hwildcard]
    rfl
  have himported : i.imported = i.name.chars := by
    rw [imported, hwildcard]
    exact List.append_nil _
  have hname : ¬ i.name.chars.isEmpty = true := fun hempty ↦
    i.name.chars_ne_nil (List.isEmpty_iff.1 hempty)
  have hstop := i.trail.head_eq_false (fun _ ↦ isWordOrDot_eq_false_of_isBlank) ';'
    (by decide) more
  rw [afterKeyword_eq, List.append_assoc, importLine?, hafter]
  rw [hnamed] at hread ⊢
  simp only [hread, Bool.false_eq_true, false_or, hname, if_false, himported,
    Text.takeWhile_append_stop i.name.isWordOrDot hstop,
    Text.dropWhile_append_stop i.name.isWordOrDot hstop, afterSemicolon?_eq_some]

/-- The dot before the star is read with the name. -/
theorem importLine?_wildcard (hwildcard : i.wildcard = true) (lead : Gap) (more : List Char) :
    importLine? (lead.chars ++ ("import".toList ++ (i.afterKeyword ++ ';' :: more))) =
      some (.ofList i.imported, more) := by
  have hafter := afterKeyword?_eq_some isWord_import (by decide) lead h.gap_ne_nil
    (i.head_named (';' :: more))
  have hread := isStaticImport_of_not_static h hstatic more
  have hnamed : i.named ++ ';' :: more =
      (i.name.chars ++ ['.']) ++ '*' :: (i.trail.chars ++ ';' :: more) := by
    rw [named_of_not_static hstatic, star, hwildcard]
    simp
  have himported : i.imported = i.name.chars ++ ['.'] ++ ['*'] := by
    rw [imported, hwildcard]
    simp
  have hchars : ∀ c ∈ i.name.chars ++ ['.'], Text.isWordOrDot c = true := by
    intro c hc
    rcases List.mem_append.1 hc with hc | hc
    · exact i.name.isWordOrDot c hc
    · rw [List.mem_singleton.1 hc]
      rfl
  have hstop : ∀ c ∈ ('*' :: (i.trail.chars ++ ';' :: more)).head?,
      Text.isWordOrDot c = false := by
    intro c hc
    cases hc
    decide
  have hnone : afterSemicolon? ('*' :: (i.trail.chars ++ ';' :: more)) = none := rfl
  have hname : ¬ (i.name.chars ++ ['.']).isEmpty = true := by
    rw [List.isEmpty_iff]
    exact List.append_ne_nil_of_right_ne_nil _ (List.cons_ne_nil _ _)
  have hlong : 2 ≤ (i.name.chars ++ ['.']).length ∧
      (i.name.chars ++ ['.']).getLast? = some '.' := by
    have hlength := List.length_pos_iff.2 i.name.chars_ne_nil
    refine ⟨?_, List.getLast?_concat⟩
    rw [List.length_append, List.length_singleton]
    omega
  rw [afterKeyword_eq, List.append_assoc, importLine?, hafter]
  rw [hnamed] at hread ⊢
  simp only [hread, Bool.false_eq_true, false_or, hname, if_false,
    Text.takeWhile_append_stop hchars hstop, Text.dropWhile_append_stop hchars hstop, hnone]
  rw [if_pos hlong, afterSemicolon?_eq_some, himported]
  rfl

theorem importLine?_eq_some (lead : Gap) (more : List Char) :
    importLine? (lead.chars ++ ("import".toList ++ (i.afterKeyword ++ ';' :: more))) =
      some (.ofList i.imported, more) := by
  cases hwildcard : i.wildcard with
  | false => exact importLine?_type h hstatic hwildcard lead more
  | true => exact importLine?_wildcard h hstatic hwildcard lead more

end NotStatic

end Written.ImportLine

section Lines

variable {lineStart : Bool} {text : List Char}

theorem importsFrom_of_some {name : String} {after : List Char}
    (h : importLine? text = some (name, after)) :
    importsFrom true text = name :: importsFrom false after := by
  cases text with
  | nil => cases h
  | cons c rest =>
    rw [importsFrom]
    split
    · rename_i heq
      rw [if_pos rfl, h] at heq
      cases heq
      rfl
    · rename_i heq
      rw [if_pos rfl, h] at heq
      cases heq

theorem importsFrom_cons_of_none {c : Char}
    (h : lineStart = true → importLine? (c :: text) = none) :
    importsFrom lineStart (c :: text) = importsFrom (c == '\n') text := by
  rw [importsFrom]
  split
  · rename_i heq
    split at heq
    · rename_i hstart
      rw [h hstart] at heq
      cases heq
    · cases heq
  · rfl

/-- Where no line declares an import, the reader comes to the end of the text. -/
theorem importsFrom_append {d : Char} {more : List Char}
    (hstart : lineStart = true → importLine? (text ++ d :: more) = none)
    (hlines : ∀ line ∈ lineStarts.newlineTails text, importLine? (line ++ d :: more) = none) :
    importsFrom lineStart (text ++ d :: more) = importsFrom (d == '\n') more := by
  induction text generalizing lineStart with
  | nil => exact importsFrom_cons_of_none hstart
  | cons c text ih =>
    rw [List.cons_append] at hstart ⊢
    rw [importsFrom_cons_of_none hstart]
    rw [lineStarts.newlineTails] at hlines
    split at hlines
    · exact ih (fun _ ↦ hlines text List.mem_cons_self)
        fun line hline ↦ hlines line (List.mem_cons_of_mem _ hline)
    · rename_i hc
      exact ih (fun hnewline ↦ absurd (beq_iff_eq.1 hnewline) hc) hlines

theorem importsFrom_quiet (hstart : lineStart = true → NotStatement text) (hquiet : Quiet text) :
    importsFrom lineStart text = [] := by
  induction text generalizing lineStart with
  | nil => rw [importsFrom]
  | cons c text ih =>
    rw [importsFrom_cons_of_none fun h ↦ importLine?_eq_none (hstart h).ne_import]
    rw [Quiet, lineStarts.newlineTails] at hquiet
    split at hquiet
    · exact ih (fun _ ↦ hquiet text List.mem_cons_self)
        fun line hline ↦ hquiet line (List.mem_cons_of_mem _ hline)
    · rename_i hc
      exact ih (fun hnewline ↦ absurd (beq_iff_eq.1 hnewline) hc) hquiet

theorem newlineTails_eq_nil (h : '\n' ∉ text) : lineStarts.newlineTails text = [] := by
  induction text with
  | nil => rfl
  | cons c text ih =>
    rw [List.mem_cons, not_or] at h
    rw [lineStarts.newlineTails, if_neg (Ne.symm h.1), ih h.2]

/-- A declaration starts a line if the blanks before it do. -/
theorem importsFrom_lead (lead : Gap) (text : List Char)
    (hstart : lineStart = true ∨ '\n' ∈ lead.chars) :
    ∃ rest : Gap, importsFrom lineStart (lead.chars ++ text) =
      importsFrom true (rest.chars ++ text) := by
  by_cases htrue : lineStart = true
  · exact ⟨lead, by rw [htrue]⟩
  · obtain ⟨before, rest, hlead, hbefore⟩ :=
      List.eq_append_cons_of_mem (hstart.resolve_left htrue)
    have hblank : ∀ c ∈ rest, Text.isBlank c = true := fun c hc ↦
      lead.blank c (by rw [hlead]; exact List.mem_append_right _ (List.mem_cons_of_mem _ hc))
    refine ⟨⟨rest, hblank⟩, ?_⟩
    rw [hlead, List.append_assoc, List.cons_append]
    apply importsFrom_append (fun h ↦ absurd h htrue)
    rw [newlineTails_eq_nil hbefore]
    intro line hline
    cases hline

end Lines

section Statement

variable {keyword : String} (hword : ∀ c ∈ keyword.toList, Text.isWord c = true)
include hword

/-- The lines of a declaration start with its keyword, or with no such word. -/
theorem lines_statement (lead : Gap) {text : List Char} (hquiet : Quiet text) :
    ∀ line ∈ lineStarts.newlineTails (lead.chars ++ (keyword.toList ++ text)),
      (∃ rest : Gap, line = rest.chars ++ (keyword.toList ++ text)) ∨ NotStatement line := by
  have hkeyword : '\n' ∉ keyword.toList := fun hmem ↦ absurd (hword '\n' hmem) (by decide)
  intro line hline
  rw [newlineTails_append, newlineTails_append, newlineTails_eq_nil hkeyword] at hline
  rcases List.mem_append.1 hline with hline | hline
  · obtain ⟨rest, hrest, rfl⟩ := List.mem_map.1 hline
    have hsuffix := suffix_of_mem_newlineTails hrest
    exact .inl ⟨⟨rest, fun c hc ↦ lead.blank c (hsuffix.subset hc)⟩, rfl⟩
  · exact .inr (hquiet line hline)

theorem importsFrom_statement {lineStart : Bool} (lead : Gap) {text more : List Char}
    (hquiet : Quiet text)
    (hnone : ∀ lead : Gap,
      importLine? (lead.chars ++ (keyword.toList ++ (text ++ ';' :: more))) = none) :
    importsFrom lineStart (statement lead keyword text ++ more) = importsFrom false more := by
  have htext : statement lead keyword text ++ more =
      (lead.chars ++ (keyword.toList ++ text)) ++ ';' :: more := by
    simp [statement]
  have hline (lead : Gap) :
      importLine? (lead.chars ++ (keyword.toList ++ text) ++ ';' :: more) = none := by
    rw [List.append_assoc, List.append_assoc]
    exact hnone lead
  rw [htext]
  apply importsFrom_append (fun _ ↦ hline lead)
  intro line hmem
  rcases lines_statement hword lead hquiet line hmem with ⟨rest, rfl⟩ | hnot
  · exact hline rest
  · apply importLine?_eq_none
    rw [firstWord_trimStart_append (by decide) (by decide)]
    exact hnot.ne_import

end Statement

theorem importsFrom_import {i : ImportLine} (h : i.Proper) {lineStart : Bool}
    (hstart : lineStart = true ∨ '\n' ∈ i.lead.chars) (more : List Char) :
    importsFrom lineStart (i.chars ++ more) = i.imported?.toList ++ importsFrom false more := by
  rw [ImportLine.chars, ImportLine.imported?]
  cases hstatic : i.static with
  | none =>
    have htext : statement i.lead "import" i.afterKeyword ++ more =
        i.lead.chars ++ ("import".toList ++ (i.afterKeyword ++ ';' :: more)) := by
      simp [statement]
    obtain ⟨rest, hlead⟩ :=
      importsFrom_lead i.lead ("import".toList ++ (i.afterKeyword ++ ';' :: more)) hstart
    rw [htext, hlead, importsFrom_of_some (ImportLine.importLine?_eq_some h hstatic rest more)]
    rfl
  | some gap =>
    have hsome : i.static.isSome := by rw [hstatic]; rfl
    rw [importsFrom_statement isWord_import i.lead h.quiet fun lead ↦
      ImportLine.importLine?_static h hsome lead more]
    rfl

/-! ## Sources -/

section Source

variable {rest : List Char} (hrest : ∀ line ∈ lineStarts rest, NotStatement line)
include hrest

theorem importsFrom_imports {is : List ImportLine} (hproper : ∀ i ∈ is, i.Proper)
    {lineStart : Bool}
    (hlines : ∀ i ∈ if lineStart then is.tail else is, '\n' ∈ i.lead.chars) :
    importsFrom lineStart (is.flatMap ImportLine.chars ++ rest) =
      is.filterMap ImportLine.imported? := by
  induction is generalizing lineStart with
  | nil =>
    exact importsFrom_quiet (fun _ ↦ hrest rest List.mem_cons_self)
      fun line hline ↦ hrest line (List.mem_cons_of_mem _ hline)
  | cons i is ih =>
    have hstart : lineStart = true ∨ '\n' ∈ i.lead.chars := by
      cases lineStart with
      | true => exact .inl rfl
      | false => exact .inr (hlines i List.mem_cons_self)
    have hnext : ∀ i ∈ if false then is.tail else is, '\n' ∈ i.lead.chars := by
      intro j hj
      apply hlines j
      cases lineStart with
      | true => exact hj
      | false => exact List.mem_cons_of_mem _ hj
    rw [List.flatMap_cons, List.append_assoc,
      importsFrom_import (hproper i List.mem_cons_self) hstart,
      ih (fun j hj ↦ hproper j (List.mem_cons_of_mem _ hj)) hnext, List.filterMap_cons]
    cases i.imported? <;> rfl

/-- No line of the imports, or after them, declares a package. -/
theorem packageLine?_imports {is : List ImportLine} (hproper : ∀ i ∈ is, i.Proper) :
    ∀ line ∈ lineStarts (is.flatMap ImportLine.chars ++ rest), packageLine? line = none := by
  induction is with
  | nil => exact fun line hline ↦ packageLine?_eq_none (hrest line hline).ne_package
  | cons i is ih =>
    have hnext := ih fun j hj ↦ hproper j (List.mem_cons_of_mem _ hj)
    have hi := hproper i List.mem_cons_self
    have htext : (i :: is).flatMap ImportLine.chars ++ rest =
        (i.lead.chars ++ ("import".toList ++ i.afterKeyword)) ++
          ';' :: (is.flatMap ImportLine.chars ++ rest) := by
      simp [ImportLine.chars, statement]
    have himport (lead : Gap) :
        packageLine? (lead.chars ++ ("import".toList ++ i.afterKeyword) ++
          ';' :: (is.flatMap ImportLine.chars ++ rest)) = none := by
      apply packageLine?_eq_none
      rw [firstWord_trimStart_append (by decide) (by decide), ImportLine.afterKeyword_eq,
        firstWord_keyword isWord_import (by decide) lead hi.gap_ne_nil]
      decide
    intro line hline
    rw [htext] at hline
    rcases List.mem_cons.1 hline with rfl | hline
    · exact himport i.lead
    · rw [newlineTails_append] at hline
      rcases List.mem_append.1 hline with hline | hline
      · obtain ⟨start, hstart, rfl⟩ := List.mem_map.1 hline
        rcases lines_statement isWord_import i.lead hi.quiet start hstart with ⟨lead, rfl⟩ | hnot
        · exact himport lead
        · apply packageLine?_eq_none
          rw [firstWord_trimStart_append (by decide) (by decide)]
          exact hnot.ne_package
      · exact hnext line (List.mem_cons_of_mem _ hline)

end Source

namespace Written.Source

/-- The text before the declarations of types. -/
def header (s : Source) : List Char :=
  s.package.elim [] PackageLine.chars ++ s.imports.flatMap ImportLine.chars

theorem flatten_lexemes_eq (s : Source) :
    flatten s.lexemes = s.header ++ flatten (typeLexemes s.types s.trail) := by
  rw [lexemes, flatten_append, flatten_plain, header]

theorem packageName_flatten (s : Source) :
    Java.packageName (flatten s.lexemes) = s.packageName := by
  rw [flatten_lexemes_eq, header, Java.packageName, packageName]
  cases s.package with
  | none =>
    have hnone := packageLine?_imports s.quiet s.proper
    have hfind := List.findSome?_eq_none_iff.2 hnone
    rw [Option.elim_none, List.nil_append, hfind]
    rfl
  | some p =>
    have hread := packageLine?_chars p (s.imports.flatMap ImportLine.chars ++
      flatten (typeLexemes s.types s.trail))
    rw [Option.elim_some, List.append_assoc, lineStarts, List.findSome?_cons, hread]
    rfl

theorem imports_flatten (s : Source) : Java.imports (flatten s.lexemes) = s.importNames := by
  have hlines := s.importLines
  rw [flatten_lexemes_eq, header, Java.imports, importNames]
  cases hpackage : s.package with
  | none =>
    rw [hpackage] at hlines
    exact importsFrom_imports s.quiet s.proper hlines
  | some p =>
    rw [hpackage] at hlines
    have hnone (lead : Gap) (more : List Char) : importLine? (lead.chars ++ ("package".toList ++
        (p.gap.chars ++ p.name.chars ++ p.trail.chars ++ ';' :: more))) = none := by
      apply importLine?_eq_none
      rw [List.append_assoc, List.append_assoc,
        firstWord_keyword isWord_package (by decide) lead p.gap_ne_nil]
      decide
    rw [Option.elim_some, List.append_assoc, PackageLine.chars,
      importsFrom_statement isWord_package p.lead p.quiet fun lead ↦ hnone lead _]
    exact importsFrom_imports s.quiet s.proper hlines

end Written.Source

end EndpointStubs.Java
