/-!
# String literals

The escaped content of a string literal, the text it stands for, and the
string literals that occur in an expression. A content is well formed if no
quote stands in it unescaped and every backslash escapes a character of the
same line.
-/

namespace EndpointStubs.Java

def escapeChar (c : Char) : List Char :=
  if c == '\\' || c == '"' then ['\\', c] else [c]

/-- The content of the literal that stands for a newline-free text. -/
def escape (text : List Char) : List Char :=
  text.flatMap escapeChar

/-- Undoes the escapes of backslashes and double quotes and leaves all others as they are. -/
def unescape : List Char → List Char
  | [] => []
  | '\\' :: '\\' :: rest => '\\' :: unescape rest
  | '\\' :: '"' :: rest => '"' :: unescape rest
  | c :: rest => c :: unescape rest

theorem unescape_escape (text : List Char) : unescape (escape text) = text := by
  induction text with
  | nil => rfl
  | cons c rest ih =>
    simp only [escape, List.flatMap_cons, escapeChar] at ih ⊢
    by_cases hb : c = '\\'
    · simp [hb, unescape, ih]
    · by_cases hq : c = '"'
      · simp [hq, unescape, ih]
      · simp [hb, hq, unescape, ih]

/-- The content up to the closing quote and the text after it; nothing if the
literal is not closed, or a backslash ends a line. -/
def closeString : List Char → Option (List Char × List Char)
  | [] => none
  | c :: rest =>
    if c = '\\' then
      match rest with
      | [] => none
      | escaped :: rest =>
        if escaped = '\n' then none
        else
          (closeString rest).map fun (content, outside) ↦ (c :: escaped :: content, outside)
    else if c = '"' then some ([], rest)
    else (closeString rest).map fun (content, outside) ↦ (c :: content, outside)

theorem append_of_closeString {text content outside : List Char}
    (h : closeString text = some (content, outside)) : text = content ++ '"' :: outside := by
  fun_induction closeString text generalizing content outside with
  | case1 => simp at h
  | case2 => simp at h
  | case3 => simp at h
  | case4 _ _ _ ih =>
    obtain ⟨⟨a, b⟩, hc, he⟩ := Option.map_eq_some_iff.1 h
    cases he
    rw [ih hc, List.cons_append, List.cons_append]
  | case5 => simp_all
  | case6 _ _ _ _ ih =>
    obtain ⟨⟨a, b⟩, hc, he⟩ := Option.map_eq_some_iff.1 h
    cases he
    rw [ih hc, List.cons_append]

/-- The contents of the closed string literals in an expression, from the left. -/
def stringContents : List Char → List (List Char)
  | [] => []
  | c :: rest =>
    if c = '"' then
      match _h : closeString rest with
      | some (content, outside) => content :: stringContents outside
      | none => stringContents rest
    else stringContents rest
termination_by text => text.length
decreasing_by
  · have := congrArg List.length (append_of_closeString _h)
    simp only [List.length_append, List.length_cons] at this ⊢
    omega
  · simp
  · simp

def escapeString (text : String) : String :=
  .ofList (escape text.toList)

end EndpointStubs.Java
