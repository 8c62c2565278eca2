import EndpointStubs.Text.Blank
import EndpointStubs.Text.Pattern
import EndpointStubs.Text.Word

/-!
# Package and import declarations

These are recognised by line: each must be the first thing on its line, apart
from blanks. Static imports are not reported.
-/

namespace EndpointStubs.Java

/-- The text after the keyword and the blanks that must follow it. -/
def afterKeyword? (keyword : String) (text : List Char) : Option (List Char) :=
  match Text.after? keyword.toList (Text.trimStart text) with
  | none => none
  | some rest =>
    if (rest.takeWhile Text.isBlank).isEmpty then none else some (Text.trimStart rest)

/-- The text after the semicolon that follows, possibly after blanks. -/
def afterSemicolon? (text : List Char) : Option (List Char) :=
  match Text.trimStart text with
  | ';' :: rest => some rest
  | _ => none

def packageLine? (text : List Char) : Option String := do
  let rest ← afterKeyword? "package" text
  let name := rest.takeWhile Text.isWordOrDot
  if name.isEmpty then none
  else
    let _ ← afterSemicolon? (rest.dropWhile Text.isWordOrDot)
    return .ofList name

def isStaticImport (text : List Char) : Bool :=
  match Text.after? "static".toList text with
  | none => false
  | some rest => !(rest.head?.any Text.isWord)

/-- The import declared at the start of the text, and the text after it. -/
def importLine? (text : List Char) : Option (String × List Char) :=
  match afterKeyword? "import" text with
  | none => none
  | some rest =>
    let name := rest.takeWhile Text.isWordOrDot
    let tail := rest.dropWhile Text.isWordOrDot
    if isStaticImport rest ∨ name.isEmpty then none
    else
      match afterSemicolon? tail, tail with
      | some after, _ => some (.ofList name, after)
      | none, '*' :: more =>
        if 2 ≤ name.length ∧ name.getLast? = some '.' then
          (afterSemicolon? more).map fun after ↦ (.ofList (name ++ ['*']), after)
        else none
      | none, _ => none

theorem length_of_afterKeyword? {keyword : String} {text rest : List Char}
    (h : afterKeyword? keyword text = some rest) : rest.length ≤ text.length := by
  simp only [afterKeyword?] at h
  split at h
  · cases h
  · rename_i tail ha
    split at h
    · cases h
    · cases h
      have h₁ := Text.length_of_after? ha
      have h₂ := (List.dropWhile_sublist (l := text) Text.isBlank).length_le
      have h₃ := (List.dropWhile_sublist (l := tail) Text.isBlank).length_le
      simp only [Text.trimStart] at h₁ ⊢
      omega

theorem length_of_afterSemicolon? {text rest : List Char} (h : afterSemicolon? text = some rest) :
    rest.length < text.length := by
  simp only [afterSemicolon?, Text.trimStart] at h
  split at h
  · rename_i hd
    cases h
    have := (List.dropWhile_sublist (l := text) Text.isBlank).length_le
    rw [hd, List.length_cons] at this
    omega
  · cases h

theorem length_of_importLine? {text after : List Char} {name : String}
    (h : importLine? text = some (name, after)) : after.length < text.length := by
  simp only [importLine?] at h
  split at h
  · cases h
  · rename_i rest hk
    have h₁ := length_of_afterKeyword? hk
    have h₂ := (List.dropWhile_sublist (l := rest) Text.isWordOrDot).length_le
    split at h
    · cases h
    · split at h
      · rename_i hs
        have := length_of_afterSemicolon? hs
        cases h
        omega
      · rename_i hd
        split at h
        · obtain ⟨more, hs, he⟩ := Option.map_eq_some_iff.1 h
          have := length_of_afterSemicolon? hs
          rw [hd, List.length_cons] at h₂
          cases he
          omega
        · cases h
      · cases h

/-- The texts that start at the beginning of a line. -/
def lineStarts (text : List Char) : List (List Char) :=
  text :: newlineTails text
where
  newlineTails : List Char → List (List Char)
    | [] => []
    | c :: rest => if c = '\n' then rest :: newlineTails rest else newlineTails rest

/-- The declared package; empty if none is declared. -/
def packageName (text : List Char) : String :=
  ((lineStarts text).findSome? packageLine?).getD ""

/-- The imports declared in a text, in order; `lineStart` says whether it starts a line. -/
def importsFrom (lineStart : Bool) : List Char → List String
  | [] => []
  | c :: rest =>
    match _h : if lineStart then importLine? (c :: rest) else none with
    | some (name, after) => name :: importsFrom false after
    | none => importsFrom (c == '\n') rest
termination_by text => text.length
decreasing_by
  · split at _h
    · exact length_of_importLine? _h
    · cases _h
  · simp

def imports (text : List Char) : List String :=
  importsFrom true text

end EndpointStubs.Java
