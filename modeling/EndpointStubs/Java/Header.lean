import EndpointStubs.Java.Annotations

/-!
# Declaration headers

A declaration starts with annotations and modifiers in any interleaving. Peeling
them off leaves the part that says what is declared. Peeling ends at the first
thing that is neither: an annotation type (`@interface`), an annotation whose
parenthesis is never closed (its name is dropped, the parenthesis stays), or
any other word.
-/

namespace EndpointStubs.Java

def modifiers : List String :=
  ["public", "protected", "private", "static", "final", "abstract", "synchronized", "native",
    "transient", "volatile", "strictfp", "default", "sealed", "non-sealed"]

def isModifierChar (c : Char) : Bool :=
  Text.isWord c || c == '-'

/-- What stands at the front of a header. -/
inductive Peeled where
  | annotated (use : AnnotationUse) (rest : List Lexeme)
  | ignored (rest : List Lexeme)
  | declaration (rest : List Lexeme)

/-- The part of a dotted name after its last dot. -/
def simpleName (name : List Char) : String :=
  .ofList (Text.splitTrailing (· != '.') name).2

/-- Reads the annotation whose `@` has just been passed; `header` starts with that `@`. -/
def peelAnnotated (header afterAt : List Lexeme) : Peeled :=
  let text := afterAt.dropWhile Lexeme.isBlank
  let name := flatten (text.takeWhile (Lexeme.is Text.isWordOrDot))
  let rest := text.dropWhile (Lexeme.is Text.isWordOrDot)
  if name.isEmpty ∨ name = "interface".toList then .declaration header
  else
    match rest.dropWhile Lexeme.isBlank with
    | .char '(' :: inner =>
      match closing '(' ')' 0 inner with
      | some (arguments, outside) =>
        .annotated ⟨simpleName name, some (flatten arguments)⟩ outside
      | none => .declaration rest
    | _ => .annotated ⟨simpleName name, none⟩ rest

def peel : List Lexeme → Peeled
  | [] => .declaration []
  | l :: rest =>
    if l.isBlank then .ignored rest
    else if l = .char '@' then peelAnnotated (l :: rest) rest
    else
      let word := (l :: rest).takeWhile (Lexeme.is isModifierChar)
      if modifiers.contains (.ofList (flatten word)) then
        .ignored ((l :: rest).dropWhile (Lexeme.is isModifierChar))
      else .declaration (l :: rest)

theorem length_dropWhile_le {α : Type} (p : α → Bool) (l : List α) :
    (l.dropWhile p).length ≤ l.length :=
  (List.dropWhile_sublist p).length_le

theorem length_of_peelAnnotated {header afterAt rest : List Lexeme} {a : AnnotationUse}
    (h : peelAnnotated header afterAt = .annotated a rest) : rest.length ≤ afterAt.length := by
  have h₁ := length_dropWhile_le Lexeme.isBlank afterAt
  have h₂ := length_dropWhile_le (Lexeme.is Text.isWordOrDot) (afterAt.dropWhile Lexeme.isBlank)
  have h₃ := length_dropWhile_le Lexeme.isBlank
    ((afterAt.dropWhile Lexeme.isBlank).dropWhile (Lexeme.is Text.isWordOrDot))
  simp only [peelAnnotated] at h
  split at h
  · cases h
  · split at h
    · rename_i hinner
      split at h
      · rename_i hclosing
        have h₄ := length_of_closing hclosing
        rw [hinner, List.length_cons] at h₃
        cases h
        omega
      · cases h
    · cases h
      omega

theorem peelAnnotated_ne_ignored (header afterAt rest : List Lexeme) :
    peelAnnotated header afterAt ≠ .ignored rest := by
  simp only [peelAnnotated]
  split
  · simp
  · split
    · split <;> simp
    · simp

theorem length_of_peel_annotated {header rest : List Lexeme} {a : AnnotationUse}
    (h : peel header = .annotated a rest) : rest.length < header.length := by
  cases header with
  | nil => simp [peel] at h
  | cons l tail =>
    simp only [peel] at h
    split at h
    · cases h
    · split at h
      · have := length_of_peelAnnotated h
        simp only [List.length_cons]
        omega
      · split at h <;> cases h

theorem length_of_peel_ignored {header rest : List Lexeme} (h : peel header = .ignored rest) :
    rest.length < header.length := by
  cases header with
  | nil => simp [peel] at h
  | cons l tail =>
    simp only [peel] at h
    split at h
    · cases h
      simp
    · split at h
      · exact absurd h (peelAnnotated_ne_ignored _ _ _)
      · split at h
        · rename_i hword
          cases h
          rw [List.takeWhile_cons] at hword
          rw [List.dropWhile_cons]
          split at hword
          · rename_i hl
            rw [if_pos hl]
            have := length_dropWhile_le (Lexeme.is isModifierChar) tail
            simp only [List.length_cons]
            omega
          · exact absurd hword (by decide)
        · cases h

/-- The annotations of a declaration and what they are put on. -/
def peelHeader (header : List Lexeme) : List AnnotationUse × List Lexeme :=
  match _h : peel header with
  | .annotated a rest =>
    let (annotations, declaration) := peelHeader rest
    (a :: annotations, declaration)
  | .ignored rest => peelHeader rest
  | .declaration rest => ([], rest)
termination_by header.length
decreasing_by
  · exact length_of_peel_annotated _h
  · exact length_of_peel_ignored _h

end EndpointStubs.Java
