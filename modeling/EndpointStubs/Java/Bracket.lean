import EndpointStubs.Java.Lexeme
import EndpointStubs.Text.Blank

/-!
# Brackets and separators

Finding the bracket that closes an open one, and cutting a text at its commas
outside of all brackets.
-/

namespace EndpointStubs.Java

/-- The text up to the bracket that closes the one just opened, and the text
after it. Only brackets of the same kind are counted; `depth` of them have been
opened since. -/
def closing (opener closer : Char) (depth : Nat) :
    List Lexeme → Option (List Lexeme × List Lexeme)
  | [] => none
  | l :: rest =>
    if l = .char closer then
      if depth = 0 then some ([], rest)
      else (closing opener closer (depth - 1) rest).map fun (inside, after) ↦ (l :: inside, after)
    else
      (closing opener closer (if l = .char opener then depth + 1 else depth) rest).map
        fun (inside, after) ↦ (l :: inside, after)

theorem append_of_closing {opener closer : Char} {depth : Nat} {text inside after : List Lexeme}
    (h : closing opener closer depth text = some (inside, after)) :
    text = inside ++ .char closer :: after := by
  induction text generalizing depth inside after with
  | nil => simp [closing] at h
  | cons l rest ih =>
    rw [closing] at h
    split at h
    · rename_i hl
      split at h
      · simp_all
      · obtain ⟨⟨i, a⟩, hc, he⟩ := Option.map_eq_some_iff.1 h
        obtain ⟨rfl, rfl⟩ := Prod.mk.inj he
        rw [ih hc, List.cons_append]
    · obtain ⟨⟨i, a⟩, hc, he⟩ := Option.map_eq_some_iff.1 h
      obtain ⟨rfl, rfl⟩ := Prod.mk.inj he
      rw [ih hc, List.cons_append]

theorem length_of_closing {opener closer : Char} {depth : Nat} {text inside after : List Lexeme}
    (h : closing opener closer depth text = some (inside, after)) :
    inside.length + after.length + 1 = text.length := by
  rw [append_of_closing h, List.length_append, List.length_cons]
  omega

/-- A bracket that is closed in a text is closed at the same place in any longer text. -/
theorem closing_lex_append {opener closer : Char} {depth : Nat} {text : List Char}
    {inside after : List Lexeme} (more : List Char)
    (h : closing opener closer depth (lex text) = some (inside, after)) :
    ∃ rest, closing opener closer depth (lex (text ++ more)) = some (inside, rest) := by
  fun_induction lex text generalizing depth inside after with
  | case1 => simp [closing] at h
  | case2 c rest hq ih =>
    have hne : (literalTail c rest).2 ≠ [] := fun hnil ↦ by simp [hnil, lex, closing] at h
    simp only [closing, reduceCtorEq, if_false, Option.map_eq_some_iff] at h
    obtain ⟨⟨i, a⟩, hc, he⟩ := h
    obtain ⟨rest', hr⟩ := ih hc
    refine ⟨rest', ?_⟩
    rw [List.cons_append, lex, if_pos hq, literalTail_append_right more hne]
    cases he
    simp [closing, hr]
  | case3 c rest hq ih =>
    rw [List.cons_append, lex, if_neg hq]
    rw [closing] at h ⊢
    split at h
    · rename_i hl
      rw [if_pos hl]
      split at h
      · rename_i hd
        cases h
        exact ⟨_, if_pos hd⟩
      · rename_i hd
        obtain ⟨⟨i, a⟩, hc, he⟩ := Option.map_eq_some_iff.1 h
        obtain ⟨rest', hr⟩ := ih hc
        cases he
        exact ⟨rest', by rw [if_neg hd, hr]; rfl⟩
    · rename_i hl
      obtain ⟨⟨i, a⟩, hc, he⟩ := Option.map_eq_some_iff.1 h
      obtain ⟨rest', hr⟩ := ih hc
      cases he
      exact ⟨rest', by rw [if_neg hl, hr]; rfl⟩

def isOpening (c : Char) : Bool :=
  c == '(' || c == '{' || c == '<'

def isClosing (c : Char) : Bool :=
  c == ')' || c == '}' || c == '>'

/-- The pieces between the commas at depth zero, angle brackets counted too. -/
def commaPieces (depth : Int) : List Lexeme → List (List Lexeme)
  | [] => [[]]
  | l :: rest =>
    if l = .char ',' ∧ depth = 0 then [] :: commaPieces depth rest
    else
      let inner := commaPieces
        (if l.is isOpening then depth + 1 else if l.is isClosing then depth - 1 else depth) rest
      match inner with
      | [] => [[l]]
      | piece :: pieces => (l :: piece) :: pieces

theorem commaPieces_ne_nil (depth : Int) (text : List Lexeme) : commaPieces depth text ≠ [] := by
  cases text with
  | nil => simp [commaPieces]
  | cons l rest =>
    rw [commaPieces]
    split
    · simp
    · simp only
      split <;> simp

def Lexeme.isBlank (l : Lexeme) : Bool :=
  l.is Text.isBlank

/-- The pieces of a comma-separated text, without those that are blank. -/
def listItems (text : List Lexeme) : List (List Lexeme) :=
  (commaPieces 0 text).filter fun piece ↦ !piece.all Lexeme.isBlank

end EndpointStubs.Java
