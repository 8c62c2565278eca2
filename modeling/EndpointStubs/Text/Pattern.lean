/-!
# Fixed patterns in text

Searching for, counting and replacing a fixed pattern. Occurrences are taken
from the left and do not overlap.
-/

namespace EndpointStubs.Text

/-- The rest of the text after the pattern, if it starts with the pattern. -/
def after? : (pattern text : List Char) → Option (List Char)
  | [], text => some text
  | _ :: _, [] => none
  | p :: pattern, c :: text => if p = c then after? pattern text else none

theorem after?_eq_some_iff {pattern text rest : List Char} :
    after? pattern text = some rest ↔ text = pattern ++ rest := by
  fun_induction after? pattern text with
  | case1 text => simp
  | case2 => simp
  | case3 p pattern text ih => simp [ih]
  | case4 p pattern c text h => simp [Ne.symm h]

theorem length_of_after? {pattern text rest : List Char} (h : after? pattern text = some rest) :
    text.length = pattern.length + rest.length := by
  rw [after?_eq_some_iff.1 h, List.length_append]

/-- Writes `new` in place of each occurrence of the pattern. The empty pattern occurs nowhere. -/
def replaceAll (pattern new : List Char) : List Char → List Char
  | [] => []
  | c :: tail =>
    if _hp : pattern = [] then c :: tail
    else
      match _h : after? pattern (c :: tail) with
      | some rest => new ++ replaceAll pattern new rest
      | none => c :: replaceAll pattern new tail
termination_by text => text.length
decreasing_by
  · have := length_of_after? _h
    have := List.length_pos_iff.2 _hp
    omega
  · simp

/-- How often the pattern occurs. The empty pattern occurs nowhere. -/
def countOccurrences (pattern : List Char) : List Char → Nat
  | [] => 0
  | c :: tail =>
    if _hp : pattern = [] then 0
    else
      match _h : after? pattern (c :: tail) with
      | some rest => countOccurrences pattern rest + 1
      | none => countOccurrences pattern tail
termination_by text => text.length
decreasing_by
  · have := length_of_after? _h
    have := List.length_pos_iff.2 _hp
    omega
  · simp

section

variable {α : Type} [DecidableEq α]

/-- The pieces between the separators; never the empty list. -/
def splitAt (separator : α) : List α → List (List α)
  | [] => [[]]
  | c :: rest =>
    if c = separator then [] :: splitAt separator rest
    else
      match splitAt separator rest with
      | [] => [[c]]
      | piece :: pieces => (c :: piece) :: pieces

theorem splitAt_ne_nil (separator : α) (text : List α) : splitAt separator text ≠ [] := by
  cases text with
  | nil => simp [splitAt]
  | cons c rest =>
    rw [splitAt]
    split
    · simp
    · split <;> simp

theorem intercalate_splitAt (separator : α) (text : List α) :
    [separator].intercalate (splitAt separator text) = text := by
  induction text with
  | nil => rfl
  | cons c rest ih =>
    rw [splitAt]
    cases h : splitAt separator rest with
    | nil => exact absurd h (splitAt_ne_nil separator rest)
    | cons piece pieces =>
      rw [h] at ih
      split
      · rename_i hc
        simp [List.intercalate_cons_cons, ih, hc]
      · cases pieces <;> simp_all [List.intercalate_cons_cons]

end

def splitDots (name : String) : List String :=
  (splitAt '.' name.toList).map .ofList

def joinDots (parts : List String) : String :=
  ".".intercalate parts

end EndpointStubs.Text
