import EndpointStubs.Proofs.Substitution

/-!
# Format strings

The generated stubs pass normalized templates to the formatter of the target
language. A format string is text with conversions: after a percent sign come an
argument index, flags, a width and a precision, all of them optional, and a
letter, or two for a date. Two percent signs stand for one in the text.
-/

namespace EndpointStubs

inductive FormatPiece where
  | text (c : Char)
  /-- A conversion, without its percent sign. -/
  | conversion (spec : List Char)
  deriving DecidableEq, Repr

namespace FormatPiece

/-- How the piece is written. -/
def chars : FormatPiece → List Char
  | text c => if c = '%' then ['%', '%'] else [c]
  | conversion spec => '%' :: spec

def spec? : FormatPiece → Option (List Char)
  | text _ => none
  | conversion spec => some spec

def text? : FormatPiece → Option Char
  | text c => some c
  | conversion _ => none

end FormatPiece

def formatFlags : List Char :=
  ['-', '#', '+', ' ', '0', ',', '(', '<']

def isConversionLetter (c : Char) : Bool :=
  c.isAlpha || c == '%'

/-- A number and a dollar sign, if the text starts with them. -/
def argumentIndex (text : List Char) : List Char × List Char :=
  match text.dropWhile (·.isDigit) with
  | '$' :: rest =>
    if (text.takeWhile (·.isDigit)).isEmpty then ([], text)
    else (text.takeWhile (·.isDigit) ++ ['$'], rest)
  | _ => ([], text)

/-- A point and a number, if the text starts with them. -/
def precision (text : List Char) : List Char × List Char :=
  match text with
  | '.' :: rest =>
    if (rest.takeWhile (·.isDigit)).isEmpty then ([], text)
    else ('.' :: rest.takeWhile (·.isDigit), rest.dropWhile (·.isDigit))
  | _ => ([], text)

/-- The letter of a conversion; `t` and `T` come with a second one if there is one. -/
def conversionLetters? : List Char → Option (List Char × List Char)
  | [] => none
  | [c] => if isConversionLetter c then some ([c], []) else none
  | c :: d :: rest =>
    if (c = 't' ∨ c = 'T') ∧ isConversionLetter d then some ([c, d], rest)
    else if isConversionLetter c then some ([c], d :: rest)
    else none

/-- The conversion that a text starts with, and the rest of the text. -/
def conversion? (text : List Char) : Option (List Char × List Char) :=
  let index := argumentIndex text
  let flags := index.2.takeWhile formatFlags.contains
  let unflagged := index.2.dropWhile formatFlags.contains
  let width := unflagged.takeWhile (·.isDigit)
  let precision := precision (unflagged.dropWhile (·.isDigit))
  match conversionLetters? precision.2 with
  | some (letters, rest) => some (index.1 ++ flags ++ width ++ precision.1 ++ letters, rest)
  | none => none

theorem append_argumentIndex (text : List Char) :
    (argumentIndex text).1 ++ (argumentIndex text).2 = text := by
  unfold argumentIndex
  split
  · rename_i rest h
    split
    · rfl
    · rw [List.append_assoc, List.singleton_append, ← h, List.takeWhile_append_dropWhile]
  · rfl

theorem append_precision (text : List Char) :
    (precision text).1 ++ (precision text).2 = text := by
  unfold precision
  split
  · split
    · rfl
    · rw [List.cons_append, List.takeWhile_append_dropWhile]
  · rfl

theorem append_of_conversionLetters? {text letters rest : List Char}
    (h : conversionLetters? text = some (letters, rest)) :
    letters ++ rest = text ∧ letters ≠ [] := by
  unfold conversionLetters? at h
  split at h
  · cases h
  · split at h <;> cases h
    exact ⟨rfl, by simp⟩
  · split at h
    · cases h
      exact ⟨rfl, by simp⟩
    · split at h <;> cases h
      exact ⟨rfl, by simp⟩

/-- A conversion is read as it is written, and it is never empty. -/
theorem append_of_conversion? {text spec rest : List Char}
    (h : conversion? text = some (spec, rest)) : spec ++ rest = text ∧ spec ≠ [] := by
  unfold conversion? at h
  dsimp only at h
  split at h
  · rename_i letters after hletters
    cases h
    obtain ⟨happend, hne⟩ := append_of_conversionLetters? hletters
    refine ⟨?_, fun hnil ↦ hne (List.append_eq_nil_iff.1 hnil).2⟩
    simp only [List.append_assoc]
    rw [happend, append_precision, List.takeWhile_append_dropWhile,
      List.takeWhile_append_dropWhile, append_argumentIndex]
  · cases h

/-- The pieces of a format string; none, if a percent sign starts no conversion. -/
def formatPieces? (text : List Char) : Option (List FormatPiece) :=
  match text with
  | [] => some []
  | c :: rest =>
    if c = '%' then
      match _h : conversion? rest with
      | some (spec, after) =>
        (formatPieces? after).map
          ((if spec = ['%'] then .text '%' else .conversion spec) :: ·)
      | none => none
    else (formatPieces? rest).map (.text c :: ·)
termination_by text.length
decreasing_by
  · obtain ⟨happend, -⟩ := append_of_conversion? _h
    rw [← happend, List.length_cons, List.length_append]
    omega
  · simp

/-- A format string is its pieces, written one after the other. -/
theorem flatMap_chars_formatPieces? {text : List Char} {pieces : List FormatPiece}
    (h : formatPieces? text = some pieces) : pieces.flatMap FormatPiece.chars = text := by
  fun_induction formatPieces? text generalizing pieces with
  | case1 =>
    cases h
    rfl
  | case2 rest spec after hspec ih =>
    obtain ⟨rest', hrest', rfl⟩ := Option.map_eq_some_iff.1 h
    obtain ⟨happend, -⟩ := append_of_conversion? hspec
    rw [List.flatMap_cons, ih hrest', ← happend]
    split
    · rename_i hpercent
      rw [hpercent]
      rfl
    · rfl
  | case3 rest hspec => cases h
  | case4 c rest hc ih =>
    obtain ⟨rest', hrest', rfl⟩ := Option.map_eq_some_iff.1 h
    rw [List.flatMap_cons, ih hrest', FormatPiece.chars, if_neg hc, List.singleton_append]

theorem formatPieces?_cons_of_ne {c : Char} (h : c ≠ '%') (rest : List Char) :
    formatPieces? (c :: rest) = (formatPieces? rest).map (.text c :: ·) := by
  rw [formatPieces?, if_neg h]

theorem conversion?_s (rest : List Char) : conversion? ('s' :: rest) = some (['s'], rest) := by
  have hletters : conversionLetters? ('s' :: rest) = some (['s'], rest) := by
    cases rest <;> rfl
  simp [conversion?, argumentIndex, precision, formatFlags, hletters]

theorem formatPieces?_specifier (rest : List Char) :
    formatPieces? ('%' :: 's' :: rest) = (formatPieces? rest).map (.conversion ['s'] :: ·) := by
  rw [formatPieces?, if_pos rfl]
  split
  · rename_i spec after h
    rw [conversion?_s] at h
    cases h
    rfl
  · rename_i h
    rw [conversion?_s] at h
    cases h

/-- The text that a format string whose conversions are all `%s` gives for the arguments; none,
if there are too few. -/
def fillIn : List FormatPiece → List (List Char) → Option (List Char)
  | [], _ => some []
  | .text c :: pieces, arguments => (fillIn pieces arguments).map (c :: ·)
  | .conversion _ :: _, [] => none
  | .conversion _ :: pieces, argument :: arguments =>
    (fillIn pieces arguments).map (argument ++ ·)

end EndpointStubs
