import EndpointStubs.Text.Loose

/-!
# Wildcards in names

A pattern for one name: a star stands for any characters, a question mark for
one, and a class in square brackets for one of its characters, or for any other
one if the class starts with an exclamation mark. A bracket that is never closed
stands for itself. Whether a pattern covers a name is found for all tails of the
name at once; `covers_nil`, `covers_star_cons` and `covers_cons` say what
that means piece by piece.
-/

namespace EndpointStubs

/-- A class of characters: some single ones and some ranges. -/
structure CharClass where
  negated : Bool
  singles : LooseText
  ranges : List (CodePoint × CodePoint)
  deriving DecidableEq, Repr

def CharClass.contains (charClass : CharClass) (c : CodePoint) : Bool :=
  charClass.negated !=
    (charClass.singles.contains c ||
      charClass.ranges.any fun (a, b) ↦ a.number ≤ c.number && c.number ≤ b.number)

inductive Wildcard where
  | char (c : CodePoint)
  | any
  | star
  | oneOf (charClass : CharClass)
  deriving DecidableEq, Repr

namespace Wildcard

/-- The pieces of the content of a class between the hyphens that make ranges: a
hyphen does so if a character stands before it that no other range ends with. -/
def rangePieces (text : LooseText) (skip : Nat) : LooseText → List LooseText
  | [] => [text]
  | c :: rest =>
    match skip with
    | 0 =>
      if c = '-' then text :: rangePieces [] 2 rest
      else rangePieces (text ++ [c]) 0 rest
    | skip + 1 => rangePieces (text ++ [c]) skip rest

/-- A hyphen at the end stands for itself. -/
def closeRange (pieces : List LooseText) : List LooseText :=
  match pieces.reverse with
  | [] :: last :: others => ((last ++ [.char '-']) :: others).reverse
  | _ => pieces

/-- Joins the pieces around each range that holds nothing, without the ends of the range. -/
def dropEmptyRanges : List LooseText → List LooseText
  | [] => []
  | piece :: rest =>
    match dropEmptyRanges rest with
    | [] => [piece]
    | next :: others =>
      match piece.getLast?, next.head? with
      | some a, some b =>
        if b.number < a.number then (piece.dropLast ++ next.drop 1) :: others
        else piece :: next :: others
      | _, _ => piece :: next :: others

/-- The ranges between the pieces. -/
def rangesBetween : List LooseText → List (CodePoint × CodePoint)
  | piece :: next :: others =>
    match piece.getLast?, next.head? with
    | some a, some b => (a, b) :: rangesBetween (next :: others)
    | _, _ => rangesBetween (next :: others)
  | _ => []

/-- The class that the pieces spell. -/
def classOfPieces (negated : Bool) (pieces : List LooseText) : CharClass :=
  ⟨negated, pieces.flatten, rangesBetween pieces⟩

/-- The class with the given content between its brackets. The mark of negation is no
range end where it is written first, and what is left after dropping the empty ranges
decides whether it stands first. A hyphen right behind it stands for itself. -/
def classOf (content : LooseText) : CharClass :=
  let skip := if content.head? = some (.char '!') then 2 else 1
  match dropEmptyRanges (closeRange (rangePieces [] skip content)) with
  | [.char '!'] :: second :: others => classOfPieces true ((.char '-' :: second) :: others)
  | (.char '!' :: first) :: others => classOfPieces true (first :: others)
  | pieces => classOfPieces false pieces

/-- The content of a class whose bracket has been opened, and the text after its
closing bracket; a closing bracket in the first place belongs to the content. -/
def classContent? (text : LooseText) : Option (LooseText × LooseText) :=
  let (lead, rest) : LooseText × LooseText :=
    match text with
    | .char '!' :: .char ']' :: rest => (['!', ']'], rest)
    | .char '!' :: rest => (['!'], rest)
    | .char ']' :: rest => ([']'], rest)
    | _ => ([], text)
  match rest.dropWhile (· != .char ']') with
  | _ :: after => some (lead ++ rest.takeWhile (· != .char ']'), after)
  | [] => none

/-- Each character is read once; the text of a class is passed over. -/
def parseFrom : Nat → LooseText → List Wildcard
  | _, [] => []
  | skip + 1, _ :: rest => parseFrom skip rest
  | 0, c :: rest =>
    if c = '*' then star :: parseFrom 0 rest
    else if c = '?' then any :: parseFrom 0 rest
    else if c = '[' then
      match classContent? rest with
      | some (content, _) => oneOf (classOf content) :: parseFrom (content.length + 1) rest
      | none => char c :: parseFrom 0 rest
    else char c :: parseFrom 0 rest

def parse (pattern : LooseText) : List Wildcard :=
  parseFrom 0 pattern

def isWild (pattern : LooseText) : Bool :=
  pattern.any fun c ↦ c == '*' || c == '?' || c == '['

def admits : Wildcard → CodePoint → Bool
  | char c, d => c == d
  | any, _ => true
  | star, _ => true
  | oneOf charClass, d => charClass.contains d

/-- For each place, whether the mark is set there or behind it. -/
def hereOrLater : List Bool → List Bool
  | [] => []
  | mark :: marks =>
    let later := hereOrLater marks
    (mark || later.headD false) :: later

/-- For each tail of the name, from the whole name to the empty one, whether the pattern
covers it. -/
def tailsCovered : List Wildcard → LooseText → List Bool
  | [], name => List.replicate name.length false ++ [true]
  | star :: pattern, name => hereOrLater (tailsCovered pattern name)
  | w :: pattern, name =>
    List.zipWith (fun c covered ↦ w.admits c && covered) name
      ((tailsCovered pattern name).drop 1) ++ [false]

/-- The pattern covers the whole name. -/
def covers (pattern : List Wildcard) (name : LooseText) : Bool :=
  (tailsCovered pattern name).headD false

theorem tailsCovered_of_ne_star {w : Wildcard} (h : w ≠ star) (pattern : List Wildcard)
    (name : LooseText) :
    tailsCovered (w :: pattern) name =
      List.zipWith (fun c covered ↦ w.admits c && covered) name
        ((tailsCovered pattern name).drop 1) ++ [false] := by
  cases w with
  | star => exact absurd rfl h
  | _ => rfl

theorem length_hereOrLater (marks : List Bool) : (hereOrLater marks).length = marks.length := by
  induction marks with
  | nil => rfl
  | cons mark marks ih => simp [hereOrLater, ih]

theorem length_tailsCovered (pattern : List Wildcard) (name : LooseText) :
    (tailsCovered pattern name).length = name.length + 1 := by
  induction pattern with
  | nil => simp [tailsCovered]
  | cons w pattern ih =>
    by_cases hw : w = star
    · rw [hw, tailsCovered, length_hereOrLater, ih]
    · simp [tailsCovered_of_ne_star hw, ih]

theorem covers_nil (name : LooseText) : covers [] name = name.isEmpty := by
  cases name <;> rfl

theorem exists_tailsCovered_eq (pattern : List Wildcard) (name : LooseText) :
    ∃ later, tailsCovered pattern name = covers pattern name :: later := by
  cases h : tailsCovered pattern name with
  | nil => simpa [h] using length_tailsCovered pattern name
  | cons mark marks => exact ⟨marks, by simp [covers, h]⟩

/-- The tails of a name are the name and the tails of what is behind its first character. -/
theorem tailsCovered_cons (pattern : List Wildcard) (c : CodePoint) (name : LooseText) :
    tailsCovered pattern (c :: name) = covers pattern (c :: name) :: tailsCovered pattern name := by
  induction pattern with
  | nil => rfl
  | cons w pattern ih =>
    by_cases hw : w = star
    · subst hw
      simp only [covers, tailsCovered]
      rw [ih]
      rfl
    · obtain ⟨later, hlater⟩ := exists_tailsCovered_eq pattern name
      simp only [covers, tailsCovered_of_ne_star hw]
      rw [ih, hlater]
      rfl

/-- A star that ends the name stands for nothing. -/
theorem covers_star_nil (pattern : List Wildcard) :
    covers (star :: pattern) [] = covers pattern [] := by
  obtain ⟨later, hlater⟩ := exists_tailsCovered_eq pattern []
  have hlength := length_tailsCovered pattern []
  rw [hlater] at hlength
  obtain rfl : later = [] := List.length_eq_zero_iff.1 (by simpa using hlength)
  simp only [covers, tailsCovered]
  rw [hlater]
  simp [hereOrLater]

/-- A star stands for nothing, or for a character and whatever it stands for behind it. -/
theorem covers_star_cons (pattern : List Wildcard) (c : CodePoint) (name : LooseText) :
    covers (star :: pattern) (c :: name) =
      (covers pattern (c :: name) || covers (star :: pattern) name) := by
  rw [covers, tailsCovered, tailsCovered_cons]
  rfl

/-- Every other piece stands for one character. -/
theorem covers_cons {w : Wildcard} (h : w ≠ star) (pattern : List Wildcard) (c : CodePoint)
    (name : LooseText) :
    covers (w :: pattern) (c :: name) = (w.admits c && covers pattern name) := by
  obtain ⟨later, hlater⟩ := exists_tailsCovered_eq pattern name
  rw [covers, tailsCovered_of_ne_star h, tailsCovered_cons, hlater]
  rfl

theorem covers_cons_nil {w : Wildcard} (h : w ≠ star) (pattern : List Wildcard) :
    covers (w :: pattern) [] = false := by
  simp [covers, tailsCovered_of_ne_star h]

end Wildcard

end EndpointStubs
