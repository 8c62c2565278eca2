import EndpointStubs.Text.WordTable

/-!
# Word characters

The characters of names: letters, numbers and the underscore. ASCII is decided
by its own ranges, everything else by the table.
-/

namespace EndpointStubs.Text

def inRanges (ranges : List (Nat × Nat)) (n : Nat) : Bool :=
  ranges.any fun (first, last) ↦ first ≤ n && n ≤ last

/-- A letter, a number or an underscore. -/
def isWord (c : Char) : Bool :=
  if c.toNat < 128 then c.isAlphanum || c == '_' else inRanges letterOrNumberRanges c.toNat

/-- A character of a dotted name. -/
def isWordOrDot (c : Char) : Bool :=
  isWord c || c == '.'

/-- The longest run of characters at the end of the text that satisfies `p`, and
what stands before it. -/
def splitTrailing (p : Char → Bool) (text : List Char) : List Char × List Char :=
  let reversed := text.reverse
  ((reversed.dropWhile p).reverse, (reversed.takeWhile p).reverse)

theorem splitTrailing_append (p : Char → Bool) (text : List Char) :
    (splitTrailing p text).1 ++ (splitTrailing p text).2 = text := by
  simp only [splitTrailing]
  rw [← List.reverse_append, List.takeWhile_append_dropWhile, List.reverse_reverse]

end EndpointStubs.Text
