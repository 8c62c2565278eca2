/-!
# Blank characters

Source text is split at blanks, and types are compared after their blanks are
collapsed or removed. Blank means white space in the sense of Unicode together
with the four information separators U+001C to U+001F.
-/

namespace EndpointStubs.Text

/-- White space of Unicode, and the information separators. -/
def isBlank (c : Char) : Bool :=
  let n := c.toNat
  (9 ≤ n && n ≤ 13) || (28 ≤ n && n ≤ 32) || n == 0x85 || n == 0xA0 || n == 0x1680 ||
    (0x2000 ≤ n && n ≤ 0x200A) || n == 0x2028 || n == 0x2029 || n == 0x202F || n == 0x205F ||
    n == 0x3000

def trimStart (text : List Char) : List Char :=
  text.dropWhile isBlank

def trimEnd (text : List Char) : List Char :=
  (text.reverse.dropWhile isBlank).reverse

def trim (text : List Char) : List Char :=
  trimEnd (trimStart text)

/-- Each maximal run of blanks becomes one space. -/
def collapseBlanks : List Char → List Char
  | [] => []
  | [c] => [if isBlank c then ' ' else c]
  | c :: d :: rest =>
    if isBlank c then
      if isBlank d then collapseBlanks (d :: rest) else ' ' :: collapseBlanks (d :: rest)
    else c :: collapseBlanks (d :: rest)

/-- The normal form in which types are recorded: single spaces inside, none at the ends. -/
def compact (text : List Char) : List Char :=
  trim (collapseBlanks text)

def removeBlanks (text : List Char) : List Char :=
  text.filter (!isBlank ·)

@[simp]
theorem removeBlanks_append (s t : List Char) :
    removeBlanks (s ++ t) = removeBlanks s ++ removeBlanks t := by
  simp [removeBlanks]

end EndpointStubs.Text
