/-!
# Similar texts

How much two texts share: the longest block of characters that stands in both
counts, and so does what is shared before it and what is shared after it. Words
that share enough are offered in place of a word that is not known.
-/

namespace EndpointStubs.Text

/-- The length of the longest common start of two texts. -/
def commonStart : List Char → List Char → Nat
  | c :: s, d :: t => if c = d then commonStart s t + 1 else 0
  | _, _ => 0

/-- The longest start of `s` that stands anywhere in a text: where it stands first, and
its length. -/
def longestStart (s : List Char) : List Char → Nat × Nat
  | [] => (0, 0)
  | d :: t =>
    let here := commonStart s (d :: t)
    let later := longestStart s t
    if here < later.2 then (later.1 + 1, later.2) else (0, here)

/-- A block of characters that stands in two texts. -/
structure SharedBlock where
  /-- Where it starts in the first text. -/
  first : Nat
  /-- Where it starts in the second text. -/
  second : Nat
  length : Nat

/-- The longest block that two texts share; of several, the first one in the first text,
and there the first one in the second. -/
def longestBlock : List Char → List Char → SharedBlock
  | [], _ => ⟨0, 0, 0⟩
  | c :: s, t =>
    let here := longestStart (c :: s) t
    let later := longestBlock s t
    if here.2 < later.length then { later with first := later.first + 1 }
    else ⟨0, here.1, here.2⟩

theorem commonStart_le (s t : List Char) : commonStart s t ≤ s.length := by
  fun_induction commonStart s t <;> simp_all

theorem longestStart_le (s t : List Char) : (longestStart s t).2 ≤ s.length := by
  induction t with
  | nil => simp [longestStart]
  | cons d t ih =>
    rw [longestStart]
    split
    · exact ih
    · exact commonStart_le ..

theorem longestBlock_le (s t : List Char) :
    (longestBlock s t).first + (longestBlock s t).length ≤ s.length := by
  induction s with
  | nil => simp [longestBlock]
  | cons c s ih =>
    rw [longestBlock]
    split
    · simp only [List.length_cons]
      omega
    · simpa using longestStart_le (c :: s) t

/-- How many characters two texts share. -/
def sharedCount (s t : List Char) : Nat :=
  let block := longestBlock s t
  if block.length = 0 then 0
  else
    sharedCount (s.take block.first) (t.take block.second) + block.length +
      sharedCount (s.drop (block.first + block.length)) (t.drop (block.second + block.length))
termination_by s.length
decreasing_by
  all_goals
    have := longestBlock_le s t
    have : (longestBlock s t).length ≠ 0 := ‹_›
    simp only [List.length_take, List.length_drop]
    omega

/-- A text, and how similar it is to a word. -/
structure Likeness where
  text : String
  /-- How many characters the text and the word share. -/
  shared : Nat
  /-- How many characters the two have together. -/
  total : Nat

def likeness (word text : String) : Likeness where
  text
  shared := sharedCount text.toList word.toList
  total := text.length + word.length

/-- Of the characters of both, at least three fifths belong to shared blocks. -/
def Likeness.isClose (likeness : Likeness) : Bool :=
  3 * likeness.total ≤ 10 * likeness.shared

/-- The more similar text comes first, and of two equally similar ones the later in
alphabetical order. -/
def Likeness.precedes (a b : Likeness) : Bool :=
  b.shared * a.total < a.shared * b.total ||
    (b.shared * a.total == a.shared * b.total && decide (b.text ≤ a.text))

/-- The texts most similar to a word, at most three. -/
def closest (word : String) (texts : List String) : List String :=
  (((texts.map (likeness word)).filter Likeness.isClose).mergeSort Likeness.precedes |>.take 3).map
    Likeness.text

end EndpointStubs.Text
