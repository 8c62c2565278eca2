/-!
# Loose texts

The escapes of a document can name every code point, and so also surrogates, which are no
characters. A loose text is a sequence of code points of both kinds. It is a text if it has no
surrogates (`text?_ofString`, `eq_ofString_of_text?`). A byte of a file name that belongs to no
character is read as a surrogate of its own, and only such surrogates can stand in the name of a
file.
-/

namespace EndpointStubs

inductive CodePoint where
  | char (c : Char)
  /-- The surrogate with the number `0xD800 + n`. -/
  | surrogate (n : Fin 0x800)
  deriving DecidableEq, Repr

namespace CodePoint

instance : Coe Char CodePoint := ⟨char⟩

/-- The code point with a number; numbers beyond U+10FFFF have none and give U+0000. -/
def ofNat (n : Nat) : CodePoint :=
  if h : 0xD800 ≤ n ∧ n < 0xE000 then surrogate ⟨n - 0xD800, by omega⟩ else char (Char.ofNat n)

def number : CodePoint → Nat
  | char c => c.toNat
  | surrogate n => 0xD800 + n

def char? : CodePoint → Option Char
  | char c => some c
  | surrogate _ => none

/-- The character that is displayed: a surrogate has no glyph of its own. -/
def shown : CodePoint → Char
  | char c => c
  | surrogate _ => '\uFFFD'

/-- What a byte that belongs to no character is read as. -/
def ofByte (byte : UInt8) : CodePoint :=
  ofNat (0xDC00 + byte.toNat)

/-- The bytes of a code point in a file name: its UTF-8 form, or the byte that was read as it. -/
def bytes? : CodePoint → Option (List UInt8)
  | char c => some c.toString.toUTF8.data.toList
  | surrogate n => if 0x480 ≤ n.val ∧ n.val < 0x500 then some [.ofNat (n - 0x400)] else none

end CodePoint

abbrev LooseText := List CodePoint

namespace LooseText

def ofChars (text : List Char) : LooseText :=
  text.map .char

def ofString (text : String) : LooseText :=
  ofChars text.toList

instance : Coe String LooseText := ⟨ofString⟩

/-- The text without surrogates that this is, if it is one. -/
def chars? (text : LooseText) : Option (List Char) :=
  text.mapM CodePoint.char?

def text? (text : LooseText) : Option String :=
  (chars? text).map .ofList

/-- The text as it is displayed. -/
def shown (text : LooseText) : String :=
  .ofList (text.map CodePoint.shown)

/-- The numbers of the code points; loose texts are ordered by them. -/
def numbers (text : LooseText) : List Nat :=
  text.map CodePoint.number

def le (s t : LooseText) : Bool :=
  !decide (t.numbers < s.numbers)

theorem chars?_ofChars (text : List Char) : chars? (ofChars text) = some text := by
  induction text with
  | nil => rfl
  | cons c rest ih =>
    simp only [chars?, ofChars, List.map_cons, List.mapM_cons] at ih ⊢
    rw [ih]
    rfl

@[simp]
theorem text?_ofString (text : String) : text? (ofString text) = some text := by
  simp [text?, ofString, chars?_ofChars]

/-- The bytes of a file name; nothing if no file can have the name. -/
def bytes? (name : LooseText) : Option (List UInt8) :=
  (name.mapM CodePoint.bytes?).map List.flatten

/-- The character that the bytes start with, and how many bytes it takes. -/
def firstChar? (bytes : List UInt8) : Option (Char × Nat) :=
  [1, 2, 3, 4].findSome? fun width ↦
    match (String.fromUTF8? ⟨(bytes.take width).toArray⟩).map String.toList with
    | some [c] => some (c, width)
    | _ => none

/-- The name that the bytes of a file name are read as; `skip` bytes have been read already. -/
def ofBytes (skip : Nat) : List UInt8 → LooseText
  | [] => []
  | byte :: rest =>
    match skip with
    | skip + 1 => ofBytes skip rest
    | 0 =>
      match firstChar? (byte :: rest) with
      | some (c, width) => c :: ofBytes (width - 1) rest
      | none => .ofByte byte :: ofBytes 0 rest

/-- The name under which a file with this name is found again. -/
def asFound (name : LooseText) : LooseText :=
  if (chars? name).isSome then name else ((bytes? name).map (ofBytes 0)).getD name

end LooseText

end EndpointStubs
