import EndpointStubs.Text.Pattern

/-!
# Encodings

How the bytes of a file become text. A codec does that, and what a codec does
is left open: there are many, and a runtime may have its own. Some of the usual
encodings are given here. Line ends of all kinds become newlines.
-/

namespace EndpointStubs

/-- Why bytes do not become text. -/
inductive DecodeError where
  /-- The bytes are no text in the encoding. -/
  | malformed
  /-- The codec gives up for a reason of its own, such as a missing byte order mark. -/
  | refused
  deriving DecidableEq, Repr

structure Codec where
  decode : ByteArray → Except DecodeError (List Char)

inductive Encoding where
  | utf8
  /-- UTF-8 with a byte order mark that is not part of the text. -/
  | utf8Marked
  | latin1
  | ascii
  /-- UTF-16 whose byte order mark says which byte of a unit comes first. -/
  | utf16
  | utf16Little
  | utf16Big
  deriving DecidableEq, Repr

namespace Encoding

/-- The name of an encoding in its normal form. -/
def name : Encoding → String
  | utf8 => "utf_8"
  | utf8Marked => "utf_8_sig"
  | latin1 => "latin_1"
  | ascii => "ascii"
  | utf16 => "utf_16"
  | utf16Little => "utf_16_le"
  | utf16Big => "utf_16_be"

def all : List Encoding :=
  [utf8, utf8Marked, latin1, ascii, utf16, utf16Little, utf16Big]

/-- Other names of an encoding, in normal form. -/
def otherNames : Encoding → List String
  | utf8 => ["u8", "utf", "utf8", "utf8_ucs2", "utf8_ucs4", "cp65001"]
  | utf8Marked => []
  | latin1 => ["8859", "cp819", "csisolatin1", "ibm819", "iso8859", "iso8859_1", "iso_8859_1",
      "iso_8859_1_1987", "iso_ir_100", "l1", "latin", "latin1"]
  | ascii => ["646", "ansi_x3.4_1968", "ansi_x3_4_1968", "ansi_x3.4_1986", "cp367", "csascii",
      "ibm367", "iso646_us", "iso_646.irv_1991", "iso_ir_6", "us", "us_ascii"]
  | utf16 => ["u16", "utf16"]
  | utf16Little => ["unicodelittleunmarked", "utf_16le"]
  | utf16Big => ["unicodebigunmarked", "utf_16be"]

/-- The normal form of a name: its runs of letters, digits and dots, in lower case, with
an underscore between them. -/
def normalName (name : String) : List Char :=
  let marked := name.toList.map fun c ↦ if c.isAlphanum || c == '.' then c.toLower else '_'
  ['_'].intercalate ((Text.splitAt '_' marked).filter (!·.isEmpty))

/-- The encoding that a name stands for. In one of the other names, underscores may be
dots. The word `locale` stands for the encoding of the system, which is UTF-8. -/
def ofName? (name : String) : Option Encoding :=
  let normal := normalName name
  let dotless := normal.map fun c ↦ if c == '.' then '_' else c
  if name = "locale" then some utf8
  else
    all.find? fun encoding ↦
      encoding.name.toList = normal ||
        encoding.otherNames.any fun other ↦ other.toList = normal || other.toList = dotless

def byteOrderMark : List UInt8 :=
  [0xEF, 0xBB, 0xBF]

/-- The characters of UTF-8, if the bytes are well formed. -/
def utf8Chars? (bytes : ByteArray) : Option (List Char) :=
  (String.fromUTF8? bytes).map String.toList

/-- The units of two bytes each, if there is an even number of bytes. -/
def units? (littleEndian : Bool) : List UInt8 → Option (List Nat)
  | [] => some []
  | [_] => none
  | a :: b :: rest =>
    let unit := if littleEndian then b.toNat * 256 + a.toNat else a.toNat * 256 + b.toNat
    (units? littleEndian rest).map (unit :: ·)

def isHighSurrogate (unit : Nat) : Bool :=
  0xD800 ≤ unit && unit < 0xDC00

def isLowSurrogate (unit : Nat) : Bool :=
  0xDC00 ≤ unit && unit < 0xE000

/-- The characters of the units, if each high surrogate has a low one behind it and no other unit
is a surrogate. -/
def pairedChars? : List Nat → Option (List Char)
  | [] => some []
  | unit :: rest =>
    if isHighSurrogate unit then
      match rest with
      | low :: rest =>
        if isLowSurrogate low then
          let n := 0x10000 + (unit - 0xD800) * 0x400 + (low - 0xDC00)
          (pairedChars? rest).map (Char.ofNat n :: ·)
        else none
      | [] => none
    else if isLowSurrogate unit then none
    else (pairedChars? rest).map (Char.ofNat unit :: ·)

def utf16Chars? (littleEndian : Bool) (bytes : List UInt8) : Option (List Char) :=
  (units? littleEndian bytes).bind pairedChars?

def orMalformed (text : Option (List Char)) : Except DecodeError (List Char) :=
  match text with
  | some chars => .ok chars
  | none => .error .malformed

/-- UTF-16 by its byte order mark. Without a mark the bytes must be well formed, the lower byte of
a unit first, but even then they are refused, unless there are none. -/
def decodeMarked : List UInt8 → Except DecodeError (List Char)
  | 0xFF :: 0xFE :: rest => orMalformed (utf16Chars? true rest)
  | 0xFE :: 0xFF :: rest => orMalformed (utf16Chars? false rest)
  | [] => .ok []
  | bytes => if (utf16Chars? true bytes).isSome then .error .refused else .error .malformed

/-- The characters of the bytes. -/
def decode (encoding : Encoding) (content : ByteArray) : Except DecodeError (List Char) :=
  let bytes := content.data.toList
  let each : List Char := bytes.map fun b ↦ Char.ofNat b.toNat
  match encoding with
  | utf8 => orMalformed (utf8Chars? content)
  | utf8Marked =>
    if bytes.take 3 = byteOrderMark then orMalformed (utf8Chars? ⟨(bytes.drop 3).toArray⟩)
    else if bytes.isPrefixOf byteOrderMark then .ok []
    else orMalformed (utf8Chars? content)
  | latin1 => .ok each
  | ascii => if bytes.all (· < 128) then .ok each else .error .malformed
  | utf16 => decodeMarked bytes
  | utf16Little => orMalformed (utf16Chars? true bytes)
  | utf16Big => orMalformed (utf16Chars? false bytes)

example : utf16.decode ⟨#[0xFF, 0xFE, 0x41, 0]⟩ = .ok ['A'] := by cbv

example : utf16.decode ⟨#[0x41, 0]⟩ = .error .refused := by cbv

def codec (encoding : Encoding) : Codec :=
  ⟨encoding.decode⟩

@[simp] theorem codec_decode (encoding : Encoding) (content : ByteArray) :
    encoding.codec.decode content = encoding.decode content := rfl

end Encoding

/-- Carriage returns, alone or before a newline, become newlines. -/
def unifyLineEnds : List Char → List Char
  | [] => []
  | '\r' :: '\n' :: rest => '\n' :: unifyLineEnds rest
  | '\r' :: rest => '\n' :: unifyLineEnds rest
  | c :: rest => c :: unifyLineEnds rest

end EndpointStubs
