import EndpointStubs.Text.Quoted

/-!
# JSON text

The JSON values that models are shown as, and their indented text: two spaces a
level, one entry a line, empty containers without a line break. All characters
stand for themselves except the quote, the backslash and the control characters
below U+0020.
-/

namespace EndpointStubs

inductive Json where
  | null
  | bool (value : Bool)
  | string (value : String)
  | array (items : List Json)
  | object (fields : List (String × Json))

namespace Json

def ofOption {α : Type} (f : α → Json) : Option α → Json
  | none => null
  | some a => f a

def escapedChar (c : Char) : List Char :=
  if c == '"' || c == '\\' then ['\\', c]
  else if c == '\n' then ['\\', 'n']
  else if c == '\r' then ['\\', 'r']
  else if c == '\t' then ['\\', 't']
  else if c.toNat = 8 then ['\\', 'b']
  else if c.toNat = 12 then ['\\', 'f']
  else if c.toNat < 32 then '\\' :: 'u' :: Text.hexDigits 4 c.toNat
  else [c]

def stringText (value : String) : String :=
  .ofList ('"' :: value.toList.flatMap escapedChar ++ ['"'])

def lineStart (depth : Nat) : String :=
  .ofList ('\n' :: List.replicate (2 * depth) ' ')

/-- The entries of a container at the given depth, between its brackets. -/
def block (opening closing : String) (depth : Nat) (entries : List String) : String :=
  if entries.isEmpty then opening ++ closing
  else
    opening ++ ",".intercalate (entries.map (lineStart (depth + 1) ++ ·)) ++ lineStart depth ++
      closing

mutual

def text (depth : Nat) : Json → String
  | null => "null"
  | bool value => if value then "true" else "false"
  | string value => stringText value
  | array items => block "[" "]" depth (itemTexts (depth + 1) items)
  | object fields => block "\x7b" "\x7d" depth (fieldTexts (depth + 1) fields)

def itemTexts (depth : Nat) : List Json → List String
  | [] => []
  | item :: items => text depth item :: itemTexts depth items

def fieldTexts (depth : Nat) : List (String × Json) → List String
  | [] => []
  | (key, value) :: fields =>
    (stringText key ++ ": " ++ text depth value) :: fieldTexts depth fields

end

end Json

end EndpointStubs
