import EndpointStubs.Text.Quoted

/-!
# Documents

Facts and settings come as documents: values of unknown shape. A document is
checked field by field; all fields that are missing or have the wrong shape are
reported together, in the order of the fields. Nothing is converted but binary data
to text, and unknown fields are ignored.
-/

namespace EndpointStubs

inductive Document where
  | null
  | bool (value : Bool)
  | integer (value : Int)
  /-- A number with a fraction; all that counts is whether it is zero. -/
  | decimal (isZero : Bool)
  | text (value : LooseText)
  | bytes (content : List UInt8)
  | date
  | dateTime
  | list (items : List Document)
  | mapping (entries : List (Document × Document))
  | set (items : List Document)
  deriving Inhabited

namespace Document

/-- Empty, zero, false or nothing at all. -/
def isBlank : Document → Bool
  | null => true
  | bool value => !value
  | integer value => value == 0
  | decimal isZero => isZero
  | text value => value.isEmpty
  | bytes content => content.isEmpty
  | date | dateTime => false
  | list items => items.isEmpty
  | mapping entries => entries.isEmpty
  | set items => items.isEmpty

def isCollection : Document → Bool
  | list _ | mapping _ | set _ => true
  | _ => false

/-- The kind of a document as messages name it. -/
def kindName : Document → String
  | null => "NoneType"
  | bool _ => "bool"
  | integer _ => "int"
  | decimal _ => "float"
  | text _ => "str"
  | bytes _ => "bytes"
  | date => "date"
  | dateTime => "datetime"
  | list _ => "list"
  | mapping _ => "dict"
  | set _ => "set"

def text? : Document → Option LooseText
  | text value => some value
  | _ => none

end Document

/-- What a record of named fields holds; of two entries with one name the later one counts. -/
def field? (fields : List (String × Document)) (name : String) : Option Document :=
  fields.reverse.lookup name

/-- What is wrong with a field. -/
inductive FieldFault where
  | missing
  | notText
  /-- A text holds a surrogate, or binary data that stands for a text is not well formed. -/
  | notUnicode
  | notList
  /-- The text is none of the fact kinds. -/
  | unknownKind
  /-- The text is none of the path variable orders. -/
  | unknownOrder
  | notPath
  deriving DecidableEq, Repr

def FieldFault.label : FieldFault → String
  | missing => "missing"
  | notText => "string_type"
  | notUnicode => "string_unicode"
  | notList => "list_type"
  | unknownKind => "enum"
  | unknownOrder => "literal_error"
  | notPath => "path_type"

structure FieldError where
  /-- The name of the field, with the index of the item if an item of a list is at fault. -/
  location : String
  fault : FieldFault
  deriving DecidableEq, Repr

/-- The result of checking fields one by one: a value, or everything that is wrong. -/
inductive Checked (α : Type) where
  | valid (value : α)
  | invalid (errors : List FieldError)

namespace Checked

variable {α β : Type}

def map (f : α → β) : Checked α → Checked β
  | valid a => valid (f a)
  | invalid errors => invalid errors

/-- The errors of both sides count, those of the function first. -/
def app (f : Checked (α → β)) (a : Unit → Checked α) : Checked β :=
  match f, a () with
  | valid f, valid a => valid (f a)
  | valid _, invalid errors => invalid errors
  | invalid errors, valid _ => invalid errors
  | invalid errors, invalid more => invalid (errors ++ more)

instance : Applicative Checked where
  pure := valid
  map := map
  seq := app

def toExcept : Checked α → Except (List FieldError) α
  | valid a => .ok a
  | invalid errors => .error errors

/-- The field is checked if it is there; otherwise it has the given value. -/
def optional (fields : List (String × Document)) (name : String) (absent : α)
    (check : String → Document → Checked α) : Checked α :=
  match field? fields name with
  | none => valid absent
  | some document => check name document

def required (fields : List (String × Document)) (name : String)
    (check : String → Document → Checked α) : Checked α :=
  match field? fields name with
  | none => invalid [⟨name, .missing⟩]
  | some document => check name document

/-- A loose text, or binary data that is the UTF-8 form of a text. -/
def looseText (location : String) : Document → Checked LooseText
  | .text value => valid value
  | .bytes content =>
    match String.fromUTF8? ⟨content.toArray⟩ with
    | some value => valid value
    | none => invalid [⟨location, .notUnicode⟩]
  | _ => invalid [⟨location, .notText⟩]

/-- A text, or binary data that is the UTF-8 form of one. -/
def text (location : String) (document : Document) : Checked String :=
  match looseText location document with
  | valid value =>
    match value.text? with
    | some text => valid text
    | none => invalid [⟨location, .notUnicode⟩]
  | invalid errors => invalid errors

def textOrNull (location : String) : Document → Checked (Option String)
  | .null => valid none
  | document => some <$> text location document

/-- The texts of a list; `index` is that of its first item. -/
def items (location : String) (index : Nat) : List Document → Checked (List String)
  | [] => valid []
  | document :: rest =>
    List.cons <$> text (location ++ "." ++ toString index) document
      <*> items location (index + 1) rest

def texts (location : String) : Document → Checked (List String)
  | .list documents => items location 0 documents
  | _ => invalid [⟨location, .notList⟩]

end Checked

end EndpointStubs
