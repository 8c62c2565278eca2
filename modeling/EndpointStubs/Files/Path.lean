import EndpointStubs.Text.Loose
import EndpointStubs.Text.Pattern

/-!
# Paths

A path is a sequence of names after a root; a path without a root is relative.
Empty names and single dots are dropped when a path is read, double dots stay.
-/

namespace EndpointStubs

structure Path where
  /-- Empty for a relative path. Two leading slashes are a root of their own. -/
  root : String
  components : List LooseText
  deriving DecidableEq, Repr

namespace Path

def isRelative (path : Path) : Bool :=
  path.root.isEmpty

/-- The root at the front of a path text. -/
def rootOf : LooseText → String
  | .char '/' :: .char '/' :: .char '/' :: _ => "/"
  | .char '/' :: .char '/' :: _ => "//"
  | .char '/' :: _ => "/"
  | _ => ""

def ofText (text : LooseText) : Path where
  root := rootOf text
  components :=
    (Text.splitAt (.char '/') text).filter fun name ↦ !(name.isEmpty || name == ("." : LooseText))

def ofString (text : String) : Path :=
  ofText text

/-- The written form; the empty relative path is a dot. -/
def text (path : Path) : LooseText :=
  if path.isRelative && path.components.isEmpty then "."
  else path.root ++ [.char '/'].intercalate path.components

/-- The second path seen from the first one; a path with a root is the same from everywhere. -/
def join (path other : Path) : Path :=
  if other.isRelative then ⟨path.root, path.components ++ other.components⟩ else other

def child (path : Path) (name : LooseText) : Path :=
  ⟨path.root, path.components ++ [name]⟩

/-- The path without its last name. -/
def parent (path : Path) : Path :=
  ⟨path.root, path.components.dropLast⟩

def normalized (text : LooseText) : LooseText :=
  (ofText text).text

/-- Paths are ordered name by name. -/
def namesLe : List LooseText → List LooseText → Bool
  | [], _ => true
  | _ :: _, [] => false
  | a :: as, b :: bs => decide (a.numbers < b.numbers) || (a == b && namesLe as bs)

def le (a b : Path) : Bool :=
  namesLe a.components b.components

end Path

end EndpointStubs
