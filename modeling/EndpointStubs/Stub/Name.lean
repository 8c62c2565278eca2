import EndpointStubs.Model.Check
import EndpointStubs.Text.Case

/-!
# Names in generated code

The package, class, constant and file names that follow from the names of
controllers and methods.
-/

namespace EndpointStubs

/-- Splits off the leading segments that start with a lower case letter, but
never the last segment. -/
def leadingPackage : List String → List String × List String
  | [] => ([], [])
  | [last] => ([], [last])
  | segment :: next :: rest =>
    if segment.toList.head?.any Text.isLower then
      let (packageName, names) := leadingPackage (next :: rest)
      (segment :: packageName, names)
    else ([], segment :: next :: rest)

theorem append_leadingPackage (segments : List String) :
    (leadingPackage segments).1 ++ (leadingPackage segments).2 = segments := by
  fun_induction leadingPackage segments <;> simp_all

/-- Package and simple name of a controller whose package was never reported. The
names of nested classes are joined: `com.example.Outer.Inner` is `OuterInner` in
`com.example`. -/
def splitControllerName (key : String) : String × String :=
  let (packageName, names) := leadingPackage (Text.splitDots key)
  (Text.joinDots packageName, String.join names)

/-- Package and simple name of a controller. A reported package is taken as it is
and cut off the key where the key starts with it. -/
def controllerName (key : String) (reportedPackage : Option String) : String × String :=
  match reportedPackage with
  | none => splitControllerName key
  | some packageName =>
    let names :=
      if packageName.isEmpty then key.toList
      else (Text.after? (packageName.toList ++ ['.']) key.toList).getD key.toList
    (packageName, .ofList (names.filter (· != '.')))

/-- The file of a class, relative to the output directory. -/
def classFile (packageName className : String) : String :=
  let directories := if packageName.isEmpty then [] else Text.splitDots packageName
  "/".intercalate (directories ++ [className ++ ".java"])

/-- An underscore between a lower case letter or digit and the upper case letter after it. -/
def separateWords : List Char → List Char
  | a :: b :: rest =>
    if (a.isLower || a.isDigit) && b.isUpper then a :: '_' :: separateWords (b :: rest)
    else a :: separateWords (b :: rest)
  | text => text

/-- The constant that holds the URL template of a stub method: `GetItemById` has
`GET_ITEM_BY_ID_URL`. -/
def constantName (methodName : String) : String :=
  .ofList (Text.upper (separateWords methodName.toList) ++ "_URL".toList)

end EndpointStubs
