import EndpointStubs.Fact.Basic
import EndpointStubs.Java.Outline

/-!
# The facts of a source

Facts are listed in declaration order: those of a type before those of its
members, those of a method before those of its parameters. The types of a source
can stand too deep within each other: each takes a place on the stack while its
members are read, and once there is no room left the source has no facts at all.
-/

namespace EndpointStubs

def qualify (outer name : String) : String :=
  if outer.isEmpty then name else outer ++ "." ++ name

/-- The declaring type, the name and the declared parameter types identify an endpoint. -/
def methodKey (controller : String) (method : Java.Method) : String :=
  let types := method.parameters.map fun p ↦ String.ofList (Text.removeBlanks p.type.toList)
  controller ++ "." ++ method.name ++ "(" ++ ",".intercalate types ++ ")"

def reported (annotations : List Java.AnnotationUse) : List Java.AnnotationUse :=
  annotations.filter (reportedAnnotations.contains ·.name)

def typeFacts (packageName : String) (imports : List String) (controller : String)
    (annotations : List Java.AnnotationUse) : List Fact :=
  (reported annotations).map fun a ↦
    let fact : Fact :=
      { kind := Site.type.kindOf a.name, annotationName := a.name, element := controller,
        controller }
    if fact.kind = .controller then { fact with packageName := some packageName, imports } else fact

def routeFact (controller : String) (method : Java.Method) (a : Java.AnnotationUse) : Fact :=
  let key := methodKey controller method
  let fact : Fact :=
    { kind := Site.method.kindOf a.name, annotationName := a.name, element := key, controller,
      methodKey := some key, methodName := some method.name }
  if fact.kind = .unknown then fact
  else
    let attributes := Java.attributes a.arguments
    { fact with
      path := (attributes.get? "path").getD []
      value := (attributes.get? "value").getD []
      typeText := some method.returnType }

/-- The first value of the attribute `value`, or else of the attribute `name`. -/
def givenName (a : Java.AnnotationUse) : Option String :=
  let attributes := Java.attributes a.arguments
  let first name := ((attributes.get? name).getD []).head?
  first "value" <|> first "name"

def parameterFact (controller : String) (method : Java.Method) (p : Java.Parameter)
    (a : Java.AnnotationUse) : Fact :=
  { kind := Site.parameter.kindOf a.name, annotationName := a.name, element := p.name, controller,
    methodKey := some (methodKey controller method), methodName := some method.name,
    typeText := some p.type, name := some p.name, givenName := givenName a }

def methodFacts (controller : String) (method : Java.Method) : List Fact :=
  (reported method.annotations).map (routeFact controller method) ++
    method.parameters.flatMap fun p ↦
      (reported p.annotations).map (parameterFact controller method p)

mutual

/-- The facts of a member of `outer`, a package or a type. -/
def memberFacts (packageName : String) (imports : List String) (outer : String) :
    Java.Member → List Fact
  | .method method => methodFacts outer method
  | .type annotations name members =>
    typeFacts packageName imports (qualify outer name) annotations ++
      membersFacts packageName imports (qualify outer name) members

def membersFacts (packageName : String) (imports : List String) (outer : String) :
    List Java.Member → List Fact
  | [] => []
  | member :: members =>
    memberFacts packageName imports outer member ++ membersFacts packageName imports outer members

end

def Java.Outline.facts (outline : Java.Outline) : List Fact :=
  membersFacts outline.packageName outline.imports outline.packageName outline.types

/-- The facts of a source that does not nest its types too deep. -/
def scan (source : String) : List Fact :=
  (Java.Outline.ofText source.toList).facts

/-- Why a source cannot be scanned. -/
inductive ScanError where
  /-- There is no room on the stack for one more type within the others. -/
  | tooDeep
  deriving DecidableEq, Repr

mutual

/-- The facts of a member of `outer`, with room on the stack for so many types. -/
def memberFactsWithin (room : Nat) (packageName : String) (imports : List String)
    (outer : String) : Java.Member → Except ScanError (List Fact)
  | .method method => .ok (methodFacts outer method)
  | .type annotations name members =>
    match room with
    | 0 => .error .tooDeep
    | room + 1 => do
      let inner ← membersFactsWithin room packageName imports (qualify outer name) members
      return typeFacts packageName imports (qualify outer name) annotations ++ inner

def membersFactsWithin (room : Nat) (packageName : String) (imports : List String)
    (outer : String) : List Java.Member → Except ScanError (List Fact)
  | [] => .ok []
  | member :: members => do
    let first ← memberFactsWithin room packageName imports outer member
    let rest ← membersFactsWithin room packageName imports outer members
    return first ++ rest

end

/-- The facts of a source, with room on the stack for so many types within each other. -/
def scanWithin (room : Nat) (source : String) : Except ScanError (List Fact) :=
  let outline := Java.Outline.ofText source.toList
  membersFactsWithin room outline.packageName outline.imports outline.packageName outline.types

mutual

theorem memberFactsWithin_eq (room : Nat) (packageName : String) (imports : List String)
    (outer : String) (member : Java.Member) :
    memberFactsWithin room packageName imports outer member =
      if member.nesting ≤ room then .ok (memberFacts packageName imports outer member)
      else .error .tooDeep := by
  cases member with
  | method method =>
    rw [memberFactsWithin, memberFacts, Java.Member.nesting, if_pos (Nat.zero_le _)]
  | type annotations name members =>
    cases room with
    | zero => rw [memberFactsWithin, Java.Member.nesting, if_neg (by omega)]
    | succ room =>
      rw [memberFactsWithin, membersFactsWithin_eq, memberFacts, Java.Member.nesting]
      by_cases h : Java.Member.listNesting members ≤ room
      · rw [if_pos h, if_pos (Nat.succ_le_succ h)]
        rfl
      · rw [if_neg h, if_neg (by omega)]
        rfl

theorem membersFactsWithin_eq (room : Nat) (packageName : String) (imports : List String)
    (outer : String) (members : List Java.Member) :
    membersFactsWithin room packageName imports outer members =
      if Java.Member.listNesting members ≤ room then
        .ok (membersFacts packageName imports outer members)
      else .error .tooDeep := by
  cases members with
  | nil => rw [membersFactsWithin, membersFacts, Java.Member.listNesting, if_pos (Nat.zero_le _)]
  | cons member members =>
    rw [membersFactsWithin, memberFactsWithin_eq, membersFactsWithin_eq, membersFacts,
      Java.Member.listNesting]
    by_cases hmember : member.nesting ≤ room
    · by_cases hmembers : Java.Member.listNesting members ≤ room
      · rw [if_pos hmember, if_pos hmembers, if_pos (Nat.max_le.2 ⟨hmember, hmembers⟩)]
        rfl
      · rw [if_pos hmember, if_neg hmembers, if_neg (by omega)]
        rfl
    · have hmax : ¬max member.nesting (Java.Member.listNesting members) ≤ room := fun h ↦
        hmember (Nat.le_trans (Nat.le_max_left _ _) h)
      rw [if_neg hmember, if_neg hmax]
      rfl

end

/-- A source has its facts exactly if there is room for its types. -/
theorem scanWithin_eq (room : Nat) (source : String) :
    scanWithin room source =
      if (Java.Outline.ofText source.toList).nesting ≤ room then .ok (scan source)
      else .error .tooDeep :=
  membersFactsWithin_eq _ _ _ _ _

end EndpointStubs
