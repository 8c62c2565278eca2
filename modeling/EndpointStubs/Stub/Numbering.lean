import EndpointStubs.Stub.Name

/-!
# Stub method names

Each endpoint that is mapped and has a method name gets a stub method. Endpoints
are taken in the order of their method names, then of their keys; the second one
with the same method name gets the number 2, and so on, passing over numbered
names that are already in use. A free name always exists among the first
candidates (`freeName_not_mem`), and the first one is taken (`exists_freeName_eq`).
-/

namespace EndpointStubs

/-- An endpoint with the names it has in the generated code. -/
structure StubEndpoint where
  name : String
  httpMethod : HttpMethod
  resource : Resource
  deriving DecidableEq, Repr

def StubEndpoint.constant (endpoint : StubEndpoint) : String :=
  constantName endpoint.name

/-- The name itself, then the name followed by 2, 3 and so on. -/
def numberedName (name : String) : Nat → String
  | 0 => name
  | n + 1 => name ++ toString (n + 2)

theorem toString_nat_injective {m n : Nat} (h : toString m = toString n) : m = n := by
  have hdigits := congrArg (fun s ↦ Nat.ofDigitChars 10 s.toList 0) h
  simpa [Nat.toString_eq_ofList_toDigits] using hdigits

theorem numberedName_injective (name : String) {m n : Nat}
    (h : numberedName name m = numberedName name n) : m = n := by
  have hne (k : Nat) : name ≠ name ++ toString (k + 2) := by
    intro he
    have hlist := congrArg String.toList he
    rw [String.toList_append] at hlist
    have hnil : (toString (k + 2)).toList = [] := List.self_eq_append_right.1 hlist
    have := congrArg (fun cs ↦ Nat.ofDigitChars 10 cs 0) hnil
    simp at this
  cases m with
  | zero =>
    cases n with
    | zero => rfl
    | succ n => exact absurd h (hne n)
  | succ m =>
    cases n with
    | zero => exact absurd h.symm (hne m)
    | succ n =>
      have hlist := congrArg String.toList h
      simp only [numberedName, String.toList_append] at hlist
      have := toString_nat_injective (String.toList_inj.1 (List.append_cancel_left hlist))
      omega

/-- The first numbered name that is not in use; one of `used.length + 1` names is free. -/
def freeName (used : List String) (name : String) : String :=
  (((List.range (used.length + 1)).map (numberedName name)).find? (!used.contains ·)).getD name

theorem length_le_of_nodup {names used : List String} (hnodup : names.Nodup)
    (h : ∀ name ∈ names, name ∈ used) : names.length ≤ used.length := by
  induction names generalizing used with
  | nil => simp
  | cons name names ih =>
    obtain ⟨hfirst, hrest⟩ := List.nodup_cons.1 hnodup
    have hmem := h name (by simp)
    have hle : names.length ≤ (used.erase name).length := ih hrest fun other hother ↦
      (List.mem_erase_of_ne (by rintro rfl; exact hfirst hother)).2 (h other (by simp [hother]))
    rw [List.length_erase_of_mem hmem] at hle
    have := List.length_pos_of_mem hmem
    simp only [List.length_cons]
    omega

theorem find_freeName (used : List String) (name : String) :
    ((List.range (used.length + 1)).map (numberedName name)).find? (!used.contains ·) =
      some (freeName used name) := by
  rw [freeName]
  cases h : ((List.range (used.length + 1)).map (numberedName name)).find? (!used.contains ·) with
  | some free => rfl
  | none =>
    have hused := List.find?_eq_none.1 h
    have hnodup : ((List.range (used.length + 1)).map (numberedName name)).Nodup :=
      List.Pairwise.map _ (fun _ _ hne he ↦ hne (numberedName_injective name he)) List.nodup_range
    have := length_le_of_nodup hnodup fun free hfree ↦ by simpa using hused free hfree
    rw [List.length_map, List.length_range] at this
    omega

/-- A name that is given out is not in use. -/
theorem freeName_not_mem (used : List String) (name : String) : freeName used name ∉ used := by
  simpa using List.find?_some (find_freeName used name)

/-- The name that is given out is the first one that is free. -/
theorem exists_freeName_eq (used : List String) (name : String) :
    ∃ n, freeName used name = numberedName name n ∧ ∀ m < n, numberedName name m ∈ used := by
  have hfind := find_freeName used name
  rw [List.find?_map, Option.map_eq_some_iff] at hfind
  obtain ⟨n, hn, he⟩ := hfind
  obtain ⟨_, _, hbefore⟩ := List.find?_range_eq_some.1 hn
  exact ⟨n, he.symm, fun m hm ↦ by simpa using hbefore m hm⟩

def endpointLe (a b : String × Resource) : Bool :=
  let nameA := a.2.methodName.getD ""
  let nameB := b.2.methodName.getD ""
  decide (nameA < nameB) || (nameA == nameB && decide (a.1 ≤ b.1))

namespace Controller

/-- The endpoints in the order in which their names are given out. -/
def orderedEndpoints (controller : Controller) : List (String × Resource) :=
  controller.resources.entries.mergeSort endpointLe

/-- Gives out names, none of which is in `used`. -/
def numberEndpoints (used : List String) : List (String × Resource) → List StubEndpoint
  | [] => []
  | (_, resource) :: rest =>
    match resource.httpMethod, resource.methodName with
    | some httpMethod, some methodName =>
      let name := freeName used methodName
      ⟨name, httpMethod, resource⟩ :: numberEndpoints (name :: used) rest
    | _, _ => numberEndpoints used rest

def stubEndpoints (controller : Controller) : List StubEndpoint :=
  numberEndpoints [] controller.orderedEndpoints

/-- The keys of the endpoints that get no stub method. -/
def skippedKeys (controller : Controller) : List String :=
  (controller.orderedEndpoints.filter fun (_, resource) ↦
    resource.httpMethod.isNone || resource.methodName.isNone).map Prod.fst

end Controller

end EndpointStubs
