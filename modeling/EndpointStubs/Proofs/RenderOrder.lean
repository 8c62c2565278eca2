import EndpointStubs.Proofs.ModelOrder

/-!
# Generated files up to order

Models that are the same up to order are rendered to the same files, or fail for
the same reason. The argument follows the renderer from the parameters of one
stub method up to the files of the whole model.
-/

namespace EndpointStubs

theorem pathParameters_congr {registry other : Registry (Option String) Argument}
    (h : registry.SameUpTo (· = ·) other) (seen names : List (Option String)) :
    pathParameters registry seen names = pathParameters other seen names := by
  induction names generalizing seen with
  | nil => rfl
  | cons name names ih =>
    rw [pathParameters, pathParameters, h.get?_eq]
    cases other.get? name with
    | none => rfl
    | some entry => simp only [ih]

theorem nameText_inj {a b : Option String} (ha : a ≠ none) (hb : b ≠ none)
    (h : nameText a = nameText b) : a = b := by
  obtain ⟨x, rfl⟩ := Option.ne_none_iff_exists'.1 ha
  obtain ⟨y, rfl⟩ := Option.ne_none_iff_exists'.1 hb
  exact congrArg some h

/-- Arguments that are sorted at all have different texts for different names. -/
theorem eq_of_nameText_eq {arguments : Registry (Option String) Argument}
    (h : ¬(2 ≤ arguments.entries.length ∧ arguments.contains none))
    {a b : Option String × Argument} (ha : a ∈ arguments.entries) (hb : b ∈ arguments.entries)
    (htext : nameText a.1 = nameText b.1) : a.1 = b.1 := by
  by_cases hnone : none ∈ arguments.keys
  · have hcontains : arguments.contains none = true := by
      exact (arguments.contains_iff_mem_keys none).2 hnone
    match hentries : arguments.entries with
    | [] =>
      rw [hentries] at ha
      cases ha
    | [entry] =>
      rw [hentries, List.mem_singleton] at ha hb
      rw [ha, hb]
    | _ :: _ :: _ =>
      rw [hentries] at h
      exact absurd ⟨by simp, hcontains⟩ h
  · have hne {entry : Option String × Argument} (hentry : entry ∈ arguments.entries) :
        entry.1 ≠ none := by
      intro heq
      exact hnone (heq ▸ List.mem_map_of_mem hentry)
    exact nameText_inj (hne ha) (hne hb) htext

theorem sortedArguments_congr {arguments others : Registry (Option String) Argument}
    (h : arguments.SameUpTo (· = ·) others) :
    sortedArguments arguments = sortedArguments others := by
  have hlength : arguments.entries.length = others.entries.length := by
    simpa only [Registry.keys, List.length_map] using h.keys_perm.length_eq
  have hcontains : arguments.contains none = others.contains none := by
    rw [Bool.eq_iff_iff, Registry.contains_iff_mem_keys, Registry.contains_iff_mem_keys,
      h.mem_keys_iff]
  unfold sortedArguments
  rw [hlength, hcontains]
  split
  · rfl
  · rename_i hsortable
    have hsorted := h.forall₂_mergeSort
      (fun a b ↦ decide (nameText a.1 ≤ nameText b.1))
      (fun a b ↦ decide (nameText a.1 ≤ nameText b.1))
      (fun a b c hab hbc ↦
        decide_eq_true (le_trans (of_decide_eq_true hab) (of_decide_eq_true hbc)))
      (fun a b ↦ by simpa using le_total (nameText a.1) (nameText b.1))
      (fun a ha b hb hab hba ↦ eq_of_nameText_eq hsortable ha hb
        (le_antisymm (of_decide_eq_true hab) (of_decide_eq_true hba)))
      (fun _ _ _ _ _ _ _ _ ↦ rfl)
    congr 1
    refine List.forall₂_eq_eq_eq ▸ hsorted.imp ?_
    rintro ⟨k, a⟩ ⟨l, b⟩ ⟨hkey, hvalue⟩
    exact Prod.ext hkey hvalue

/-- The same stub method, for an endpoint that is the same up to order. -/
structure StubEndpoint.SameUpToOrder (e f : StubEndpoint) : Prop where
  name : e.name = f.name
  httpMethod : e.httpMethod = f.httpMethod
  resource : e.resource.SameUpToOrder f.resource

namespace StubEndpoint.SameUpToOrder

variable {e f : StubEndpoint}

theorem methodLines_eq (h : e.SameUpToOrder f) : e.methodLines = f.methodLines := by
  simp only [StubEndpoint.methodLines, StubEndpoint.constant, h.resource.formatArguments,
    h.resource.requestBody, h.resource.responseType, h.name, h.httpMethod,
    pathParameters_congr h.resource.pathVariables, sortedArguments_congr h.resource.arguments]

theorem constantLine_eq (h : e.SameUpToOrder f) : e.constantLine = f.constantLine := by
  unfold StubEndpoint.constantLine StubEndpoint.constant
  rw [h.name, h.resource.template]

end StubEndpoint.SameUpToOrder

theorem endpointLe_iff {a b : String × Resource} : endpointLe a b = true ↔
    a.2.methodName.getD "" < b.2.methodName.getD "" ∨
      a.2.methodName.getD "" = b.2.methodName.getD "" ∧ a.1 ≤ b.1 := by
  simp [endpointLe]

theorem endpointLe_trans (a b c : String × Resource) (hab : endpointLe a b = true)
    (hbc : endpointLe b c = true) : endpointLe a c = true := by
  rw [endpointLe_iff] at hab hbc ⊢
  rcases hab with hab | ⟨hab, hkey⟩
  · rcases hbc with hbc | ⟨hbc, -⟩
    · exact .inl (hab.trans hbc)
    · exact .inl (hbc ▸ hab)
  · rcases hbc with hbc | ⟨hbc, hkey'⟩
    · exact .inl (hab ▸ hbc)
    · exact .inr ⟨hab.trans hbc, hkey.trans hkey'⟩

theorem endpointLe_total (a b : String × Resource) :
    (endpointLe a b || endpointLe b a) = true := by
  rw [Bool.or_eq_true, endpointLe_iff, endpointLe_iff]
  rcases lt_trichotomy (a.2.methodName.getD "") (b.2.methodName.getD "") with h | h | h
  · exact .inl (.inl h)
  · rcases le_total a.1 b.1 with hkey | hkey
    · exact .inl (.inr ⟨h, hkey⟩)
    · exact .inr (.inr ⟨h.symm, hkey⟩)
  · exact .inr (.inl h)

theorem endpointLe_antisymm {a b : String × Resource} (hab : endpointLe a b = true)
    (hba : endpointLe b a = true) : a.1 = b.1 := by
  rw [endpointLe_iff] at hab hba
  rcases hab with hab | ⟨hab, hkey⟩
  · rcases hba with hba | ⟨hba, -⟩
    · exact absurd hab hba.asymm
    · exact absurd hba hab.ne'
  · rcases hba with hba | ⟨-, hkey'⟩
    · exact absurd hab hba.ne'
    · exact le_antisymm hkey hkey'

namespace Controller

theorem numberEndpoints_congr {endpoints others : List (String × Resource)}
    (h : List.Forall₂ (fun x y ↦ x.1 = y.1 ∧ x.2.SameUpToOrder y.2) endpoints others)
    (used : List String) :
    List.Forall₂ StubEndpoint.SameUpToOrder (numberEndpoints used endpoints)
      (numberEndpoints used others) := by
  induction h generalizing used with
  | nil => exact .nil
  | @cons x y xs ys hxy _ ih =>
    obtain ⟨-, hresource⟩ := hxy
    rw [numberEndpoints.eq_def used (x :: xs), numberEndpoints.eq_def used (y :: ys)]
    simp only [hresource.httpMethod, hresource.methodName]
    split
    · exact .cons ⟨rfl, rfl, hresource⟩ (ih _)
    · exact ih used

namespace SameUpToOrder

variable {c d : Controller}

theorem stubEndpoints (h : c.SameUpToOrder d) :
    List.Forall₂ StubEndpoint.SameUpToOrder c.stubEndpoints d.stubEndpoints := by
  refine numberEndpoints_congr (h.resources.forall₂_mergeSort _ _ endpointLe_trans endpointLe_total
    (fun a _ b _ ↦ endpointLe_antisymm) ?_) []
  intro k l a b a' b' ha hb
  simp only [endpointLe, ha.methodName, hb.methodName]

theorem importLines_eq (h : c.SameUpToOrder d) : importLines c.imports = importLines d.imports := by
  have hperm : (objectMapperImport :: stubImports c.imports).Perm
      (objectMapperImport :: stubImports d.imports) := (h.imports.filter _).cons _
  have hdups : (objectMapperImport :: stubImports c.imports).eraseDups.Perm
      (objectMapperImport :: stubImports d.imports).eraseDups := by
    refine (List.perm_ext_iff_of_nodup (nodup_eraseDups _) (nodup_eraseDups _)).2 fun name ↦ ?_
    rw [List.mem_eraseDups, List.mem_eraseDups, hperm.mem_iff]
  rw [importLines, importLines, sortTexts_eq_of_perm hdups]

theorem stubText_eq (h : c.SameUpToOrder d) (suffixes : Suffixes)
    (packageName simpleName : String) :
    c.stubText suffixes packageName simpleName = d.stubText suffixes packageName simpleName := by
  have hmethods := mapM_eq_of_forall₂ h.stubEndpoints fun _ _ he ↦ he.methodLines_eq
  unfold Controller.stubText
  rw [hmethods, h.importLines_eq]

theorem baseText_eq (h : c.SameUpToOrder d) (suffixes : Suffixes)
    (packageName simpleName : String) :
    c.baseText suffixes packageName simpleName = d.baseText suffixes packageName simpleName := by
  have hconstants : c.stubEndpoints.map StubEndpoint.constantLine =
      d.stubEndpoints.map StubEndpoint.constantLine := by
    refine List.forall₂_eq_eq_eq ▸ ?_
    rw [List.forall₂_map_left_iff, List.forall₂_map_right_iff]
    exact h.stubEndpoints.imp fun _ _ he ↦ he.constantLine_eq
  unfold Controller.baseText
  rw [hconstants]

end SameUpToOrder

end Controller

namespace Model.SameUpToOrder

variable {m n : Model}

theorem sortedControllers (h : m.SameUpToOrder n) :
    List.Forall₂ (fun x y ↦ x.1 = y.1 ∧ x.2.SameUpToOrder y.2) m.sortedControllers
      n.sortedControllers := by
  refine Registry.SameUpTo.forall₂_mergeSort h _ _ ?_ ?_ ?_ fun _ _ _ _ _ _ _ _ ↦ rfl
  · intro a b c hab hbc
    exact decide_eq_true (le_trans (of_decide_eq_true hab) (of_decide_eq_true hbc))
  · intro a b
    simpa using le_total a.1 b.1
  · intro a _ b _ hab hba
    exact le_antisymm (of_decide_eq_true hab) (of_decide_eq_true hba)

theorem stubFiles_eq (h : m.SameUpToOrder n) (suffixes : Suffixes) :
    m.stubFiles suffixes = n.stubFiles suffixes := by
  have hfiles := mapM_eq_of_forall₂ (f := fun x ↦ Model.stubFile suffixes x.1 x.2)
    (g := fun y ↦ Model.stubFile suffixes y.1 y.2) h.sortedControllers (by
      rintro ⟨key, c⟩ ⟨other, d⟩ ⟨hkey, hcontroller⟩
      dsimp only at hkey hcontroller ⊢
      subst hkey
      simp only [Model.stubFile, hcontroller.packageName, hcontroller.stubText_eq])
  unfold Model.stubFiles
  rw [hfiles]

theorem baseFiles_eq (h : m.SameUpToOrder n) (suffixes : Suffixes) :
    m.baseFiles suffixes = n.baseFiles suffixes := by
  unfold Model.baseFiles
  congr 1
  refine List.forall₂_eq_eq_eq ▸ ?_
  rw [List.forall₂_map_left_iff, List.forall₂_map_right_iff]
  refine h.sortedControllers.imp ?_
  rintro ⟨key, c⟩ ⟨other, d⟩ ⟨hkey, hcontroller⟩
  dsimp only at hkey hcontroller ⊢
  subst hkey
  simp only [Model.baseFile, hcontroller.packageName, hcontroller.baseText_eq]

end Model.SameUpToOrder

end EndpointStubs
